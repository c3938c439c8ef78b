/-
Ipmx.Rtp.CheckedPush — `H264Depacketizer::push` with every subtraction and every
read of the payload checked.

A limit is subtracted from only behind the operands that the source evaluates
first, and the STAP-A loop keeps the offsets of the source. A subtraction that
would wrap, or a byte the payload does not have, is `none`, which nothing catches.
The connection to `Rtp.Depacketizer` is in `Rtp.BoundedState`.
-/
import Ipmx.Rtp.Depacketizer

namespace Ipmx.Rtp

open H264
open Ipmx.Lib

namespace H264Depacketizer

def storeSingleNalChecked (d : H264Depacketizer) (payload : Bytes) : Option H264Depacketizer :=
  let d := d.abandonFragment
  if payload.length > kMaximumNalBytes ∨ d.nals.length ≥ kMaximumNalsPerAccessUnit then
    some { d with damaged := true }
  else do
    let room ← Word64.checkedSub kMaximumAccessUnitBytes payload.length
    if d.accumulatedBytes > room then
      return { d with damaged := true }
    else
      return { d with
        nals := d.nals ++ [payload], accumulatedBytes := d.accumulatedBytes + payload.length }

/-- The element loop of a STAP-A payload from `offset` on. -/
def storeStapElementsChecked (payload : Bytes) (d : H264Depacketizer) (offset : Nat) :
    Option H264Depacketizer :=
  if offset < payload.length then do
    let left ← Word64.checkedSub payload.length offset
    if left < 2 then
      return { d with damaged := true }
    else
      let high ← payload[offset]?
      let low ← payload[offset + 1]?
      let length := ((high.toUInt16 <<< 8) ||| low.toUInt16).toNat
      let left ← Word64.checkedSub payload.length (offset + 2)
      if length = 0 ∨ length > left ∨ d.nals.length ≥ kMaximumNalsPerAccessUnit then
        return { d with damaged := true }
      else
        let room ← Word64.checkedSub kMaximumAccessUnitBytes length
        if d.accumulatedBytes > room then
          return { d with damaged := true }
        else
          let header ← payload[offset + 2]?
          let type := header &&& 0x1F
          if type = 0 ∨ type ≥ 24 then
            return { d with damaged := true }
          else
            storeStapElementsChecked payload
              { d with
                nals := d.nals ++ [(payload.drop (offset + 2)).take length]
                accumulatedBytes := d.accumulatedBytes + length }
              (offset + 2 + length)
  else
    some d
termination_by payload.length - offset

def storeStapAChecked (d : H264Depacketizer) (payload : Bytes) : Option H264Depacketizer :=
  let d := d.abandonFragment
  let d := if payload.length = 1 then { d with damaged := true } else d
  storeStapElementsChecked payload d 1

/-- What the FU-A branch does before it looks at the end bit. -/
def takeFragmentChecked (d : H264Depacketizer) (indicator header : UInt8) (payload : Bytes) :
    Option H264Depacketizer :=
  if header &&& 0x80 ≠ 0 then do
    let d := if d.fragmented then { d with damaged := true } else d
    let d := { d with fragment := [(indicator &&& 0xE0) ||| (header &&& 0x1F)] }
    let size ← Word64.checkedSub payload.length 2
    let room ← Word64.checkedSub kMaximumNalBytes 1
    if size > room then
      return { d with damaged := true, fragmented := false }
    else
      return { d with fragment := d.fragment ++ payload.drop 2, fragmented := true }
  else if d.fragmented then do
    let fragmentBytes ← Word64.checkedSub payload.length 2
    let room ← Word64.checkedSub kMaximumNalBytes fragmentBytes
    if d.fragment.length > room then
      return { d with damaged := true, fragment := [], fragmented := false }
    else
      return { d with fragment := d.fragment ++ payload.drop 2 }
  else
    some { d with damaged := true }

/-- What it does on the end bit of an open fragment. -/
def closeFragmentChecked (d : H264Depacketizer) : Option H264Depacketizer :=
  if d.nals.length ≥ kMaximumNalsPerAccessUnit then
    some { d with damaged := true, fragment := [], fragmented := false }
  else do
    let room ← Word64.checkedSub kMaximumAccessUnitBytes d.fragment.length
    if d.accumulatedBytes > room then
      return { d with damaged := true, fragment := [], fragmented := false }
    else
      return { d with
        accumulatedBytes := d.accumulatedBytes + d.fragment.length
        nals := d.nals ++ [d.fragment], fragment := [], fragmented := false }

def storeFuAChecked (d : H264Depacketizer) (indicator header : UInt8) (payload : Bytes) :
    Option H264Depacketizer := do
  let d ← d.takeFragmentChecked indicator header payload
  if header &&& 0x40 ≠ 0 ∧ d.fragmented then
    d.closeFragmentChecked
  else
    return d

def storePayloadChecked (d : H264Depacketizer) (payload : Bytes) : Option H264Depacketizer := do
  let indicator ← payload[0]?
  let nalType := indicator &&& 0x1F
  if 1 ≤ nalType ∧ nalType ≤ 23 then
    d.storeSingleNalChecked payload
  else if nalType = 24 then
    d.storeStapAChecked payload
  else if nalType = 28 ∧ payload.length ≥ 2 then
    let header ← payload[1]?
    d.storeFuAChecked indicator header payload
  else
    return { d with damaged := true }

def pushChecked (d : H264Depacketizer) (packet : ParsedRtpPacket) :
    Option (Option CompletedAccessUnit × H264Depacketizer) :=
  if packet.payloadType ≠ kH264PayloadType ∨ packet.payload = [] then
    some (none, d)
  else do
    let d ← (d.beginPacket packet).storePayloadChecked packet.payload
    return d.finishPacket packet.marker

end H264Depacketizer
end Ipmx.Rtp
