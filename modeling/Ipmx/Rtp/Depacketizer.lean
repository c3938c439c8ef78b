/-
Ipmx.Rtp.Depacketizer — `H264Depacketizer` of `rtp.cpp`.

`push` is cut at the comments of its translation: `beginPacket` is what it
does before it looks at the payload, `storeSingleNal`, `storeStapA` and
`storeFuA` are the three payload branches, `finishPacket` is what follows
them. The limit checks subtract `size_t` values, so they use the wrapping
subtraction.
-/
import Ipmx.Lib.Word64
import Ipmx.Rtp.Packet

namespace Ipmx.Rtp

open H264
open Ipmx.Lib

def kMaximumNalBytes : Nat := 8 * 1024 * 1024
def kMaximumAccessUnitBytes : Nat := 16 * 1024 * 1024
def kMaximumNalsPerAccessUnit : Nat := 256

structure CompletedAccessUnit where
  timestamp : UInt32
  captureTimeNs : UInt64
  annexB : Bytes
deriving DecidableEq, Repr

structure H264Depacketizer where
  active : Bool := false
  fragmented : Bool := false
  damaged : Bool := false
  timestamp : UInt32 := 0
  captureTimeNs : UInt64 := 0
  lastSequence : UInt16 := 0
  accumulatedBytes : Nat := 0
  nals : List NalUnit := []
  fragment : NalUnit := []
deriving DecidableEq, Repr

namespace H264Depacketizer

def startTimestamp (d : H264Depacketizer) (timestamp : UInt32) (captureTimeNs : UInt64) :
    H264Depacketizer :=
  { d with
    active := true, fragmented := false, damaged := false, timestamp, captureTimeNs
    accumulatedBytes := 0, nals := [], fragment := [] }

def reset (d : H264Depacketizer) : H264Depacketizer :=
  { d with
    active := false, fragmented := false, damaged := false
    accumulatedBytes := 0, nals := [], fragment := [] }

/-- The timestamp, capture time and continuity checks before the payload is looked at. -/
def beginPacket (d : H264Depacketizer) (packet : ParsedRtpPacket) : H264Depacketizer :=
  let d := if !d.active ∨ packet.timestamp ≠ d.timestamp
    then d.startTimestamp packet.timestamp packet.captureTimeNs else d
  let d := if d.captureTimeNs = 0 then { d with captureTimeNs := packet.captureTimeNs } else d
  let d := if (d.fragmented ∨ d.nals ≠ []) ∧ d.lastSequence + 1 ≠ packet.sequence
    then { d with damaged := true } else d
  { d with lastSequence := packet.sequence }

/-- The guard the Single NAL and STAP-A branches share: an open fragment is given up. -/
def abandonFragment (d : H264Depacketizer) : H264Depacketizer :=
  if d.fragmented then { d with damaged := true, fragment := [], fragmented := false } else d

def storeSingleNal (d : H264Depacketizer) (payload : Bytes) : H264Depacketizer :=
  let d := d.abandonFragment
  if payload.length > kMaximumNalBytes ∨ d.nals.length ≥ kMaximumNalsPerAccessUnit
      ∨ d.accumulatedBytes > Word64.sub kMaximumAccessUnitBytes payload.length then
    { d with damaged := true }
  else
    { d with
      nals := d.nals ++ [payload], accumulatedBytes := d.accumulatedBytes + payload.length }

/-- The element loop of a STAP-A payload over the bytes from `offset` on. Every round consumes
a length field, so the number of bytes is enough fuel. -/
def storeStapElements : Nat → H264Depacketizer → Bytes → H264Depacketizer
  | 0, d, _ => d
  | _ + 1, d, [] => d
  | _ + 1, d, [_] => { d with damaged := true }
  | fuel + 1, d, high :: low :: rest =>
    let length := ((high.toUInt16 <<< 8) ||| low.toUInt16).toNat
    if length = 0 ∨ length > rest.length ∨ d.nals.length ≥ kMaximumNalsPerAccessUnit
        ∨ d.accumulatedBytes > Word64.sub kMaximumAccessUnitBytes length then
      { d with damaged := true }
    else
      let type := rest.headD 0 &&& 0x1F
      if type = 0 ∨ type ≥ 24 then
        { d with damaged := true }
      else
        storeStapElements fuel
          { d with
            nals := d.nals ++ [rest.take length]
            accumulatedBytes := d.accumulatedBytes + length }
          (rest.drop length)

def storeStapA (d : H264Depacketizer) (payload : Bytes) : H264Depacketizer :=
  let d := d.abandonFragment
  let d := if payload.length = 1 then { d with damaged := true } else d
  storeStapElements payload.length d payload.tail

/-- The FU-A branch on the two header bytes and the fragment data behind them. -/
def storeFuA (d : H264Depacketizer) (indicator header : UInt8) (data : Bytes) :
    H264Depacketizer :=
  let start : Bool := header &&& 0x80 ≠ 0
  let last : Bool := header &&& 0x40 ≠ 0
  let d : H264Depacketizer :=
    if start then
      let d := if d.fragmented then { d with damaged := true } else d
      let d := { d with fragment := [(indicator &&& 0xE0) ||| (header &&& 0x1F)] }
      if data.length > kMaximumNalBytes - 1 then
        { d with damaged := true, fragmented := false }
      else
        { d with fragment := d.fragment ++ data, fragmented := true }
    else if d.fragmented then
      if d.fragment.length > Word64.sub kMaximumNalBytes data.length then
        { d with damaged := true, fragment := [], fragmented := false }
      else
        { d with fragment := d.fragment ++ data }
    else
      { d with damaged := true }
  if last ∧ d.fragmented then
    let d : H264Depacketizer :=
      if d.nals.length ≥ kMaximumNalsPerAccessUnit
          ∨ d.accumulatedBytes > Word64.sub kMaximumAccessUnitBytes d.fragment.length then
        { d with damaged := true }
      else
        { d with
          accumulatedBytes := d.accumulatedBytes + d.fragment.length
          nals := d.nals ++ [d.fragment] }
    { d with fragment := [], fragmented := false }
  else
    d

/-- The dispatch on the payload's NAL type. -/
def storePayload (d : H264Depacketizer) (payload : Bytes) : H264Depacketizer :=
  let nalType := payload.headD 0 &&& 0x1F
  if 1 ≤ nalType ∧ nalType ≤ 23 then
    d.storeSingleNal payload
  else if nalType = 24 then
    d.storeStapA payload
  else
    match payload with
    | indicator :: header :: data =>
      if nalType = 28 then d.storeFuA indicator header data
      else { d with damaged := true }
    | _ => { d with damaged := true }

/-- The marker: an undamaged unit with at least one NAL is returned. -/
def finishPacket (d : H264Depacketizer) (marker : Bool) :
    Option CompletedAccessUnit × H264Depacketizer :=
  if !marker then
    (none, d)
  else
    let d := if d.fragmented then { d with damaged := true } else d
    if d.damaged ∨ d.nals = [] then
      (none, d.reset)
    else
      (some
        { timestamp := d.timestamp, captureTimeNs := d.captureTimeNs
          annexB := buildAnnexB d.nals },
       d.reset)

def push (d : H264Depacketizer) (packet : ParsedRtpPacket) :
    Option CompletedAccessUnit × H264Depacketizer :=
  if packet.payloadType ≠ kH264PayloadType ∨ packet.payload = [] then
    (none, d)
  else
    ((d.beginPacket packet).storePayload packet.payload).finishPacket packet.marker

/-- One datagram through `parse_rtp_packet` and, if it parses, `push`: the outer `none` is a
datagram that does not parse. -/
def receive (d : H264Depacketizer) (datagram : Bytes) :
    Option (Option CompletedAccessUnit) × H264Depacketizer :=
  match parseRtpPacket datagram with
  | none => (none, d)
  | some packet =>
    let (result, d) := d.push packet
    (some result, d)

/-- The same for a sequence of datagrams, with the result of each. -/
def receiveAll (d : H264Depacketizer) :
    List Bytes → List (Option (Option CompletedAccessUnit)) × H264Depacketizer
  | [] => ([], d)
  | datagram :: datagrams =>
    let (result, d) := d.receive datagram
    let (results, d) := d.receiveAll datagrams
    (result :: results, d)

/-- The access units returned over a sequence of datagrams. -/
def returned (d : H264Depacketizer) (datagrams : List Bytes) : List CompletedAccessUnit :=
  (d.receiveAll datagrams).1.filterMap Option.join

end H264Depacketizer
end Ipmx.Rtp
