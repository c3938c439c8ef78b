/-
Ipmx.Rtcp.Inspect — `inspect_ipmx_rtcp_compound` of `rtcp.cpp`.

A byte that the source reads behind a size check is read with a default here;
the size checks are those of the source.
-/
import Ipmx.Rtcp.Compound

namespace Ipmx.Rtcp

open Rtp

/-- `read_u16`, 0 beyond the end. -/
def readU16 (input : Bytes) (offset : Nat) : UInt16 :=
  if h : offset + 2 > input.length then 0 else Rtp.readU16 input offset (by omega)

structure IpmxRtcpInspection where
  senderReport : Bool := false
  ipmxInfoBlock : Bool := false
  compressedVideoInfo : Bool := false
  h264Info : Bool := false
  sdesCname : Bool := false
  blockVersion : UInt8 := 0
  rtpTimestamp : UInt32 := 0
  packetCount : UInt32 := 0
  octetCount : UInt32 := 0
deriving DecidableEq, Repr

/-- The size in bytes that the length field at an offset announces. -/
def announcedBytes (packet : Bytes) (offset : Nat) : Nat :=
  ((readU16 packet offset).toNat + 1) * 4

/-- The loop over the media info blocks: what it has found and where it has ended, or no end if
it returned from inside. -/
def inspectMediaBlocks (packet : Bytes) (senderReportBytes mediaOffset : Nat)
    (result : IpmxRtcpInspection) : IpmxRtcpInspection × Option Nat :=
  if mediaOffset + 4 ≤ senderReportBytes then
    if announcedBytes packet (mediaOffset + 2) < 4
        ∨ mediaOffset + announcedBytes packet (mediaOffset + 2) > senderReportBytes then
      (result, none)
    else
      inspectMediaBlocks packet senderReportBytes
        (mediaOffset + announcedBytes packet (mediaOffset + 2))
        { result with
          compressedVideoInfo :=
            result.compressedVideoInfo || readU16 packet mediaOffset == 0x0005
          h264Info := result.h264Info || readU16 packet mediaOffset == 0x000A }
  else
    (result, some mediaOffset)
termination_by senderReportBytes - mediaOffset

/-- The checks of the SDES packet behind the Sender Report. -/
def inspectSdes (packet : Bytes) (senderReportBytes : Nat) : Bool :=
  if packet.length ≥ senderReportBytes + 10 ∧ packet.getD senderReportBytes 0 >>> 6 = 2
      ∧ packet.getD (senderReportBytes + 1) 0 = 202
      ∧ packet.getD (senderReportBytes + 8) 0 = 1 then
    senderReportBytes + 10 + (packet.getD (senderReportBytes + 9) 0).toNat ≤ packet.length
  else
    false

def inspectIpmxRtcpCompound (packet : Bytes) : IpmxRtcpInspection :=
  let result : IpmxRtcpInspection := {}
  if packet.length < 112 ∨ packet.getD 0 0 >>> 6 ≠ 2 ∨ packet.getD 1 0 ≠ 200 then
    result
  else
    let senderReportBytes := announcedBytes packet 2
    if senderReportBytes < 108 ∨ senderReportBytes > packet.length then
      result
    else
      let result := { result with
        senderReport := true
        rtpTimestamp := readU32 packet 16
        packetCount := readU32 packet 20
        octetCount := readU32 packet 24
        ipmxInfoBlock := readU16 packet 28 == 0x5831 }
      if ¬ result.ipmxInfoBlock then
        result
      else
        let result := { result with blockVersion := packet.getD 32 0 }
        let ipmxBytes := announcedBytes packet 30
        if 28 + ipmxBytes ≠ senderReportBytes ∨ ipmxBytes < 84 then
          result
        else
          let (result, mediaOffset) := inspectMediaBlocks packet senderReportBytes 112 result
          if mediaOffset ≠ some senderReportBytes then
            result
          else
            { result with sdesCname := inspectSdes packet senderReportBytes }

end Ipmx.Rtcp
