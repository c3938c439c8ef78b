/-
Ipmx.Rtcp.CheckedInspect — `inspect_ipmx_rtcp_compound` with every read of the
packet checked.

The conditions are taken apart where the source stops at the first operand that
decides them, so a byte is read here only if it is read there; a read of a byte
the packet does not have fails with `outOfRange`, as in `Rtp.CheckedParse`.
`inspectIpmxRtcpCompoundChecked_eq` is the connection to `Rtcp.Inspect`.
-/
import Ipmx.Rtcp.Inspect
import Ipmx.Rtp.CheckedParse

namespace Ipmx.Rtcp

open Rtp

/-! ## Definitions -/

/-- `read_u16`. -/
def checkedReadU16 (input : Bytes) (offset : Nat) : Checked UInt16 :=
  if offset + 2 > input.length then
    return 0
  else
    Rtp.checkedU16 input offset

/-- `read_u32`. -/
def checkedReadU32 (input : Bytes) (offset : Nat) : Checked UInt32 :=
  if offset + 4 > input.length then
    return 0
  else
    Rtp.checkedU32 input offset

def checkedMediaBlocks (packet : Bytes) (senderReportBytes mediaOffset : Nat)
    (result : IpmxRtcpInspection) : Checked (IpmxRtcpInspection × Option Nat) :=
  if mediaOffset + 4 ≤ senderReportBytes then do
    let type ← checkedReadU16 packet mediaOffset
    let words ← checkedReadU16 packet (mediaOffset + 2)
    let blockBytes := (words.toNat + 1) * 4
    if blockBytes < 4 ∨ mediaOffset + blockBytes > senderReportBytes then
      return (result, none)
    else
      checkedMediaBlocks packet senderReportBytes (mediaOffset + blockBytes)
        { result with
          compressedVideoInfo := result.compressedVideoInfo || type == 0x0005
          h264Info := result.h264Info || type == 0x000A }
  else
    return (result, some mediaOffset)
termination_by senderReportBytes - mediaOffset

def checkedSdes (packet : Bytes) (senderReportBytes : Nat) : Checked Bool :=
  if packet.length ≥ senderReportBytes + 10 then do
    let first ← byteAt packet senderReportBytes
    if first >>> 6 = 2 then
      let type ← byteAt packet (senderReportBytes + 1)
      if type = 202 then
        let item ← byteAt packet (senderReportBytes + 8)
        if item = 1 then
          let cnameSize ← byteAt packet (senderReportBytes + 9)
          return senderReportBytes + 10 + cnameSize.toNat ≤ packet.length
        else
          return false
      else
        return false
    else
      return false
  else
    return false

/-- The statements behind the checks of the Sender Report's length. -/
def checkedSenderReport (packet : Bytes) (senderReportBytes : Nat) :
    Checked IpmxRtcpInspection := do
  let rtpTimestamp ← checkedReadU32 packet 16
  let packetCount ← checkedReadU32 packet 20
  let octetCount ← checkedReadU32 packet 24
  let tag ← checkedReadU16 packet 28
  let result : IpmxRtcpInspection :=
    { senderReport := true, rtpTimestamp, packetCount, octetCount
      ipmxInfoBlock := tag == 0x5831 }
  if ¬ result.ipmxInfoBlock then
    return result
  else
    let blockVersion ← byteAt packet 32
    let result := { result with blockVersion }
    let words ← checkedReadU16 packet 30
    let ipmxBytes := (words.toNat + 1) * 4
    if 28 + ipmxBytes ≠ senderReportBytes ∨ ipmxBytes < 84 then
      return result
    else
      let (result, mediaOffset) ← checkedMediaBlocks packet senderReportBytes 112 result
      if mediaOffset ≠ some senderReportBytes then
        return result
      else
        let sdesCname ← checkedSdes packet senderReportBytes
        return { result with sdesCname }

def inspectIpmxRtcpCompoundChecked (packet : Bytes) : Checked IpmxRtcpInspection :=
  let result : IpmxRtcpInspection := {}
  if packet.length < 112 then
    return result
  else do
    let first ← byteAt packet 0
    if first >>> 6 ≠ 2 then
      return result
    else
      let second ← byteAt packet 1
      if second ≠ 200 then
        return result
      else
        let words ← checkedReadU16 packet 2
        let senderReportBytes := (words.toNat + 1) * 4
        if senderReportBytes < 108 ∨ senderReportBytes > packet.length then
          return result
        else
          checkedSenderReport packet senderReportBytes

/-! ## Every read is in range -/

theorem byteAt_eq_getD {packet : Bytes} {offset : Nat} (h : offset < packet.length) :
    byteAt packet offset = .ok (packet.getD offset 0) := by
  rw [byteAt_eq h, List.getElem_eq_getD 0]

theorem checkedReadU16_eq (input : Bytes) (offset : Nat) :
    checkedReadU16 input offset = .ok (readU16 input offset) := by
  unfold checkedReadU16 readU16
  by_cases hshort : offset + 2 > input.length
  · rw [if_pos hshort, dif_pos hshort]
    rfl
  · rw [if_neg hshort, dif_neg hshort]
    exact checkedU16_eq (by omega)

theorem checkedReadU32_eq (input : Bytes) (offset : Nat) :
    checkedReadU32 input offset = .ok (readU32 input offset) := by
  unfold checkedReadU32 readU32
  by_cases hshort : offset + 4 > input.length
  · rw [if_pos hshort, dif_pos hshort]
    rfl
  · rw [if_neg hshort, dif_neg hshort]
    exact checkedU32_eq (by omega)

theorem checkedMediaBlocks_eq (packet : Bytes) (senderReportBytes mediaOffset : Nat)
    (result : IpmxRtcpInspection) :
    checkedMediaBlocks packet senderReportBytes mediaOffset result
      = .ok (inspectMediaBlocks packet senderReportBytes mediaOffset result) := by
  induction mediaOffset, result using inspectMediaBlocks.induct packet senderReportBytes with
  | case1 mediaOffset result hroom hdamaged =>
    rw [checkedMediaBlocks, if_pos hroom, checkedReadU16_eq, ok_bind, checkedReadU16_eq, ok_bind,
      inspectMediaBlocks, if_pos hroom, if_pos hdamaged]
    exact if_pos hdamaged
  | case2 mediaOffset result hroom hwhole ih =>
    rw [checkedMediaBlocks, if_pos hroom, checkedReadU16_eq, ok_bind, checkedReadU16_eq, ok_bind,
      inspectMediaBlocks, if_pos hroom, if_neg hwhole]
    exact (if_neg hwhole).trans ih
  | case3 mediaOffset result hroom =>
    rw [checkedMediaBlocks, if_neg hroom, inspectMediaBlocks, if_neg hroom]
    rfl

theorem checkedSdes_eq (packet : Bytes) (senderReportBytes : Nat) :
    checkedSdes packet senderReportBytes = .ok (inspectSdes packet senderReportBytes) := by
  unfold checkedSdes inspectSdes
  by_cases hroom : packet.length ≥ senderReportBytes + 10
  · rw [if_pos hroom, byteAt_eq_getD (by omega), ok_bind, byteAt_eq_getD (by omega), ok_bind,
      byteAt_eq_getD (by omega), ok_bind, byteAt_eq_getD (by omega), ok_bind]
    by_cases hversion : packet.getD senderReportBytes 0 >>> 6 = 2
    · by_cases htype : packet.getD (senderReportBytes + 1) 0 = 202
      · by_cases hitem : packet.getD (senderReportBytes + 8) 0 = 1
        · rw [if_pos hversion, if_pos htype, if_pos hitem, if_pos ⟨hroom, hversion, htype, hitem⟩]
          rfl
        · rw [if_pos hversion, if_pos htype, if_neg hitem, if_neg (fun h => hitem h.2.2.2)]
          rfl
      · rw [if_pos hversion, if_neg htype, if_neg (fun h => htype h.2.2.1)]
        rfl
    · rw [if_neg hversion, if_neg (fun h => hversion h.2.1)]
      rfl
  · rw [if_neg hroom, if_neg (fun h => hroom h.1)]
    rfl

/-- `inspectIpmxRtcpCompound` behind the checks of the Sender Report's length. -/
def inspectSenderReport (packet : Bytes) (senderReportBytes : Nat) : IpmxRtcpInspection :=
  let result : IpmxRtcpInspection :=
    { senderReport := true
      rtpTimestamp := readU32 packet 16
      packetCount := readU32 packet 20
      octetCount := readU32 packet 24
      ipmxInfoBlock := readU16 packet 28 == 0x5831 }
  if ¬ result.ipmxInfoBlock then
    result
  else
    let result := { result with blockVersion := packet.getD 32 0 }
    let ipmxBytes := announcedBytes packet 30
    if 28 + ipmxBytes ≠ senderReportBytes ∨ ipmxBytes < 84 then
      result
    else
      let (result, mediaOffset) := inspectMediaBlocks packet senderReportBytes 112 result
      if mediaOffset ≠ some senderReportBytes then
        result
      else
        { result with sdesCname := inspectSdes packet senderReportBytes }

theorem inspectIpmxRtcpCompound_eq (packet : Bytes) :
    inspectIpmxRtcpCompound packet =
      if packet.length < 112 ∨ packet.getD 0 0 >>> 6 ≠ 2 ∨ packet.getD 1 0 ≠ 200 then
        {}
      else if announcedBytes packet 2 < 108 ∨ announcedBytes packet 2 > packet.length then
        {}
      else
        inspectSenderReport packet (announcedBytes packet 2) := rfl

theorem checkedSenderReport_eq {packet : Bytes} (hlong : ¬ packet.length < 112)
    (senderReportBytes : Nat) :
    checkedSenderReport packet senderReportBytes
      = .ok (inspectSenderReport packet senderReportBytes) := by
  rw [checkedSenderReport, checkedReadU32_eq, ok_bind, checkedReadU32_eq, ok_bind,
    checkedReadU32_eq, ok_bind, checkedReadU16_eq, ok_bind, inspectSenderReport]
  simp only
  by_cases htag : ¬ (readU16 packet 28 == 0x5831) = true
  · rw [if_pos htag, if_pos htag]
    rfl
  rw [if_neg htag, if_neg htag, byteAt_eq_getD (by omega), ok_bind, checkedReadU16_eq, ok_bind]
  by_cases hinfo : 28 + announcedBytes packet 30 ≠ senderReportBytes
      ∨ announcedBytes packet 30 < 84
  · rw [if_pos hinfo]
    exact if_pos hinfo
  rw [if_neg hinfo]
  refine (if_neg hinfo).trans ?_
  rw [checkedMediaBlocks_eq, ok_bind]
  obtain ⟨walked, mediaOffset⟩ := inspectMediaBlocks packet senderReportBytes 112 _
  simp only
  by_cases hend : mediaOffset ≠ some senderReportBytes
  · rw [if_pos hend, if_pos hend]
    rfl
  · rw [if_neg hend, if_neg hend, checkedSdes_eq]
    rfl

/-- No read of `inspect_ipmx_rtcp_compound` is outside the packet. -/
theorem inspectIpmxRtcpCompoundChecked_eq (packet : Bytes) :
    inspectIpmxRtcpCompoundChecked packet = .ok (inspectIpmxRtcpCompound packet) := by
  rw [inspectIpmxRtcpCompound_eq]
  unfold inspectIpmxRtcpCompoundChecked
  by_cases hlong : packet.length < 112
  · rw [if_pos hlong, if_pos (.inl hlong)]
    rfl
  rw [if_neg hlong, byteAt_eq_getD (by omega), ok_bind]
  by_cases hversion : packet.getD 0 0 >>> 6 ≠ 2
  · rw [if_pos hversion, if_pos (.inr (.inl hversion))]
    rfl
  rw [if_neg hversion, byteAt_eq_getD (by omega), ok_bind]
  by_cases htype : packet.getD 1 0 ≠ 200
  · rw [if_pos htype, if_pos (.inr (.inr htype))]
    rfl
  rw [if_neg htype, if_neg (not_or.mpr ⟨hlong, not_or.mpr ⟨hversion, htype⟩⟩), checkedReadU16_eq,
    ok_bind]
  by_cases hfit : announcedBytes packet 2 < 108 ∨ announcedBytes packet 2 > packet.length
  · rw [if_pos hfit]
    exact if_pos hfit
  · rw [if_neg hfit]
    exact (if_neg hfit).trans (checkedSenderReport_eq hlong _)

end Ipmx.Rtcp
