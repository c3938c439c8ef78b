/-
Ipmx.Rtcp.CompoundTheorems — what a compound packet carries.

`makeIpmxRtcpCompound_eq` gives the shape of every compound: the 28 bytes of
the Sender Report header with its length field, the IPMX Info Block with its
own, and the SDES packet. `makeIpmxRtcpCompound_fields` reads the five report
fields back.
-/
import Ipmx.Rtcp.Compound
import Ipmx.Rtp.PacketTheorems

namespace Ipmx.Rtcp

open Rtp
open Ipmx.Lib

/-! ## Patching -/

/-- A patch behind the front part leaves it alone. -/
theorem patchU16_append_right (front back : Bytes) {offset : Nat} (value : UInt16)
    (h : front.length ≤ offset) :
    patchU16 (front ++ back) offset value
      = front ++ patchU16 back (offset - front.length) value := by
  have hnext : offset + 1 - front.length = offset - front.length + 1 := by omega
  simp only [patchU16, List.set_append, if_neg (by omega : ¬ offset < front.length),
    if_neg (by omega : ¬ offset + 1 < front.length), hnext]

/-- A patch inside the front part leaves the rest alone. -/
theorem patchU16_append_left (front back : Bytes) {offset : Nat} (value : UInt16)
    (h : offset + 1 < front.length) :
    patchU16 (front ++ back) offset value = patchU16 front offset value ++ back := by
  simp only [patchU16, List.set_append, List.length_set, if_pos h,
    if_pos (by omega : offset < front.length)]

/-! ## The shape of a compound -/

@[simp] theorem length_senderReportHeader (report : IpmxRtcpSenderReport) :
    (senderReportHeader report).length = 28 := by
  simp [senderReportHeader]

/-- The Sender Report header with its length field. -/
theorem patchU16_senderReportHeader (report : IpmxRtcpSenderReport) (words : UInt16) :
    patchU16 (senderReportHeader report) 2 words
      = [0x80, 200] ++ writeU16 words ++ writeU32 report.ssrc ++ writeU32 report.ptpSeconds
        ++ writeU32 report.ptpNanoseconds ++ writeU32 report.rtpTimestamp
        ++ writeU32 report.packetCount ++ writeU32 report.octetCount := rfl

/-- Every compound is the three parts, each with its length field. -/
theorem makeIpmxRtcpCompound_eq {report : IpmxRtcpSenderReport} {output : Bytes}
    (h : makeIpmxRtcpCompound report = .ok output) :
    ¬ InvalidReport report ∧ ∃ block sdes, ipmxInfoBlock report = .ok block
      ∧ sdesPacket report = .ok sdes ∧ block.length % 4 = 0
      ∧ output = patchU16 (senderReportHeader report) 2
            (UInt16.ofNat ((28 + block.length) / 4 - 1))
          ++ patchU16 block 2 (UInt16.ofNat (block.length / 4 - 1)) ++ sdes := by
  unfold makeIpmxRtcpCompound at h
  obtain ⟨hvalid, h⟩ := rejectIf_bind_eq_ok.mp h
  obtain ⟨block, hblock, h⟩ := bind_eq_ok.mp h
  obtain ⟨halign, h⟩ := rejectIf_bind_eq_ok.mp h
  obtain ⟨_, h⟩ := rejectIf_bind_eq_ok.mp h
  obtain ⟨sdes, hsdes, h⟩ := bind_eq_ok.mp h
  refine ⟨hvalid, block, sdes, hblock, hsdes, not_not.mp halign, ?_⟩
  have houtput := (Except.ok.inj h).symm
  rw [patchU16_append_right _ _ _ (by simp), patchU16_append_left _ _ _ (by simp)] at houtput
  simpa using houtput

/-! ## The report fields -/

theorem readU32_of_bytes {input : Bytes} {offset : Nat} {v : UInt32}
    (h0 : input[offset]? = some (v >>> 24).toUInt8)
    (h1 : input[offset + 1]? = some (v >>> 16).toUInt8)
    (h2 : input[offset + 2]? = some (v >>> 8).toUInt8)
    (h3 : input[offset + 3]? = some v.toUInt8) : readU32 input offset = v := by
  obtain ⟨hlast, _⟩ := List.getElem?_eq_some_iff.mp h3
  rw [readU32, dif_neg (by omega)]
  exact Rtp.readU32_of_bytes _ h0 h1 h2 h3

/-- **The fields of the Sender Report are those of the report.** -/
theorem makeIpmxRtcpCompound_fields {report : IpmxRtcpSenderReport} {output : Bytes}
    (h : makeIpmxRtcpCompound report = .ok output) :
    readU32 output 4 = report.ssrc ∧ readU32 output 8 = report.ptpSeconds
      ∧ readU32 output 12 = report.ptpNanoseconds ∧ readU32 output 16 = report.rtpTimestamp
      ∧ readU32 output 20 = report.packetCount ∧ readU32 output 24 = report.octetCount := by
  obtain ⟨_, block, sdes, _, _, _, rfl⟩ := makeIpmxRtcpCompound_eq h
  rw [patchU16_senderReportHeader]
  simp only [List.append_assoc]
  refine ⟨?_, ?_, ?_, ?_, ?_, ?_⟩ <;> exact readU32_of_bytes rfl rfl rfl rfl

end Ipmx.Rtcp
