/-
Ipmx.H264.SeiTheorems — `parse_h264_sei` is the inverse of the SEI syntax.

A message is read off the front of whatever follows it, so its payload may
look like a trailer, an `ff_byte` or a start code. Only a last byte `0x80`
ends the loop, and no message is one byte long.
-/
import Ipmx.H264.Sei

namespace Ipmx.H264

open Lib

theorem readFfExtended_replicate (count value : Nat) (last : UInt8) (hlast : last ≠ 0xFF) :
    Reads (readFfExtended value) (List.replicate count 0xFF ++ [last])
      (value + 255 * count + last.toNat) := by
  intro rest
  induction count generalizing value with
  | zero => simp [readFfExtended, hlast]
  | succ count ih =>
    have hnext := ih (value + 255)
    rw [List.replicate_succ, List.cons_append, List.cons_append, readFfExtended, if_pos rfl, hnext]
    congr 2
    omega

/-- The `ff_byte` loop reads back what the syntax writes for a number. -/
theorem reads_ffExtended (value : Nat) : Reads (readFfExtended 0) (ffExtended value) value := by
  have hmod : (UInt8.ofNat (value % 255)).toNat = value % 255 := by
    rw [UInt8.toNat_ofNat', Nat.mod_eq_of_lt (by omega)]
  have hlast : UInt8.ofNat (value % 255) ≠ 0xFF := by
    intro h
    rw [h] at hmod
    have hff : (0xFF : UInt8).toNat = 255 := rfl
    omega
  have h := readFfExtended_replicate (value / 255) 0 _ hlast
  rwa [hmod, show 0 + 255 * (value / 255) + value % 255 = value by omega] at h

theorem reads_payload (payload : Bytes) : Reads (readPayload payload.length) payload payload := by
  intro rest
  simp [readPayload]

theorem reads_seiMessage (message : H264SeiMessage) :
    Reads readSeiMessage message.encode message := by
  have hfit : message.payloadType.toNat ≤ 4294967295 := by
    have := message.payloadType.toNat_lt
    omega
  refine (reads_ffExtended _).bind ?_
  refine (reads_ffExtended _).bind ?_
  refine Reads.guard_bind hfit ?_
  refine (reads_payload _).bind_pure ?_
  rw [UInt32.ofNat_toNat]

theorem length_ffExtended_pos (value : Nat) : 0 < (ffExtended value).length := by
  simp [ffExtended]

/-- A message is at least its two numbers, so it is never taken for the trailer. -/
theorem two_le_length_encode (message : H264SeiMessage) : 2 ≤ message.encode.length := by
  have htype := length_ffExtended_pos message.payloadType.toNat
  have hsize := length_ffExtended_pos message.payload.length
  simp only [H264SeiMessage.encode, List.length_append]
  omega

theorem parseSeiMessages_append (message : H264SeiMessage) (rest : Bytes) :
    parseSeiMessages (message.encode ++ rest)
      = (parseSeiMessages rest).map (message :: ·) := by
  have hlength := two_le_length_encode message
  have hcontinues : ¬ (message.encode ++ rest = [] ∨ message.encode ++ rest = [0x80]) := by
    rintro (h | h)
    · have := congrArg List.length h
      simp only [List.length_append, List.length_nil] at this
      omega
    · have := congrArg List.length h
      simp only [List.length_append, List.length_singleton] at this
      omega
  have hread : readSeiMessage (message.encode ++ rest) = some (message, rest) :=
    reads_seiMessage message rest
  rw [parseSeiMessages, if_neg hcontinues]
  split
  · rename_i h
    rw [hread] at h
    cases h
  · rename_i h
    rw [hread] at h
    cases h
    rfl

theorem parseSeiMessages_seiRbsp (messages : List H264SeiMessage) :
    parseSeiMessages (seiRbsp messages) = some messages := by
  induction messages with
  | nil =>
    rw [parseSeiMessages]
    exact if_pos (.inr rfl)
  | cons message messages ih =>
    rw [seiRbsp, List.flatMap_cons, List.append_assoc, parseSeiMessages_append]
    show (parseSeiMessages (seiRbsp messages)).map (message :: ·) = some (message :: messages)
    rw [ih]
    rfl

/-- `parse_h264_sei` returns the messages that were encoded, whatever their types and payloads. -/
theorem parseH264Sei_encodeNal (messages : List H264SeiMessage) (nalRefIdc : Fin 4) :
    parseH264Sei (encodeNal nalRefIdc 6 (seiRbsp messages)) = some messages := by
  have hrbsp : rbspFromNal (encodeNal nalRefIdc 6 (seiRbsp messages)) kH264NalSei
      = some (seiRbsp messages) :=
    rbspFromNal_encodeNal nalRefIdc 6 _
  rw [parseH264Sei, hrbsp]
  exact parseSeiMessages_seiRbsp messages

end Ipmx.H264
