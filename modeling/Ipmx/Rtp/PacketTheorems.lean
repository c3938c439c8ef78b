/-
Ipmx.Rtp.PacketTheorems — the fields survive writing and reading, and
`parse_rtp_packet` inverts the packet layout of `make_packet`.

`parseRtpPacket_packetBytes` is the round trip of one datagram: whatever the
header fields and the non-empty payload, a packet of payload type at most 127
parses back to exactly them.
-/
import Ipmx.Lib.BigEndian
import Ipmx.Rtp.Packet

namespace Ipmx.Rtp

open Ipmx.Lib

/-! ## Fields as big-endian numerals -/

theorem writeU16_eq (v : UInt16) : writeU16 v = BigEndian.encode 2 v.toNat := by
  simp [writeU16, BigEndian.encode, ← UInt8.toNat_inj, Nat.shiftRight_eq_div_pow]

theorem writeU32_eq (v : UInt32) : writeU32 v = BigEndian.encode 4 v.toNat := by
  simp [writeU32, BigEndian.encode, ← UInt8.toNat_inj, Nat.shiftRight_eq_div_pow]

theorem writeU64_eq (v : UInt64) : writeU64 v = BigEndian.encode 8 v.toNat := by
  simp [writeU64, BigEndian.encode, ← UInt8.toNat_inj, Nat.shiftRight_eq_div_pow]

@[simp] theorem length_writeU16 (v : UInt16) : (writeU16 v).length = 2 := rfl
@[simp] theorem length_writeU32 (v : UInt32) : (writeU32 v).length = 4 := rfl
@[simp] theorem length_writeU64 (v : UInt64) : (writeU64 v).length = 8 := rfl

theorem toNat_readU16 (bytes : Bytes) (offset : Nat) (h : offset + 2 ≤ bytes.length)
    (h0 : offset < bytes.length) (h1 : offset + 1 < bytes.length) :
    (readU16 bytes offset h).toNat
      = BigEndian.decode [bytes[offset], bytes[offset + 1]] := by
  have hb : (bytes[offset + 1]).toNat < 256 := UInt8.toNat_lt _
  have hfit : (bytes[offset]).toNat <<< 8 % 65536 = (bytes[offset]).toNat <<< 8 := by
    have ha : (bytes[offset]).toNat < 256 := UInt8.toNat_lt _
    rw [Nat.shiftLeft_eq]
    exact Nat.mod_eq_of_lt (by omega)
  simp only [readU16, UInt16.toNat_or, UInt16.toNat_shiftLeft, UInt8.toNat_toUInt16]
  simp [hfit, BigEndian.shiftLeft_or_eq _ hb, BigEndian.decode]

theorem toNat_readU32 (bytes : Bytes) (offset : Nat) (h : offset + 4 ≤ bytes.length)
    (h0 : offset < bytes.length) (h1 : offset + 1 < bytes.length)
    (h2 : offset + 2 < bytes.length) (h3 : offset + 3 < bytes.length) :
    (readU32 bytes offset h).toNat
      = BigEndian.decode
          [bytes[offset], bytes[offset + 1], bytes[offset + 2], bytes[offset + 3]] := by
  have hfit : ∀ (b : UInt8) (k : Nat), k ≤ 24 →
      b.toNat <<< k % 4294967296 = b.toNat <<< k := by
    intro b k hk
    have hb : b.toNat < 256 := b.toNat_lt
    have hpow : 2 ^ k ≤ 2 ^ 24 := Nat.pow_le_pow_right (by simp) hk
    rw [Nat.shiftLeft_eq]
    exact Nat.mod_eq_of_lt (by nlinarith)
  simp only [readU32, UInt32.toNat_or, UInt32.toNat_shiftLeft, UInt8.toNat_toUInt32]
  simp [hfit, BigEndian.shiftLeft_or_eq_four (UInt8.toNat_lt _) (UInt8.toNat_lt _)
    (UInt8.toNat_lt _), BigEndian.decode]

/-- One round of the `read_u64` loop. -/
theorem toNat_shiftIn (value : UInt64) (b : UInt8) :
    ((value <<< 8) ||| b.toUInt64).toNat = (value.toNat * 256 + b.toNat) % 2 ^ 64 := by
  have hb : b.toNat < 256 := b.toNat_lt
  rw [← BigEndian.shiftLeft_or_eq _ hb, Nat.or_mod_two_pow]
  simp

theorem toNat_foldl_shiftIn (bytes : Bytes) (value : UInt64) (n : Nat)
    (hv : value.toNat = n % 2 ^ 64) :
    (bytes.foldl (fun (value : UInt64) b => (value <<< 8) ||| b.toUInt64) value).toNat
      = bytes.foldl (fun acc b => acc * 256 + b.toNat) n % 2 ^ 64 := by
  induction bytes generalizing value n with
  | nil => simpa using hv
  | cons b bytes ih =>
    rw [List.foldl_cons, List.foldl_cons]
    apply ih
    rw [toNat_shiftIn, hv]
    omega

theorem readU64_writeU64 (v : UInt64) (rest : Bytes) :
    readU64 (writeU64 v ++ rest) = v := by
  have htake : (writeU64 v ++ rest).take 8 = writeU64 v := List.take_left' rfl
  rw [← UInt64.toNat_inj, readU64, htake, toNat_foldl_shiftIn _ _ 0 rfl, writeU64_eq]
  show BigEndian.decode _ % _ = _
  have hv : v.toNat < 2 ^ 64 := v.toNat_lt
  rw [BigEndian.decode_encode_of_lt (by simpa using hv), Nat.mod_eq_of_lt hv]

/-- The two bytes of `write_u16`, joined again the way `read_u16` joins them. -/
theorem joinU16 (v : UInt16) :
    (v >>> 8).toUInt8.toUInt16 <<< 8 ||| v.toUInt8.toUInt16 = v := by
  have h := toNat_readU16 (writeU16 v) 0 (by simp) (by simp) (by simp)
  rw [← UInt16.toNat_inj]
  refine Eq.trans h ?_
  show BigEndian.decode (writeU16 v) = _
  rw [writeU16_eq, BigEndian.decode_encode_of_lt (by simpa using v.toNat_lt)]

/-- The four bytes of `write_u32`, joined again the way `read_u32` joins them. -/
theorem joinU32 (v : UInt32) :
    (v >>> 24).toUInt8.toUInt32 <<< 24 ||| (v >>> 16).toUInt8.toUInt32 <<< 16
      ||| (v >>> 8).toUInt8.toUInt32 <<< 8 ||| v.toUInt8.toUInt32 = v := by
  have h := toNat_readU32 (writeU32 v) 0 (by simp) (by simp) (by simp) (by simp) (by simp)
  rw [← UInt32.toNat_inj]
  refine Eq.trans h ?_
  show BigEndian.decode (writeU32 v) = _
  rw [writeU32_eq, BigEndian.decode_encode_of_lt (by simpa using v.toNat_lt)]

/-! ## The packet of `make_packet` parses back -/

@[simp] theorem RtpHeader.length_bytes (header : RtpHeader) :
    header.bytes.length = kFullHeaderSize := by
  simp [RtpHeader.bytes, kFullHeaderSize]

@[simp] theorem length_packetBytes (header : RtpHeader) (payload : Bytes) :
    (packetBytes header payload).length = kFullHeaderSize + payload.length := by
  simp [packetBytes]

/-- The extension data of a packet carries exactly the capture time. -/
theorem parseExtensionElements_captureTime (v : UInt64) :
    parseExtensionElements 12 (((kCaptureTimeExtensionId <<< 4) ||| 7) :: (writeU64 v ++ [0, 0, 0])) 0
      = some v := by
  have hread := readU64_writeU64 v [0, 0, 0]
  have hdrop : (writeU64 v ++ [0, 0, 0]).drop 8 = [0, 0, 0] := List.drop_left' rfl
  have h7 : ((((1 : UInt8) <<< 4) ||| 7) &&& 0x0F).toNat + 1 = 8 := by simp
  have hid : (((1 : UInt8) <<< 4) ||| 7) >>> 4 = 1 := by decide
  rw [parseExtensionElements]
  simp only [kCaptureTimeExtensionId, h7, hid, hread, hdrop]
  simp [parseExtensionElements]

/-- A field written at an offset is read there. -/
theorem readU16_of_bytes {bytes : Bytes} {offset : Nat} (h : offset + 2 ≤ bytes.length)
    {v : UInt16} (h0 : bytes[offset]? = some (v >>> 8).toUInt8)
    (h1 : bytes[offset + 1]? = some v.toUInt8) : readU16 bytes offset h = v := by
  obtain ⟨_, hb0⟩ := List.getElem?_eq_some_iff.mp h0
  obtain ⟨_, hb1⟩ := List.getElem?_eq_some_iff.mp h1
  rw [readU16, hb0, hb1, joinU16]

theorem readU32_of_bytes {bytes : Bytes} {offset : Nat} (h : offset + 4 ≤ bytes.length)
    {v : UInt32} (h0 : bytes[offset]? = some (v >>> 24).toUInt8)
    (h1 : bytes[offset + 1]? = some (v >>> 16).toUInt8)
    (h2 : bytes[offset + 2]? = some (v >>> 8).toUInt8)
    (h3 : bytes[offset + 3]? = some v.toUInt8) : readU32 bytes offset h = v := by
  obtain ⟨_, hb0⟩ := List.getElem?_eq_some_iff.mp h0
  obtain ⟨_, hb1⟩ := List.getElem?_eq_some_iff.mp h1
  obtain ⟨_, hb2⟩ := List.getElem?_eq_some_iff.mp h2
  obtain ⟨_, hb3⟩ := List.getElem?_eq_some_iff.mp h3
  rw [readU32, hb0, hb1, hb2, hb3, joinU32]

/-- A field written behind other bytes is read there. -/
theorem readU16_append {bytes front rest : Bytes} {offset : Nat} {value : UInt16}
    (hbytes : bytes = front ++ (writeU16 value ++ rest)) (hoffset : offset = front.length)
    (h : offset + 2 ≤ bytes.length) : readU16 bytes offset h = value := by
  subst hbytes hoffset
  apply readU16_of_bytes
  · simp [writeU16]
  · rw [List.getElem?_append_right (by omega)]
    simp [writeU16]

theorem readU32_append {bytes front rest : Bytes} {offset : Nat} {value : UInt32}
    (hbytes : bytes = front ++ (writeU32 value ++ rest)) (hoffset : offset = front.length)
    (h : offset + 4 ≤ bytes.length) : readU32 bytes offset h = value := by
  subst hbytes hoffset
  apply readU32_of_bytes
  · simp [writeU32]
  · rw [List.getElem?_append_right (by omega)]
    simp [writeU32]
  · rw [List.getElem?_append_right (by omega)]
    simp [writeU32]
  · rw [List.getElem?_append_right (by omega)]
    simp [writeU32]

/-- The extension of a packet: read in full, it ends where the payload begins. -/
theorem parseExtension_packetBytes (header : RtpHeader) (payload : Bytes) :
    parseExtension (packetBytes header payload) 12
      = some (kFullHeaderSize, header.captureTimeNs) := by
  have hlen : ¬ 12 + 4 > (packetBytes header payload).length := by
    simp only [length_packetBytes, kFullHeaderSize]; omega
  have hprofile : readU16 (packetBytes header payload) 12 (by omega)
      = kCaptureTimeExtensionProfile := readU16_of_bytes _ rfl rfl
  have hwords : readU16 (packetBytes header payload) (12 + 2) (by omega) = 3 :=
    readU16_of_bytes _ rfl rfl
  have hdata : ((packetBytes header payload).drop 16).take 12
      = ((kCaptureTimeExtensionId <<< 4) ||| 7)
          :: (writeU64 header.captureTimeNs ++ [0, 0, 0]) := rfl
  have hfit : ¬ (12 + 4 + 12 > (packetBytes header payload).length) := by
    simp only [length_packetBytes, kFullHeaderSize]; omega
  have h3 : (3 : UInt16).toNat * 4 = 12 := rfl
  rw [parseExtension, dif_neg hlen]
  simp only [hprofile, hwords, h3, if_neg hfit, if_true]
  rw [show 12 + 4 = 16 from rfl, hdata, parseExtensionElements_captureTime]
  rfl

/-- **Round trip of one datagram.** -/
theorem parseRtpPacket_packetBytes (header : RtpHeader) (payload : Bytes)
    (htype : header.payloadType ≤ 127) (hpayload : payload ≠ []) :
    parseRtpPacket (packetBytes header payload) =
      some
        { sequence := header.sequence
          timestamp := header.timestamp
          ssrc := header.ssrc
          payloadType := header.payloadType
          marker := header.marker
          captureTimeNs := header.captureTimeNs
          payload := payload } := by
  have hpos : 0 < payload.length := List.length_pos_iff.mpr hpayload
  have hlen : ¬ (packetBytes header payload).length < 12 := by
    simp only [length_packetBytes, kFullHeaderSize]; omega
  have h12 : ¬ 12 > (packetBytes header payload).length := by omega
  have hsize : 1 < (packetBytes header payload).length := by omega
  have h0 : (packetBytes header payload)[0] = 0x90 := rfl
  have h1 : (packetBytes header payload)[1]
      = (if header.marker then 0x80 else 0) ||| header.payloadType := rfl
  have hmarker : ∀ (m : Bool) (t : UInt8), t ≤ 127 →
      ((if m then 0x80 else 0) ||| t) &&& 0x7F = t
        ∧ decide (((if m then (0x80 : UInt8) else 0) ||| t) &&& 0x80 ≠ 0) = m := by
    decide +kernel
  obtain ⟨htypeBits, hmarkerBit⟩ := hmarker header.marker header.payloadType htype
  have hend : ¬ (kFullHeaderSize ≥ (packetBytes header payload).length) := by
    simp only [length_packetBytes]; omega
  have hpay : ((packetBytes header payload).drop kFullHeaderSize).take
      ((packetBytes header payload).length - kFullHeaderSize) = payload := by
    rw [packetBytes, List.drop_left' header.length_bytes]
    simp
  have hversion : ¬ ((0x90 : UInt8) >>> 6 ≠ 2) := by decide
  have hextension : decide ((0x90 : UInt8) &&& 0x10 ≠ 0) = true := by decide
  have hpadding : decide ((0x90 : UInt8) &&& 0x20 ≠ 0) = false := by decide
  have hcsrc : 12 + ((0x90 : UInt8) &&& 0x0F).toNat * 4 = 12 := by simp
  rw [parseRtpPacket, dif_neg hlen]
  simp only [h0, h1, if_neg hversion, hextension, hpadding, hcsrc, if_neg h12, if_true,
    parseExtension_packetBytes, parsePayloadEnd, Bool.false_eq_true, if_false, if_neg hend,
    hpay, htypeBits, hmarkerBit]
  rw [readU16_of_bytes (v := header.sequence) _ rfl rfl,
    readU32_of_bytes (v := header.timestamp) _ rfl rfl rfl rfl,
    readU32_of_bytes (v := header.ssrc) _ rfl rfl rfl rfl]

end Ipmx.Rtp
