/-
Ipmx.Rtp.CheckedParse — `parse_rtp_packet` with every read of the datagram
checked.

`parseRtpPacket` walks the extension as a list. Here the same statements are
kept with the offsets of the source, and a read of a byte the datagram does not
have fails with `outOfRange`, which nothing catches. `parseRtpPacketChecked_eq`
is the connection: the two agree, so no such read is ever made.
-/
import Ipmx.Rtp.PacketGrammarTheorems

namespace Ipmx.Rtp

/-! ## Definitions -/

inductive ReadError where
  | outOfRange
deriving DecidableEq, Repr

abbrev Checked := Except ReadError

/-- `bytes[offset]`. -/
def byteAt (bytes : Bytes) (offset : Nat) : Checked UInt8 :=
  match bytes[offset]? with
  | some byte => .ok byte
  | none => .error .outOfRange

def checkedU16 (bytes : Bytes) (offset : Nat) : Checked UInt16 := do
  let b0 ← byteAt bytes offset
  let b1 ← byteAt bytes (offset + 1)
  return (b0.toUInt16 <<< 8) ||| b1.toUInt16

def checkedU32 (bytes : Bytes) (offset : Nat) : Checked UInt32 := do
  let b0 ← byteAt bytes offset
  let b1 ← byteAt bytes (offset + 1)
  let b2 ← byteAt bytes (offset + 2)
  let b3 ← byteAt bytes (offset + 3)
  return (b0.toUInt32 <<< 24) ||| (b1.toUInt32 <<< 16) ||| (b2.toUInt32 <<< 8) ||| b3.toUInt32

/-- The loop of `read_u64`, with `count` rounds left. -/
def checkedU64 (bytes : Bytes) : Nat → Nat → UInt64 → Checked UInt64
  | 0, _, value => .ok value
  | count + 1, offset, value => do
    let byte ← byteAt bytes offset
    checkedU64 bytes count (offset + 1) ((value <<< 8) ||| byte.toUInt64)

/-- The element loop from `cursor` to `last`, the `end` of the source. -/
def checkedElements (bytes : Bytes) (last : Nat) :
    Nat → Nat → UInt64 → Checked (Option UInt64)
  | 0, _, captureTimeNs => .ok (some captureTimeNs)
  | fuel + 1, cursor, captureTimeNs =>
    if cursor < last then do
      let header ← byteAt bytes cursor
      let cursor := cursor + 1
      if header = 0 then
        checkedElements bytes last fuel cursor captureTimeNs
      else if header >>> 4 = 15 then
        return some captureTimeNs
      else
        let length := (header &&& 0x0F).toNat + 1
        if cursor + length > last then
          return none
        else
          let captureTimeNs ←
            if header >>> 4 = kCaptureTimeExtensionId ∧ length = 8 then
              checkedU64 bytes 8 cursor 0
            else
              pure captureTimeNs
          checkedElements bytes last fuel (cursor + length) captureTimeNs
    else
      .ok (some captureTimeNs)

def checkedExtension (bytes : Bytes) (payloadOffset : Nat) : Checked (Option (Nat × UInt64)) :=
  if payloadOffset + 4 > bytes.length then
    return none
  else do
    let profile ← checkedU16 bytes payloadOffset
    let words ← checkedU16 bytes (payloadOffset + 2)
    let extensionSize := words.toNat * 4
    let extensionBegin := payloadOffset + 4
    if extensionBegin + extensionSize > bytes.length then
      return none
    else if profile = kCaptureTimeExtensionProfile then
      let captureTimeNs ← checkedElements bytes (extensionBegin + extensionSize) extensionSize
        extensionBegin 0
      return captureTimeNs.map fun time => (extensionBegin + extensionSize, time)
    else
      return some (extensionBegin + extensionSize, 0)

def checkedPayloadEnd (bytes : Bytes) (payloadOffset : Nat) (padding : Bool) :
    Checked (Option Nat) :=
  if padding then do
    let last ← byteAt bytes (bytes.length - 1)
    let paddingSize := last.toNat
    if paddingSize = 0 ∨ paddingSize > bytes.length - payloadOffset then
      return none
    else
      return some (bytes.length - paddingSize)
  else
    return some bytes.length

def parseRtpPacketChecked (bytes : Bytes) : Checked (Option ParsedRtpPacket) :=
  if bytes.length < 12 then
    return none
  else do
    let first ← byteAt bytes 0
    if first >>> 6 ≠ 2 then
      return none
    else
      let padding : Bool := first &&& 0x20 ≠ 0
      let extension : Bool := first &&& 0x10 ≠ 0
      let csrcCount := (first &&& 0x0F).toNat
      let payloadOffset := 12 + csrcCount * 4
      if payloadOffset > bytes.length then
        return none
      else
        match ← (if extension then checkedExtension bytes payloadOffset
                 else return some (payloadOffset, 0)) with
        | none => return none
        | some (payloadOffset, captureTimeNs) =>
          match ← checkedPayloadEnd bytes payloadOffset padding with
          | none => return none
          | some payloadEnd =>
            if payloadOffset ≥ payloadEnd then
              return none
            else
              let sequence ← checkedU16 bytes 2
              let timestamp ← checkedU32 bytes 4
              let ssrc ← checkedU32 bytes 8
              let second ← byteAt bytes 1
              return some
                { sequence, timestamp, ssrc
                  payloadType := second &&& 0x7F
                  marker := second &&& 0x80 ≠ 0
                  captureTimeNs
                  payload := (bytes.drop payloadOffset).take (payloadEnd - payloadOffset) }

/-! ## Every read is in range -/

theorem byteAt_eq {bytes : Bytes} {offset : Nat} (h : offset < bytes.length) :
    byteAt bytes offset = .ok bytes[offset] := by
  rw [byteAt, List.getElem?_eq_getElem h]

theorem checkedU16_eq {bytes : Bytes} {offset : Nat} (h : offset + 2 ≤ bytes.length) :
    checkedU16 bytes offset = .ok (readU16 bytes offset h) := by
  rw [checkedU16, byteAt_eq (by omega), byteAt_eq (by omega)]
  rfl

theorem checkedU32_eq {bytes : Bytes} {offset : Nat} (h : offset + 4 ≤ bytes.length) :
    checkedU32 bytes offset = .ok (readU32 bytes offset h) := by
  rw [checkedU32, byteAt_eq (by omega), byteAt_eq (by omega), byteAt_eq (by omega),
    byteAt_eq (by omega)]
  rfl

theorem ok_bind {α β : Type} (a : α) (next : α → Checked β) :
    ((Except.ok a : Checked α) >>= next) = next a := rfl

theorem checkedU64_eq {bytes : Bytes} {count offset : Nat} (h : offset + count ≤ bytes.length)
    (value : UInt64) :
    checkedU64 bytes count offset value
      = .ok (((bytes.drop offset).take count).foldl
          (fun value b => (value <<< 8) ||| b.toUInt64) value) := by
  induction count generalizing offset value with
  | zero => rfl
  | succ count ih =>
    have hlt : offset < bytes.length := by omega
    rw [checkedU64, byteAt_eq hlt, List.drop_eq_getElem_cons hlt, List.take_succ_cons,
      List.foldl_cons]
    exact ih (by omega) _

/-- The element loop over offsets is the loop over the bytes that are left. -/
theorem checkedElements_eq {bytes : Bytes} {last : Nat} (hlast : last ≤ bytes.length)
    (fuel cursor : Nat) (hcursor : cursor ≤ last) (captureTimeNs : UInt64) :
    checkedElements bytes last fuel cursor captureTimeNs
      = .ok (parseExtensionElements fuel ((bytes.drop cursor).take (last - cursor))
          captureTimeNs) := by
  induction fuel generalizing cursor captureTimeNs with
  | zero => rfl
  | succ fuel ih =>
    by_cases hlt : cursor < last
    · have hbytes : cursor < bytes.length := by omega
      have hhead : (bytes.drop cursor).take (last - cursor)
          = bytes[cursor] :: (bytes.drop (cursor + 1)).take (last - (cursor + 1)) := by
        rw [List.drop_eq_getElem_cons hbytes, show last - cursor = last - (cursor + 1) + 1 by omega,
          List.take_succ_cons]
      have hlength : ((bytes.drop (cursor + 1)).take (last - (cursor + 1))).length
          = last - (cursor + 1) := by
        rw [List.length_take, List.length_drop]
        omega
      rw [checkedElements, if_pos hlt, byteAt_eq hbytes, ok_bind, hhead, parseExtensionElements]
      by_cases hzero : bytes[cursor] = 0
      · rw [if_pos hzero, if_pos hzero]
        exact ih (cursor + 1) (by omega) captureTimeNs
      rw [if_neg hzero, if_neg hzero]
      by_cases hstop : bytes[cursor] >>> 4 = 15
      · rw [if_pos hstop, if_pos hstop]
        rfl
      rw [if_neg hstop, if_neg hstop]
      simp only [hlength]
      by_cases hfit : cursor + 1 + ((bytes[cursor] &&& 0x0F).toNat + 1) > last
      · have hfit' : last - (cursor + 1) < (bytes[cursor] &&& 0x0F).toNat + 1 := by omega
        rw [if_pos hfit, if_pos hfit']
        rfl
      have hfit' : ¬ last - (cursor + 1) < (bytes[cursor] &&& 0x0F).toNat + 1 := by omega
      rw [if_neg hfit, if_neg hfit', List.drop_take, List.drop_drop, Nat.sub_sub]
      by_cases hcapture : bytes[cursor] >>> 4 = kCaptureTimeExtensionId
          ∧ (bytes[cursor] &&& 0x0F).toNat + 1 = 8
      · have hread : checkedU64 bytes 8 (cursor + 1) 0
            = .ok (readU64 ((bytes.drop (cursor + 1)).take (last - (cursor + 1)))) := by
          rw [checkedU64_eq (by omega), readU64, List.take_take, Nat.min_eq_left (by omega)]
        rw [if_pos hcapture, if_pos hcapture, hread, ok_bind]
        exact ih _ (by omega) _
      · rw [if_neg hcapture, if_neg hcapture]
        exact ih _ (by omega) _
    · have hdone : cursor = last := by omega
      rw [checkedElements, if_neg hlt, hdone, Nat.sub_self, List.take_zero, parseExtensionElements]

theorem checkedExtension_eq (bytes : Bytes) (payloadOffset : Nat) :
    checkedExtension bytes payloadOffset = .ok (parseExtension bytes payloadOffset) := by
  by_cases hheader : payloadOffset + 4 > bytes.length
  · rw [checkedExtension, if_pos hheader, parseExtension, dif_pos hheader]
    rfl
  rw [checkedExtension, if_neg hheader, parseExtension, dif_neg hheader,
    checkedU16_eq (by omega), ok_bind, checkedU16_eq (by omega), ok_bind]
  simp only
  generalize readU16 bytes payloadOffset (by omega) = profile
  generalize readU16 bytes (payloadOffset + 2) (by omega) = words
  by_cases hfit : payloadOffset + 4 + words.toNat * 4 > bytes.length
  · rw [if_pos hfit, if_pos hfit]
    rfl
  rw [if_neg hfit, if_neg hfit]
  by_cases hprofile : profile = kCaptureTimeExtensionProfile
  · rw [if_pos hprofile, if_pos hprofile, checkedElements_eq (by omega) _ _ (by omega), ok_bind,
      Nat.add_sub_cancel_left]
    cases parseExtensionElements (words.toNat * 4)
      ((bytes.drop (payloadOffset + 4)).take (words.toNat * 4)) 0 <;> rfl
  · rw [if_neg hprofile, if_neg hprofile]
    rfl

theorem checkedPayloadEnd_eq {bytes : Bytes} (hne : bytes ≠ []) (payloadOffset : Nat)
    (padding : Bool) :
    checkedPayloadEnd bytes payloadOffset padding
      = .ok (parsePayloadEnd bytes hne payloadOffset padding) := by
  have hpos := List.length_pos_iff.mpr hne
  have hlast : byteAt bytes (bytes.length - 1) = .ok (bytes.getLast hne) := by
    rw [byteAt_eq (by omega), List.getLast_eq_getElem]
  unfold checkedPayloadEnd parsePayloadEnd
  cases padding with
  | false => rfl
  | true =>
    rw [if_pos rfl, if_pos rfl, hlast, ok_bind]
    simp only
    split <;> rfl

/-- No read of `parse_rtp_packet` is outside the datagram, and the parser over offsets returns
what the parser over lists does. -/
theorem parseRtpPacketChecked_eq (bytes : Bytes) :
    parseRtpPacketChecked bytes = .ok (parseRtpPacket bytes) := by
  by_cases hlong : bytes.length < 12
  · rw [parseRtpPacketChecked, if_pos hlong, parseRtpPacket, dif_pos hlong]
    rfl
  have hne : bytes ≠ [] := List.ne_nil_of_length_pos (by omega)
  rw [parseRtpPacketChecked, if_neg hlong, parseRtpPacket, dif_neg hlong,
    byteAt_eq (by omega), ok_bind]
  by_cases hversion : bytes[0] >>> 6 ≠ 2
  · rw [if_pos hversion, if_pos hversion]
    rfl
  rw [if_neg hversion, if_neg hversion]
  simp only
  by_cases hcsrcs : 12 + (bytes[0] &&& 0x0F).toNat * 4 > bytes.length
  · rw [if_pos hcsrcs, if_pos hcsrcs]
    rfl
  rw [if_neg hcsrcs, if_neg hcsrcs]
  have hextension : (if decide (bytes[0] &&& 0x10 ≠ 0) = true then
        checkedExtension bytes (12 + (bytes[0] &&& 0x0F).toNat * 4)
      else return some (12 + (bytes[0] &&& 0x0F).toNat * 4, 0))
      = .ok (if decide (bytes[0] &&& 0x10 ≠ 0) = true then
          parseExtension bytes (12 + (bytes[0] &&& 0x0F).toNat * 4)
        else some (12 + (bytes[0] &&& 0x0F).toNat * 4, 0)) := by
    rw [checkedExtension_eq]
    split <;> rfl
  rw [hextension, ok_bind]
  cases (if decide (bytes[0] &&& 0x10 ≠ 0) = true then
      parseExtension bytes (12 + (bytes[0] &&& 0x0F).toNat * 4)
    else some (12 + (bytes[0] &&& 0x0F).toNat * 4, 0)) with
  | none => rfl
  | some found =>
    obtain ⟨payloadOffset, captureTimeNs⟩ := found
    simp only
    rw [checkedPayloadEnd_eq hne, ok_bind]
    cases parsePayloadEnd bytes hne payloadOffset (decide (bytes[0] &&& 0x20 ≠ 0)) with
    | none => rfl
    | some payloadEnd =>
      simp only
      by_cases hpayload : payloadOffset ≥ payloadEnd
      · rw [if_pos hpayload, if_pos hpayload]
        rfl
      · rw [if_neg hpayload, if_neg hpayload, checkedU16_eq (by omega), ok_bind,
          checkedU32_eq (by omega), ok_bind, checkedU32_eq (by omega), ok_bind,
          byteAt_eq (by omega), ok_bind]
        rfl
/-- A datagram is accepted if and only if the grammar has a reading of it, its fields are those
of the reading, and no byte outside it is read on the way. -/
theorem parseRtpPacketChecked_grammar (bytes : Bytes) :
    parseRtpPacketChecked bytes = .ok (parseRtpPacket bytes)
      ∧ ∀ packet : ParsedRtpPacket, parseRtpPacket bytes = some packet ↔
          ∃ d : RtpDatagram, d.bytes = bytes ∧ d.packet = packet := by
  constructor
  · exact parseRtpPacketChecked_eq bytes
  · intro packet
    exact parseRtpPacket_eq_some_iff bytes packet

end Ipmx.Rtp
