/-
Ipmx.Rtp.PacketGrammarTheorems — `parse_rtp_packet` accepts the datagrams of
the grammar and no others.

In one direction the parser is run along the bytes of a reading
(`parseRtpPacket_bytes`). In the other direction an accepted datagram is taken
apart into the bytes of some reading (`exists_bytes_of_parseRtpPacket`); what
the parser returned is then what it returns for that reading.
-/
import Ipmx.Rtp.PacketGrammar
import Ipmx.Rtp.PacketTheorems

namespace Ipmx.Rtp

open Lib

/-! ## Elements -/

theorem header_nibbles (id : Fin 15) (low : Fin 16) :
    UInt8.ofNat (16 * id.val + low.val) >>> 4 = UInt8.ofNat id.val
      ∧ (UInt8.ofNat (16 * id.val + low.val) &&& 0x0F).toNat = low.val
      ∧ UInt8.ofNat id.val ≠ 15
      ∧ (UInt8.ofNat (16 * id.val + low.val) = 0 → id.val = 0 ∧ low.val = 0) := by
  revert id low
  decide

theorem ofNat_eq_captureTimeExtensionId (id : Fin 15) :
    UInt8.ofNat id.val = kCaptureTimeExtensionId ↔ id.val = 1 := by
  revert id
  decide

theorem stop_nibble (low : Fin 16) :
    UInt8.ofNat (240 + low.val) ≠ 0 ∧ UInt8.ofNat (240 + low.val) >>> 4 = 15 := by
  revert low
  decide

theorem nibbles_of_byte (byte : UInt8) :
    byte = UInt8.ofNat (16 * (byte >>> 4).toNat + (byte &&& 0x0F).toNat)
      ∧ (byte >>> 4).toNat < 16 ∧ (byte &&& 0x0F).toNat < 16
      ∧ (byte >>> 4 = 15 → byte = UInt8.ofNat (240 + (byte &&& 0x0F).toNat))
      ∧ (byte >>> 4 ≠ 15 → (byte >>> 4).toNat < 15) := by
  revert byte
  decide +kernel

theorem readU64_append {data : Bytes} (h : data.length = 8) (rest : Bytes) :
    readU64 (data ++ rest) = UInt64.ofNat (BigEndian.decode data) := by
  have hlt : BigEndian.decode data < 2 ^ 64 := by
    have := BigEndian.decode_lt data
    rw [h] at this
    exact this
  rw [← UInt64.toNat_inj, readU64, List.take_left' h, toNat_foldl_shiftIn _ _ 0 rfl,
    UInt64.toNat_ofNat']
  rfl

/-- One turn of the element loop on an item of the grammar. -/
theorem parseExtensionElements_item (fuel : Nat) (item : Option ExtensionElement) (rest : Bytes)
    (captureTimeNs : UInt64) :
    parseExtensionElements (fuel + 1) (itemBytes item ++ rest) captureTimeNs
      = parseExtensionElements fuel rest
          ((item.bind ExtensionElement.captureTime?).getD captureTimeNs) := by
  cases item with
  | none => rfl
  | some element =>
    obtain ⟨id, data, length_pos, length_le, not_padding⟩ := element
    obtain ⟨hid, hlow, hne, hzero⟩ := header_nibbles id ⟨data.length - 1, by omega⟩
    simp only at hid hlow hzero
    have hheader : UInt8.ofNat (16 * id.val + (data.length - 1)) ≠ 0 := by
      intro h
      have hboth := hzero h
      exact not_padding hboth.1 (by omega)
    have hlength : data.length - 1 + 1 = data.length := by omega
    have hcapture := ofNat_eq_captureTimeExtensionId id
    show parseExtensionElements (fuel + 1)
      (UInt8.ofNat (16 * id.val + (data.length - 1)) :: (data ++ rest)) captureTimeNs = _
    rw [parseExtensionElements, if_neg hheader, hid, if_neg hne]
    simp only [hlow, hlength, hcapture]
    rw [if_neg (by simp), List.drop_left]
    congr 1
    by_cases h : id.val = 1 ∧ data.length = 8
    · rw [if_pos h, readU64_append h.2]
      simp [ExtensionElement.captureTime?, h]
    · rw [if_neg h]
      simp [ExtensionElement.captureTime?, h]

theorem parseExtensionElements_stop {fuel : Nat} (stop : Option (Fin 16 × Bytes))
    (hfuel : (stopBytes stop).length ≤ fuel) (captureTimeNs : UInt64) :
    parseExtensionElements fuel (stopBytes stop) captureTimeNs = some captureTimeNs := by
  cases stop with
  | none => cases fuel <;> rfl
  | some stop =>
    obtain ⟨low, ignored⟩ := stop
    obtain ⟨hne, hid⟩ := stop_nibble low
    cases fuel with
    | zero => simp [stopBytes] at hfuel
    | succ fuel => rw [stopBytes, parseExtensionElements, if_neg hne, if_pos hid]

/-- The element loop accepts every sequence and finds its last capture time. -/
theorem parseExtensionElements_sequence (items : List (Option ExtensionElement))
    (stop : Option (Fin 16 × Bytes)) {fuel : Nat}
    (hfuel : (ElementSequence.bytes ⟨items, stop⟩).length ≤ fuel) (captureTimeNs : UInt64) :
    parseExtensionElements fuel (ElementSequence.bytes ⟨items, stop⟩) captureTimeNs
      = some ((ElementSequence.captureTimes ⟨items, stop⟩).getLast?.getD captureTimeNs) := by
  induction items generalizing fuel captureTimeNs with
  | nil => exact parseExtensionElements_stop stop hfuel captureTimeNs
  | cons item items ih =>
    have hbytes : ElementSequence.bytes ⟨item :: items, stop⟩
        = itemBytes item ++ ElementSequence.bytes ⟨items, stop⟩ := by
      simp [ElementSequence.bytes]
    have hpos : 0 < (itemBytes item).length := by
      cases item <;> simp [itemBytes, ExtensionElement.bytes]
    rw [hbytes, List.length_append] at hfuel
    rw [hbytes]
    cases fuel with
    | zero => omega
    | succ fuel =>
      rw [parseExtensionElements_item, ih (by omega)]
      congr 1
      cases hcapture : item.bind ExtensionElement.captureTime? with
      | none => simp [ElementSequence.captureTimes, hcapture]
      | some time => simp [ElementSequence.captureTimes, hcapture, List.getLast?_cons]

/-- A header byte that is neither padding nor the stop is the header of an element. -/
theorem exists_element_of_header {header : UInt8} (hzero : header ≠ 0) (h15 : header >>> 4 ≠ 15)
    {data : Bytes} (hlength : data.length = (header &&& 0x0F).toNat + 1) :
    ∃ element : ExtensionElement, element.bytes = header :: data := by
  obtain ⟨hbyte, -, hlow, -, helement⟩ := nibbles_of_byte header
  let element : ExtensionElement :=
    { id := ⟨(header >>> 4).toNat, helement h15⟩
      data
      length_pos := by omega
      length_le := by omega
      not_padding := by
        intro hid0 hone
        simp only at hid0
        rw [hlength] at hone
        apply hzero
        rw [hbyte, hid0, show (header &&& 0x0F).toNat = 0 by omega]
        rfl }
  have hheader : element.header = header := by
    rw [ExtensionElement.header, hlength, Nat.add_sub_cancel]
    exact hbyte.symm
  exact ⟨element, by rw [ExtensionElement.bytes, hheader]⟩

/-- Whatever the element loop accepts is the bytes of a sequence. -/
theorem exists_sequence_of_parseExtensionElements {fuel : Nat} {bytes : Bytes}
    (hfuel : bytes.length ≤ fuel) {captureTimeNs read : UInt64}
    (h : parseExtensionElements fuel bytes captureTimeNs = some read) :
    ∃ sequence : ElementSequence, sequence.bytes = bytes := by
  induction fuel generalizing bytes captureTimeNs with
  | zero => exact ⟨⟨[], none⟩, (List.eq_nil_of_length_eq_zero (by omega)).symm⟩
  | succ fuel ih =>
    cases bytes with
    | nil => exact ⟨⟨[], none⟩, rfl⟩
    | cons header rest =>
      obtain ⟨-, -, hlow, hstop, -⟩ := nibbles_of_byte header
      rw [List.length_cons] at hfuel
      rw [parseExtensionElements] at h
      split at h
      · rename_i hzero
        obtain ⟨sequence, hsequence⟩ := ih (by omega) h
        refine ⟨⟨none :: sequence.items, sequence.stop⟩, ?_⟩
        rw [hzero, ← hsequence]
        rfl
      · rename_i hzero
        split at h
        · rename_i h15
          exact ⟨⟨[], some (⟨_, hlow⟩, rest)⟩, congrArg (· :: rest) (hstop h15).symm⟩
        · rename_i h15
          simp only at h
          split at h
          · cases h
          · rename_i hfit
            obtain ⟨sequence, hsequence⟩ := ih (by simp; omega) h
            have hlength : (rest.take ((header &&& 0x0F).toNat + 1)).length
                = (header &&& 0x0F).toNat + 1 := by
              rw [List.length_take]
              omega
            obtain ⟨element, helementBytes⟩ := exists_element_of_header hzero h15 hlength
            refine ⟨⟨some element :: sequence.items, sequence.stop⟩, ?_⟩
            calc ElementSequence.bytes ⟨some element :: sequence.items, sequence.stop⟩
                = element.bytes ++ sequence.bytes := by
                  simp [ElementSequence.bytes, itemBytes]
              _ = header :: (rest.take ((header &&& 0x0F).toNat + 1)
                    ++ rest.drop ((header &&& 0x0F).toNat + 1)) := by
                  rw [helementBytes, hsequence]
                  rfl
              _ = header :: rest := by rw [List.take_append_drop]

/-! ## Header extension -/

theorem writeU16_join (a b : UInt8) : writeU16 (a.toUInt16 <<< 8 ||| b.toUInt16) = [a, b] := by
  have h := toNat_readU16 [a, b] 0 (by simp) (by simp) (by simp)
  rw [writeU16_eq]
  show BigEndian.encode 2 (readU16 [a, b] 0 (by simp)).toNat = [a, b]
  rw [h]
  exact BigEndian.encode_decode [a, b]

theorem writeU32_join (a b c d : UInt8) :
    writeU32 (a.toUInt32 <<< 24 ||| b.toUInt32 <<< 16 ||| c.toUInt32 <<< 8 ||| d.toUInt32)
      = [a, b, c, d] := by
  have h := toNat_readU32 [a, b, c, d] 0 (by simp) (by simp) (by simp) (by simp) (by simp)
  rw [writeU32_eq]
  show BigEndian.encode 4 (readU32 [a, b, c, d] 0 (by simp)).toNat = [a, b, c, d]
  rw [h]
  exact BigEndian.encode_decode [a, b, c, d]

/-- The bytes from an offset on are the field read there and what is behind it. -/
theorem drop_eq_writeU16 {bytes : Bytes} {offset : Nat} (h : offset + 2 ≤ bytes.length) :
    bytes.drop offset = writeU16 (readU16 bytes offset h) ++ bytes.drop (offset + 2) := by
  rw [readU16, writeU16_join, List.drop_eq_getElem_cons (by omega),
    List.drop_eq_getElem_cons (show offset + 1 < bytes.length by omega)]
  rfl

theorem drop_eq_writeU32 {bytes : Bytes} {offset : Nat} (h : offset + 4 ≤ bytes.length) :
    bytes.drop offset = writeU32 (readU32 bytes offset h) ++ bytes.drop (offset + 4) := by
  rw [readU32, writeU32_join, List.drop_eq_getElem_cons (by omega),
    List.drop_eq_getElem_cons (show offset + 1 < bytes.length by omega),
    List.drop_eq_getElem_cons (show offset + 1 + 1 < bytes.length by omega),
    List.drop_eq_getElem_cons (show offset + 1 + 1 + 1 < bytes.length by omega)]
  rfl

theorem HeaderExtension.length_bytes (extension : HeaderExtension) :
    extension.bytes.length = 4 + extension.words.toNat * 4 := by
  rw [HeaderExtension.bytes, List.length_append, List.length_append, extension.length_data]
  simp
  omega

/-- The data of an extension is read for what it is. -/
theorem parseExtensionData (data : ExtensionData) :
    (if data.profile = kCaptureTimeExtensionProfile then
        parseExtensionElements data.bytes.length data.bytes 0
      else some 0) = some data.captureTimeNs := by
  cases data with
  | elements sequence =>
    rw [ExtensionData.profile, if_pos rfl]
    exact parseExtensionElements_sequence sequence.items sequence.stop (Nat.le_refl _) 0
  | other profile profile_ne data =>
    rw [ExtensionData.profile, if_neg profile_ne]
    rfl

theorem parseExtension_append {bytes front rest : Bytes} {extension : HeaderExtension}
    {offset : Nat} (hbytes : bytes = front ++ (extension.bytes ++ rest))
    (hoffset : offset = front.length) :
    parseExtension bytes offset
      = some (offset + extension.bytes.length, extension.data.captureTimeNs) := by
  have hlength := extension.length_bytes
  have htotal : bytes.length = offset + (extension.bytes.length + rest.length) := by
    rw [hbytes, hoffset, List.length_append, List.length_append]
  have hprofile : readU16 bytes offset (by omega) = extension.data.profile := by
    have hfront : bytes = front ++ (writeU16 extension.data.profile
        ++ (writeU16 extension.words ++ (extension.data.bytes ++ rest))) := by
      simp [hbytes, HeaderExtension.bytes]
    exact readU16_append hfront hoffset _
  have hwords : readU16 bytes (offset + 2) (by omega) = extension.words := by
    have hfront : bytes = (front ++ writeU16 extension.data.profile)
        ++ (writeU16 extension.words ++ (extension.data.bytes ++ rest)) := by
      simp [hbytes, HeaderExtension.bytes]
    exact readU16_append hfront (by simp [hoffset]) _
  have hdata : (bytes.drop (offset + 4)).take (extension.words.toNat * 4)
      = extension.data.bytes := by
    have hfront : bytes = (front ++ (writeU16 extension.data.profile ++ writeU16 extension.words))
        ++ (extension.data.bytes ++ rest) := by
      simp [hbytes, HeaderExtension.bytes]
    rw [hfront, List.drop_left' (by simp [hoffset]), List.take_left' extension.length_data]
  have hfields := parseExtensionData extension.data
  rw [extension.length_data] at hfields
  rw [parseExtension, dif_neg (by omega)]
  simp only [hprofile, hwords, hdata]
  rw [if_neg (by omega), hlength, ← Nat.add_assoc]
  by_cases h : extension.data.profile = kCaptureTimeExtensionProfile
  · rw [if_pos h] at hfields
    rw [if_pos h, hfields]
  · rw [if_neg h] at hfields
    rw [if_neg h, Option.some.inj hfields]

/-- Where the parser accepts a header extension there is one. -/
theorem exists_extension_of_parseExtension {bytes : Bytes} {offset next : Nat}
    {captureTimeNs : UInt64} (h : parseExtension bytes offset = some (next, captureTimeNs)) :
    ∃ extension : HeaderExtension, bytes.drop offset = extension.bytes ++ bytes.drop next := by
  unfold parseExtension at h
  split at h
  · cases h
  · rename_i hheader
    simp only at h
    split at h
    · cases h
    · rename_i hfit
      have hprofile := drop_eq_writeU16 (show offset + 2 ≤ bytes.length by omega)
      have hwords := drop_eq_writeU16 (show offset + 2 + 2 ≤ bytes.length by omega)
      generalize readU16 bytes offset (by omega) = profile at h hprofile
      generalize readU16 bytes (offset + 2) (by omega) = words at h hfit hwords
      have hsplit := List.take_append_drop (words.toNat * 4) (bytes.drop (offset + 4))
      rw [List.drop_drop] at hsplit
      have hlength : ((bytes.drop (offset + 4)).take (words.toNat * 4)).length
          = words.toNat * 4 := by
        rw [List.length_take, List.length_drop]
        omega
      generalize (bytes.drop (offset + 4)).take (words.toNat * 4) = data at h hsplit hlength
      have hdrop : bytes.drop offset = writeU16 profile ++ (writeU16 words
          ++ (data ++ bytes.drop (offset + 4 + words.toNat * 4))) := by
        rw [hprofile, hwords, hsplit]
      split at h
      · rename_i hcapture
        cases hread : parseExtensionElements (words.toNat * 4) data 0 with
        | none =>
          rw [hread] at h
          cases h
        | some read =>
          rw [hread] at h
          cases h
          obtain ⟨sequence, rfl⟩ :=
            exists_sequence_of_parseExtensionElements (Nat.le_of_eq hlength) hread
          refine ⟨⟨.elements sequence, words, hlength⟩, ?_⟩
          rw [hdrop, hcapture, HeaderExtension.bytes]
          simp [ExtensionData.profile, ExtensionData.bytes]
      · rename_i hcapture
        cases h
        refine ⟨⟨.other profile hcapture data, words, hlength⟩, ?_⟩
        rw [hdrop, HeaderExtension.bytes]
        simp [ExtensionData.profile, ExtensionData.bytes]

/-! ## Padding and the whole datagram -/

theorem firstByte_bits (padding extension : Bool) (csrcCount : Fin 16) :
    let byte : UInt8 := 0x80 ||| (if padding then 0x20 else 0) ||| (if extension then 0x10 else 0)
      ||| UInt8.ofNat csrcCount.val
    byte >>> 6 = 2 ∧ decide (byte &&& 0x20 ≠ 0) = padding ∧ decide (byte &&& 0x10 ≠ 0) = extension
      ∧ (byte &&& 0x0F).toNat = csrcCount.val := by
  revert padding extension csrcCount
  decide

theorem secondByte_bits (marker : Bool) (payloadType : UInt8) (h : payloadType ≤ 127) :
    ((if marker then 0x80 else 0) ||| payloadType) &&& 0x7F = payloadType
      ∧ decide (((if marker then (0x80 : UInt8) else 0) ||| payloadType) &&& 0x80 ≠ 0)
          = marker := by
  revert marker payloadType
  decide +kernel

theorem bits_of_firstByte (byte : UInt8) (h : byte >>> 6 = 2) :
    byte = 0x80 ||| (if decide (byte &&& 0x20 ≠ 0) then 0x20 else 0)
        ||| (if decide (byte &&& 0x10 ≠ 0) then 0x10 else 0)
        ||| UInt8.ofNat (byte &&& 0x0F).toNat
      ∧ (byte &&& 0x0F).toNat < 16 := by
  revert byte
  decide +kernel

theorem bits_of_secondByte (byte : UInt8) :
    byte = (if decide (byte &&& 0x80 ≠ 0) then 0x80 else 0) ||| (byte &&& 0x7F)
      ∧ byte &&& 0x7F ≤ 127 := by
  revert byte
  decide +kernel

theorem Padding.length_bytes (padding : Padding) :
    padding.bytes.length = padding.filler.length + 1 := by
  simp [Padding.bytes]

/-- The payload ends where the padding begins. -/
theorem parsePayloadEnd_append {bytes front : Bytes} {padding : Option Padding} {offset : Nat}
    (hbytes : bytes = front ++ padding.elim [] Padding.bytes) (hoffset : offset ≤ front.length)
    (hne : bytes ≠ []) :
    parsePayloadEnd bytes hne offset padding.isSome = some front.length := by
  subst hbytes
  cases padding with
  | none =>
    show some (front ++ []).length = some front.length
    rw [List.append_nil]
  | some padding =>
    have hle := padding.length_le
    have hlast : (front ++ padding.bytes).getLast hne = UInt8.ofNat (padding.filler.length + 1) := by
      simp [Padding.bytes]
    have htoNat : (UInt8.ofNat (padding.filler.length + 1)).toNat = padding.filler.length + 1 := by
      rw [UInt8.toNat_ofNat', Nat.mod_eq_of_lt (by omega)]
    have hlength : (front ++ padding.bytes).length
        = front.length + (padding.filler.length + 1) := by
      rw [List.length_append, padding.length_bytes]
    show parsePayloadEnd (front ++ padding.bytes) hne offset true = some front.length
    unfold parsePayloadEnd
    rw [if_pos rfl]
    simp only [hlast, htoNat, hlength]
    rw [if_neg (by omega)]
    congr 1
    omega

/-- An area is padding if its last byte is its size. -/
theorem exists_padding_of_getLast {area : Bytes} (hne : area ≠ [])
    (hlast : (area.getLast hne).toNat = area.length) :
    ∃ padding : Padding, area = padding.bytes := by
  rcases List.eq_nil_or_concat area with hnil | ⟨filler, last, hconcat⟩
  · exact absurd hnil hne
  · subst hconcat
    have hsize : last.toNat = filler.length + 1 := by simpa using hlast
    have hlt : last.toNat < 256 := last.toNat_lt
    refine ⟨⟨filler, by omega⟩, ?_⟩
    rw [Padding.bytes, ← hsize, UInt8.ofNat_toNat, List.concat_eq_append]

/-- What the parser cuts off is a padding area. -/
theorem exists_padding_of_parsePayloadEnd {bytes : Bytes} {hne : bytes ≠ []}
    {offset payloadEnd : Nat} {flag : Bool}
    (h : parsePayloadEnd bytes hne offset flag = some payloadEnd) :
    ∃ padding : Option Padding, padding.isSome = flag
      ∧ bytes.drop payloadEnd = padding.elim [] Padding.bytes ∧ payloadEnd ≤ bytes.length := by
  unfold parsePayloadEnd at h
  cases flag with
  | false =>
    cases h
    exact ⟨none, rfl, by simp, Nat.le_refl _⟩
  | true =>
    simp only [if_true] at h
    split at h
    · cases h
    · rename_i hsize
      cases h
      have hlength : (bytes.drop (bytes.length - (bytes.getLast hne).toNat)).length
          = (bytes.getLast hne).toNat := by
        rw [List.length_drop]
        omega
      have hdrop : bytes.drop (bytes.length - (bytes.getLast hne).toNat) ≠ [] := by
        intro hnil
        rw [hnil, List.length_nil] at hlength
        omega
      obtain ⟨padding, harea⟩ := exists_padding_of_getLast hdrop
        (by rw [List.getLast_drop, hlength])
      exact ⟨some padding, rfl, harea, by omega⟩

section Datagram

variable (d : RtpDatagram)

theorem length_fixedHeader : d.fixedHeader.length = 12 := rfl

/-- Where the payload of a reading begins. -/
def payloadOffset : Nat :=
  12 + d.csrcCount.val * 4 + (d.extension.elim [] HeaderExtension.bytes).length

theorem parseExtension_bytes :
    (if d.extension.isSome then parseExtension d.bytes (12 + d.csrcCount.val * 4)
      else some (12 + d.csrcCount.val * 4, 0))
      = some (payloadOffset d, d.packet.captureTimeNs) := by
  unfold payloadOffset RtpDatagram.packet
  cases hextension : d.extension with
  | none => rfl
  | some extension =>
    have hbytes : d.bytes = (d.fixedHeader ++ d.csrcs) ++ (extension.bytes
        ++ (d.payload ++ d.padding.elim [] Padding.bytes)) := by
      rw [RtpDatagram.bytes, hextension, List.append_assoc]
      rfl
    have hoffset : 12 + d.csrcCount.val * 4 = (d.fixedHeader ++ d.csrcs).length := by
      rw [List.length_append, length_fixedHeader, d.length_csrcs]
    exact parseExtension_append hbytes hoffset

/-- A reading of a datagram is what the parser finds in its bytes. -/
theorem parseRtpPacket_bytes : parseRtpPacket d.bytes = some d.packet := by
  obtain ⟨hversion, hpadding, hextension, hcsrcs⟩ :=
    firstByte_bits d.padding.isSome d.extension.isSome d.csrcCount
  obtain ⟨htype, hmarker⟩ := secondByte_bits d.marker d.payloadType d.payloadType_le
  have hpayload : 0 < d.payload.length := List.length_pos_iff.mpr d.payload_ne_nil
  have hfront : d.bytes = (d.fixedHeader ++ (d.csrcs ++ (d.extension.elim [] HeaderExtension.bytes
      ++ d.payload))) ++ d.padding.elim [] Padding.bytes := by
    simp [RtpDatagram.bytes]
  have hlength : (d.fixedHeader ++ (d.csrcs ++ (d.extension.elim [] HeaderExtension.bytes
      ++ d.payload))).length = payloadOffset d + d.payload.length := by
    simp only [List.length_append, length_fixedHeader, d.length_csrcs, payloadOffset]
    omega
  have htotal : payloadOffset d + d.payload.length ≤ d.bytes.length := by
    rw [hfront, List.length_append, hlength]
    omega
  have hoffset : 12 + d.csrcCount.val * 4 ≤ payloadOffset d := by
    unfold payloadOffset
    omega
  have hlong : 12 ≤ d.bytes.length := by omega
  have h0 : d.bytes[0] = d.firstByte := rfl
  have h1 : d.bytes[1] = d.secondByte := rfl
  have hextended := parseExtension_bytes d
  have hcut : (d.bytes.drop (payloadOffset d)).take (payloadOffset d + d.payload.length
      - payloadOffset d) = d.payload := by
    have hbehind : d.bytes = (d.fixedHeader ++ (d.csrcs
        ++ d.extension.elim [] HeaderExtension.bytes)) ++ (d.payload
          ++ d.padding.elim [] Padding.bytes) := by
      simp [RtpDatagram.bytes]
    have hoff : (d.fixedHeader ++ (d.csrcs ++ d.extension.elim [] HeaderExtension.bytes)).length
        = payloadOffset d := by
      simp only [List.length_append, length_fixedHeader, d.length_csrcs, payloadOffset]
      omega
    rw [hbehind, List.drop_left' hoff, Nat.add_sub_cancel_left, List.take_left' rfl]
  have hend := parsePayloadEnd_append hfront
    (show payloadOffset d ≤ _ by rw [hlength]; omega) (List.ne_nil_of_length_pos (by omega))
  rw [hlength] at hend
  unfold parseRtpPacket
  rw [dif_neg (by omega)]
  simp only [h0, h1, RtpDatagram.firstByte, RtpDatagram.secondByte, hversion, hpadding, hextension,
    hcsrcs, hextended, hend, hcut, htype, hmarker]
  have hsequence : readU16 d.bytes 2 (by omega) = d.sequence :=
    @readU16_append _ [d.firstByte, d.secondByte] _ _ _ rfl rfl _
  have htimestamp : readU32 d.bytes 4 (by omega) = d.timestamp :=
    @readU32_append _ ([d.firstByte, d.secondByte] ++ writeU16 d.sequence) _ _ _ rfl rfl _
  have hssrc : readU32 d.bytes 8 (by omega) = d.ssrc :=
    @readU32_append _ ([d.firstByte, d.secondByte] ++ (writeU16 d.sequence
      ++ writeU32 d.timestamp)) _ _ _ rfl rfl _
  rw [if_neg (by simp), if_neg (by omega), if_neg (by omega), hsequence, htimestamp, hssrc]
  rfl

end Datagram

/-- The extension of an accepted datagram, if its extension bit is set. -/
theorem exists_extension_of_bit {bytes : Bytes} {offset next : Nat} {captureTimeNs : UInt64}
    {flag : Bool}
    (h : (if flag then parseExtension bytes offset else some (offset, 0))
      = some (next, captureTimeNs)) :
    ∃ extension : Option HeaderExtension, extension.isSome = flag
      ∧ bytes.drop offset = extension.elim [] HeaderExtension.bytes ++ bytes.drop next := by
  cases flag with
  | false =>
    cases h
    exact ⟨none, rfl, rfl⟩
  | true =>
    obtain ⟨extension, hdrop⟩ := exists_extension_of_parseExtension h
    exact ⟨some extension, rfl, hdrop⟩

/-- The first bytes of a long datagram are two flag bytes and three fields. -/
theorem eq_fields_append {bytes : Bytes} (h : 12 ≤ bytes.length) :
    bytes = [bytes[0], bytes[1]] ++ (writeU16 (readU16 bytes 2 (by omega))
      ++ (writeU32 (readU32 bytes 4 (by omega))
        ++ (writeU32 (readU32 bytes 8 (by omega)) ++ bytes.drop 12))) := by
  have hhead : bytes = [bytes[0], bytes[1]] ++ bytes.drop 2 := by
    rw [List.cons_append, List.cons_append, List.nil_append, ← List.drop_eq_getElem_cons,
      ← List.drop_eq_getElem_cons, List.drop_zero]
  conv_lhs => rw [hhead, drop_eq_writeU16 (show 2 + 2 ≤ bytes.length by omega),
    drop_eq_writeU32 (show 2 + 2 + 4 ≤ bytes.length by omega),
    drop_eq_writeU32 (show 2 + 2 + 4 + 4 ≤ bytes.length by omega)]

/-- The reading of a datagram, from the parts the parser found. -/
theorem exists_bytes_of_parts {bytes : Bytes} (hlong : 12 ≤ bytes.length)
    (hversion : bytes[0] >>> 6 = 2) {csrcCount payloadOffset payloadEnd : Nat}
    (hcount : (bytes[0] &&& 0x0F).toNat = csrcCount) (hcsrcs : 12 + csrcCount * 4 ≤ bytes.length)
    {extension : Option HeaderExtension}
    (hextensionBit : extension.isSome = decide (bytes[0] &&& 0x10 ≠ 0))
    (hextension : bytes.drop (12 + csrcCount * 4)
      = extension.elim [] HeaderExtension.bytes ++ bytes.drop payloadOffset)
    {padding : Option Padding} (hpaddingBit : padding.isSome = decide (bytes[0] &&& 0x20 ≠ 0))
    (hpadding : bytes.drop payloadEnd = padding.elim [] Padding.bytes)
    (hend : payloadEnd ≤ bytes.length) (hpayload : payloadOffset < payloadEnd) :
    ∃ d : RtpDatagram, d.bytes = bytes := by
  obtain ⟨hfirst, hlt⟩ := bits_of_firstByte bytes[0] hversion
  obtain ⟨hsecond, htype⟩ := bits_of_secondByte bytes[1]
  rw [hcount] at hfirst hlt
  rw [← hextensionBit, ← hpaddingBit] at hfirst
  have hcsrcLength : ((bytes.drop 12).take (csrcCount * 4)).length = csrcCount * 4 := by
    rw [List.length_take, List.length_drop]
    omega
  have hpayloadLength : ((bytes.drop payloadOffset).take (payloadEnd - payloadOffset)).length
      = payloadEnd - payloadOffset := by
    rw [List.length_take, List.length_drop]
    omega
  let d : RtpDatagram :=
    { marker := decide (bytes[1] &&& 0x80 ≠ 0)
      payloadType := bytes[1] &&& 0x7F
      payloadType_le := htype
      sequence := readU16 bytes 2 (by omega)
      timestamp := readU32 bytes 4 (by omega)
      ssrc := readU32 bytes 8 (by omega)
      csrcCount := ⟨csrcCount, hlt⟩
      csrcs := (bytes.drop 12).take (csrcCount * 4)
      length_csrcs := hcsrcLength
      extension
      payload := (bytes.drop payloadOffset).take (payloadEnd - payloadOffset)
      payload_ne_nil := List.ne_nil_of_length_pos (by omega)
      padding }
  have hfixed : d.fixedHeader ++ bytes.drop 12 = bytes := by
    have hfirst' : d.firstByte = bytes[0] := hfirst.symm
    have hsecond' : d.secondByte = bytes[1] := hsecond.symm
    rw [RtpDatagram.fixedHeader, hfirst', hsecond']
    exact (eq_fields_append hlong).symm
  have htail : (bytes.drop payloadOffset).take (payloadEnd - payloadOffset)
      ++ padding.elim [] Padding.bytes = bytes.drop payloadOffset := by
    have hsplit := List.take_append_drop (payloadEnd - payloadOffset) (bytes.drop payloadOffset)
    rw [List.drop_drop, show payloadOffset + (payloadEnd - payloadOffset) = payloadEnd by omega,
      hpadding] at hsplit
    exact hsplit
  refine ⟨d, ?_⟩
  calc d.bytes
      = d.fixedHeader ++ ((bytes.drop 12).take (csrcCount * 4)
          ++ (extension.elim [] HeaderExtension.bytes
            ++ ((bytes.drop payloadOffset).take (payloadEnd - payloadOffset)
              ++ padding.elim [] Padding.bytes))) := rfl
    _ = d.fixedHeader ++ ((bytes.drop 12).take (csrcCount * 4)
          ++ bytes.drop (12 + csrcCount * 4)) := by rw [htail, ← hextension]
    _ = d.fixedHeader ++ bytes.drop 12 := by rw [← List.drop_drop, List.take_append_drop]
    _ = bytes := hfixed

/-- An accepted datagram is the bytes of some reading. -/
theorem exists_bytes_of_parseRtpPacket {bytes : Bytes} {packet : ParsedRtpPacket}
    (h : parseRtpPacket bytes = some packet) : ∃ d : RtpDatagram, d.bytes = bytes := by
  unfold parseRtpPacket at h
  split at h
  · cases h
  split at h
  · cases h
  rename_i hlong hversion
  simp only at h
  split at h
  · cases h
  rename_i hcsrcs
  split at h
  · cases h
  rename_i payloadOffset captureTimeNs hextension
  split at h
  · cases h
  rename_i payloadEnd hpadding
  split at h
  · cases h
  rename_i hpayload
  obtain ⟨extension, hextensionBit, hextensionDrop⟩ := exists_extension_of_bit hextension
  obtain ⟨padding, hpaddingBit, hpaddingDrop, hend⟩ := exists_padding_of_parsePayloadEnd hpadding
  exact exists_bytes_of_parts (by omega) (not_not.mp hversion) rfl (by omega) hextensionBit
    hextensionDrop hpaddingBit hpaddingDrop hend (by omega)

/-- `parse_rtp_packet` accepts the datagrams of the grammar, and returns what they say. -/
theorem parseRtpPacket_eq_some_iff (bytes : Bytes) (packet : ParsedRtpPacket) :
    parseRtpPacket bytes = some packet ↔ ∃ d : RtpDatagram, d.bytes = bytes ∧ d.packet = packet := by
  constructor
  · intro h
    obtain ⟨d, rfl⟩ := exists_bytes_of_parseRtpPacket h
    rw [parseRtpPacket_bytes] at h
    exact ⟨d, rfl, Option.some.inj h⟩
  · rintro ⟨d, rfl, rfl⟩
    exact parseRtpPacket_bytes d

end Ipmx.Rtp
