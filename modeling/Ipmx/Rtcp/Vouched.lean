/-
Ipmx.Rtcp.Vouched — what the flags of `inspect_ipmx_rtcp_compound` say about the
packet.

The media info blocks are a walk (`Lib.Strides`) from offset 112 up to the end of
the Sender Report. The inspector sets its flags on the way, so they are those of
the blocks the walk has taken, wherever it ends (`inspect_headed`). They speak
for a well-formed compound except in two cases: the walk breaks off behind a
block that has set a flag (`BrokenOff`), and the CNAME item is in the packet but
the length field of the SDES packet, which is never read, leaves it out
(`UncoveredCname`).
-/
import Ipmx.Lib.Strides
import Ipmx.Rtcp.CheckedInspect

namespace Ipmx.Rtcp

open Ipmx.Lib
open Rtp

/-! ## Definitions -/

/-- The size that the media info block at an offset announces. -/
def blockBytes (packet : Bytes) (mediaOffset : Nat) : Nat :=
  announcedBytes packet (mediaOffset + 2)

/-- The media info blocks from offset 112 that end inside the Sender Report. -/
abbrev MediaBlocks (packet : Bytes) (stop : Nat) (starts : List Nat) : Prop :=
  Strides (blockBytes packet) (announcedBytes packet 2) 112 stop starts

/-- One of the blocks has the type. -/
def HasType (packet : Bytes) (starts : List Nat) (type : UInt16) : Prop :=
  ∃ start ∈ starts, readU16 packet start = type

/-- The Sender Report is in the packet, the IPMX Info Block ends with it, and the media info
blocks tile what is left of the Info Block. -/
structure WellFormed (packet : Bytes) (starts : List Nat) : Prop where
  report : announcedBytes packet 2 ≤ packet.length
  info : 28 + announcedBytes packet 30 = announcedBytes packet 2
  blocks : MediaBlocks packet (announcedBytes packet 2) starts

/-- At the offset is an SDES packet whose length field keeps it inside the packet and which
contains a whole CNAME item. -/
structure SdesPacket (packet : Bytes) (offset : Nat) : Prop where
  version : packet.getD offset 0 >>> 6 = 2
  type : packet.getD (offset + 1) 0 = 202
  inside : offset + announcedBytes packet (offset + 2) ≤ packet.length
  item : packet.getD (offset + 8) 0 = 1
  whole : 10 + (packet.getD (offset + 9) 0).toNat ≤ announcedBytes packet (offset + 2)

/-- What the inspector reports is so. -/
structure Vouches (packet : Bytes) (result : IpmxRtcpInspection) : Prop where
  video : result.compressedVideoInfo = true →
    ∃ starts, WellFormed packet starts ∧ HasType packet starts 0x0005
  h264 : result.h264Info = true →
    ∃ starts, WellFormed packet starts ∧ HasType packet starts 0x000A
  cname : result.sdesCname = true →
    (∃ starts, WellFormed packet starts) ∧ SdesPacket packet (announcedBytes packet 2)

/-- The checks in front of the media info blocks are passed. -/
structure Headed (packet : Bytes) : Prop where
  long : 112 ≤ packet.length
  version : packet.getD 0 0 >>> 6 = 2
  type : packet.getD 1 0 = 200
  shortest : 108 ≤ announcedBytes packet 2
  report : announcedBytes packet 2 ≤ packet.length
  tag : readU16 packet 28 = 0x5831
  info : 28 + announcedBytes packet 30 = announcedBytes packet 2
  fixed : 84 ≤ announcedBytes packet 30

/-- Behind media info blocks that fit, one of them of a type with a flag, is a block that runs
past the Sender Report. -/
def BrokenOff (packet : Bytes) : Prop :=
  Headed packet ∧ ∃ stop starts, MediaBlocks packet stop starts
    ∧ stop < announcedBytes packet 2 ∧ announcedBytes packet 2 < stop + blockBytes packet stop
    ∧ (HasType packet starts 0x0005 ∨ HasType packet starts 0x000A)

/-- Behind a Sender Report that is tiled is an SDES packet with a CNAME item that ends inside the
packet, but the length field of the SDES packet leaves part of the item out, or is too large. -/
structure UncoveredCname (packet : Bytes) : Prop where
  headed : Headed packet
  tiled : ∃ starts, MediaBlocks packet (announcedBytes packet 2) starts
  version : packet.getD (announcedBytes packet 2) 0 >>> 6 = 2
  type : packet.getD (announcedBytes packet 2 + 1) 0 = 202
  item : packet.getD (announcedBytes packet 2 + 8) 0 = 1
  fits : announcedBytes packet 2 + (10 + (packet.getD (announcedBytes packet 2 + 9) 0).toNat)
    ≤ packet.length
  uncovered : announcedBytes packet (announcedBytes packet 2 + 2)
      < 10 + (packet.getD (announcedBytes packet 2 + 9) 0).toNat
    ∨ packet.length < announcedBytes packet 2 + announcedBytes packet (announcedBytes packet 2 + 2)

/-! ## The walk over the media info blocks -/

theorem four_dvd_announcedBytes (packet : Bytes) (offset : Nat) :
    4 ∣ announcedBytes packet offset :=
  Nat.dvd_mul_left 4 _

theorem announcedBytes_pos (packet : Bytes) (offset : Nat) : 0 < announcedBytes packet offset := by
  unfold announcedBytes
  omega

section Walk

variable {packet : Bytes} {stop : Nat} {starts : List Nat}

/-- The flags that the blocks of a walk add to a result. -/
def withTypes (packet : Bytes) (starts : List Nat) (result : IpmxRtcpInspection) :
    IpmxRtcpInspection :=
  { result with
    compressedVideoInfo :=
      result.compressedVideoInfo || starts.any fun start => readU16 packet start == 0x0005
    h264Info := result.h264Info || starts.any fun start => readU16 packet start == 0x000A }

theorem any_readU16_iff (packet : Bytes) (starts : List Nat) (type : UInt16) :
    (starts.any fun start => readU16 packet start == type) = true ↔ HasType packet starts type := by
  simp only [List.any_eq_true, beq_iff_eq, HasType]

/-- The loop takes every block of a walk. -/
theorem inspectMediaBlocks_strides {offset senderReportBytes : Nat}
    (h : Strides (blockBytes packet) senderReportBytes offset stop starts)
    (result : IpmxRtcpInspection) :
    inspectMediaBlocks packet senderReportBytes offset result
      = inspectMediaBlocks packet senderReportBytes stop (withTypes packet starts result) := by
  induction h generalizing result with
  | nil offset => simp [withTypes]
  | @cons offset stop starts hfit _ ih =>
    have hsmallest : 4 ≤ blockBytes packet offset :=
      Nat.le_of_dvd (announcedBytes_pos _ _) (four_dvd_announcedBytes _ _)
    have hblock : announcedBytes packet (offset + 2) = blockBytes packet offset := rfl
    rw [inspectMediaBlocks, if_pos (by omega), hblock, if_neg (by omega), ih]
    simp only [withTypes, List.any_cons, Bool.or_assoc]

/-- Where a walk is over, the loop ends: at the end of the Sender Report, or from inside. -/
theorem inspectMediaBlocks_over {offset : Nat} (hoffset : offset ≤ announcedBytes packet 2)
    (haligned : 4 ∣ offset)
    (hover : announcedBytes packet 2 < offset + blockBytes packet offset)
    (result : IpmxRtcpInspection) :
    inspectMediaBlocks packet (announcedBytes packet 2) offset result
      = (result, if offset = announcedBytes packet 2 then some offset else none) := by
  obtain ⟨words, hwords⟩ := four_dvd_announcedBytes packet 2
  have hblock : announcedBytes packet (offset + 2) = blockBytes packet offset := rfl
  by_cases hend : offset = announcedBytes packet 2
  · rw [inspectMediaBlocks, if_neg (by omega), if_pos hend]
  · rw [inspectMediaBlocks, if_pos (by omega), hblock, if_pos (.inr hover), if_neg hend]

/-! ## What the inspector reports -/

/-- The result in front of the media info blocks. -/
def headedResult (packet : Bytes) : IpmxRtcpInspection where
  senderReport := true
  ipmxInfoBlock := true
  blockVersion := packet.getD 32 0
  rtpTimestamp := readU32 packet 16
  packetCount := readU32 packet 20
  octetCount := readU32 packet 24

theorem Headed.le_last (h : Headed packet) (hwalk : MediaBlocks packet stop starts) :
    stop ≤ announcedBytes packet 2 := by
  have hinfo := h.info
  have hfixed := h.fixed
  exact Strides.le_last hwalk (by omega)

/-- The flags are those of the blocks the walk has taken, wherever it is over. -/
theorem inspect_headed (h : Headed packet) (hwalk : MediaBlocks packet stop starts)
    (hover : announcedBytes packet 2 < stop + blockBytes packet stop) :
    inspectIpmxRtcpCompound packet =
      { withTypes packet starts (headedResult packet) with
        sdesCname := decide (stop = announcedBytes packet 2)
          && inspectSdes packet (announcedBytes packet 2) } := by
  have hshortest := h.shortest
  have hinfo := h.info
  have hfixed := h.fixed
  have hchecked : ¬ (packet.length < 112 ∨ packet.getD 0 0 >>> 6 ≠ 2 ∨ packet.getD 1 0 ≠ 200) := by
    rintro (hlong | hversion | htype)
    · exact hlong.not_ge h.long
    · exact hversion h.version
    · exact htype h.type
  have hreport : ¬ (announcedBytes packet 2 < 108 ∨ announcedBytes packet 2 > packet.length) := by
    rintro (hshort | hover)
    · exact hshort.not_ge h.shortest
    · exact hover.not_ge h.report
  have htag : (readU16 packet 28 == 0x5831) = true := beq_iff_eq.mpr h.tag
  have hstop : stop ≤ announcedBytes packet 2 := h.le_last hwalk
  have haligned : 4 ∣ stop := hwalk.dvd (fun _ => four_dvd_announcedBytes _ _) (by decide)
  unfold inspectIpmxRtcpCompound
  simp only
  rw [if_neg hchecked, if_neg hreport, if_neg (not_not.mpr htag),
    if_neg (by omega), inspectMediaBlocks_strides hwalk,
    inspectMediaBlocks_over hstop haligned hover, htag]
  by_cases hend : stop = announcedBytes packet 2
  · simp [hend, withTypes, headedResult]
  · simp [hend, withTypes, headedResult]

/-- A packet that fails a check in front of the blocks gets no flag. -/
theorem inspect_not_headed (h : ¬ Headed packet) :
    (inspectIpmxRtcpCompound packet).compressedVideoInfo = false
      ∧ (inspectIpmxRtcpCompound packet).h264Info = false
      ∧ (inspectIpmxRtcpCompound packet).sdesCname = false := by
  unfold inspectIpmxRtcpCompound
  simp only
  split
  · exact ⟨rfl, rfl, rfl⟩
  rename_i hchecked
  split
  · exact ⟨rfl, rfl, rfl⟩
  rename_i hreport
  split
  · exact ⟨rfl, rfl, rfl⟩
  rename_i htag
  split
  · exact ⟨rfl, rfl, rfl⟩
  rename_i hinfo
  push Not at hchecked hreport
  obtain ⟨hlong, hversion, htype⟩ := hchecked
  refine absurd ?_ h
  exact
    { long := hlong
      version := hversion
      type := htype
      shortest := hreport.1
      report := hreport.2
      tag := beq_iff_eq.mp (not_not.mp htag)
      info := by omega
      fixed := by omega }

theorem inspectSdes_iff (packet : Bytes) (offset : Nat) :
    inspectSdes packet offset = true ↔
      packet.getD offset 0 >>> 6 = 2 ∧ packet.getD (offset + 1) 0 = 202
        ∧ packet.getD (offset + 8) 0 = 1
        ∧ offset + (10 + (packet.getD (offset + 9) 0).toNat) ≤ packet.length := by
  unfold inspectSdes
  constructor
  · intro h
    split at h
    · rename_i hchecks
      have hfits := of_decide_eq_true h
      exact ⟨hchecks.2.1, hchecks.2.2.1, hchecks.2.2.2, by omega⟩
    · exact absurd h Bool.false_ne_true
  · rintro ⟨hversion, htype, hitem, hfits⟩
    rw [if_pos ⟨by omega, hversion, htype, hitem⟩]
    exact decide_eq_true (by omega)

/-- The walk over the media info blocks of every packet, up to where it is over. -/
theorem exists_mediaBlocks (packet : Bytes) :
    ∃ stop starts, MediaBlocks packet stop starts
      ∧ announcedBytes packet 2 < stop + blockBytes packet stop :=
  exists_strides (fun _ => announcedBytes_pos _ _) 112

theorem MediaBlocks.eq_of_tiled {starts' : List Nat} (hwalk : MediaBlocks packet stop starts)
    (hover : announcedBytes packet 2 < stop + blockBytes packet stop)
    (htiled : MediaBlocks packet (announcedBytes packet 2) starts') :
    stop = announcedBytes packet 2 :=
  (hwalk.unique hover htiled (Nat.lt_add_of_pos_right (announcedBytes_pos _ _))).1

/-- The flags of a packet with a walk that is over: those of its blocks, and that of the SDES packet
if the walk ends with the Sender Report. -/
theorem flags_headed (h : Headed packet) (hwalk : MediaBlocks packet stop starts)
    (hover : announcedBytes packet 2 < stop + blockBytes packet stop) :
    ((inspectIpmxRtcpCompound packet).compressedVideoInfo = true ↔ HasType packet starts 0x0005)
      ∧ ((inspectIpmxRtcpCompound packet).h264Info = true ↔ HasType packet starts 0x000A)
      ∧ ((inspectIpmxRtcpCompound packet).sdesCname = true ↔
          stop = announcedBytes packet 2
            ∧ inspectSdes packet (announcedBytes packet 2) = true) := by
  rw [inspect_headed h hwalk hover]
  refine ⟨?_, ?_, ?_⟩
  · simp [withTypes, headedResult, ← any_readU16_iff]
  · simp [withTypes, headedResult, ← any_readU16_iff]
  · simp

/-- Unless it has been broken off, a walk that has set a flag ends with the Sender Report. -/
theorem wellFormed_of_hasType (hbroken : ¬ BrokenOff packet) (h : Headed packet)
    (hwalk : MediaBlocks packet stop starts)
    (hover : announcedBytes packet 2 < stop + blockBytes packet stop)
    (htypes : HasType packet starts 0x0005 ∨ HasType packet starts 0x000A) :
    WellFormed packet starts := by
  have hstop : stop ≤ announcedBytes packet 2 := h.le_last hwalk
  have hend : stop = announcedBytes packet 2 := by
    by_contra hne
    exact hbroken ⟨h, stop, starts, hwalk, by omega, hover, htypes⟩
  exact ⟨h.report, h.info, hend ▸ hwalk⟩

theorem sdesPacket_of_inspectSdes (hcname : ¬ UncoveredCname packet) (h : Headed packet)
    (htiled : MediaBlocks packet (announcedBytes packet 2) starts)
    (hsdes : inspectSdes packet (announcedBytes packet 2) = true) :
    SdesPacket packet (announcedBytes packet 2) := by
  obtain ⟨hversion, htype, hitem, hfits⟩ := (inspectSdes_iff _ _).mp hsdes
  have hcovered : ¬ (announcedBytes packet (announcedBytes packet 2 + 2)
        < 10 + (packet.getD (announcedBytes packet 2 + 9) 0).toNat
      ∨ packet.length
        < announcedBytes packet 2 + announcedBytes packet (announcedBytes packet 2 + 2)) :=
    fun huncovered => hcname ⟨h, ⟨starts, htiled⟩, hversion, htype, hitem, hfits, huncovered⟩
  push Not at hcovered
  exact ⟨hversion, htype, hcovered.2, hitem, hcovered.1⟩

theorem vouches_of_headed (h : Headed packet) (hbroken : ¬ BrokenOff packet)
    (hcname : ¬ UncoveredCname packet) : Vouches packet (inspectIpmxRtcpCompound packet) := by
  obtain ⟨stop, starts, hwalk, hover⟩ := exists_mediaBlocks packet
  obtain ⟨hvideo, hh264, hsdes⟩ := flags_headed h hwalk hover
  constructor
  · intro hflag
    have htype := hvideo.mp hflag
    exact ⟨starts, wellFormed_of_hasType hbroken h hwalk hover (.inl htype), htype⟩
  · intro hflag
    have htype := hh264.mp hflag
    exact ⟨starts, wellFormed_of_hasType hbroken h hwalk hover (.inr htype), htype⟩
  · intro hflag
    obtain ⟨rfl, hitem⟩ := hsdes.mp hflag
    exact ⟨⟨starts, h.report, h.info, hwalk⟩, sdesPacket_of_inspectSdes hcname h hwalk hitem⟩

theorem vouches_of_not_headed (h : ¬ Headed packet) :
    Vouches packet (inspectIpmxRtcpCompound packet) := by
  obtain ⟨hvideo, hh264, hcname⟩ := inspect_not_headed h
  constructor
  · intro hflag
    exact absurd (hvideo.symm.trans hflag) Bool.false_ne_true
  · intro hflag
    exact absurd (hh264.symm.trans hflag) Bool.false_ne_true
  · intro hflag
    exact absurd (hcname.symm.trans hflag) Bool.false_ne_true

theorem BrokenOff.not_vouches (h : BrokenOff packet) :
    ¬ Vouches packet (inspectIpmxRtcpCompound packet) := by
  obtain ⟨hheaded, stop, starts, hwalk, hshort, hover, htypes⟩ := h
  obtain ⟨hvideo, hh264, _⟩ := flags_headed hheaded hwalk hover
  intro hvouches
  have htiled : ∃ starts', WellFormed packet starts' := by
    rcases htypes with htype | htype
    · obtain ⟨starts', hformed, _⟩ := hvouches.video (hvideo.mpr htype)
      exact ⟨starts', hformed⟩
    · obtain ⟨starts', hformed, _⟩ := hvouches.h264 (hh264.mpr htype)
      exact ⟨starts', hformed⟩
  obtain ⟨starts', hformed⟩ := htiled
  have hend := MediaBlocks.eq_of_tiled hwalk hover hformed.blocks
  omega

theorem UncoveredCname.not_vouches (h : UncoveredCname packet) :
    ¬ Vouches packet (inspectIpmxRtcpCompound packet) := by
  obtain ⟨hheaded, ⟨starts, htiled⟩, hversion, htype, hitem, hfits, huncovered⟩ := h
  intro hvouches
  obtain ⟨_, _, hflag⟩ :=
    flags_headed hheaded htiled (Nat.lt_add_of_pos_right (announcedBytes_pos _ _))
  have hfound := (inspectSdes_iff _ _).mpr ⟨hversion, htype, hitem, hfits⟩
  have hsdes := (hvouches.cname (hflag.mpr ⟨rfl, hfound⟩)).2
  rcases huncovered with hwhole | hinside
  · exact hwhole.not_ge hsdes.whole
  · exact hinside.not_ge hsdes.inside

end Walk

/-! ## Packets that are vouched for wrongly -/

/-- A Sender Report with a compressed video block, and a block that is announced as 24 bytes where
the report ends after 4. -/
def brokenOffPacket : Bytes :=
  [0x80, 200, 0, 29] ++ List.replicate 24 0 ++ [0x58, 0x31, 0, 22] ++ List.replicate 80 0
    ++ [0, 5, 0, 0] ++ [0, 0, 0, 5]

/-- A Sender Report with one block, and an SDES packet of 12 bytes that is announced as 4. -/
def uncoveredCnamePacket : Bytes :=
  [0x80, 200, 0, 28] ++ List.replicate 24 0 ++ [0x58, 0x31, 0, 21] ++ List.replicate 80 0
    ++ [0, 5, 0, 0] ++ [0x81, 202, 0, 0] ++ List.replicate 4 0 ++ [1, 1, 0x63, 0]

/-- A walk over one block. -/
theorem mediaBlocks_one {packet : Bytes} {stop : Nat} (hstop : 112 + blockBytes packet 112 = stop)
    (hfit : stop ≤ announcedBytes packet 2) : MediaBlocks packet stop [112] := by
  subst hstop
  exact .cons hfit (.nil _)

theorem brokenOff_brokenOffPacket : BrokenOff brokenOffPacket := by
  have hheaded : Headed brokenOffPacket := by constructor <;> decide +kernel
  have hwalk : MediaBlocks brokenOffPacket 116 [112] :=
    mediaBlocks_one (by decide +kernel) (by decide +kernel)
  have htype : HasType brokenOffPacket [112] 0x0005 := ⟨112, by simp, by decide +kernel⟩
  exact ⟨hheaded, 116, [112], hwalk, by decide +kernel, by decide +kernel, .inl htype⟩

theorem uncoveredCname_uncoveredCnamePacket : UncoveredCname uncoveredCnamePacket := by
  have hheaded : Headed uncoveredCnamePacket := by constructor <;> decide +kernel
  have htiled : MediaBlocks uncoveredCnamePacket (announcedBytes uncoveredCnamePacket 2) [112] :=
    mediaBlocks_one (by decide +kernel) (Nat.le_refl _)
  exact
    { headed := hheaded
      tiled := ⟨[112], htiled⟩
      version := by decide +kernel
      type := by decide +kernel
      item := by decide +kernel
      fits := by decide +kernel
      uncovered := by decide +kernel }

/-- No byte outside a packet is read, and the flags speak for a well-formed compound if and only
if the walk over its blocks has not been broken off and its CNAME is covered. -/
theorem inspectIpmxRtcpCompound_vouches_iff (packet : Bytes) :
    inspectIpmxRtcpCompoundChecked packet = .ok (inspectIpmxRtcpCompound packet)
      ∧ (Vouches packet (inspectIpmxRtcpCompound packet) ↔
          ¬ BrokenOff packet ∧ ¬ UncoveredCname packet) := by
  constructor
  · exact inspectIpmxRtcpCompoundChecked_eq packet
  constructor
  · intro hvouches
    exact ⟨fun h => h.not_vouches hvouches, fun h => h.not_vouches hvouches⟩
  · rintro ⟨hbroken, hcname⟩
    by_cases h : Headed packet
    · exact vouches_of_headed h hbroken hcname
    · exact vouches_of_not_headed h

theorem inspectIpmxRtcpCompound_vouches_wrongly :
    ¬ Vouches brokenOffPacket (inspectIpmxRtcpCompound brokenOffPacket)
      ∧ ¬ Vouches uncoveredCnamePacket (inspectIpmxRtcpCompound uncoveredCnamePacket) :=
  ⟨brokenOff_brokenOffPacket.not_vouches, uncoveredCname_uncoveredCnamePacket.not_vouches⟩

end Ipmx.Rtcp
