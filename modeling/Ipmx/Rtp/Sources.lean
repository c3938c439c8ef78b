/-
Ipmx.Rtp.Sources — which packets a returned access unit is made of, when the
datagrams of any number of senders arrive mixed.

Nothing in `push` looks at the SSRC. What a unit is made of is decided by
timestamps and sequence numbers alone: `CarrierOf` describes a run of packets
that arrive one directly behind the other, and `returned_sources` says that
every unit is carried by such a run. It has one source unless the run crosses
from one to another (`Crosses`), which `returned_crossed` shows to happen.
-/
import Mathlib.Data.List.Sublists
import Ipmx.Rtp.Carriage

namespace Ipmx.Rtp

open H264

/-! ## Runs of packets -/

/-- The packets that `push` does not pass over. -/
def Accepted (packet : ParsedRtpPacket) : Prop :=
  packet.payloadType = kH264PayloadType ∧ packet.payload ≠ []

instance (packet : ParsedRtpPacket) : Decidable (Accepted packet) :=
  inferInstanceAs (Decidable (_ ∧ _))

/-- The accepted packets among what arrives, in the order of arrival. -/
def accepted (datagrams : List Bytes) : List ParsedRtpPacket :=
  (datagrams.filterMap parseRtpPacket).filter (Accepted ·)

/-- A run of packets that carries the unit: one timestamp, consecutive sequence numbers, and
the marker on the last packet only. -/
structure CarrierOf (unit : CompletedAccessUnit) (block : List ParsedRtpPacket) : Prop where
  timestamp : ∀ packet ∈ block, packet.timestamp = unit.timestamp
  consecutive : block.IsChain fun packet next => next.sequence = packet.sequence + 1
  marker : ∃ front last, block = front ++ [last] ∧ last.marker = true
    ∧ ∀ packet ∈ front, packet.marker = false
  carries : ∃ nals, Carries none (block.map (·.payload)) nals ∧ unit.annexB = buildAnnexB nals

/-- The units of `unit` are carried by received packets of one source. -/
def FromOneSource (received : List ParsedRtpPacket) (unit : CompletedAccessUnit) : Prop :=
  ∃ (ssrc : UInt32) (nals : List NalUnit) (block : List ParsedRtpPacket),
    block.Sublist received ∧ (∀ packet ∈ block, packet.ssrc = ssrc)
      ∧ Carries none (block.map (·.payload)) nals ∧ unit.annexB = buildAnnexB nals

/-- A packet of another source that `push` takes for the next one of the same unit. -/
def Crosses (packet next : ParsedRtpPacket) : Prop :=
  packet.ssrc ≠ next.ssrc ∧ next.timestamp = packet.timestamp
    ∧ next.sequence = packet.sequence + 1

/-! ## The invariant -/

/-- An undamaged depacketizer behind the run `front ++ [last]`, before the marker of `last`
is looked at: it has stored what the run carries. -/
structure Inside (d : H264Depacketizer) (front : List ParsedRtpPacket)
    (last : ParsedRtpPacket) : Prop where
  timestamp : ∀ packet ∈ front ++ [last], packet.timestamp = d.timestamp
  consecutive : (front ++ [last]).IsChain fun packet next => next.sequence = packet.sequence + 1
  unmarked : ∀ packet ∈ front, packet.marker = false
  lastSequence : d.lastSequence = last.sequence
  begun : d.fragmented = true ∨ d.nals ≠ []
  carries : ∀ rest more, Carries d.cur rest more →
    Carries none ((front ++ [last]).map (·.payload) ++ rest) (d.nals ++ more)

/-- The state between two packets: what an active and undamaged depacketizer holds is
carried by the latest of the packets received. -/
def Explained (received : List ParsedRtpPacket) (d : H264Depacketizer) : Prop :=
  d.active = true → d.damaged = false →
    ∃ front last, front ++ [last] <:+ received ∧ last.marker = false ∧ Inside d front last

namespace H264Depacketizer

/-- What `beginPacket` makes of an undamaged start: a fresh unit, or the next packet of the
one that is open. -/
theorem beginPacket_cases {d : H264Depacketizer} {packet : ParsedRtpPacket}
    (h : (d.beginPacket packet).damaged = false) :
    (d.beginPacket packet).timestamp = packet.timestamp
      ∧ (d.beginPacket packet).lastSequence = packet.sequence
      ∧ ((d.beginPacket packet).nals = [] ∧ (d.beginPacket packet).fragmented = false
        ∨ d.active = true ∧ d.damaged = false ∧ d.timestamp = packet.timestamp
          ∧ (d.beginPacket packet).nals = d.nals ∧ (d.beginPacket packet).cur = d.cur
          ∧ (d.fragmented = true ∨ d.nals ≠ [] → d.lastSequence + 1 = packet.sequence)) := by
  rcases d.inside_or_outside packet with ⟨hactive, htimestamp⟩ | hrestart
  · rw [beginPacket_follows packet hactive htimestamp] at h ⊢
    simp only [Bool.or_eq_false_iff, decide_eq_false_iff_not, not_and, not_not] at h
    exact ⟨htimestamp, rfl, .inr ⟨hactive, h.1, htimestamp, rfl, rfl, h.2⟩⟩
  · rw [beginPacket_restart packet hrestart]
    exact ⟨rfl, rfl, .inl ⟨rfl, rfl⟩⟩

/-- What `finishPacket` returns and leaves: on a marker the unit is given up or returned. -/
theorem finishPacket_cases (d : H264Depacketizer) (marker : Bool) :
    (marker = false ∧ d.finishPacket marker = (none, d))
      ∨ marker = true ∧ (d.finishPacket marker).2.active = false
        ∧ ∀ unit, (d.finishPacket marker).1 = some unit →
          d.damaged = false ∧ d.fragmented = false
            ∧ unit = ⟨d.timestamp, d.captureTimeNs, buildAnnexB d.nals⟩ := by
  cases marker with
  | false => exact .inl ⟨rfl, rfl⟩
  | true =>
    refine .inr ⟨rfl, ?_⟩
    unfold finishPacket
    simp only [Bool.not_true, Bool.false_eq_true, if_false]
    cases hopen : d.fragmented with
    | true => simp [reset]
    | false =>
      simp only [Bool.false_eq_true, if_false]
      split
      · exact ⟨rfl, by simp⟩
      · next hdone =>
        refine ⟨rfl, ?_⟩
        intro unit hunit
        obtain rfl := Option.some.inj hunit
        simp only [not_or] at hdone
        exact ⟨by simpa using hdone.1, trivial, rfl⟩

end H264Depacketizer

/-! ## One packet -/

theorem H264Depacketizer.Adds.begun {d d' : H264Depacketizer} {payload : Bytes}
    (h : d.Adds d' payload) : d'.fragmented = true ∨ d'.nals ≠ [] := by
  obtain ⟨new, hnals, hnew, _⟩ := h
  rcases hnew with hne | hopen
  · refine .inr ?_
    rw [hnals]
    simp [hne]
  · exact .inl hopen

/-- The first packet of a unit, stored by a depacketizer `b` that holds nothing. -/
theorem Inside.begin {b d : H264Depacketizer} {packet : ParsedRtpPacket}
    (htimestamp : d.timestamp = packet.timestamp) (hlast : d.lastSequence = packet.sequence)
    (hadds : b.Adds d packet.payload) (hnone : b.nals = []) (hclosed : b.fragmented = false) :
    Inside d [] packet := by
  refine ⟨?_, by simp, by simp, hlast, hadds.begun, ?_⟩
  · intro p hp
    obtain rfl := List.mem_singleton.mp hp
    exact htimestamp.symm
  · intro rest more hmore
    obtain ⟨new, hnals, _, hcarries⟩ := hadds
    have hone := hcarries rest more hmore
    rw [H264Depacketizer.cur_of_not_fragmented hclosed] at hone
    rw [hnals, hnone]
    exact hone

/-- The next packet of the unit that `d` is inside, stored by a depacketizer `b` that holds
the same. -/
theorem Inside.extend {d b d' : H264Depacketizer} {front : List ParsedRtpPacket}
    {last packet : ParsedRtpPacket} (h : Inside d front last) (hunmarked : last.marker = false)
    (hnext : d.lastSequence + 1 = packet.sequence) (hsame : d.timestamp = packet.timestamp)
    (htimestamp : d'.timestamp = packet.timestamp) (hlast : d'.lastSequence = packet.sequence)
    (hadds : b.Adds d' packet.payload) (hkept : b.nals = d.nals) (hcur : b.cur = d.cur) :
    Inside d' (front ++ [last]) packet := by
  refine ⟨?_, ?_, ?_, hlast, hadds.begun, ?_⟩
  · intro p hp
    rw [htimestamp, ← hsame]
    rcases List.mem_append.mp hp with hp | hp
    · exact h.timestamp p hp
    · obtain rfl := List.mem_singleton.mp hp
      exact hsame.symm
  · rw [List.append_assoc]
    refine List.isChain_append_cons_cons.mpr ⟨h.consecutive, ?_, by simp⟩
    rw [← hnext, h.lastSequence]
  · intro p hp
    rcases List.mem_append.mp hp with hp | hp
    · exact h.unmarked p hp
    · obtain rfl := List.mem_singleton.mp hp
      exact hunmarked
  · intro rest more hmore
    obtain ⟨new, hnals, _, hcarries⟩ := hadds
    have hone := hcarries rest more hmore
    rw [hcur] at hone
    have hall := h.carries _ _ hone
    rw [hnals, hkept]
    simpa using hall

/-- A packet stored without damage ends a run: the latest packets, or itself alone. -/
theorem Explained.store {received : List ParsedRtpPacket} {d : H264Depacketizer}
    (hd : Explained received d) {packet : ParsedRtpPacket}
    (h : ((d.beginPacket packet).storePayload packet.payload).damaged = false) :
    ∃ front, front ++ [packet] <:+ received ++ [packet]
      ∧ Inside ((d.beginPacket packet).storePayload packet.payload) front packet := by
  have hframe := (d.beginPacket packet).storePayload_frame packet.payload
  have hadds := H264Depacketizer.storePayload_adds h
  obtain ⟨hsame, hsequence, hcases⟩ :=
    H264Depacketizer.beginPacket_cases (hframe.undamaged h)
  have htimestamp := hframe.timestamp.trans hsame
  have hlast := hframe.lastSequence.trans hsequence
  rcases hcases with ⟨hnone, hclosed⟩ | ⟨hactive, hundamaged, hstay, hkept, hcur, hnext⟩
  · exact ⟨[], List.suffix_append _ _, .begin htimestamp hlast hadds hnone hclosed⟩
  · obtain ⟨front, last, hsuffix, hunmarked, hinside⟩ := hd hactive hundamaged
    exact ⟨front ++ [last], List.suffix_append_self_iff.mpr hsuffix,
      hinside.extend hunmarked (hnext hinside.begun) hstay htimestamp hlast hadds hkept hcur⟩

/-- **One packet.** Whatever arrives, the state stays explained, and a unit that is returned
is carried by the latest packets. -/
theorem Explained.push {received : List ParsedRtpPacket} {d : H264Depacketizer}
    (hd : Explained received d) {packet : ParsedRtpPacket} (haccepted : Accepted packet) :
    Explained (received ++ [packet]) (d.push packet).2
      ∧ ∀ unit, (d.push packet).1 = some unit →
        ∃ block, block <:+ received ++ [packet] ∧ CarrierOf unit block := by
  rw [d.push_accepted haccepted.1 haccepted.2]
  have hstore := @Explained.store received d hd packet
  generalize (d.beginPacket packet).storePayload packet.payload = stored at hstore ⊢
  rcases stored.finishPacket_cases packet.marker with ⟨hmarker, heq⟩ | ⟨hmarker, hidle, hunit⟩
  · rw [heq]
    refine ⟨?_, by simp⟩
    intro _ hundamaged
    obtain ⟨front, hsuffix, hinside⟩ := hstore hundamaged
    exact ⟨front, packet, hsuffix, hmarker, hinside⟩
  · refine ⟨fun hactive => absurd hactive (by simp [hidle]), ?_⟩
    intro unit hsome
    obtain ⟨hundamaged, hclosed, rfl⟩ := hunit unit hsome
    obtain ⟨front, hsuffix, hinside⟩ := hstore hundamaged
    refine ⟨front ++ [packet], hsuffix, hinside.timestamp, hinside.consecutive,
      ⟨front, packet, rfl, hmarker, hinside.unmarked⟩, stored.nals, ?_, rfl⟩
    have hcarries := hinside.carries [] []
    rw [H264Depacketizer.cur_of_not_fragmented hclosed] at hcarries
    simpa using hcarries .done

/-! ## Runs -/

theorem accepted_cons (datagram : Bytes) (datagrams : List Bytes) :
    accepted (datagram :: datagrams) = accepted [datagram] ++ accepted datagrams := by
  rw [accepted, ← List.singleton_append, List.filterMap_append, List.filter_append]
  rfl

/-- One datagram: it does not parse, it is passed over, or it is pushed. -/
theorem Explained.receive {received : List ParsedRtpPacket} {d : H264Depacketizer}
    (hd : Explained received d) (datagram : Bytes) :
    Explained (received ++ accepted [datagram]) (d.receive datagram).2
      ∧ ∀ unit, (d.receive datagram).1.join = some unit →
        ∃ block, block <:+ received ++ accepted [datagram] ∧ CarrierOf unit block := by
  unfold H264Depacketizer.receive
  cases hparse : parseRtpPacket datagram with
  | none => simpa [accepted, hparse] using hd
  | some packet =>
    by_cases haccepted : Accepted packet
    · have hone : accepted [datagram] = [packet] := by simp [accepted, hparse, haccepted]
      rw [hone]
      simpa using hd.push haccepted
    · have hnone : accepted [datagram] = [] := by simp [accepted, hparse, haccepted]
      have hpush : d.push packet = (none, d) := by
        rw [H264Depacketizer.push, if_pos]
        simpa only [Accepted, not_and_or, ne_eq, not_not] using haccepted
      rw [hnone]
      simp only [hpush]
      simpa using hd

theorem H264Depacketizer.returned_cons (d : H264Depacketizer) (datagram : Bytes)
    (datagrams : List Bytes) :
    d.returned (datagram :: datagrams)
      = (d.receive datagram).1.join.toList ++ (d.receive datagram).2.returned datagrams := by
  simp only [returned, receiveAll, List.filterMap_cons]
  cases (d.receive datagram).1.join <;> rfl

/-- **A run.** Every unit returned is carried by a run of packets that arrived one directly
behind the other. -/
theorem Explained.returned {received : List ParsedRtpPacket} {d : H264Depacketizer}
    (hd : Explained received d) (datagrams : List Bytes) :
    ∀ unit ∈ d.returned datagrams,
      ∃ block, block <:+: received ++ accepted datagrams ∧ CarrierOf unit block := by
  induction datagrams generalizing received d with
  | nil => simp [H264Depacketizer.returned, H264Depacketizer.receiveAll]
  | cons datagram datagrams ih =>
    intro unit hunit
    obtain ⟨hnext, hreturned⟩ := hd.receive datagram
    rw [accepted_cons, ← List.append_assoc]
    rw [H264Depacketizer.returned_cons, List.mem_append, Option.mem_toList] at hunit
    rcases hunit with hfirst | hlater
    · obtain ⟨block, hsuffix, hcarrier⟩ := hreturned unit hfirst
      exact ⟨block, List.infix_append_of_infix_left hsuffix.isInfix, hcarrier⟩
    · exact ih hnext unit hlater

/-! ## Sources -/

/-- A run of packets has one source, or two neighbours in it have different ones. -/
theorem oneSource_or_crosses (block : List ParsedRtpPacket) :
    (∃ ssrc, ∀ packet ∈ block, packet.ssrc = ssrc)
      ∨ ∃ packet next, [packet, next] <:+: block ∧ packet.ssrc ≠ next.ssrc := by
  induction block with
  | nil => exact .inl ⟨0, by simp⟩
  | cons first block ih =>
    rcases ih with ⟨ssrc, hsame⟩ | ⟨packet, next, hwithin, hne⟩
    · cases block with
      | nil => exact .inl ⟨first.ssrc, by simp⟩
      | cons second block =>
        have hsecond := hsame second (by simp)
        by_cases heq : first.ssrc = ssrc
        · exact .inl ⟨ssrc, by simpa [heq] using hsame⟩
        · refine .inr ⟨first, second, ⟨[], block, rfl⟩, ?_⟩
          rw [hsecond]
          exact heq
    · exact .inr ⟨packet, next, List.infix_cons hwithin, hne⟩

/-- **What a unit is made of.** Whatever datagrams arrive in whatever order, a returned unit
is carried by accepted packets that arrived one directly behind the other, with one timestamp
and consecutive sequence numbers. They are of one source, unless a packet of one source is
directly followed by one of another with the same timestamp and the next sequence number. -/
theorem returned_sources (datagrams : List Bytes) {unit : CompletedAccessUnit}
    (h : unit ∈ ({} : H264Depacketizer).returned datagrams) :
    ∃ block, block <:+: accepted datagrams ∧ CarrierOf unit block
      ∧ (FromOneSource (accepted datagrams) unit
        ∨ ∃ packet next, [packet, next] <:+: block ∧ Crosses packet next) := by
  have hfresh : Explained [] {} := fun hactive => nomatch hactive
  obtain ⟨block, hwithin, hcarrier⟩ := hfresh.returned datagrams unit h
  rw [List.nil_append] at hwithin
  refine ⟨block, hwithin, hcarrier, ?_⟩
  rcases oneSource_or_crosses block with ⟨ssrc, hsame⟩ | ⟨packet, next, hpair, hne⟩
  · obtain ⟨nals, hcarries, hbytes⟩ := hcarrier.carries
    exact .inl ⟨ssrc, nals, block, hwithin.sublist, hsame, hcarries, hbytes⟩
  · have hmem := hpair.subset
    have htime := (hcarrier.timestamp next (hmem (by simp))).trans
      (hcarrier.timestamp packet (hmem (by simp))).symm
    have hsequence := hcarrier.consecutive.infix hpair
    exact .inr ⟨packet, next, hpair, hne, htime, by simpa using hsequence⟩

/-- The packets of a second sender arrive between the fragments of the first: the unit of the
first is given up, that of the second, whose sequence numbers wrap, is returned. -/
theorem returned_sources_interleaved :
    let first : RtpPacketizer := ⟨64, 96, 10, 1, by decide, by decide, by decide⟩
    let second : RtpPacketizer := ⟨64, 96, 65535, 2, by decide, by decide, by decide⟩
    let sent := (first.packetizeAll [⟨[0x65 :: List.replicate 40 3], 3000, 5, by decide⟩]).flatten
    let other := (second.packetizeAll
      [⟨[0x67 :: List.replicate 19 1, 0x65 :: List.replicate 19 4], 6000, 7, by decide⟩]).flatten
    let arrived := sent.take 1 ++ other ++ sent.drop 1
    let unit : CompletedAccessUnit :=
      ⟨6000, 7, buildAnnexB [0x67 :: List.replicate 19 1, 0x65 :: List.replicate 19 4]⟩
    first.ssrc ≠ second.ssrc ∧ sent.length = 2 ∧ other.length = 2
      ∧ ({} : H264Depacketizer).returned arrived = [unit]
      ∧ ∃ block, block <:+: accepted arrived ∧ CarrierOf unit block
        ∧ (FromOneSource (accepted arrived) unit
          ∨ ∃ packet next, [packet, next] <:+: block ∧ Crosses packet next) := by
  intro first second sent other arrived unit
  have hreturned : ({} : H264Depacketizer).returned arrived = [unit] := by decide
  exact ⟨by decide, by decide, by decide, hreturned,
    returned_sources arrived (hreturned ▸ List.mem_singleton_self unit)⟩

/-- Two senders share the timestamp 3000. The packet of the second one arrives between the two
of the first and has the number that is due: the unit returned has a NAL unit of each. -/
theorem returned_crossed :
    let first : RtpPacketizer := ⟨64, 96, 10, 1, by decide, by decide, by decide⟩
    let second : RtpPacketizer := ⟨64, 96, 11, 2, by decide, by decide, by decide⟩
    let sent := (first.packetizeAll
      [⟨[0x41 :: List.replicate 20 1, 0x41 :: List.replicate 20 2], 3000, 0, by decide⟩]).flatten
    let other := (second.packetizeAll [⟨[0x41 :: List.replicate 20 3], 3000, 0, by decide⟩]).flatten
    let arrived := sent.take 1 ++ other ++ sent.drop 1
    first.ssrc ≠ second.ssrc ∧ sent.length = 2 ∧ other.length = 1
      ∧ ∃ unit ∈ ({} : H264Depacketizer).returned arrived,
          ¬ FromOneSource (accepted arrived) unit := by
  intro first second sent other arrived
  refine ⟨by decide, by decide, by decide,
    ⟨3000, 0, buildAnnexB [0x41 :: List.replicate 20 1, 0x41 :: List.replicate 20 3]⟩,
    by decide, ?_⟩
  rintro ⟨ssrc, nals, block, hsublist, hsame, hcarries, hbytes⟩
  have hsingle : ∀ packet ∈ accepted arrived, Carriable packet.payload := by decide
  obtain rfl : nals = block.map (·.payload) := by
    refine hcarries.of_singles ?_
    intro nal hnal
    obtain ⟨packet, hpacket, rfl⟩ := List.mem_map.mp hnal
    exact hsingle packet (hsublist.subset hpacket)
  -- What is left is to look at each of the runs that one of the two has sent.
  have hothers : ∀ block ∈ List.sublists' (accepted arrived),
      (∀ p ∈ block, ∀ q ∈ block, p.ssrc = q.ssrc) →
        buildAnnexB [0x41 :: List.replicate 20 1, 0x41 :: List.replicate 20 3]
          ≠ buildAnnexB (block.map (·.payload)) := by
    decide
  refine hothers block (List.mem_sublists'.mpr hsublist) ?_ hbytes
  intro p hp q hq
  rw [hsame p hp, hsame q hq]

end Ipmx.Rtp
