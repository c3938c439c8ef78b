/-
Ipmx.Rtp.Reordering — the depacketizer under loss, duplication and
reordering at once.

An arrival sequence is any list of datagrams of the stream, in any order and
any number of times. `Tracks` is the invariant: while a timestamp is open, the
depacketizer is inside one flight of the stream and either damaged or
collecting a tail of that flight's units without a gap. `Tracks.push` is the
step lemma, one case for each relation of the arriving packet to the state,
and `returned_suffix` the result for every run.
-/
import Ipmx.Rtp.Loss

namespace Ipmx.Rtp

open H264

/-! ## The invariant -/

/-- The state between two arrivals, over the flights of a stream. -/
def Tracks (flights : List Flight) (d : H264Depacketizer) : Prop :=
  d.active = true → ∃ f ∈ flights, Damaged f d
    ∨ ∃ i tail, i + 1 < f.plans.length ∧ Collecting f d i tail ∧ tail ≠ [] ∧ tail <:+ f.nals

/-- A returned unit that is a non-empty tail of the flight with its timestamp. -/
def Genuine (flights : List Flight) (completed : CompletedAccessUnit) : Prop :=
  ∃ f ∈ flights, ∃ tail, tail ≠ [] ∧ tail <:+ f.nals
    ∧ completed = ⟨f.timestamp, f.captureTimeNs, buildAnnexB tail⟩

/-- What a step leaves: the invariant, and nothing returned that is not genuine. -/
def Sound (flights : List Flight) (result : Option CompletedAccessUnit × H264Depacketizer) :
    Prop :=
  (∀ completed ∈ result.1, Genuine flights completed) ∧ Tracks flights result.2

theorem Rejected.sound {flights : List Flight} {f : Flight} (hf : f ∈ flights) {i : Nat}
    {result : Option CompletedAccessUnit × H264Depacketizer} (h : Rejected f i result) :
    Sound flights result := by
  obtain ⟨hnone, hstate⟩ := h
  refine ⟨by simp [hnone], ?_⟩
  intro hactive
  split at hstate
  · exact ⟨f, hf, .inl hstate⟩
  · exact absurd (hactive.symm.trans hstate) (by simp)

theorem Outcome.sound {flights : List Flight} {f : Flight} (hf : f ∈ flights) {i : Nat}
    {tail : List NalUnit} (hne : tail ≠ []) (htail : tail <:+ f.nals)
    {result : Option CompletedAccessUnit × H264Depacketizer} (h : Outcome f i tail result) :
    Sound flights result := by
  unfold Outcome at h
  split at h
  · next hmore =>
    obtain ⟨hnone, hstate⟩ := h
    refine ⟨by simp [hnone], fun _ => ⟨f, hf, ?_⟩⟩
    rcases hstate with hcollecting | ⟨hdamaged, _⟩
    · exact .inr ⟨i, tail, hmore, hcollecting, hne, htail⟩
    · exact .inl hdamaged
  · obtain ⟨hactive, hresult⟩ := h
    refine ⟨fun completed hmem => ?_, fun h => absurd (h.symm.trans hactive) (by simp)⟩
    rcases hresult with ⟨hsome, _⟩ | ⟨hnone, _⟩
    · rw [hsome, Option.mem_some_iff] at hmem
      exact ⟨f, hf, tail, hne, htail, hmem.symm⟩
    · simp [hnone] at hmem

/-! ## Steps and runs -/

/-- A packet of a flight that is not open starts it, or is the orphan of a fragment. -/
theorem sound_of_fresh {flights : List Flight} {d : H264Depacketizer} {f : Flight}
    (hf : f ∈ flights) (hfresh : d.active = false ∨ d.timestamp ≠ f.timestamp) {i : Nat}
    (hi : i < f.plans.length) : Sound flights (d.push (f.packet i f.plans[i])) := by
  obtain ⟨cur, rest, hr, hsuffix⟩ := f.sends.drop i
  have hhead := hr
  rw [List.drop_eq_getElem_cons hi] at hhead
  have hcontinues := hhead.continuesFragment_eq
  cases cur with
  | some _ => exact (push_first_orphan hi hfresh hcontinues).sound hf
  | none =>
    have hrest : rest ≠ [] := by
      rintro rfl
      exact absurd hhead.isEmpty_eq (by simp [hi])
    exact (push_first hi hfresh hr).sound hf hrest hsuffix

/-- **One arrival**, whichever packet of the stream it is. -/
theorem Tracks.push {flights : List Flight}
    (htimestamps : (flights.map Flight.timestamp).Nodup)
    (hlength : ∀ f ∈ flights, f.plans.length ≤ 65536) {d : H264Depacketizer}
    (h : Tracks flights d) {f : Flight} (hf : f ∈ flights) {i : Nat}
    (hi : i < f.plans.length) : Sound flights (d.push (f.packet i f.plans[i])) := by
  by_cases hfresh : d.active = false ∨ d.timestamp ≠ f.timestamp
  · exact sound_of_fresh hf hfresh hi
  · simp only [not_or, Bool.not_eq_false, not_not] at hfresh
    obtain ⟨g, hg, hstate⟩ := h hfresh.1
    -- the flight under way is the one the packet belongs to
    have hsame : d.timestamp = g.timestamp := by
      rcases hstate with hdamaged | ⟨_, _, _, hcollecting, _⟩
      · exact hdamaged.timestamp
      · exact hcollecting.timestamp
    obtain rfl : g = f := List.inj_on_of_nodup_map htimestamps hg hf
      (hsame.symm.trans hfresh.2)
    rcases hstate with hdamaged | ⟨j, tail, hj, hcollecting, hne, htail⟩
    · exact (hdamaged.push hi).sound hg
    · by_cases hnext : i = j + 1
      · subst hnext
        exact (hcollecting.push_next hj).sound hg hne htail
      · exact (hcollecting.push_gap (hlength g hg) hj hi hnext).sound hg

/-- **A run of arrivals.** -/
theorem Tracks.returned {flights : List Flight}
    (htimestamps : (flights.map Flight.timestamp).Nodup)
    (hlength : ∀ f ∈ flights, f.plans.length ≤ 65536) {d : H264Depacketizer}
    (h : Tracks flights d) {arrivals : List Bytes}
    (harrivals : ∀ datagram ∈ arrivals, ∃ f ∈ flights, ∃ packet ∈ f.packets,
      parseRtpPacket datagram = some packet) :
    ∀ completed ∈ d.returned arrivals, Genuine flights completed := by
  induction arrivals generalizing d with
  | nil => simp [H264Depacketizer.returned, H264Depacketizer.receiveAll]
  | cons datagram arrivals ih =>
    obtain ⟨f, hf, packet, hpacket, hparse⟩ := harrivals datagram (by simp)
    obtain ⟨i, hi, rfl⟩ := Flight.mem_packets hpacket
    obtain ⟨hgenuine, htracks⟩ := h.push htimestamps hlength hf hi
    have hrest := ih htracks fun x hx => harrivals x (List.mem_cons_of_mem _ hx)
    intro completed hmem
    have hreceive : d.receive datagram
        = (some (d.push (f.packet i f.plans[i])).1, (d.push (f.packet i f.plans[i])).2) := by
      simp [H264Depacketizer.receive, hparse]
    rw [H264Depacketizer.returned, H264Depacketizer.receiveAll, hreceive] at hmem
    simp only [List.mem_filterMap, List.mem_cons] at hmem
    obtain ⟨result, rfl | hlater, hjoin⟩ := hmem
    · exact hgenuine completed hjoin
    · exact hrest completed (List.mem_filterMap.mpr ⟨result, hlater, hjoin⟩)

/-! ## The stream -/

theorem RtpPacketizer.flights_timestamps (p : RtpPacketizer) (units : List AccessUnit) :
    (p.flights units).map Flight.timestamp = units.map AccessUnit.timestamp := by
  induction units generalizing p with
  | nil => rfl
  | cons unit units ih => simp [RtpPacketizer.flights, RtpPacketizer.flight, ih]

/-- A flight of a stream is the flight of one of its units. -/
theorem RtpPacketizer.mem_flights {p : RtpPacketizer} {units : List AccessUnit} {f : Flight}
    (h : f ∈ p.flights units) : ∃ unit ∈ units, ∃ q : RtpPacketizer, f = q.flight unit := by
  induction units generalizing p with
  | nil => simp [RtpPacketizer.flights] at h
  | cons unit units ih =>
    rcases List.mem_cons.mp h with rfl | h
    · exact ⟨unit, by simp, p, rfl⟩
    · obtain ⟨u, hu, q, heq⟩ := ih h
      exact ⟨u, List.mem_cons_of_mem _ hu, q, heq⟩

/-- The flights are as long as the datagram lists. -/
theorem RtpPacketizer.flights_length_le {p : RtpPacketizer} {units : List AccessUnit}
    {n : Nat} (h : ∀ packets ∈ p.packetizeAll units, packets.length ≤ n) :
    ∀ f ∈ p.flights units, f.plans.length ≤ n := by
  induction units generalizing p with
  | nil => simp [RtpPacketizer.flights]
  | cons unit units ih =>
    intro f hf
    rcases List.mem_cons.mp hf with rfl | hf
    · rw [← p.packetize_length unit]
      exact h _ (List.mem_cons_self ..)
    · exact ih (fun packets hp => h packets (List.mem_cons_of_mem _ hp)) f hf

/-- Every datagram of a stream is a packet of one of its flights. -/
theorem RtpPacketizer.mem_packetizeAll {p : RtpPacketizer}
    (htype : p.payloadType = kH264PayloadType) {units : List AccessUnit} {datagram : Bytes}
    (h : datagram ∈ (p.packetizeAll units).flatten) :
    ∃ f ∈ p.flights units, ∃ packet ∈ f.packets, parseRtpPacket datagram = some packet := by
  obtain ⟨packets, hpackets, hmem⟩ := List.mem_flatten.mp h
  have hparse := List.mem_map_of_mem (f := List.map parseRtpPacket) hpackets
  rw [p.packetizeAll_parse htype units] at hparse
  obtain ⟨f, hf, heq⟩ := List.mem_map.mp hparse
  have hmem' := List.mem_map_of_mem (f := parseRtpPacket) hmem
  rw [← heq] at hmem'
  obtain ⟨packet, hpacket, hsome⟩ := List.mem_map.mp hmem'
  exact ⟨f, hf, packet, hpacket, hsome.symm⟩

/-- **No fabricated NAL unit.** However the datagrams of a stream are lost, repeated and
reordered, a returned unit has the timestamp and capture time of a unit that was sent, and
its NAL units are a non-empty tail of that unit's. -/
theorem returned_suffix (p : RtpPacketizer) (units : List AccessUnit) (arrivals : List Bytes)
    (htimestamps : (units.map AccessUnit.timestamp).Nodup)
    (hlength : ∀ packets ∈ p.packetizeAll units, packets.length ≤ 65536)
    (harrivals : ∀ datagram ∈ arrivals, datagram ∈ (p.packetizeAll units).flatten) :
    ∀ completed ∈ ({} : H264Depacketizer).returned arrivals, ∃ unit ∈ units,
      completed.timestamp = unit.timestamp ∧ completed.captureTimeNs = unit.captureTimeNs
        ∧ ∃ tail, tail ≠ [] ∧ tail <:+ unit.nals ∧ completed.annexB = buildAnnexB tail := by
  by_cases htype : p.payloadType = kH264PayloadType
  · intro completed hmem
    have hidle : Tracks (p.flights units) {} := fun h => absurd h (by simp)
    obtain ⟨f, hf, tail, hne, htail, rfl⟩ :=
      hidle.returned (by rwa [p.flights_timestamps]) (RtpPacketizer.flights_length_le hlength)
        (fun datagram hd => RtpPacketizer.mem_packetizeAll htype (harrivals datagram hd))
        completed hmem
    obtain ⟨unit, hunit, q, rfl⟩ := RtpPacketizer.mem_flights hf
    exact ⟨unit, hunit, rfl, rfl, tail, hne, htail, rfl⟩
  · rw [H264Depacketizer.returned_foreign]
    · simp
    · intro datagram hd packet hparse
      rw [p.packetizeAll_payloadType units datagram (harrivals datagram hd) packet hparse]
      exact htype

/-- One unit of two packets, the second arriving before the first and once more behind it. -/
theorem returned_suffix_swapped :
    let p : RtpPacketizer := ⟨64, 96, 65535, 0, by decide, by decide, by decide⟩
    let unit : AccessUnit :=
      ⟨[0x67 :: List.replicate 19 1, 0x65 :: List.replicate 19 2], 3000, 0, by decide⟩
    let sent := (p.packetizeAll [unit]).flatten
    ∀ completed ∈ ({} : H264Depacketizer).returned (sent.drop 1 ++ sent), ∃ u ∈ [unit],
      completed.timestamp = u.timestamp ∧ completed.captureTimeNs = u.captureTimeNs
        ∧ ∃ tail, tail ≠ [] ∧ tail <:+ u.nals ∧ completed.annexB = buildAnnexB tail := by
  intro p unit sent
  refine returned_suffix p [unit] _ (by simp) (by decide) ?_
  intro datagram hmem
  rcases List.mem_append.mp hmem with hlate | hall
  · exact List.mem_of_mem_drop hlate
  · exact hall

end Ipmx.Rtp
