/-
Ipmx.Receiver.LateJoin — a receiver that joins a running stream.

Of a lossless stream the first `k` datagrams are gone. They are all packets of
the first `begun` units, so of these the last one may be cut, and the units
behind it arrive whole. A cut unit is dropped, or it is returned with its first
NAL units missing (`Remnant`); either way its marker ends it, and the next unit
starts afresh (`returned_joined`). In the receiver's loop the decoder then gets
the units from the first recovery point on (`run_joined`).
-/
import Ipmx.Receiver.PlaybackTheorems

namespace Ipmx.Receiver

open H264 Rtp
open Ipmx.Lib

/-! ## The units that arrive -/

/-- The number of units that have a packet among the first `k`. -/
def begun : List (List Bytes) → Nat → Nat
  | [], _ => 0
  | packets :: sent, k => if k = 0 then 0 else 1 + begun sent (k - packets.length)

/-- What is returned of the last unit that had begun: nothing, or its NAL units from some
place on. -/
def Remnant (units : List AccessUnit) (count : Nat) (cut : List CompletedAccessUnit) : Prop :=
  cut = [] ∨ ∃ unit m, (units.take count).getLast? = some unit
    ∧ cut = [⟨unit.timestamp, unit.captureTimeNs, buildAnnexB (unit.nals.drop m)⟩]

theorem begun_zero (sent : List (List Bytes)) : begun sent 0 = 0 := by
  cases sent with
  | nil => rfl
  | cons packets sent => rfl

theorem Remnant.later {units : List AccessUnit} {count : Nat} {cut : List CompletedAccessUnit}
    (h : Remnant units count cut) (unit : AccessUnit) :
    Remnant (unit :: units) (1 + count) cut := by
  rcases h with rfl | ⟨last, m, hlast, rfl⟩
  · exact .inl rfl
  · refine .inr ⟨last, m, ?_, rfl⟩
    rw [Nat.add_comm, List.take_succ_cons, List.getLast?_cons, hlast]
    rfl

/-- A packet with the marker ends the unit, whatever came of it. -/
theorem push_marker (d : H264Depacketizer) {packet : ParsedRtpPacket}
    (htype : packet.payloadType = kH264PayloadType) (hpayload : packet.payload ≠ [])
    (hmarker : packet.marker = true) : (d.push packet).2.active = false := by
  have hpush : d.push packet
      = ((d.beginPacket packet).storePayload packet.payload).finishPacket packet.marker :=
    if_neg (by simp [htype, hpayload])
  rw [hpush, hmarker, H264Depacketizer.finishPacket]
  simp only [Bool.not_true, Bool.false_eq_true, if_false]
  split <;> split <;> rfl

/-- Behind the last packets of a unit the depacketizer is idle. -/
theorem receiveAll_rest (p : RtpPacketizer) (htype : p.payloadType = kH264PayloadType)
    (unit : AccessUnit) (d : H264Depacketizer) {k : Nat}
    (hk : k < (p.packetize unit.nals unit.timestamp unit.captureTimeNs).1.length) :
    (d.receiveAll ((p.packetize unit.nals unit.timestamp unit.captureTimeNs).1.drop k)).2.active
      = false := by
  have hplans : k < (p.flight unit).plans.length := by rwa [← p.packetize_length unit]
  have hparse : ((p.packetize unit.nals unit.timestamp unit.captureTimeNs).1.drop k).map
      parseRtpPacket = ((p.flight unit).packets.drop k).map some := by
    rw [List.map_drop, p.packetize_parse htype unit, List.map_drop]
  rw [d.receiveAll_eq_pushAll _ _ hparse]
  dsimp only
  clear hparse hk
  -- Induction on what is left of the flight: only the last packet has the marker.
  induction hrest : (p.flight unit).plans.length - 1 - k generalizing d k with
  | zero =>
    have hlast : k + 1 = (p.flight unit).plans.length := by omega
    rw [(p.flight unit).drop_packets hplans, List.drop_eq_nil_of_le (by simp [hlast])]
    refine push_marker d rfl ((p.flight unit).payload_ne_nil hplans) ?_
    show (p.flight unit).plans[k].marker = true
    rw [(p.flight unit).marker_eq hplans]
    exact decide_eq_true (by omega)
  | succ n ih =>
    rw [(p.flight unit).drop_packets hplans]
    exact ih (k := k + 1) _ (by omega) (by omega)

theorem filterMap_deliveredResults (units : List AccessUnit) (sent : List (List Bytes))
    (hlength : sent.length = units.length) :
    (deliveredResults units sent).filterMap Option.join = units.map AccessUnit.completed := by
  induction units generalizing sent with
  | nil => rfl
  | cons unit units ih =>
    cases sent with
    | nil => cases hlength
    | cons packets sent =>
      have hrest := ih sent (Nat.succ.inj hlength)
      unfold deliveredResults at hrest ⊢
      rw [List.zip_cons_cons, List.flatMap_cons, List.filterMap_append, hrest,
        List.filterMap_append, List.filterMap_replicate]
      rfl

/-- A whole stream, from any idle depacketizer. -/
theorem returned_stream (p : RtpPacketizer) (htype : p.payloadType = kH264PayloadType)
    (units : List AccessUnit) (hunits : ∀ unit ∈ units, unit.nals ≠ [] ∧ WithinLimits unit.nals)
    {d : H264Depacketizer} (hidle : d.active = false) :
    d.returned (p.packetizeAll units).flatten = units.map AccessUnit.completed := by
  unfold H264Depacketizer.returned
  rw [receiveAll_stream p htype units hunits hidle]
  exact filterMap_deliveredResults units _ (p.packetizeAll_length units)

/-- **Joining a stream.** Without its first `k` datagrams a lossless stream is returned from the
first unit on that had not begun, complete and in order, after at most a remnant of the unit that
was cut. -/
theorem returned_joined (p : RtpPacketizer) (htype : p.payloadType = kH264PayloadType)
    (units : List AccessUnit) (hunits : ∀ unit ∈ units, unit.nals ≠ [] ∧ WithinLimits unit.nals)
    (hlength : ∀ packets ∈ p.packetizeAll units, packets.length ≤ 65536) (k : Nat)
    {d : H264Depacketizer} (hidle : d.active = false) :
    ∃ cut, Remnant units (begun (p.packetizeAll units) k) cut
      ∧ d.returned ((p.packetizeAll units).flatten.drop k)
        = cut ++ (units.drop (begun (p.packetizeAll units) k)).map AccessUnit.completed := by
  induction units generalizing p k d with
  | nil => exact ⟨[], .inl rfl, by simp [RtpPacketizer.packetizeAll, H264Depacketizer.returned,
      H264Depacketizer.receiveAll]⟩
  | cons unit units ih =>
    have hnext : (p.packetize unit.nals unit.timestamp unit.captureTimeNs).2.payloadType
        = kH264PayloadType := by
      rw [p.packetize_snd]
      exact htype
    have hlater : ∀ u ∈ units, u.nals ≠ [] ∧ WithinLimits u.nals :=
      fun u hu => hunits u (List.mem_cons_of_mem _ hu)
    by_cases hzero : k = 0
    · subst hzero
      refine ⟨[], .inl rfl, ?_⟩
      rw [List.drop_zero, begun_zero, List.drop_zero,
        returned_stream p htype (unit :: units) hunits hidle]
      rfl
    · have hbegun : begun (p.packetizeAll (unit :: units)) k
          = 1 + begun ((p.packetize unit.nals unit.timestamp unit.captureTimeNs).2.packetizeAll
            units) (k - (p.packetize unit.nals unit.timestamp unit.captureTimeNs).1.length) :=
        if_neg hzero
      rw [hbegun, RtpPacketizer.packetizeAll, List.flatten_cons, List.drop_append]
      by_cases hcut : k < (p.packetize unit.nals unit.timestamp unit.captureTimeNs).1.length
      · have hnone : k - (p.packetize unit.nals unit.timestamp unit.captureTimeNs).1.length
            = 0 := by
          omega
        have hafter := returned_stream _ hnext units hlater (receiveAll_rest p htype unit d hcut)
        rw [hnone, begun_zero, List.drop_zero, d.returned_append, hafter]
        refine ⟨_, ?_, rfl⟩
        have hhead := hlength _ List.mem_cons_self
        by_cases hloss : UnnoticedLoss p.maximumPayload unit
            (p.packetize unit.nals unit.timestamp unit.captureTimeNs).1
            ((p.packetize unit.nals unit.timestamp unit.captureTimeNs).1.drop k)
        · obtain ⟨m, hresult⟩ := returned_of_unnoticed p htype unit hhead (.inl hidle) hloss
          exact .inr ⟨unit, m, rfl, hresult⟩
        · rcases returned_of_noticed p htype unit hhead (.inl hidle) (List.drop_sublist _ _)
            hloss with hnothing | ⟨hall, _⟩
          · exact .inl hnothing
          · have hsize := congrArg List.length hall
            rw [List.length_drop] at hsize
            omega
      · obtain ⟨cut, hremnant, hreturned⟩ := ih _ hnext hlater
          (fun packets hmem => hlength packets (List.mem_cons_of_mem _ hmem))
          (k - (p.packetize unit.nals unit.timestamp unit.captureTimeNs).1.length) hidle
        refine ⟨cut, hremnant.later unit, ?_⟩
        rw [List.drop_eq_nil_of_le (by omega), List.nil_append, hreturned, Nat.add_comm 1,
          List.drop_succ_cons]

/-! ## The counters -/

/-- The sequence numbers of a stream are numbered on over its units. -/
theorem sequences_flights (p : RtpPacketizer) (units : List AccessUnit) :
    ((p.flights units).flatMap Flight.packets).map ParsedRtpPacket.sequence
      = (List.range ((p.flights units).flatMap Flight.packets).length).map
        fun i => p.sequence + UInt16.ofNat i := by
  induction units generalizing p with
  | nil => rfl
  | cons unit units ih =>
    have hfirst : (p.flight unit).packets.map ParsedRtpPacket.sequence
        = (List.range (p.flight unit).packets.length).map
          fun i => p.sequence + UInt16.ofNat i := by
      refine List.ext_getElem (by simp) ?_
      intro i hi hi'
      have hplans : i < (p.flight unit).plans.length := by simpa using hi
      rw [List.getElem_map, List.getElem_map, List.getElem_range,
        (p.flight unit).getElem_packets i hplans]
      rfl
    rw [RtpPacketizer.flights, List.flatMap_cons, List.map_append, List.length_append,
      List.range_add, List.map_append, hfirst, ih, List.map_map]
    refine congrArg (_ ++ ·) (List.map_congr_left ?_)
    intro i _
    rw [p.packetize_snd, Function.comp_apply, Flight.length_packets, UInt16.ofNat_add,
      ← UInt16.add_assoc]
    rfl

open Playback

theorem Playback.Consecutive.drop {datagrams : List Bytes} (h : Consecutive datagrams) (k : Nat) :
    Consecutive (datagrams.drop k) := by
  refine ⟨fun datagram hmem => h.1 datagram (List.mem_of_mem_drop hmem), ?_⟩
  exact h.2.suffix (((List.drop_suffix k datagrams).filterMap _).map _)

/-- A stream of this transport is consecutive, whatever its units. -/
theorem filterPacket_eq_filter (datagram : Bytes) : ReceiveLoop.filterPacket datagram
    = (parseRtpPacket datagram).filter fun packet => packet.payloadType = kH264PayloadType := by
  unfold ReceiveLoop.filterPacket
  cases parseRtpPacket datagram with
  | none => rfl
  | some packet =>
    by_cases htype : packet.payloadType = kH264PayloadType <;> simp [Option.filter, htype]

theorem consecutive_packetizeAll (p : RtpPacketizer) (htype : p.payloadType = kH264PayloadType)
    (units : List AccessUnit) : Consecutive (p.packetizeAll units).flatten := by
  have hparse : (p.packetizeAll units).flatten.map parseRtpPacket
      = ((p.flights units).flatMap Flight.packets).map some := by
    rw [List.map_flatten, p.packetizeAll_parse htype units, List.map_flatMap, List.flatMap_def]
  have hfilter : (p.packetizeAll units).flatten.map ReceiveLoop.filterPacket
      = ((p.flights units).flatMap Flight.packets).map some := by
    have hkeep := congrArg (List.map fun parsed : Option ParsedRtpPacket =>
      parsed.filter fun packet => packet.payloadType = kH264PayloadType) hparse
    rw [List.map_map, List.map_map] at hkeep
    refine (List.map_congr_left fun datagram _ => filterPacket_eq_filter datagram).trans
      (hkeep.trans (List.map_congr_left ?_))
    intro packet hpacket
    obtain ⟨flight, _, hmem⟩ := List.mem_flatMap.mp hpacket
    obtain ⟨i, _, rfl⟩ := Flight.mem_packets hmem
    rfl
  constructor
  · intro datagram hmem
    exact (filterPacket_packetizeAll p units datagram hmem).mpr htype
  · have hpackets : (p.packetizeAll units).flatten.filterMap ReceiveLoop.filterPacket
        = (p.flights units).flatMap Flight.packets := by
      have hall := congrArg (List.filterMap id) hfilter
      rwa [List.filterMap_map, List.filterMap_map, Function.id_comp, Function.id_comp,
        List.filterMap_some] at hall
    rw [hpackets, sequences_flights, List.isChain_map, List.isChain_range]
    intro i _
    rw [Nat.succ_eq_add_one, UInt16.ofNat_add, UInt16.add_assoc]
    rfl

/-! ## The loop -/

/-- **A receiver that joins.** It counts no loss. What it decodes are units of the stream, in
order and without a gap, from the first one with a recovery point on, and only a remnant of the
unit that was cut may come before those that had not begun. -/
theorem run_joined {p : RtpPacketizer} (htype : p.payloadType = kH264PayloadType)
    {units : List AccessUnit} (hunits : ∀ unit ∈ units, unit.nals ≠ [] ∧ WithinLimits unit.nals)
    (hlength : ∀ packets ∈ p.packetizeAll units, packets.length ≤ 65536) {k : Nat}
    {o : PlaybackOptions} {decoder : MfH264Decoder} {rounds : List Round} {last : Playback}
    (hdatagrams : datagrams rounds = (p.packetizeAll units).flatten.drop k)
    (h : Trace.run (step o) (initial decoder) rounds = some last) :
    last.loop.invalidPackets = 0 ∧ last.loop.sequence.stats.Clean
      ∧ ∃ cut, Remnant units (begun (p.packetizeAll units) k) cut
        ∧ (last.fed.map fun call => (call.annexB, call.captureTimeNs))
          = (fromRecovery (cut ++ (units.drop (begun (p.packetizeAll units) k)).map
              AccessUnit.completed)).map (fun unit => (unit.annexB, unit.captureTimeNs)) := by
  have hfollows := run_follows h
  have hconsecutive := (consecutive_packetizeAll p htype units).drop k
  rw [← hdatagrams, consecutive_iff, ← hfollows.loop] at hconsecutive
  obtain ⟨cut, hremnant, hreturned⟩ := returned_joined p htype units hunits hlength k (d := {}) rfl
  refine ⟨hconsecutive.1, hconsecutive.2, cut, hremnant, ?_⟩
  rw [← hreturned, ← hdatagrams, ← hfollows.returned]
  exact hfollows.fed

/-- The network does not fail, and the transform takes everything and produces nothing. -/
def Silent (r : Round) : Prop := (∃ datagram, r.received = .ok datagram) ∧ r.answers = {}

theorem round_silent (o : PlaybackOptions) (s : Playback) {r : Round} (h : Silent r) :
    ∃ s', step o s r = some s' := by
  obtain ⟨⟨received, hreceived⟩, hanswers⟩ := h
  unfold step Playback.round
  rw [hreceived]
  cases received with
  | none => exact ⟨_, rfl⟩
  | some datagram =>
    dsimp only
    cases (s.loop.receive datagram).1.join with
    | none => exact ⟨_, rfl⟩
    | some unit =>
      dsimp only
      unfold playUnit MfH264Decoder.decode
      rw [hanswers]
      dsimp only
      split
      · split
        · exact ⟨_, rfl⟩
        · exact ⟨_, rfl⟩
      · exact ⟨_, rfl⟩

theorem run_silent (o : PlaybackOptions) (s : Playback) {rounds : List Round}
    (h : ∀ r ∈ rounds, Silent r) : ∃ last, Trace.run (step o) s rounds = some last := by
  induction rounds generalizing s with
  | nil => exact ⟨s, rfl⟩
  | cons r rounds ih =>
    obtain ⟨s', hs'⟩ := round_silent o s (h r List.mem_cons_self)
    obtain ⟨last, hlast⟩ := ih s' fun later hmem => h later (List.mem_cons_of_mem _ hmem)
    exact ⟨last, (Trace.run_cons_of_step hs' rounds).trans hlast⟩

/-- A unit of two packets, and one with a recovery point. -/
def joinedUnits : List AccessUnit :=
  [⟨[0x67 :: List.replicate 19 1, 0x65 :: List.replicate 19 2], 0, 6, by decide⟩,
    ⟨[[0x67, 3], [0x68, 3], [0x65, 3]], 1500, 7, by decide⟩]

/-- The first packet of the two is missed: the slice that is left has no recovery point, and the
second unit is decoded. -/
theorem run_joined_second :
    let p : RtpPacketizer := ⟨64, 96, 65535, 7, by decide, by decide, by decide⟩
    let rounds : List Round := ((p.packetizeAll joinedUnits).flatten.drop 1).map fun datagram =>
      { received := .ok (some datagram) }
    ∃ last, Trace.run (step joinedOptions) (initial MfH264Decoder.paddedDecoder) rounds = some last
      ∧ last.loop.invalidPackets = 0 ∧ last.loop.sequence.stats.Clean
      ∧ ∃ cut, Remnant joinedUnits (begun (p.packetizeAll joinedUnits) 1) cut
        ∧ (last.fed.map fun call => (call.annexB, call.captureTimeNs))
          = (fromRecovery (cut ++ (joinedUnits.drop (begun (p.packetizeAll joinedUnits) 1)).map
              AccessUnit.completed)).map (fun unit => (unit.annexB, unit.captureTimeNs)) := by
  intro p rounds
  have hunits : ∀ unit ∈ joinedUnits, unit.nals ≠ [] ∧ WithinLimits unit.nals := by
    intro unit hunit
    rcases List.mem_pair.mp hunit with rfl | rfl
    · exact ⟨by decide, by decide, by decide, by decide⟩
    · exact ⟨by decide, by decide, by decide, by decide⟩
  have hdatagrams : datagrams rounds = (p.packetizeAll joinedUnits).flatten.drop 1 := by
    unfold datagrams
    rw [List.filterMap_map]
    exact List.filterMap_some
  have hsilent : ∀ r ∈ rounds, Silent r := by
    intro r hr
    obtain ⟨datagram, _, rfl⟩ := List.mem_map.mp hr
    exact ⟨⟨_, rfl⟩, rfl⟩
  obtain ⟨last, hrun⟩ := run_silent joinedOptions (initial MfH264Decoder.paddedDecoder) hsilent
  exact ⟨last, hrun, run_joined rfl hunits (by decide) hdatagrams hrun⟩

end Ipmx.Receiver
