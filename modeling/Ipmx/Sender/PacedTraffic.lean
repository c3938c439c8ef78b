/-
Ipmx.Sender.PacedTraffic — what the worker reports of the packets it has sent.

The shaper answers the times it is asked for, and the network compatibility
tracker is told when the packets were sent. `Recorded` says that both, and the
counters beside them, are those of the packets in the order they were sent. The
tracker then never counts further above CMAX than the reported lateness accounts
for, and a worker that is never late is compliant (`run_compatible`).
-/
import Ipmx.Sender.PacingTheorems

namespace Ipmx.Sender

open Ipmx.Lib
open Rtcp Rtp Timing

/-! ## Columns of a list -/

/-- An item of the packets of a run, by the number of the packet. -/
def column (item : PacketTiming → Nat) (sent : List PacketTiming) (k : Nat) : Nat :=
  (sent[k]?.map item).getD 0

theorem column_getElem (item : PacketTiming → Nat) {sent : List PacketTiming} {k : Nat}
    (hk : k < sent.length) : column item sent k = item sent[k] := by
  rw [column, List.getElem?_eq_getElem hk]
  rfl

theorem column_append (item : PacketTiming → Nat) {sent : List PacketTiming}
    (more : List PacketTiming) {k : Nat} (hk : k < sent.length) :
    column item (sent ++ more) k = column item sent k := by
  rw [column, List.getElem?_append_left hk, column]

theorem column_snoc (item : PacketTiming → Nat) (sent : List PacketTiming) (t : PacketTiming) :
    column item (sent ++ [t]) sent.length = item t := by
  rw [column, List.getElem?_concat_length]
  rfl

/-- The shaper's state depends on the packets so far. -/
theorem stateBefore_congr (c : Tr107TrafficShaper) {nowNs nowNs' size size' : Nat → Nat} {n : Nat}
    (h : ∀ k < n, nowNs k = nowNs' k ∧ size k = size' k) :
    c.stateBefore nowNs size n = c.stateBefore nowNs' size' n := by
  induction n with
  | zero => rfl
  | succ n ih =>
    obtain ⟨hnow, hsize⟩ := h n (Nat.lt_succ_self n)
    rw [Tr107TrafficShaper.stateBefore, Tr107TrafficShaper.stateBefore,
      ih fun k hk => h k (Nat.lt_succ_of_lt hk), hnow, hsize]

theorem observeFirst_congr (t : NetworkCompatibilityTracker) {sentNs sentNs' : Nat → Nat} {n : Nat}
    (h : ∀ k < n, sentNs k = sentNs' k) : t.observeFirst sentNs n = t.observeFirst sentNs' n := by
  induction n with
  | zero => rfl
  | succ n ih =>
    rw [NetworkCompatibilityTracker.observeFirst, NetworkCompatibilityTracker.observeFirst,
      ih fun k hk => h k (Nat.lt_succ_of_lt hk), h n (Nat.lt_succ_self n)]

/-! ## Bounds of the shaper -/

section Bounds

variable (c : Tr107TrafficShaper)

theorem maximumPacketsPerSecond_lt : c.maximumPacketsPerSecond < 2 ^ 35 := by
  have hbitrate := c.bitrate_lt
  have hbytes := c.udpBytes_pos
  unfold Tr107TrafficShaper.maximumPacketsPerSecond Tr107TrafficShaper.maximumPacketBits
  refine Nat.div_lt_of_lt_mul ?_
  omega

theorem cmax_lt : c.cmax < 2 ^ 21 := by
  have hrate := maximumPacketsPerSecond_lt c
  unfold Tr107TrafficShaper.cmax tr107Cmax
  omega

theorem packetDrainIntervalNs_le : c.packetDrainIntervalNs ≤ 2 ^ 30 := by
  have hrate := c.maximumPacketsPerSecond_pos
  unfold Tr107TrafficShaper.packetDrainIntervalNs
  refine Nat.div_le_of_le_mul ?_
  omega

theorem maximumPacketSpacingNs_le : c.maximumPacketSpacingNs ≤ 2 ^ 39 := by
  have hbytes := c.udpBytes_lt
  have hbitrate := c.bitrate_pos
  unfold Tr107TrafficShaper.maximumPacketSpacingNs Tr107TrafficShaper.maximumPacketBits
  refine Nat.div_le_of_le_mul ?_
  omega

theorem bitSpacingNs_lt {size : Nat} (hsize : size ≤ c.maximumUdpBytes) :
    c.bitSpacingNs size < 2 ^ 40 := by
  have hbytes := c.udpBytes_lt
  have hbitrate := c.bitrate_lt
  unfold Tr107TrafficShaper.bitSpacingNs
  dsimp only
  refine lt_of_le_of_lt (Nat.div_le_self _ _) (lt_of_le_of_lt (Nat.mod_le _ _) ?_)
  have hip : Word64.wrap (size + 28) ≤ size + 28 := Nat.mod_le _ _
  omega

/-- Below this time no arrival time saturates. -/
theorem unsaturated_of_lt (s : Tr107TrafficShaper.State) {nowNs size : Nat}
    (hsize : size ≤ c.maximumUdpBytes) (htime : (c.scheduleNs s nowNs size).1 < 2 ^ 62) :
    (c.scheduleNs s nowNs size).2.Unsaturated := by
  obtain ⟨hpacket, hbitrate⟩ := c.scheduleNs_conforms s nowNs size
  have hburst := c.packetTolerance_add
  have hdrain : c.cmax * c.packetDrainIntervalNs ≤ 2 ^ 21 * 2 ^ 30 :=
    Nat.mul_le_mul (cmax_lt c).le (packetDrainIntervalNs_le c)
  have htolerance : c.bitrateTolerance ≤ 2 ^ 21 * 2 ^ 39 :=
    Nat.mul_le_mul ((Nat.sub_le _ _).trans (cmax_lt c).le) (maximumPacketSpacingNs_le c)
  have hspacing := bitSpacingNs_lt c hsize
  constructor
  · refine Word64.saturatingAdd_lt ?_
    show max (c.refresh s nowNs).packetTatNs (c.scheduleNs s nowNs size).1
      + c.packetDrainIntervalNs < Word64.maximum
    rw [Word64.maximum, Word64.size]
    omega
  · refine Word64.saturatingAdd_lt ?_
    show max (c.refresh s nowNs).bitrateTatNs (c.scheduleNs s nowNs size).1
      + c.bitSpacingNs size < Word64.maximum
    rw [Word64.maximum, Word64.size]
    omega

end Bounds

/-! ## The record of a run -/

def ReportTiming.latenessNs (t : ReportTiming) : Nat :=
  if t.actualNs > t.scheduledNs then t.actualNs - t.scheduledNs else 0

namespace Pacing

variable {c : Pacing} {network : Network}

/-- The variables of the worker are those of the packets and reports it has sent. -/
structure Recorded (c : Pacing) (p : Pacer) : Prop where
  shaper : p.shaper = c.shaper.stateBefore (column PacketTiming.requestedNs p.sent)
    (column PacketTiming.bytes p.sent) p.sent.length
  scheduled : ∀ k < p.sent.length, column PacketTiming.scheduledNs p.sent k
    = c.shaper.scheduled (column PacketTiming.requestedNs p.sent)
      (column PacketTiming.bytes p.sent) k
  networkCompatibility : p.networkCompatibility
    = NetworkCompatibilityTracker.observeFirst
      { cmax := c.shaper.cmax, packetDrainIntervalNs := c.shaper.packetDrainIntervalNs }
      (column PacketTiming.actualNs p.sent) p.sent.length
  packetLateness : p.maximumPacketLatenessNs = (p.sent.map PacketTiming.latenessNs).foldl max 0
  latePackets : p.latePackets
    = p.sent.countP fun t => t.latenessNs > c.latePacketThresholdNs
  reportLateness : p.maximumSenderReportLatenessNs
    = (p.reports.map ReportTiming.latenessNs).foldl max 0
  intervals : p.intervals = FrameIntervalTracker.observeAll 2000000000
    ((p.sent.filter PacketTiming.first).map fun t => UInt64.ofNat t.actualNs)
  srIntervals : p.srIntervals = FrameIntervalTracker.observeAll 2000000000
    (p.reports.map fun t => UInt64.ofNat t.actualNs)

/-- What does not touch the packets does not touch their record. -/
theorem Recorded.setClock {p : Pacer} (h : c.Recorded p) (clock : List Nat) :
    c.Recorded (p.setClock clock) :=
  ⟨h.shaper, h.scheduled, h.networkCompatibility, h.packetLateness, h.latePackets,
    h.reportLateness, h.intervals, h.srIntervals⟩

theorem Recorded.setPcap {p : Pacer} (h : c.Recorded p) (pcap : Option Recorder) :
    c.Recorded (p.setPcap pcap) :=
  ⟨h.shaper, h.scheduled, h.networkCompatibility, h.packetLateness, h.latePackets,
    h.reportLateness, h.intervals, h.srIntervals⟩

theorem Recorded.noteEncoderCpb {p : Pacer} (h : c.Recorded p) (scheduledNs actualNs : Nat) :
    c.Recorded (p.noteEncoderCpb scheduledNs actualNs) :=
  ⟨h.shaper, h.scheduled, h.networkCompatibility, h.packetLateness, h.latePackets,
    h.reportLateness, h.intervals, h.srIntervals⟩

theorem Recorded.noteReport {p : Pacer} (h : c.Recorded p) (t : ReportTiming) :
    c.Recorded (p.noteReport t) := by
  refine ⟨h.shaper, h.scheduled, h.networkCompatibility, h.packetLateness, h.latePackets, ?_,
    h.intervals, ?_⟩
  · show max p.maximumSenderReportLatenessNs t.latenessNs
      = ((p.reports ++ [t]).map ReportTiming.latenessNs).foldl max 0
    rw [List.map_append, List.foldl_append, ← h.reportLateness]
    rfl
  · show p.srIntervals.observe (UInt64.ofNat t.actualNs) = FrameIntervalTracker.observeAll
      2000000000 ((p.reports ++ [t]).map fun t => UInt64.ofNat t.actualNs)
    rw [List.map_append, FrameIntervalTracker.observeAll, List.foldl_append, h.srIntervals]
    rfl

/-- **One packet is recorded.** -/
theorem Recorded.sendPacket {schedule : IpmxFrameSchedule} {reportCompletedNs : Nat} {first : Bool}
    {w w' : Worker} {p p' : Pacer} {packet : Bytes} (h : c.Recorded p)
    (hpacket : c.sendPacket network schedule reportCompletedNs first w p packet = .ok (w', p')) :
    c.Recorded p' := by
  obtain ⟨_, t, completedNs, shaper, clock, pcap, _, _, _, hschedule, _, rfl⟩ :=
    sendPacket_ok hpacket
  have hearlier : ∀ k < p.sent.length,
      column PacketTiming.requestedNs (p.sent ++ [t]) k = column PacketTiming.requestedNs p.sent k
        ∧ column PacketTiming.bytes (p.sent ++ [t]) k = column PacketTiming.bytes p.sent k :=
    fun k hk => ⟨column_append _ _ hk, column_append _ _ hk⟩
  have hstate := stateBefore_congr c.shaper hearlier
  rw [← h.shaper] at hstate
  have hlast : c.shaper.scheduleNs
      (c.shaper.stateBefore (column PacketTiming.requestedNs (p.sent ++ [t]))
        (column PacketTiming.bytes (p.sent ++ [t])) p.sent.length)
      (column PacketTiming.requestedNs (p.sent ++ [t]) p.sent.length)
      (column PacketTiming.bytes (p.sent ++ [t]) p.sent.length) = (t.scheduledNs, shaper) := by
    rw [hstate, column_snoc, column_snoc, hschedule]
  refine ⟨?_, ?_, ?_, ?_, ?_, h.reportLateness, ?_, h.srIntervals⟩
  · show shaper = c.shaper.stateBefore _ _ (p.sent ++ [t]).length
    rw [List.length_append, List.length_singleton, Tr107TrafficShaper.stateBefore]
    exact (congrArg Prod.snd hlast).symm
  · intro k hk
    have hk : k < (p.sent ++ [t]).length := hk
    show column PacketTiming.scheduledNs (p.sent ++ [t]) k
      = c.shaper.scheduled (column PacketTiming.requestedNs (p.sent ++ [t]))
        (column PacketTiming.bytes (p.sent ++ [t])) k
    rw [List.length_append, List.length_singleton] at hk
    rcases Nat.lt_succ_iff_lt_or_eq.mp hk with hold | rfl
    · have hbefore := stateBefore_congr c.shaper (n := k) fun i hi =>
        hearlier i (hi.trans hold)
      rw [column_append _ _ hold, h.scheduled k hold, Tr107TrafficShaper.scheduled,
        Tr107TrafficShaper.scheduled, hbefore, (hearlier k hold).1, (hearlier k hold).2]
    · rw [column_snoc]
      exact (congrArg Prod.fst hlast).symm
  · show p.networkCompatibility.observe t.actualNs = NetworkCompatibilityTracker.observeFirst _
      (column PacketTiming.actualNs (p.sent ++ [t])) (p.sent ++ [t]).length
    rw [List.length_append, List.length_singleton, NetworkCompatibilityTracker.observeFirst,
      column_snoc, observeFirst_congr _ fun k hk => column_append PacketTiming.actualNs [t] hk,
      ← h.networkCompatibility]
  · show max p.maximumPacketLatenessNs t.latenessNs
      = ((p.sent ++ [t]).map PacketTiming.latenessNs).foldl max 0
    rw [List.map_append, List.foldl_append, ← h.packetLateness]
    rfl
  · show p.latePackets + (if t.latenessNs > c.latePacketThresholdNs then 1 else 0)
      = (p.sent ++ [t]).countP fun t => t.latenessNs > c.latePacketThresholdNs
    rw [List.countP_append, List.countP_singleton, ← h.latePackets]
    simp
  · show (if t.first then p.intervals.observe (UInt64.ofNat t.actualNs) else p.intervals)
      = FrameIntervalTracker.observeAll 2000000000
        (((p.sent ++ [t]).filter PacketTiming.first).map fun t => UInt64.ofNat t.actualNs)
    rw [List.filter_append, List.map_append, FrameIntervalTracker.observeAll, List.foldl_append,
      h.intervals]
    cases hfirst : t.first with
    | false =>
      rw [List.filter_cons_of_neg (by simp [hfirst])]
      rfl
    | true =>
      rw [List.filter_cons_of_pos hfirst]
      rfl

theorem Recorded.sendPackets {schedule : IpmxFrameSchedule} {reportCompletedNs : Nat}
    {first : Bool} {w w' : Worker} {p p' : Pacer} {packets : List Bytes} (h : c.Recorded p)
    (hpackets : c.sendPackets network schedule reportCompletedNs first w p packets
      = .ok (w', p')) : c.Recorded p' := by
  induction packets generalizing first w p with
  | nil =>
    obtain ⟨_, rfl⟩ := Prod.mk.inj (Except.ok.inj hpackets)
    exact h
  | cons packet packets ih =>
    obtain ⟨⟨w₁, p₁⟩, hpacket, hrest⟩ := bind_eq_ok.mp hpackets
    exact ih (h.sendPacket hpacket) hrest

theorem Recorded.transmit {w w' : Worker} {p p' : Pacer} {frame : TransmitFrame}
    (h : c.Recorded p) (hround : c.transmit network w p frame = .ok (w', p')) :
    c.Recorded p' := by
  obtain ⟨_, _, packets, _, report, _, _, clock, _, pcap, _, _, _, _, _, _, _, _, _, hframe⟩ :=
    transmit_ok hround
  have hnoted := ((h.noteReport report).setClock clock).setPcap pcap
  unfold sendFrame at hframe
  split at hframe
  · obtain ⟨_, rfl⟩ := Prod.mk.inj (Except.ok.inj hframe)
    exact hnoted
  · obtain ⟨p₁, hwait, hframe⟩ := bind_eq_ok.mp hframe
    obtain ⟨_, _, clock₁, _, _, rfl⟩ := Pacer.waitUntil_ok hwait
    obtain ⟨⟨actualNs, p₂⟩, hactual, hframe⟩ := bind_eq_ok.mp hframe
    obtain ⟨clock₂, _, rfl⟩ := Pacer.qpcNowNs_ok hactual
    obtain ⟨⟨w₁, p₃⟩, hpackets, hframe⟩ := bind_eq_ok.mp hframe
    obtain ⟨_, rfl⟩ := Prod.mk.inj (Except.ok.inj hframe)
    have hread := (hnoted.setClock clock₁).setClock clock₂
    exact (hread.noteEncoderCpb _ actualNs).sendPackets hpackets

theorem Recorded.run {w w' : Worker} {p p' : Pacer} {frames : List TransmitFrame}
    (h : c.Recorded p) (hrun : c.run network w p frames = .ok (w', p')) : c.Recorded p' := by
  induction frames generalizing w p with
  | nil =>
    obtain ⟨_, rfl⟩ := Prod.mk.inj (Except.ok.inj hrun)
    exact h
  | cons frame frames ih =>
    obtain ⟨⟨w₁, p₁⟩, hround, hrest⟩ := bind_eq_ok.mp hrun
    exact ih (h.transmit hround) hrest

theorem recorded_initial {clock : List Nat} {p : Pacer} (hinitial : c.initial? clock = some p) :
    c.Recorded p := by
  rw [initial?_eq] at hinitial
  obtain rfl := Option.some.inj hinitial
  exact ⟨rfl, fun k hk => absurd hk (Nat.not_lt_zero k), rfl, rfl, rfl, rfl, rfl, rfl⟩

/-! ## Compliance -/

theorem foldl_max_le_iff {values : List Nat} {start bound : Nat} :
    values.foldl max start ≤ bound ↔ start ≤ bound ∧ ∀ value ∈ values, value ≤ bound := by
  induction values generalizing start with
  | nil => simp
  | cons first values ih =>
    rw [List.foldl_cons, ih, max_le_iff, List.forall_mem_cons, and_assoc]

theorem sizes_sent {frames : List TransmitFrame} {timings : List FrameTiming}
    (h : List.Forall₂ c.OnSchedule frames timings) :
    (timings.flatMap FrameTiming.packets).map PacketTiming.bytes
      = frames.flatMap fun frame => frame.rtpPackets.map List.length := by
  induction h with
  | nil => rfl
  | cons hfirst _ ih =>
    rw [List.flatMap_cons, List.map_append, hfirst.sizes, ih]
    rfl

/-- What is counted as late is what the reported lateness shows. -/
theorem Recorded.latePackets_eq_zero {p : Pacer} (h : c.Recorded p) :
    p.latePackets = 0 ↔ p.maximumPacketLatenessNs ≤ c.latePacketThresholdNs := by
  rw [h.latePackets, h.packetLateness, foldl_max_le_iff, List.countP_eq_zero, List.forall_mem_map]
  simp

/-- The tracker against the shaper, packet by packet. -/
theorem coupled_run {shaper : Tr107TrafficShaper} {nowNs size sentNs : Nat → Nat} {L n : Nat}
    (hsat : ∀ k < n, (shaper.stateBefore nowNs size (k + 1)).Unsaturated)
    (hsent : ∀ k < n, 0 < sentNs k ∧ sentNs k < Word64.size
      ∧ shaper.scheduled nowNs size k ≤ sentNs k ∧ sentNs k ≤ shaper.scheduled nowNs size k + L)
    (hnow : ∀ k, k + 1 < n → sentNs k ≤ nowNs (k + 1)) {k : Nat} (hk : k < n) :
    sentNs 0 ≤ sentNs k
      ∧ NetworkCompatibilityTracker.Coupled shaper L (sentNs 0) (sentNs k)
        (shaper.stateBefore nowNs size (k + 1))
        (NetworkCompatibilityTracker.observeFirst
          { cmax := shaper.cmax, packetDrainIntervalNs := shaper.packetDrainIntervalNs }
          sentNs (k + 1)) := by
  induction k with
  | zero => exact ⟨Nat.le_refl _, NetworkCompatibilityTracker.coupled_first hsat hsent hk⟩
  | succ k ih =>
    obtain ⟨hfirst, hcoupled⟩ := ih (by omega)
    have hscheduled := shaper.now_le_scheduled (shaper.stateBefore nowNs size (k + 1))
      (nowNs (k + 1)) (size (k + 1))
    have hwaited := (hsent (k + 1) hk).2.2.1
    have hnext : sentNs k ≤ sentNs (k + 1) := (hnow k hk).trans (hscheduled.trans hwaited)
    exact ⟨hfirst.trans hnext,
      hcoupled.observe hsat hsent hk (hsent 0 (by omega)).1 ⟨hfirst, hnext⟩⟩

/-- The counter of the tracker and the lateness of the packets. -/
theorem compatible {readings : List Nat} {p : Pacer} {lastNs : Nat} (hrecorded : c.Recorded p)
    (htimely : c.Timely readings p lastNs)
    (hreadings : ∀ nowNs ∈ readings, 0 < nowNs ∧ nowNs < 2 ^ 62)
    (hsizes : ∀ t ∈ p.sent, t.bytes ≤ c.shaper.maximumUdpBytes) :
    p.networkCompatibility.maximumCinst ≤ c.shaper.cmax
        + (p.maximumPacketLatenessNs + c.shaper.packetDrainIntervalNs - 1)
          / c.shaper.packetDrainIntervalNs
      ∧ (p.maximumPacketLatenessNs = 0 → p.networkCompatibility.violations = 0) := by
  have hlate : ∀ t ∈ p.sent, t.actualNs ≤ t.scheduledNs + p.maximumPacketLatenessNs := by
    intro t ht
    have hall := (foldl_max_le_iff.mp hrecorded.packetLateness.ge).2 t.latenessNs
      (List.mem_map_of_mem ht)
    unfold PacketTiming.latenessNs at hall
    split at hall <;> omega
  have hsent : ∀ k < p.sent.length, 0 < column PacketTiming.actualNs p.sent k
      ∧ column PacketTiming.actualNs p.sent k < 2 ^ 62
      ∧ c.shaper.scheduled (column PacketTiming.requestedNs p.sent)
          (column PacketTiming.bytes p.sent) k ≤ column PacketTiming.actualNs p.sent k
      ∧ column PacketTiming.actualNs p.sent k ≤ c.shaper.scheduled
          (column PacketTiming.requestedNs p.sent) (column PacketTiming.bytes p.sent) k
            + p.maximumPacketLatenessNs := by
    intro k hk
    have hmem := List.getElem_mem hk
    rw [← hrecorded.scheduled k hk, column_getElem _ hk, column_getElem _ hk]
    obtain ⟨hpos, hsmall⟩ := hreadings _ (htimely.read _ hmem)
    exact ⟨hpos, hsmall, (htimely.waited _ hmem).2.1, hlate _ hmem⟩
  have hsat : ∀ k < p.sent.length, (c.shaper.stateBefore (column PacketTiming.requestedNs p.sent)
      (column PacketTiming.bytes p.sent) (k + 1)).Unsaturated := by
    intro k hk
    obtain ⟨_, hsmall, hwaited, _⟩ := hsent k hk
    refine unsaturated_of_lt c.shaper _ ?_ (lt_of_le_of_lt hwaited hsmall)
    rw [column_getElem _ hk]
    exact hsizes _ (List.getElem_mem hk)
  have hnow : ∀ k, k + 1 < p.sent.length → column PacketTiming.actualNs p.sent k
      ≤ column PacketTiming.requestedNs p.sent (k + 1) := by
    intro k hk
    rw [column_getElem _ (Nat.lt_of_succ_lt hk), column_getElem _ hk]
    exact (List.isChain_iff_getElem.mp htimely.chain k hk).1
  rw [hrecorded.networkCompatibility]
  cases hlength : p.sent.length with
  | zero => exact ⟨Nat.zero_le _, fun _ => rfl⟩
  | succ n =>
    have hlast : n < p.sent.length := by omega
    have hcoupled := (coupled_run hsat (fun k hk => by
      obtain ⟨hpos, hsmall, hwaited, hlate⟩ := hsent k hk
      exact ⟨hpos, hsmall.trans (by decide), hwaited, hlate⟩) hnow hlast).2
    exact ⟨hcoupled.maximum, hcoupled.violations⟩

/-- **The shaper is kept.** Under a clock that does not go back, the tracker counts above CMAX by
no more packets than the lateness the worker reports accounts for, and late packets are counted
exactly if this lateness is above the threshold. A worker that was never late is compliant. -/
theorem run_compatible {clock : List Nat} {w w' : Worker} {p p' : Pacer}
    {frames : List TransmitFrame} (hinitial : c.initial? clock = some p)
    (hsorted : clock.Pairwise (· ≤ ·)) (hreadings : ∀ nowNs ∈ clock, 0 < nowNs ∧ nowNs < 2 ^ 62)
    (hoffset : c.transmitter.timing.accessUnitOffsetNs < 2 ^ 62)
    (hsizes : ∀ frame ∈ frames, ∀ packet ∈ frame.rtpPackets,
      packet.length ≤ c.shaper.maximumUdpBytes)
    (hrun : c.run network w p frames = .ok (w', p')) :
    p'.networkCompatibility.maximumCinst ≤ c.shaper.cmax
        + (p'.maximumPacketLatenessNs + c.shaper.packetDrainIntervalNs - 1)
          / c.shaper.packetDrainIntervalNs
      ∧ (p'.latePackets = 0 ↔ p'.maximumPacketLatenessNs ≤ c.latePacketThresholdNs)
      ∧ (p'.maximumPacketLatenessNs = 0 → c.shaperCompliant p' = true) := by
  have hrecorded := (recorded_initial hinitial).run hrun
  have hfits : c.Fits clock := by
    intro nowNs hmem
    have := (hreadings nowNs hmem).2
    rw [Word64.size]
    omega
  obtain ⟨timings, nextNs, hsent, _, hall, htimely⟩ :=
    run_timely hinitial hsorted hfits (hoffset.trans (by decide)) hrun
  have hbytes : ∀ t ∈ p'.sent, t.bytes ≤ c.shaper.maximumUdpBytes := by
    intro t ht
    have hmem := List.mem_map_of_mem (f := PacketTiming.bytes) ht
    rw [hsent, sizes_sent hall] at hmem
    obtain ⟨frame, hframe, hlength⟩ := List.mem_flatMap.mp hmem
    obtain ⟨packet, hpacket, hsize⟩ := List.mem_map.mp hlength
    rw [← hsize]
    exact hsizes frame hframe packet hpacket
  obtain ⟨hmaximum, hviolations⟩ := compatible hrecorded htimely hreadings hbytes
  refine ⟨hmaximum, hrecorded.latePackets_eq_zero, fun hzero => ?_⟩
  have hcmax : p'.networkCompatibility.maximumCinst ≤ c.shaper.cmax := by
    have hpos := c.shaper.packetDrainIntervalNs_pos
    rw [hzero, Nat.zero_add, Nat.div_eq_of_lt (by omega)] at hmaximum
    exact hmaximum
  have hnone : p'.latePackets = 0 := hrecorded.latePackets_eq_zero.mpr (by omega)
  simp [shaperCompliant, hviolations hzero, hnone, hcmax]

/-- The packet that is 1 ns late is not counted as late. -/
theorem run_compatible_pacing50 :
    ∃ p w p', pacing50.run (fun _ => true) {} p pacedFrames = .ok (w, p')
      ∧ p'.networkCompatibility.maximumCinst ≤ pacing50.shaper.cmax
        + (p'.maximumPacketLatenessNs + pacing50.shaper.packetDrainIntervalNs - 1)
          / pacing50.shaper.packetDrainIntervalNs
      ∧ (p'.latePackets = 0 ↔ p'.maximumPacketLatenessNs ≤ pacing50.latePacketThresholdNs)
      ∧ (p'.maximumPacketLatenessNs = 0 → pacing50.shaperCompliant p' = true) := by
  obtain ⟨p, w, p', hinitial, hrun, _⟩ := run_pacing50
  have hsizes : ∀ frame ∈ pacedFrames, ∀ packet ∈ frame.rtpPackets,
      packet.length ≤ pacing50.shaper.maximumUdpBytes := by
    decide
  exact ⟨p, w, p', hrun,
    run_compatible hinitial (by decide) (by decide) (by decide) hsizes hrun⟩

end Pacing
end Ipmx.Sender
