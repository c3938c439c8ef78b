/-
Ipmx.Timing.TrafficShaperTheorems — the two buckets of the shaper over whole
runs, and the tracker that observes them.

`schedule_ns` is virtual scheduling twice (`Ipmx.Lib.VirtualScheduling`):
`packet_admits` holds for every run without saturation, `bitrate_admits` for
those in which the drift reset, which is decided on the packet bucket, finds
no debt in the bitrate bucket. `bitrate_window` is the window bound that
follows, and `bitrate_window_broken` a run where the reset forgets debt.

`Coupled` ties the tracker's counter to the shaper's packet bucket; its step
lemma gives `maximumCinst_le`.
-/
import Ipmx.Lib.VirtualScheduling
import Ipmx.Timing.TrafficShaper

namespace Ipmx.Timing

open Ipmx.Lib
open Ipmx.Lib.VirtualScheduling

namespace Tr107TrafficShaper

/-! ## The configuration -/

theorem maximumPacketBits_pos (c : Tr107TrafficShaper) : 0 < c.maximumPacketBits := by
  unfold maximumPacketBits; omega

theorem maximumPacketsPerSecond_pos (c : Tr107TrafficShaper) :
    0 < c.maximumPacketsPerSecond := by
  have hbits := c.maximumPacketBits_pos
  have hrate := c.bitrate_pos
  exact Nat.div_pos (by omega) hbits

theorem packetDrainIntervalNs_pos (c : Tr107TrafficShaper) : 0 < c.packetDrainIntervalNs := by
  have hrate := c.maximumPacketsPerSecond_pos
  exact Nat.div_pos (by omega) (by omega)

theorem cmax_ge (c : Tr107TrafficShaper) : 16 ≤ c.cmax := by
  unfold cmax tr107Cmax; omega

/-- A CMAX burst: the tolerance and the packet itself. -/
theorem packetTolerance_add (c : Tr107TrafficShaper) :
    c.packetTolerance + c.packetDrainIntervalNs = c.cmax * c.packetDrainIntervalNs := by
  obtain ⟨m, hm⟩ : ∃ m, c.cmax = m + 1 := ⟨c.cmax - 1, by have := c.cmax_ge; omega⟩
  rw [packetTolerance, hm, Nat.add_sub_cancel, Nat.add_mul, Nat.one_mul]

/-! ## One call -/

/-- Neither arrival time has reached the largest value. -/
structure State.Unsaturated (s : State) : Prop where
  packet : s.packetTatNs < Word64.maximum
  bitrate : s.bitrateTatNs < Word64.maximum

/-- The first packet's state. -/
theorem unsaturated_initial : State.Unsaturated {} := ⟨by decide, by decide⟩

/-- The resets either move both arrival times to the current time or do nothing. -/
theorem refresh_cases (c : Tr107TrafficShaper) (s : State) (nowNs : Nat) :
    c.refresh s nowNs = ⟨nowNs, nowNs⟩ ∧ (c.Drifted s nowNs ∨ s.packetTatNs = 0)
      ∨ c.refresh s nowNs = s := by
  unfold refresh
  by_cases hdrift : c.Drifted s nowNs
  · left
    simp only [if_pos hdrift]
    exact ⟨by split <;> rfl, .inl hdrift⟩
  · simp only [if_neg hdrift]
    split
    · next hzero => exact .inl ⟨rfl, .inr hzero⟩
    · exact .inr rfl

/-- The packet bucket is never moved back. -/
theorem le_refresh_packet (c : Tr107TrafficShaper) {s : State} (h : s.Unsaturated)
    (nowNs : Nat) : s.packetTatNs ≤ (c.refresh s nowNs).packetTatNs := by
  rcases c.refresh_cases s nowNs with ⟨heq, ⟨⟨_, hlate, _⟩ | hfull⟩ | hzero⟩ | heq
  · rw [heq]
    exact Nat.le_of_lt hlate
  · exact absurd hfull h.packet.ne
  · rw [heq, hzero]
    exact Nat.zero_le _
  · rw [heq]

/-- The bitrate bucket is moved back only by a drift that finds it in debt. -/
theorem le_refresh_bitrate (c : Tr107TrafficShaper) {s : State} {nowNs : Nat}
    (hstart : s.packetTatNs = 0 → s.bitrateTatNs = 0)
    (hdebt : ¬ (c.Drifted s nowNs ∧ s.bitrateTatNs > nowNs)) :
    s.bitrateTatNs ≤ (c.refresh s nowNs).bitrateTatNs := by
  rcases c.refresh_cases s nowNs with ⟨heq, hdrift | hzero⟩ | heq
  · rw [heq]
    exact not_lt.mp fun hlt => hdebt ⟨hdrift, hlt⟩
  · rw [heq, hstart hzero]
    exact Nat.zero_le _
  · rw [heq]

theorem now_le_scheduled (c : Tr107TrafficShaper) (s : State) (nowNs size : Nat) :
    nowNs ≤ (c.scheduleNs s nowNs size).1 := by
  unfold scheduleNs; exact le_max_left _ _

/-- Both buckets admit the packet at its scheduled time. -/
theorem scheduleNs_conforms (c : Tr107TrafficShaper) (s : State) (nowNs size : Nat) :
    (c.refresh s nowNs).packetTatNs ≤ (c.scheduleNs s nowNs size).1 + c.packetTolerance
      ∧ (c.refresh s nowNs).bitrateTatNs
        ≤ (c.scheduleNs s nowNs size).1 + c.bitrateTolerance := by
  unfold scheduleNs
  dsimp only
  omega

/-- Without saturation both buckets are charged. -/
theorem scheduleNs_charges (c : Tr107TrafficShaper) (s : State) (nowNs size : Nat)
    (h : (c.scheduleNs s nowNs size).2.Unsaturated) :
    (c.scheduleNs s nowNs size).2.packetTatNs
        = charge (c.refresh s nowNs).packetTatNs (c.scheduleNs s nowNs size).1
            c.packetDrainIntervalNs
      ∧ (c.scheduleNs s nowNs size).2.bitrateTatNs
        = charge (c.refresh s nowNs).bitrateTatNs (c.scheduleNs s nowNs size).1
            (c.bitSpacingNs size) :=
  ⟨Word64.saturatingAdd_of_lt h.packet, Word64.saturatingAdd_of_lt h.bitrate⟩

/-! ## Runs -/

section Run

variable (c : Tr107TrafficShaper) (nowNs size : Nat → Nat)

/-- The state packet `k` is held against, after the resets. -/
def admitted (k : Nat) : State :=
  c.refresh (c.stateBefore nowNs size k) (nowNs k)

variable {n : Nat} (hsat : ∀ k < n, (c.stateBefore nowNs size (k + 1)).Unsaturated)

include hsat

theorem unsaturated_stateBefore {k : Nat} (hk : k ≤ n) :
    (c.stateBefore nowNs size k).Unsaturated := by
  cases k with
  | zero => exact unsaturated_initial
  | succ k => exact hsat k hk

theorem stateBefore_charges {k : Nat} (hk : k < n) :
    (c.stateBefore nowNs size (k + 1)).packetTatNs
        = charge (c.admitted nowNs size k).packetTatNs (c.scheduled nowNs size k)
            c.packetDrainIntervalNs
      ∧ (c.stateBefore nowNs size (k + 1)).bitrateTatNs
        = charge (c.admitted nowNs size k).bitrateTatNs (c.scheduled nowNs size k)
            (c.bitSpacingNs (size k)) :=
  c.scheduleNs_charges _ _ _ (hsat k hk)

/-- The packet bucket is in use from the first packet on. -/
theorem packetTat_zero {k : Nat} (hk : k ≤ n)
    (hzero : (c.stateBefore nowNs size k).packetTatNs = 0) : k = 0 := by
  cases k with
  | zero => rfl
  | succ k =>
    have hcharge := (stateBefore_charges c nowNs size hsat hk).1
    have hpos := c.packetDrainIntervalNs_pos
    unfold charge at hcharge
    omega

theorem packet_admits :
    Admits c.packetTolerance (fun k => (c.admitted nowNs size k).packetTatNs)
      (c.scheduled nowNs size) (fun _ => c.packetDrainIntervalNs) n where
  conforms := fun _ _ => (c.scheduleNs_conforms _ _ _).1
  charged := fun k hk => by
    have hk' : k < n := by omega
    rw [← (stateBefore_charges c nowNs size hsat hk').1]
    exact c.le_refresh_packet (hsat k hk') _

/-- The bitrate bucket admits a run in which no drift reset finds it in debt. -/
theorem bitrate_admits
    (hdebt : ∀ k < n, ¬ (c.Drifted (c.stateBefore nowNs size k) (nowNs k)
      ∧ (c.stateBefore nowNs size k).bitrateTatNs > nowNs k)) :
    Admits c.bitrateTolerance (fun k => (c.admitted nowNs size k).bitrateTatNs)
      (c.scheduled nowNs size) (fun k => c.bitSpacingNs (size k)) n where
  conforms := fun _ _ => (c.scheduleNs_conforms _ _ _).2
  charged := fun k hk => by
    have hk' : k < n := by omega
    rw [← (stateBefore_charges c nowNs size hsat hk').2]
    refine c.le_refresh_bitrate (fun hzero => ?_) (hdebt (k + 1) hk)
    exact absurd (packetTat_zero c nowNs size hsat hk' hzero) (by omega)

end Run

/-- **The bitrate window.** In a run without saturation whose drift resets never find the
bitrate bucket in debt, no window carries more bits than its length at the maximum bitrate
and one CMAX burst. -/
theorem bitrate_window (c : Tr107TrafficShaper) (nowNs size : Nat → Nat) {n : Nat}
    (hsat : ∀ k < n, (c.stateBefore nowNs size (k + 1)).Unsaturated)
    (hdebt : ∀ k < n, ¬ (c.Drifted (c.stateBefore nowNs size k) (nowNs k)
      ∧ (c.stateBefore nowNs size k).bitrateTatNs > nowNs k))
    {i j : Nat} (hij : i ≤ j) (hj : j < n) :
    c.scheduled nowNs size i + ∑ k ∈ Finset.Ico i j, c.bitSpacingNs (size k)
      ≤ c.scheduled nowNs size j + (c.cmax - 1) * c.maximumPacketSpacingNs :=
  (bitrate_admits c nowNs size hsat hdebt).window (Nat.zero_le _) hij hj

/-- The window bound on a burst of three packets and a fourth after a pause. -/
theorem bitrate_window_burst :
    let c : Tr107TrafficShaper :=
      ⟨1000, 1460, 100000000, by decide, by decide, by decide, by decide, by decide, by decide⟩
    let nowNs : Nat → Nat := fun k => if k < 3 then 5 else 50000000
    c.scheduled nowNs (fun _ => 1460) 0
        + ∑ k ∈ Finset.Ico 0 3, c.bitSpacingNs ((fun _ => 1460) k)
      ≤ c.scheduled nowNs (fun _ => 1460) 3 + (c.cmax - 1) * c.maximumPacketSpacingNs := by
  intro c nowNs
  have hsat : ∀ k < 4, (c.stateBefore nowNs (fun _ => 1460) (k + 1)).packetTatNs
        < Word64.maximum
      ∧ (c.stateBefore nowNs (fun _ => 1460) (k + 1)).bitrateTatNs < Word64.maximum := by
    decide
  exact c.bitrate_window nowNs _ (n := 4) (fun k hk => ⟨(hsat k hk).1, (hsat k hk).2⟩)
    (by decide) (by simp) (by simp)

/-- A drift reset that forgets debt: six packets at once, the seventh 100 ms after the packet
bucket ran empty, when the slower bitrate bucket still owes 8 ms, and fifteen more with it. -/
theorem bitrate_window_broken :
    let c : Tr107TrafficShaper :=
      ⟨100, 1460, 100000000, by decide, by decide, by decide, by decide, by decide, by decide⟩
    let nowNs : Nat → Nat := fun k => if k < 6 then 1 else 706060614
    (∀ k < 22, c.scheduled nowNs (fun _ => 1460) k ≤ nowNs (k + 1))
      ∧ (∀ k < 22, nowNs k ≤ nowNs (k + 1))
      ∧ (∀ k < 22, (c.stateBefore nowNs (fun _ => 1460) (k + 1)).packetTatNs < Word64.maximum
        ∧ (c.stateBefore nowNs (fun _ => 1460) (k + 1)).bitrateTatNs < Word64.maximum)
      ∧ ¬ c.scheduled nowNs (fun _ => 1460) 0
          + ∑ k ∈ Finset.Ico 0 21, c.bitSpacingNs ((fun _ => 1460) k)
        ≤ c.scheduled nowNs (fun _ => 1460) 21 + (c.cmax - 1) * c.maximumPacketSpacingNs := by
  decide +kernel

end Tr107TrafficShaper

/-! ## The tracker -/

namespace NetworkCompatibilityTracker

/-- The tracker for a shaper: the drain interval of the two is the same. -/
theorem new?_shaper (c : Tr107TrafficShaper) :
    new? c.maximumPacketsPerSecond c.cmax defaultBetaNumerator defaultBetaDenominator
      = some { cmax := c.cmax, packetDrainIntervalNs := c.packetDrainIntervalNs } := by
  have hrate := c.maximumPacketsPerSecond_pos
  have hcmax := c.cmax_ge
  have hinterval := c.packetDrainIntervalNs_pos
  have hparameters : ¬ (c.maximumPacketsPerSecond = 0 ∨ c.cmax = 0
      ∨ defaultBetaNumerator = 0 ∨ defaultBetaDenominator = 0) := by
    unfold defaultBetaNumerator defaultBetaDenominator; omega
  rw [new?, if_neg hparameters]
  unfold defaultBetaNumerator defaultBetaDenominator
  dsimp only
  split
  · next hfast =>
    -- faster than one packet each nanosecond: both sides round up to one
    have hone : c.packetDrainIntervalNs = 1 := by
      refine Nat.le_antisymm (Nat.lt_succ_iff.mp ?_) hinterval
      exact (Nat.div_lt_iff_lt_mul (by omega)).mpr (by omega)
    rw [hone]
  · have hmax : max 1 ((1000000000 * 10 + c.maximumPacketsPerSecond * 11 - 1)
        / (c.maximumPacketsPerSecond * 11)) = c.packetDrainIntervalNs := max_eq_right hinterval
    rw [hmax]

/-- A packet drains the level by the ticks since the last one, as long as time goes on. -/
theorem drain_of_ticks (t : NetworkCompatibilityTracker) {sentNs : Nat}
    (hepoch : t.epochNs ≠ 0) (hafter : t.epochNs ≤ sentNs) (hword : sentNs < Word64.size)
    (hticks : t.lastDrainCount ≤ (sentNs - t.epochNs) / t.packetDrainIntervalNs) :
    t.drain sentNs
      = { t with
          cinst := t.cinst - ((sentNs - t.epochNs) / t.packetDrainIntervalNs - t.lastDrainCount)
          lastDrainCount := (sentNs - t.epochNs) / t.packetDrainIntervalNs } := by
  have hsmall : (sentNs - t.epochNs) / t.packetDrainIntervalNs < Word64.size :=
    lt_of_le_of_lt (Nat.div_le_self _ _) (by omega)
  rw [drain, if_neg hepoch, if_pos hafter]
  dsimp only
  rw [Word64.sub_of_le hticks hsmall]
  congr 1
  split <;> omega

/-- What one observation keeps of a tracker's level: it is drained by the ticks since the last
packet, and the packet adds at most one. -/
theorem observe_level (t : NetworkCompatibilityTracker) {sentNs : Nat}
    (hepoch : t.epochNs ≠ 0) (hafter : t.epochNs ≤ sentNs) (hword : sentNs < Word64.size)
    (hticks : t.lastDrainCount ≤ (sentNs - t.epochNs) / t.packetDrainIntervalNs) :
    (t.observe sentNs).lastDrainCount + (t.observe sentNs).cinst
      ≤ charge (t.lastDrainCount + t.cinst)
          ((sentNs - t.epochNs) / t.packetDrainIntervalNs) 1 := by
  have hdrain := t.drain_of_ticks hepoch hafter hword hticks
  have hlevel := add_drain t.cinst hticks
  rw [observe, hdrain]
  unfold count charge
  dsimp only
  split <;> omega

/-- The tracker that has observed the packets sent up to `last`, against the shaper that
scheduled them. The counter is a bucket in ticks from the first packet on, and stays behind
the packet bucket up to the lateness `L` of the packets. -/
structure Coupled (c : Tr107TrafficShaper) (L epoch last : Nat) (s : Tr107TrafficShaper.State)
    (t : NetworkCompatibilityTracker) : Prop where
  interval : t.packetDrainIntervalNs = c.packetDrainIntervalNs
  limit : t.cmax = c.cmax
  start : t.epochNs = epoch
  ticks : t.lastDrainCount = (last - epoch) / c.packetDrainIntervalNs
  behind : epoch + (t.lastDrainCount + t.cinst) * c.packetDrainIntervalNs ≤ s.packetTatNs + L
  ahead : s.packetTatNs ≤ last + c.cmax * c.packetDrainIntervalNs
  maximum : t.maximumCinst
    ≤ c.cmax + (L + c.packetDrainIntervalNs - 1) / c.packetDrainIntervalNs
  violations : L = 0 → t.violations = 0

/-- A level less than `L` and one step above `m` steps is at most `m` and the steps of `L`. -/
theorem level_le {level m step L : Nat} (hstep : 0 < step)
    (h : level * step < m * step + L + step) : level ≤ m + (L + step - 1) / step := by
  by_contra hlt
  have hmul : (m + (L + step - 1) / step + 1) * step ≤ level * step :=
    Nat.mul_le_mul_right step (by omega)
  have hceil : L ≤ (L + step - 1) / step * step := by
    have := Nat.div_add_mod (L + step - 1) step
    have hmod := Nat.mod_lt (L + step - 1) hstep
    rw [Nat.mul_comm] at this
    omega
  rw [Nat.add_mul, Nat.add_mul, Nat.one_mul] at hmul
  omega

/-- The level behind the bucket bounds the counter, and with it the tracker's maximum. -/
theorem cinst_le {c : Tr107TrafficShaper} {L epoch last tat : Nat}
    {t : NetworkCompatibilityTracker} (hlast : epoch ≤ last)
    (hticks : t.lastDrainCount = (last - epoch) / c.packetDrainIntervalNs)
    (hbehind : epoch + (t.lastDrainCount + t.cinst) * c.packetDrainIntervalNs ≤ tat + L)
    (hahead : tat ≤ last + c.cmax * c.packetDrainIntervalNs) :
    t.cinst ≤ c.cmax + (L + c.packetDrainIntervalNs - 1) / c.packetDrainIntervalNs := by
  have hpos := c.packetDrainIntervalNs_pos
  refine level_le hpos ?_
  have hsplit := Nat.div_add_mod (last - epoch) c.packetDrainIntervalNs
  have hmod := Nat.mod_lt (last - epoch) hpos
  rw [← hticks, Nat.mul_comm] at hsplit
  rw [Nat.add_mul] at hbehind
  omega

/-- The count at the end of an observation keeps the coupling. -/
theorem coupled_of_level {c : Tr107TrafficShaper} {L epoch last : Nat}
    {s : Tr107TrafficShaper.State} {t u : NetworkCompatibilityTracker} (hlast : epoch ≤ last)
    (hu : u.packetDrainIntervalNs = c.packetDrainIntervalNs ∧ u.cmax = c.cmax ∧ u.epochNs = epoch)
    (hticks : u.lastDrainCount = (last - epoch) / c.packetDrainIntervalNs)
    (hbehind : epoch + (u.lastDrainCount + u.cinst) * c.packetDrainIntervalNs ≤ s.packetTatNs + L)
    (hahead : s.packetTatNs ≤ last + c.cmax * c.packetDrainIntervalNs)
    (hmaximum : u.maximumCinst = max t.maximumCinst u.cinst)
    (hviolations : ¬ u.cinst > u.cmax → u.violations = t.violations)
    (hbefore : t.maximumCinst
        ≤ c.cmax + (L + c.packetDrainIntervalNs - 1) / c.packetDrainIntervalNs
      ∧ (L = 0 → t.violations = 0)) :
    Coupled c L epoch last s u := by
  have hcinst := cinst_le hlast hticks hbehind hahead
  refine ⟨hu.1, hu.2.1, hu.2.2, hticks, hbehind, hahead, ?_, fun hzero => ?_⟩
  · rw [hmaximum]
    exact max_le hbefore.1 hcinst
  · rw [hviolations ?_, hbefore.2 hzero]
    rw [hzero, Nat.zero_add, Nat.div_eq_of_lt (by have := c.packetDrainIntervalNs_pos; omega)]
      at hcinst
    omega

section Run

variable {c : Tr107TrafficShaper} {nowNs size sentNs : Nat → Nat} {L n : Nat}
  (hsat : ∀ k < n, (c.stateBefore nowNs size (k + 1)).Unsaturated)
  (hsent : ∀ k < n, 0 < sentNs k ∧ sentNs k < Word64.size
    ∧ c.scheduled nowNs size k ≤ sentNs k ∧ sentNs k ≤ c.scheduled nowNs size k + L)

include hsat hsent

/-- The packet bucket after a packet is at most one CMAX burst ahead of it. -/
theorem packetTat_le_sent {k : Nat} (hk : k < n) :
    (c.stateBefore nowNs size (k + 1)).packetTatNs
      ≤ sentNs k + c.cmax * c.packetDrainIntervalNs := by
  have hcharge := (c.stateBefore_charges nowNs size hsat hk).1
  have hconforms := (c.packet_admits nowNs size hsat).conforms k hk
  have hle : charge _ _ c.packetDrainIntervalNs ≤ _ := charge_le (Nat.zero_le _) hconforms
  have hadd := c.packetTolerance_add
  have hlate := (hsent k hk).2.2.1
  omega

/-- The first packet of a run. -/
theorem coupled_first (hn : 0 < n) :
    Coupled c L (sentNs 0) (sentNs 0) (c.stateBefore nowNs size 1)
      (observe { cmax := c.cmax, packetDrainIntervalNs := c.packetDrainIntervalNs }
        (sentNs 0)) := by
  have hlate := (hsent 0 hn).2.2.2
  have hcharge : (c.stateBefore nowNs size 1).packetTatNs = _ :=
    (c.stateBefore_charges nowNs size hsat hn).1
  have hserved := add_le_charge_right (c.admitted nowNs size 0).packetTatNs
    (c.scheduled nowNs size 0) c.packetDrainIntervalNs
  refine coupled_of_level (t := { cmax := c.cmax, packetDrainIntervalNs := c.packetDrainIntervalNs })
    (Nat.le_refl _) ⟨rfl, rfl, rfl⟩ ?_ ?_ (packetTat_le_sent hsat hsent hn) rfl ?_ ?_
  · rw [Nat.sub_self, Nat.zero_div]
    rfl
  · have hone : (observe { cmax := c.cmax, packetDrainIntervalNs := c.packetDrainIntervalNs }
        (sentNs 0)).cinst = 1 := rfl
    have hzero : (observe { cmax := c.cmax, packetDrainIntervalNs := c.packetDrainIntervalNs }
        (sentNs 0)).lastDrainCount = 0 := rfl
    rw [hone, hzero]
    omega
  · exact fun hle => if_neg hle
  · exact ⟨Nat.zero_le _, fun _ => rfl⟩

/-- **Every later packet.** -/
theorem Coupled.observe {epoch last k : Nat} {t : NetworkCompatibilityTracker}
    (h : Coupled c L epoch last (c.stateBefore nowNs size k) t) (hk : k < n)
    (hepoch : 0 < epoch) (horder : epoch ≤ last ∧ last ≤ sentNs k) :
    Coupled c L epoch (sentNs k) (c.stateBefore nowNs size (k + 1)) (t.observe (sentNs k)) := by
  obtain ⟨_, hword, _, hlate⟩ := hsent k hk
  have hcharge := (c.stateBefore_charges nowNs size hsat hk).1
  have hkeep : t.epochNs ≠ 0 := by rw [h.start]; omega
  have hafter : t.epochNs ≤ sentNs k := by rw [h.start]; omega
  have hdrained : t.drain (sentNs k)
      = { t with
          cinst := (t.drain (sentNs k)).cinst
          lastDrainCount := (sentNs k - epoch) / c.packetDrainIntervalNs } := by
    rw [drain, if_neg hkeep, if_pos hafter, h.start, h.interval]
  have hmore : t.lastDrainCount ≤ (sentNs k - t.epochNs) / t.packetDrainIntervalNs := by
    rw [h.ticks, h.start, h.interval]
    exact Nat.div_le_div_right (by omega)
  have hlevel := t.observe_level hkeep hafter hword hmore
  rw [h.start, h.interval] at hlevel
  -- the counter in ticks, and the bucket it observes, are charged alike
  have hput := c.le_refresh_packet (c.unsaturated_stateBefore nowNs size hsat (Nat.le_of_lt hk))
    (nowNs k)
  have hcounter : epoch + (t.lastDrainCount + t.cinst) * c.packetDrainIntervalNs
      ≤ (c.admitted nowNs size k).packetTatNs + L :=
    h.behind.trans (Nat.add_le_add_right hput L)
  have htime : epoch + (sentNs k - epoch) / c.packetDrainIntervalNs * c.packetDrainIntervalNs
      ≤ c.scheduled nowNs size k + L := by
    have := Nat.div_mul_le_self (sentNs k - epoch) c.packetDrainIntervalNs
    omega
  have hbehind := charge_tick_le hcounter htime
  rw [← hcharge] at hbehind
  refine coupled_of_level (t := t) (horder.1.trans horder.2) ?_ ?_ ?_
    (packetTat_le_sent hsat hsent hk) ?_ ?_ ⟨h.maximum, h.violations⟩
  · rw [NetworkCompatibilityTracker.observe, hdrained]
    exact ⟨h.interval, h.limit, h.start⟩
  · rw [NetworkCompatibilityTracker.observe, hdrained]
    rfl
  · exact (Nat.add_le_add_left (Nat.mul_le_mul_right _ hlevel) _).trans hbehind
  · rw [NetworkCompatibilityTracker.observe, hdrained]
    rfl
  · rw [NetworkCompatibilityTracker.observe, hdrained]
    exact fun hle => if_neg hle

end Run

/-- **The shaper and the tracker agree.** Packets sent at most `L` behind their schedule never
push the tracker's counter above CMAX and the ticks of `L`; on schedule there is no
violation. -/
theorem maximumCinst_le (c : Tr107TrafficShaper) (nowNs size sentNs : Nat → Nat) (L n : Nat)
    (hsat : ∀ k < n, (c.stateBefore nowNs size (k + 1)).Unsaturated)
    (hsent : ∀ k < n, 0 < sentNs k ∧ sentNs k < Word64.size
      ∧ c.scheduled nowNs size k ≤ sentNs k ∧ sentNs k ≤ c.scheduled nowNs size k + L)
    (hnow : ∀ k, k + 1 < n → sentNs k ≤ nowNs (k + 1)) :
    ∃ t, new? c.maximumPacketsPerSecond c.cmax defaultBetaNumerator defaultBetaDenominator
        = some t
      ∧ (t.observeFirst sentNs n).maximumCinst
        ≤ c.cmax + (L + c.packetDrainIntervalNs - 1) / c.packetDrainIntervalNs
      ∧ (L = 0 → (t.observeFirst sentNs n).violations = 0) := by
  refine ⟨_, new?_shaper c, ?_⟩
  cases n with
  | zero => exact ⟨Nat.zero_le _, fun _ => rfl⟩
  | succ n =>
    have hrun : ∀ k ≤ n, sentNs 0 ≤ sentNs k
        ∧ Coupled c L (sentNs 0) (sentNs k) (c.stateBefore nowNs size (k + 1))
          (observeFirst { cmax := c.cmax, packetDrainIntervalNs := c.packetDrainIntervalNs }
            sentNs (k + 1)) := by
      intro k hk
      induction k with
      | zero => exact ⟨Nat.le_refl _, coupled_first hsat hsent (by omega)⟩
      | succ k ih =>
        obtain ⟨hfirst, hcoupled⟩ := ih (by omega)
        have hnext : sentNs k ≤ sentNs (k + 1) :=
          (hnow k (by omega)).trans
            ((c.now_le_scheduled _ _ _).trans (hsent (k + 1) (by omega)).2.2.1)
        exact ⟨hfirst.trans hnext,
          hcoupled.observe hsat hsent (by omega) (hsent 0 (by omega)).1 ⟨hfirst, hnext⟩⟩
    obtain ⟨_, hcoupled⟩ := hrun n (Nat.le_refl n)
    exact ⟨hcoupled.maximum, hcoupled.violations⟩

/-- A burst of three packets, each sent 1 ns behind its schedule. -/
theorem maximumCinst_le_burst :
    let c : Tr107TrafficShaper :=
      ⟨1000, 1460, 100000000, by decide, by decide, by decide, by decide, by decide, by decide⟩
    let sentNs : Nat → Nat := fun k => 1001 + k
    ∃ t, new? c.maximumPacketsPerSecond c.cmax defaultBetaNumerator defaultBetaDenominator
        = some t
      ∧ (t.observeFirst sentNs 3).maximumCinst
        ≤ c.cmax + (1 + c.packetDrainIntervalNs - 1) / c.packetDrainIntervalNs
      ∧ (1 = 0 → (t.observeFirst sentNs 3).violations = 0) := by
  intro c sentNs
  have hsat : ∀ k < 3, (c.stateBefore (fun k => 1000 + k) (fun _ => 1460) (k + 1)).packetTatNs
        < Word64.maximum
      ∧ (c.stateBefore (fun k => 1000 + k) (fun _ => 1460) (k + 1)).bitrateTatNs
        < Word64.maximum := by
    decide
  exact maximumCinst_le c (fun k => 1000 + k) (fun _ => 1460) sentNs 1 3
    (fun k hk => ⟨(hsat k hk).1, (hsat k hk).2⟩) (by decide)
    (fun k _ => by simp only [sentNs]; omega)

end NetworkCompatibilityTracker

end Ipmx.Timing
