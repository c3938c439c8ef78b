/-
Ipmx.Rtp.SequenceTrackerTheorems — the counters against the arrivals.

`Accounts` relates the tracker to what has arrived: every mark stands for a
number that is absent, every absent number of the last 65536 is marked, and
`lost` is the number of absent numbers less the arrivals that were mistaken
for one. Each kind of arrival keeps it (`Accounts.next`, `Accounts.ahead`,
`Accounts.late`), and only a `Mistaken` arrival adds to the difference. A
forward jump does not clear the mark of the number it lands on, so such
arrivals exist (`lost_undercounted`).
-/
import Ipmx.Lib.SerialNumber
import Ipmx.Rtp.SequenceTracker
import Mathlib.Data.Int.Interval

namespace Ipmx.Rtp

open Ipmx.Lib

namespace SequenceTracker

/-! ## The loop over a gap -/

/-- The loop changes the map and the loss counter only. -/
theorem recordGap_eq (t : SequenceTracker) (s : SequenceStats) (distance : Nat) :
    recordGap { t with stats := s } distance
      = { t with
          missing := (t.recordGap distance).missing
          stats := { s with lost := s.lost + distance } } := by
  induction distance generalizing s with
  | zero => rfl
  | succ offset ih =>
    have hself : t.recordGap offset
        = { t with
            missing := (t.recordGap offset).missing
            stats := { t.stats with lost := t.stats.lost + offset } } := ih t.stats
    rw [recordGap, ih, recordGap, hself]
    rfl

/-- The loop marks the numbers of the gap and no others. -/
theorem recordGap_missing (t : SequenceTracker) {expected : ℤ}
    (h : t.expected = UInt16.ofInt expected) (distance : Nat) (r : UInt16) :
    (t.recordGap distance).missing r = true
      ↔ (∃ w, expected ≤ w ∧ w < expected + distance ∧ UInt16.ofInt w = r)
        ∨ t.missing r = true := by
  induction distance with
  | zero =>
    refine ⟨.inr, ?_⟩
    rintro (⟨w, hlow, hhigh, _⟩ | hold)
    · omega
    · exact hold
  | succ offset ih =>
    have hlast : (t.recordGap offset).expected + UInt16.ofNat offset
        = UInt16.ofInt (expected + offset) := by
      have hkeep := congrArg SequenceTracker.expected (t.recordGap_eq t.stats offset)
      dsimp only at hkeep
      rw [hkeep, UInt16.ofInt_add, ← h, SerialNumber.ofInt_natCast]
    simp only [recordGap, hlast, Function.update_apply]
    split
    · next heq =>
      refine iff_of_true rfl (.inl ⟨expected + offset, by omega, by omega, heq.symm⟩)
    · next hne =>
      rw [ih]
      constructor
      · rintro (⟨w, hlow, hhigh, hw⟩ | hold)
        · exact .inl ⟨w, hlow, by omega, hw⟩
        · exact .inr hold
      · rintro (⟨w, hlow, hhigh, hw⟩ | hold)
        · have hother : w ≠ expected + offset := by
            rintro rfl
            exact hne hw.symm
          exact .inl ⟨w, hlow, by omega, hw⟩
        · exact .inr hold

/-! ## The three kinds of arrivals -/

section Observe

variable {t : SequenceTracker} {expected u : ℤ} (hinit : t.initialized = true)
  (h : t.expected = UInt16.ofInt expected)

include hinit h

theorem observe_next :
    t.observe (UInt16.ofInt expected)
      = { t with
          missing := Function.update t.missing (UInt16.ofInt expected) false
          expected := UInt16.ofInt (expected + 1)
          stats := { t.stats with received := t.stats.received + 1 } } := by
  have hdistance : (UInt16.ofInt expected - t.expected).toInt16.toInt = 0 := by
    rw [h, SerialNumber.toInt_distance (by omega) (by omega)]
    omega
  unfold observe
  rw [if_neg (by simp [hinit])]
  dsimp only
  rw [hdistance, if_pos rfl, h, UInt16.ofInt_add]
  rfl

theorem observe_ahead (hahead : expected < u) (hreach : u ≤ expected + 32767) :
    t.observe (UInt16.ofInt u)
      = { t with
          missing := (t.recordGap (u - expected).toNat).missing
          expected := UInt16.ofInt (u + 1)
          stats :=
            { t.stats with
              received := t.stats.received + 1
              lost := t.stats.lost + (u - expected).toNat } } := by
  have hdistance : (UInt16.ofInt u - t.expected).toInt16.toInt = u - expected := by
    rw [h, SerialNumber.toInt_distance (by omega) hreach]
  have hne : u - expected ≠ 0 := by omega
  have hpos : u - expected > 0 := by omega
  unfold observe
  rw [if_neg (by simp [hinit])]
  dsimp only
  rw [hdistance, if_neg hne, if_pos hpos, recordGap_eq, UInt16.ofInt_add]
  rfl

theorem observe_late (hlate : u < expected) (hreach : expected - 32768 ≤ u) :
    t.observe (UInt16.ofInt u)
      = if t.missing (UInt16.ofInt u) = true then
          { t with
            missing := Function.update t.missing (UInt16.ofInt u) false
            stats :=
              { received := t.stats.received + 1, reordered := t.stats.reordered + 1
                lost := t.stats.lost - 1 } }
        else
          { t with
            stats :=
              { t.stats with
                received := t.stats.received + 1, reordered := t.stats.reordered + 1 } } := by
  have hdistance : (UInt16.ofInt u - t.expected).toInt16.toInt = u - expected := by
    rw [h, SerialNumber.toInt_distance hreach (by omega)]
  have hne : u - expected ≠ 0 := by omega
  have hneg : ¬ u - expected > 0 := by omega
  have hguard : (if t.stats.lost > 0 then t.stats.lost - 1 else t.stats.lost)
      = t.stats.lost - 1 := by
    split <;> omega
  unfold observe
  rw [if_neg (by simp [hinit])]
  dsimp only
  rw [hdistance, if_neg hne, if_neg hneg, hguard]

end Observe

end SequenceTracker

/-! ## The absent numbers -/

theorem mem_absent {first expected w : ℤ} {seen : List ℤ} :
    w ∈ absent first expected seen ↔ (first ≤ w ∧ w < expected) ∧ w ∉ seen := by
  rw [absent, Finset.mem_filter, Finset.mem_image]
  refine and_congr_left fun _ => ⟨?_, fun h => ?_⟩
  · rintro ⟨k, hk, rfl⟩
    have := Finset.mem_range.mp hk
    omega
  · exact ⟨(w - first).toNat, Finset.mem_range.mpr (by omega), by omega⟩

/-- An arrival at or above the expected number leaves the gap in front of it absent. -/
theorem card_absent_ahead {first expected u : ℤ} {seen : List ℤ} (hfirst : first ≤ expected)
    (hbelow : ∀ v ∈ seen, v < expected) (hu : expected ≤ u) :
    (absent first (u + 1) (u :: seen)).card
      = (absent first expected seen).card + (u - expected).toNat := by
  have hsplit : absent first (u + 1) (u :: seen)
      = absent first expected seen ∪ Finset.Ico expected u := by
    ext w
    have hold : w ∈ seen → w < expected := hbelow w
    simp only [Finset.mem_union, mem_absent, Finset.mem_Ico, List.mem_cons, not_or]
    by_cases hw : w ∈ seen
    · have := hold hw
      simp only [hw, not_true, and_false, false_or, false_iff, not_and]
      omega
    · simp only [hw, not_false_eq_true, and_true]
      omega
  have hdisjoint : Disjoint (absent first expected seen) (Finset.Ico expected u) := by
    rw [Finset.disjoint_left]
    intro w hw hgap
    have := (mem_absent.mp hw).1.2
    have := (Finset.mem_Ico.mp hgap).1
    omega
  rw [hsplit, Finset.card_union_of_disjoint hdisjoint, Int.card_Ico]

/-- A late arrival of an absent number. -/
theorem card_absent_late {first expected u : ℤ} {seen : List ℤ}
    (hu : u ∈ absent first expected seen) :
    (absent first expected (u :: seen)).card + 1 = (absent first expected seen).card := by
  have herase : absent first expected (u :: seen) = (absent first expected seen).erase u := by
    ext w
    simp only [Finset.mem_erase, mem_absent, List.mem_cons, not_or]
    tauto
  rw [herase, Finset.card_erase_add_one hu]

/-- A late arrival of any other number. -/
theorem absent_of_present {first expected u : ℤ} {seen : List ℤ}
    (hu : u ∉ absent first expected seen) :
    absent first expected (u :: seen) = absent first expected seen := by
  ext w
  have hne : w = u → w ∉ absent first expected seen := by
    rintro rfl
    exact hu
  rw [mem_absent] at hne ⊢
  rw [mem_absent, List.mem_cons, not_or]
  tauto

/-! ## The invariant -/

/-- The tracker after the arrivals `seen`, of which `mistakes` were mistaken for a missing
number. -/
structure Accounts (first expected : ℤ) (seen : List ℤ) (t : SequenceTracker)
    (mistakes : Nat) : Prop where
  initialized : t.initialized = true
  expected_eq : t.expected = UInt16.ofInt expected
  first_lt : first < expected
  below : ∀ u ∈ seen, u < expected
  marked : ∀ r, t.missing r = true → ∃ v ∈ absent first expected seen, UInt16.ofInt v = r
  recent : ∀ w ∈ absent first expected seen, expected - 65536 ≤ w →
    t.missing (UInt16.ofInt w) = true
  bounded : ∃ marks : Finset UInt16, (∀ r, t.missing r = true → r ∈ marks)
    ∧ marks.card ≤ t.stats.lost
  lost_eq : t.stats.lost + mistakes = (absent first expected seen).card

/-- A mark at the residue of a number at or above the reach stands for that number or an
earlier one. -/
theorem Accounts.first_le_of_marked {first expected u : ℤ} {seen : List ℤ}
    {t : SequenceTracker} {mistakes : Nat} (h : Accounts first expected seen t mistakes)
    (hreach : expected - 32768 ≤ u) (hmark : t.missing (UInt16.ofInt u) = true) : first ≤ u := by
  obtain ⟨v, hv, hsame⟩ := h.marked _ hmark
  obtain ⟨⟨hlow, hhigh⟩, _⟩ := mem_absent.mp hv
  rw [SerialNumber.ofInt_eq_iff] at hsame
  omega

theorem Accounts.next {first expected : ℤ} {seen : List ℤ} {t : SequenceTracker}
    {mistakes : Nat} (h : Accounts first expected seen t mistakes) :
    Accounts first (expected + 1) (expected :: seen) (t.observe (UInt16.ofInt expected))
      mistakes := by
  have hlt := h.first_lt
  rw [SequenceTracker.observe_next h.initialized h.expected_eq]
  refine ⟨h.initialized, rfl, by omega, ?_, ?_, ?_, ?_, ?_⟩
  · intro u hu
    rcases List.mem_cons.mp hu with rfl | hu
    · omega
    · have := h.below u hu
      omega
  · intro r hr
    dsimp only at hr
    rw [Function.update_apply] at hr
    split at hr
    · exact absurd hr (by simp)
    · obtain ⟨v, hv, hsame⟩ := h.marked r hr
      obtain ⟨⟨hlow, hhigh⟩, hnew⟩ := mem_absent.mp hv
      refine ⟨v, mem_absent.mpr ⟨⟨hlow, by omega⟩, ?_⟩, hsame⟩
      rw [List.mem_cons, not_or]
      exact ⟨by omega, hnew⟩
  · intro w hw hrecent
    obtain ⟨⟨hlow, hhigh⟩, hnew⟩ := mem_absent.mp hw
    rw [List.mem_cons, not_or] at hnew
    dsimp only
    rw [Function.update_apply, if_neg]
    · exact h.recent w (mem_absent.mpr ⟨⟨hlow, by omega⟩, hnew.2⟩) (by omega)
    · exact fun hsame => hnew.1 (SerialNumber.ofInt_inj_of_window (by omega) (by omega) hsame)
  · obtain ⟨marks, hmarks, hcard⟩ := h.bounded
    refine ⟨marks, fun r hr => hmarks r ?_, hcard⟩
    dsimp only at hr
    rw [Function.update_apply] at hr
    split at hr
    · exact absurd hr (by simp)
    · exact hr
  · rw [card_absent_ahead (by omega) h.below (Int.le_refl _)]
    have := h.lost_eq
    dsimp only
    omega

theorem Accounts.ahead {first expected u : ℤ} {seen : List ℤ} {t : SequenceTracker}
    {mistakes : Nat} (h : Accounts first expected seen t mistakes) (hu : expected < u)
    (hreach : u ≤ expected + 32767) :
    Accounts first (u + 1) (u :: seen) (t.observe (UInt16.ofInt u)) mistakes := by
  have hlt := h.first_lt
  have hgap : ((u - expected).toNat : ℤ) = u - expected := Int.toNat_of_nonneg (by omega)
  rw [SequenceTracker.observe_ahead h.initialized h.expected_eq hu hreach]
  refine ⟨h.initialized, rfl, by omega, ?_, ?_, ?_, ?_, ?_⟩
  · intro v hv
    rcases List.mem_cons.mp hv with rfl | hv
    · omega
    · have := h.below v hv
      omega
  · intro r hr
    rcases (t.recordGap_missing h.expected_eq _ r).mp hr with ⟨w, hlow, hhigh, hw⟩ | hold
    · refine ⟨w, mem_absent.mpr ⟨by omega, ?_⟩, hw⟩
      rw [List.mem_cons, not_or]
      refine ⟨by omega, ?_⟩
      intro hseen
      have := h.below w hseen
      omega
    · obtain ⟨v, hv, hsame⟩ := h.marked r hold
      obtain ⟨⟨hlow, hhigh⟩, hnew⟩ := mem_absent.mp hv
      refine ⟨v, mem_absent.mpr ⟨by omega, ?_⟩, hsame⟩
      rw [List.mem_cons, not_or]
      exact ⟨by omega, hnew⟩
  · intro w hw hrecent
    obtain ⟨⟨hlow, hhigh⟩, hnew⟩ := mem_absent.mp hw
    rw [List.mem_cons, not_or] at hnew
    refine (t.recordGap_missing h.expected_eq _ _).mpr ?_
    by_cases hold : w < expected
    · exact .inr (h.recent w (mem_absent.mpr ⟨⟨hlow, hold⟩, hnew.2⟩) (by omega))
    · have := hnew.1
      exact .inl ⟨w, by omega, by omega, rfl⟩
  · obtain ⟨marks, hmarks, hcard⟩ := h.bounded
    refine ⟨marks ∪ (Finset.Ico expected u).image UInt16.ofInt, fun r hr => ?_, ?_⟩
    · rw [Finset.mem_union, Finset.mem_image]
      rcases (t.recordGap_missing h.expected_eq _ r).mp hr with ⟨w, hlow, hhigh, hw⟩ | hold
      · exact .inr ⟨w, Finset.mem_Ico.mpr (by omega), hw⟩
      · exact .inl (hmarks r hold)
    · have hunion := Finset.card_union_le marks ((Finset.Ico expected u).image UInt16.ofInt)
      have himage : ((Finset.Ico expected u).image UInt16.ofInt).card ≤ (u - expected).toNat :=
        Finset.card_image_le.trans (Int.card_Ico _ _).le
      dsimp only
      omega
  · rw [card_absent_ahead (by omega) h.below (by omega)]
    have := h.lost_eq
    dsimp only
    omega

theorem Accounts.below_cons {first expected u : ℤ} {seen : List ℤ} {t : SequenceTracker}
    {mistakes : Nat} (h : Accounts first expected seen t mistakes) (hu : u < expected) :
    ∀ v ∈ u :: seen, v < expected := by
  intro v hv
  rcases List.mem_cons.mp hv with rfl | hv
  · exact hu
  · exact h.below v hv

/-- A mark is cleared: what is left marked is absent, and all of it that is recent stays
marked. -/
theorem Accounts.clear {first expected u : ℤ} {seen : List ℤ} {t : SequenceTracker}
    {mistakes mistakes' : Nat} (h : Accounts first expected seen t mistakes) (hu : u < expected)
    (hreach : expected - 32768 ≤ u) (hmark : t.missing (UInt16.ofInt u) = true)
    (hcount : t.stats.lost - 1 + mistakes' = (absent first expected (u :: seen)).card) :
    Accounts first expected (u :: seen)
      { t with
        missing := Function.update t.missing (UInt16.ofInt u) false
        stats :=
          { received := t.stats.received + 1, reordered := t.stats.reordered + 1
            lost := t.stats.lost - 1 } } mistakes' := by
  obtain ⟨marks, hmarks, hcard⟩ := h.bounded
  have herased := Finset.card_erase_add_one (hmarks _ hmark)
  refine ⟨h.initialized, h.expected_eq, h.first_lt, h.below_cons hu, ?_, ?_, ?_, hcount⟩
  · intro r hr
    dsimp only at hr
    rw [Function.update_apply] at hr
    split at hr
    · exact absurd hr (by simp)
    · next hne =>
      obtain ⟨v, hv, hsame⟩ := h.marked r hr
      obtain ⟨hrange, hnew⟩ := mem_absent.mp hv
      refine ⟨v, mem_absent.mpr ⟨hrange, ?_⟩, hsame⟩
      rw [List.mem_cons, not_or]
      refine ⟨?_, hnew⟩
      rintro rfl
      exact hne hsame.symm
  · intro w hw hrecent
    obtain ⟨hrange, hnew⟩ := mem_absent.mp hw
    rw [List.mem_cons, not_or] at hnew
    dsimp only
    rw [Function.update_apply, if_neg]
    · exact h.recent w (mem_absent.mpr ⟨hrange, hnew.2⟩) hrecent
    · intro hsame
      exact hnew.1 (SerialNumber.ofInt_inj_of_window (by omega) (by omega) hsame)
  · refine ⟨marks.erase (UInt16.ofInt u), ?_, by dsimp only; omega⟩
    intro r hr
    dsimp only at hr
    rw [Function.update_apply] at hr
    split at hr
    · exact absurd hr (by simp)
    · next hne => exact Finset.mem_erase.mpr ⟨hne, hmarks r hr⟩

/-- A late arrival: an absent number is found, any other one is left as it is unless it is
mistaken for an absent one. -/
theorem Accounts.late {first expected u : ℤ} {seen : List ℤ} {t : SequenceTracker}
    {mistakes : Nat} (h : Accounts first expected seen t mistakes) (hu : u < expected)
    (hreach : expected - 32768 ≤ u) :
    ∃ more, Accounts first expected (u :: seen) (t.observe (UInt16.ofInt u)) (mistakes + more)
      ∧ (more = 0 ∧ ¬ Mistaken t seen u ∨ more = 1 ∧ Mistaken t seen u) := by
  rw [SequenceTracker.observe_late h.initialized h.expected_eq hu hreach]
  by_cases hmark : t.missing (UInt16.ofInt u) = true
  · have hfirst := h.first_le_of_marked hreach hmark
    have hlost := h.lost_eq
    obtain ⟨marks, hmarks, hcard⟩ := h.bounded
    have hmarked := Finset.card_erase_add_one (hmarks _ hmark)
    rw [if_pos hmark]
    by_cases hseen : u ∈ seen
    · -- the mark is of an earlier number with the same residue
      refine ⟨1, h.clear hu hreach hmark ?_, .inr ⟨rfl, hseen, hmark⟩⟩
      rw [absent_of_present fun habsent => (mem_absent.mp habsent).2 hseen]
      omega
    · refine ⟨0, h.clear hu hreach hmark ?_, .inl ⟨rfl, fun hmistaken => hseen hmistaken.1⟩⟩
      have hfound := card_absent_late (mem_absent.mpr ⟨⟨hfirst, hu⟩, hseen⟩)
      omega
  · rw [if_neg hmark]
    have hpresent : u ∉ absent first expected seen :=
      fun habsent => hmark (h.recent u habsent (by omega))
    have hsame := absent_of_present hpresent
    refine ⟨0, ⟨h.initialized, h.expected_eq, h.first_lt, h.below_cons hu, ?_, ?_, h.bounded, ?_⟩,
      .inl ⟨rfl, fun hmistaken => hmark hmistaken.2⟩⟩
    · rw [hsame]
      exact h.marked
    · rw [hsame]
      exact h.recent
    · rw [hsame]
      exact h.lost_eq

/-! ## Steps and runs -/

theorem SequenceTracker.observe_received {t : SequenceTracker} {expected u : ℤ}
    (hinit : t.initialized = true) (h : t.expected = UInt16.ofInt expected)
    (hlow : expected - 32768 ≤ u) (hhigh : u ≤ expected + 32767) :
    (t.observe (UInt16.ofInt u)).stats.received = t.stats.received + 1
      ∧ (t.observe (UInt16.ofInt u)).stats.reordered
        = t.stats.reordered + if u < expected then 1 else 0 := by
  rcases lt_trichotomy u expected with hlate | rfl | hahead
  · rw [observe_late hinit h hlate hlow, if_pos hlate]
    split <;> exact ⟨rfl, rfl⟩
  · rw [observe_next hinit h, if_neg (lt_irrefl _)]
    exact ⟨rfl, rfl⟩
  · rw [observe_ahead hinit h hahead hhigh, if_neg (by omega)]
    exact ⟨rfl, rfl⟩

/-- **One arrival.** -/
theorem Accounts.observe {first expected u : ℤ} {seen : List ℤ} {t : SequenceTracker}
    {mistakes : Nat} (h : Accounts first expected seen t mistakes)
    (hlow : expected - 32768 ≤ u) (hhigh : u ≤ expected + 32767) :
    ∃ more, Accounts first (expectedNext expected u) (u :: seen) (t.observe (UInt16.ofInt u))
        (mistakes + more)
      ∧ (more = 0 ∧ ¬ Mistaken t seen u ∨ more = 1 ∧ Mistaken t seen u) := by
  have hnew : expected ≤ u → ¬ Mistaken t seen u := by
    intro hle hmistaken
    have := h.below u hmistaken.1
    omega
  rcases lt_trichotomy u expected with hlate | rfl | hahead
  · rw [expectedNext, if_pos hlate]
    exact h.late hlate hlow
  · rw [expectedNext, if_neg (lt_irrefl _)]
    exact ⟨0, h.next, .inl ⟨rfl, hnew (Int.le_refl _)⟩⟩
  · rw [expectedNext, if_neg (by omega)]
    exact ⟨0, h.ahead hahead hhigh, .inl ⟨rfl, hnew (by omega)⟩⟩

/-- **A run of arrivals.** -/
theorem Accounts.run {first expected : ℤ} {seen : List ℤ} {t : SequenceTracker}
    {mistakes : Nat} (h : Accounts first expected seen t mistakes) {arrivals : List ℤ}
    (hreach : InReach expected arrivals) :
    ∃ more, Accounts first (expectedAfter expected arrivals) (arrivals.reverse ++ seen)
        (t.observeAll (arrivals.map UInt16.ofInt)) (mistakes + more)
      ∧ (more = 0 ↔ Unmistaken t seen arrivals)
      ∧ (t.observeAll (arrivals.map UInt16.ofInt)).stats.received
        = t.stats.received + arrivals.length
      ∧ (t.observeAll (arrivals.map UInt16.ofInt)).stats.reordered
        = t.stats.reordered + belowExpected expected arrivals := by
  induction arrivals generalizing expected seen t mistakes with
  | nil => exact ⟨0, h, by simp [Unmistaken], rfl, rfl⟩
  | cons u arrivals ih =>
    obtain ⟨hlow, hhigh, hrest⟩ := hreach
    obtain ⟨more, hstep, hmore⟩ := h.observe hlow hhigh
    obtain ⟨hreceived, hreordered⟩ :=
      SequenceTracker.observe_received h.initialized h.expected_eq hlow hhigh
    obtain ⟨later, hrun, hlater, hreceivedAll, hreorderedAll⟩ := ih hstep hrest
    refine ⟨more + later, ?_, ?_, ?_, ?_⟩
    · rw [List.reverse_cons, List.append_assoc, List.singleton_append, ← Nat.add_assoc]
      exact hrun
    · rw [Unmistaken, ← hlater]
      rcases hmore with ⟨rfl, hno⟩ | ⟨rfl, hyes⟩
      · simp [hno]
      · exact iff_of_false (by omega) fun hall => hall.1 hyes
    · rw [List.map_cons, SequenceTracker.observeAll, List.foldl_cons]
      refine hreceivedAll.trans ?_
      rw [hreceived, List.length_cons]
      omega
    · rw [List.map_cons, SequenceTracker.observeAll, List.foldl_cons]
      refine hreorderedAll.trans ?_
      rw [hreordered, belowExpected]
      omega

/-- The tracker after the first arrival. -/
theorem accounts_first (first : ℤ) :
    Accounts first (first + 1) [first] (({} : SequenceTracker).observe (UInt16.ofInt first)) 0 := by
  have hobserve : ({} : SequenceTracker).observe (UInt16.ofInt first)
      = { initialized := true, expected := UInt16.ofInt first + 1
          stats := { received := 1 } } := rfl
  have hnone : absent first (first + 1) [first] = ∅ := by
    rw [Finset.eq_empty_iff_forall_notMem]
    intro w hw
    obtain ⟨⟨hlow, hhigh⟩, hnew⟩ := mem_absent.mp hw
    exact hnew (List.mem_singleton.mpr (by omega))
  rw [hobserve]
  refine ⟨rfl, ?_, by omega, by simp, ?_, ?_, ⟨∅, ?_⟩, ?_⟩
  · rw [UInt16.ofInt_add]
    rfl
  · intro r hr
    exact absurd hr (by simp)
  · rw [hnone]
    simp
  · exact ⟨fun r hr => absurd hr (by simp), Nat.le_refl _⟩
  · rw [hnone]
    rfl

/-- The counters of a whole run, up to the mistaken arrivals. -/
theorem observeAll_counts (first : ℤ) (arrivals : List ℤ)
    (hreach : InReach (first + 1) arrivals) :
    ∃ more, (more = 0
        ↔ Unmistaken (({} : SequenceTracker).observe (UInt16.ofInt first)) [first] arrivals)
      ∧ ∀ stats, stats
          = (({} : SequenceTracker).observeAll ((first :: arrivals).map UInt16.ofInt)).stats →
        stats.received = (first :: arrivals).length
          ∧ stats.reordered = belowExpected (first + 1) arrivals
          ∧ stats.lost + more
            = (absent first (expectedAfter (first + 1) arrivals) (first :: arrivals)).card := by
  obtain ⟨more, hrun, hmore, hreceived, hreordered⟩ := (accounts_first first).run hreach
  have hsame : absent first (expectedAfter (first + 1) arrivals) (arrivals.reverse ++ [first])
      = absent first (expectedAfter (first + 1) arrivals) (first :: arrivals) := by
    ext w
    rw [mem_absent, mem_absent, List.mem_append, List.mem_reverse, List.mem_singleton,
      List.mem_cons, or_comm]
  have hlost := hrun.lost_eq
  rw [hsame, Nat.zero_add] at hlost
  refine ⟨more, hmore, ?_⟩
  rintro _ rfl
  have hfirst : ({} : SequenceTracker).observeAll ((first :: arrivals).map UInt16.ofInt)
      = (({} : SequenceTracker).observe (UInt16.ofInt first)).observeAll
        (arrivals.map UInt16.ofInt) := rfl
  rw [hfirst, hreceived, hreordered, List.length_cons]
  exact ⟨Nat.add_comm 1 _, Nat.zero_add _, hlost⟩

/-- **Loss accounting.** Over arrivals within reach, `received`, `reordered` and `lost` are
exact if and only if no number arrives once more while its residue is still marked. -/
theorem observeAll_exact_iff (first : ℤ) (arrivals : List ℤ)
    (hreach : InReach (first + 1) arrivals) :
    (({} : SequenceTracker).observeAll ((first :: arrivals).map UInt16.ofInt)).stats.Exact
        first arrivals
      ↔ Unmistaken (({} : SequenceTracker).observe (UInt16.ofInt first)) [first] arrivals := by
  obtain ⟨more, hmore, hcounts⟩ := observeAll_counts first arrivals hreach
  obtain ⟨hreceived, hreordered, hlost⟩ := hcounts _ rfl
  rw [← hmore]
  constructor
  · intro hexact
    have := hexact.lost
    omega
  · rintro rfl
    exact ⟨hreceived, hreordered, hlost⟩

/-- Three numbers around a wrap, the middle one late. -/
theorem observeAll_exact_iff_wrap :
    (({} : SequenceTracker).observeAll ([65535, 65537, 65536].map UInt16.ofInt)).stats.Exact
        65535 [65537, 65536]
      ↔ Unmistaken (({} : SequenceTracker).observe (UInt16.ofInt 65535)) [65535]
        [65537, 65536] :=
  observeAll_exact_iff 65535 [65537, 65536] (by simp [InReach, expectedNext])

/-- A forward jump marks the gap and keeps every mark, the one it lands on included. -/
theorem SequenceTracker.missing_observe_ahead {t : SequenceTracker} {expected u w : ℤ}
    (hinit : t.initialized = true) (h : t.expected = UInt16.ofInt expected)
    (hahead : expected < u) (hreach : u ≤ expected + 32767)
    (hw : expected ≤ w ∧ w < u ∨ t.missing (UInt16.ofInt w) = true) :
    (t.observe (UInt16.ofInt u)).missing (UInt16.ofInt w) = true := by
  rw [observe_ahead hinit h hahead hreach]
  refine (t.recordGap_missing h _ _).mpr ?_
  rcases hw with ⟨hlow, hhigh⟩ | hold
  · exact .inl ⟨w, hlow, by omega, rfl⟩
  · exact .inr hold

/-- Number 65537 lands on the mark of number 1, which never arrived, and is then received
again: the second time it counts as number 1 found. -/
theorem lost_undercounted :
    InReach 1 [2, 32770, 65537, 65537]
      ∧ ¬ (({} : SequenceTracker).observeAll
        ([0, 2, 32770, 65537, 65537].map UInt16.ofInt)).stats.Exact
          0 [2, 32770, 65537, 65537] := by
  have hreach : InReach 1 [2, 32770, 65537, 65537] := by simp [InReach, expectedNext]
  refine ⟨hreach, ?_⟩
  intro hexact
  obtain ⟨more, hmore, hcounts⟩ := observeAll_counts 0 [2, 32770, 65537, 65537] hreach
  have hlost := (hcounts _ rfl).2.2
  have hzero : more = 0 := by
    have := hexact.lost
    omega
  -- the tracker after each arrival, as far as the mark of number 1 is concerned
  have hstep2 := (accounts_first 0).ahead (u := 2) (by omega) (by omega)
  have hmark2 := SequenceTracker.missing_observe_ahead (u := 2) (w := 1)
    (accounts_first 0).initialized (accounts_first 0).expected_eq (by omega) (by omega)
    (.inl (by omega))
  have hstep3 := hstep2.ahead (u := 32770) (by omega) (by omega)
  have hmark3 := SequenceTracker.missing_observe_ahead (u := 32770) (w := 1)
    hstep2.initialized hstep2.expected_eq (by omega) (by omega) (.inr hmark2)
  have hmark4 := SequenceTracker.missing_observe_ahead (u := 65537) (w := 1)
    hstep3.initialized hstep3.expected_eq (by omega) (by omega) (.inr hmark3)
  obtain ⟨_, _, _, hlast, _⟩ := hmore.mp hzero
  refine hlast ⟨by simp, ?_⟩
  rw [show UInt16.ofInt 65537 = UInt16.ofInt 1 from rfl] at hmark4 ⊢
  exact hmark4

/-! ## Clean runs -/

/-- No packet has been missed, and none came late. -/
def SequenceStats.Clean (stats : SequenceStats) : Prop := stats.lost = 0 ∧ stats.reordered = 0

namespace SequenceTracker

/-- The expected number changes neither counter. -/
theorem observe_expected {t : SequenceTracker} (hinit : t.initialized = true) :
    (t.observe t.expected).initialized = true
      ∧ (t.observe t.expected).expected = t.expected + 1
      ∧ ((t.observe t.expected).stats.Clean ↔ t.stats.Clean) := by
  have hdistance : (t.expected - t.expected).toInt16.toInt = 0 := by
    rw [UInt16.sub_self]
    rfl
  unfold observe
  rw [if_neg (by simp [hinit])]
  dsimp only
  rw [if_pos hdistance]
  exact ⟨hinit, rfl, Iff.rfl⟩

/-- Any other number is counted for good. -/
theorem observe_unexpected {t : SequenceTracker} {sequence : UInt16} (hinit : t.initialized = true)
    (h : sequence ≠ t.expected) : ¬ (t.observe sequence).stats.Clean := by
  have hdistance : (sequence - t.expected).toInt16.toInt ≠ 0 := by
    intro hzero
    have hsub : (sequence - t.expected).toInt16 = 0 := Int16.toInt_inj.mp hzero
    have hword : sequence - t.expected = 0 := congrArg Int16.toUInt16 hsub
    have hsum := UInt16.sub_add_cancel sequence t.expected
    rw [hword, UInt16.zero_add] at hsum
    exact h hsum.symm
  unfold observe
  rw [if_neg (by simp [hinit])]
  dsimp only
  rw [if_neg hdistance]
  split
  · next hahead =>
    rintro ⟨hlost, _⟩
    rw [recordGap_eq] at hlost
    dsimp only at hlost
    omega
  · rintro ⟨_, hreordered⟩
    split at hreordered
    · exact absurd hreordered (Nat.succ_ne_zero _)
    · exact absurd hreordered (Nat.succ_ne_zero _)

/-- From a tracker that has seen a packet on. -/
theorem observeAll_clean {t : SequenceTracker} (hinit : t.initialized = true)
    (sequences : List UInt16) :
    (t.observeAll sequences).stats.Clean
      ↔ t.stats.Clean ∧ ((t.expected - 1) :: sequences).IsChain fun a b => b = a + 1 := by
  induction sequences generalizing t with
  | nil => simp [observeAll]
  | cons sequence sequences ih =>
    have hback : t.expected - 1 + 1 = t.expected := UInt16.sub_add_cancel _ _
    rw [observeAll, List.foldl_cons, ← observeAll, List.isChain_cons_cons, hback]
    by_cases hexpected : sequence = t.expected
    · subst hexpected
      obtain ⟨hinit', hnext, hclean⟩ := observe_expected hinit
      rw [ih hinit', hclean, hnext, UInt16.add_sub_cancel]
      simp
    · have hinit' : (t.observe sequence).initialized = true := by
        unfold observe
        rw [if_neg (by simp [hinit])]
        dsimp only
        split
        · exact hinit
        · split
          · rw [recordGap_eq]
            exact hinit
          · split <;> exact hinit
      refine iff_of_false ?_ fun hall => hexpected hall.2.1
      intro hall
      exact observe_unexpected hinit hexpected ((ih hinit').mp hall).1

/-- **Clean counters** say that the packets came one after the other: each has the sequence
number behind the one before it, across the wrap. -/
theorem observeAll_clean_iff (sequences : List UInt16) :
    (({} : SequenceTracker).observeAll sequences).stats.Clean
      ↔ sequences.IsChain fun a b => b = a + 1 := by
  cases sequences with
  | nil => exact iff_of_true ⟨rfl, rfl⟩ .nil
  | cons sequence sequences =>
    have hfirst : ({} : SequenceTracker).observe sequence
        = { initialized := true, expected := sequence + 1, stats := { received := 1 } } := rfl
    rw [observeAll, List.foldl_cons, ← observeAll, hfirst, observeAll_clean rfl,
      UInt16.add_sub_cancel]
    exact and_iff_right ⟨rfl, rfl⟩

end SequenceTracker

end Ipmx.Rtp
