/-
Ipmx.Receiver.MfH264DecoderTheorems — which capture time a decoded frame gets.

The map of capture times is filled with rising sample times and emptied from the
small end, so that as long as the sample times fit (`TimesFit`), whatever the
transform answers, the capture times on the frames come in the order of the
inputs and none twice (`Hands`, `decodeAll_captureTimes`). If it answers as
documented, with the samples of its inputs in order and not more than 512 inputs
late, every frame has the capture time of its own input
(`decodeAll_ownCaptureTimes`).
-/
import Ipmx.Receiver.MfH264Decoder
import Mathlib.Algebra.Order.Group.Int
import Mathlib.Data.List.Forall2
import Mathlib.Order.Lattice.Nat

namespace Ipmx.Receiver

open Ipmx.Lib

namespace MfH264Decoder

/-- The capture times that frames carry; 0 stands for none. -/
def carried (frames : List DecodedFrame) : List UInt64 :=
  (frames.map DecodedFrame.captureTimeNs).filter (· ≠ 0)

theorem carried_append (frames more : List DecodedFrame) :
    carried (frames ++ more) = carried frames ++ carried more := by
  rw [carried, List.map_append, List.filter_append]
  rfl

/-! ## What stays as it is -/

/-- The decoder still decodes the same stream. -/
structure SameStream (d d' : MfH264Decoder) : Prop where
  width : d'.width = d.width
  height : d'.height = d.height
  fpsNumerator : d'.fpsNumerator = d.fpsNumerator
  fpsDenominator : d'.fpsDenominator = d.fpsDenominator

theorem SameStream.refl (d : MfH264Decoder) : SameStream d d := ⟨rfl, rfl, rfl, rfl⟩

theorem SameStream.trans {d d' d'' : MfH264Decoder} (h : SameStream d d')
    (h' : SameStream d' d'') : SameStream d d'' :=
  ⟨h'.width.trans h.width, h'.height.trans h.height, h'.fpsNumerator.trans h.fpsNumerator,
    h'.fpsDenominator.trans h.fpsDenominator⟩

theorem SameStream.sampleDuration {d d' : MfH264Decoder} (h : SameStream d d') :
    d'.sampleDuration = d.sampleDuration := by
  rw [MfH264Decoder.sampleDuration, MfH264Decoder.sampleDuration, h.fpsNumerator, h.fpsDenominator]

/-! ## What can happen -/

/-- A stream change touches the output format only. -/
theorem reconfigure_ok {d d' : MfH264Decoder} {types : List OutputType}
    (h : d.reconfigure types = .ok d') :
    SameStream d d' ∧ d'.captureTimes = d.captureTimes ∧ d'.sampleIndex = d.sampleIndex := by
  obtain ⟨format, _, hresult⟩ := bind_eq_ok.mp h
  obtain rfl := Except.ok.inj hresult
  exact ⟨⟨rfl, rfl, rfl, rfl⟩, rfl, rfl⟩

theorem copyNv12_captureTimeNs {bytes : Bytes} {width height sourceStride sourceHeight : UInt32}
    {captureTimeNs : UInt64} {frame : DecodedFrame}
    (h : copyNv12 bytes width height sourceStride sourceHeight captureTimeNs = .ok frame) :
    frame.captureTimeNs = captureTimeNs := by
  unfold copyNv12 at h
  obtain ⟨_, _, h⟩ := bind_eq_ok.mp h
  obtain ⟨_, _, h⟩ := bind_eq_ok.mp h
  obtain ⟨_, _, h⟩ := bind_eq_ok.mp h
  obtain rfl := Except.ok.inj h
  rfl

/-- An output takes its capture time out of the map and leaves the rest alone. -/
theorem output_ok {d d' : MfH264Decoder} {sample : OutputSample} {frame : DecodedFrame}
    (h : d.output sample = .ok (frame, d')) :
    SameStream d d' ∧ d'.sampleIndex = d.sampleIndex
      ∧ captureTimeForOutput d.captureTimes sample.sampleTime
        = (frame.captureTimeNs, d'.captureTimes)
      ∧ copyNv12 sample.bytes d.width d.height d.outputStride d.outputHeight frame.captureTimeNs
        = .ok frame := by
  obtain ⟨copied, hcopy, hresult⟩ := bind_eq_ok.mp h
  obtain ⟨rfl, rfl⟩ := Prod.mk.inj (Except.ok.inj hresult)
  have htime := copyNv12_captureTimeNs hcopy
  rw [← htime] at hcopy
  exact ⟨⟨rfl, rfl, rfl, rfl⟩, rfl, Prod.ext htime.symm rfl, hcopy⟩

/-- What is drained in front of the input that is taken. -/
def drainedBefore (answers : DecodeAnswers) : List OutputAnswer :=
  if answers.input = .notAccepting then answers.outputsBefore else []

/-- A call either does nothing or takes one input between two drains. -/
theorem decode_ok {d d' : MfH264Decoder} {annexB : Bytes} {captureTimeNs : UInt64}
    {answers : DecodeAnswers} {frames : List DecodedFrame}
    (h : d.decode annexB captureTimeNs answers = .ok (frames, d')) :
    Undecodable annexB ∧ frames = [] ∧ d' = d
      ∨ ¬ Undecodable annexB ∧ ∃ first d₁ second,
        d.drain (drainedBefore answers) = .ok (first, d₁)
          ∧ (d₁.noteInput captureTimeNs).drain answers.outputs = .ok (second, d')
          ∧ frames = first ++ second := by
  unfold decode at h
  split at h
  · next hskip =>
    obtain ⟨rfl, rfl⟩ := Prod.mk.inj (Except.ok.inj h)
    exact .inl ⟨hskip, rfl, rfl⟩
  · next htake =>
    obtain ⟨⟨⟨first, d₁⟩, input⟩, hoffer, h⟩ := bind_eq_ok.mp h
    obtain ⟨_, _, h⟩ := bind_eq_ok.mp h
    obtain ⟨⟨second, d₂⟩, hdrain, hresult⟩ := bind_eq_ok.mp h
    obtain ⟨rfl, rfl⟩ := Prod.mk.inj (Except.ok.inj hresult)
    refine .inr ⟨htake, first, d₁, second, ?_, hdrain, rfl⟩
    unfold drainedBefore
    unfold offerInput at hoffer
    split at hoffer
    · next hbusy =>
      obtain ⟨drained, hbefore, hpair⟩ := bind_eq_ok.mp hoffer
      rw [if_pos hbusy, hbefore]
      exact congrArg Except.ok (Prod.mk.inj (Except.ok.inj hpair)).1
    · next hfree =>
      rw [if_neg hfree]
      exact congrArg Except.ok (Prod.mk.inj (Except.ok.inj hoffer)).1

/-! ## Capture times are handed out in order -/

/-- From `before` to `after`, with `stamps` put in, the capture times of the frames were taken
out in the order of the map. -/
def Hands (before after : OrderedMap Int UInt64) (stamps : List (Int × UInt64))
    (frames : List DecodedFrame) : Prop :=
  ∃ taken : List (Int × UInt64), (taken ++ after.entries).Sublist (before.entries ++ stamps)
    ∧ (carried frames).Sublist (taken.map Prod.snd)

theorem Hands.nothing (m : OrderedMap Int UInt64) : Hands m m [] [] :=
  ⟨[], by simp, List.Sublist.refl _⟩

theorem Hands.trans {m m' m'' : OrderedMap Int UInt64} {stamps stamps' : List (Int × UInt64)}
    {frames frames' : List DecodedFrame} (h : Hands m m' stamps frames)
    (h' : Hands m' m'' stamps' frames') : Hands m m'' (stamps ++ stamps') (frames ++ frames') := by
  obtain ⟨taken, htaken, hcarried⟩ := h
  obtain ⟨taken', htaken', hcarried'⟩ := h'
  refine ⟨taken ++ taken', ?_, ?_⟩
  · calc ((taken ++ taken') ++ m''.entries).Sublist (taken ++ (m'.entries ++ stamps')) := by
          rw [List.append_assoc]
          exact htaken'.append_left taken
      _ = ((taken ++ m'.entries) ++ stamps') := (List.append_assoc ..).symm
      List.Sublist _ ((m.entries ++ stamps) ++ stamps') := htaken.append_right stamps'
      _ = m.entries ++ (stamps ++ stamps') := List.append_assoc ..
  · rw [carried_append, List.map_append]
    exact hcarried.append hcarried'

/-- One output. -/
theorem captureTimeForOutput_hands {m m' : OrderedMap Int UInt64} {sampleTime : Option Int}
    {frame : DecodedFrame} (h : captureTimeForOutput m sampleTime = (frame.captureTimeNs, m')) :
    Hands m m' [] [frame] := by
  have hone : (carried [frame]).Sublist [frame.captureTimeNs] := List.filter_sublist
  cases sampleTime with
  | some sampleTime =>
    obtain ⟨htime, rfl⟩ := Prod.mk.inj h
    cases hfind : m.find? sampleTime with
    | none =>
      rw [hfind] at htime
      have hnone : carried [frame] = [] := by
        rw [carried, List.map_singleton, ← htime]
        rfl
      refine ⟨[], ?_, by rw [hnone]; exact List.Sublist.refl _⟩
      simp
    | some captureTime =>
      rw [hfind] at htime
      refine ⟨[(sampleTime, captureTime)], ?_, ?_⟩
      · simpa using OrderedMap.cons_eraseUpTo_sublist hfind
      · rw [← htime] at hone
        exact hone
  | none =>
    unfold captureTimeForOutput at h
    cases hentries : m.entries with
    | nil =>
      rw [OrderedMap.first?, hentries] at h
      obtain ⟨htime, rfl⟩ := Prod.mk.inj h
      have hnone : carried [frame] = [] := by
        rw [carried, List.map_singleton, ← htime]
        rfl
      exact ⟨[], by simp, by rw [hnone]; exact List.Sublist.refl _⟩
    | cons entry entries =>
      rw [OrderedMap.first?, hentries] at h
      obtain ⟨htime, rfl⟩ := Prod.mk.inj h
      refine ⟨[entry], ?_, ?_⟩
      · rw [OrderedMap.eraseFirst_entries, hentries]
        simp
      · rw [← htime] at hone
        exact hone

theorem drain_hands {d d' : MfH264Decoder} {answers : List OutputAnswer}
    {frames : List DecodedFrame} (h : d.drain answers = .ok (frames, d')) :
    SameStream d d' ∧ d'.sampleIndex = d.sampleIndex
      ∧ Hands d.captureTimes d'.captureTimes [] frames := by
  induction answers generalizing d frames with
  | nil =>
    obtain ⟨rfl, rfl⟩ := Prod.mk.inj (Except.ok.inj h)
    exact ⟨.refl d, rfl, .nothing _⟩
  | cons answer answers ih =>
    cases answer with
    | infoFailed result => cases h
    | failed result => cases h
    | streamChange types =>
      obtain ⟨d₁, hchange, h⟩ := bind_eq_ok.mp h
      obtain ⟨hsame, htimes, hindex⟩ := reconfigure_ok hchange
      obtain ⟨hsame', hindex', hhands⟩ := ih h
      rw [htimes] at hhands
      exact ⟨hsame.trans hsame', hindex'.trans hindex, hhands⟩
    | produced sample =>
      cases sample with
      | none => cases h
      | some sample =>
        obtain ⟨⟨frame, d₁⟩, houtput, h⟩ := bind_eq_ok.mp h
        obtain ⟨⟨more, d₂⟩, hdrain, hresult⟩ := bind_eq_ok.mp h
        obtain ⟨rfl, rfl⟩ := Prod.mk.inj (Except.ok.inj hresult)
        obtain ⟨hsame, hindex, htake, _⟩ := output_ok houtput
        obtain ⟨hsame', hindex', hhands⟩ := ih hdrain
        exact ⟨hsame.trans hsame', hindex'.trans hindex,
          (captureTimeForOutput_hands htake).trans hhands⟩

/-! ## Sample times -/

/-- The sample times of this many more inputs fit a `LONGLONG`. -/
def TimesFit (d : MfH264Decoder) (count : Nat) : Prop :=
  ∀ k < count, ((d.sampleIndex + k : Nat) : Int) * d.sampleDuration < 2 ^ 63

theorem sampleDuration_nonneg (d : MfH264Decoder) : 0 ≤ d.sampleDuration :=
  Int.ediv_nonneg (by omega) (by omega)

/-- The sample time of the next input. -/
theorem TimesFit.sampleTime {d : MfH264Decoder} {count : Nat} (h : d.TimesFit (count + 1)) :
    d.sampleTime = d.sampleIndex * d.sampleDuration := by
  have hfits := h 0 (Nat.zero_lt_succ count)
  have hnonneg := Int.mul_nonneg (Int.natCast_nonneg d.sampleIndex) d.sampleDuration_nonneg
  rw [Nat.add_zero] at hfits
  unfold MfH264Decoder.sampleTime Word64.size
  exact Int.bmod_eq_of_le (by omega) (by omega)

/-- Later inputs of the same stream. -/
theorem TimesFit.later {d d' : MfH264Decoder} {count count' : Nat} (h : d.TimesFit count)
    (hsame : SameStream d d') (hle : d.sampleIndex ≤ d'.sampleIndex)
    (hend : d'.sampleIndex + count' ≤ d.sampleIndex + count) : d'.TimesFit count' := by
  intro k hk
  have hsum : d'.sampleIndex + k = d.sampleIndex + (d'.sampleIndex - d.sampleIndex + k) := by omega
  rw [hsame.sampleDuration, hsum]
  exact h _ (by omega)

/-- A call counts one input at most. -/
theorem decode_sampleIndex {d d' : MfH264Decoder} {annexB : Bytes} {captureTimeNs : UInt64}
    {answers : DecodeAnswers} {frames : List DecodedFrame}
    (h : d.decode annexB captureTimeNs answers = .ok (frames, d')) :
    SameStream d d' ∧ d.sampleIndex ≤ d'.sampleIndex ∧ d'.sampleIndex ≤ d.sampleIndex + 1 := by
  rcases decode_ok h with ⟨_, rfl, rfl⟩ | ⟨_, first, d₁, second, hfirst, hsecond, rfl⟩
  · exact ⟨.refl d', Nat.le_refl _, Nat.le_succ _⟩
  · obtain ⟨hsame, hindex, _⟩ := drain_hands hfirst
    obtain ⟨hsame', hindex', _⟩ := drain_hands hsecond
    have hnoted : SameStream d₁ (d₁.noteInput captureTimeNs) := ⟨rfl, rfl, rfl, rfl⟩
    have hcounted : (d₁.noteInput captureTimeNs).sampleIndex = d₁.sampleIndex + 1 := rfl
    exact ⟨hsame.trans (hnoted.trans hsame'), by omega, by omega⟩

/-- The sample times of the calls behind a call. -/
theorem TimesFit.decode {d d' : MfH264Decoder} {annexB : Bytes} {captureTimeNs : UInt64}
    {answers : DecodeAnswers} {frames : List DecodedFrame} {count : Nat}
    (h : d.TimesFit (count + 1))
    (hdecode : d.decode annexB captureTimeNs answers = .ok (frames, d')) : d'.TimesFit count := by
  obtain ⟨hsame, hle, hlast⟩ := decode_sampleIndex hdecode
  exact h.later hsame hle (by omega)

/-! ## Runs -/

/-- The invariant: at most 512 capture times are pending, under the times of earlier samples. -/
structure Pending (d : MfH264Decoder) : Prop where
  size_le : d.captureTimes.size ≤ maximumPendingCaptureTimes
  below : ∀ entry ∈ d.captureTimes.entries, entry.1 ≤ d.sampleIndex * d.sampleDuration

theorem Pending.drain {d d' : MfH264Decoder} {answers : List OutputAnswer}
    {frames : List DecodedFrame} (h : d.Pending) (hdrain : d.drain answers = .ok (frames, d')) :
    d'.Pending := by
  obtain ⟨hsame, hindex, taken, htaken, _⟩ := drain_hands hdrain
  rw [List.append_nil] at htaken
  have hentries : d'.captureTimes.entries.Sublist d.captureTimes.entries :=
    (List.sublist_append_right _ _).trans htaken
  refine ⟨hentries.length_le.trans h.size_le, ?_⟩
  intro entry hentry
  rw [hindex, hsame.sampleDuration]
  exact h.below entry (hentries.subset hentry)

theorem noteInput_captureTimes (d : MfH264Decoder) (captureTimeNs : UInt64) :
    (d.noteInput captureTimeNs).captureTimes
      = (d.captureTimes.assign d.sampleTime captureTimeNs).keepLast maximumPendingCaptureTimes :=
  rfl

/-- The entries behind a new input. -/
theorem Pending.noteInput_sublist {d : MfH264Decoder} {count : Nat} (h : d.Pending)
    (hfits : d.TimesFit (count + 1)) (captureTimeNs : UInt64) :
    (d.noteInput captureTimeNs).captureTimes.entries.Sublist
      (d.captureTimes.entries ++ [(d.sampleIndex * d.sampleDuration, captureTimeNs)]) := by
  rw [noteInput_captureTimes, OrderedMap.keepLast_entries, hfits.sampleTime]
  exact (List.drop_sublist _ _).trans (OrderedMap.assign_sublist h.below captureTimeNs)

theorem Pending.noteInput {d : MfH264Decoder} {count : Nat} (h : d.Pending)
    (hfits : d.TimesFit (count + 1)) (captureTimeNs : UInt64) :
    (d.noteInput captureTimeNs).Pending := by
  have hlater : (d.sampleIndex : Int) * d.sampleDuration
      ≤ ((d.sampleIndex + 1 : Nat) : Int) * d.sampleDuration := by
    rw [Int.natCast_add, Int.add_mul]
    exact Int.le_add_of_nonneg_right (by simpa using d.sampleDuration_nonneg)
  refine ⟨?_, ?_⟩
  · rw [noteInput_captureTimes]
    exact OrderedMap.size_keepLast_le _ _
  intro entry hentry
  have hmem := (h.noteInput_sublist hfits captureTimeNs).subset hentry
  rcases List.mem_append.mp hmem with hold | hnew
  · exact (h.below entry hold).trans hlater
  · rw [List.mem_singleton.mp hnew]
    exact hlater

/-- **One call** takes capture times out in the order in which they were put in. -/
theorem decode_hands {d d' : MfH264Decoder} {annexB : Bytes} {captureTimeNs : UInt64}
    {answers : DecodeAnswers} {frames : List DecodedFrame} {count : Nat} (hpending : d.Pending)
    (hfits : d.TimesFit (count + 1))
    (h : d.decode annexB captureTimeNs answers = .ok (frames, d')) :
    d'.Pending ∧ ∃ stamps, Hands d.captureTimes d'.captureTimes stamps frames
      ∧ (stamps.map Prod.snd).Sublist [captureTimeNs] := by
  rcases decode_ok h with ⟨_, rfl, rfl⟩ | ⟨_, first, d₁, second, hfirst, hsecond, rfl⟩
  · exact ⟨hpending, [], .nothing _, List.nil_sublist _⟩
  · have hpending₁ := hpending.drain hfirst
    obtain ⟨hsame, hindex, hhands⟩ := drain_hands hfirst
    obtain ⟨_, _, hhands'⟩ := drain_hands hsecond
    have hfits₁ : d₁.TimesFit (count + 1) := hfits.later hsame hindex.ge (by omega)
    have hnote : Hands d₁.captureTimes (d₁.noteInput captureTimeNs).captureTimes
        [(d₁.sampleIndex * d₁.sampleDuration, captureTimeNs)] [] := by
      refine ⟨[], ?_, List.nil_sublist _⟩
      rw [List.nil_append]
      exact hpending₁.noteInput_sublist hfits₁ captureTimeNs
    refine ⟨(hpending₁.noteInput hfits₁ captureTimeNs).drain hsecond, _,
      hhands.trans (hnote.trans hhands'), ?_⟩
    simp

theorem decodeAll_hands {d d' : MfH264Decoder} {calls : List Call} {frames : List DecodedFrame}
    (hpending : d.Pending) (hfits : d.TimesFit calls.length)
    (h : d.decodeAll calls = .ok (frames, d')) :
    d'.Pending ∧ ∃ stamps, Hands d.captureTimes d'.captureTimes stamps frames
      ∧ (stamps.map Prod.snd).Sublist (calls.map Call.captureTimeNs) := by
  induction calls generalizing d frames with
  | nil =>
    obtain ⟨rfl, rfl⟩ := Prod.mk.inj (Except.ok.inj h)
    exact ⟨hpending, [], .nothing _, List.Sublist.refl _⟩
  | cons call calls ih =>
    obtain ⟨⟨first, d₁⟩, hdecode, h⟩ := bind_eq_ok.mp h
    obtain ⟨⟨more, d₂⟩, hrest, hresult⟩ := bind_eq_ok.mp h
    obtain ⟨rfl, rfl⟩ := Prod.mk.inj (Except.ok.inj hresult)
    obtain ⟨hpending₁, stamps, hhands, hstamps⟩ := decode_hands hpending hfits hdecode
    obtain ⟨hpending₂, stamps', hhands', hstamps'⟩ := ih hpending₁ (hfits.decode hdecode) hrest
    refine ⟨hpending₂, stamps ++ stamps', hhands.trans hhands', ?_⟩
    rw [List.map_append, List.map_cons]
    exact hstamps.append hstamps'

/-- One more call. -/
theorem decodeAll_snoc {d d' d'' : MfH264Decoder} {calls : List Call} {call : Call}
    {frames more : List DecodedFrame} (h : d.decodeAll calls = .ok (frames, d'))
    (hcall : d'.decode call.annexB call.captureTimeNs call.answers = .ok (more, d'')) :
    d.decodeAll (calls ++ [call]) = .ok (frames ++ more, d'') := by
  induction calls generalizing d frames with
  | nil =>
    obtain ⟨rfl, rfl⟩ := Prod.mk.inj (Except.ok.inj h)
    rw [List.nil_append, decodeAll, hcall, Lib.ok_bind]
    exact congrArg (fun all => Except.ok (all, d'')) (List.append_nil more)
  | cons first calls ih =>
    obtain ⟨⟨early, d₁⟩, hdecode, h⟩ := bind_eq_ok.mp h
    obtain ⟨⟨later, d₂⟩, hrest, hresult⟩ := bind_eq_ok.mp h
    obtain ⟨rfl, rfl⟩ := Prod.mk.inj (Except.ok.inj hresult)
    rw [List.cons_append, decodeAll, hdecode, Lib.ok_bind]
    dsimp only
    rw [ih hrest, Lib.ok_bind, List.append_assoc]
    rfl

/-- A decoder that is constructed has no capture time pending. -/
theorem new?_fresh {width height fpsNumerator fpsDenominator : UInt32} {types : List OutputType}
    {d : MfH264Decoder} (h : new? width height fpsNumerator fpsDenominator types = .ok d) :
    d.captureTimes.entries = [] ∧ d.sampleIndex = 0 ∧ d.width = width ∧ d.height = height
      ∧ d.fpsNumerator = fpsNumerator ∧ d.fpsDenominator = fpsDenominator := by
  obtain ⟨_, h⟩ := rejectIf_bind_eq_ok.mp h
  obtain ⟨format, _, hresult⟩ := bind_eq_ok.mp h
  obtain rfl := Except.ok.inj hresult
  exact ⟨rfl, rfl, rfl, rfl, rfl, rfl⟩

theorem Pending.fresh {d : MfH264Decoder} (h : d.captureTimes.entries = []) : d.Pending := by
  refine ⟨by rw [OrderedMap.size, h]; exact Nat.zero_le _, ?_⟩
  intro entry hentry
  rw [h] at hentry
  cases hentry

/-- From an empty map, every capture time that is carried was given to `decode`. -/
theorem decodeAll_carried {d d' : MfH264Decoder} {calls : List Call} {frames : List DecodedFrame}
    (hempty : d.captureTimes.entries = []) (hfits : d.TimesFit calls.length)
    (hrun : d.decodeAll calls = .ok (frames, d')) :
    d'.Pending ∧ (carried frames).Sublist (calls.map Call.captureTimeNs) := by
  obtain ⟨hpending, stamps, ⟨taken, htaken, hcarried⟩, hstamps⟩ :=
    decodeAll_hands (.fresh hempty) hfits hrun
  rw [hempty, List.nil_append] at htaken
  refine ⟨hpending, ?_⟩
  exact (hcarried.trans (((List.sublist_append_left _ _).trans htaken).map _)).trans hstamps

/-- **Capture times in order, none twice.** As long as the sample times fit, whatever the
transform answers, the capture times on the frames are some of those given to `decode`, in the
same order, and at most 512 are kept at any time. -/
theorem decodeAll_captureTimes {width height fpsNumerator fpsDenominator : UInt32}
    {types : List OutputType} {d d' : MfH264Decoder} {calls : List Call}
    {frames : List DecodedFrame}
    (hnew : new? width height fpsNumerator fpsDenominator types = .ok d)
    (hfits : d.TimesFit calls.length) (hrun : d.decodeAll calls = .ok (frames, d')) :
    (carried frames).Sublist (calls.map Call.captureTimeNs)
      ∧ d'.captureTimes.size ≤ maximumPendingCaptureTimes := by
  obtain ⟨hpending, hcarried⟩ := decodeAll_carried (new?_fresh hnew).1 hfits hrun
  exact ⟨hcarried, hpending.size_le⟩

/-- A decoder for pictures of 2x2 pixels that pads its rows to four bytes. -/
def paddedDecoder : MfH264Decoder where
  width := 2
  height := 2
  fpsNumerator := 60
  fpsDenominator := 1
  outputStride := 4
  outputHeight := 2
  width_le := by decide
  height_le := by decide

/-- Two inputs, of which the transform returns the second one only. -/
def paddedCalls : List Call :=
  [⟨[1], 7, {}⟩,
   ⟨[1], 9, { outputs :=
     [.produced (some ⟨some 166666, [1, 2, 0, 0, 3, 4, 0, 0, 5, 6, 0, 0]⟩)] }⟩]

theorem timesFit_padded : paddedDecoder.TimesFit paddedCalls.length := by
  intro k hk
  have hcount : k < 2 := hk
  have hduration : paddedDecoder.sampleDuration = 166666 := rfl
  have hindex : paddedDecoder.sampleIndex = 0 := rfl
  rw [hduration, hindex]
  omega

theorem decodeAll_captureTimes_padded :
    ∃ d', paddedDecoder.decodeAll paddedCalls = .ok ([⟨2, 2, 2, 2, 9, [1, 2, 3, 4, 5, 6]⟩], d')
      ∧ (carried [⟨2, 2, 2, 2, 9, [1, 2, 3, 4, 5, 6]⟩]).Sublist
        (paddedCalls.map Call.captureTimeNs)
      ∧ d'.captureTimes.size ≤ maximumPendingCaptureTimes := by
  have hnew : new? 2 2 60 1 [.other, .nv12 2 2 (some 4)] = .ok paddedDecoder := rfl
  have hrun : paddedDecoder.decodeAll paddedCalls
      = .ok ([⟨2, 2, 2, 2, 9, [1, 2, 3, 4, 5, 6]⟩], { paddedDecoder with sampleIndex := 2 }) := by
    decide +kernel
  exact ⟨_, hrun, decodeAll_captureTimes hnew timesFit_padded hrun⟩

/-! ## A transform that answers in order -/

/-- The inputs of a run: the capture times of the access units that are given to the
transform. -/
def inputs (calls : List Call) : List UInt64 :=
  (calls.filter fun call => ¬ Undecodable call.annexB).map Call.captureTimeNs

/-- With `count` inputs taken, and all in front of `next` returned or given up, the transform
returns the samples of the inputs `ks` with their times, none more than 512 inputs late; then
all in front of the last index are returned. -/
inductive InOrder (duration : Int) (count : Nat) :
    Nat → List OutputAnswer → List Nat → Nat → Prop
  | done (next : Nat) : InOrder duration count next [] [] next
  | change {next last : Nat} {types : List OutputType} {answers : List OutputAnswer}
      {ks : List Nat} (later : InOrder duration count next answers ks last) :
      InOrder duration count next (.streamChange types :: answers) ks last
  | sample {next k last : Nat} {bytes : Bytes} {answers : List OutputAnswer} {ks : List Nat}
      (hnext : next ≤ k) (hk : k < count) (hrecent : count ≤ k + maximumPendingCaptureTimes)
      (later : InOrder duration count (k + 1) answers ks last) :
      InOrder duration count next (.produced (some ⟨some (k * duration), bytes⟩) :: answers)
        (k :: ks) last

/-- The same over a run of calls. -/
inductive Punctual (duration : Int) : Nat → Nat → List Call → List Nat → Prop
  | done (count next : Nat) : Punctual duration count next [] []
  | skipped {count next : Nat} {call : Call} {calls : List Call} {ks : List Nat}
      (hskip : Undecodable call.annexB) (later : Punctual duration count next calls ks) :
      Punctual duration count next (call :: calls) ks
  | taken {count next middle last : Nat} {call : Call} {calls : List Call}
      {ks ks' ks'' : List Nat} (htake : ¬ Undecodable call.annexB)
      (before : InOrder duration count next (drainedBefore call.answers) ks middle)
      (behind : InOrder duration (count + 1) middle call.answers.outputs ks' last)
      (later : Punctual duration (count + 1) last calls ks'') :
      Punctual duration count next (call :: calls) (ks ++ ks' ++ ks'')

/-- The entries that inputs with these capture times make. -/
def stamps (duration : Int) (captures : List UInt64) : List (Int × UInt64) :=
  captures.mapIdx fun i captureTime => (i * duration, captureTime)

theorem stamps_append (duration : Int) (captures : List UInt64) (captureTime : UInt64) :
    stamps duration (captures ++ [captureTime])
      = stamps duration captures ++ [(captures.length * duration, captureTime)] := by
  rw [stamps, List.mapIdx_append]
  simp [stamps]

/-- The map holds the entries of the inputs from `next` on, of the last 512 at most. -/
structure Tracks (d : MfH264Decoder) (captures : List UInt64) (next : Nat) : Prop where
  index : d.sampleIndex = captures.length
  next_le : next ≤ captures.length
  entries : d.captureTimes.entries
    = (stamps d.sampleDuration captures).drop
      (max (captures.length - maximumPendingCaptureTimes) next)

/-- The sample of an input takes the entry of this input out. -/
theorem Tracks.take {d : MfH264Decoder} {captures : List UInt64} {next k : Nat}
    (h : d.Tracks captures next) (hnext : next ≤ k) (hk : k < captures.length)
    (hrecent : captures.length ≤ k + maximumPendingCaptureTimes) :
    d.captureTimes.find? (k * d.sampleDuration) = some captures[k]
      ∧ (d.captureTimes.eraseUpTo (k * d.sampleDuration)).entries
        = (stamps d.sampleDuration captures).drop (k + 1) := by
  have hlength : k < (stamps d.sampleDuration captures).length := by
    rwa [stamps, List.length_mapIdx]
  have hstart : max (captures.length - maximumPendingCaptureTimes) next ≤ k :=
    max_le (by omega) hnext
  obtain ⟨before, hsplit⟩ : (stamps d.sampleDuration captures).drop k
      <:+ d.captureTimes.entries := by
    rw [h.entries]
    exact List.drop_suffix_drop_left _ hstart
  have hentry : (stamps d.sampleDuration captures)[k] = (k * d.sampleDuration, captures[k]) := by
    simp [stamps]
  rw [List.drop_eq_getElem_cons hlength, hentry] at hsplit
  exact OrderedMap.take_of_split hsplit.symm

theorem Tracks.output {d d' : MfH264Decoder} {captures : List UInt64} {next k : Nat}
    {bytes : Bytes} {frame : DecodedFrame} (h : d.Tracks captures next) (hnext : next ≤ k)
    (hk : k < captures.length) (hrecent : captures.length ≤ k + maximumPendingCaptureTimes)
    (houtput : d.output ⟨some (k * d.sampleDuration), bytes⟩ = .ok (frame, d')) :
    d'.Tracks captures (k + 1) ∧ captures[k]? = some frame.captureTimeNs := by
  obtain ⟨hsame, hindex, htime, _⟩ := output_ok houtput
  obtain ⟨hfind, herase⟩ := h.take hnext hk hrecent
  obtain ⟨hframe, hmap⟩ := Prod.mk.inj htime
  rw [hfind, Option.getD_some] at hframe
  have hmax : max (captures.length - maximumPendingCaptureTimes) (k + 1) = k + 1 := by
    generalize maximumPendingCaptureTimes = limit at *
    omega
  refine ⟨⟨hindex.trans h.index, hk, ?_⟩, ?_⟩
  · rw [hmax, hsame.sampleDuration, ← hmap]
    exact herase
  · rw [← hframe, List.getElem?_eq_getElem hk]

/-- The frames of a drain in order have the capture times of their inputs. -/
theorem Tracks.drain {d d' : MfH264Decoder} {captures : List UInt64} {next last : Nat}
    {answers : List OutputAnswer} {ks : List Nat} {frames : List DecodedFrame}
    (h : d.Tracks captures next)
    (horder : InOrder d.sampleDuration captures.length next answers ks last)
    (hdrain : d.drain answers = .ok (frames, d')) :
    d'.Tracks captures last
      ∧ List.Forall₂ (fun k frame => captures[k]? = some frame.captureTimeNs) ks frames := by
  generalize hduration : d.sampleDuration = duration at horder
  induction horder generalizing d frames with
  | done next =>
    obtain ⟨rfl, rfl⟩ := Prod.mk.inj (Except.ok.inj hdrain)
    exact ⟨h, .nil⟩
  | @change next last types answers ks later ih =>
    obtain ⟨d₁, hchange, hdrain⟩ := bind_eq_ok.mp hdrain
    obtain ⟨hsame, htimes, hindex⟩ := reconfigure_ok hchange
    have hchanged : d₁.Tracks captures next := by
      refine ⟨hindex.trans h.index, h.next_le, ?_⟩
      rw [htimes, hsame.sampleDuration]
      exact h.entries
    exact ih hchanged hdrain (hsame.sampleDuration.trans hduration)
  | sample hnext hk hrecent later ih =>
    obtain ⟨⟨frame, d₁⟩, houtput, hdrain⟩ := bind_eq_ok.mp hdrain
    obtain ⟨⟨more, d₂⟩, hrest, hresult⟩ := bind_eq_ok.mp hdrain
    obtain ⟨rfl, rfl⟩ := Prod.mk.inj (Except.ok.inj hresult)
    subst hduration
    obtain ⟨htracks, hown⟩ := h.output hnext hk hrecent houtput
    obtain ⟨hlast, hframes⟩ := ih htracks hrest (output_ok houtput).1.sampleDuration
    exact ⟨hlast, .cons hown hframes⟩

theorem Tracks.noteInput {d : MfH264Decoder} {captures : List UInt64} {next count : Nat}
    (h : d.Tracks captures next) (hfits : d.TimesFit (count + 1))
    (hduration : 0 < d.sampleDuration) (captureTimeNs : UInt64) :
    (d.noteInput captureTimeNs).Tracks (captures ++ [captureTimeNs]) next := by
  have hbelow : ∀ entry ∈ d.captureTimes.entries,
      entry.1 < d.sampleIndex * d.sampleDuration := by
    intro entry hentry
    rw [h.entries] at hentry
    obtain ⟨i, hi, rfl⟩ := List.mem_iff_getElem.mp (List.mem_of_mem_drop hentry)
    have hlt : i < captures.length := by simpa [stamps] using hi
    rw [h.index]
    simp only [stamps, List.getElem_mapIdx]
    exact Int.mul_lt_mul_of_pos_right (by omega) hduration
  have hdrop : max (captures.length - maximumPendingCaptureTimes) next
      ≤ (stamps d.sampleDuration captures).length := by
    rw [stamps, List.length_mapIdx]
    exact max_le (Nat.sub_le _ _) h.next_le
  have hnextLe := h.next_le
  refine ⟨?_, ?_, ?_⟩
  · rw [List.length_append, ← h.index]
    rfl
  · rw [List.length_append]
    omega
  · have hsame : (d.noteInput captureTimeNs).sampleDuration = d.sampleDuration := rfl
    rw [hsame, noteInput_captureTimes, OrderedMap.keepLast_entries, hfits.sampleTime,
      OrderedMap.assign_above hbelow, h.entries, h.index, ← List.drop_append_of_le_length hdrop,
      ← stamps_append, List.drop_drop]
    congr 1
    simp only [List.length_drop, stamps, List.length_mapIdx, List.length_append,
      List.length_singleton]
    generalize maximumPendingCaptureTimes = limit at *
    omega

/-- One call, and then the run, with the inputs in front of them in `captures`. -/
theorem Tracks.decodeAll {d d' : MfH264Decoder} {captures : List UInt64} {next : Nat}
    {calls : List Call} {ks : List Nat} {frames : List DecodedFrame} (h : d.Tracks captures next)
    (hfits : d.TimesFit calls.length) (hduration : 0 < d.sampleDuration)
    (hpunctual : Punctual d.sampleDuration captures.length next calls ks)
    (hrun : d.decodeAll calls = .ok (frames, d')) :
    List.Forall₂ (fun k frame => (captures ++ inputs calls)[k]? = some frame.captureTimeNs) ks
      frames := by
  generalize hcount : captures.length = count at hpunctual
  generalize hsame : d.sampleDuration = duration at hpunctual
  induction hpunctual generalizing d captures frames with
  | done count next =>
    obtain ⟨rfl, _⟩ := Prod.mk.inj (Except.ok.inj hrun)
    exact .nil
  | @skipped count next call calls ks hskip later ih =>
    obtain ⟨⟨first, d₁⟩, hdecode, hrun⟩ := bind_eq_ok.mp hrun
    obtain ⟨⟨more, d₂⟩, hrest, hresult⟩ := bind_eq_ok.mp hrun
    obtain ⟨rfl, rfl⟩ := Prod.mk.inj (Except.ok.inj hresult)
    rcases decode_ok hdecode with ⟨_, rfl, rfl⟩ | ⟨htake, _⟩
    · have hinputs : inputs (call :: calls) = inputs calls := by
        simp [inputs, hskip]
      rw [hinputs]
      exact ih h (hfits.decode hdecode) hduration hrest hcount hsame
    · exact absurd hskip htake
  | @taken count next middle last call calls ks ks' ks'' htake before behind later ih =>
    obtain ⟨⟨first, d₁⟩, hdecode, hrun⟩ := bind_eq_ok.mp hrun
    obtain ⟨⟨more, d₂⟩, hrest, hresult⟩ := bind_eq_ok.mp hrun
    obtain ⟨rfl, rfl⟩ := Prod.mk.inj (Except.ok.inj hresult)
    rcases decode_ok hdecode with ⟨hskip, _⟩ | ⟨_, early, d₀, late, hearly, hlate, rfl⟩
    · exact absurd hskip htake
    · subst hcount hsame
      have hinputs : captures ++ inputs (call :: calls)
          = captures ++ [call.captureTimeNs] ++ inputs calls := by
        simp [inputs, htake]
      obtain ⟨hmiddle, hfirst⟩ := h.drain before hearly
      obtain ⟨hstream, hindex, _⟩ := drain_hands hearly
      have hduration₀ := hstream.sampleDuration
      have hfits₀ : d₀.TimesFit (calls.length + 1) := by
        exact hfits.later hstream hindex.ge (by rw [hindex, List.length_cons])
      have hnoted := hmiddle.noteInput hfits₀ (hduration₀ ▸ hduration) call.captureTimeNs
      have hdurationNoted : (d₀.noteInput call.captureTimeNs).sampleDuration = d.sampleDuration :=
        hduration₀
      have hlength : (captures ++ [call.captureTimeNs]).length = captures.length + 1 := by simp
      obtain ⟨hlast, hsecond⟩ := hnoted.drain (by rwa [hdurationNoted, hlength]) hlate
      have hduration₁ := (drain_hands hlate).1.sampleDuration.trans hdurationNoted
      have hlater :=
        ih hlast (hfits.decode hdecode) (hduration₁ ▸ hduration) hrest hlength hduration₁
      have hgrow : ∀ {captures' more : List UInt64} {k : Nat} {frame : DecodedFrame},
          captures'[k]? = some frame.captureTimeNs →
            (captures' ++ more)[k]? = some frame.captureTimeNs := by
        intro captures' more k frame hk
        obtain ⟨hlt, _⟩ := List.getElem?_eq_some_iff.mp hk
        rw [List.getElem?_append_left hlt, hk]
      rw [hinputs]
      refine List.rel_append ?_ hlater
      refine List.rel_append ?_ (hsecond.imp fun _ _ => hgrow)
      refine hfirst.imp ?_
      intro k frame hk
      exact hgrow (hgrow hk)

/-- **Every frame has the capture time of its own input**, if the transform returns the samples
of its inputs in order and not more than 512 inputs late. The frame rate may be 10 MHz at most,
so that samples last at least 100 ns, and the sample times have to fit. -/
theorem decodeAll_ownCaptureTimes {width height fpsNumerator fpsDenominator : UInt32}
    {types : List OutputType} {d d' : MfH264Decoder} {calls : List Call} {ks : List Nat}
    {frames : List DecodedFrame}
    (hnew : new? width height fpsNumerator fpsDenominator types = .ok d)
    (hrate : fpsNumerator.toNat ≤ 10000000 * fpsDenominator.toNat)
    (hfits : d.TimesFit calls.length)
    (hpunctual : Punctual d.sampleDuration 0 0 calls ks)
    (hrun : d.decodeAll calls = .ok (frames, d')) :
    List.Forall₂ (fun k frame => (inputs calls)[k]? = some frame.captureTimeNs) ks frames := by
  obtain ⟨hempty, hindex, _, _, hnumerator, hdenominator⟩ := new?_fresh hnew
  obtain ⟨hvalid, _⟩ := rejectIf_bind_eq_ok.mp hnew
  have hpos : 0 < fpsNumerator.toNat := by
    refine Nat.pos_of_ne_zero fun hzero => hvalid (.inr (.inr (.inl ?_)))
    exact UInt32.toNat_inj.mp hzero
  have hduration : 0 < d.sampleDuration := by
    rw [sampleDuration, hnumerator, hdenominator]
    exact Int.lt_of_lt_of_le Int.one_pos (Int.le_ediv_of_mul_le (by omega) (by omega))
  have hfresh : d.Tracks [] 0 := by
    refine ⟨hindex, Nat.le_refl _, ?_⟩
    simp [hempty, stamps]
  simpa using hfresh.decodeAll hfits hduration hpunctual hrun

theorem decodeAll_ownCaptureTimes_padded :
    ∃ frames d', paddedDecoder.decodeAll paddedCalls = .ok (frames, d')
      ∧ List.Forall₂ (fun k frame => (inputs paddedCalls)[k]? = some frame.captureTimeNs) [1]
        frames := by
  have hnew : new? 2 2 60 1 [.other, .nv12 2 2 (some 4)] = .ok paddedDecoder := rfl
  obtain ⟨⟨frames, d'⟩, hrun⟩ : ∃ result, paddedDecoder.decodeAll paddedCalls = .ok result :=
    exists_of_isSome (by with_unfolding_all rfl)
  have hrecent : 2 ≤ 1 + maximumPendingCaptureTimes := by
    with_unfolding_all decide
  have hone : ¬ Undecodable [1] := by decide
  have hlater : Punctual 166666 1 0 paddedCalls.tail ([] ++ [1] ++ []) :=
    .taken hone (.done 0)
      (.sample (k := 1) (Nat.zero_le 1) Nat.one_lt_two hrecent (.done 2)) (.done 2 2)
  have hpunctual : Punctual 166666 0 0 paddedCalls ([] ++ [] ++ [1]) :=
    .taken hone (.done 0) (.done 0) hlater
  have hown := decodeAll_ownCaptureTimes hnew (by decide) timesFit_padded hpunctual hrun
  exact ⟨frames, d', hrun, hown⟩

end MfH264Decoder
end Ipmx.Receiver
