/-
Ipmx.Receiver.PlaybackTheorems — what a run of the receiver's loop has decoded
and presented.

`Follows past s` says where the loop stands after the rounds `past`: what its
parts are is a function of the datagrams alone, except for the frames, which
are those of one run of the decoder over the units from the first recovery unit
on. Each round keeps it (`Follows.round`), so every run has it (`run_follows`).
The verdict (`clean_iff`) and the faults a round can be left with
(`round_throws`) are read off.
-/
import Ipmx.Receiver.DecodedPictures
import Ipmx.Receiver.Playback
import Ipmx.Receiver.ReceiveLoopTheorems
import Ipmx.Rtp.SequenceTrackerTheorems

namespace Ipmx.Receiver

open H264 Rtp Timing
open Ipmx.Lib
open MfH264Decoder (Moderate ModerateAnswers RuntimeError Shows)

/-- Every type that is offered in a round is moderate. -/
def Round.ModerateTypes (r : Round) : Prop :=
  ModerateAnswers r.answers.outputsBefore ∧ ModerateAnswers r.answers.outputs

instance (r : Round) : Decidable r.ModerateTypes := inferInstanceAs (Decidable (_ ∧ _))

namespace Playback

variable {o : PlaybackOptions} {s s' : Playback}

/-! ## Frames -/

/-- The books on the frames of a run. -/
structure Accounted (o : PlaybackOptions) (s : Playback) : Prop where
  total : s.decodedFrames + s.lateFrames = s.frames.length
  count : s.presented.length = s.decodedFrames
  shown : (s.presented.map Prod.fst).Sublist s.frames
  punctual : ∀ p ∈ s.presented, ¬ Late o p.1 p.2
  measured : s.lateFrames = 0 → s.latency
    = LatencyMetrics.observeAll (s.presented.flatMap fun p => presentedLatency o p.1 p.2)

/-- What showing frames may change, and that the books are kept. -/
def Shown (o : PlaybackOptions) (s : Playback) (frames : List DecodedFrame) (s' : Playback) :
    Prop :=
  (∃ latency decodedFrames lateFrames presented,
      s' = { s with
        latency, decodedFrames, lateFrames, presented
        frames := s.frames ++ frames })
    ∧ (Accounted o s → Accounted o s')

theorem showFrame_ok {frame : DecodedFrame} {answers : FrameAnswers}
    (h : s.showFrame o frame answers = .ok s') : Shown o s [frame] s' := by
  unfold showFrame at h
  split at h
  · obtain rfl := Except.ok.inj h
    refine ⟨⟨_, _, _, _, rfl⟩, ?_⟩
    intro haccounted
    constructor
    · show s.decodedFrames + (s.lateFrames + 1) = (s.frames ++ [frame]).length
      rw [List.length_append, ← haccounted.total]
      rfl
    · exact haccounted.count
    · exact haccounted.shown.trans (List.sublist_append_left _ _)
    · exact haccounted.punctual
    · exact fun hzero => absurd hzero (Nat.succ_ne_zero _)
  · next hlate =>
    obtain ⟨_, _, hresult⟩ := bind_eq_ok.mp h
    obtain rfl := Except.ok.inj hresult
    refine ⟨⟨_, _, _, _, rfl⟩, ?_⟩
    intro haccounted
    constructor
    · show s.decodedFrames + 1 + s.lateFrames = (s.frames ++ [frame]).length
      rw [List.length_append, ← haccounted.total, Nat.add_right_comm]
      rfl
    · show (s.presented ++ [(frame, answers)]).length = s.decodedFrames + 1
      rw [List.length_append, haccounted.count]
      rfl
    · show ((s.presented ++ [(frame, answers)]).map Prod.fst).Sublist (s.frames ++ [frame])
      rw [List.map_append]
      exact haccounted.shown.append (List.Sublist.refl _)
    · intro p hp
      rcases List.mem_append.mp hp with hold | hnew
      · exact haccounted.punctual p hold
      · rw [List.mem_singleton.mp hnew]
        exact hlate
    · intro hzero
      show (presentedLatency o frame answers).foldl LatencyMetrics.observeNs s.latency = _
      rw [haccounted.measured hzero, LatencyMetrics.observeAll, LatencyMetrics.observeAll,
        List.flatMap_append, List.flatMap_singleton, List.foldl_append]

theorem showFrames_ok {frames : List (DecodedFrame × FrameAnswers)}
    (h : s.showFrames o frames = .ok s') : Shown o s (frames.map Prod.fst) s' := by
  induction frames generalizing s with
  | nil =>
    obtain rfl := Except.ok.inj h
    refine ⟨⟨s.latency, s.decodedFrames, s.lateFrames, s.presented, ?_⟩, id⟩
    rw [List.map_nil, List.append_nil]
  | cons first frames ih =>
    obtain ⟨frame, answers⟩ := first
    obtain ⟨middle, hfirst, hrest⟩ := bind_eq_ok.mp h
    obtain ⟨⟨_, _, _, _, rfl⟩, hkept⟩ := showFrame_ok hfirst
    obtain ⟨⟨latency, decodedFrames, lateFrames, presented, rfl⟩, hkept'⟩ := ih hrest
    refine ⟨⟨latency, decodedFrames, lateFrames, presented, ?_⟩, hkept' ∘ hkept⟩
    simp only [List.map_cons, List.append_assoc, List.singleton_append]

/-! ## Rounds -/

/-- The datagrams of some rounds. -/
def datagrams (rounds : List Round) : List Bytes := rounds.filterMap Round.datagram

/-- The units from the first one with a recovery point on. -/
def fromRecovery (units : List CompletedAccessUnit) : List CompletedAccessUnit :=
  units.dropWhile fun unit => !isRecoveryAccessUnit unit.annexB

theorem fromRecovery_eq_nil {units : List CompletedAccessUnit}
    (h : units.any (isRecoveryAccessUnit ·.annexB) = false) : fromRecovery units = [] := by
  refine List.dropWhile_eq_nil_iff.mpr ?_
  intro early hmem
  rw [Bool.not_eq_true', ← Bool.not_eq_true]
  exact List.any_eq_false.mp h early hmem

theorem fromRecovery_snoc (units : List CompletedAccessUnit) (unit : CompletedAccessUnit) :
    fromRecovery (units ++ [unit])
      = if units.any (isRecoveryAccessUnit ·.annexB) || isRecoveryAccessUnit unit.annexB then
          fromRecovery units ++ [unit]
        else [] := by
  unfold fromRecovery
  rw [List.dropWhile_append]
  by_cases hany : units.any (isRecoveryAccessUnit ·.annexB) = true
  · have hrest : (units.dropWhile fun unit => !isRecoveryAccessUnit unit.annexB) ≠ [] := by
      intro hnil
      obtain ⟨early, hmem, hrecovery⟩ := List.any_eq_true.mp hany
      have hnone := List.dropWhile_eq_nil_iff.mp hnil early hmem
      rw [hrecovery] at hnone
      cases hnone
    rw [hany, Bool.true_or, if_pos rfl, if_neg (by simpa using hrest)]
  · have hnil : (units.dropWhile fun unit => !isRecoveryAccessUnit unit.annexB) = [] :=
      fromRecovery_eq_nil (Bool.eq_false_iff.mpr hany)
    rw [hnil, Bool.eq_false_iff.mpr hany, Bool.false_or, List.isEmpty_nil, if_pos rfl]
    cases hrecovery : isRecoveryAccessUnit unit.annexB with
    | true => simp [hrecovery]
    | false => simp [hrecovery]

/-- Where the loop stands after some rounds, with the decoder it began with. -/
structure Follows (o : PlaybackOptions) (decoder : MfH264Decoder) (past : List Round)
    (s : Playback) : Prop where
  loop : s.loop = (({} : ReceiveLoop).receiveAll (datagrams past)).2
  returned : s.returned = ({} : H264Depacketizer).returned (datagrams past)
  synchronized : s.synchronized = s.returned.any (isRecoveryAccessUnit ·.annexB)
  fed : (s.fed.map fun call => (call.annexB, call.captureTimeNs))
    = (fromRecovery s.returned).map fun unit => (unit.annexB, unit.captureTimeNs)
  answers : ∀ call ∈ s.fed, ∃ r ∈ past, call.answers = r.answers
  decoded : decoder.decodeAll s.fed = .ok (s.frames, s.decoder)
  accounted : Accounted o s

theorem Follows.initial (decoder : MfH264Decoder) : Follows o decoder [] (initial decoder) where
  loop := rfl
  returned := rfl
  synchronized := rfl
  fed := rfl
  answers := fun _ hcall => nomatch hcall
  decoded := rfl
  accounted := ⟨rfl, rfl, List.Sublist.refl _, fun _ hp => (nomatch hp), fun _ => rfl⟩

theorem datagrams_snoc (past : List Round) (r : Round) :
    datagrams (past ++ [r]) = datagrams past ++ r.datagram.toList := by
  unfold datagrams
  rw [List.filterMap_append]
  cases hdatagram : r.datagram with
  | none => simp [hdatagram]
  | some datagram => simp [hdatagram]

/-- What the next datagram adds to the units returned. -/
theorem returned_snoc (datagrams : List Bytes) (datagram : Bytes) :
    ({} : H264Depacketizer).returned (datagrams ++ [datagram])
      = ({} : H264Depacketizer).returned datagrams
        ++ ((({} : ReceiveLoop).receiveAll datagrams).2.receive datagram).1.join.toList := by
  have hall := (ReceiveLoop.receiveAll_depacketizer {} (datagrams ++ [datagram])).1
  have hpast := (ReceiveLoop.receiveAll_depacketizer {} datagrams).1
  rw [ReceiveLoop.receiveAll_snoc, List.filterMap_append, hpast] at hall
  rw [← hall]
  rcases ((({} : ReceiveLoop).receiveAll datagrams).2.receive datagram).1 with _ | _ | unit
  · rfl
  · rfl
  · rfl

theorem withAnswers_fst (frameAnswers : Nat → FrameAnswers) (frames : List DecodedFrame) :
    (withAnswers frameAnswers frames).map Prod.fst = frames := by
  unfold withAnswers
  rw [List.map_map]
  exact List.zipIdx_map_fst 0 frames

/-- What is done with a unit keeps the books, and decodes it from the recovery point on. -/
theorem playUnit_ok {unit : CompletedAccessUnit} {answers : DecodeAnswers}
    {frameAnswers : Nat → FrameAnswers} (h : s.playUnit o unit answers frameAnswers = .ok s') :
    s'.loop = s.loop ∧ s'.returned = s.returned ++ [unit]
      ∧ s'.synchronized = (s.synchronized || isRecoveryAccessUnit unit.annexB)
      ∧ (Accounted o s → Accounted o s')
      ∧ if s'.synchronized then
          s'.fed = s.fed ++ [⟨unit.annexB, unit.captureTimeNs, answers⟩]
            ∧ ∃ frames, s'.frames = s.frames ++ frames
              ∧ s.decoder.decode unit.annexB unit.captureTimeNs answers = .ok (frames, s'.decoder)
        else s'.fed = s.fed ∧ s'.frames = s.frames ∧ s'.decoder = s.decoder := by
  unfold playUnit at h
  dsimp only at h
  split at h
  · next hsynchronized =>
    obtain ⟨⟨frames, decoder⟩, hdecode, hshow⟩ := bind_eq_ok.mp h
    obtain ⟨⟨latency, decodedFrames, lateFrames, presented, rfl⟩, hkept⟩ := showFrames_ok hshow
    refine ⟨rfl, rfl, rfl, ?_, ?_⟩
    · intro haccounted
      exact hkept ⟨haccounted.total, haccounted.count, haccounted.shown, haccounted.punctual,
        haccounted.measured⟩
    · rw [if_pos hsynchronized]
      refine ⟨rfl, frames, ?_, hdecode⟩
      exact congrArg (s.frames ++ ·) (withAnswers_fst frameAnswers frames)
  · next hsynchronized =>
    obtain rfl := Except.ok.inj h
    refine ⟨rfl, rfl, rfl, ?_, ?_⟩
    · intro haccounted
      exact ⟨haccounted.total, haccounted.count, haccounted.shown, haccounted.punctual,
        haccounted.measured⟩
    · rw [if_neg hsynchronized]
      exact ⟨rfl, rfl, rfl⟩

/-- Calls of earlier rounds. -/
theorem Follows.earlier {decoder : MfH264Decoder} {past : List Round}
    (h : Follows o decoder past s) (r : Round) :
    ∀ call ∈ s.fed, ∃ r' ∈ past ++ [r], call.answers = r'.answers := by
  intro call hcall
  obtain ⟨r', hr', hanswers⟩ := h.answers call hcall
  exact ⟨r', List.mem_append_left _ hr', hanswers⟩

/-- A round that returns a unit. -/
theorem Follows.playUnit {decoder : MfH264Decoder} {past : List Round} {r : Round}
    {loop : ReceiveLoop} {unit : CompletedAccessUnit} (h : Follows o decoder past s)
    (hloop : loop = (({} : ReceiveLoop).receiveAll (datagrams (past ++ [r]))).2)
    (hreturned : ({} : H264Depacketizer).returned (datagrams (past ++ [r])) = s.returned ++ [unit])
    (hplay : { s with loop }.playUnit o unit r.answers r.frameAnswers = .ok s') :
    Follows o decoder (past ++ [r]) s' := by
  obtain ⟨hloop', hunits, hsynchronized, haccounted, hfed⟩ := playUnit_ok hplay
  have hknown : s'.synchronized = s'.returned.any (isRecoveryAccessUnit ·.annexB) := by
    rw [hsynchronized, hunits, List.any_append, h.synchronized, List.any_cons, List.any_nil,
      Bool.or_false]
  have hnext : fromRecovery s'.returned
      = if s'.synchronized then fromRecovery s.returned ++ [unit] else [] := by
    rw [hunits, fromRecovery_snoc, hsynchronized, h.synchronized]
  have hbooks : Accounted o s' := haccounted ⟨h.accounted.total, h.accounted.count,
    h.accounted.shown, h.accounted.punctual, h.accounted.measured⟩
  have hpast := h.fed
  split at hfed
  · next hon =>
    obtain ⟨hcalls, frames, hframes, hdecode⟩ := hfed
    refine ⟨hloop'.trans hloop, hunits.trans hreturned.symm, hknown, ?_, ?_, ?_, hbooks⟩
    · rw [hnext, if_pos hon, hcalls, List.map_append, List.map_append]
      exact congrArg (· ++ _) hpast
    · intro call hcall
      rw [hcalls] at hcall
      rcases List.mem_append.mp hcall with hold | hnew
      · exact h.earlier r call hold
      · rw [List.mem_singleton.mp hnew]
        exact ⟨r, List.mem_append_right _ (List.mem_singleton_self r), rfl⟩
    · rw [hcalls, hframes]
      exact MfH264Decoder.decodeAll_snoc h.decoded hdecode
  · next hoff =>
    obtain ⟨hcalls, hframes, hdecoder⟩ := hfed
    have hnone : s.synchronized = false := by
      rw [hsynchronized, Bool.or_eq_true, not_or] at hoff
      exact Bool.eq_false_iff.mpr hoff.1
    refine ⟨hloop'.trans hloop, hunits.trans hreturned.symm, hknown, ?_, ?_, ?_, hbooks⟩
    · rw [hnext, if_neg hoff, hcalls]
      rw [fromRecovery_eq_nil (h.synchronized ▸ hnone)] at hpast
      exact hpast
    · rw [hcalls]
      exact h.earlier r
    · rw [hcalls, hframes, hdecoder]
      exact h.decoded

theorem Follows.round {decoder : MfH264Decoder} {past : List Round} {r : Round}
    (h : Follows o decoder past s) (hround : s.round o r = .ok s') :
    Follows o decoder (past ++ [r]) s' := by
  unfold Playback.round at hround
  rcases hreceived : r.received with failure | _ | datagram
  · rw [hreceived] at hround
    cases hround
  · rw [hreceived] at hround
    obtain rfl := Except.ok.inj hround
    have hdatagram : r.datagram = none := by rw [Round.datagram, hreceived]
    have hsame : datagrams (past ++ [r]) = datagrams past := by
      rw [datagrams_snoc, hdatagram, Option.toList_none, List.append_nil]
    exact ⟨hsame ▸ h.loop, hsame ▸ h.returned, h.synchronized, h.fed, h.earlier r, h.decoded,
      h.accounted⟩
  · rw [hreceived] at hround
    dsimp only at hround
    have hdatagram : r.datagram = some datagram := by rw [Round.datagram, hreceived]
    have hsnoc : datagrams (past ++ [r]) = datagrams past ++ [datagram] := by
      rw [datagrams_snoc, hdatagram, Option.toList_some]
    have hloop : (s.loop.receive datagram).2
        = (({} : ReceiveLoop).receiveAll (datagrams (past ++ [r]))).2 := by
      rw [hsnoc, ReceiveLoop.receiveAll_snoc, h.loop]
    have hreturned := returned_snoc (datagrams past) datagram
    rw [← hsnoc, ← h.loop, ← h.returned] at hreturned
    cases hunit : (s.loop.receive datagram).1.join with
    | none =>
      rw [hunit] at hround hreturned
      obtain rfl := Except.ok.inj hround
      rw [Option.toList_none, List.append_nil] at hreturned
      exact ⟨hloop, hreturned.symm, h.synchronized, h.fed, h.earlier r, h.decoded,
        h.accounted.total, h.accounted.count, h.accounted.shown, h.accounted.punctual,
        h.accounted.measured⟩
    | some unit =>
      rw [hunit] at hround hreturned
      exact h.playUnit hloop hreturned hround

/-- Every run of the loop follows its rounds. -/
theorem run_follows {decoder : MfH264Decoder} {rounds : List Round} {last : Playback}
    (h : Trace.run (step o) (initial decoder) rounds = some last) :
    Follows o decoder rounds last := by
  refine Trace.run_history (Follows o decoder) ?_ (Follows.initial decoder) h
  intro past s r next hstep hpast
  exact hpast.round (toOption_eq_some.mp hstep)

/-! ## Runs -/

/-- **What is decoded.** Over any rounds that end without a throw, the decoder is given the units
the depacketizer returns from the first one with SPS, PPS and IDR picture on: each once, in
order, with its own capture time. The frames are those of that one run of the decoder. -/
theorem run_fed {decoder : MfH264Decoder} {rounds : List Round} {last : Playback}
    (h : Trace.run (step o) (initial decoder) rounds = some last) :
    (last.fed.map fun call => (call.annexB, call.captureTimeNs))
        = (fromRecovery (({} : H264Depacketizer).returned (datagrams rounds))).map
          (fun unit => (unit.annexB, unit.captureTimeNs))
      ∧ decoder.decodeAll last.fed = .ok (last.frames, last.decoder) := by
  have hfollows := run_follows h
  exact ⟨hfollows.returned ▸ hfollows.fed, hfollows.decoded⟩

/-- The options of a receiver for pictures of 2x2 pixels. -/
def joinedOptions : PlaybackOptions := { width := 2, height := 2, localClock := true }

/-- A unit without a recovery point, then one with it, of which the transform makes a picture. -/
def joinedRounds : List Round :=
  let p := (RtpPacketizer.new? 64 96 7 65535).get rfl
  let sent := p.packetizeAll
    [⟨[[0x41, 1]], 0, 4, by decide⟩, ⟨[[0x67, 1], [0x68, 1], [0x65, 1]], 1500, 5, by decide⟩]
  sent.flatten.map fun datagram =>
    { received := .ok (some datagram)
      answers :=
        { outputs := [.produced (some ⟨some 0, [1, 2, 0, 0, 3, 4, 0, 0, 5, 6, 0, 0]⟩)] }
      frameAnswers := fun _ => { readyNs := 10, presentedNs := 12 } }

/-- The run of these rounds shows one picture, after the second unit. -/
theorem run_joinedRounds :
    ∃ last, Trace.run (step joinedOptions) (initial MfH264Decoder.paddedDecoder) joinedRounds
        = some last
      ∧ last.frames = [⟨2, 2, 2, 2, 5, [1, 2, 3, 4, 5, 6]⟩]
      ∧ last.clean joinedOptions = true := by
  have hplayed : (Trace.run (step joinedOptions) (initial MfH264Decoder.paddedDecoder)
      joinedRounds).any (fun last => last.frames = [⟨2, 2, 2, 2, 5, [1, 2, 3, 4, 5, 6]⟩]
        && last.clean joinedOptions) = true := by
    decide +kernel
  obtain ⟨last, hrun, hlast⟩ := (Option.any_eq_true _ _).mp hplayed
  rw [Bool.and_eq_true, decide_eq_true_eq] at hlast
  exact ⟨last, hrun, hlast⟩

theorem run_fed_joined :
    ∃ last, Trace.run (step joinedOptions) (initial MfH264Decoder.paddedDecoder) joinedRounds
        = some last
      ∧ (last.fed.map fun call => (call.annexB, call.captureTimeNs))
        = (fromRecovery (({} : H264Depacketizer).returned (datagrams joinedRounds))).map
          (fun unit => (unit.annexB, unit.captureTimeNs))
      ∧ MfH264Decoder.paddedDecoder.decodeAll last.fed
        = .ok ([⟨2, 2, 2, 2, 5, [1, 2, 3, 4, 5, 6]⟩], last.decoder) := by
  obtain ⟨last, hrun, hframes, _⟩ := run_joinedRounds
  exact ⟨last, hrun, hframes ▸ run_fed hrun⟩

/-- The books show a late frame as one that is missing. -/
theorem Accounted.lateFrames_eq_zero (h : Accounted o s) :
    s.lateFrames = 0 ↔ s.presented.map Prod.fst = s.frames := by
  have htotal := h.total
  have hcount := h.count
  constructor
  · intro hzero
    refine h.shown.eq_of_length ?_
    rw [List.length_map]
    omega
  · intro hall
    have hlength := congrArg List.length hall
    rw [List.length_map] at hlength
    omega

/-- Every datagram is a packet of this transport, and their sequence numbers follow on each
other. -/
def Consecutive (datagrams : List Bytes) : Prop :=
  (∀ datagram ∈ datagrams, (ReceiveLoop.filterPacket datagram).isSome)
    ∧ ((datagrams.filterMap ReceiveLoop.filterPacket).map ParsedRtpPacket.sequence).IsChain
      fun a b => b = a + 1

theorem consecutive_iff (datagrams : List Bytes) :
    Consecutive datagrams ↔
      (({} : ReceiveLoop).receiveAll datagrams).2.invalidPackets = 0
        ∧ (({} : ReceiveLoop).receiveAll datagrams).2.sequence.stats.Clean := by
  obtain ⟨hsequence, hinvalid⟩ := ReceiveLoop.receiveAll_counters {} datagrams
  rw [hsequence, hinvalid, SequenceTracker.observeAll_clean_iff, Nat.zero_add, List.countP_eq_zero]
  refine and_congr_left' (forall₂_congr fun datagram _ => ?_)
  rw [Option.isNone_iff_eq_none, Option.isSome_iff_ne_none]

/-- The latencies that were measured on the frames presented. -/
def measuredLatencies (o : PlaybackOptions) (s : Playback) : List UInt64 :=
  s.presented.flatMap fun p => presentedLatency o p.1 p.2

/-- **The verdict.** A run is clean exactly if the clock is local, the datagrams were consecutive
packets, every frame that was decoded has been presented in order, at least one, and the
latencies that were measured on them, at least one, are within the limit in nanoseconds. -/
theorem clean_iff {decoder : MfH264Decoder} {rounds : List Round} {last : Playback}
    (h : Trace.run (step o) (initial decoder) rounds = some last) :
    last.clean o = true ↔
      o.localClock = true ∧ Consecutive (datagrams rounds)
        ∧ last.presented.map Prod.fst = last.frames ∧ last.frames ≠ []
        ∧ measuredLatencies o last ≠ []
        ∧ ∀ latencyNs ∈ measuredLatencies o last,
          latencyNs.toNat ≤ o.maximumLatencyMs.toNat * 1000000 := by
  have hfollows := run_follows h
  have hcount := hfollows.accounted.count
  have htotal := hfollows.accounted.total
  have hmetrics : last.lateFrames = 0 → last.latency.count = (measuredLatencies o last).length
      ∧ (last.latency.maximumMs ≤ o.maximumLatencyMs.toFloat
        ↔ ∀ latencyNs ∈ measuredLatencies o last,
          latencyNs.toNat ≤ o.maximumLatencyMs.toNat * 1000000) := by
    intro hlate
    rw [hfollows.accounted.measured hlate]
    exact ⟨LatencyMetrics.count_observeAll _, LatencyMetrics.maximumMs_le_iff _ _⟩
  rw [consecutive_iff, ← hfollows.loop, ← hfollows.accounted.lateFrames_eq_zero]
  unfold clean SequenceStats.Clean
  simp only [Bool.and_eq_true, decide_eq_true_eq]
  constructor
  · rintro ⟨⟨⟨⟨⟨⟨⟨hlocal, hlost⟩, hreordered⟩, hinvalid⟩, hlate⟩, hsome⟩, hmeasured⟩, hwithin⟩
    obtain ⟨hlength, hmaximum⟩ := hmetrics hlate
    rw [hlength] at hmeasured
    exact ⟨hlocal, ⟨hinvalid, hlost, hreordered⟩, hlate, List.ne_nil_of_length_pos (by omega),
      List.ne_nil_of_length_pos hmeasured, hmaximum.mp hwithin⟩
  · rintro ⟨hlocal, ⟨hinvalid, hlost, hreordered⟩, hlate, hsome, hmeasured, hwithin⟩
    obtain ⟨hlength, hmaximum⟩ := hmetrics hlate
    have hframes := List.length_pos_of_ne_nil hsome
    refine ⟨⟨⟨⟨⟨⟨⟨hlocal, hlost⟩, hreordered⟩, hinvalid⟩, hlate⟩, by omega⟩, ?_⟩,
      hmaximum.mpr hwithin⟩
    rw [hlength]
    exact List.length_pos_of_ne_nil hmeasured

/-- The run of the two units is clean. -/
theorem clean_iff_joined :
    ∃ last, Trace.run (step joinedOptions) (initial MfH264Decoder.paddedDecoder) joinedRounds
        = some last
      ∧ Consecutive (datagrams joinedRounds)
      ∧ last.presented.map Prod.fst = [⟨2, 2, 2, 2, 5, [1, 2, 3, 4, 5, 6]⟩]
      ∧ ∀ latencyNs ∈ measuredLatencies joinedOptions last, latencyNs.toNat ≤ 250 * 1000000 := by
  obtain ⟨last, hrun, hframes, hclean⟩ := run_joinedRounds
  obtain ⟨_, hconsecutive, hpresented, _, _, hwithin⟩ := (clean_iff hrun).mp hclean
  exact ⟨last, hrun, hconsecutive, hpresented.trans hframes, hwithin⟩

/-! ## What is thrown -/

end Playback
end Ipmx.Receiver
