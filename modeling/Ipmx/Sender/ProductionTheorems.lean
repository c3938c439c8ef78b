/-
Ipmx.Sender.ProductionTheorems — what the sender's loop has produced after a run.

`round_ok` says what a round that does not throw leaves behind, and every
invariant of this module is read off it. A run encodes the frames
`encodedFrames` says, each as the NV12 picture of the last frame that was not a
repetition (`run_pictures`); it forces an IDR picture behind each gap in the
indices (`run_forcedIdr`); the packets it hands over and the file it dumps are
those of the units x264 returned (`run_stream`); and its counters are zero
exactly if no unit lacked what they count (`run_counts`).
-/
import Ipmx.H264.AnnexBTheorems
import Ipmx.Rtp.WireDiscipline
import Ipmx.Sender.Production
import Ipmx.Timing.FrameRun
import Ipmx.Video.BgraToNv12Theorems

namespace Ipmx.Sender

open H264 Rtp
open Ipmx.Lib
open Timing (rtpTimestampForFrame)
open Video (IsNv12Of Nv12Frame bgraToNv12)

/-! ## The encoder -/

namespace X264Encoder

@[simp] theorem input_pts (e : X264Encoder) (frame : Nv12Frame) (pts : Int) :
    (e.input frame pts).pts = pts := rfl

@[simp] theorem input_idr (e : X264Encoder) (frame : Nv12Frame) (pts : Int) :
    (e.input frame pts).idr = decide (e.previousPts ≥ 0 ∧ pts ≠ e.previousPts + 1) := rfl

/-- A call of `encode` that does not throw. -/
theorem encode_ok {e e' : X264Encoder} {frame : Nv12Frame} {pts : Int} {output : X264Output}
    {unit : EncodedAccessUnit} (h : e.encode frame pts output = .ok (unit, e')) :
    frame.width = e.settings.width ∧ frame.height = e.settings.height
      ∧ unit = accessUnit output
      ∧ e' = ({ e with previousPts := pts }.notePictureTiming unit).noteRecoveryPoint unit := by
  obtain ⟨hsize, h⟩ := rejectIf_bind_eq_ok.mp h
  obtain ⟨_, h⟩ := rejectIf_bind_eq_ok.mp h
  obtain ⟨rfl, rfl⟩ := Prod.mk.inj (Except.ok.inj h)
  rw [not_or, not_not, not_not] at hsize
  exact ⟨hsize.1, hsize.2, rfl, rfl⟩

/-- The check of the Picture Timing SEI counts, and warns. -/
theorem notePictureTiming_eq (e : X264Encoder) (unit : EncodedAccessUnit) :
    ∃ warnedPictureTiming warnings, e.notePictureTiming unit
      = { e with
          missingPictureTimingCount := e.missingPictureTimingCount
            + if unit.nals ≠ [] ∧ ¬ unit.pictureTimingPresent then 1 else 0
          warnedPictureTiming, warnings } := by
  unfold notePictureTiming
  split
  · dsimp only
    split
    · exact ⟨_, _, rfl⟩
    · exact ⟨_, _, rfl⟩
  · exact ⟨_, _, rfl⟩

/-- The check of the recovery point counts, and warns. -/
theorem noteRecoveryPoint_eq (e : X264Encoder) (unit : EncodedAccessUnit) :
    ∃ warnedRecoveryPoint warnings, e.noteRecoveryPoint unit
      = { e with
          incompleteRecoveryPointCount := e.incompleteRecoveryPointCount
            + if ¬ unit.recoveryPointComplete then 1 else 0
          warnedRecoveryPoint, warnings } := by
  unfold noteRecoveryPoint
  split
  · dsimp only
    split
    · exact ⟨_, _, rfl⟩
    · exact ⟨_, _, rfl⟩
  · exact ⟨_, _, rfl⟩

/-- What both checks leave behind. -/
theorem note_eq (e : X264Encoder) (unit : EncodedAccessUnit) :
    ((e.notePictureTiming unit).noteRecoveryPoint unit).settings = e.settings
      ∧ ((e.notePictureTiming unit).noteRecoveryPoint unit).previousPts = e.previousPts
      ∧ ((e.notePictureTiming unit).noteRecoveryPoint unit).missingPictureTimingCount
        = e.missingPictureTimingCount
          + (if unit.nals ≠ [] ∧ ¬ unit.pictureTimingPresent then 1 else 0)
      ∧ ((e.notePictureTiming unit).noteRecoveryPoint unit).incompleteRecoveryPointCount
        = e.incompleteRecoveryPointCount + (if ¬ unit.recoveryPointComplete then 1 else 0) := by
  obtain ⟨_, _, hrecovery⟩ := noteRecoveryPoint_eq (e.notePictureTiming unit) unit
  obtain ⟨_, _, htiming⟩ := notePictureTiming_eq e unit
  rw [hrecovery, htiming]
  exact ⟨rfl, rfl, rfl, rfl⟩

/-- An encoder that has not encoded yet. -/
structure Fresh (e : X264Encoder) : Prop where
  previousPts : e.previousPts = -1
  missing : e.missingPictureTimingCount = 0
  incomplete : e.incompleteRecoveryPointCount = 0
  warnedPictureTiming : e.warnedPictureTiming = false
  warnedRecoveryPoint : e.warnedRecoveryPoint = false
  warnings : e.warnings = []

theorem new?_fresh {settings : EncoderSettings} {opening : X264Opening} {e : X264Encoder}
    (h : new? settings opening = .ok e) : e.Fresh ∧ e.settings = settings := by
  obtain ⟨_, h⟩ := rejectIf_bind_eq_ok.mp h
  obtain ⟨_, h⟩ := rejectIf_bind_eq_ok.mp h
  obtain ⟨_, h⟩ := rejectIf_bind_eq_ok.mp h
  obtain ⟨_, h⟩ := rejectIf_bind_eq_ok.mp h
  split at h
  · cases h
  · obtain ⟨_, h⟩ := rejectIf_bind_eq_ok.mp h
    split at h
    · obtain ⟨_, h⟩ := rejectIf_bind_eq_ok.mp h
      obtain rfl := Except.ok.inj h
      exact ⟨⟨rfl, rfl, rfl, rfl, rfl, rfl⟩, rfl⟩
    · cases h

/-- Each warning is written once, when what it warns of is first counted. -/
structure Warned (e : X264Encoder) : Prop where
  pictureTiming : e.warnedPictureTiming = decide (e.missingPictureTimingCount ≠ 0)
  recoveryPoint : e.warnedRecoveryPoint = decide (e.incompleteRecoveryPointCount ≠ 0)
  lines : e.warnings.length = e.warnedPictureTiming.toNat + e.warnedRecoveryPoint.toNat

theorem Fresh.warned {e : X264Encoder} (h : e.Fresh) : e.Warned := by
  refine ⟨?_, ?_, ?_⟩
  · rw [h.warnedPictureTiming, h.missing]
    rfl
  · rw [h.warnedRecoveryPoint, h.incomplete]
    rfl
  · rw [h.warnings, h.warnedPictureTiming, h.warnedRecoveryPoint]
    rfl

theorem Warned.notePictureTiming {e : X264Encoder} (h : e.Warned) (unit : EncodedAccessUnit) :
    (e.notePictureTiming unit).Warned := by
  unfold X264Encoder.notePictureTiming
  split
  · dsimp only
    split
    · next hwarned => exact ⟨by simp [hwarned], h.recoveryPoint, h.lines⟩
    · next hwarned =>
      have hfalse := Bool.eq_false_iff.mpr hwarned
      refine ⟨by simp, h.recoveryPoint, ?_⟩
      have hlines := h.lines
      rw [hfalse] at hlines
      simp only [List.length_append, List.length_singleton, hlines, Bool.toNat_false,
        Bool.toNat_true]
      omega
  · exact h

theorem Warned.noteRecoveryPoint {e : X264Encoder} (h : e.Warned) (unit : EncodedAccessUnit) :
    (e.noteRecoveryPoint unit).Warned := by
  unfold X264Encoder.noteRecoveryPoint
  split
  · dsimp only
    split
    · next hwarned => exact ⟨h.pictureTiming, by simp [hwarned], h.lines⟩
    · next hwarned =>
      have hfalse := Bool.eq_false_iff.mpr hwarned
      refine ⟨h.pictureTiming, by simp, ?_⟩
      have hlines := h.lines
      rw [hfalse] at hlines
      simp only [List.length_append, List.length_singleton, hlines, Bool.toNat_false,
        Bool.toNat_true]
  · exact h

end X264Encoder

/-- The timing of a frame. -/
def SourceFrame.timing (frame : SourceFrame) : Timing.BgraFrame where
  frameIndex := frame.frameIndex
  nominalTimeNs := frame.nominalTimeNs
  captureTimeNs := frame.picture.captureTimeNs.toNat
  skippedIntervals := frame.skippedIntervals

namespace Production

variable {o : ProductionOptions} {s s' : Production}

/-! ## One round -/

/-- The picture of a frame, if a round does not throw on it. -/
theorem convert_ok {frame : SourceFrame} {result : Option Nv12Frame}
    (h : s.convert frame = .ok result) :
    ∃ converted, result = converted.map (fun nv12 : Nv12Frame =>
        { nv12 with captureTimeNs := frame.picture.captureTimeNs })
      ∧ if frame.repeated then converted = s.cachedNv12
        else ∃ nv12, bgraToNv12 frame.picture (s.cachedNv12.getD {}) = .ok nv12
          ∧ converted = some nv12 := by
  obtain ⟨converted, hconverted, hresult⟩ := map_eq_ok.mp h
  refine ⟨converted, hresult.symm, ?_⟩
  split at hconverted
  · next hrepeated =>
    rw [if_pos hrepeated]
    exact (Except.ok.inj hconverted).symm
  · next hfresh =>
    rw [if_neg hfresh]
    obtain ⟨nv12, hrun, rfl⟩ := map_eq_ok.mp (mapError_eq_ok.mp hconverted)
    exact ⟨nv12, hrun, rfl⟩

/-- The state behind a round in which nothing is sent. -/
def skip (s : Production) (frame : SourceFrame) : Production :=
  { s with skippedIntervals := Word64.wrap (s.skippedIntervals + frame.skippedIntervals) }

/-- What a round sends: the picture of its frame and the unit x264 made of it. -/
structure Sending (o : ProductionOptions) (s : Production) (r : ProductionRound)
    (frame : SourceFrame) (nv12 : Nv12Frame) (s' : Production) : Prop where
  picture : s.convert frame = .ok (some nv12)
  width : nv12.width = s.encoder.settings.width
  height : nv12.height = s.encoder.settings.height
  units : s'.units = s.units ++ [X264Encoder.accessUnit r.output]
  inputs : s'.inputs = s.inputs ++ [s.encoder.input nv12 (signed64 (s.mediaIndex o frame))]
  encoder : s'.encoder = ({ s.encoder with previousPts := signed64 (s.mediaIndex o frame) }
    |>.notePictureTiming (X264Encoder.accessUnit r.output)).noteRecoveryPoint
      (X264Encoder.accessUnit r.output)
  cachedNv12 : s'.cachedNv12 = some nv12
  bitstream : s'.bitstream = if o.dumpH264 ∧ (X264Encoder.accessUnit r.output).nals ≠ [] then
    s.bitstream ++ buildAnnexB (X264Encoder.accessUnit r.output).nals else s.bitstream
  frameIndex : s'.frameIndex = Word64.wrap (s.frameIndex + 1)
  enqueued : ∃ timestamp, rtpTimestampForFrame o.initialTimestamp (s.mediaIndex o frame)
      o.fpsNumerator o.fpsDenominator = some timestamp
    ∧ s'.enqueued = s.enqueued ++ [⟨timestamp, nv12.captureTimeNs.toNat,
      (s.packetizer.packetize (X264Encoder.accessUnit r.output).nals timestamp
        nv12.captureTimeNs).1, nominal frame⟩]
    ∧ s'.packetizer = (s.packetizer.packetize (X264Encoder.accessUnit r.output).nals timestamp
        nv12.captureTimeNs).2

/-- **One round** that does not throw. -/
theorem round_ok {r : ProductionRound} (h : s.round o r = .ok s') :
    match r.frame with
    | none => s' = s
    | some frame => (s' = s.skip frame ∧ s.convert frame = .ok none)
        ∨ ∃ nv12, Sending o s r frame nv12 s' := by
  unfold round at h
  cases hframe : r.frame with
  | none =>
    rw [hframe] at h
    exact (Except.ok.inj h).symm
  | some frame =>
    rw [hframe] at h
    dsimp only at h ⊢
    obtain ⟨converted, hconverted, h⟩ := bind_eq_ok.mp h
    cases converted with
    | none => exact .inl ⟨(Except.ok.inj h).symm, hconverted⟩
    | some nv12 =>
      right
      unfold send at h
      obtain ⟨⟨unit, encoder⟩, hencode, h⟩ := bind_eq_ok.mp h
      obtain ⟨hwidth, hheight, rfl, rfl⟩ := X264Encoder.encode_ok (mapError_eq_ok.mp hencode)
      dsimp only at h
      split at h
      · cases h
      · next timestamp htimestamp =>
        obtain rfl := Except.ok.inj h
        exact ⟨nv12, hconverted, hwidth, hheight, rfl, rfl, rfl, rfl, rfl, rfl, timestamp,
          htimestamp, rfl, rfl⟩

/-! ## The pictures -/

/-- The frames of some rounds. -/
def frames (rounds : List ProductionRound) : List SourceFrame :=
  rounds.filterMap ProductionRound.frame

/-- The picture the last frame shows. -/
def lastPicture (last : Option Video.BgraFrame) (frames : List SourceFrame) :
    Option Video.BgraFrame :=
  frames.foldl (fun last frame => if frame.repeated then last else some frame.picture) last

/-- The frames that are encoded, each with the picture it shows: its own, or the one it
repeats. -/
def encodedFrames (last : Option Video.BgraFrame) :
    List SourceFrame → List (SourceFrame × Video.BgraFrame)
  | [] => []
  | frame :: frames =>
    let last := if frame.repeated then last else some frame.picture
    last.toList.map (fun picture => (frame, picture)) ++ encodedFrames last frames

theorem encodedFrames_snoc (last : Option Video.BgraFrame) (frames : List SourceFrame)
    (frame : SourceFrame) :
    encodedFrames last (frames ++ [frame])
      = encodedFrames last frames
        ++ (lastPicture last (frames ++ [frame])).toList.map (fun picture => (frame, picture)) := by
  induction frames generalizing last with
  | nil => simp [encodedFrames, lastPicture]
  | cons first frames ih =>
    rw [List.cons_append, encodedFrames, encodedFrames, ih, List.append_assoc]
    rfl

theorem lastPicture_snoc (last : Option Video.BgraFrame) (frames : List SourceFrame)
    (frame : SourceFrame) :
    lastPicture last (frames ++ [frame])
      = if frame.repeated then lastPicture last frames else some frame.picture := by
  unfold lastPicture
  rw [List.foldl_append, List.foldl_cons, List.foldl_nil]

/-- A buffer with the picture in the size of the encoder. -/
structure Holds (settings : EncoderSettings) (picture : Video.BgraFrame) (nv12 : Nv12Frame) :
    Prop where
  width : nv12.width = settings.width
  height : nv12.height = settings.height
  pixels : IsNv12Of settings.width.toNat settings.height.toNat picture.colour nv12.pixels

/-- The index on the timeline of the frame that is encoded behind `count` others: that of the
pattern, or the count. -/
def timelineIndex (o : ProductionOptions) (frame : SourceFrame) (count : Nat) : Nat :=
  if o.screen then Word64.wrap count else frame.frameIndex

/-- What x264 is given for a frame is the picture it shows, with its own capture time. -/
structure Shows (o : ProductionOptions) (settings : EncoderSettings)
    (shown : (SourceFrame × Video.BgraFrame) × Nat) (input : X264Input) : Prop
    extends Holds settings shown.1.2 input.frame where
  captureTimeNs : input.frame.captureTimeNs = shown.1.1.picture.captureTimeNs
  pts : input.pts = signed64 (timelineIndex o shown.1.1 shown.2)

/-- What is handed over for a frame: its own times, and the timestamp of its index. -/
structure Hands (o : ProductionOptions) (shown : (SourceFrame × Video.BgraFrame) × Nat)
    (sent : TransmitFrame) : Prop where
  captureTimeNs : sent.captureTimeNs = shown.1.1.picture.captureTimeNs.toNat
  nominalTimeNs : sent.nominalTimeNs = nominal shown.1.1
  rtpTimestamp : rtpTimestampForFrame o.initialTimestamp (timelineIndex o shown.1.1 shown.2)
    o.fpsNumerator o.fpsDenominator = some sent.rtpTimestamp

structure Pictured (o : ProductionOptions) (settings : EncoderSettings)
    (past : List ProductionRound) (s : Production) : Prop where
  sameSettings : s.encoder.settings = settings
  frameIndex : s.frameIndex = Word64.wrap (encodedFrames none (frames past)).length
  inputs : List.Forall₂ (Shows o settings) (encodedFrames none (frames past)).zipIdx s.inputs
  enqueued : List.Forall₂ (Hands o) (encodedFrames none (frames past)).zipIdx s.enqueued
  cached : Option.Rel (Holds settings) (lastPicture none (frames past)) s.cachedNv12

/-- A conversion whose result the encoder accepts. -/
theorem holds_of_convert {settings : EncoderSettings} {picture : Video.BgraFrame}
    {reused nv12 : Nv12Frame} (hnarrow : 4 * settings.width.toNat < 2 ^ 32)
    (hrun : bgraToNv12 picture reused = .ok nv12) (hwidth : nv12.width = settings.width)
    (hheight : nv12.height = settings.height) : Holds settings picture nv12 := by
  have hsource : picture.width = nv12.width ∧ picture.height = nv12.height := by
    unfold bgraToNv12 at hrun
    split at hrun
    · cases hrun
    · obtain ⟨pixels, _, hresult⟩ := bind_eq_ok.mp hrun
      obtain rfl := Except.ok.inj hresult
      exact ⟨rfl, rfl⟩
  obtain ⟨hsourceWidth, hsourceHeight⟩ := hsource
  have haccepted : ∀ what, bgraToNv12 picture reused ≠ .error (.invalidArgument what) := by
    intro what
    rw [hrun]
    exact fun h => nomatch h
  rw [← hwidth, ← hsourceWidth] at hnarrow
  obtain ⟨pixels, hpixels, hpicture⟩ := Video.bgraToNv12_convertible
    (Video.convertible_of_accepted haccepted hnarrow) haccepted
  obtain rfl := Except.ok.inj (hrun.symm.trans hpixels)
  rw [hsourceWidth, hsourceHeight, hwidth, hheight] at hpicture
  exact ⟨hwidth, hheight, hpicture⟩

theorem frames_snoc (past : List ProductionRound) (r : ProductionRound) :
    frames (past ++ [r]) = frames past ++ r.frame.toList := by
  unfold frames
  rw [List.filterMap_append]
  cases hframe : r.frame with
  | none => simp [hframe]
  | some frame => simp [hframe]

/-- Nothing is sent for a repetition in front of the first picture only. -/
theorem Pictured.unshown {settings : EncoderSettings} {past : List ProductionRound}
    {frame : SourceFrame} (h : Pictured o settings past s) (hconvert : s.convert frame = .ok none) :
    frame.repeated = true ∧ lastPicture none (frames past) = none := by
  obtain ⟨converted, hresult, hconverted⟩ := convert_ok hconvert
  have hnone : converted = none := Option.map_eq_none_iff.mp hresult.symm
  have hrepeated : frame.repeated = true ∧ s.cachedNv12 = none := by
    split at hconverted
    · next hrepeated => exact ⟨hrepeated, hconverted.symm.trans hnone⟩
    · obtain ⟨nv12, _, hsome⟩ := hconverted
      cases hsome.symm.trans hnone
  have hcached := h.cached
  rw [hrepeated.2] at hcached
  refine ⟨hrepeated.1, ?_⟩
  cases hpicture : lastPicture none (frames past) with
  | none => rfl
  | some picture =>
    rw [hpicture] at hcached
    cases hcached

/-- What is sent for a frame is the picture it shows: its own, or that of the buffer. -/
theorem Pictured.shown {settings : EncoderSettings} {past : List ProductionRound}
    {frame : SourceFrame} {nv12 : Nv12Frame} (hnarrow : 4 * settings.width.toNat < 2 ^ 32)
    (h : Pictured o settings past s) (hconvert : s.convert frame = .ok (some nv12))
    (hwidth : nv12.width = settings.width) (hheight : nv12.height = settings.height) :
    nv12.captureTimeNs = frame.picture.captureTimeNs
      ∧ ∃ picture, lastPicture none (frames past ++ [frame]) = some picture
        ∧ Holds settings picture nv12 := by
  obtain ⟨converted, hresult, hconverted⟩ := convert_ok hconvert
  obtain ⟨image, rfl, rfl⟩ := Option.map_eq_some_iff.mp hresult.symm
  refine ⟨rfl, ?_⟩
  rw [lastPicture_snoc]
  split at hconverted
  · next hrepeated =>
    have hcached := h.cached
    rw [if_pos hrepeated]
    rw [← hconverted] at hcached
    cases hpicture : lastPicture none (frames past) with
    | none =>
      rw [hpicture] at hcached
      cases hcached
    | some picture =>
      rw [hpicture] at hcached
      cases hcached with
      | some hholds => exact ⟨picture, rfl, hholds.width, hholds.height, hholds.pixels⟩
  · next hfresh =>
    rw [if_neg hfresh]
    obtain ⟨nv12', hrun, hsome⟩ := hconverted
    obtain rfl := Option.some.inj hsome
    have hholds := holds_of_convert hnarrow hrun hwidth hheight
    exact ⟨frame.picture, rfl, hholds.width, hholds.height, hholds.pixels⟩

theorem Pictured.round {settings : EncoderSettings} {past : List ProductionRound}
    {r : ProductionRound} (hnarrow : 4 * settings.width.toNat < 2 ^ 32)
    (h : Pictured o settings past s) (hround : s.round o r = .ok s') :
    Pictured o settings (past ++ [r]) s' := by
  have hstep := round_ok hround
  have hframes := frames_snoc past r
  cases hframe : r.frame with
  | none =>
    rw [hframe] at hstep hframes
    obtain rfl := hstep
    rw [Option.toList_none, List.append_nil] at hframes
    exact ⟨h.sameSettings, hframes ▸ h.frameIndex, hframes ▸ h.inputs, hframes ▸ h.enqueued,
      hframes ▸ h.cached⟩
  | some frame =>
    rw [hframe] at hstep hframes
    rw [Option.toList_some] at hframes
    rcases hstep with ⟨rfl, hconvert⟩ | ⟨nv12, hsending⟩
    · -- A repetition before the first picture: there is nothing to encode.
      obtain ⟨hrepeated, hlast⟩ := h.unshown hconvert
      have hsame : encodedFrames none (frames (past ++ [r]))
          = encodedFrames none (frames past) := by
        rw [hframes, encodedFrames_snoc, lastPicture_snoc, if_pos hrepeated, hlast,
          Option.toList_none, List.map_nil, List.append_nil]
      refine ⟨h.sameSettings, hsame ▸ h.frameIndex, hsame ▸ h.inputs, hsame ▸ h.enqueued, ?_⟩
      rw [hframes, lastPicture_snoc, if_pos hrepeated]
      exact h.cached
    · have hsize : nv12.width = settings.width ∧ nv12.height = settings.height :=
        h.sameSettings ▸ ⟨hsending.width, hsending.height⟩
      obtain ⟨hcapture, picture, hlast, hholds⟩ :=
        h.shown hnarrow hsending.picture hsize.1 hsize.2
      have hencoded : encodedFrames none (frames (past ++ [r]))
          = encodedFrames none (frames past) ++ [(frame, picture)] := by
        rw [hframes, encodedFrames_snoc, hlast]
        rfl
      have hindex : s.mediaIndex o frame
          = timelineIndex o frame (encodedFrames none (frames past)).length := by
        unfold mediaIndex timelineIndex
        rw [h.frameIndex]
      refine ⟨?_, ?_, ?_, ?_, ?_⟩
      · rw [hsending.encoder, (X264Encoder.note_eq _ _).1]
        exact h.sameSettings
      · rw [hsending.frameIndex, h.frameIndex, hencoded, List.length_append,
          List.length_singleton]
        exact Nat.mod_add_mod _ _ _
      · rw [hencoded, List.zipIdx_append, hsending.inputs, Nat.zero_add]
        refine List.rel_append h.inputs (.cons ⟨hholds, hcapture, ?_⟩ .nil)
        rw [X264Encoder.input_pts, hindex]
      · obtain ⟨timestamp, htimestamp, henqueued, _⟩ := hsending.enqueued
        rw [hencoded, List.zipIdx_append, henqueued, Nat.zero_add]
        refine List.rel_append h.enqueued (.cons ⟨congrArg UInt64.toNat hcapture, rfl, ?_⟩ .nil)
        rw [← hindex]
        exact htimestamp
      · rw [hframes, hlast, hsending.cachedNv12]
        exact .some hholds

theorem run_pictured {encoder : X264Encoder} {packetizer : RtpPacketizer}
    {rounds : List ProductionRound} {last : Production}
    (hnarrow : 4 * encoder.settings.width.toNat < 2 ^ 32)
    (h : Trace.run (step o) (initial encoder packetizer) rounds = some last) :
    Pictured o encoder.settings rounds last :=
  Trace.run_history (Pictured o encoder.settings)
    (fun _ _ _ _ hstep hpast => hpast.round hnarrow (toOption_eq_some.mp hstep))
    ⟨rfl, rfl, .nil, .nil, .none⟩ h

/-- **What is encoded and sent.** Over any rounds that end without a throw, x264 is given, for
each frame but repetitions before the first picture, the NV12 picture of the last frame that was
not a repetition, with the capture time of the frame itself and its index on the timeline. What
is handed to the transmitter carries the times of the same frames, and the timestamps of these
indices. -/
theorem run_pictures {encoder : X264Encoder} {packetizer : RtpPacketizer}
    {rounds : List ProductionRound} {last : Production}
    (hnarrow : 4 * encoder.settings.width.toNat < 2 ^ 32)
    (h : Trace.run (step o) (initial encoder packetizer) rounds = some last) :
    List.Forall₂ (Shows o encoder.settings) (encodedFrames none (frames rounds)).zipIdx last.inputs
      ∧ List.Forall₂ (Hands o) (encodedFrames none (frames rounds)).zipIdx last.enqueued :=
  ⟨(run_pictured hnarrow h).inputs, (run_pictured hnarrow h).enqueued⟩

/-- An encoder of pictures of 2x2 pixels. -/
def smallEncoder : X264Encoder where
  settings := { width := 2, height := 2, fpsNumerator := 50 }
  sps := [0x67, 1]
  pps := [0x68, 1]

def smallPacketizer : RtpPacketizer :=
  (RtpPacketizer.new? 64 96 0x01020304 65535).get rfl

def smallOptions : ProductionOptions where
  dumpH264 := true
  fpsNumerator := 50
  fpsDenominator := 1
  initialTimestamp := 77
  encoderDelayNs := 2000

/-- A round with a frame of this slot; x264 makes a key frame of the first. -/
def smallRound (index nominalTimeNs skippedIntervals : Nat) (repeated : Bool)
    (payloads : List Bytes) : ProductionRound where
  frame := some ⟨{ Video.mixedFrame with captureTimeNs := UInt64.ofNat (nominalTimeNs + 100) },
    index, nominalTimeNs, skippedIntervals, repeated⟩
  output := ⟨true, index, index, index = 0, payloads⟩
  encodeEndNs := nominalTimeNs + 200

/-- A frame and its repetition, between them a round without a frame. -/
def smallRounds : List ProductionRound :=
  [smallRound 0 5000000000 0 false [[0, 0, 0, 1, 0x67, 1, 0, 0, 0, 1, 0x68, 1],
      [0, 0, 1, 0x06, 0, 1, 0x80, 0x80, 0, 0, 1, 0x65, 0x88]],
    ⟨none, ⟨true, 0, 0, false, []⟩, 0⟩,
    smallRound 1 5020000000 0 true [[0, 0, 1, 0x41, 0x9A]]]

theorem run_smallRounds (screen : Bool) :
    ∃ last, Trace.run (step { smallOptions with screen }) (initial smallEncoder smallPacketizer)
      smallRounds = some last ∧ last.inputs.length = 2 := by
  cases screen
  · with_unfolding_all exact ⟨_, rfl, rfl⟩
  · with_unfolding_all exact ⟨_, rfl, rfl⟩

theorem smallEncoder_fresh : smallEncoder.Fresh := ⟨rfl, rfl, rfl, rfl, rfl, rfl⟩

theorem run_pictures_small :
    ∃ last, Trace.run (step smallOptions) (initial smallEncoder smallPacketizer) smallRounds
        = some last
      ∧ last.inputs.length = 2
      ∧ List.Forall₂ (Shows smallOptions smallEncoder.settings)
        (encodedFrames none (frames smallRounds)).zipIdx last.inputs
      ∧ List.Forall₂ (Hands smallOptions) (encodedFrames none (frames smallRounds)).zipIdx
        last.enqueued := by
  obtain ⟨last, hrun, hlength⟩ := run_smallRounds false
  exact ⟨last, hrun, hlength, run_pictures (by decide) hrun⟩

/-! ## Forced IDR pictures -/

/-- The time stamps given to x264, and where an IDR picture was forced. -/
structure Timed (o : ProductionOptions) (s : Production) : Prop where
  first : ∀ input ∈ s.inputs.head?, input.idr = false
  chain : s.inputs.IsChain fun a b => b.idr = decide (a.pts ≥ 0 ∧ b.pts ≠ a.pts + 1)
  previousPts : s.encoder.previousPts = (s.inputs.getLast?.map X264Input.pts).getD (-1)
  frameIndex : s.frameIndex = Word64.wrap s.inputs.length
  counted : o.screen = true → s.inputs.map X264Input.pts
    = (List.range s.inputs.length).map fun k => signed64 (Word64.wrap k)

theorem Timed.round {r : ProductionRound} (h : Timed o s) (hround : s.round o r = .ok s') :
    Timed o s' := by
  have hstep := round_ok hround
  cases hframe : r.frame with
  | none =>
    rw [hframe] at hstep
    obtain rfl := hstep
    exact h
  | some frame =>
    rw [hframe] at hstep
    rcases hstep with ⟨rfl, _⟩ | ⟨nv12, hsending⟩
    · exact ⟨h.first, h.chain, h.previousPts, h.frameIndex, h.counted⟩
    · have hencoder := X264Encoder.note_eq
        { s.encoder with previousPts := signed64 (s.mediaIndex o frame) }
        (X264Encoder.accessUnit r.output)
      constructor
      · rw [hsending.inputs]
        intro input hinput
        cases hall : s.inputs with
        | nil =>
          rw [hall] at hinput
          obtain rfl := Option.some.inj hinput
          have hnone : s.encoder.previousPts = -1 := by
            rw [h.previousPts, hall]
            rfl
          rw [X264Encoder.input_idr, hnone]
          exact decide_eq_false (by omega)
        | cons first rest =>
          rw [hall] at hinput
          exact h.first input (by rw [hall]; exact hinput)
      · rw [hsending.inputs]
        refine List.isChain_append.mpr ⟨h.chain, List.isChain_singleton _, ?_⟩
        intro a ha b hb
        obtain rfl := Option.some.inj hb
        rw [X264Encoder.input_idr, X264Encoder.input_pts, h.previousPts, ha, Option.map_some,
          Option.getD_some]
      · rw [hsending.encoder, hencoder.2.1, hsending.inputs, List.getLast?_concat,
          Option.map_some, Option.getD_some, X264Encoder.input_pts]
      · rw [hsending.frameIndex, h.frameIndex, hsending.inputs, List.length_append,
          List.length_singleton]
        exact Nat.mod_add_mod _ _ _
      · intro hscreen
        have hindex : s.mediaIndex o frame = s.frameIndex := if_pos hscreen
        rw [hsending.inputs, List.map_append, h.counted hscreen, List.length_append,
          List.length_singleton, List.range_succ, List.map_append, List.map_singleton,
          List.map_singleton, X264Encoder.input_pts, hindex, h.frameIndex]

theorem run_timed {encoder : X264Encoder} {packetizer : RtpPacketizer}
    {rounds : List ProductionRound} {last : Production} (hfresh : encoder.Fresh)
    (h : Trace.run (step o) (initial encoder packetizer) rounds = some last) : Timed o last :=
  Trace.run_invariant (Timed o) (fun s r next hstep htimed =>
      htimed.round (toOption_eq_some.mp hstep))
    ⟨fun _ hinput => (by cases hinput), .nil, hfresh.previousPts, rfl, fun _ => rfl⟩ h

theorem signed64_of_lt {value : Nat} (h : value < 2 ^ 63) : signed64 value = value := by
  unfold signed64
  refine Int.bmod_eq_of_le ?_ ?_
  · simp only [Word64.size]
    omega
  · simp only [Word64.size]
    omega

/-- Without repetitions every frame is encoded as its own picture. -/
theorem encodedFrames_fresh (last : Option Video.BgraFrame) {frames : List SourceFrame}
    (h : ∀ frame ∈ frames, frame.repeated = false) :
    encodedFrames last frames = frames.map fun frame => (frame, frame.picture) := by
  induction frames generalizing last with
  | nil => rfl
  | cons frame frames ih =>
    rw [encodedFrames, if_neg (by simp [h frame List.mem_cons_self]),
      ih _ fun later hmem => h later (List.mem_cons_of_mem _ hmem)]
    rfl

/-- Behind a frame, an IDR picture is forced exactly where slots are skipped. -/
theorem idr_eq_skipped {previous : X264Input} {before : SourceFrame} {inputs : List X264Input}
    {frames : List SourceFrame} (hprevious : previous.pts = before.frameIndex)
    (hpts : List.Forall₂ (fun (frame : SourceFrame) (input : X264Input) =>
      input.pts = frame.frameIndex) frames inputs)
    (hforced : (previous :: inputs).IsChain fun a b =>
      b.idr = decide (a.pts ≥ 0 ∧ b.pts ≠ a.pts + 1))
    (hslots : (before :: frames).IsChain fun f g =>
      g.frameIndex = f.frameIndex + 1 + g.skippedIntervals) :
    inputs.map X264Input.idr = frames.map fun frame => decide (frame.skippedIntervals ≠ 0) := by
  induction hpts generalizing previous before with
  | nil => rfl
  | @cons frame input frames inputs hinput _ ih =>
    rw [List.isChain_cons_cons] at hforced hslots
    rw [List.map_cons, List.map_cons, ih hinput hforced.2 hslots.2, hforced.1, hprevious, hinput,
      hslots.1]
    refine congrArg (· :: _) (decide_eq_decide.mpr ?_)
    constructor
    · rintro ⟨_, hgap⟩ hzero
      refine hgap ?_
      rw [hzero]
      rfl
    · intro hskipped
      refine ⟨Int.natCast_nonneg _, ?_⟩
      omega

/-- **IDR pictures behind gaps.** With the pattern source, after the first frame an IDR picture
is forced for exactly those frames that skip slots of the timeline. -/
theorem run_forcedIdr {encoder : X264Encoder} {packetizer : RtpPacketizer}
    {rounds : List ProductionRound} {last : Production} {source : Timing.TestPatternSource}
    {readings : List Timing.Readings} {first : SourceFrame} {later : List SourceFrame}
    (hpattern : o.screen = false) (hencoder : encoder.Fresh)
    (hnarrow : 4 * encoder.settings.width.toNat < 2 ^ 32)
    (hsource : source.frames readings = some ((first :: later).map SourceFrame.timing))
    (hfirst : source.frameIndex = 0)
    (hnum : 0 < source.fpsNumerator) (hnum' : source.fpsNumerator < 2 ^ 22)
    (hden : 0 < source.fpsDenominator) (hden' : source.fpsDenominator < 2 ^ 10)
    (hnow : ∀ r ∈ readings, r.nowNs < Word64.size)
    (hfits : ∀ r ∈ readings.head?, ∀ frame ∈ first :: later,
      Timing.slotNs r.startNs source.fpsNumerator source.fpsDenominator frame.frameIndex
        < Word64.size)
    (hframes : frames rounds = first :: later)
    (hfresh : ∀ frame ∈ first :: later, frame.repeated = false)
    (h : Trace.run (step o) (initial encoder packetizer) rounds = some last) :
    last.inputs.map X264Input.idr
      = false :: later.map fun frame => decide (frame.skippedIntervals ≠ 0) := by
  have htimed := run_timed hencoder h
  have hpictures := (run_pictured hnarrow h).inputs
  rw [hframes, encodedFrames_fresh none hfresh, List.zipIdx_map, List.forall₂_map_left_iff]
    at hpictures
  have hchain : ((first :: later).map SourceFrame.timing).IsChain fun f g =>
      g.frameIndex = f.frameIndex + 1 + g.skippedIntervals := by
    cases readings with
    | nil => cases hsource
    | cons r readings =>
      have hstart : ∀ head ∈ (r :: readings).head?,
          (if source.frameIndex = 0 then head.startNs else source.startNs) = r.startNs := by
        intro head hhead
        rw [if_pos hfirst, Option.some.inj hhead]
      refine (Timing.TestPatternSource.frames_chain hsource hstart hnum hnum' hden hden' hnow ?_).2
      · intro timing htiming
        obtain ⟨frame, hmem, rfl⟩ := List.mem_map.mp htiming
        exact hfits r rfl frame hmem
  rw [List.isChain_map] at hchain
  have hpts : List.Forall₂ (fun (frame : SourceFrame) (input : X264Input) =>
      input.pts = frame.frameIndex) (first :: later) last.inputs := by
    have hbelow : ∀ numbered ∈ (first :: later).zipIdx, numbered.1.frameIndex < 2 ^ 63 := by
      intro numbered hmem
      cases readings with
      | nil => cases hsource
      | cons r readings =>
        exact Timing.lt_of_slotNs_lt hnum hnum' hden
          (hfits r rfl numbered.1 (List.fst_mem_of_mem_zipIdx hmem))
    rw [← List.zipIdx_map_fst 0 (first :: later), List.forall₂_map_left_iff]
    refine ((List.forall₂_and_left _ _).mpr ⟨hbelow, hpictures⟩).imp ?_
    rintro ⟨frame, k⟩ input ⟨hlt, hshows⟩
    have hindex : timelineIndex o frame k = frame.frameIndex := if_neg (by simp [hpattern])
    rw [hshows.pts]
    exact (congrArg signed64 hindex).trans (signed64_of_lt hlt)
  cases hinputs : last.inputs with
  | nil =>
    rw [hinputs] at hpts
    cases hpts
  | cons input inputs =>
    rw [hinputs] at hpts
    cases hpts with
    | cons hinput hpts =>
      have hforced := htimed.chain
      rw [hinputs] at hforced
      rw [List.map_cons, idr_eq_skipped hinput hpts hforced hchain,
        htimed.first input (by rw [hinputs]; rfl)]

/-- The second frame comes two slots behind the first. -/
def gapRounds : List ProductionRound :=
  [smallRound 0 5000000000 0 false [[0, 0, 1, 0x65, 0x88]],
    smallRound 2 5040000000 1 false [[0, 0, 1, 0x41, 0x9A]]]

theorem run_forcedIdr_gap :
    ∃ last, Trace.run (step smallOptions) (initial smallEncoder smallPacketizer) gapRounds
        = some last
      ∧ last.inputs.map X264Input.idr = [false, true] := by
  obtain ⟨last, hrun⟩ : ∃ last, Trace.run (step smallOptions)
      (initial smallEncoder smallPacketizer) gapRounds = some last := by
    with_unfolding_all exact ⟨_, rfl⟩
  have hsource : (⟨50, 1, 0, 0⟩ : Timing.TestPatternSource).frames
      [⟨5000000000, 5000000000, 5000000100⟩, ⟨0, 5045000000, 5040000100⟩]
      = some ((frames gapRounds).map SourceFrame.timing) := by
    decide
  have hforced := run_forcedIdr rfl smallEncoder_fresh (by decide) hsource rfl (by decide)
    (by decide) (by decide) (by decide) (by decide) (by decide) rfl (by decide) hrun
  exact ⟨last, hrun, hforced⟩

/-- **The screen never skips.** With the screen source the frames are counted on, and no IDR
picture is forced, whatever deadlines were missed. -/
theorem run_screen_unforced {encoder : X264Encoder} {packetizer : RtpPacketizer}
    {rounds : List ProductionRound} {last : Production} (hscreen : o.screen = true)
    (hencoder : encoder.Fresh) (hlength : last.inputs.length < 2 ^ 63)
    (h : Trace.run (step o) (initial encoder packetizer) rounds = some last) :
    ∀ input ∈ last.inputs, input.idr = false := by
  have htimed := run_timed hencoder h
  have hpts : ∀ k, ∀ hk : k < last.inputs.length, last.inputs[k].pts = k := by
    intro k hk
    have hget := List.getElem_of_eq (htimed.counted hscreen) (i := k) (by simpa using hk)
    rw [List.getElem_map, List.getElem_map, List.getElem_range, Word64.wrap_of_lt
      (by simp only [Word64.size]; omega), signed64_of_lt (by omega)] at hget
    exact hget
  intro input hinput
  obtain ⟨k, hk, rfl⟩ := List.getElem_of_mem hinput
  cases k with
  | zero =>
    refine htimed.first _ ?_
    rw [List.head?_eq_getElem?, List.getElem?_eq_getElem hk]
    rfl
  | succ k =>
    rw [List.isChain_iff_getElem.mp htimed.chain k hk, hpts k, hpts (k + 1) hk]
    exact decide_eq_false (by omega)

theorem run_screen_unforced_small :
    ∃ last, Trace.run (step { smallOptions with screen := true })
        (initial smallEncoder smallPacketizer) smallRounds = some last
      ∧ last.inputs.length = 2 ∧ ∀ input ∈ last.inputs, input.idr = false := by
  obtain ⟨last, hrun, hlength⟩ := run_smallRounds true
  exact ⟨last, hrun, hlength,
    run_screen_unforced rfl smallEncoder_fresh (by rw [hlength]; decide) hrun⟩

/-! ## The stream -/

/-- The calls of `packetize` of a run. -/
def calls (s : Production) : List PacketizeCall :=
  (s.units.zip s.enqueued).map fun (unit, sent) =>
    ⟨unit.nals, sent.rtpTimestamp, UInt64.ofNat sent.captureTimeNs⟩

/-- The packets handed over are those of one packetizer, and the dump file is the units. -/
structure Streamed (o : ProductionOptions) (packetizer : RtpPacketizer) (s : Production) :
    Prop where
  length : s.units.length = s.enqueued.length
  packets : packetizer.packetizeCalls s.calls
    = (s.enqueued.map TransmitFrame.rtpPackets, s.packetizer)
  dump : s.bitstream
    = if o.dumpH264 then s.units.flatMap (fun unit => buildAnnexB unit.nals) else []
  normal : ∀ unit ∈ s.units, ∃ output, unit = X264Encoder.accessUnit output

/-- The calls have the timestamps of what was handed over. -/
theorem Streamed.timestamps {packetizer : RtpPacketizer} (h : Streamed o packetizer s) :
    s.calls.map PacketizeCall.timestamp = s.enqueued.map TransmitFrame.rtpTimestamp := by
  calc s.calls.map PacketizeCall.timestamp
      = ((s.units.zip s.enqueued).map Prod.snd).map TransmitFrame.rtpTimestamp := by
        unfold calls
        rw [List.map_map, List.map_map]
        rfl
    _ = s.enqueued.map TransmitFrame.rtpTimestamp := by
        rw [List.map_snd_zip h.length.ge]

theorem Streamed.round {packetizer : RtpPacketizer} {r : ProductionRound}
    (h : Streamed o packetizer s) (hround : s.round o r = .ok s') : Streamed o packetizer s' := by
  have hstep := round_ok hround
  cases hframe : r.frame with
  | none =>
    rw [hframe] at hstep
    obtain rfl := hstep
    exact h
  | some frame =>
    rw [hframe] at hstep
    rcases hstep with ⟨rfl, _⟩ | ⟨nv12, hsending⟩
    · exact ⟨h.length, h.packets, h.dump, h.normal⟩
    · obtain ⟨timestamp, _, henqueued, hpacketizer⟩ := hsending.enqueued
      have hcalls : s'.calls = s.calls
          ++ [⟨(X264Encoder.accessUnit r.output).nals, timestamp, nv12.captureTimeNs⟩] := by
        unfold calls
        rw [hsending.units, henqueued, List.zip_append h.length, List.map_append]
        simp
      refine ⟨?_, ?_, ?_, ?_⟩
      · rw [hsending.units, henqueued, List.length_append, List.length_append, h.length]
        rfl
      · rw [hcalls, packetizeCalls_snoc, h.packets, henqueued, hpacketizer, List.map_append]
        rfl
      · rw [hsending.bitstream, hsending.units, List.flatMap_append, List.flatMap_singleton,
          h.dump]
        cases o.dumpH264 with
        | false => simp
        | true =>
          rw [if_pos rfl]
          split
          · simp
          · next hempty =>
            have hnals : (X264Encoder.accessUnit r.output).nals = [] := by simpa using hempty
            rw [hnals]
            simp [buildAnnexB]
      · intro unit hunit
        rw [hsending.units] at hunit
        rcases List.mem_append.mp hunit with hold | hnew
        · exact h.normal unit hold
        · exact ⟨r.output, List.mem_singleton.mp hnew⟩

theorem run_streamed {encoder : X264Encoder} {packetizer : RtpPacketizer}
    {rounds : List ProductionRound} {last : Production}
    (h : Trace.run (step o) (initial encoder packetizer) rounds = some last) :
    Streamed o packetizer last :=
  Trace.run_invariant (Streamed o packetizer) (fun s r next hstep hstreamed =>
      hstreamed.round (toOption_eq_some.mp hstep))
    ⟨rfl, rfl, by cases o.dumpH264 <;> rfl, fun _ hunit => (by cases hunit)⟩ h

/-- The NAL units x264 returns are in normal form. -/
theorem normal_accessUnit {output : X264Output} :
    ∀ nal ∈ (X264Encoder.accessUnit output).nals, Normal nal := by
  intro nal hnal
  obtain ⟨payload, _, hmem⟩ := List.mem_flatMap.mp hnal
  exact normal_of_mem_parseAnnexB hmem

/-! ## The counters -/

/-- The counters of the encoder are those of its units. -/
structure Counted (s : Production) : Prop where
  warned : s.encoder.Warned
  missing : s.encoder.missingPictureTimingCount
    = s.units.countP fun unit => unit.nals ≠ [] ∧ ¬ unit.pictureTimingPresent
  incomplete : s.encoder.incompleteRecoveryPointCount
    = s.units.countP fun unit => ¬ unit.recoveryPointComplete

theorem Counted.round {r : ProductionRound} (h : Counted s) (hround : s.round o r = .ok s') :
    Counted s' := by
  have hstep := round_ok hround
  cases hframe : r.frame with
  | none =>
    rw [hframe] at hstep
    obtain rfl := hstep
    exact h
  | some frame =>
    rw [hframe] at hstep
    rcases hstep with ⟨rfl, _⟩ | ⟨nv12, hsending⟩
    · exact ⟨h.warned, h.missing, h.incomplete⟩
    · obtain ⟨_, _, hmissing, hincomplete⟩ := X264Encoder.note_eq
        { s.encoder with previousPts := signed64 (s.mediaIndex o frame) }
        (X264Encoder.accessUnit r.output)
      constructor
      · have hwarned : X264Encoder.Warned
            { s.encoder with previousPts := signed64 (s.mediaIndex o frame) } :=
          ⟨h.warned.pictureTiming, h.warned.recoveryPoint, h.warned.lines⟩
        rw [hsending.encoder]
        exact (hwarned.notePictureTiming _).noteRecoveryPoint _
      · rw [hsending.encoder, hmissing, hsending.units, List.countP_append, ← h.missing,
          List.countP_singleton]
        simp
      · rw [hsending.encoder, hincomplete, hsending.units, List.countP_append, ← h.incomplete,
          List.countP_singleton]
        simp

/-- A key frame is complete if the receiver finds its recovery point, and it has a Buffering
Period SEI message. -/
theorem recoveryPointComplete_iff (output : X264Output) :
    (X264Encoder.accessUnit output).recoveryPointComplete = true
      ↔ ((X264Encoder.accessUnit output).keyframe = true →
        isRecoveryAccessUnit (buildAnnexB (X264Encoder.accessUnit output).nals) = true
          ∧ hasSeiMessage (X264Encoder.accessUnit output).nals kH264SeiBufferingPeriod = true) := by
  unfold isRecoveryAccessUnit
  rw [parseAnnexB_build normal_accessUnit]
  unfold X264Encoder.accessUnit
  cases output.keyframe with
  | false => simp
  | true => simp

theorem run_counted {encoder : X264Encoder} {packetizer : RtpPacketizer}
    {rounds : List ProductionRound} {last : Production} (hfresh : encoder.Fresh)
    (h : Trace.run (step o) (initial encoder packetizer) rounds = some last) : Counted last :=
  Trace.run_invariant Counted
    (fun _ _ _ hstep hpast => hpast.round (toOption_eq_some.mp hstep))
    ⟨hfresh.warned, hfresh.missing, hfresh.incomplete⟩ h

theorem run_incomplete_eq_zero {encoder : X264Encoder} {packetizer : RtpPacketizer}
    {rounds : List ProductionRound} {last : Production} (hfresh : encoder.Fresh)
    (h : Trace.run (step o) (initial encoder packetizer) rounds = some last) :
    last.encoder.incompleteRecoveryPointCount = 0 ↔ ∀ unit ∈ last.units, unit.keyframe = true →
      isRecoveryAccessUnit (buildAnnexB unit.nals) = true
        ∧ hasSeiMessage unit.nals kH264SeiBufferingPeriod = true := by
  rw [(run_counted hfresh h).incomplete, List.countP_eq_zero]
  refine forall₂_congr fun unit hunit => ?_
  obtain ⟨output, rfl⟩ := (run_streamed h).normal unit hunit
  rw [decide_eq_true_eq, not_not, recoveryPointComplete_iff]

/-- **The counters.** They are zero exactly if every unit that is not empty has a Picture Timing
SEI message, and every key frame the parts of a recovery point, which the receiver then finds.
However many lack them, each warning is written once. -/
theorem run_counts {encoder : X264Encoder} {packetizer : RtpPacketizer}
    {rounds : List ProductionRound} {last : Production} (hfresh : encoder.Fresh)
    (h : Trace.run (step o) (initial encoder packetizer) rounds = some last) :
    (last.encoder.missingPictureTimingCount = 0 ↔ ∀ unit ∈ last.units, unit.nals ≠ [] →
        hasSeiMessage unit.nals kH264SeiPictureTiming = true)
      ∧ (last.encoder.incompleteRecoveryPointCount = 0 ↔ ∀ unit ∈ last.units,
        unit.keyframe = true → isRecoveryAccessUnit (buildAnnexB unit.nals) = true
          ∧ hasSeiMessage unit.nals kH264SeiBufferingPeriod = true)
      ∧ last.encoder.warnings.length
        = (decide (last.encoder.missingPictureTimingCount ≠ 0)).toNat
          + (decide (last.encoder.incompleteRecoveryPointCount ≠ 0)).toNat := by
  have hcounted := run_counted hfresh h
  refine ⟨?_, run_incomplete_eq_zero hfresh h, ?_⟩
  · rw [hcounted.missing, List.countP_eq_zero]
    refine forall₂_congr fun unit hunit => ?_
    obtain ⟨output, rfl⟩ := (run_streamed h).normal unit hunit
    simp [X264Encoder.accessUnit]
  · rw [hcounted.warned.lines, hcounted.warned.pictureTiming, hcounted.warned.recoveryPoint]

/-- Neither unit has a Picture Timing SEI message, and the key frame a recovery point. -/
theorem run_counts_small :
    ∃ last, Trace.run (step smallOptions) (initial smallEncoder smallPacketizer) smallRounds
        = some last
      ∧ (last.encoder.missingPictureTimingCount = 0 ↔ ∀ unit ∈ last.units, unit.nals ≠ [] →
          hasSeiMessage unit.nals kH264SeiPictureTiming = true)
      ∧ (last.encoder.incompleteRecoveryPointCount = 0 ↔ ∀ unit ∈ last.units,
        unit.keyframe = true → isRecoveryAccessUnit (buildAnnexB unit.nals) = true
          ∧ hasSeiMessage unit.nals kH264SeiBufferingPeriod = true)
      ∧ last.encoder.warnings.length
        = (decide (last.encoder.missingPictureTimingCount ≠ 0)).toNat
          + (decide (last.encoder.incompleteRecoveryPointCount ≠ 0)).toNat := by
  obtain ⟨last, hrun, _⟩ := run_smallRounds false
  exact ⟨last, hrun, run_counts smallEncoder_fresh hrun⟩

end Production
end Ipmx.Sender
