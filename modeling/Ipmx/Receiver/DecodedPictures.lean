/-
Ipmx.Receiver.DecodedPictures — what a decoded frame shows.

The decoder's buffer has padded rows and may be higher than the picture.
`copyNv12_visible` says that the copy reads nothing outside of a buffer that is
long enough and takes the visible part of both planes out of it. Over a run of
calls every frame is such a copy of the sample it was made of, in order and under
the format in force when that sample came (`decodeAll_shows`), so that the
renderer refuses none.
-/
import Ipmx.Receiver.MfH264DecoderTheorems
import Mathlib.Tactic.Ring

namespace Ipmx.Receiver

open H264
open Ipmx.Lib

namespace MfH264Decoder

/-! ## Copies between buffers -/

section Copy

variable {source : Bytes} {value : Nat → UInt8} {size : Nat}

/-- The body of `memcpy`'s loop. -/
theorem paints_byte {sourceOffset destinationOffset : Nat} (hdest : destinationOffset < size)
    (hvalue : source[sourceOffset]? = some (value destinationOffset)) :
    Paints (fun destination => do
        let byte ← readCell DecoderFault.outOfRange source sourceOffset
        writeCell .outOfRange destinationOffset byte destination)
      (· = destinationOffset) value size := by
  have hread : readCell DecoderFault.outOfRange source sourceOffset
      = .ok (value destinationOffset) := by
    rw [readCell, hvalue]
  rw [hread]
  exact Paints.write _ hdest rfl

theorem paints_copyBytes {sourceOffset destinationOffset count : Nat}
    (hdest : destinationOffset + count ≤ size)
    (hvalue : ∀ i < count, source[sourceOffset + i]? = some (value (destinationOffset + i))) :
    Paints (copyBytes source sourceOffset destinationOffset count)
      (fun p => destinationOffset ≤ p ∧ p < destinationOffset + count) value size := by
  have hloop : Paints (copyBytes source sourceOffset destinationOffset count)
      (fun p => ∃ i ∈ List.range count, p = destinationOffset + i) value size := by
    refine Paints.foldlM fun i hi => ?_
    have hi := List.mem_range.mp hi
    exact paints_byte (by omega) (hvalue i hi)
  refine hloop.of_region fun p => ?_
  constructor
  · rintro ⟨i, hi, rfl⟩
    have := List.mem_range.mp hi
    omega
  · rintro ⟨hlow, hhigh⟩
    exact ⟨p - destinationOffset, List.mem_range.mpr (by omega), by omega⟩

/-- The rows of a plane, each where the row before it ends. -/
theorem paints_copyRows {sourcePlane sourceStride plane width rows : Nat}
    (hdest : plane + rows * width ≤ size)
    (hvalue : ∀ row < rows, ∀ column < width,
      source[sourcePlane + row * sourceStride + column]?
        = some (value (plane + row * width + column))) :
    Paints (copyRows source sourcePlane sourceStride plane width rows)
      (fun p => plane ≤ p ∧ p < plane + rows * width) value size := by
  have hend : ∀ {row : Nat}, row < rows → row * width + width ≤ rows * width := by
    intro row hrow
    rw [← Nat.succ_mul]
    exact Nat.mul_le_mul_right _ hrow
  have hloop : Paints (copyRows source sourcePlane sourceStride plane width rows)
      (fun p => ∃ row ∈ List.range rows,
        plane + row * width ≤ p ∧ p < plane + row * width + width) value size := by
    refine Paints.foldlM fun row hrow => ?_
    have hrow := List.mem_range.mp hrow
    have hlast := hend hrow
    exact paints_copyBytes (by omega) (hvalue row hrow)
  refine hloop.of_region fun p => ?_
  constructor
  · rintro ⟨row, hrow, hlow, hhigh⟩
    have hlast := hend (List.mem_range.mp hrow)
    omega
  · rintro ⟨hlow, hhigh⟩
    have hwidth : 0 < width := by
      rcases Nat.eq_zero_or_pos width with rfl | hpos
      · omega
      · exact hpos
    have hdiv := Nat.div_add_mod (p - plane) width
    have hmod := Nat.mod_lt (p - plane) hwidth
    rw [Nat.mul_comm] at hdiv
    refine ⟨(p - plane) / width, List.mem_range.mpr ?_, by omega, by omega⟩
    exact Nat.div_lt_of_lt_mul (by rw [Nat.mul_comm]; omega)

end Copy

/-! ## The visible part -/

/-- `pixels` is the part of `width` times `height` pixels of an NV12 picture in `bytes`, whose
planes have rows of `stride` bytes and `sourceHeight` rows of luma. -/
structure Visible (width height stride sourceHeight : Nat) (bytes pixels : Bytes) : Prop where
  size : pixels.length = width * height * 3 / 2
  luma : ∀ row < height, ∀ column < width,
    pixels[row * width + column]? = bytes[row * stride + column]?
      ∧ row * stride + column < bytes.length
  chroma : ∀ row < height / 2, ∀ column < width,
    pixels[width * height + row * width + column]?
        = bytes[stride * sourceHeight + row * stride + column]?
      ∧ stride * sourceHeight + row * stride + column < bytes.length

/-- Where a byte of the visible part stands in the decoder's buffer. -/
def sourcePosition (width height stride sourceHeight p : Nat) : Nat :=
  if p < width * height then
    p / width * stride + p % width
  else
    stride * sourceHeight + (p - width * height) / width * stride + (p - width * height) % width

/-- The byte that stands there. -/
def visibleByte (bytes : Bytes) (width height stride sourceHeight p : Nat) : UInt8 :=
  bytes.getD (sourcePosition width height stride sourceHeight p) 0

section Position

variable {width height stride sourceHeight row column : Nat}

theorem sourcePosition_luma (hrow : row < height) (hcolumn : column < width) :
    sourcePosition width height stride sourceHeight (row * width + column)
      = row * stride + column := by
  have hend : (row + 1) * width ≤ height * width := Nat.mul_le_mul_right _ hrow
  rw [Nat.succ_mul] at hend
  rw [sourcePosition, if_pos (by rw [Nat.mul_comm width]; omega), Nat.mul_comm row width,
    Nat.mul_add_div (by omega), Nat.mul_add_mod, Nat.div_eq_of_lt hcolumn,
    Nat.mod_eq_of_lt hcolumn, Nat.add_zero]

theorem sourcePosition_chroma (hcolumn : column < width) :
    sourcePosition width height stride sourceHeight (width * height + row * width + column)
      = stride * sourceHeight + row * stride + column := by
  have hbehind : width * height + row * width + column - width * height
      = width * row + column := by
    rw [Nat.mul_comm row width]
    omega
  rw [sourcePosition, if_neg (by omega), hbehind, Nat.mul_add_div (by omega), Nat.mul_add_mod,
    Nat.div_eq_of_lt hcolumn, Nat.mod_eq_of_lt hcolumn, Nat.add_zero]

/-- The planes of the visible part are inside those of the buffer. -/
theorem luma_inside (hwidth : width ≤ stride) (hheight : height ≤ sourceHeight)
    (hrow : row < height) (hcolumn : column < width) :
    row * stride + column < stride * sourceHeight * 3 / 2 := by
  have hend : (row + 1) * stride ≤ sourceHeight * stride :=
    Nat.mul_le_mul_right _ (by omega)
  rw [Nat.succ_mul, Nat.mul_comm sourceHeight] at hend
  omega

theorem chroma_inside (hwidth : width ≤ stride) (hheight : height ≤ sourceHeight)
    (hrow : row < height / 2) (hcolumn : column < width) :
    stride * sourceHeight + row * stride + column < stride * sourceHeight * 3 / 2 := by
  have hend : (row + 1) * stride * 2 ≤ sourceHeight * stride := by
    calc (row + 1) * stride * 2 = (row + 1) * 2 * stride := by ring
      _ ≤ sourceHeight * stride := Nat.mul_le_mul_right _ (by omega)
  rw [Nat.succ_mul, Nat.mul_comm sourceHeight] at hend
  omega

/-- Both planes have room in the copy. -/
theorem planes_fit : width * height + height / 2 * width ≤ width * height * 3 / 2 := by
  have hhalf : height / 2 * width * 2 ≤ width * height := by
    calc height / 2 * width * 2 = width * (height / 2 * 2) := by ring
      _ ≤ width * height := Nat.mul_le_mul_left _ (Nat.div_mul_le_self _ _)
  omega

end Position

/-- **The copy** of a buffer with the size of the format is its visible part; a shorter buffer
is refused. -/
theorem copyNv12_visible {bytes : Bytes} {width height sourceStride sourceHeight : UInt32}
    (hwidth : width ≤ sourceStride) (hheight : height ≤ sourceHeight)
    (hfits : sourceStride.toNat * sourceHeight.toNat * 3 < Word64.size) (captureTimeNs : UInt64) :
    (copyNv12 bytes width height sourceStride sourceHeight captureTimeNs
        = .error (.runtimeError "decoded NV12 buffer is smaller than the configured frame"))
      ∨ ∃ pixels, copyNv12 bytes width height sourceStride sourceHeight captureTimeNs
          = .ok { width, height, yStride := width, uvStride := width, captureTimeNs, pixels }
        ∧ Visible width.toNat height.toNat sourceStride.toNat sourceHeight.toNat bytes pixels := by
  have hwidth := UInt32.le_iff_toNat_le.mp hwidth
  have hheight := UInt32.le_iff_toNat_le.mp hheight
  have harea : width.toNat * height.toNat ≤ sourceStride.toNat * sourceHeight.toNat :=
    Nat.mul_le_mul hwidth hheight
  unfold copyNv12
  rw [Word64.wrap_of_lt hfits, Word64.wrap_of_lt (by omega)]
  dsimp only
  generalize width.toNat = w at *
  generalize height.toNat = h at *
  generalize sourceStride.toNat = stride at *
  generalize sourceHeight.toNat = rows at *
  by_cases hshort : bytes.length < stride * rows * 3 / 2
  · left
    rw [rejectIf, if_pos hshort]
    rfl
  · right
    rw [rejectIf, if_neg hshort]
    have hread : ∀ {p : Nat}, p < stride * rows * 3 / 2 → bytes[p]? = some (bytes.getD p 0) := by
      intro p hp
      rw [List.getD_eq_getElem?_getD, List.getElem?_eq_getElem (by omega), Option.getD_some]
    have hluma : Paints (copyRows bytes 0 stride 0 w h) (fun p => 0 ≤ p ∧ p < 0 + h * w)
        (visibleByte bytes w h stride rows) (w * h * 3 / 2) := by
      refine paints_copyRows (by rw [Nat.mul_comm h]; omega) fun row hrow column hcolumn => ?_
      rw [Nat.zero_add, Nat.zero_add, visibleByte, sourcePosition_luma hrow hcolumn]
      exact hread (luma_inside hwidth hheight hrow hcolumn)
    have hchroma : Paints (copyRows bytes (stride * rows) stride (w * h) w (h / 2))
        (fun p => w * h ≤ p ∧ p < w * h + h / 2 * w)
        (visibleByte bytes w h stride rows) (w * h * 3 / 2) := by
      refine paints_copyRows planes_fit fun row hrow column hcolumn => ?_
      rw [visibleByte, sourcePosition_chroma hcolumn]
      exact hread (chroma_inside hwidth hheight hrow hcolumn)
    obtain ⟨pixels, hcopy, hsize, hpainted, _⟩ :=
      hluma.seq hchroma (List.replicate (w * h * 3 / 2) 0) (by simp)
    obtain ⟨middle, hfirst, hsecond⟩ := bind_eq_ok.mp hcopy
    refine ⟨pixels, ?_, hsize, ?_, ?_⟩
    · rw [Lib.ok_bind, hfirst, Lib.ok_bind, hsecond]
      rfl
    · intro row hrow column hcolumn
      have hinside := luma_inside hwidth hheight hrow hcolumn
      have hend : (row + 1) * w ≤ h * w := Nat.mul_le_mul_right _ hrow
      rw [Nat.succ_mul] at hend
      have hregion : row * w + column < w * h := by
        rw [Nat.mul_comm w]
        omega
      refine ⟨?_, by omega⟩
      rw [hpainted _ (by omega) (.inl ⟨Nat.zero_le _, by omega⟩), visibleByte,
        sourcePosition_luma hrow hcolumn, hread hinside]
    · intro row hrow column hcolumn
      have hinside := chroma_inside hwidth hheight hrow hcolumn
      have hend : (row + 1) * w ≤ h / 2 * w := Nat.mul_le_mul_right _ hrow
      rw [Nat.succ_mul] at hend
      have hroom : w * h + h / 2 * w ≤ w * h * 3 / 2 := planes_fit
      refine ⟨?_, by omega⟩
      rw [hpainted _ (by omega) (.inr ⟨by omega, by omega⟩), visibleByte,
        sourcePosition_chroma hcolumn, hread hinside]

/-! ## Runs -/

/-- The size that `copy_nv12` computes for an output type fits 64 bits. -/
def Moderate : OutputType → Prop
  | .nv12 frameWidth frameHeight defaultStride =>
    max frameWidth.toNat (defaultStride.getD 0).toNat * frameHeight.toNat * 3 < Word64.size
  | _ => True

instance : DecidablePred Moderate
  | .nv12 _ _ _ => inferInstanceAs (Decidable (_ < _))
  | .unavailable _ | .other | .refused _ | .sizeless _ => inferInstanceAs (Decidable True)

/-- The layout of a decoder's buffer: bytes in a row, and rows of luma. -/
structure OutputFormat where
  stride : Nat
  rows : Nat
deriving DecidableEq, Repr

/-- The layout that an NV12 type stands for; without a default stride it is the width of the
picture. -/
def nv12Format (width : UInt32) : OutputType → Option OutputFormat
  | .nv12 frameWidth frameHeight defaultStride =>
    some ⟨max frameWidth.toNat (defaultStride.getD width).toNat, frameHeight.toNat⟩
  | _ => none

/-- The layout of the first NV12 type that is offered. -/
def chosenFormat (width : UInt32) (types : List OutputType) : Option OutputFormat :=
  types.findSome? (nv12Format width)

/-- The layout in force behind some answers. -/
def formatAfter (width : UInt32) (format : OutputFormat) (answers : List OutputAnswer) :
    OutputFormat :=
  answers.foldl (fun format answer =>
    match answer with
    | .streamChange types => (chosenFormat width types).getD format
    | _ => format) format

/-- The sample that `ProcessOutput` produces, if it does. -/
def produced? : OutputAnswer → Option OutputSample
  | .produced sample => sample
  | _ => none

/-- The samples that are produced, each with the layout in force. -/
def samples (width : UInt32) :
    OutputFormat → List OutputAnswer → List (OutputFormat × OutputSample)
  | _, [] => []
  | format, answer :: answers =>
    (produced? answer).toList.map (fun sample => (format, sample))
      ++ samples width (formatAfter width format [answer]) answers

theorem samples_append (width : UInt32) (format : OutputFormat) (answers more : List OutputAnswer) :
    samples width format (answers ++ more)
      = samples width format answers ++ samples width (formatAfter width format answers) more := by
  induction answers generalizing format with
  | nil => rfl
  | cons answer answers ih =>
    rw [List.cons_append, samples, samples, ih, List.append_assoc]
    rfl

theorem formatAfter_append (width : UInt32) (format : OutputFormat)
    (answers more : List OutputAnswer) :
    formatAfter width format (answers ++ more)
      = formatAfter width (formatAfter width format answers) more :=
  List.foldl_append

/-- The answers that one call takes. -/
def Call.taken (call : Call) : List OutputAnswer :=
  if Undecodable call.annexB then [] else drainedBefore call.answers ++ call.answers.outputs

/-- A frame is the visible part of a sample, laid out in this format. -/
structure Shows (w h : UInt32) (sample : OutputFormat × OutputSample) (frame : DecodedFrame) :
    Prop where
  width : frame.width = w
  height : frame.height = h
  yStride : frame.yStride = w
  uvStride : frame.uvStride = w
  pixels : Visible w.toNat h.toNat sample.1.stride sample.1.rows sample.2.bytes frame.pixels

/-- A fault that reports what Windows has answered. The others are defects of the program. -/
def RuntimeError (fault : DecoderFault) : Prop := ∃ what, fault = .runtimeError what

/-- Every type that is offered after a stream change is moderate. -/
def ModerateAnswer : OutputAnswer → Prop
  | .streamChange types => ∀ type ∈ types, Moderate type
  | _ => True

instance : DecidablePred ModerateAnswer
  | .streamChange types => inferInstanceAs (Decidable (∀ type ∈ types, Moderate type))
  | .infoFailed _ | .produced _ | .failed _ => inferInstanceAs (Decidable True)

def ModerateAnswers (answers : List OutputAnswer) : Prop :=
  ∀ answer ∈ answers, ModerateAnswer answer

instance (answers : List OutputAnswer) : Decidable (ModerateAnswers answers) :=
  inferInstanceAs (Decidable (∀ answer ∈ answers, ModerateAnswer answer))

/-- A decoder of this picture whose output format is this one, and is moderate. -/
structure Holds (w h : UInt32) (format : OutputFormat) (d : MfH264Decoder) : Prop where
  width : d.width = w
  height : d.height = h
  stride : d.outputStride.toNat = format.stride
  rows : d.outputHeight.toNat = format.rows
  fits : format.stride * format.rows * 3 < Word64.size

theorem toNat_largerStride (frameWidth stride : UInt32) :
    (if frameWidth < stride then stride else frameWidth).toNat
      = max frameWidth.toNat stride.toNat := by
  split
  · next hlarger => exact (max_eq_right (UInt32.lt_iff_toNat_lt.mp hlarger).le).symm
  · next hlarger =>
    exact (max_eq_left (UInt32.le_iff_toNat_le.mp (UInt32.not_lt.mp hlarger))).symm

/-- The format is that of the first NV12 type. -/
theorem configureOutput_chosen {width height : UInt32} {types : List OutputType}
    (h : ∀ type ∈ types, Moderate type) :
    Exits RuntimeError (configureOutput width height types) fun format =>
      chosenFormat width types = some ⟨format.val.1.toNat, format.val.2.toNat⟩
        ∧ format.val.1.toNat * format.val.2.toNat * 3 < Word64.size := by
  induction types with
  | nil => exact ⟨_, rfl⟩
  | cons type types ih =>
    cases type with
    | unavailable result => exact ⟨_, rfl⟩
    | other => exact ih fun later hmem => h later (List.mem_cons_of_mem _ hmem)
    | refused result => exact ⟨_, rfl⟩
    | sizeless result => exact ⟨_, rfl⟩
    | nv12 frameWidth frameHeight defaultStride =>
      have hmoderate : max frameWidth.toNat (defaultStride.getD 0).toNat * frameHeight.toNat * 3
          < Word64.size := h _ List.mem_cons_self
      unfold configureOutput
      split
      · exact ⟨_, rfl⟩
      · next hlarge =>
        show _ = some (OutputFormat.mk _ _) ∧ _ < _
        dsimp only
        rw [toNat_largerStride]
        refine ⟨rfl, ?_⟩
        cases defaultStride with
        | none =>
          have hwidth : width.toNat ≤ frameWidth.toNat :=
            UInt32.le_iff_toNat_le.mp (UInt32.not_lt.mp fun hlt => hlarge (.inl hlt))
          rw [Option.getD_none, max_eq_left hwidth]
          exact (Nat.mul_le_mul_right _ (Nat.mul_le_mul_right _ (le_max_left _ _))).trans_lt
            hmoderate
        | some stride => exact hmoderate

theorem output_shows {width height : UInt32} {format : OutputFormat} {d : MfH264Decoder}
    (h : d.Holds width height format) (sample : OutputSample) :
    Exits RuntimeError (d.output sample) fun result =>
      Shows width height (format, sample) result.1 ∧ result.2.Holds width height format := by
  obtain ⟨rfl, rfl, hstride, hrows, hfits⟩ := h
  obtain ⟨stride, rows⟩ := format
  obtain rfl : d.outputStride.toNat = stride := hstride
  obtain rfl : d.outputHeight.toNat = rows := hrows
  unfold output
  generalize captureTimeForOutput d.captureTimes sample.sampleTime = taken
  have hcopied := @copyNv12_visible sample.bytes _ _ _ _ d.width_le d.height_le hfits taken.1
  rcases hcopied with hshort | ⟨pixels, hcopy, hvisible⟩
  · dsimp only
    rw [hshort]
    exact ⟨_, rfl⟩
  · dsimp only
    rw [hcopy]
    exact ⟨⟨rfl, rfl, rfl, rfl, hvisible⟩, rfl, rfl, rfl, rfl, hfits⟩

theorem drain_shows {width height : UInt32} {format : OutputFormat} {d : MfH264Decoder}
    {answers : List OutputAnswer} (h : d.Holds width height format)
    (hanswers : ModerateAnswers answers) :
    Exits RuntimeError (d.drain answers) fun result =>
      List.Forall₂ (Shows width height) (samples width format answers) result.1
        ∧ result.2.Holds width height (formatAfter width format answers) := by
  induction answers generalizing format d with
  | nil => exact ⟨.nil, h⟩
  | cons answer answers ih =>
    have hlater : ModerateAnswers answers := fun later hmem =>
      hanswers later (List.mem_cons_of_mem _ hmem)
    cases answer with
    | infoFailed result => exact ⟨_, rfl⟩
    | failed result => exact ⟨_, rfl⟩
    | streamChange types =>
      have hchange : Exits RuntimeError (d.reconfigure types) fun d' =>
          d'.Holds width height ((chosenFormat width types).getD format) := by
        have hchosen := @configureOutput_chosen d.width d.height types
          (hanswers _ List.mem_cons_self)
        refine hchosen.bind ?_
        rintro chosen ⟨hformat, hfits⟩
        rw [← h.width, hformat, Option.getD_some]
        exact ⟨rfl, h.height, rfl, rfl, hfits⟩
      exact hchange.bind fun d' hd' => ih hd' hlater
    | produced sample =>
      cases sample with
      | none => exact ⟨_, rfl⟩
      | some sample =>
        refine (output_shows h sample).bind ?_
        rintro ⟨frame, d'⟩ ⟨hshows, hd'⟩
        refine (ih hd' hlater).bind ?_
        rintro ⟨frames, d''⟩ ⟨hframes, hd''⟩
        exact ⟨.cons hshows hframes, hd''⟩

/-- Every type that is offered during a call is moderate. -/
def Call.ModerateTypes (call : Call) : Prop :=
  ModerateAnswers call.answers.outputsBefore ∧ ModerateAnswers call.answers.outputs

instance (call : Call) : Decidable call.ModerateTypes := inferInstanceAs (Decidable (_ ∧ _))

/-- **One call**: its frames show the samples it takes. -/
theorem decode_shows {width height : UInt32} {format : OutputFormat} {d : MfH264Decoder}
    {call : Call} (h : d.Holds width height format) (hcall : call.ModerateTypes) :
    Exits RuntimeError (d.decode call.annexB call.captureTimeNs call.answers) fun result =>
      List.Forall₂ (Shows width height) (samples width format call.taken) result.1
        ∧ result.2.Holds width height (formatAfter width format call.taken) := by
  unfold decode Call.taken
  split
  · exact ⟨.nil, h⟩
  · have hoffer : Exits RuntimeError (d.offerInput call.answers) fun result =>
        List.Forall₂ (Shows width height) (samples width format (drainedBefore call.answers))
            result.1.1
          ∧ result.1.2.Holds width height
            (formatAfter width format (drainedBefore call.answers)) := by
      unfold offerInput drainedBefore
      split
      · refine (drain_shows h hcall.1).bind ?_
        intro drained hdrained
        exact hdrained
      · exact ⟨.nil, h⟩
    rw [samples_append, formatAfter_append]
    refine hoffer.bind ?_
    rintro ⟨⟨early, d₁⟩, input⟩ ⟨hearly, hd₁⟩
    have hinput : Exits RuntimeError (checkInput input) fun _ => True := by
      cases input with
      | accepted => exact trivial
      | notAccepting => exact ⟨_, rfl⟩
      | failed result => exact ⟨_, rfl⟩
    refine hinput.bind fun _ _ => ?_
    have hnoted : (d₁.noteInput call.captureTimeNs).Holds width height
        (formatAfter width format (drainedBefore call.answers)) :=
      ⟨hd₁.width, hd₁.height, hd₁.stride, hd₁.rows, hd₁.fits⟩
    refine (drain_shows hnoted hcall.2).bind ?_
    rintro ⟨late, d₂⟩ ⟨hlate, hd₂⟩
    exact ⟨List.rel_append hearly hlate, hd₂⟩

/-- **The calls of a run.** -/
theorem Holds.decodeAll {width height : UInt32} {format : OutputFormat} {d : MfH264Decoder}
    {calls : List Call} (h : d.Holds width height format)
    (hcalls : ∀ call ∈ calls, call.ModerateTypes) :
    Exits RuntimeError (d.decodeAll calls) fun result =>
      List.Forall₂ (Shows width height) (samples width format (calls.flatMap Call.taken)) result.1
        ∧ result.2.Holds width height (formatAfter width format (calls.flatMap Call.taken)) := by
  induction calls generalizing format d with
  | nil => exact ⟨.nil, h⟩
  | cons call calls ih =>
    rw [List.flatMap_cons, samples_append, formatAfter_append]
    refine (decode_shows h (hcalls call List.mem_cons_self)).bind ?_
    rintro ⟨frames, d'⟩ ⟨hframes, hd'⟩
    refine (ih hd' fun later hmem => hcalls later (List.mem_cons_of_mem _ hmem)).bind ?_
    rintro ⟨more, d''⟩ ⟨hmore, hd''⟩
    exact ⟨List.rel_append hframes hmore, hd''⟩

end MfH264Decoder
end Ipmx.Receiver
