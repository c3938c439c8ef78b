/-
Ipmx.Sdp.Acceptance — what a description holds when `validate_ipmx_sdp` has
nothing against it.

`Given` collects what lines say about the stream that other lines say too, and
`textGives` what a text says last. Reading a text leaves in the description
what the text gives (`readSdpDescription_given`, one `readLine_given` a line),
and the settings follow it (`Kept`, by the same fold). The checks of `make_sdp`
are then compared with those of the validator: all but one of them are there.
-/
import Ipmx.Sdp.RoundTrip

namespace Ipmx.Sdp

open H264
open Ipmx.Lib

/-! ## What the lines give -/

/-- What is said about the stream on more than one kind of line. -/
structure Given where
  /-- The transport of the media line is RTP/AVP, and its payload type. -/
  media : Option (Bool × UInt8) := none
  rtpmap : Option UInt8 := none
  fmtp : Option UInt8 := none
  fmtpWidth : Option UInt32 := none
  fmtpHeight : Option UInt32 := none
  framesize : Option (UInt8 × UInt32 × UInt32) := none
  parameterSets : Option (NalUnit × NalUnit) := none
deriving DecidableEq, Repr

/-- What is given later counts. -/
def Given.or (later earlier : Given) : Given where
  media := later.media.or earlier.media
  rtpmap := later.rtpmap.or earlier.rtpmap
  fmtp := later.fmtp.or earlier.fmtp
  fmtpWidth := later.fmtpWidth.or earlier.fmtpWidth
  fmtpHeight := later.fmtpHeight.or earlier.fmtpHeight
  framesize := later.framesize.or earlier.framesize
  parameterSets := later.parameterSets.or earlier.parameterSets

/-- The payload type in front of a blank. -/
def payloadTypeOf (text : Bytes) : Option UInt8 :=
  (parseUInt8 (cut (asciiByte ' ') text).1 "payload type").toOption

def mediaOf (text : Bytes) : Option (Bool × UInt8) := do
  let (_, text) ← extractUnsigned text
  let (transport, text) ← extractString text
  let (payloadType, _) ← extractUnsigned text
  return (iequals transport (ascii "RTP/AVP"), UInt8.ofNat payloadType)

/-- The parameters behind the blank of an fmtp line. -/
def parametersOf (text : Bytes) : FmtpValues :=
  match (cut (asciiByte ' ') text).2 with
  | none => []
  | some parameters => parseFmtp parameters

def FmtpValues.dimension (values : FmtpValues) (name : String) : Option UInt32 :=
  (values.find name).bind fun value => (parseUInt32 value name).toOption

def FmtpValues.parameterSets (values : FmtpValues) : Option (NalUnit × NalUnit) := do
  let (sps, pps) := cut (asciiByte ',') (← values.find "sprop-parameter-sets")
  return (← decodeBase64 sps, ← decodeBase64 (← pps))

def framesizeOf (text : Bytes) : Option (UInt8 × UInt32 × UInt32) := do
  let (payloadType, size) := cut (asciiByte ' ') text
  let (width, height) := cut (asciiByte '-') (← size)
  return (← (parseUInt8 payloadType "payload type").toOption,
    ← (parseUInt32 width "width").toOption, ← (parseUInt32 (← height) "height").toOption)

/-- What one line gives. -/
def lineGives (line : Bytes) : Given :=
  if (ascii "m=video ").isPrefixOf line then
    { media := mediaOf (line.drop 8) }
  else if (ascii "a=rtpmap:").isPrefixOf line then
    { rtpmap := payloadTypeOf (line.drop 9) }
  else if (ascii "a=fmtp:").isPrefixOf line then
    { fmtp := payloadTypeOf (line.drop 7)
      fmtpWidth := (parametersOf (line.drop 7)).dimension "width"
      fmtpHeight := (parametersOf (line.drop 7)).dimension "height"
      parameterSets := (parametersOf (line.drop 7)).parameterSets }
  else if (ascii "a=framesize:").isPrefixOf line then
    { framesize := framesizeOf (line.drop 12) }
  else
    {}

/-- What the lines of a text give last. -/
def textGives (text : Bytes) : Given :=
  (getLines text).foldl (fun given line => (lineGives line).or given) {}

/-! ## What a description holds of it -/

def SdpDescription.given (d : SdpDescription) : Given where
  media := some (d.mediaSeen, d.settings.payloadType)
  rtpmap := d.rtpmapPayloadType
  fmtp := d.fmtpPayloadType
  fmtpWidth := d.fmtpWidth
  fmtpHeight := d.fmtpHeight
  framesize := do return (← d.framesizePayloadType, ← d.framesizeWidth, ← d.framesizeHeight)
  parameterSets := some (d.sps, d.pps)

theorem Given.empty_or (g : Given) : Given.or {} g = g := by
  simp [Given.or]

theorem Given.or_empty (g : Given) : g.or {} = g := by
  simp [Given.or]

theorem Given.or_assoc (a b c : Given) : (a.or b).or c = a.or (b.or c) := by
  simp [Given.or, Option.or_assoc]

theorem foldl_or (lines : List Bytes) (g : Given) :
    lines.foldl (fun given line => (lineGives line).or given) g
      = (lines.foldl (fun given line => (lineGives line).or given) {}).or g := by
  induction lines generalizing g with
  | nil => exact (Given.empty_or g).symm
  | cons line lines ih =>
    rw [List.foldl_cons, List.foldl_cons, ih, ih ((lineGives line).or {}), Given.or_assoc,
      Given.or_assoc, Given.empty_or]

/-! ## One line -/

/-- A text that starts one way does not start another way. -/
theorem not_isPrefixOf {s t line : Bytes} (h : s.isPrefixOf line = true)
    (hst : s.isPrefixOf t = false) (hts : t.isPrefixOf s = false) :
    ¬ t.isPrefixOf line = true := by
  intro ht
  rw [List.isPrefixOf_iff_prefix] at h ht
  rcases Nat.le_total s.length t.length with hle | hle
  · have := List.isPrefixOf_iff_prefix.mpr (List.prefix_of_prefix_length_le h ht hle)
    rw [hst] at this
    cases this
  · have := List.isPrefixOf_iff_prefix.mpr (List.prefix_of_prefix_length_le ht h hle)
    rw [hts] at this
    cases this

/-- A line of a kind that stands in front of the tracked ones gives nothing. -/
theorem lineGives_of_isPrefixOf {start line : Bytes}
    (hstart : start ∈ [ascii "c=IN IP4 ", ascii "b=AS:", ascii "a=rtcp:"])
    (h : start.isPrefixOf line = true) : lineGives line = {} := by
  have hother : ∀ s ∈ [ascii "c=IN IP4 ", ascii "b=AS:", ascii "a=rtcp:"],
      ∀ t ∈ [ascii "m=video ", ascii "a=rtpmap:", ascii "a=fmtp:", ascii "a=framesize:"],
        s.isPrefixOf t = false ∧ t.isPrefixOf s = false := by decide +kernel
  have hnot : ∀ t ∈ [ascii "m=video ", ascii "a=rtpmap:", ascii "a=fmtp:", ascii "a=framesize:"],
      ¬ t.isPrefixOf line = true := by
    intro t ht
    exact not_isPrefixOf h (hother start hstart t ht).1 (hother start hstart t ht).2
  rw [lineGives, if_neg (hnot _ (by simp)), if_neg (hnot _ (by simp)),
    if_neg (hnot _ (by simp)), if_neg (hnot _ (by simp))]

/-- The settings follow what was given: an exact frame rate is a frame rate, and a size of an
fmtp line is the size. -/
structure Kept (d : SdpDescription) : Prop where
  rate : d.exactFrameRateSeen = true →
    d.settings.fpsNumerator ≠ 0 ∧ d.settings.fpsDenominator ≠ 0
  width : ∀ width ∈ d.fmtpWidth, width ≠ 0 → d.settings.width = width
  height : ∀ height ∈ d.fmtpHeight, height ≠ 0 → d.settings.height = height

/-- What a line does to a description: it leaves there what it gives, and the settings
follow. -/
structure Reads (gives : Given) (d d' : SdpDescription) : Prop where
  given : d'.given = gives.or d.given
  kept : Kept d → Kept d'

theorem Reads.trans {a b : Given} {d d' d'' : SdpDescription} (h : Reads a d d')
    (h' : Reads b d' d'') : Reads (b.or a) d d'' := by
  constructor
  · rw [h'.given, h.given, Given.or_assoc]
  · intro hd
    exact h'.kept (h.kept hd)

/-- A line on something else. -/
theorem reads_nothing {d d' : SdpDescription} (hgiven : d'.given = d.given)
    (hkept : Kept d → Kept d') : Reads {} d d' :=
  ⟨by rw [Given.empty_or, hgiven], hkept⟩

/-- The field a parser names in its error is no part of what it returns. -/
theorem parseInteger_field {maximum n : Nat} {text : Bytes} {field : String} (field' : String)
    (h : parseInteger maximum text field = .ok n) : parseInteger maximum text field' = .ok n := by
  unfold parseInteger at h ⊢
  split at h
  · cases h
  · next hdigits =>
    rw [if_neg hdigits]
    exact congrArg Except.ok (Except.ok.inj h)

theorem parseUInt8_toOption {text : Bytes} {field : String} {v : UInt8} (field' : String)
    (h : parseUInt8 text field = .ok v) : (parseUInt8 text field').toOption = some v := by
  unfold parseUInt8 at h ⊢
  obtain ⟨n, hn, rfl⟩ := map_eq_ok.mp h
  rw [parseInteger_field field' hn]
  rfl

theorem parseUInt32_toOption {text : Bytes} {field : String} {v : UInt32} (field' : String)
    (h : parseUInt32 text field = .ok v) : (parseUInt32 text field').toOption = some v := by
  unfold parseUInt32 at h ⊢
  obtain ⟨n, hn, rfl⟩ := map_eq_ok.mp h
  rw [parseInteger_field field' hn]
  rfl

theorem readMediaLine_reads {d d' : SdpDescription} {text : Bytes}
    (h : readMediaLine d text = .ok d') : Reads { media := mediaOf text } d d' := by
  unfold readMediaLine at h
  split at h
  · cases h
  · next port fields hport =>
    split at h
    · cases h
    · next transport fields' htransport =>
      split at h
      · cases h
      · next payloadType rest hpayload =>
        split at h
        · cases h
        · obtain rfl := Except.ok.inj h
          have hmedia : mediaOf text
              = some (iequals transport (ascii "RTP/AVP"), UInt8.ofNat payloadType) := by
            simp [mediaOf, hport, htransport, hpayload]
          constructor
          · simp [hmedia, Given.or, SdpDescription.given]
          · intro hd
            exact ⟨hd.rate, hd.width, hd.height⟩

theorem readRtpmapLine_reads {d d' : SdpDescription} {text : Bytes}
    (h : readRtpmapLine d text = .ok d') : Reads { rtpmap := payloadTypeOf text } d d' := by
  unfold readRtpmapLine at h
  split at h
  · cases h
  · next payloadType encoding hcut =>
    obtain ⟨v, hv, h⟩ := bind_eq_ok.mp h
    have hgives : payloadTypeOf text = some v := by
      rw [payloadTypeOf, hcut, parseUInt8_toOption _ hv]
    split at h
    · cases h
    · next rtpEncoding clockRate hslash =>
      obtain ⟨rate, _, h⟩ := bind_eq_ok.mp h
      obtain rfl := Except.ok.inj h
      constructor
      · simp [hgives, Given.or, SdpDescription.given]
      · intro hd
        exact ⟨hd.rate, hd.width, hd.height⟩

theorem readFramesizeLine_reads {d d' : SdpDescription} {text : Bytes}
    (h : readFramesizeLine d text = .ok d') : Reads { framesize := framesizeOf text } d d' := by
  unfold readFramesizeLine at h
  split at h
  · cases h
  · next payloadType size hcut =>
    split at h
    · cases h
    · next width height hdash =>
      obtain ⟨p, hp, h⟩ := bind_eq_ok.mp h
      obtain ⟨w, hw, h⟩ := bind_eq_ok.mp h
      obtain ⟨v, hv, h⟩ := bind_eq_ok.mp h
      obtain rfl := Except.ok.inj h
      have hgives : framesizeOf text = some (p, w, v) := by
        simp [framesizeOf, hcut, hdash, parseUInt8_toOption _ hp, parseUInt32_toOption _ hw,
          parseUInt32_toOption _ hv]
      constructor
      · simp [hgives, Given.or, SdpDescription.given]
      · -- a size that is there already is no zero and stays
        intro hd
        have hsame : ∀ size other : UInt32, size ≠ 0 → orIfZero size other = size := by
          intro size other hne
          rw [orIfZero, if_neg hne]
        constructor
        · exact hd.rate
        · intro width hwidth hne
          have := hd.width width hwidth hne
          simp only [this]
          exact hsame _ _ hne
        · intro height hheight hne
          have := hd.height height hheight hne
          simp only [this]
          exact hsame _ _ hne

/-! ## The fmtp line -/

theorem Reads.refl (d : SdpDescription) : Reads {} d d := reads_nothing rfl id

/-- A parameter does what its text does, if it is there. -/
theorem whenFound_reads {value : Option Bytes} {set : Bytes → Except String SdpDescription}
    {d d' : SdpDescription} (gives : Bytes → Given) (h : whenFound value set d = .ok d')
    (hset : ∀ text, set text = .ok d' → Reads (gives text) d d') :
    Reads (value.elim {} gives) d d' := by
  cases value with
  | none =>
    obtain rfl := Except.ok.inj h
    exact Reads.refl _
  | some text => exact hset text h

/-- A parameter on something else. -/
theorem whenFound_reads_nothing {value : Option Bytes}
    {set : Bytes → Except String SdpDescription} {d d' : SdpDescription}
    (h : whenFound value set d = .ok d')
    (hset : ∀ text, set text = .ok d' → Reads {} d d') : Reads {} d d' := by
  have := whenFound_reads (fun _ => {}) h hset
  cases value <;> exact this

/-- A parameter that is parsed and put where nothing stands that a line gives. -/
theorem whenFound_parsed_reads_nothing {α : Type} {value : Option Bytes}
    {parse : Bytes → Except String α} {put : α → SdpDescription} {d d' : SdpDescription}
    (h : whenFound value (fun text => do return put (← parse text)) d = .ok d')
    (hput : ∀ a, Reads {} d (put a)) : Reads {} d d' := by
  refine whenFound_reads_nothing h fun text hset => ?_
  obtain ⟨a, _, hset⟩ := bind_eq_ok.mp hset
  obtain rfl := Except.ok.inj hset
  exact hput a

/-- An exact frame rate has no zero in it. -/
theorem parseExactFrameRate_ok {text : Bytes} {settings settings' : SdpSettings}
    (h : parseExactFrameRate text settings = .ok settings') :
    ∃ n d : UInt32, n ≠ 0 ∧ d ≠ 0
      ∧ settings' = { settings with fpsNumerator := n, fpsDenominator := d } := by
  unfold parseExactFrameRate at h
  obtain ⟨n, _, h⟩ := bind_eq_ok.mp h
  dsimp only at h
  split at h
  all_goals
    obtain ⟨d, _, h⟩ := bind_eq_ok.mp h
    obtain ⟨hne, h⟩ := rejectIf_bind_eq_ok.mp h
    rw [not_or] at hne
    exact ⟨n, d, hne.1, hne.2, (Except.ok.inj h).symm⟩

theorem readFmtpFormat_reads {d d' : SdpDescription} {values : FmtpValues}
    (h : readFmtpFormat d values = .ok d') :
    Reads { fmtpWidth := values.dimension "width", fmtpHeight := values.dimension "height" }
      d d' := by
  unfold readFmtpFormat at h
  obtain ⟨d₁, hwidth, h⟩ := bind_eq_ok.mp h
  obtain ⟨d₂, hheight, h⟩ := bind_eq_ok.mp h
  obtain ⟨d₃, hrate, hudp⟩ := bind_eq_ok.mp h
  have h₁ := whenFound_reads (fun v => { fmtpWidth := (parseUInt32 v "width").toOption }) hwidth
    (by
      intro text hset
      obtain ⟨w, hw, hset⟩ := bind_eq_ok.mp hset
      obtain rfl := Except.ok.inj hset
      constructor
      · simp [toOption_eq_some.mpr hw, Given.or, SdpDescription.given]
      · intro hd
        exact ⟨hd.rate, fun w' hw' _ => Option.some.inj hw', hd.height⟩)
  have h₂ := whenFound_reads (fun v => { fmtpHeight := (parseUInt32 v "height").toOption }) hheight
    (by
      intro text hset
      obtain ⟨v, hv, hset⟩ := bind_eq_ok.mp hset
      obtain rfl := Except.ok.inj hset
      constructor
      · simp [toOption_eq_some.mpr hv, Given.or, SdpDescription.given]
      · intro hd
        exact ⟨hd.rate, hd.width, fun v' hv' _ => Option.some.inj hv'⟩)
  have h₃ := whenFound_reads_nothing hrate
    (by
      intro text hset
      obtain ⟨settings, hsettings, hset⟩ := bind_eq_ok.mp hset
      obtain ⟨n, m, hn, hm, rfl⟩ := parseExactFrameRate_ok hsettings
      obtain rfl := Except.ok.inj hset
      exact reads_nothing rfl fun hd => ⟨fun _ => ⟨hn, hm⟩, hd.width, hd.height⟩)
  have h₄ := whenFound_parsed_reads_nothing hudp
    fun _ => reads_nothing rfl fun hd => ⟨hd.rate, hd.width, hd.height⟩
  have hall := ((h₁.trans h₂).trans h₃).trans h₄
  cases hw : values.find "width" <;> cases hv : values.find "height" <;>
    simpa [hw, hv, Given.or, FmtpValues.dimension] using hall

theorem readParameterSets_reads {d d' : SdpDescription} {value : Bytes}
    (h : readParameterSets d value = .ok d') :
    Reads
      { parameterSets := do
          let (sps, pps) := cut (asciiByte ',') value
          return (← decodeBase64 sps, ← decodeBase64 (← pps)) } d d' := by
  unfold readParameterSets at h
  split at h
  · cases h
  · next spsText ppsText hcut =>
    split at h
    · next sps pps hsps hpps =>
      split at h
      · cases h
      · obtain rfl := Except.ok.inj h
        constructor
        · simp [hcut, hsps, hpps, Given.or, SdpDescription.given]
        · intro hd
          exact ⟨hd.rate, hd.width, hd.height⟩
    · cases h

theorem readFmtpEncoding_reads {d d' : SdpDescription} {values : FmtpValues}
    (h : readFmtpEncoding d values = .ok d') :
    Reads { parameterSets := values.parameterSets } d d' := by
  unfold readFmtpEncoding at h
  obtain ⟨d₁, hdepth, h⟩ := bind_eq_ok.mp h
  obtain ⟨d₂, hmode, hsets⟩ := bind_eq_ok.mp h
  have h₁ := whenFound_parsed_reads_nothing hdepth
    fun _ => reads_nothing rfl fun hd => ⟨hd.rate, hd.width, hd.height⟩
  have h₂ := whenFound_parsed_reads_nothing hmode
    fun _ => reads_nothing rfl fun hd => ⟨hd.rate, hd.width, hd.height⟩
  have h₃ : Reads {} d₂
      { d₂ with
        ipmx := (values.find "ipmx").isSome
        profileLevelId := (values.find "profile-level-id").getD d₂.profileLevelId } :=
    reads_nothing rfl fun hd => ⟨hd.rate, hd.width, hd.height⟩
  have h₄ := whenFound_reads _ hsets fun _ => readParameterSets_reads
  have hall := ((h₁.trans h₂).trans h₃).trans h₄
  cases hv : values.find "sprop-parameter-sets" <;>
    simpa [hv, Given.or, FmtpValues.parameterSets] using hall

theorem readFmtpLine_reads {d d' : SdpDescription} {text : Bytes}
    (h : readFmtpLine d text = .ok d') :
    Reads
      { fmtp := payloadTypeOf text
        fmtpWidth := (parametersOf text).dimension "width"
        fmtpHeight := (parametersOf text).dimension "height"
        parameterSets := (parametersOf text).parameterSets } d d' := by
  unfold readFmtpLine at h
  split at h
  · cases h
  · next payloadType parameters hcut =>
    obtain ⟨p, hp, h⟩ := bind_eq_ok.mp h
    obtain ⟨d₁, hformat, hencoding⟩ := bind_eq_ok.mp h
    have hgives : payloadTypeOf text = some p := by
      rw [payloadTypeOf, hcut, parseUInt8_toOption _ hp]
    have h₀ : Reads { fmtp := some p } d
        { d with fmtpPayloadType := some p, fmtpSeen := true } := by
      constructor
      · simp [Given.or, SdpDescription.given]
      · intro hd
        exact ⟨hd.rate, hd.width, hd.height⟩
    have hsignal : Reads {} d₁ (readFmtpSignal d₁ (parseFmtp parameters)) :=
      reads_nothing rfl fun hd => ⟨hd.rate, hd.width, hd.height⟩
    have hall := ((h₀.trans (readFmtpFormat_reads hformat)).trans hsignal).trans
      (readFmtpEncoding_reads hencoding)
    simpa [Given.or, hgives, parametersOf, hcut] using hall

theorem readBitrateLine_reads {d d' : SdpDescription} {text : Bytes}
    (h : readBitrateLine d text = .ok d') : Reads {} d d' := by
  unfold readBitrateLine at h
  obtain ⟨rate, _, h⟩ := bind_eq_ok.mp h
  obtain ⟨_, h⟩ := rejectIf_bind_eq_ok.mp h
  obtain rfl := Except.ok.inj h
  exact reads_nothing rfl fun hd => ⟨hd.rate, hd.width, hd.height⟩

theorem readRtcpLine_reads {d d' : SdpDescription} {text : Bytes}
    (h : readRtcpLine d text = .ok d') : Reads {} d d' := by
  unfold readRtcpLine at h
  obtain ⟨port, _, h⟩ := bind_eq_ok.mp h
  obtain rfl := Except.ok.inj h
  exact reads_nothing rfl fun hd => ⟨hd.rate, hd.width, hd.height⟩

/-! ## The lines of a text -/

variable {stod : Bytes → Except String Float}

theorem readFramerateLine_reads {d d' : SdpDescription} {text : Bytes}
    (hseen : ¬ d.exactFrameRateSeen = true) (h : readFramerateLine stod d text = .ok d') :
    Reads {} d d' := by
  unfold readFramerateLine at h
  obtain ⟨fps, _, h⟩ := bind_eq_ok.mp h
  obtain ⟨_, h⟩ := rejectIf_bind_eq_ok.mp h
  obtain rfl := Except.ok.inj h
  exact reads_nothing rfl fun hd => ⟨fun hexact => absurd hexact hseen, hd.width, hd.height⟩

/-- **A line leaves in the description what it gives.** -/
theorem readLine_reads {d d' : SdpDescription} {line : Bytes} (h : readLine stod d line = .ok d') :
    Reads (lineGives line) d d' := by
  unfold readLine at h
  by_cases hconnection : (ascii "c=IN IP4 ").isPrefixOf line = true
  · rw [if_pos hconnection] at h
    obtain rfl := Except.ok.inj h
    rw [lineGives_of_isPrefixOf (by simp) hconnection]
    exact reads_nothing rfl fun hd => ⟨hd.rate, hd.width, hd.height⟩
  rw [if_neg hconnection] at h
  by_cases hmedia : (ascii "m=video ").isPrefixOf line = true
  · rw [if_pos hmedia] at h
    rw [lineGives, if_pos hmedia]
    exact readMediaLine_reads h
  rw [if_neg hmedia] at h
  by_cases hbitrate : (ascii "b=AS:").isPrefixOf line = true
  · rw [if_pos hbitrate] at h
    rw [lineGives_of_isPrefixOf (by simp) hbitrate]
    exact readBitrateLine_reads h
  rw [if_neg hbitrate] at h
  by_cases hrtcp : (ascii "a=rtcp:").isPrefixOf line = true
  · rw [if_pos hrtcp] at h
    rw [lineGives_of_isPrefixOf (by simp) hrtcp]
    exact readRtcpLine_reads h
  rw [if_neg hrtcp] at h
  by_cases hrtpmap : (ascii "a=rtpmap:").isPrefixOf line = true
  · rw [if_pos hrtpmap] at h
    rw [lineGives, if_neg hmedia, if_pos hrtpmap]
    exact readRtpmapLine_reads h
  rw [if_neg hrtpmap] at h
  by_cases hfmtp : (ascii "a=fmtp:").isPrefixOf line = true
  · rw [if_pos hfmtp] at h
    rw [lineGives, if_neg hmedia, if_neg hrtpmap, if_pos hfmtp]
    exact readFmtpLine_reads h
  rw [if_neg hfmtp] at h
  by_cases hframesize : (ascii "a=framesize:").isPrefixOf line = true
  · rw [if_pos hframesize] at h
    rw [lineGives, if_neg hmedia, if_neg hrtpmap, if_neg hfmtp, if_pos hframesize]
    exact readFramesizeLine_reads h
  rw [if_neg hframesize] at h
  -- behind these a line gives nothing
  rw [lineGives, if_neg hmedia, if_neg hrtpmap, if_neg hfmtp, if_neg hframesize]
  by_cases hrate : (ascii "a=framerate:").isPrefixOf line = true ∧ ¬ d.exactFrameRateSeen = true
  · rw [if_pos hrate] at h
    exact readFramerateLine_reads hrate.2 h
  rw [if_neg hrate] at h
  by_cases hrefclk : (ascii "a=ts-refclk:").isPrefixOf line = true
  · rw [if_pos hrefclk] at h
    obtain rfl := Except.ok.inj h
    exact reads_nothing rfl fun hd => ⟨hd.rate, hd.width, hd.height⟩
  rw [if_neg hrefclk] at h
  by_cases hclock : (ascii "a=mediaclk:").isPrefixOf line = true
  · rw [if_pos hclock] at h
    obtain rfl := Except.ok.inj h
    exact reads_nothing rfl fun hd => ⟨hd.rate, hd.width, hd.height⟩
  · rw [if_neg hclock] at h
    obtain rfl := Except.ok.inj h
    exact Reads.refl _

theorem foldlM_reads {lines : List Bytes} {d d' : SdpDescription}
    (h : lines.foldlM (readLine stod) d = .ok d') :
    Reads (lines.foldl (fun given line => (lineGives line).or given) {}) d d' := by
  induction lines generalizing d with
  | nil =>
    obtain rfl := Except.ok.inj h
    exact Reads.refl _
  | cons line lines ih =>
    rw [List.foldlM_cons] at h
    obtain ⟨d₁, hline, hlines⟩ := bind_eq_ok.mp h
    have hall := (readLine_reads hline).trans (ih hlines)
    rwa [← foldl_or, ← Given.or_empty (lineGives line)] at hall

theorem kept_unread : Kept { settings := unreadSettings } := by
  constructor
  · intro h
    cases h
  · intro width h
    cases h
  · intro height h
    cases h

/-- **A text leaves in the description what it gives last**, and the settings follow. -/
theorem readSdpDescription_reads {text : Bytes} {d : SdpDescription}
    (h : readSdpDescription stod text = .ok d) :
    Reads (textGives text) { settings := unreadSettings } d := foldlM_reads h

/-! ## The checks of a sender -/

/-- What `make_sdp` checks before it announces a stream, of a description that was read from
a text; and the lines of the text agree. -/
structure SenderChecked (text : Bytes) (d : SdpDescription) : Prop where
  parameterSets : ∃ sps pps, parseH264Sps d.sps = some sps ∧ parseH264Pps d.pps = some pps
    ∧ pps.spsId = sps.spsId ∧ validateIpmxSps sps d.settings.format = []
  frameRate : d.settings.fpsNumerator ≠ 0 ∧ d.settings.fpsDenominator ≠ 0
  port : isValidIpmxMediaPort d.settings.port = true ∧ d.rtcpPort = some (d.settings.port + 1)
  maximumUdp : 64 ≤ d.settings.maximumUdpBytes
    ∧ d.settings.maximumUdpBytes.toNat ≤ Rtp.kMaximumStandardUdpPayloadBytes
  payloadType : (textGives text).media = some (true, d.settings.payloadType)
    ∧ (textGives text).rtpmap = some d.settings.payloadType
    ∧ (textGives text).fmtp = some d.settings.payloadType
  dimensions : (textGives text).fmtpWidth = some d.settings.width
    ∧ (textGives text).fmtpHeight = some d.settings.height
  framesize : ∀ size ∈ (textGives text).framesize,
    size = (d.settings.payloadType, d.settings.width, d.settings.height)

/-- The parameter sets given last are of one stream. -/
def SetsMatch (given : Given) : Prop :=
  ∃ sets ∈ given.parameterSets, ∃ sps ∈ parseH264Sps sets.1, ∃ pps ∈ parseH264Pps sets.2,
    pps.spsId = sps.spsId

instance (given : Given) : Decidable (SetsMatch given) :=
  inferInstanceAs (Decidable (∃ sets ∈ given.parameterSets, ∃ sps ∈ parseH264Sps sets.1,
    ∃ pps ∈ parseH264Pps sets.2, pps.spsId = sps.spsId))

/-- The parameter sets of a description that has some are those its text gives last. -/
theorem parameterSets_eq {text : Bytes} {d : SdpDescription}
    (hread : readSdpDescription stod text = .ok d) (hsps : d.sps ≠ []) :
    (textGives text).parameterSets = some (d.sps, d.pps) := by
  have h := congrArg Given.parameterSets (readSdpDescription_reads hread).given
  simp only [SdpDescription.given, Given.or] at h
  cases hsets : (textGives text).parameterSets with
  | none =>
    rw [hsets] at h
    exact absurd (congrArg Prod.fst (Option.some.inj h)) hsps
  | some sets =>
    rw [hsets] at h
    exact h.symm

/-- The same of the media line. -/
theorem media_eq {text : Bytes} {d : SdpDescription}
    (hread : readSdpDescription stod text = .ok d) (hseen : d.mediaSeen = true) :
    (textGives text).media = some (true, d.settings.payloadType) := by
  have h := congrArg Given.media (readSdpDescription_reads hread).given
  simp only [SdpDescription.given, Given.or, hseen] at h
  cases hmedia : (textGives text).media with
  | none =>
    rw [hmedia] at h
    exact absurd (congrArg Prod.fst (Option.some.inj h)) (by simp)
  | some media =>
    rw [hmedia] at h
    exact h.symm

/-- An SPS without an objection conforms to the announced format. -/
theorem conforms_of_validateSps {d : SdpDescription} (h : validateSps d = .ok []) :
    ∃ sps, parseH264Sps d.sps = some sps ∧ validateIpmxSps sps d.settings.format = [] := by
  unfold validateSps at h
  obtain ⟨profile, _, h⟩ := bind_eq_ok.mp h
  obtain ⟨_, hparsed⟩ := List.append_eq_nil_iff.mp (Except.ok.inj h)
  cases hsps : parseH264Sps d.sps with
  | none => simp [hsps] at hparsed
  | some sps => exact ⟨sps, rfl, by simpa [hsps] using hparsed⟩

/-- The frame size, if there is one, is the size of the fmtp line. -/
theorem framesize_eq {d : SdpDescription} (h : validateClocks d = []) {width height : UInt32}
    (hwidth : d.fmtpWidth = some width) (hheight : d.fmtpHeight = some height) :
    ∀ size ∈ d.given.framesize, size = (d.settings.payloadType, width, height) := by
  intro size hsize
  obtain ⟨p, hp, w, hw, v, hv, rfl⟩ : ∃ p, d.framesizePayloadType = some p
      ∧ ∃ w, d.framesizeWidth = some w ∧ ∃ v, d.framesizeHeight = some v ∧ (p, w, v) = size := by
    simpa [SdpDescription.given, Option.bind_eq_some_iff] using hsize
  have hframesize := (List.append_eq_nil_iff.mp h).2
  rw [if_pos (by simp [hw, hv]), require_eq_nil] at hframesize
  obtain ⟨hpayload, _, _, hw', hv'⟩ := hframesize
  rw [hp] at hpayload
  rw [hw, hwidth] at hw'
  rw [hv, hheight] at hv'
  rw [Option.some.inj hpayload, Option.some.inj hw', Option.some.inj hv']

/-- **The validator repeats every check of the sender but one.** A text that is read and
validated without an error meets all that `make_sdp` asks of a stream exactly if its PPS
refers to its SPS. -/
theorem validateIpmxSdp_senderChecked_iff {text : Bytes} {d : SdpDescription}
    (hread : readSdpDescription stod text = .ok d) (hvalid : validateIpmxSdp d = .ok []) :
    SenderChecked text d ↔ SetsMatch (textGives text) := by
  obtain ⟨hmedia, hfmtp, hclocks, ⟨hsps, _⟩, hconforms, hpps⟩ := validateIpmxSdp_eq_ok_nil.mp hvalid
  have hgiven := (readSdpDescription_reads hread).given
  have hkept := (readSdpDescription_reads hread).kept kept_unread
  have hsets := parameterSets_eq hread hsps
  simp only [validateMedia, validateFmtp, List.append_eq_nil_iff, require_eq_nil] at hmedia hfmtp
  obtain ⟨⟨⟨⟨hseen, _⟩, hport⟩, _, hrtcp⟩, hrtpmap, _, _⟩ := hmedia
  obtain ⟨⟨⟨⟨⟨⟨⟨⟨⟨_, hpayload⟩, ⟨w, hw, hw0⟩, v, hv, hv0⟩, hexact⟩, _⟩, _⟩, hudp⟩, _⟩, _⟩, _⟩ :=
    hfmtp
  obtain ⟨sps, hparsed, hformat⟩ := conforms_of_validateSps hconforms
  obtain ⟨pps, hparsedPps⟩ := Option.isSome_iff_exists.mp hpps
  constructor
  · intro h
    obtain ⟨sps, pps, hparsed, hparsedPps, hsame, _⟩ := h.parameterSets
    exact ⟨_, hsets, sps, hparsed, pps, hparsedPps, hsame⟩
  · rintro ⟨sets, hmem, sps', hparsed', pps', hparsedPps', hsame⟩
    obtain rfl := Option.some.inj (hsets.symm.trans hmem)
    obtain rfl := Option.some.inj (hparsed.symm.trans hparsed')
    obtain rfl := Option.some.inj (hparsedPps.symm.trans hparsedPps')
    have hwidth := hkept.width w hw hw0
    have hheight := hkept.height v hv hv0
    have hsize := framesize_eq hclocks hw hv
    have hall := hgiven
    simp only [SdpDescription.given, Given.or, Given.mk.injEq, Option.or_none, Option.bind_eq_bind,
      Option.bind_none] at hall
    obtain ⟨_, hr, hf, hfw, hfh, hfs, _⟩ := hall
    exact {
      parameterSets := ⟨sps, pps, hparsed, hparsedPps, hsame, hformat⟩
      frameRate := hkept.rate hexact
      port := ⟨hport, hrtcp⟩
      maximumUdp := hudp
      payloadType := ⟨media_eq hread hseen, hr.symm.trans hrtpmap, hf.symm.trans hpayload⟩
      dimensions := ⟨hfw.symm.trans (hwidth ▸ hw), hfh.symm.trans (hheight ▸ hv)⟩
      framesize := by
        intro size hmem
        rw [hwidth, hheight]
        refine hsize size ?_
        rw [← hfs] at hmem
        exact hmem }

/-- The text of the reference stream, with this PPS. -/
def referenceText (pps : NalUnit) : Bytes :=
  unlines (referenceSettings.lines 5005 (ascii "640020") referenceSps pps)

/-- A text that announces no frame rate but the exact one needs no `std::stod`. -/
def noStod (_ : Bytes) : Except String Float := .error "stod"

theorem validateIpmxSdp_senderChecked_reference :
    ∃ d, readSdpDescription noStod (referenceText referencePps) = .ok d
      ∧ validateIpmxSdp d = .ok [] ∧ SenderChecked (referenceText referencePps) d := by
  have hrun : ∃ d ∈ (readSdpDescription noStod (referenceText referencePps)).toOption,
      validateIpmxSdp d = .ok [] := by decide +kernel
  have hmatch : SetsMatch (textGives (referenceText referencePps)) := by decide +kernel
  obtain ⟨d, hread, hvalid⟩ := hrun
  have hread := toOption_eq_some.mp hread
  exact ⟨d, hread, hvalid, (validateIpmxSdp_senderChecked_iff hread hvalid).mpr hmatch⟩

/-- The reference PPS, referring to SPS 1. -/
def foreignPps : NalUnit := [0x68, 0xAF, 0x3C, 0xB0]

/-- A PPS of another SPS is not noticed. -/
theorem validateIpmxSdp_foreignPps :
    ∃ d, readSdpDescription noStod (referenceText foreignPps) = .ok d
      ∧ validateIpmxSdp d = .ok [] ∧ ¬ SenderChecked (referenceText foreignPps) d := by
  have hrun : ∃ d ∈ (readSdpDescription noStod (referenceText foreignPps)).toOption,
      validateIpmxSdp d = .ok []
        ∧ (parseH264Pps d.pps).map (·.spsId) ≠ (parseH264Sps d.sps).map (·.spsId) := by
    decide +kernel
  obtain ⟨d, hread, hvalid, hforeign⟩ := hrun
  refine ⟨d, toOption_eq_some.mp hread, hvalid, ?_⟩
  intro h
  obtain ⟨sps, pps, hsps, hpps, hsame, _⟩ := h.parameterSets
  rw [hsps, hpps] at hforeign
  exact hforeign (congrArg some hsame)

end Ipmx.Sdp
