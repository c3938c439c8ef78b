/-
Ipmx.Sender.SessionTheorems — when the Sender Reports of a session can be made.

A session that starts has passed the checks of the SDP, of the media info and
of the transmitter. These look at the lower ends of the ranges that the report
can hold, not at the upper ends: `ReportFits` is what is left to ask for, and
`start_senderReport_iff` shows that with it, and only with it, every Sender
Report of the session is made.
-/
import Ipmx.H264.ParameterSetsTheorems
import Ipmx.Rtcp.LayoutTheorems
import Ipmx.Sdp.RoundTrip
import Ipmx.Sender.Session

namespace Ipmx.Sender

open H264
open Ipmx.Lib
open Rtcp
open Rtp
open Sdp

/-! ## What a session has passed -/

theorem makeFrameTransmitter_eq_ok {settings : FrameTransmitterSettings}
    {wallReferenceNs qpcReferenceNs : Nat} {transmitter : FrameTransmitter}
    (h : makeFrameTransmitter settings wallReferenceNs qpcReferenceNs = .ok transmitter) :
    ∃ timing, transmitter =
      { ssrc := settings.ssrc, tsRefclk := settings.tsRefclk, mediaClock := settings.mediaClock
        cname := settings.cname, blockVersion := settings.blockVersion, video := settings.video
        h264 := settings.h264, timing, wallReferenceNs, qpcReferenceNs } := by
  unfold makeFrameTransmitter at h
  obtain ⟨_, h⟩ := rejectIf_bind_eq_ok.mp h
  obtain ⟨_, h⟩ := rejectIf_bind_eq_ok.mp h
  obtain ⟨_, _, h⟩ := bind_eq_ok.mp h
  obtain ⟨_, h⟩ := rejectIf_bind_eq_ok.mp h
  obtain ⟨timing, _, h⟩ := bind_eq_ok.mp h
  exact ⟨timing, (Except.ok.inj h).symm⟩

/-- A profile that conforms is one of two. -/
theorem profileIdc_of_validateIpmxSps {sps : H264SpsInfo} {expected : H264StreamFormat}
    (h : validateIpmxSps sps expected = []) : sps.profileIdc = 77 ∨ sps.profileIdc = 100 := by
  simp only [validateIpmxSps, List.append_eq_nil_iff, errorIf_eq_nil, and_assoc] at h
  have hprofile := h.1
  by_contra hneither
  exact hprofile (not_or.mp hneither)

namespace Session

variable {session : Session} {sps pps : NalUnit} {wallReferenceNs qpcReferenceNs : Nat}
variable {text : Bytes} {transmitter : FrameTransmitter}

/-- A session that has started, taken apart: what its reports are made of, and the checks it
has passed that a report makes again. -/
structure Started (session : Session) (sps pps : NalUnit) (transmitter : FrameTransmitter) :
    Prop where
  tsRefclk : transmitter.tsRefclk = session.tsRefclk
  mediaClock : transmitter.mediaClock = ascii "direct=0"
  cname : transmitter.cname = session.tsRefclk ++ ascii "@ipmx-windows"
  video : transmitter.video = session.video
  sprop : transmitter.h264.spropParameterSets
    = Rtcp.base64 sps ++ (ascii "," ++ Rtcp.base64 pps)
  level : transmitter.h264.spropLevelParameterSets = []
  extra : transmitter.h264.extra = []
  profile : transmitter.h264.profileLevelId ≠ (0, 0, 0)
  refclk_ne_nil : session.tsRefclk ≠ []
  numerator_ne_zero : session.fpsNumerator ≠ 0
  denominator_ne_zero : session.fpsDenominator ≠ 0

theorem started_of_start
    (h : session.start sps pps wallReferenceNs qpcReferenceNs = .ok (text, transmitter)) :
    session.Started sps pps transmitter := by
  unfold start at h
  obtain ⟨sdp, hsdp, h⟩ := bind_eq_ok.mp h
  obtain ⟨info, hinfo, h⟩ := bind_eq_ok.mp h
  obtain ⟨made, hmade, h⟩ := bind_eq_ok.mp h
  obtain ⟨rfl, rfl⟩ := Prod.mk.inj (Except.ok.inj h)
  obtain ⟨_, haccepted, _⟩ := accepted_of_makeSdp hsdp
  obtain ⟨parsed, hparsed, hconforms⟩ := haccepted.sps_conforms
  obtain ⟨header, profile, constraints, level, rest, rfl, _, rfl⟩ := makeIpmxH264MediaInfo_eq_ok hinfo
  obtain ⟨timing, rfl⟩ := makeFrameTransmitter_eq_ok hmade
  have hprofile : profile ≠ 0 := by
    rw [← profileIdc_of_parseH264Sps hparsed]
    rcases profileIdc_of_validateIpmxSps hconforms with h77 | h100
    · simp [h77]
    · simp [h100]
  exact {
    tsRefclk := rfl, mediaClock := rfl, cname := rfl, video := rfl, sprop := rfl, level := rfl
    extra := rfl
    profile := fun hzero => hprofile (Prod.mk.inj hzero).1
    refclk_ne_nil := haccepted.refclk_ne_nil
    numerator_ne_zero := haccepted.numerator_ne_zero
    denominator_ne_zero := haccepted.denominator_ne_zero }

/-! ## The upper ends -/

/-- What the fields of a Sender Report can hold of a session and its parameter sets. -/
structure ReportFits (session : Session) (sps pps : NalUnit) : Prop where
  tsRefclk : session.tsRefclk.length ≤ 64
  fpsNumerator : session.fpsNumerator < 4194304
  fpsDenominator : session.fpsDenominator < 1024
  width : 0 < session.width ∧ session.width ≤ 65535
  height : 0 < session.height ∧ session.height ≤ 65535
  parameterSets : 4 * ((sps.length + 2) / 3) + 1 + 4 * ((pps.length + 2) / 3) ≤ 255

theorem length_sprop (h : session.Started sps pps transmitter) :
    transmitter.h264.spropParameterSets.length
      = 4 * ((sps.length + 2) / 3) + 1 + 4 * ((pps.length + 2) / 3) := by
  have hcomma : (ascii ",").length = 1 := rfl
  rw [h.sprop, List.length_append, List.length_append, length_base64, length_base64, hcomma,
    Nat.add_assoc]

/-- The guard at the front of `make_ipmx_rtcp_compound`, for a session that has started. -/
theorem invalidReport_report (h : session.Started sps pps transmitter) (w : Worker)
    (wallNs : Nat) (rtpTimestamp : UInt32) :
    ¬ InvalidReport (transmitter.report w wallNs rtpTimestamp) ↔
      0 < session.width ∧ 0 < session.height ∧ session.fpsNumerator < 4194304
        ∧ session.fpsDenominator < 1024 := by
  have hrefclk := h.refclk_ne_nil
  have hnumerator := h.numerator_ne_zero
  have hdenominator := h.denominator_ne_zero
  have hprofile := h.profile
  have hnanoseconds : ¬ UInt32.ofNat (wallNs % 1000000000) ≥ 1000000000 := by
    rw [ge_iff_le, UInt32.le_iff_toNat_le, UInt32.toNat_ofNat']
    show ¬ 1000000000 ≤ wallNs % 1000000000 % 2 ^ 32
    omega
  have hshifts : (1 : UInt32) <<< 22 = 4194304 ∧ (1 : UInt32) <<< 10 = 1024 := by decide
  simp only [InvalidReport, FrameTransmitter.report, h.tsRefclk, h.cname, h.video, Session.video,
    hrefclk, hnumerator, hdenominator, hprofile, hnanoseconds, hshifts, List.append_eq_nil_iff,
    false_and, false_or, or_false, not_or, ge_iff_le, UInt32.not_le, UInt32.pos_iff_ne_zero,
    ne_eq]

/-- A report is admissible exactly if the session fits, whatever the frame is. -/
theorem admissible_report_iff (h : session.Started sps pps transmitter) (w : Worker)
    (wallNs : Nat) (rtpTimestamp : UInt32) :
    Admissible (transmitter.report w wallNs rtpTimestamp) ↔ session.ReportFits sps pps := by
  have hvalid := invalidReport_report h w wallNs rtpTimestamp
  have hsprop := length_sprop h
  have htsRefclk : (transmitter.report w wallNs rtpTimestamp).tsRefclk = session.tsRefclk :=
    h.tsRefclk
  have hvideo : (transmitter.report w wallNs rtpTimestamp).video = session.video := h.video
  have hh264 : (transmitter.report w wallNs rtpTimestamp).h264 = transmitter.h264 := rfl
  have hmediaClock : (transmitter.report w wallNs rtpTimestamp).mediaClock.length = 8 :=
    congrArg List.length h.mediaClock
  have hcname : (transmitter.report w wallNs rtpTimestamp).cname.length
      = session.tsRefclk.length + 13 :=
    (congrArg List.length h.cname).trans List.length_append
  generalize transmitter.report w wallNs rtpTimestamp = report at *
  constructor
  · rintro ⟨hinvalid, hrefclk, _, _, _, _, _, hwidth, hheight, hsets, _, _, _⟩
    obtain ⟨hwide, hhigh, hnumerator, hdenominator⟩ := hvalid.mp hinvalid
    rw [htsRefclk] at hrefclk
    rw [hvideo] at hwidth hheight
    rw [hh264, hsprop] at hsets
    exact ⟨hrefclk, hnumerator, hdenominator, ⟨hwide, hwidth⟩, ⟨hhigh, hheight⟩, hsets⟩
  · rintro ⟨hrefclk, hnumerator, hdenominator, hwidth, hheight, hsets⟩
    refine ⟨hvalid.mpr ⟨hwidth.1, hheight.1, hnumerator, hdenominator⟩, ?_, ?_, ?_, ?_, ?_, ?_,
      ?_, ?_, ?_, ?_, ?_, ?_⟩
    · rw [htsRefclk]
      exact hrefclk
    · omega
    · rw [hvideo]
      show 11 ≤ 16
      omega
    · rw [hvideo]
      show 6 ≤ 12
      omega
    · rw [hvideo]
      show 5 ≤ 20
      omega
    · rw [hvideo]
      show 3 ≤ 16
      omega
    · rw [hvideo]
      exact hwidth.2
    · rw [hvideo]
      exact hheight.2
    · rw [hh264, hsprop]
      exact hsets
    · simp [hh264, h.level]
    · simp [hh264, h.extra]
    · omega

/-- A clock reference that does not fit its field is an error of the report. -/
theorem makeIpmxRtcpCompound_of_long {report : IpmxRtcpSenderReport}
    (hvalid : ¬ InvalidReport report) (hlong : report.tsRefclk.length > 64) :
    makeIpmxRtcpCompound report = .error "RTCP ts-refclk is too long" := by
  have hfield : appendFixed report.tsRefclk 64 "ts-refclk" = .error "RTCP ts-refclk is too long" :=
    if_pos hlong
  have hblock : ipmxInfoBlock report = .error "RTCP ts-refclk is too long" :=
    bind_eq_error.mpr (.inl hfield)
  exact bind_eq_error.mpr (.inr ⟨(), rejectIf_eq_ok.mpr hvalid,
    bind_eq_error.mpr (.inl hblock)⟩)

/-! ## The session of the tests -/

def reference : Session where
  group := ascii "239.255.42.42"
  maximumIpBitrateKbps := 4400
  tsRefclk := ascii "localmac=02-00-00-00-00-01"
  sourceAddress := ascii "127.0.0.1"
  ssrc := 0x12345678

/-- The same session with a clock reference of 65 bytes. -/
def longClock : Session :=
  { reference with tsRefclk := List.replicate 65 (asciiByte 'x') }

/-! ## The Sender Reports of a session -/

/-- The Sender Reports of a session that has started are made for every frame if and only if
the fields of the report can hold what the session says. -/
theorem start_senderReport_iff
    (hstart : session.start sps pps wallReferenceNs qpcReferenceNs = .ok (text, transmitter)) :
    (∀ (w : Worker) (wallNs : Nat) (rtpTimestamp : UInt32), ∃ datagram,
        makeIpmxRtcpCompound (transmitter.report w wallNs rtpTimestamp) = .ok datagram)
      ↔ session.ReportFits sps pps := by
  have hstarted := started_of_start hstart
  constructor
  · intro hreports
    obtain ⟨datagram, hdatagram⟩ := hreports {} 0 0
    exact (admissible_report_iff hstarted {} 0 0).mp
      (admissible_of_makeIpmxRtcpCompound hdatagram)
  · intro hfits w wallNs rtpTimestamp
    exact ⟨_, makeIpmxRtcpCompound_of_admissible
      ((admissible_report_iff hstarted w wallNs rtpTimestamp).mpr hfits)⟩

theorem start_senderReport_iff_reference :
    ∃ text transmitter, reference.start referenceSps referencePps 0 0 = .ok (text, transmitter)
      ∧ ∀ (w : Worker) (wallNs : Nat) (rtpTimestamp : UInt32), ∃ datagram,
        makeIpmxRtcpCompound (transmitter.report w wallNs rtpTimestamp) = .ok datagram := by
  have hok : (reference.start referenceSps referencePps 0 0).toOption.isSome = true := by
    decide +kernel
  obtain ⟨⟨text, transmitter⟩, hstart⟩ := exists_of_isSome hok
  refine ⟨text, transmitter, hstart, (start_senderReport_iff hstart).mpr ?_⟩
  constructor <;> decide

/-- With 65 bytes the session starts and every one of its Sender Reports throws. -/
theorem start_longClock :
    ∃ text transmitter, longClock.start referenceSps referencePps 0 0 = .ok (text, transmitter)
      ∧ ∀ (w : Worker) (wallNs : Nat) (rtpTimestamp : UInt32),
        makeIpmxRtcpCompound (transmitter.report w wallNs rtpTimestamp)
          = .error "RTCP ts-refclk is too long" := by
  have hok : (longClock.start referenceSps referencePps 0 0).toOption.isSome = true := by
    decide +kernel
  obtain ⟨⟨text, transmitter⟩, hstart⟩ := exists_of_isSome hok
  refine ⟨text, transmitter, hstart, ?_⟩
  intro w wallNs rtpTimestamp
  have hstarted := started_of_start hstart
  have hrefclk : (transmitter.report w wallNs rtpTimestamp).tsRefclk = longClock.tsRefclk :=
    hstarted.tsRefclk
  refine makeIpmxRtcpCompound_of_long ?_ ?_
  · exact (invalidReport_report hstarted w wallNs rtpTimestamp).mpr (by decide)
  · rw [hrefclk]
    show 65 > 64
    omega

end Session
end Ipmx.Sender
