/-
Ipmx.System.Pipeline — from the sender's source to the receiver's decoder.

A `Loopback` is a run of the whole system: the loop of the sender's `main` with
its encoder and packetizer, the transmit queue and its worker, and the loop of
the receiver's `main`. It is `Lossless` if the queue was closed cleanly and the
worker's RTP datagrams arrive in order, all of them. Then the receiver returns
the units the encoder made, each with the capture time of its source frame
(`Lossless.decodes_captured`), and what is known of the receiver's loop says
what is decoded.
-/
import Ipmx.Receiver.LateJoin
import Ipmx.Sender.ProductionTheorems
import Ipmx.Sender.SentStream
import Ipmx.Sender.TransmitQueueTheorems

namespace Ipmx.System

open H264 Receiver Rtp Sender
open Receiver.Playback (Consecutive consecutive_iff)
open Sender.Production
  (smallEncoder smallEncoder_fresh smallOptions smallPacketizer smallRounds)
open Ipmx.Lib

/-! ## Runs of the system -/

/-- A run of the system: for each of its parts the constants, the events and the last state. -/
structure Loopback where
  options : ProductionOptions
  encoder : X264Encoder
  packetizer : RtpPacketizer
  sourceRounds : List ProductionRound
  produced : Production
  maximumQueuedFrames : Nat
  events : List TransmitQueue.Event
  queue : TransmitQueue
  transmitter : FrameTransmitter
  network : Network
  frames : List (TransmitFrame × Nat)
  worker : Worker
  playbackOptions : PlaybackOptions
  decoder : MfH264Decoder
  rounds : List Receiver.Round
  played : Playback

/-- Each part runs on what the one before it has made. No part throws, nothing is lost, and every
unit can be carried. -/
structure Loopback.Lossless (l : Loopback) : Prop where
  fresh : l.encoder.Fresh
  narrow : 4 * l.encoder.settings.width.toNat < 2 ^ 32
  payloadType : l.packetizer.payloadType = kH264PayloadType
  production : Trace.run (Production.step l.options) (Production.initial l.encoder l.packetizer)
    l.sourceRounds = some l.produced
  deliverable : ∀ unit ∈ l.produced.units, unit.nals ≠ [] ∧ (∀ nal ∈ unit.nals, Carriable nal)
    ∧ WithinLimits unit.nals
  queued : TransmitQueue.run l.maximumQueuedFrames l.events = some l.queue
  accepted : l.queue.queue.accepted = l.produced.enqueued
  closed : .ok () ∈ l.queue.closes
  taken : l.frames.map Prod.fst = l.queue.queue.finished
  transmission : l.transmitter.run l.network {} l.frames = .ok l.worker
  arrival : Playback.datagrams l.rounds = rtpDatagrams l.worker.sent
  playback : Trace.run (Playback.step l.playbackOptions) (Playback.initial l.decoder) l.rounds
    = some l.played

/-- The units of the encoder, each with the capture time of the source frame it was made of. -/
def Loopback.captured (l : Loopback) : List (Bytes × UInt64) :=
  (l.produced.units.zip (Production.encodedFrames none (Production.frames l.sourceRounds))).map
    fun (unit, shown) => (buildAnnexB unit.nals, shown.1.picture.captureTimeNs)

/-! ## A run -/

/-- The units of the small rounds. -/
def loopbackUnits : List (List NalUnit) :=
  [[[0x67, 1], [0x68, 1], [0x06, 0, 1, 0x80, 0x80], [0x65, 0x88]], [[0x41, 0x9A]]]

theorem loopbackUnits_deliverable : ∀ nals ∈ loopbackUnits,
    nals ≠ [] ∧ (∀ nal ∈ nals, Carriable nal) ∧ WithinLimits nals := by
  have hsmall : ∀ nals ∈ loopbackUnits, nals ≠ [] ∧ (∀ nal ∈ nals, Carriable nal)
      ∧ nals.length ≤ 4 ∧ (∀ nal ∈ nals, nal.length ≤ 5) ∧ totalBytes nals ≤ 11 := by
    decide
  intro nals hnals
  obtain ⟨hsome, hcarriable, hcount, hnal, htotal⟩ := hsmall nals hnals
  exact ⟨hsome, hcarriable, hcount.trans (by decide), fun nal hmem => (hnal nal hmem).trans
    (by decide), htotal.trans (by decide)⟩

/-- What a sender has that runs through these rounds and sends two frames. -/
def loopbackSent (produced : Production) : Bool :=
  produced.units.map EncodedAccessUnit.nals = loopbackUnits
    && produced.encoder.incompleteRecoveryPointCount = 0
    && produced.units.head?.all EncodedAccessUnit.keyframe
    && produced.enqueued.length = 2
    && (FrameTransmitter.transmitter50.run (fun _ => true) {}
      (produced.enqueued.map fun sent => (sent, 0))).toOption.isSome

theorem any_loopbackSent :
    (Trace.run (Production.step smallOptions) (Production.initial smallEncoder smallPacketizer)
      smallRounds).any loopbackSent := by
  decide +kernel

/-- Two frames through the queue: the second one is taken while `close` waits. -/
theorem run_twoFrames (a b : TransmitFrame) :
    ∃ queue, TransmitQueue.run 3 [.start, .enqueue a, .pop, .complete, .enqueue b, .closeBegin,
        .pop, .complete, .pop, .leave, .closeEnd] = some queue
      ∧ queue.queue.accepted = [a, b] ∧ queue.queue.finished = [a, b]
      ∧ .ok () ∈ queue.closes := by
  refine ⟨_, rfl, rfl, rfl, ?_⟩
  exact List.mem_cons_self

/-- A lossless run whose transform only takes input. -/
theorem exists_loopback :
    ∃ l : Loopback, l.Lossless ∧ l.options = smallOptions ∧ l.sourceRounds = smallRounds
      ∧ l.decoder = MfH264Decoder.paddedDecoder
      ∧ l.produced.encoder.incompleteRecoveryPointCount = 0
      ∧ ∀ unit ∈ l.produced.units.head?, unit.keyframe = true := by
  obtain ⟨produced, hproduced, hsent⟩ := (Option.any_eq_true _ _).mp any_loopbackSent
  simp only [loopbackSent, Bool.and_eq_true, decide_eq_true_eq] at hsent
  obtain ⟨⟨⟨⟨hunits, hcounter⟩, hfirst⟩, hlength⟩, hworker⟩ := hsent
  obtain ⟨w, hw⟩ := exists_of_isSome hworker
  obtain ⟨a, b, hab⟩ := List.length_eq_two.mp hlength
  obtain ⟨queue, hqueue, haccepted, hfinished, hcloses⟩ := run_twoFrames a b
  have hsilent : ∀ r ∈ (rtpDatagrams w.sent).map fun datagram =>
      ({ received := .ok (some datagram) } : Receiver.Round), Silent r := by
    intro r hr
    obtain ⟨datagram, _, rfl⟩ := List.mem_map.mp hr
    exact ⟨⟨_, rfl⟩, rfl⟩
  obtain ⟨played, hplayed⟩ := run_silent Playback.joinedOptions
    (Playback.initial MfH264Decoder.paddedDecoder) hsilent
  have hdeliverable : ∀ unit ∈ produced.units, unit.nals ≠ []
      ∧ (∀ nal ∈ unit.nals, Carriable nal) ∧ WithinLimits unit.nals := by
    intro unit hunit
    exact loopbackUnits_deliverable unit.nals (hunits ▸ List.mem_map_of_mem hunit)
  have htaken : (produced.enqueued.map fun sent => (sent, 0)).map Prod.fst
      = queue.queue.finished := by
    rw [List.map_map, hfinished, hab]
    rfl
  have harrival : Playback.datagrams ((rtpDatagrams w.sent).map fun datagram =>
      { received := .ok (some datagram) }) = rtpDatagrams w.sent := by
    rw [Playback.datagrams, List.filterMap_map]
    exact List.filterMap_some
  have hnarrow : 4 * smallEncoder.settings.width.toNat < 2 ^ 32 := by decide
  exact ⟨
    { options := smallOptions
      encoder := smallEncoder
      packetizer := smallPacketizer
      sourceRounds := smallRounds
      produced
      maximumQueuedFrames := 3
      events := _
      queue
      transmitter := FrameTransmitter.transmitter50
      network := fun _ => true
      frames := produced.enqueued.map fun sent => (sent, 0)
      worker := w
      playbackOptions := Playback.joinedOptions
      decoder := MfH264Decoder.paddedDecoder
      rounds := _
      played },
    ⟨smallEncoder_fresh, hnarrow, rfl, hproduced, hdeliverable, hqueue,
      haccepted.trans hab.symm, hcloses, htaken, hw, harrival, hplayed⟩,
    rfl, rfl, rfl, hcounter, (Option.all_eq_true _ _).mp hfirst⟩

/-! ## The stream -/

/-- The call of `packetize` for a unit. -/
def unitCall (unit : AccessUnit) : PacketizeCall :=
  ⟨unit.nals, unit.timestamp, unit.captureTimeNs⟩

theorem packetizeCalls_units (p : RtpPacketizer) (units : List AccessUnit) :
    (p.packetizeCalls (units.map unitCall)).1 = p.packetizeAll units := by
  induction units generalizing p with
  | nil => rfl
  | cons unit units ih =>
    rw [List.map_cons, packetizeCalls_cons, RtpPacketizer.packetizeAll]
    exact congrArg (_ :: ·) (ih _)

/-- Calls with units that can be carried. -/
theorem exists_units {calls : List PacketizeCall}
    (h : ∀ call ∈ calls, ∀ nal ∈ call.nals, Carriable nal) :
    ∃ units : List AccessUnit, units.map unitCall = calls := by
  induction calls with
  | nil => exact ⟨[], rfl⟩
  | cons call calls ih =>
    obtain ⟨units, hunits⟩ := ih fun later hmem => h later (List.mem_cons_of_mem _ hmem)
    exact ⟨⟨call.nals, call.timestamp, call.captureTimeNs, h call List.mem_cons_self⟩ :: units,
      congrArg (_ :: ·) hunits⟩

/-- A `close` that has returned leaves every accepted frame finished. -/
theorem finished_of_closed {maximum : Nat} {events : List TransmitQueue.Event}
    {queue : TransmitQueue} (hrun : TransmitQueue.run maximum events = some queue)
    (hclosed : .ok () ∈ queue.closes) : queue.queue.finished = queue.queue.accepted := by
  have hsound := TransmitQueue.sound_run hrun
  obtain ⟨hphase, herror⟩ := hsound.returned hclosed
  have hidle : queue.queue.current = none := by
    by_contra hflying
    exact absurd (hphase.symm.trans (hsound.inFlight hflying)) (by decide)
  exact hsound.inOrder.finished_eq (hsound.unfailed herror) hidle
    (hsound.drained (.inr ⟨hphase, herror⟩)).2

theorem captureTime_of_hands {o : ProductionOptions}
    {shown : (SourceFrame × Video.BgraFrame) × Nat} {sent : TransmitFrame}
    (h : Production.Hands o shown sent) :
    UInt64.ofNat sent.captureTimeNs = shown.1.1.picture.captureTimeNs := by
  rw [h.captureTimeNs, UInt64.ofNat_toNat]

/-- What is sent for the frames carries their capture times. -/
theorem captureTimes_of_hands {o : ProductionOptions}
    {shown : List (SourceFrame × Video.BgraFrame)} {sent : List TransmitFrame}
    (h : List.Forall₂ (Production.Hands o) shown.zipIdx sent) :
    sent.map (fun frame => UInt64.ofNat frame.captureTimeNs)
      = shown.map fun frame => frame.1.picture.captureTimeNs := by
  have htimes : List.Forall₂ (· = ·) (sent.map fun frame => UInt64.ofNat frame.captureTimeNs)
      (shown.zipIdx.map fun numbered => numbered.1.1.picture.captureTimeNs) := by
    rw [List.forall₂_map_left_iff, List.forall₂_map_right_iff]
    exact h.flip.imp fun _ _ => captureTime_of_hands
  calc sent.map (fun frame => UInt64.ofNat frame.captureTimeNs)
      = shown.zipIdx.map fun numbered => numbered.1.1.picture.captureTimeNs :=
        List.forall₂_eq_eq_eq ▸ htimes
    _ = (shown.zipIdx.map Prod.fst).map fun frame => frame.1.picture.captureTimeNs := by
        rw [List.map_map]
        rfl
    _ = _ := by rw [List.zipIdx_map_fst]

namespace Loopback.Lossless

variable {l : Loopback}

/-- What the worker has taken is what was handed over. -/
theorem frames_eq (h : l.Lossless) : l.frames.map Prod.fst = l.produced.enqueued := by
  rw [h.taken, finished_of_closed h.queued h.closed, h.accepted]

/-- The calls of `packetize` carry what was captured. -/
theorem calls_eq (h : l.Lossless) :
    l.produced.calls.map (fun call => (buildAnnexB call.nals, call.captureTimeNs))
      = l.captured := by
  have hcaptures := captureTimes_of_hands (Production.run_pictured h.narrow h.production).enqueued
  calc l.produced.calls.map (fun call => (buildAnnexB call.nals, call.captureTimeNs))
      = (l.produced.units.zip l.produced.enqueued).map (Prod.map
          (fun unit => buildAnnexB unit.nals) fun sent => UInt64.ofNat sent.captureTimeNs) := by
        unfold Production.calls
        rw [List.map_map]
        rfl
    _ = (l.produced.units.map fun unit => buildAnnexB unit.nals).zip
          (l.produced.enqueued.map fun sent => UInt64.ofNat sent.captureTimeNs) :=
        List.zip_map.symm
    _ = l.captured := by
        rw [hcaptures, List.zip_map]
        rfl

/-- What arrives is the stream of the encoder's units, with all timestamps shifted. -/
theorem exists_stream (h : l.Lossless) :
    ∃ (units : List AccessUnit) (alignment : UInt32),
      Playback.datagrams l.rounds = (l.packetizer.packetizeAll units).flatten
        ∧ (∀ unit ∈ units, unit.nals ≠ [] ∧ WithinLimits unit.nals)
        ∧ units.map (fun unit => (buildAnnexB unit.nals, unit.captureTimeNs)) = l.captured
        ∧ units.map AccessUnit.timestamp
          = l.produced.enqueued.map fun sent => sent.rtpTimestamp + alignment := by
  have hstreamed := Production.run_streamed h.production
  have hdeliverable : ∀ call ∈ l.produced.calls, call.nals ≠ []
      ∧ (∀ nal ∈ call.nals, Carriable nal) ∧ WithinLimits call.nals := by
    intro call hcall
    obtain ⟨⟨unit, sent⟩, hmem, rfl⟩ := List.mem_map.mp hcall
    exact h.deliverable unit (List.of_mem_zip hmem).1
  obtain ⟨units, hunits⟩ := exists_units fun call hcall => (hdeliverable call hcall).2.1
  have hpackets : l.frames.map (fun queued => queued.1.rtpPackets)
      = l.packetizer.packetizeAll units := by
    have hcalls := packetizeCalls_units l.packetizer units
    rw [hunits, hstreamed.packets, ← h.frames_eq, List.map_map] at hcalls
    exact hcalls
  have hsource : units.map AccessUnit.timestamp
      = l.produced.enqueued.map TransmitFrame.rtpTimestamp := by
    have hcalls := congrArg (List.map PacketizeCall.timestamp) hunits
    rw [List.map_map, hstreamed.timestamps] at hcalls
    exact hcalls
  have htimestamps : l.frames.map (fun queued => queued.1.rtpTimestamp)
      = units.map AccessUnit.timestamp := by
    rw [hsource, ← h.frames_eq, List.map_map]
    rfl
  obtain ⟨alignment, hsent, _⟩ :=
    FrameTransmitter.run_shifted hpackets htimestamps h.transmission
  refine ⟨_, alignment, h.arrival.trans hsent, ?_, ?_, ?_⟩
  · intro unit hunit
    obtain ⟨original, horiginal, rfl⟩ := List.mem_map.mp hunit
    have hcall := hdeliverable (unitCall original) (hunits ▸ List.mem_map_of_mem horiginal)
    exact ⟨hcall.1, hcall.2.2⟩
  · have hcalls := congrArg (List.map fun call : PacketizeCall =>
      (buildAnnexB call.nals, call.captureTimeNs)) hunits
    rw [List.map_map, h.calls_eq] at hcalls
    rw [List.map_map]
    exact hcalls
  · have hshifted := congrArg (List.map (· + alignment)) hsource
    rw [List.map_map, List.map_map] at hshifted
    rw [List.map_map]
    exact hshifted

/-! ## What arrives -/

/-- The receiver gets every unit. -/
theorem returned_eq (h : l.Lossless) :
    l.played.returned.map (fun unit => (unit.annexB, unit.captureTimeNs)) = l.captured
      ∧ (∃ alignment, l.played.returned.map CompletedAccessUnit.timestamp
        = l.produced.enqueued.map fun sent => sent.rtpTimestamp + alignment)
      ∧ Consecutive (Playback.datagrams l.rounds) := by
  obtain ⟨units, alignment, harrived, hunits, hcaptured, htimestamps⟩ := h.exists_stream
  have hreturned := (Playback.run_follows h.playback).returned
  rw [harrived, returned_stream l.packetizer h.payloadType units hunits rfl] at hreturned
  refine ⟨?_, ⟨alignment, ?_⟩, ?_⟩
  · rw [hreturned, List.map_map]
    exact hcaptured
  · rw [hreturned, List.map_map]
    exact htimestamps
  · rw [harrived]
    exact consecutive_packetizeAll l.packetizer h.payloadType units

/-- The decoder is fed from the first recovery point on. -/
theorem fed_eq (h : l.Lossless) :
    l.played.fed.map (fun call => (call.annexB, call.captureTimeNs))
      = l.captured.dropWhile fun unit => !isRecoveryAccessUnit unit.1 := by
  rw [(Playback.run_follows h.playback).fed, ← h.returned_eq.1, List.dropWhile_map]
  rfl

/-- **What is decoded.** In a lossless run the receiver counts no loss. It returns the units x264
made, one for each source frame and in order, with the capture time of this frame and the
timestamp it was handed over with, all under one shift. From the first recovery point on they
are decoded. -/
theorem decodes_captured (h : l.Lossless) :
    l.played.loop.invalidPackets = 0 ∧ l.played.loop.sequence.stats.Clean
      ∧ l.played.returned.map (fun unit => (unit.annexB, unit.captureTimeNs)) = l.captured
      ∧ (∃ alignment, l.played.returned.map CompletedAccessUnit.timestamp
        = l.produced.enqueued.map fun sent => sent.rtpTimestamp + alignment)
      ∧ l.played.fed.map (fun call => (call.annexB, call.captureTimeNs))
        = l.captured.dropWhile fun unit => !isRecoveryAccessUnit unit.1 := by
  obtain ⟨hreturned, htimestamps, hconsecutive⟩ := h.returned_eq
  rw [consecutive_iff, ← (Playback.run_follows h.playback).loop] at hconsecutive
  exact ⟨hconsecutive.1, hconsecutive.2, hreturned, htimestamps, h.fed_eq⟩

/-- Both units are returned; the transform of this run gives no frame. -/
theorem decodes_captured_loopback :
    ∃ l : Loopback, l.sourceRounds = smallRounds
      ∧ l.played.loop.invalidPackets = 0 ∧ l.played.loop.sequence.stats.Clean
      ∧ l.played.returned.map (fun unit => (unit.annexB, unit.captureTimeNs)) = l.captured
      ∧ (∃ alignment, l.played.returned.map CompletedAccessUnit.timestamp
        = l.produced.enqueued.map fun sent => sent.rtpTimestamp + alignment)
      ∧ l.played.fed.map (fun call => (call.annexB, call.captureTimeNs))
        = l.captured.dropWhile fun unit => !isRecoveryAccessUnit unit.1 := by
  obtain ⟨l, hlossless, _, hrounds, _⟩ := exists_loopback
  exact ⟨l, hrounds, hlossless.decodes_captured⟩

/-! ## What is shown -/

theorem length_units (h : l.Lossless) : l.produced.units.length
    = (Production.encodedFrames none (Production.frames l.sourceRounds)).length :=
  (Production.run_streamed h.production).length.trans
    (List.length_zipIdx.symm.trans
      (Production.run_pictured h.narrow h.production).enqueued.length_eq).symm

theorem captured_fst (h : l.Lossless) :
    l.captured.map Prod.fst = l.produced.units.map fun unit => buildAnnexB unit.nals := by
  calc l.captured.map Prod.fst
      = ((l.produced.units.zip (Production.encodedFrames none
          (Production.frames l.sourceRounds))).map Prod.fst).map
            fun unit => buildAnnexB unit.nals := by
        unfold captured
        rw [List.map_map, List.map_map]
        rfl
    _ = _ := by rw [List.map_fst_zip h.length_units.le]

/-- **Nothing is skipped.** If x264 starts with a key frame, and the sender has counted no
incomplete recovery point, then the receiver decodes every unit, and the sender's dump file is
what it decodes. -/
theorem decodes_all (h : l.Lossless)
    (hcounter : l.produced.encoder.incompleteRecoveryPointCount = 0)
    (hfirst : ∀ unit ∈ l.produced.units.head?, unit.keyframe = true) :
    l.played.fed.map (fun call => (call.annexB, call.captureTimeNs)) = l.captured
      ∧ (l.options.dumpH264 = true →
        l.produced.bitstream = l.played.fed.flatMap MfH264Decoder.Call.annexB) := by
  have hrecovery := (Production.run_incomplete_eq_zero h.fresh h.production).mp hcounter
  have hall : l.captured.dropWhile (fun unit => !isRecoveryAccessUnit unit.1) = l.captured := by
    have hfst := h.captured_fst
    cases hcaptured : l.captured with
    | nil => rfl
    | cons first later =>
      refine List.dropWhile_cons_of_neg ?_
      rw [hcaptured, List.map_cons] at hfst
      obtain ⟨unit, units, hunits, hunit, _⟩ := List.map_eq_cons_iff.mp hfst.symm
      rw [← hunit, (hrecovery unit (hunits ▸ List.mem_cons_self)
        (hfirst unit (by rw [hunits]; rfl))).1]
      decide
  have hfed := h.fed_eq.trans hall
  refine ⟨hfed, fun hdump => ?_⟩
  have hannexB := congrArg (List.map Prod.fst) hfed
  rw [List.map_map, h.captured_fst] at hannexB
  rw [(Production.run_streamed h.production).dump, if_pos hdump, List.flatMap_def, List.flatMap_def,
    ← hannexB]
  rfl

theorem decodes_all_loopback :
    ∃ l : Loopback, l.sourceRounds = smallRounds
      ∧ l.played.fed.map (fun call => (call.annexB, call.captureTimeNs)) = l.captured
      ∧ (l.options.dumpH264 = true →
        l.produced.bitstream = l.played.fed.flatMap MfH264Decoder.Call.annexB) := by
  obtain ⟨l, hlossless, _, hrounds, _, hcounter, hfirst⟩ := exists_loopback
  exact ⟨l, hrounds, hlossless.decodes_all hcounter hfirst⟩

end Loopback.Lossless
end Ipmx.System
