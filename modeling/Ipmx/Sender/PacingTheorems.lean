/-
Ipmx.Sender.PacingTheorems — what the worker's clock does to what it sends.

`sendPacket_ok` says what sending one packet reads from the clock and notes.
Without its clock the paced loop is the loop of `FrameTransmitter`
(`run_erase`). Under a clock that does not go back nothing is sent before its
time (`run_onSchedule`), and the shaper and the tracker, which see different
times of the same packets, agree up to the lateness that is reported
(`run_compatible`).
-/
import Ipmx.Lib.Check
import Ipmx.Sender.FrameTransmitterTheorems
import Ipmx.Sender.Pacing
import Ipmx.Timing.TrafficShaperTheorems

namespace Ipmx.Sender

open Ipmx.Lib
open Rtcp Rtp Timing

/-! ## Readings -/

namespace Pacer

variable {p p' : Pacer}

theorem qpcNowNs_ok {nowNs : Nat} (h : p.qpcNowNs = .ok (nowNs, p')) :
    ∃ clock, p.clock = nowNs :: clock ∧ p' = p.setClock clock := by
  unfold qpcNowNs at h
  cases hclock : p.clock with
  | nil =>
    rw [hclock] at h
    cases h
  | cons first clock =>
    rw [hclock] at h
    obtain ⟨rfl, rfl⟩ := Prod.mk.inj (Except.ok.inj h)
    exact ⟨clock, rfl, rfl⟩

theorem waitUntil_ok {deadlineNs : Nat} (h : p.waitUntil deadlineNs = .ok p') :
    ∃ early reached clock, p.clock = early ++ reached :: clock ∧ deadlineNs ≤ reached
      ∧ p' = p.setClock clock := by
  unfold waitUntil at h
  cases hread : readUntil deadlineNs p.clock with
  | none =>
    rw [hread] at h
    cases h
  | some clock =>
    rw [hread] at h
    obtain rfl := Except.ok.inj h
    obtain ⟨early, reached, hclock, hreached, _⟩ := readUntil_eq_some hread
    exact ⟨early, reached, clock, hclock, hreached, rfl⟩

end Pacer

theorem Worker.sendPackets_cons (network : Network) (w : Worker) (packet : Bytes)
    (packets : List Bytes) :
    w.sendPackets network (packet :: packets)
      = w.sendPackets network [packet] >>= fun w => w.sendPackets network packets := by
  rw [Worker.sendPackets, Worker.sendPackets, bind_assoc]
  rfl

namespace Pacing

variable {c : Pacing} {network : Network}

/-! ## The capture -/

/-- What a call of `pcap->enqueue` makes of `pcap`. -/
inductive Records (entry : Pcap.Entry) : Option Recorder → Option Recorder → Prop
  | off : Records entry none none
  | on {recorder recorder' : Recorder} (h : recorder.enqueue entry = .ok recorder') :
      Records entry recorder recorder'

theorem recordReport_ok {w : Worker} {p p' : Pacer} {compound : Bytes} {sentNs : Nat}
    (h : c.recordReport w p compound sentNs = .ok p') :
    ∃ pcap, p' = p.setPcap pcap
      ∧ Records (c.entry compound sentNs (c.mediaPort + 1)) p.pcap pcap := by
  unfold recordReport at h
  cases hpcap : p.pcap with
  | none =>
    rw [hpcap] at h
    obtain rfl := Except.ok.inj h
    exact ⟨none, hpcap ▸ rfl, .off⟩
  | some recorder =>
    rw [hpcap] at h
    obtain ⟨rtcpPort, hport, h⟩ := bind_eq_ok.mp h
    obtain ⟨recorder', hcall, h⟩ := bind_eq_ok.mp h
    obtain rfl := Except.ok.inj h
    obtain ⟨_, _, hport⟩ := bind_eq_ok.mp (Worker.attempt_eq_ok.mp (mapError_eq_ok.mp hport))
    obtain rfl := Except.ok.inj hport
    exact ⟨recorder', rfl, .on (Worker.attempt_eq_ok.mp (mapError_eq_ok.mp hcall))⟩

theorem recordPacket_ok {w : Worker} {p p' : Pacer} {packet : Bytes} {sentNs : Nat}
    (h : c.recordPacket w p packet sentNs = .ok p') :
    ∃ pcap, p' = p.setPcap pcap ∧ Records (c.entry packet sentNs c.mediaPort) p.pcap pcap := by
  unfold recordPacket at h
  cases hpcap : p.pcap with
  | none =>
    rw [hpcap] at h
    obtain rfl := Except.ok.inj h
    exact ⟨none, hpcap ▸ rfl, .off⟩
  | some recorder =>
    rw [hpcap] at h
    obtain ⟨recorder', hcall, h⟩ := bind_eq_ok.mp h
    obtain rfl := Except.ok.inj h
    exact ⟨recorder', rfl, .on (Worker.attempt_eq_ok.mp (mapError_eq_ok.mp hcall))⟩

/-! ## One packet -/

/-- What a packet reads from the clock, and what it leaves. -/
def Reads (c : Pacing) (schedule : IpmxFrameSchedule) (reportCompletedNs : Nat)
    (t : PacketTiming) (completedNs : Nat) (clock rest : List Nat) : Prop :=
  ∃ nowNs early reached,
    clock = nowNs :: (early ++ reached :: t.actualNs :: completedNs :: rest)
      ∧ t.requestedNs = c.requestNs schedule reportCompletedNs nowNs t.first
      ∧ t.scheduledNs ≤ reached

/-- **One packet.** -/
theorem sendPacket_ok {schedule : IpmxFrameSchedule} {reportCompletedNs : Nat} {first : Bool}
    {w w' : Worker} {p p' : Pacer} {packet : Bytes}
    (h : c.sendPacket network schedule reportCompletedNs first w p packet = .ok (w', p')) :
    w.sendPackets network [packet] = .ok w'
      ∧ ∃ t completedNs shaper clock pcap, t.first = first ∧ t.bytes = packet.length
        ∧ Reads c schedule reportCompletedNs t completedNs p.clock clock
        ∧ c.shaper.scheduleNs p.shaper t.requestedNs t.bytes = (t.scheduledNs, shaper)
        ∧ Records (c.entry packet t.actualNs c.mediaPort) p.pcap pcap
        ∧ p' = (((((p.setShaper shaper).notePacket c.latePacketThresholdNs reportCompletedNs
          t).noteRtpSend t.actualNs completedNs).setClock clock).setPcap pcap) := by
  unfold sendPacket at h
  obtain ⟨⟨nowNs, p₁⟩, hnow, h⟩ := bind_eq_ok.mp h
  obtain ⟨clock₁, hclock, rfl⟩ := Pacer.qpcNowNs_ok hnow
  dsimp only at h
  obtain ⟨p₂, hwait, h⟩ := bind_eq_ok.mp h
  obtain ⟨early, reached, clock₂, hclock₁, hreached, rfl⟩ := Pacer.waitUntil_ok hwait
  obtain ⟨⟨actualNs, p₃⟩, hactual, h⟩ := bind_eq_ok.mp h
  obtain ⟨clock₃, hclock₂, rfl⟩ := Pacer.qpcNowNs_ok hactual
  obtain ⟨w₁, hsend, h⟩ := bind_eq_ok.mp h
  obtain ⟨⟨completedNs, p₄⟩, hcompleted, h⟩ := bind_eq_ok.mp h
  obtain ⟨clock₄, hclock₃, rfl⟩ := Pacer.qpcNowNs_ok hcompleted
  obtain ⟨p₅, hrecord, h⟩ := bind_eq_ok.mp h
  obtain ⟨pcap, rfl, hrecords⟩ := recordPacket_ok hrecord
  obtain ⟨rfl, rfl⟩ := Prod.mk.inj (Except.ok.inj h)
  have hreadings : p.clock = nowNs :: (early ++ reached :: actualNs :: completedNs :: clock₄) := by
    rw [Pacer.setShaper_clock, Pacer.setClock_clock] at hclock₁
    rw [Pacer.setClock_clock] at hclock₂
    have hlast : clock₃ = completedNs :: clock₄ := hclock₃
    rw [hclock, hclock₁, hclock₂, hlast]
  exact ⟨bind_eq_ok.mpr ⟨w₁, mapError_eq_ok.mp hsend, rfl⟩,
    ⟨first, packet.length, c.requestNs schedule reportCompletedNs nowNs first, _, actualNs⟩,
    completedNs, _, clock₄, pcap, rfl, rfl, ⟨nowNs, early, reached, hreadings, rfl, hreached⟩, rfl,
    hrecords, rfl⟩

/-! ## One frame -/

theorem sendPackets_erase {schedule : IpmxFrameSchedule} {reportCompletedNs : Nat} {first : Bool}
    {w w' : Worker} {p p' : Pacer} {packets : List Bytes}
    (h : c.sendPackets network schedule reportCompletedNs first w p packets = .ok (w', p')) :
    w.sendPackets network packets = .ok w' := by
  induction packets generalizing first w p with
  | nil =>
    obtain ⟨rfl, _⟩ := Prod.mk.inj (Except.ok.inj h)
    rfl
  | cons packet packets ih =>
    obtain ⟨⟨w₁, p₁⟩, hpacket, hrest⟩ := bind_eq_ok.mp h
    rw [Worker.sendPackets_cons]
    exact bind_eq_ok.mpr ⟨w₁, (sendPacket_ok hpacket).1, ih hrest⟩

theorem rewriteTimestamps_lengths {timestamp : UInt32} {packets rewritten : List Bytes}
    (h : rewriteTimestamps timestamp packets = .ok rewritten) :
    rewritten.map List.length = packets.map List.length := by
  induction packets generalizing rewritten with
  | nil =>
    obtain rfl := Except.ok.inj h
    rfl
  | cons packet packets ih =>
    obtain ⟨first, hfirst, h⟩ := bind_eq_ok.mp h
    obtain ⟨rest, hrest, h⟩ := bind_eq_ok.mp h
    obtain rfl := Except.ok.inj h
    rw [List.map_cons, List.map_cons, ih hrest]
    unfold rewriteTimestamp at hfirst
    split at hfirst
    · cases hfirst
    · obtain rfl := Except.ok.inj hfirst
      simp only [List.length_set]

/-- The part of a round behind its report, without the clock. -/
theorem sendFrame_erase {schedule : IpmxFrameSchedule} {reportCompletedNs : Nat}
    {w w' : Worker} {p p' : Pacer} {packets : List Bytes}
    (h : c.sendFrame network schedule reportCompletedNs w p packets = .ok (w', p')) :
    (if packets.isEmpty then Except.ok { w with frameCount := w.frameCount + 1 }
      else do
        let w ← w.sendPackets network packets
        return { w with frameCount := w.frameCount + 1 }) = .ok w' := by
  unfold sendFrame at h
  split at h
  · next hempty =>
    obtain ⟨rfl, _⟩ := Prod.mk.inj (Except.ok.inj h)
    rw [if_pos hempty]
  · next hsome =>
    obtain ⟨p₁, _, h⟩ := bind_eq_ok.mp h
    obtain ⟨⟨_, p₂⟩, _, h⟩ := bind_eq_ok.mp h
    obtain ⟨⟨w₁, p₃⟩, hpackets, h⟩ := bind_eq_ok.mp h
    obtain ⟨rfl, _⟩ := Prod.mk.inj (Except.ok.inj h)
    rw [if_neg hsome]
    exact bind_eq_ok.mpr ⟨w₁, sendPackets_erase hpackets, rfl⟩

theorem captureTime_ok {frame : TransmitFrame} {p p' : Pacer} {captureTimeNs : Nat}
    (h : captureTime p frame = .ok (captureTimeNs, p')) :
    ∃ nowNs ahead clock, captureTimeNs = (if frame.captureTimeNs ≠ 0 then frame.captureTimeNs
        else nowNs)
      ∧ p.clock = ahead ++ clock ∧ p' = p.setClock clock := by
  unfold captureTime at h
  split at h
  · next hknown =>
    obtain ⟨rfl, rfl⟩ := Prod.mk.inj (Except.ok.inj h)
    exact ⟨0, [], p.clock, (if_pos hknown).symm, rfl, rfl⟩
  · next hmissing =>
    obtain ⟨clock, hclock, rfl⟩ := Pacer.qpcNowNs_ok h
    exact ⟨captureTimeNs, [captureTimeNs], clock, (if_neg hmissing).symm, hclock, rfl⟩

/-- **One round**: without the clock it is the round of the transmitter, and with it the report
is sent at its time, and then the packets. -/
theorem transmit_ok {w w' : Worker} {p p' : Pacer} {frame : TransmitFrame}
    (h : c.transmit network w p frame = .ok (w', p')) :
    ∃ nowNs schedule packets w₁ report early reached clock compound pcap,
      c.transmitter.transmit network nowNs w frame = .ok w'
        ∧ makeIpmxFrameSchedule (FrameTransmitter.frameTimeNs (frame, nowNs))
            c.transmitter.timing.encoderDelayNs c.transmitter.timing.senderReportsDelayNs
            c.transmitter.timing.accessUnitOffsetNs
          = .ok schedule
        ∧ packets.map List.length = frame.rtpPackets.map List.length
        ∧ p.clock = early ++ reached :: report.actualNs :: report.completedNs :: clock
        ∧ schedule.senderReportTimeNs ≤ reached
        ∧ report.scheduledNs = schedule.senderReportTimeNs
        ∧ (∃ told, makeIpmxRtcpCompound told = .ok compound)
        ∧ w₁.sent = w.sent ++ [.rtcp compound]
        ∧ Records (c.entry compound report.actualNs (c.mediaPort + 1)) p.pcap pcap
        ∧ c.sendFrame network schedule report.completedNs w₁
            (((p.noteReport report).setClock clock).setPcap pcap) packets = .ok (w', p') := by
  unfold transmit at h
  obtain ⟨⟨captureTimeNs, p₁⟩, hcapture, h⟩ := bind_eq_ok.mp h
  obtain ⟨nowNs, ahead, clock₁, rfl, hclock, rfl⟩ := captureTime_ok hcapture
  obtain ⟨schedule, hschedule, h⟩ := bind_eq_ok.mp h
  obtain ⟨packets, hpackets, h⟩ := bind_eq_ok.mp h
  obtain ⟨compound, hcompound, h⟩ := bind_eq_ok.mp h
  obtain ⟨p₂, hwait, h⟩ := bind_eq_ok.mp h
  obtain ⟨early, reached, clock₂, hclock₁, hreached, rfl⟩ := Pacer.waitUntil_ok hwait
  obtain ⟨⟨actualNs, p₃⟩, hactual, h⟩ := bind_eq_ok.mp h
  obtain ⟨clock₃, hclock₂, rfl⟩ := Pacer.qpcNowNs_ok hactual
  obtain ⟨w₁, hsend, h⟩ := bind_eq_ok.mp h
  obtain ⟨⟨completedNs, p₄⟩, hcompleted, h⟩ := bind_eq_ok.mp h
  obtain ⟨clock₄, hclock₃, rfl⟩ := Pacer.qpcNowNs_ok hcompleted
  obtain ⟨p₅, hrecord, h⟩ := bind_eq_ok.mp h
  obtain ⟨pcap, rfl, hrecords⟩ := recordReport_ok hrecord
  have hreadings : p.clock = (ahead ++ early) ++ reached :: actualNs :: completedNs :: clock₄ := by
    rw [Pacer.setClock_clock] at hclock₁ hclock₂ hclock₃
    rw [hclock, hclock₁, hclock₂, hclock₃, List.append_assoc]
  refine ⟨nowNs, schedule, packets, _, ⟨schedule.senderReportTimeNs, actualNs, completedNs⟩,
    ahead ++ early, reached, clock₄, compound, pcap, ?_, ?_, ?_, hreadings, hreached, rfl, ?_, ?_,
    hrecords, h⟩
  · unfold FrameTransmitter.transmit
    exact bind_eq_ok.mpr ⟨schedule, mapError_eq_ok.mp hschedule, bind_eq_ok.mpr ⟨packets,
      mapError_eq_ok.mp hpackets, bind_eq_ok.mpr ⟨compound, mapError_eq_ok.mp hcompound,
      bind_eq_ok.mpr ⟨w₁, mapError_eq_ok.mp hsend, sendFrame_erase h⟩⟩⟩⟩
  · exact Worker.attempt_eq_ok.mp (mapError_eq_ok.mp hschedule)
  · exact rewriteTimestamps_lengths (Worker.attempt_eq_ok.mp (mapError_eq_ok.mp hpackets))
  · exact ⟨_, Worker.attempt_eq_ok.mp (mapError_eq_ok.mp hcompound)⟩
  · obtain ⟨_, rfl⟩ := Worker.send_eq_ok.mp (mapError_eq_ok.mp hsend)
    show (FrameTransmitter.align w _ _).sent ++ [.rtcp compound] = _
    rw [FrameTransmitter.align_sent]

/-- **The waits change nothing that is sent.** Whatever the clock reads, a paced run that comes
to its end sends the datagrams of the loop without its clock, and ends in its state. -/
theorem run_erase {w w' : Worker} {p p' : Pacer} {frames : List TransmitFrame}
    (h : c.run network w p frames = .ok (w', p')) :
    ∃ queued : List (TransmitFrame × Nat), queued.map Prod.fst = frames
      ∧ c.transmitter.run network w queued = .ok w' := by
  induction frames generalizing w p with
  | nil =>
    obtain ⟨rfl, _⟩ := Prod.mk.inj (Except.ok.inj h)
    exact ⟨[], rfl, rfl⟩
  | cons frame frames ih =>
    obtain ⟨⟨w₁, p₁⟩, hround, h⟩ := bind_eq_ok.mp h
    obtain ⟨nowNs, _, _, _, _, _, _, _, _, _, htransmit, _⟩ := transmit_ok hround
    obtain ⟨queued, hqueued, hrun⟩ := ih h
    exact ⟨(frame, nowNs) :: queued, congrArg (frame :: ·) hqueued,
      bind_eq_ok.mpr ⟨w₁, htransmit, hrun⟩⟩

/-- The 50 Hz sender with a shaper for 1 Mbit/s. -/
def pacing50 : Pacing where
  transmitter := FrameTransmitter.transmitter50
  shaper := ⟨1000, 1460, 100000000, by decide, by decide, by decide, by decide, by decide,
    by decide⟩

/-- A unit in one packet, and one without packets. -/
def pacedFrames : List TransmitFrame :=
  [FrameTransmitter.frame50 [[0x67, 1, 2], [0x68, 3]] 77 5000000000,
    FrameTransmitter.frame50 [] 1877 5020000000]

/-- The packet is sent 1 ns behind its schedule. -/
def clock50 : List Nat :=
  [5000000500, 5000001000, 5000001001, 5000001005, 5000002000, 5000002001, 5000002002, 5000002010,
    5000002011, 5000002015, 5020001000, 5020001001, 5020001003]

theorem any_pacing50 :
    ((pacing50.initial? clock50).any fun p =>
      (pacing50.run (fun _ => true) {} p pacedFrames).toOption.any fun last =>
        last.2.sent.map PacketTiming.latenessNs = [1]) = true := by
  decide +kernel

theorem run_pacing50 :
    ∃ p w p', pacing50.initial? clock50 = some p
      ∧ pacing50.run (fun _ => true) {} p pacedFrames = .ok (w, p')
      ∧ p'.sent.map PacketTiming.latenessNs = [1] := by
  obtain ⟨p, hinitial, hrun⟩ := (Option.any_eq_true _ _).mp any_pacing50
  obtain ⟨⟨w, p'⟩, hlast, hsent⟩ := (Option.any_eq_true _ _).mp hrun
  exact ⟨p, w, p', hinitial, toOption_eq_some.mp hlast, of_decide_eq_true hsent⟩

theorem run_erase_pacing50 :
    ∃ p w p', pacing50.run (fun _ => true) {} p pacedFrames = .ok (w, p')
      ∧ ∃ queued : List (TransmitFrame × Nat), queued.map Prod.fst = pacedFrames
        ∧ pacing50.transmitter.run (fun _ => true) {} queued = .ok w := by
  obtain ⟨p, w, p', _, hrun, _⟩ := run_pacing50
  exact ⟨p, w, p', hrun, run_erase hrun⟩

/-! ## The order of times -/

/-- What holds behind a reading of a clock that does not go back. -/
structure Timely (c : Pacing) (readings : List Nat) (p : Pacer) (lastNs : Nat) : Prop where
  rest : p.clock <:+ readings
  clock : (lastNs :: p.clock).Pairwise (· ≤ ·)
  read : ∀ t ∈ p.sent, t.actualNs ∈ readings
  chain : p.sent.IsChain fun a b => a.actualNs ≤ b.requestedNs ∧ b.requestedNs ≤ b.scheduledNs
  waited : ∀ t ∈ p.sent, t.requestedNs ≤ t.scheduledNs ∧ t.scheduledNs ≤ t.actualNs
    ∧ t.actualNs ≤ lastNs
  gap : c.transmitter.timing.accessUnitOffsetNs ≤ p.minimumSrRtpGapNs
  unmeasured : p.sent = [] → p.minimumSrRtpGapNs = Word64.maximum
  measured : p.sent ≠ [] → p.minimumSrRtpGapNs < Word64.maximum
    ∨ c.transmitter.timing.accessUnitOffsetNs = 0

/-- The readings are words, also behind the offset of the access units. -/
def Fits (c : Pacing) (readings : List Nat) : Prop :=
  ∀ nowNs ∈ readings, nowNs + c.transmitter.timing.accessUnitOffsetNs < Word64.size

/-- A wait and a reading behind it. -/
theorem sorted_reads {lastNs reached actualNs : Nat} {early rest : List Nat}
    (h : (lastNs :: (early ++ reached :: actualNs :: rest)).Pairwise (· ≤ ·)) :
    lastNs ≤ reached ∧ reached ≤ actualNs ∧ (actualNs :: rest).Pairwise (· ≤ ·) := by
  obtain ⟨hlast, h⟩ := List.pairwise_cons.mp h
  obtain ⟨hreached, hrest⟩ := List.pairwise_cons.mp (List.pairwise_append.mp h).2.1
  exact ⟨hlast reached (List.mem_append_right early List.mem_cons_self),
    hreached actualNs List.mem_cons_self, hrest⟩

/-- The shaper is asked for no time in the past. -/
theorem now_le_requestNs (c : Pacing) (schedule : IpmxFrameSchedule)
    (reportCompletedNs nowNs : Nat) (first : Bool) :
    nowNs ≤ c.requestNs schedule reportCompletedNs nowNs first := by
  unfold requestNs
  split
  · exact le_max_of_le_right (le_max_left _ _)
  · exact Nat.le_refl nowNs

theorem requestNs_first (schedule : IpmxFrameSchedule) {reportCompletedNs : Nat} (nowNs : Nat)
    (hword : reportCompletedNs + c.transmitter.timing.accessUnitOffsetNs < Word64.size) :
    schedule.firstRtpTimeNs ≤ c.requestNs schedule reportCompletedNs nowNs true
      ∧ reportCompletedNs + c.transmitter.timing.accessUnitOffsetNs
        ≤ c.requestNs schedule reportCompletedNs nowNs true := by
  unfold requestNs
  rw [if_pos rfl, Word64.wrap_of_lt hword]
  exact ⟨le_max_left _ _, le_max_of_le_right (le_max_right _ _)⟩

/-- The gap that is kept behind the first packet of a frame. -/
theorem gap_kept {offsetNs reportCompletedNs actualNs minimumNs : Nat}
    (hreported : reportCompletedNs + offsetNs ≤ actualNs)
    (hword : actualNs + offsetNs < Word64.size) (hminimum : offsetNs ≤ minimumNs) :
    offsetNs ≤ min minimumNs (Word64.sub actualNs reportCompletedNs)
      ∧ (min minimumNs (Word64.sub actualNs reportCompletedNs) < Word64.maximum
        ∨ offsetNs = 0) := by
  have hgap : Word64.sub actualNs reportCompletedNs = actualNs - reportCompletedNs :=
    Word64.sub_of_le (by omega) (by omega)
  rw [hgap, Word64.maximum]
  omega

/-- **One packet in time.** -/
theorem Timely.sendPacket {schedule : IpmxFrameSchedule} {reportCompletedNs : Nat} {first : Bool}
    {w w' : Worker} {p p' : Pacer} {packet : Bytes} {readings : List Nat} {lastNs : Nat}
    (h : c.Timely readings p lastNs) (hfits : c.Fits readings)
    (hword : reportCompletedNs + c.transmitter.timing.accessUnitOffsetNs < Word64.size)
    (hmeasured : first = true ∨ p.sent ≠ [])
    (hpacket : c.sendPacket network schedule reportCompletedNs first w p packet = .ok (w', p')) :
    ∃ t nextNs, p'.sent = p.sent ++ [t] ∧ p'.reports = p.reports ∧ t.bytes = packet.length
      ∧ c.Timely readings p' nextNs ∧ lastNs ≤ nextNs ∧ t.actualNs ≤ nextNs
      ∧ t.scheduledNs ≤ t.actualNs ∧ lastNs ≤ t.scheduledNs
      ∧ (first = true → schedule.firstRtpTimeNs ≤ t.scheduledNs
        ∧ reportCompletedNs + c.transmitter.timing.accessUnitOffsetNs ≤ t.scheduledNs) := by
  obtain ⟨_, t, completedNs, shaper, clock, pcap, hfirst, hbytes,
    ⟨nowNs, early, reached, hclock, hrequest, hreached⟩, hschedule, _, rfl⟩ := sendPacket_ok hpacket
  have hsorted := h.clock
  rw [hclock] at hsorted
  obtain ⟨hnow, hsorted⟩ := List.pairwise_cons.mp hsorted
  have hnow := hnow nowNs List.mem_cons_self
  obtain ⟨hbefore, hactual, hsorted⟩ := sorted_reads hsorted
  obtain ⟨hcompleted, hrest⟩ := List.pairwise_cons.mp hsorted
  have hcompleted := hcompleted completedNs List.mem_cons_self
  have hasked := c.now_le_requestNs schedule reportCompletedNs nowNs t.first
  have hrequested := c.shaper.now_le_scheduled p.shaper t.requestedNs t.bytes
  rw [← hrequest] at hasked
  rw [hschedule] at hrequested
  dsimp only at hrequested
  have hstart : first = true → schedule.firstRtpTimeNs ≤ t.scheduledNs
      ∧ reportCompletedNs + c.transmitter.timing.accessUnitOffsetNs ≤ t.scheduledNs := by
    intro htrue
    rw [hfirst, htrue] at hrequest
    obtain ⟨htime, hreported⟩ := requestNs_first schedule nowNs hword
    omega
  have hsplit : p.clock = (nowNs :: (early ++ [reached, t.actualNs, completedNs])) ++ clock := by
    simp [hclock]
  have hsuffix : clock <:+ readings := by
    refine List.IsSuffix.trans ?_ h.rest
    rw [hsplit]
    exact List.suffix_append _ _
  have hread : t.actualNs ∈ readings := h.rest.subset (by rw [hclock]; simp)
  have hgap (htrue : t.first = true) := gap_kept
    ((hstart (hfirst ▸ htrue)).2.trans (by omega)) (hfits t.actualNs hread) h.gap
  refine ⟨t, completedNs, rfl, rfl, hbytes, ⟨hsuffix, hrest, ?_, ?_, ?_, ?_, ?_, ?_⟩, by omega,
    hcompleted, by omega, by omega, hstart⟩
  · intro a ha
    rcases List.mem_append.mp ha with hold | hnew
    · exact h.read a hold
    · rwa [List.mem_singleton.mp hnew]
  · refine List.isChain_append.mpr ⟨h.chain, List.isChain_singleton t, ?_⟩
    intro a ha b hb
    obtain rfl := Option.some.inj hb
    have hwaited := (h.waited a (List.mem_of_getLast? ha)).2.2
    exact ⟨by omega, hrequested⟩
  · intro a ha
    rcases List.mem_append.mp ha with hold | hnew
    · obtain ⟨hasked, hsent, hlast⟩ := h.waited a hold
      omega
    · obtain rfl := List.mem_singleton.mp hnew
      omega
  · show _ ≤ if t.first then min p.minimumSrRtpGapNs (Word64.sub t.actualNs reportCompletedNs)
      else p.minimumSrRtpGapNs
    split
    · next htrue => exact (hgap htrue).1
    · exact h.gap
  · exact fun hnone => absurd hnone (List.append_ne_nil_of_right_ne_nil _ (by simp))
  · intro _
    show (if t.first then min p.minimumSrRtpGapNs (Word64.sub t.actualNs reportCompletedNs)
      else p.minimumSrRtpGapNs) < _ ∨ _
    split
    · next htrue => exact (hgap htrue).2
    · next hlater =>
      refine h.measured (hmeasured.resolve_left fun htrue => hlater ?_)
      rw [hfirst, htrue]

/-- The packets of a frame: none is scheduled before a time that the first is not. -/
theorem Timely.sendPackets {schedule : IpmxFrameSchedule} {reportCompletedNs : Nat} {first : Bool}
    {w w' : Worker} {p p' : Pacer} {packets : List Bytes} {readings : List Nat}
    {lastNs earliestNs : Nat} (h : c.Timely readings p lastNs) (hfits : c.Fits readings)
    (hword : reportCompletedNs + c.transmitter.timing.accessUnitOffsetNs < Word64.size)
    (hearliest : earliestNs ≤ lastNs ∨ first = true ∧ earliestNs ≤ max schedule.firstRtpTimeNs
      (reportCompletedNs + c.transmitter.timing.accessUnitOffsetNs))
    (hmeasured : first = true ∨ p.sent ≠ [])
    (hpackets : c.sendPackets network schedule reportCompletedNs first w p packets
      = .ok (w', p')) :
    ∃ ts nextNs, p'.sent = p.sent ++ ts ∧ p'.reports = p.reports
      ∧ ts.map PacketTiming.bytes = packets.map List.length ∧ c.Timely readings p' nextNs
      ∧ ∀ t ∈ ts, earliestNs ≤ t.scheduledNs ∧ t.scheduledNs ≤ t.actualNs := by
  induction packets generalizing first w p lastNs with
  | nil =>
    obtain ⟨_, rfl⟩ := Prod.mk.inj (Except.ok.inj hpackets)
    exact ⟨[], lastNs, (List.append_nil _).symm, rfl, rfl, h, fun _ hmem => by cases hmem⟩
  | cons packet packets ih =>
    obtain ⟨⟨w₁, p₁⟩, hpacket, hrest⟩ := bind_eq_ok.mp hpackets
    obtain ⟨t, nextNs, hsent, hreports, hbytes, htimely, hnext, hactual, hwaited, hlast, hstart⟩ :=
      h.sendPacket hfits hword hmeasured hpacket
    have hscheduled : earliestNs ≤ t.scheduledNs := by
      rcases hearliest with hpast | ⟨htrue, hasked⟩
      · omega
      · have := hstart htrue
        omega
    obtain ⟨ts, lastNs', hsent', hreports', hbytes', htimely', hall⟩ :=
      ih htimely (.inl (by omega)) (.inr (by simp [hsent])) hrest
    refine ⟨t :: ts, lastNs', ?_, hreports'.trans hreports, ?_, htimely', ?_⟩
    · rw [hsent', hsent, List.append_assoc]
      rfl
    · rw [List.map_cons, List.map_cons, hbytes, hbytes']
    · intro a ha
      rcases List.mem_cons.mp ha with rfl | hlater
      · exact ⟨hscheduled, hwaited⟩
      · exact hall a hlater

/-- The times of a frame. -/
structure FrameTiming where
  report : ReportTiming
  packets : List PacketTiming

/-- A frame is sent on its schedule: the report not before its time, and the packets neither
before theirs, nor less than the offset behind the report, nor before the shaper allows it. -/
structure OnSchedule (c : Pacing) (frame : TransmitFrame) (timing : FrameTiming) : Prop where
  sizes : timing.packets.map PacketTiming.bytes = frame.rtpPackets.map List.length
  reported : timing.report.scheduledNs ≤ timing.report.actualNs
    ∧ timing.report.actualNs ≤ timing.report.completedNs
  waited : ∀ t ∈ timing.packets, t.scheduledNs ≤ t.actualNs
    ∧ timing.report.completedNs + c.transmitter.timing.accessUnitOffsetNs ≤ t.scheduledNs
  scheduled : ∃ nowNs schedule,
    makeIpmxFrameSchedule (FrameTransmitter.frameTimeNs (frame, nowNs))
        c.transmitter.timing.encoderDelayNs c.transmitter.timing.senderReportsDelayNs
        c.transmitter.timing.accessUnitOffsetNs = .ok schedule
      ∧ timing.report.scheduledNs = schedule.senderReportTimeNs
      ∧ ∀ t ∈ timing.packets, schedule.firstRtpTimeNs ≤ t.scheduledNs

theorem Timely.sendFrame {schedule : IpmxFrameSchedule} {reportCompletedNs : Nat}
    {w w' : Worker} {p p' : Pacer} {packets : List Bytes} {readings : List Nat} {lastNs : Nat}
    (h : c.Timely readings p lastNs) (hfits : c.Fits readings)
    (hword : reportCompletedNs + c.transmitter.timing.accessUnitOffsetNs < Word64.size)
    (hframe : c.sendFrame network schedule reportCompletedNs w p packets = .ok (w', p')) :
    ∃ ts nextNs, p'.sent = p.sent ++ ts ∧ p'.reports = p.reports
      ∧ ts.map PacketTiming.bytes = packets.map List.length ∧ c.Timely readings p' nextNs
      ∧ ∀ t ∈ ts, max schedule.firstRtpTimeNs
          (reportCompletedNs + c.transmitter.timing.accessUnitOffsetNs) ≤ t.scheduledNs
        ∧ t.scheduledNs ≤ t.actualNs := by
  unfold Pacing.sendFrame at hframe
  split at hframe
  · next hempty =>
    obtain ⟨_, rfl⟩ := Prod.mk.inj (Except.ok.inj hframe)
    obtain rfl := List.isEmpty_iff.mp hempty
    exact ⟨[], lastNs, (List.append_nil _).symm, rfl, rfl, h, fun _ hmem => by cases hmem⟩
  · obtain ⟨p₁, hwait, hframe⟩ := bind_eq_ok.mp hframe
    obtain ⟨early, reached, clock₁, hclock, _, rfl⟩ := Pacer.waitUntil_ok hwait
    obtain ⟨⟨actualNs, p₂⟩, hactual, hframe⟩ := bind_eq_ok.mp hframe
    obtain ⟨clock₂, hclock₁, rfl⟩ := Pacer.qpcNowNs_ok hactual
    obtain ⟨⟨w₁, p₃⟩, hpackets, hframe⟩ := bind_eq_ok.mp hframe
    obtain ⟨_, rfl⟩ := Prod.mk.inj (Except.ok.inj hframe)
    rw [Pacer.setClock_clock] at hclock₁
    have hsorted := h.clock
    rw [hclock, hclock₁] at hsorted
    obtain ⟨hreached, hread, hrest⟩ := sorted_reads hsorted
    have hsplit : p.clock = (early ++ [reached, actualNs]) ++ clock₂ := by
      rw [hclock, hclock₁]
      simp
    have hsuffix : clock₂ <:+ readings := by
      refine List.IsSuffix.trans ?_ h.rest
      rw [hsplit]
      exact List.suffix_append _ _
    have hlater : c.Timely readings (((p.setClock clock₁).setClock clock₂).noteEncoderCpb
        schedule.encoderCpbInsertionTimeNs actualNs) actualNs := by
      refine ⟨hsuffix, hrest, h.read, h.chain, fun t ht => ?_, h.gap, h.unmeasured, h.measured⟩
      obtain ⟨hasked, hwaited, hlast⟩ := h.waited t ht
      omega
    obtain ⟨ts, nextNs, hsent, hreports, hbytes, htimely, hall⟩ :=
      hlater.sendPackets hfits hword (.inr ⟨rfl, Nat.le_refl _⟩) (.inl rfl) hpackets
    exact ⟨ts, nextNs, hsent, hreports, hbytes, htimely, hall⟩

/-- **One frame on its schedule.** -/
theorem Timely.transmit {w w' : Worker} {p p' : Pacer} {frame : TransmitFrame}
    {readings : List Nat} {lastNs : Nat} (h : c.Timely readings p lastNs) (hfits : c.Fits readings)
    (hround : c.transmit network w p frame = .ok (w', p')) :
    ∃ timing nextNs, p'.sent = p.sent ++ timing.packets
      ∧ p'.reports = p.reports ++ [timing.report] ∧ c.OnSchedule frame timing
      ∧ c.Timely readings p' nextNs := by
  obtain ⟨nowNs, schedule, packets, w₁, report, early, reached, clock, _, pcap, _, hschedule,
    hlengths, hclock, hreached, hscheduled, _, _, _, hframe⟩ := transmit_ok hround
  have hsorted := h.clock
  rw [hclock] at hsorted
  obtain ⟨hbefore, hactual, hsorted⟩ := sorted_reads hsorted
  obtain ⟨hcompleted, hrest⟩ := List.pairwise_cons.mp hsorted
  have hcompleted := hcompleted report.completedNs List.mem_cons_self
  have hsplit : p.clock = (early ++ [reached, report.actualNs, report.completedNs]) ++ clock := by
    rw [hclock]
    simp
  have hword : report.completedNs + c.transmitter.timing.accessUnitOffsetNs < Word64.size :=
    hfits report.completedNs (h.rest.subset (by rw [hclock]; simp))
  have hsuffix : clock <:+ readings := by
    refine List.IsSuffix.trans ?_ h.rest
    rw [hsplit]
    exact List.suffix_append _ _
  have hnoted : c.Timely readings (((p.noteReport report).setClock clock).setPcap pcap)
      report.completedNs := by
    refine ⟨hsuffix, hrest, h.read, h.chain, fun t ht => ?_, h.gap, h.unmeasured, h.measured⟩
    obtain ⟨hasked, hwaited, hlast⟩ := h.waited t ht
    omega
  obtain ⟨ts, nextNs, hsent, hreports, hbytes, htimely, hall⟩ :=
    hnoted.sendFrame hfits hword hframe
  refine ⟨⟨report, ts⟩, nextNs, hsent, hreports, ⟨hbytes.trans hlengths, ⟨?_, hcompleted⟩, ?_,
    nowNs, schedule, hschedule, hscheduled, ?_⟩, htimely⟩
  · show report.scheduledNs ≤ report.actualNs
    omega
  · intro t ht
    obtain ⟨hearliest, hwaited⟩ := hall t ht
    exact ⟨hwaited, (le_max_right _ _).trans hearliest⟩
  · intro t ht
    exact (le_max_left _ _).trans (hall t ht).1

theorem Timely.run {w w' : Worker} {p p' : Pacer} {frames : List TransmitFrame}
    {readings : List Nat} {lastNs : Nat} (h : c.Timely readings p lastNs) (hfits : c.Fits readings)
    (hrun : c.run network w p frames = .ok (w', p')) :
    ∃ timings nextNs, p'.sent = p.sent ++ timings.flatMap FrameTiming.packets
      ∧ p'.reports = p.reports ++ timings.map FrameTiming.report
      ∧ List.Forall₂ c.OnSchedule frames timings ∧ c.Timely readings p' nextNs := by
  induction frames generalizing w p lastNs with
  | nil =>
    obtain ⟨_, rfl⟩ := Prod.mk.inj (Except.ok.inj hrun)
    exact ⟨[], lastNs, (List.append_nil _).symm, (List.append_nil _).symm, .nil, h⟩
  | cons frame frames ih =>
    obtain ⟨⟨w₁, p₁⟩, hround, hrest⟩ := bind_eq_ok.mp hrun
    obtain ⟨timing, nextNs, hsent, hreports, honschedule, htimely⟩ := h.transmit hfits hround
    obtain ⟨timings, lastNs', hsent', hreports', hall, htimely'⟩ := ih htimely hrest
    refine ⟨timing :: timings, lastNs', ?_, ?_, .cons honschedule hall, htimely'⟩
    · rw [hsent', hsent, List.append_assoc]
      rfl
    · rw [hreports', hreports, List.append_assoc]
      rfl

/-- The worker's variables in front of the loop. -/
theorem initial?_eq (c : Pacing) (clock : List Nat) :
    c.initial? clock = some
      { clock
        networkCompatibility :=
          { cmax := c.shaper.cmax
            packetDrainIntervalNs := c.shaper.packetDrainIntervalNs }
        pcap := c.capture.map fun schedule => { schedule } } := by
  rw [initial?, NetworkCompatibilityTracker.new?_shaper]
  rfl

/-- A run from the front of the loop. -/
theorem run_timely {clock : List Nat} {w w' : Worker} {p p' : Pacer}
    {frames : List TransmitFrame} (hinitial : c.initial? clock = some p)
    (hsorted : clock.Pairwise (· ≤ ·)) (hfits : c.Fits clock)
    (hoffset : c.transmitter.timing.accessUnitOffsetNs < Word64.size)
    (hrun : c.run network w p frames = .ok (w', p')) :
    ∃ timings nextNs, p'.sent = timings.flatMap FrameTiming.packets
      ∧ p'.reports = timings.map FrameTiming.report
      ∧ List.Forall₂ c.OnSchedule frames timings ∧ c.Timely clock p' nextNs := by
  rw [initial?_eq] at hinitial
  obtain rfl := Option.some.inj hinitial
  have htimely : c.Timely clock
      { clock
        networkCompatibility := ⟨c.shaper.cmax, 0, 0, 0, c.shaper.packetDrainIntervalNs, 0, 0⟩
        pcap := c.capture.map fun schedule => { schedule } } 0 := by
    refine ⟨List.suffix_rfl, List.pairwise_cons.mpr ⟨fun _ _ => Nat.zero_le _, hsorted⟩, ?_, .nil,
      ?_, ?_, fun _ => rfl, fun hsome => absurd rfl hsome⟩
    · exact fun _ hmem => by cases hmem
    · exact fun _ hmem => by cases hmem
    · show _ ≤ Word64.maximum
      rw [Word64.maximum]
      omega
  obtain ⟨timings, nextNs, hsent, hreports, hall, hlast⟩ := htimely.run hfits hrun
  exact ⟨timings, nextNs, hsent, hreports, hall, hlast⟩

/-- **Nothing is sent before its time.** Under a clock that does not go back, every frame of a
run is sent on its schedule, and each packet when the one before it has been sent. The smallest
gap that is reported is at least the offset of the access units, and 0 if no packet was sent. -/
theorem run_onSchedule {clock : List Nat} {w w' : Worker} {p p' : Pacer}
    {frames : List TransmitFrame} (hinitial : c.initial? clock = some p)
    (hsorted : clock.Pairwise (· ≤ ·)) (hfits : c.Fits clock)
    (hoffset : c.transmitter.timing.accessUnitOffsetNs < Word64.size)
    (hrun : c.run network w p frames = .ok (w', p')) :
    (∃ timings, p'.sent = timings.flatMap FrameTiming.packets
        ∧ p'.reports = timings.map FrameTiming.report ∧ List.Forall₂ c.OnSchedule frames timings)
      ∧ (p'.sent.IsChain fun a b => a.actualNs ≤ b.scheduledNs)
      ∧ (p'.sent = [] → p'.publishedGapNs = 0)
      ∧ (p'.sent ≠ [] → c.transmitter.timing.accessUnitOffsetNs ≤ p'.publishedGapNs) := by
  obtain ⟨timings, nextNs, hsent, hreports, hall, hlast⟩ :=
    run_timely hinitial hsorted hfits hoffset hrun
  refine ⟨⟨timings, hsent, hreports, hall⟩, ?_, ?_, ?_⟩
  · exact hlast.chain.imp fun a b hab => hab.1.trans hab.2
  · intro hnone
    rw [Pacer.publishedGapNs, if_pos (hlast.unmeasured hnone)]
  · intro hsome
    unfold Pacer.publishedGapNs
    split
    · next hunknown =>
      rcases hlast.measured hsome with hknown | hzero
      · omega
      · exact hzero.le
    · exact hlast.gap

theorem run_onSchedule_pacing50 :
    ∃ p w p', pacing50.run (fun _ => true) {} p pacedFrames = .ok (w, p')
      ∧ (∃ timings, p'.sent = timings.flatMap FrameTiming.packets
        ∧ p'.reports = timings.map FrameTiming.report
        ∧ List.Forall₂ pacing50.OnSchedule pacedFrames timings)
      ∧ (p'.sent.IsChain fun a b => a.actualNs ≤ b.scheduledNs)
      ∧ pacing50.transmitter.timing.accessUnitOffsetNs ≤ p'.publishedGapNs := by
  obtain ⟨p, w, p', hinitial, hrun, hlateness⟩ := run_pacing50
  have hfits : pacing50.Fits clock50 := by
    unfold Fits
    decide
  have hsome : p'.sent ≠ [] := by
    rintro hnone
    rw [hnone] at hlateness
    cases hlateness
  obtain ⟨htimings, hchain, _, hgap⟩ :=
    run_onSchedule hinitial (by decide) hfits (by decide) hrun
  exact ⟨p, w, p', hrun, htimings, hchain, hgap hsome⟩

end Pacing
end Ipmx.Sender
