/-
Ipmx.Sender.SentStream — the RTP datagrams of the worker are a packetizer's.

The worker rewrites the timestamp of every queued packet. On the packets of a
`packetize` call this is the call with the other timestamp
(`rewriteTimestamps_packetize`), and all frames of a run are shifted by the same
alignment. So what a run sends is the stream of the same units under shifted
timestamps (`run_sentRtp`), and what is known of packetized streams holds of it.
-/
import Ipmx.Sender.FrameTransmitterTheorems

namespace Ipmx.Sender

open H264 Rtp
open Ipmx.Lib

/-! ## Rewriting -/

theorem rewriteTimestamps_makePackets (p : RtpPacketizer) (timestamp rewritten : UInt32)
    (captureTimeNs : UInt64) (plans : List PacketPlan) :
    rewriteTimestamps rewritten (p.makePackets timestamp captureTimeNs plans).1
      = .ok (p.makePackets rewritten captureTimeNs plans).1 := by
  induction plans generalizing p with
  | nil => rfl
  | cons plan plans ih =>
    have hfirst := rewriteTimestamp_packetBytes rewritten
      { payloadType := p.payloadType, marker := plan.marker, sequence := p.sequence, timestamp
        ssrc := p.ssrc, captureTimeNs } plan.payload
    rw [RtpPacketizer.makePackets, RtpPacketizer.makePackets, RtpPacketizer.makePacket]
    dsimp only
    rw [rewriteTimestamps, hfirst, Lib.ok_bind, ih, Lib.ok_bind]
    rfl

/-- The rewritten packets of a call are those of the call with the other timestamp. -/
theorem rewriteTimestamps_packetize (p : RtpPacketizer) (nals : List NalUnit)
    (timestamp rewritten : UInt32) (captureTimeNs : UInt64) :
    rewriteTimestamps rewritten (p.packetize nals timestamp captureTimeNs).1
      = .ok (p.packetize nals rewritten captureTimeNs).1 :=
  rewriteTimestamps_makePackets p timestamp rewritten captureTimeNs _

/-- The timestamp does not change the packetizer. -/
theorem packetize_snd_timestamp (p : RtpPacketizer) (nals : List NalUnit)
    (timestamp other : UInt32) (captureTimeNs : UInt64) :
    (p.packetize nals timestamp captureTimeNs).2 = (p.packetize nals other captureTimeNs).2 := by
  rw [RtpPacketizer.packetize, RtpPacketizer.packetize, p.makePackets_snd, p.makePackets_snd]

/-! ## What is sent -/

/-- The RTP datagrams among those sent. -/
def rtpDatagrams (sent : List Datagram) : List Bytes :=
  sent.filterMap fun
    | .rtp bytes => some bytes
    | .rtcp _ => none

theorem rtpDatagrams_append (sent later : List Datagram) :
    rtpDatagrams (sent ++ later) = rtpDatagrams sent ++ rtpDatagrams later :=
  List.filterMap_append

theorem rtpDatagrams_map_rtp (packets : List Bytes) :
    rtpDatagrams (packets.map .rtp) = packets := by
  unfold rtpDatagrams
  rw [List.filterMap_map]
  exact List.filterMap_some

theorem Worker.sendPackets_sent {network : Network} {packets : List Bytes} {w w' : Worker}
    (h : w.sendPackets network packets = .ok w') :
    w'.sent = w.sent ++ packets.map .rtp ∧ w'.rtpClockAligned = w.rtpClockAligned
      ∧ w'.rtpClockAlignment = w.rtpClockAlignment := by
  induction packets generalizing w with
  | nil =>
    obtain rfl := Except.ok.inj h
    simp
  | cons packet packets ih =>
    rw [Worker.sendPackets] at h
    obtain ⟨w₁, hsend, h⟩ := bind_eq_ok.mp h
    obtain ⟨_, rfl⟩ := Worker.send_eq_ok.mp hsend
    obtain ⟨hsent, hclock⟩ := ih h
    exact ⟨by rw [hsent, List.append_assoc]; rfl, hclock⟩

namespace FrameTransmitter

variable {c : FrameTransmitter} {network : Network}

/-- **One round** on the packets of a `packetize` call. -/
theorem transmit_sentRtp {w w' : Worker} {queued : TransmitFrame × Nat} {p : RtpPacketizer}
    {nals : List NalUnit} {timestamp : UInt32} {captureTimeNs : UInt64}
    (hpackets : queued.1.rtpPackets = (p.packetize nals timestamp captureTimeNs).1)
    (h : c.transmit network queued.2 w queued.1 = .ok w') :
    rtpDatagrams w'.sent = rtpDatagrams w.sent
        ++ (p.packetize nals (queued.1.rtpTimestamp + (c.aligned w queued).rtpClockAlignment)
          captureTimeNs).1
      ∧ w'.rtpClockAligned = true
      ∧ w'.rtpClockAlignment = (c.aligned w queued).rtpClockAlignment := by
  rw [transmit_eq] at h
  obtain ⟨_, _, h⟩ := bind_eq_ok.mp h
  obtain ⟨packets, hrewrite, h⟩ := bind_eq_ok.mp h
  obtain ⟨compound, _, h⟩ := bind_eq_ok.mp h
  rw [Worker.attempt_eq_ok, hpackets, rewriteTimestamps_packetize] at hrewrite
  obtain rfl := Except.ok.inj hrewrite
  obtain ⟨w₁, hsend, h⟩ := bind_eq_ok.mp h
  obtain ⟨_, rfl⟩ := Worker.send_eq_ok.mp hsend
  obtain ⟨w₂, hsends, h⟩ := bind_eq_ok.mp h
  obtain rfl := Except.ok.inj h
  obtain ⟨hsent, haligned, halignment⟩ := Worker.sendPackets_sent hsends
  refine ⟨?_, ?_, halignment⟩
  · dsimp only at hsent ⊢
    rw [hsent, rtpDatagrams_append, rtpDatagrams_append, rtpDatagrams_map_rtp, aligned, align_sent]
    simp [rtpDatagrams]
  · rw [haligned]
    exact align_rtpClockAligned _ _ _

/-! ## Runs -/

/-- A unit under a shifted timestamp. -/
def shiftUnit (alignment : UInt32) (unit : AccessUnit) : AccessUnit :=
  { unit with timestamp := unit.timestamp + alignment }

theorem run_sentRtp_from {w w' : Worker} {frames : List (TransmitFrame × Nat)} {p : RtpPacketizer}
    {units : List AccessUnit} {alignment : UInt32}
    (hpackets : frames.map (fun queued => queued.1.rtpPackets) = p.packetizeAll units)
    (htimestamps : frames.map (fun queued => queued.1.rtpTimestamp)
      = units.map AccessUnit.timestamp)
    (halign : ∀ queued ∈ frames.head?, (c.aligned w queued).rtpClockAlignment = alignment)
    (h : c.run network w frames = .ok w') :
    rtpDatagrams w'.sent = rtpDatagrams w.sent
      ++ (p.packetizeAll (units.map (shiftUnit alignment))).flatten := by
  induction units generalizing w p frames with
  | nil =>
    obtain rfl := List.map_eq_nil_iff.mp htimestamps
    obtain rfl := Except.ok.inj h
    simp [RtpPacketizer.packetizeAll]
  | cons unit units ih =>
    cases frames with
    | nil => cases htimestamps
    | cons queued frames =>
      obtain ⟨hfirst, hpackets⟩ := List.cons.inj hpackets
      obtain ⟨htimestamp, htimestamps⟩ := List.cons.inj htimestamps
      obtain ⟨w₁, hround, h⟩ := bind_eq_ok.mp h
      obtain ⟨hsent, haligned, halignment⟩ := transmit_sentRtp hfirst hround
      rw [halign queued rfl] at hsent halignment
      have hlater : rtpDatagrams w'.sent = rtpDatagrams w₁.sent
          ++ ((p.packetize unit.nals unit.timestamp unit.captureTimeNs).2.packetizeAll
            (units.map (shiftUnit alignment))).flatten :=
        ih hpackets htimestamps
          (fun next _ => by rw [aligned, align_of_aligned haligned, halignment]) h
      have hunit : queued.1.rtpTimestamp = unit.timestamp := htimestamp
      rw [hlater, hsent, hunit, List.append_assoc,
        packetize_snd_timestamp p unit.nals unit.timestamp (unit.timestamp + alignment)]
      rfl

/-- All frames of a run are shifted by the alignment of the first. -/
theorem run_shifted {w : Worker} {frames : List (TransmitFrame × Nat)} {p : RtpPacketizer}
    {units : List AccessUnit}
    (hpackets : frames.map (fun queued => queued.1.rtpPackets) = p.packetizeAll units)
    (htimestamps : frames.map (fun queued => queued.1.rtpTimestamp)
      = units.map AccessUnit.timestamp)
    (h : c.run network {} frames = .ok w) :
    ∃ alignment, rtpDatagrams w.sent
        = (p.packetizeAll (units.map (shiftUnit alignment))).flatten
      ∧ ∀ queued ∈ frames.head?, alignment = (c.aligned {} queued).rtpClockAlignment := by
  refine ⟨((frames.head?.map fun queued => (c.aligned {} queued).rtpClockAlignment).getD 0), ?_, ?_⟩
  · refine run_sentRtp_from hpackets htimestamps ?_ h
    intro queued hqueued
    rw [hqueued]
    rfl
  · intro queued hqueued
    rw [hqueued]
    rfl

/-- **The sent stream.** A run whose frames carry the packets of one packetizer sends the stream
of their units, all under timestamps shifted by one alignment. -/
theorem run_sentRtp {w : Worker} {frames : List (TransmitFrame × Nat)} {p : RtpPacketizer}
    {units : List AccessUnit}
    (hpackets : frames.map (fun queued => queued.1.rtpPackets) = p.packetizeAll units)
    (htimestamps : frames.map (fun queued => queued.1.rtpTimestamp)
      = units.map AccessUnit.timestamp)
    (h : c.run network {} frames = .ok w) :
    ∃ alignment, rtpDatagrams w.sent
        = (p.packetizeAll (units.map (shiftUnit alignment))).flatten
      ∧ ∀ queued ∈ frames.head?,
        alignment = clockTimestamp (c.wallNs queued) - queued.1.rtpTimestamp :=
  run_shifted hpackets htimestamps h

/-- The two frames with packets of the 50 Hz sender. -/
theorem run_sentRtp_frames50 :
    let units : List AccessUnit :=
      [⟨[[0x67, 1, 2], [0x68, 3]], 77, 5000000100, by decide⟩,
        ⟨[], 1877, 5020000100, by decide⟩]
    ∃ w, transmitter50.run (fun _ => true) {} (frames50.take 2) = .ok w
      ∧ ∃ alignment, rtpDatagrams w.sent
        = (packetizer50.packetizeAll (units.map (shiftUnit alignment))).flatten
      ∧ ∀ queued ∈ (frames50.take 2).head?,
        alignment = clockTimestamp (transmitter50.wallNs queued) - queued.1.rtpTimestamp := by
  intro units
  obtain ⟨w, hrun⟩ : ∃ w, transmitter50.run (fun _ => true) {} (frames50.take 2) = .ok w :=
    exists_of_isSome (by decide +kernel)
  have hpackets : (frames50.take 2).map (fun queued => queued.1.rtpPackets)
      = packetizer50.packetizeAll units := rfl
  exact ⟨w, hrun, run_sentRtp hpackets rfl hrun⟩

end FrameTransmitter
end Ipmx.Sender
