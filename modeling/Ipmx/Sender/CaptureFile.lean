/-
Ipmx.Sender.CaptureFile — what is in the capture file of a session.

Behind each send the worker passes the datagram to its `AsyncPcapRtpWriter`, with
the reading in front of that send; the thread of that writer passes it on to the
`PcapRtpWriter`. `run_captured` follows a session through both, up to a reader
of the file.
-/
import Ipmx.Pcap.AsyncPcapRtpWriterTheorems
import Ipmx.Pcap.PcapRtpWriterTheorems
import Ipmx.Rtcp.LayoutTheorems
import Ipmx.Sender.PacingTheorems
import Ipmx.Sender.SentStream

namespace Ipmx.Sender

open Ipmx.Lib
open Pcap Rtcp Rtp

/-! ## What is passed to the writer -/

def Datagram.bytes : Datagram → Bytes
  | .rtcp bytes => bytes
  | .rtp bytes => bytes

/-- The port of the socket a datagram is sent on. -/
def Datagram.port (mediaPort : UInt16) : Datagram → UInt16
  | .rtcp _ => mediaPort + 1
  | .rtp _ => mediaPort

/-- The readings in front of the sends, in the order of the sends. -/
def sendReadings : List Datagram → List ReportTiming → List PacketTiming → List Nat
  | .rtcp _ :: sent, report :: reports, packets =>
    report.actualNs :: sendReadings sent reports packets
  | .rtp _ :: sent, reports, packet :: packets =>
    packet.actualNs :: sendReadings sent reports packets
  | _, _, _ => []

namespace Pacing

/-- The wall times of the sends. -/
def sendTimes (c : Pacing) (w : Worker) (p : Pacer) : List Nat :=
  (sendReadings w.sent p.reports p.sent).map c.transmitter.toUnixNs

/-- What the worker has passed to `pcap->enqueue` when it has sent these datagrams. -/
def captureEntries (c : Pacing) (w : Worker) (p : Pacer) : List Entry :=
  (w.sent.zip (sendReadings w.sent p.reports p.sent)).map fun sent =>
    c.entry sent.1.bytes sent.2 (sent.1.port c.mediaPort)

end Pacing

/-- The call of `write` for an entry. -/
def writeCall (entry : Entry) : PcapRtpWriter.WriteCall where
  payload := entry.payload
  unixTimeNs := entry.unixTimeNs
  ports := some (entry.sourcePort, entry.destinationPort)

/-! ## Every send has its reading -/

/-- As many readings of each kind as datagrams. -/
structure Matched (sent : List Datagram) (reports : List ReportTiming)
    (packets : List PacketTiming) : Prop where
  rtp : packets.length = (rtpDatagrams sent).length
  total : reports.length + packets.length = sent.length

/-- Behind matched sends, readings are told apart like the sends. -/
theorem sendReadings_append {sent : List Datagram} {reports : List ReportTiming}
    {packets : List PacketTiming} (h : Matched sent reports packets) (sent' : List Datagram)
    (reports' : List ReportTiming) (packets' : List PacketTiming) :
    (sendReadings sent reports packets).length = sent.length
      ∧ sendReadings (sent ++ sent') (reports ++ reports') (packets ++ packets')
        = sendReadings sent reports packets ++ sendReadings sent' reports' packets' := by
  induction sent generalizing reports packets with
  | nil =>
    have htotal : reports.length + packets.length = 0 := h.total
    obtain rfl := List.length_eq_zero_iff.mp (Nat.eq_zero_of_add_eq_zero htotal).1
    obtain rfl := List.length_eq_zero_iff.mp (Nat.eq_zero_of_add_eq_zero htotal).2
    exact ⟨rfl, rfl⟩
  | cons datagram sent ih =>
    have hle : (rtpDatagrams sent).length ≤ sent.length := List.length_filterMap_le _ _
    have htotal := h.total
    rw [List.length_cons] at htotal
    cases datagram with
    | rtcp bytes =>
      have hpackets : packets.length = (rtpDatagrams sent).length := h.rtp
      cases reports with
      | nil =>
        rw [List.length_nil] at htotal
        omega
      | cons report reports =>
        rw [List.length_cons] at htotal
        have hrest : Matched sent reports packets := ⟨hpackets, by omega⟩
        obtain ⟨hlength, happend⟩ := ih hrest
        exact ⟨congrArg (· + 1) hlength, congrArg (report.actualNs :: ·) happend⟩
    | rtp bytes =>
      have hpackets : packets.length = (rtpDatagrams sent).length + 1 := h.rtp
      cases packets with
      | nil => cases hpackets
      | cons packet packets =>
        rw [List.length_cons] at htotal hpackets
        have hrest : Matched sent reports packets := ⟨by omega, by omega⟩
        obtain ⟨hlength, happend⟩ := ih hrest
        exact ⟨congrArg (· + 1) hlength, congrArg (packet.actualNs :: ·) happend⟩

/-- Every datagram has its reading, the file can hold it, and the writer was passed it. -/
structure Pacing.Timed (c : Pacing) (w : Worker) (p : Pacer) : Prop where
  matched : Matched w.sent p.reports p.sent
  small : ∀ datagram ∈ w.sent, datagram.bytes.length ≤ 65493
  recorded : ∀ recorder ∈ p.pcap, Recorder.Recording recorder.writer (c.captureEntries w p)

theorem small_append {sent : List Datagram} (h : ∀ datagram ∈ sent, datagram.bytes.length ≤ 65493)
    {datagram : Datagram} (hsize : datagram.bytes.length ≤ 65493) :
    ∀ other ∈ sent ++ [datagram], other.bytes.length ≤ 65493 := by
  intro other hother
  rcases List.mem_append.mp hother with hmem | hmem
  · exact h other hmem
  · obtain rfl := List.mem_singleton.mp hmem
    exact hsize

/-- No compound comes near the limit. -/
theorem length_makeIpmxRtcpCompound_le {report : IpmxRtcpSenderReport} {compound : Bytes}
    (h : makeIpmxRtcpCompound report = .ok compound) : compound.length ≤ 65493 := by
  obtain ⟨hadmissible, rfl⟩ := makeIpmxRtcpCompound_eq_ok_iff.mp h
  have hblock := length_h264Block_le hadmissible
  have hcname := hadmissible.cname
  rw [compoundBytes, senderReport, sdes, List.length_append, length_wordFrame rfl,
    length_wordFrame rfl, List.length_append, length_senderInfo, length_infoBlock hadmissible,
    length_sdesBody]
  omega

namespace Pacing

variable {c : Pacing} {network : Network} {w w' : Worker} {p p' : Pacer}

/-- A call of `pcap->enqueue` behind a send. -/
theorem recorded_snoc {entry : Entry} {entries : List Entry} {pcap pcap' : Option Recorder}
    (hrecords : Records entry pcap pcap')
    (h : ∀ recorder ∈ pcap, Recorder.Recording recorder.writer entries) :
    ∀ recorder ∈ pcap', Recorder.Recording recorder.writer (entries ++ [entry]) := by
  intro recorder hmem
  cases hrecords with
  | off => cases hmem
  | on hcall =>
    obtain rfl := Option.some.inj hmem
    exact (h _ rfl).enqueue hcall

theorem timed_packet {packet : Bytes} {t : PacketTiming} (h : c.Timed w p)
    (hsize : packet.length ≤ 65493) (hsent : w'.sent = w.sent ++ [.rtp packet])
    (hreports : p'.reports = p.reports) (hpackets : p'.sent = p.sent ++ [t])
    (hrecords : Records (c.entry packet t.actualNs c.mediaPort) p.pcap p'.pcap) :
    c.Timed w' p' := by
  obtain ⟨hlength, happend⟩ := sendReadings_append h.matched [.rtp packet] [] [t]
  rw [List.append_nil] at happend
  refine ⟨⟨?_, ?_⟩, ?_, ?_⟩
  · rw [hpackets, hsent, rtpDatagrams_append, List.length_append, List.length_append,
      h.matched.rtp]
    rfl
  · rw [hreports, hpackets, hsent, List.length_append, List.length_append, ← h.matched.total]
    rfl
  · rw [hsent]
    exact small_append h.small hsize
  · rw [captureEntries, hsent, hreports, hpackets, happend, List.zip_append hlength.symm,
      List.map_append]
    exact recorded_snoc hrecords h.recorded

theorem timed_report {compound : Bytes} {t : ReportTiming} (h : c.Timed w p)
    (hsize : compound.length ≤ 65493) (hsent : w'.sent = w.sent ++ [.rtcp compound])
    (hreports : p'.reports = p.reports ++ [t]) (hpackets : p'.sent = p.sent)
    (hrecords : Records (c.entry compound t.actualNs (c.mediaPort + 1)) p.pcap p'.pcap) :
    c.Timed w' p' := by
  obtain ⟨hlength, happend⟩ := sendReadings_append h.matched [.rtcp compound] [t] []
  rw [List.append_nil] at happend
  refine ⟨⟨?_, ?_⟩, ?_, ?_⟩
  · rw [hpackets, hsent, rtpDatagrams_append]
    exact h.matched.rtp.trans (List.append_nil _ ▸ rfl)
  · rw [hreports, hpackets, hsent, List.length_append, List.length_append, ← h.matched.total,
      List.length_singleton, List.length_singleton]
    omega
  · rw [hsent]
    exact small_append h.small hsize
  · rw [captureEntries, hsent, hreports, hpackets, happend, List.zip_append hlength.symm,
      List.map_append]
    exact recorded_snoc hrecords h.recorded

theorem timed_sendPacket {schedule : IpmxFrameSchedule} {reportCompletedNs : Nat} {first : Bool}
    {packet : Bytes} (h : c.Timed w p) (hsize : packet.length ≤ 65493)
    (hpacket : c.sendPacket network schedule reportCompletedNs first w p packet = .ok (w', p')) :
    c.Timed w' p' := by
  obtain ⟨hsend, t, completedNs, shaper, clock, pcap, _, _, _, _, hrecords, rfl⟩ :=
    sendPacket_ok hpacket
  exact timed_packet h hsize (Worker.sendPackets_sent hsend).1 rfl rfl hrecords

theorem timed_sendPackets {schedule : IpmxFrameSchedule} {reportCompletedNs : Nat} {first : Bool}
    {packets : List Bytes} (h : c.Timed w p) (hsize : ∀ packet ∈ packets, packet.length ≤ 65493)
    (hpackets : c.sendPackets network schedule reportCompletedNs first w p packets
      = .ok (w', p')) : c.Timed w' p' := by
  induction packets generalizing first w p with
  | nil =>
    obtain ⟨rfl, rfl⟩ := Prod.mk.inj (Except.ok.inj hpackets)
    exact h
  | cons packet packets ih =>
    obtain ⟨⟨w₁, p₁⟩, hpacket, hrest⟩ := bind_eq_ok.mp hpackets
    exact ih (timed_sendPacket h (hsize packet List.mem_cons_self) hpacket)
      (fun other hother => hsize other (List.mem_cons_of_mem _ hother)) hrest

theorem timed_sendFrame {schedule : IpmxFrameSchedule} {reportCompletedNs : Nat}
    {packets : List Bytes} (h : c.Timed w p) (hsize : ∀ packet ∈ packets, packet.length ≤ 65493)
    (hframe : c.sendFrame network schedule reportCompletedNs w p packets = .ok (w', p')) :
    c.Timed w' p' := by
  unfold sendFrame at hframe
  split at hframe
  · obtain ⟨rfl, rfl⟩ := Prod.mk.inj (Except.ok.inj hframe)
    exact ⟨h.matched, h.small, h.recorded⟩
  · obtain ⟨p₁, hwait, hframe⟩ := bind_eq_ok.mp hframe
    obtain ⟨_, _, clock, _, _, rfl⟩ := Pacer.waitUntil_ok hwait
    obtain ⟨⟨actualNs, p₂⟩, hactual, hframe⟩ := bind_eq_ok.mp hframe
    obtain ⟨rest, _, rfl⟩ := Pacer.qpcNowNs_ok hactual
    obtain ⟨⟨w₁, p₃⟩, hpackets, hframe⟩ := bind_eq_ok.mp hframe
    obtain ⟨rfl, rfl⟩ := Prod.mk.inj (Except.ok.inj hframe)
    have hinserted : c.Timed w (((p.setClock clock).setClock rest).noteEncoderCpb
        schedule.encoderCpbInsertionTimeNs actualNs) := ⟨h.matched, h.small, h.recorded⟩
    have hsent := timed_sendPackets hinserted hsize hpackets
    exact ⟨hsent.matched, hsent.small, hsent.recorded⟩

theorem timed_transmit {frame : TransmitFrame} (h : c.Timed w p)
    (hsize : ∀ packet ∈ frame.rtpPackets, packet.length ≤ 65493)
    (hround : c.transmit network w p frame = .ok (w', p')) : c.Timed w' p' := by
  obtain ⟨_, _, packets, w₁, report, _, _, clock, compound, pcap, _, _, hlengths, _, _, _,
    ⟨told, hcompound⟩, hsent, hrecords, hframe⟩ := transmit_ok hround
  have hpackets : ∀ packet ∈ packets, packet.length ≤ 65493 := by
    intro packet hpacket
    have hlength : packet.length ∈ frame.rtpPackets.map List.length :=
      hlengths ▸ List.mem_map_of_mem hpacket
    obtain ⟨original, horiginal, heq⟩ := List.mem_map.mp hlength
    exact heq ▸ hsize original horiginal
  have hreported : c.Timed w₁ (((p.noteReport report).setClock clock).setPcap pcap) :=
    timed_report h (length_makeIpmxRtcpCompound_le hcompound) hsent rfl rfl hrecords
  exact timed_sendFrame hreported hpackets hframe

/-- **Every datagram of a run has its reading, and was passed on with it.** -/
theorem timed_run {frames : List TransmitFrame} (h : c.Timed w p)
    (hsize : ∀ frame ∈ frames, ∀ packet ∈ frame.rtpPackets, packet.length ≤ 65493)
    (hrun : c.run network w p frames = .ok (w', p')) : c.Timed w' p' := by
  induction frames generalizing w p with
  | nil =>
    obtain ⟨rfl, rfl⟩ := Prod.mk.inj (Except.ok.inj hrun)
    exact h
  | cons frame frames ih =>
    obtain ⟨⟨w₁, p₁⟩, hround, hrest⟩ := bind_eq_ok.mp hrun
    exact ih (timed_transmit h (hsize frame List.mem_cons_self) hround)
      (fun other hother => hsize other (List.mem_cons_of_mem _ hother)) hrest

theorem timed_initial {clock : List Nat} (hinitial : c.initial? clock = some p) :
    c.Timed {} p := by
  obtain ⟨_, _, rfl⟩ := Option.map_eq_some_iff.mp hinitial
  refine ⟨⟨rfl, rfl⟩, nofun, ?_⟩
  intro recorder hrecorder
  obtain ⟨schedule, _, rfl⟩ := Option.map_eq_some_iff.mp hrecorder
  exact Recorder.recording_initial

theorem closePcap_ok {recorder closed : Recorder} (h : closePcap w recorder = .ok closed) :
    recorder.close = some (.ok closed) := by
  unfold closePcap at h
  split at h
  · cases h
  · next result hclose => rw [hclose, Worker.attempt_eq_ok.mp (mapError_eq_ok.mp h)]

theorem destroyPcap_ok {recorder destroyed : Recorder} (h : destroyPcap recorder = .ok destroyed) :
    recorder.destroy = some destroyed := by
  unfold destroyPcap at h
  split at h
  · cases h
  · next hdestroy => rw [hdestroy, Except.ok.inj h]

/-- **The capture of a worker that has ended**: its writer was passed the entries, and its
`close` has returned. -/
theorem finish_ok {entries : List Entry} {recorder : Recorder}
    (h : ∀ recorder ∈ p.pcap, Recorder.Recording recorder.writer entries)
    (hfinish : finish w p = .ok p') (hpcap : p'.pcap = some recorder) :
    (∃ events, AsyncPcapRtpWriter.run events = some recorder.writer)
      ∧ recorder.writer.passed = entries ∧ recorder.writer.destroyed = true
      ∧ .ok () ∈ recorder.writer.closes := by
  unfold finish at hfinish
  cases hopen : p.pcap with
  | none =>
    rw [hopen] at hfinish
    obtain rfl := Except.ok.inj hfinish
    rw [hopen] at hpcap
    cases hpcap
  | some opened =>
    rw [hopen] at hfinish
    obtain ⟨closed, hclose, hfinish⟩ := bind_eq_ok.mp hfinish
    obtain ⟨destroyed, hdestroy, hfinish⟩ := bind_eq_ok.mp hfinish
    obtain rfl := Except.ok.inj hfinish
    obtain rfl := Option.some.inj hpcap
    obtain ⟨hrecording, hclosed⟩ := (h opened hopen).close (closePcap_ok hclose)
    obtain ⟨hreached, hpassed, hgone, hcloses⟩ := hrecording.destroy (destroyPcap_ok hdestroy)
    exact ⟨hreached, hpassed, hgone, hcloses _ hclosed⟩

theorem length_sendTimes (h : c.Timed w p) : (c.sendTimes w p).length = w.sent.length := by
  rw [sendTimes, List.length_map, (sendReadings_append h.matched [] [] []).1]

theorem map_captureEntries {β : Type} (h : c.Timed w p) {f : Entry → β} {g : Datagram → β}
    (hfst : ∀ datagram sentNs, f (c.entry datagram.bytes sentNs (datagram.port c.mediaPort))
      = g datagram) :
    (c.captureEntries w p).map f = w.sent.map g := by
  have hlength := (sendReadings_append h.matched [] [] []).1
  calc (c.captureEntries w p).map f
      = ((w.sent.zip (sendReadings w.sent p.reports p.sent)).map Prod.fst).map g := by
        rw [captureEntries, List.map_map, List.map_map]
        exact List.map_congr_left fun sent _ => hfst sent.1 sent.2
    _ = w.sent.map g := by rw [List.map_fst_zip hlength.ge]

theorem small_captureEntries (h : c.Timed w p) :
    ∀ entry ∈ c.captureEntries w p, entry.payload.length ≤ 65493 := by
  intro entry hentry
  obtain ⟨sent, hsent, rfl⟩ := List.mem_map.mp hentry
  exact h.small sent.1 (List.of_mem_zip hsent).1

/-- The times are not cut by their 64-bit field. -/
theorem unixTimes_captureEntries (h : c.Timed w p)
    (htime : ∀ unixNs ∈ c.sendTimes w p, unixNs / 1000000000 < 2 ^ 32) :
    (c.captureEntries w p).map (·.unixTimeNs.toNat) = c.sendTimes w p := by
  have hlength := (sendReadings_append h.matched [] [] []).1
  calc (c.captureEntries w p).map (·.unixTimeNs.toNat)
      = ((w.sent.zip (sendReadings w.sent p.reports p.sent)).map Prod.snd).map
          c.transmitter.toUnixNs := by
        rw [captureEntries, List.map_map, List.map_map]
        refine List.map_congr_left fun sent hsent => ?_
        have hseconds := htime (c.transmitter.toUnixNs sent.2)
          (List.mem_map_of_mem (List.of_mem_zip hsent).2)
        have hword : UInt64.size = 2 ^ 64 := rfl
        exact UInt64.toNat_ofNat_of_lt' (by omega)
    _ = c.sendTimes w p := by rw [List.map_snd_zip hlength.le, sendTimes]

end Pacing

/-! ## The file -/

variable {c : Pacing} {network : Network} {clock : List Nat} {frames : List TransmitFrame}
variable {w : Worker} {p p' q : Pacer} {recorder : Recorder}

/-- **The capture file of a session.** If the worker's `close` of its writer returns, and the file
takes what is left in the stream when the writer is destroyed, a reader of the file finds what
the worker has sent: every datagram once and in order, RTP on the media port and the reports on
the port behind it, each at the wall time of its send in microseconds. The datagrams have to fit
the snap length and their times the 32-bit seconds of the file, and there are fewer than
`2 ^ 64`. -/
theorem run_captured (hinitial : c.initial? clock = some p)
    (hrun : c.run network {} p frames = .ok (w, p'))
    (hfinish : Pacing.finish w p' = .ok q) (hpcap : q.pcap = some recorder)
    (hwritten : recorder.writer.output.buffer = [])
    (hsize : ∀ frame ∈ frames, ∀ packet ∈ frame.rtpPackets, packet.length ≤ 65493)
    (hfew : w.sent.length < 2 ^ 64)
    (htime : ∀ unixNs ∈ c.sendTimes w p', unixNs / 1000000000 < 2 ^ 32)
    {sourceAddress group : String} {dscp : UInt8} {s : PcapRtpWriter}
    (hconstruct : PcapRtpWriter.construct sourceAddress group c.mediaPort c.mediaPort dscp
      = .ok s) :
    ∃ file datagrams, s.callAll (recorder.writer.output.file.map writeCall) = .ok file
      ∧ DecodesTo file.output datagrams
      ∧ datagrams.map (·.payload) = w.sent.map Datagram.bytes
      ∧ datagrams.map (·.destinationPort) = w.sent.map (fun sent => (sent.port c.mediaPort).toNat)
      ∧ datagrams.map (fun datagram => datagram.seconds * 1000000 + datagram.microseconds)
        = (c.sendTimes w p').map (· / 1000) := by
  have htimed := Pacing.timed_run (Pacing.timed_initial hinitial) hsize hrun
  obtain ⟨⟨events, hwriter⟩, hpassed, _, hclosed⟩ :=
    Pacing.finish_ok htimed.recorded hfinish hpcap
  have hsound := AsyncPcapRtpWriter.sound_run hwriter
  have hlength : recorder.writer.passed.length = w.sent.length := by
    rw [hpassed, ← List.length_map Entry.payload, Pacing.map_captureEntries htimed fun _ _ => rfl,
      List.length_map]
  have hrefused : recorder.writer.refused.length < 2 ^ 64 := by
    have hle := hsound.length_passed
    omega
  have hfile : recorder.writer.output.file = c.captureEntries w p' := by
    have hstreamed := hsound.streamed
    rw [OutputStream.written, hwritten, List.append_nil] at hstreamed
    rw [hstreamed, hsound.finished_eq_passed hclosed hrefused, hpassed]
  have hcallSize : ∀ call ∈ (c.captureEntries w p').map writeCall,
      call.payload.length ≤ 65493 := by
    intro call hcall
    obtain ⟨entry, hentry, rfl⟩ := List.mem_map.mp hcall
    exact Pacing.small_captureEntries htimed entry hentry
  have htimes := Pacing.unixTimes_captureEntries htimed htime
  have hcallTime : ∀ call ∈ (c.captureEntries w p').map writeCall,
      call.unixTimeNs.toNat / 1000000000 < 2 ^ 32 := by
    intro call hcall
    obtain ⟨entry, hentry, rfl⟩ := List.mem_map.mp hcall
    have hmem : entry.unixTimeNs.toNat ∈ c.sendTimes w p' :=
      htimes ▸ List.mem_map_of_mem hentry
    exact htime _ hmem
  obtain ⟨file, hcalls, hdecodes⟩ := PcapRtpWriter.exists_file hconstruct hcallSize hcallTime
  refine ⟨file, _, hfile ▸ hcalls, hdecodes, ?_, ?_, ?_⟩
  · rw [PcapRtpWriter.map_datagramOf fun _ _ => rfl, List.map_map]
    exact Pacing.map_captureEntries htimed fun _ _ => rfl
  · rw [PcapRtpWriter.map_datagramOf fun _ _ => rfl, List.map_map]
    exact Pacing.map_captureEntries htimed fun _ _ => rfl
  · have hmicroseconds : ∀ index call, (s.datagramOf index call).seconds * 1000000
        + (s.datagramOf index call).microseconds = call.unixTimeNs.toNat / 1000 := by
      intro index call
      simp only [PcapRtpWriter.datagramOf]
      omega
    rw [PcapRtpWriter.map_datagramOf hmicroseconds, List.map_map, ← htimes, List.map_map]
    rfl

/-- The 50 Hz session with a capture. The thread takes the first report while the packet of the
first frame is sent, and the rest when the writer is closed; the second record waits in the
stream for its destructor. -/
def capturing50 : Pacing :=
  { Pacing.pacing50 with
    capture := some
      { steps := [[], [.pop, .write none 1], [], [],
          [.pop, .write none 0, .pop, .write none 1, .pop]]
        lastTaken := 8192 } }

theorem any_capturing50 :
    ((capturing50.initial? Pacing.clock50).any fun p =>
      (capturing50.run (fun _ => true) {} p Pacing.pacedFrames).toOption.any fun last =>
        (Pacing.finish last.1 last.2).toOption.any fun ended =>
          ended.pcap.any fun recorder =>
            recorder.writer.output.buffer = []
              && (capturing50.sendTimes last.1 last.2).all (· / 1000000000 < 2 ^ 32)
              && last.1.sent.length = 3) = true := by
  decide +kernel

theorem run_captured_capturing50 :
    ∃ p w p', capturing50.run (fun _ => true) {} p Pacing.pacedFrames = .ok (w, p')
      ∧ w.sent.length = 3
      ∧ ∃ (file : PcapRtpWriter) (datagrams : List Pcap.Datagram), DecodesTo file.output datagrams
        ∧ datagrams.map (·.payload) = w.sent.map Datagram.bytes := by
  obtain ⟨p, hinitial, hany⟩ := (Option.any_eq_true _ _).mp any_capturing50
  obtain ⟨⟨w, p'⟩, hlast, hany⟩ := (Option.any_eq_true _ _).mp hany
  obtain ⟨q, hended, hany⟩ := (Option.any_eq_true _ _).mp hany
  obtain ⟨recorder, hpcap, hchecked⟩ := (Option.any_eq_true _ _).mp hany
  simp only [Bool.and_eq_true, List.all_eq_true, decide_eq_true_eq] at hchecked
  obtain ⟨⟨hwritten, htime⟩, hcount⟩ := hchecked
  have hrun := toOption_eq_some.mp hlast
  have hsize : ∀ frame ∈ Pacing.pacedFrames, ∀ packet ∈ frame.rtpPackets,
      packet.length ≤ 65493 := by
    decide +kernel
  obtain ⟨s, hs⟩ := exists_of_isSome
    (show (PcapRtpWriter.construct "192.168.27.2" "239.255.42.42" 5004 5004 36).toOption.isSome
      = true by decide)
  obtain ⟨file, datagrams, _, hdecodes, hpayloads, _⟩ := run_captured hinitial hrun
    (toOption_eq_some.mp hended) hpcap hwritten hsize (by omega) htime hs
  exact ⟨p, w, p', hrun, hcount, file, datagrams, hdecodes, hpayloads⟩

end Ipmx.Sender
