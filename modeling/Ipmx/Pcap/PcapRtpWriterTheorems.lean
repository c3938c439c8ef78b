/-
Ipmx.Pcap.PcapRtpWriterTheorems — a written file is read back.

Every header is read by `Reads`, field by field, and a record is read as the
datagram of its call (`reads_record`). The writer declares a snapshot length of
65535 bytes but checks the payload against the limit of IPv4, so the one rule
a file can break is that length: `decodesTo_iff` says for which payloads.
-/
import Ipmx.Lib.Check
import Ipmx.Pcap.Capture
import Ipmx.Pcap.PcapRtpWriter

namespace Ipmx.Pcap

open H264
open Ipmx.Lib

namespace PcapRtpWriter

/-! ## The headers -/

theorem reads_udp {size : Nat} {sourcePort destinationPort : UInt16} {payload : Bytes}
    (hsize : payload.length = size) (hfits : size + 8 < 65536) :
    Reads (readUdp (size + 8)) (udpHeader size sourcePort destinationPort ++ payload)
      (sourcePort.toNat, destinationPort.toNat, payload) := by
  have hchunk : udpHeader size sourcePort destinationPort ++ payload
      = BigEndian.encode 2 sourcePort.toNat ++ (BigEndian.encode 2 destinationPort.toNat
        ++ (BigEndian.encode 2 (size + 8) ++ (BigEndian.encode 2 0 ++ payload))) := by
    simp [udpHeader, udpBytes, BigEndian.encode]
  rw [hchunk]
  unfold readUdp
  refine (reads_big sourcePort.toNat_lt).bind ?_
  refine (reads_big destinationPort.toNat_lt).bind ?_
  refine (reads_big (by omega)).bind (Reads.guard_bind ⟨rfl, by omega⟩ ?_)
  refine (reads_big (by decide)).bind (Reads.guard_bind rfl ?_)
  exact (reads_take (by omega)).bind_pure rfl

theorem encode_byte (byte : UInt8) : BigEndian.encode 1 byte.toNat = [byte] := by
  simp [BigEndian.encode]

theorem length_ipHeader (s : PcapRtpWriter) (size : Nat) (checksum : UInt16) :
    (s.ipHeader size checksum).length = 20 := by
  simp [ipHeader, Ipv4Address.bytes]

/-- The checksum field adds its value to the sum of the words. -/
theorem wordSum_ipHeader (s : PcapRtpWriter) (size : Nat) (checksum : UInt16) :
    OnesComplement.wordSum (s.ipHeader size checksum)
      = OnesComplement.wordSum (s.ipHeader size 0) + checksum.toNat := by
  have hsplit : ∀ value : UInt16, OnesComplement.wordSum (s.ipHeader size value)
      = OnesComplement.wordSum (([0x45, s.dscp <<< 2] : Bytes)
          ++ BigEndian.encode 2 (ipBytes + udpBytes + size)
          ++ BigEndian.encode 2 s.identification.toNat ++ BigEndian.encode 2 0x4000 ++ [64, 17])
        + value.toNat + OnesComplement.wordSum (s.source.bytes ++ s.destination.bytes) := by
    intro value
    rw [← OnesComplement.wordSum_encode value.toNat_lt, ← OnesComplement.wordSum_append (by simp),
      ← OnesComplement.wordSum_append (by simp), ← List.append_assoc]
    rfl
  rw [hsplit, hsplit]
  simp only [UInt16.toNat_zero]
  omega

/-- **The header with its checksum in place verifies**, whatever it says. -/
theorem verifies_ipHeader (s : PcapRtpWriter) (size : Nat) :
    Verifies (s.ipHeader size (ipv4Checksum (s.ipHeader size 0))) = true := by
  have hfold := OnesComplement.fold_lt (OnesComplement.wordSum (s.ipHeader size 0))
  have hchecksum : (ipv4Checksum (s.ipHeader size 0)).toNat
      = 65535 - OnesComplement.fold (OnesComplement.wordSum (s.ipHeader size 0)) := by
    rw [ipv4Checksum, UInt16.toNat_not, UInt16.toNat_ofNat_of_lt' hfold]
    rfl
  rw [Verifies, wordSum_ipHeader, hchecksum, OnesComplement.fold_add_complement]
  rfl

example : ipv4Checksum [0x45, 0x90, 0x01, 0x78, 0, 0, 0x40, 0, 0x40, 0x11, 0, 0,
    0xC0, 0xA8, 0x1B, 0x02, 0xEF, 0xFF, 0x2A, 0x2A] = 0x4311 := by
  decide

theorem reads_ipv4 (s : PcapRtpWriter) {size : Nat} (hfits : size + 28 < 65536) :
    Reads (readIpv4 (size + 28)) (s.ipHeader size (ipv4Checksum (s.ipHeader size 0)))
      (s.identification.toNat, s.source.bytes, s.destination.bytes) := by
  refine Reads.checked ?_ (length_ipHeader s size _) (verifies_ipHeader s size)
  generalize ipv4Checksum (s.ipHeader size 0) = checksum
  have hchunk : s.ipHeader size checksum
      = BigEndian.encode 1 (0x45 : UInt8).toNat ++ (BigEndian.encode 1 (s.dscp <<< 2).toNat
        ++ (BigEndian.encode 2 (size + 28) ++ (BigEndian.encode 2 s.identification.toNat
        ++ (BigEndian.encode 2 0x4000 ++ (BigEndian.encode 1 (64 : UInt8).toNat
        ++ (BigEndian.encode 1 (17 : UInt8).toNat ++ (BigEndian.encode 2 checksum.toNat
        ++ (s.source.bytes ++ s.destination.bytes)))))))) := by
    have htotal : ipBytes + udpBytes + size = size + 28 := by
      rw [ipBytes, udpBytes]
      omega
    rw [encode_byte, encode_byte, encode_byte, encode_byte, ipHeader, htotal]
    simp only [List.append_assoc, List.cons_append, List.nil_append]
  rw [hchunk]
  unfold readIpv4Fields
  refine (reads_big (UInt8.toNat_lt _)).bind (Reads.guard_bind rfl ?_)
  refine (reads_big (UInt8.toNat_lt _)).bind ?_
  refine (reads_big hfits).bind (Reads.guard_bind rfl ?_)
  refine (reads_big s.identification.toNat_lt).bind ?_
  refine (reads_big (by decide)).bind (Reads.guard_bind rfl ?_)
  refine (reads_big (UInt8.toNat_lt _)).bind ?_
  refine (reads_big (UInt8.toNat_lt _)).bind (Reads.guard_bind rfl ?_)
  refine (reads_big checksum.toNat_lt).bind ?_
  have hsource : s.source.bytes.length = 4 := rfl
  have hdestination : s.destination.bytes.length = 4 := rfl
  refine (reads_take hsource).bind ?_
  exact (reads_take hdestination).bind_pure rfl

/-! ## A record -/

/-- The ports a call is written with. -/
def portsOf (s : PcapRtpWriter) (c : WriteCall) : UInt16 × UInt16 :=
  c.ports.getD (s.sourcePort, s.destinationPort)

/-- The datagram of the call with this number, counted from 0. -/
def datagramOf (s : PcapRtpWriter) (index : Nat) (c : WriteCall) : Datagram where
  seconds := c.unixTimeNs.toNat / 1000000000
  microseconds := c.unixTimeNs.toNat % 1000000000 / 1000
  identification := index % 65536
  source := s.source.bytes
  destination := s.destination.bytes
  sourcePort := (s.portsOf c).1.toNat
  destinationPort := (s.portsOf c).2.toNat
  payload := c.payload

/-- The record that holds it: the whole packet. -/
def recordOf (s : PcapRtpWriter) (index : Nat) (c : WriteCall) : CaptureRecord where
  captured := c.payload.length + 42
  datagram := s.datagramOf index c

/-- The bytes that a call appends. -/
def recordBytes (s : PcapRtpWriter) (c : WriteCall) : Bytes :=
  record (s.packet c.payload (s.portsOf c).1 (s.portsOf c).2) c.unixTimeNs

theorem length_packet (s : PcapRtpWriter) (payload : Bytes) (sourcePort destinationPort : UInt16) :
    (s.packet payload sourcePort destinationPort).length = payload.length + 42 := by
  rw [packet, List.length_append, List.length_append, List.length_append, length_ipHeader]
  simp [ethernetHeader, udpHeader]
  omega

/-- **A record** is read as the datagram of its call. -/
theorem reads_record {s : PcapRtpWriter} {index : Nat} {c : WriteCall}
    (hindex : s.identification.toNat = index % 65536) (hsize : c.payload.length ≤ 65507)
    (htime : c.unixTimeNs.toNat / 1000000000 < 2 ^ 32) :
    Reads readRecord (s.recordBytes c) (s.recordOf index c) := by
  have hchunk : s.recordBytes c
      = LittleEndian.encode 4 (c.unixTimeNs.toNat / 1000000000)
        ++ (LittleEndian.encode 4 (c.unixTimeNs.toNat % 1000000000 / 1000)
        ++ (LittleEndian.encode 4 (c.payload.length + 42)
        ++ (LittleEndian.encode 4 (c.payload.length + 42)
        ++ (([0x01, 0x00, 0x5E, s.destination.b &&& 0x7F, s.destination.c, s.destination.d,
            0x02, 0, 0, 0, 0, 0x01] : Bytes)
        ++ (BigEndian.encode 2 0x0800
        ++ (s.ipHeader c.payload.length (ipv4Checksum (s.ipHeader c.payload.length 0))
        ++ (udpHeader c.payload.length (s.portsOf c).1 (s.portsOf c).2 ++ c.payload))))))) := by
    rw [recordBytes, record, length_packet, packet, ethernetHeader]
    simp only [List.append_assoc, List.cons_append, List.nil_append]
  rw [hchunk]
  unfold readRecord
  refine (reads_little htime).bind ?_
  refine (reads_little (by omega)).bind (Reads.guard_bind (by omega) ?_)
  refine (reads_little (by omega)).bind ?_
  refine (reads_little (by omega)).bind (Reads.guard_bind ⟨rfl, by omega⟩ ?_)
  refine Reads.bind (reads_take rfl) ?_
  refine (reads_big (by decide)).bind (Reads.guard_bind rfl ?_)
  have hip : c.payload.length + 42 - 14 = c.payload.length + 28 := rfl
  have hudp : c.payload.length + 42 - 34 = c.payload.length + 8 := rfl
  rw [hip, hudp]
  refine (reads_ipv4 s (by omega)).bind ((reads_udp rfl (by omega)).bind_pure ?_)
  rw [hindex]
  rfl

/-! ## A file -/

/-- A call of any overload appends a record, unless the payload is too large. -/
theorem call_eq (s : PcapRtpWriter) (c : WriteCall) :
    s.call c = if c.payload.length > 65535 - 28 then
        .error "UDP packet is too large for IPv4 PCAP"
      else
        .ok { s with
          output := s.output ++ s.recordBytes c, identification := s.identification + 1 } := by
  rw [call, recordBytes, portsOf]
  cases c.ports <;> rfl

theorem call_eq_ok {s next : PcapRtpWriter} {c : WriteCall} (h : s.call c = .ok next) :
    c.payload.length ≤ 65507
      ∧ next = { s with
        output := s.output ++ s.recordBytes c, identification := s.identification + 1 } := by
  rw [call_eq] at h
  split at h
  · cases h
  · next hsize => exact ⟨by omega, (Except.ok.inj h).symm⟩

/-- **A sequence of calls** appends a record for each, and each is read as its datagram. -/
theorem callAll_reads {s last : PcapRtpWriter} {n : Nat} {calls : List WriteCall}
    (hcalls : s.callAll calls = .ok last) (hindex : s.identification.toNat = n % 65536)
    (htime : ∀ c ∈ calls, c.unixTimeNs.toNat / 1000000000 < 2 ^ 32) :
    ∃ chunks, last.output = s.output ++ chunks.flatten
      ∧ List.Forall₂ (fun chunk r => Reads readRecord chunk r ∧ chunk ≠ []) chunks
        (calls.mapIdx fun i c => s.recordOf (n + i) c) := by
  induction calls generalizing s n with
  | nil =>
    obtain rfl := Except.ok.inj hcalls
    exact ⟨[], by simp, .nil⟩
  | cons c calls ih =>
    rw [callAll, List.foldlM_cons, bind_eq_ok] at hcalls
    obtain ⟨next, hnext, hrest⟩ := hcalls
    obtain ⟨hsize, rfl⟩ := call_eq_ok hnext
    have hfirst := reads_record hindex hsize (htime c List.mem_cons_self)
    have hne : s.recordBytes c ≠ [] := by
      simp [recordBytes, record, LittleEndian.encode]
    have hindex' : (s.identification + 1).toNat = (n + 1) % 65536 := by
      have hone : (1 : UInt16).toNat = 1 := rfl
      rw [UInt16.toNat_add, hindex, hone]
      omega
    obtain ⟨chunks, houtput, hchunks⟩ := ih (n := n + 1) hrest hindex'
      fun c' hc' => htime c' (List.mem_cons_of_mem _ hc')
    refine ⟨s.recordBytes c :: chunks, ?_, ?_⟩
    · rw [houtput]
      simp
    · have hshift : (fun i c => s.recordOf (n + (i + 1)) c)
          = fun i c => s.recordOf (n + 1 + i) c := by
        funext i c
        rw [Nat.add_right_comm, Nat.add_assoc]
      rw [List.mapIdx_cons, hshift]
      exact .cons ⟨hfirst, hne⟩ hchunks

/-- The file of a writer that has just been constructed and then called. -/
theorem readCapture_file {s last : PcapRtpWriter} {calls : List WriteCall}
    (houtput : s.output = fileHeader) (hzero : s.identification = 0)
    (hcalls : s.callAll calls = .ok last)
    (htime : ∀ c ∈ calls, c.unixTimeNs.toNat / 1000000000 < 2 ^ 32) :
    readCapture last.output
      = some ({ snaplen := 65535, records := calls.mapIdx s.recordOf }, []) := by
  obtain ⟨chunks, hlast, hchunks⟩ := callAll_reads (n := 0) hcalls (by rw [hzero]; rfl) htime
  have hrecords := readToEnd_of_reads hchunks
  simp only [Nat.zero_add] at hrecords
  have hfile : last.output = LittleEndian.encode 4 0xA1B2C3D4 ++ (LittleEndian.encode 2 2
      ++ (LittleEndian.encode 2 4 ++ (LittleEndian.encode 4 0 ++ (LittleEndian.encode 4 0
      ++ (LittleEndian.encode 4 65535 ++ (LittleEndian.encode 4 1 ++ chunks.flatten)))))) := by
    rw [hlast, houtput, fileHeader]
    simp only [List.append_assoc]
  rw [hfile]
  unfold readCapture
  refine ((reads_little (by decide)).bind_run _ _).trans ?_
  refine (Reads.guard_run rfl _ _).trans ?_
  refine ((reads_little (by decide)).bind_run _ _).trans ?_
  refine ((reads_little (by decide)).bind_run _ _).trans ?_
  refine (Reads.guard_run ⟨rfl, rfl⟩ _ _).trans ?_
  refine ((reads_little (by decide)).bind_run _ _).trans ?_
  refine ((reads_little (by decide)).bind_run _ _).trans ?_
  refine ((reads_little (by decide)).bind_run _ _).trans ?_
  refine ((reads_little (by decide)).bind_run _ _).trans ?_
  refine (Reads.guard_run rfl _ _).trans ?_
  exact bind_eq_some.mpr ⟨_, [], hrecords, rfl⟩

/-- A constructor that does not throw has written the header of the file. -/
theorem construct_eq_ok {sourceAddress destinationAddress : String}
    {sourcePort destinationPort : UInt16} {dscp : UInt8} {s : PcapRtpWriter}
    (h : construct sourceAddress destinationAddress sourcePort destinationPort dscp = .ok s) :
    s.output = fileHeader ∧ s.identification = 0 := by
  unfold construct at h
  split at h
  · cases h
  · obtain ⟨source, _, h⟩ := bind_eq_ok.mp h
    obtain ⟨destination, _, h⟩ := bind_eq_ok.mp h
    obtain rfl := Except.ok.inj h
    exact ⟨rfl, rfl⟩

/-- The records that keep to the snapshot length are those of short payloads. -/
theorem captured_le_iff (s : PcapRtpWriter) (calls : List WriteCall) :
    (∀ r ∈ calls.mapIdx s.recordOf, r.captured ≤ 65535)
      ↔ ∀ c ∈ calls, c.payload.length ≤ 65493 := by
  constructor
  · intro h c hc
    obtain ⟨i, hi, rfl⟩ := List.mem_iff_getElem.mp hc
    have hcaptured := h _ (List.mem_mapIdx.mpr ⟨i, hi, rfl⟩)
    simp only [recordOf] at hcaptured
    omega
  · intro h r hr
    obtain ⟨i, hi, rfl⟩ := List.mem_mapIdx.mp hr
    have hsize := h _ (List.getElem_mem hi)
    simp only [recordOf]
    omega

theorem exists_callAll {s : PcapRtpWriter} {calls : List WriteCall}
    (hsize : ∀ c ∈ calls, c.payload.length ≤ 65493) : ∃ last, s.callAll calls = .ok last := by
  induction calls generalizing s with
  | nil => exact ⟨s, rfl⟩
  | cons c calls ih =>
    have hcall := s.call_eq c
    have hsmall := hsize c List.mem_cons_self
    rw [if_neg (by omega)] at hcall
    obtain ⟨last, hlast⟩ := ih fun other hother => hsize other (List.mem_cons_of_mem _ hother)
    exact ⟨last, bind_eq_ok.mpr ⟨_, hcall, hlast⟩⟩

/-- Packets that the snapshot length covers are written and found again. -/
theorem exists_file {sourceAddress destinationAddress : String}
    {sourcePort destinationPort : UInt16} {dscp : UInt8} {s : PcapRtpWriter}
    {calls : List WriteCall}
    (hconstruct : construct sourceAddress destinationAddress sourcePort destinationPort dscp
      = .ok s)
    (hsize : ∀ c ∈ calls, c.payload.length ≤ 65493)
    (htime : ∀ c ∈ calls, c.unixTimeNs.toNat / 1000000000 < 2 ^ 32) :
    ∃ last, s.callAll calls = .ok last ∧ DecodesTo last.output (calls.mapIdx s.datagramOf) := by
  obtain ⟨last, hcalls⟩ := exists_callAll hsize
  obtain ⟨houtput, hzero⟩ := construct_eq_ok hconstruct
  refine ⟨last, hcalls, _, readCapture_file houtput hzero hcalls htime, ?_,
    (captured_le_iff s calls).mpr hsize⟩
  rw [List.mapIdx_eq_zipIdx_map, List.mapIdx_eq_zipIdx_map, List.map_map]
  rfl

/-- What a datagram has of its call alone. -/
theorem map_datagramOf {β : Type} {s : PcapRtpWriter} {calls : List WriteCall} {f : Datagram → β}
    {g : WriteCall → β} (h : ∀ index c, f (s.datagramOf index c) = g c) :
    (calls.mapIdx s.datagramOf).map f = calls.map g := by
  refine List.ext_getElem (by simp) ?_
  intro i _ _
  simp [h]

/-- **The file decodes to the calls just where no packet is longer than its snapshot length.**
Every other rule is kept by every file. -/
theorem decodesTo_iff {sourceAddress destinationAddress : String}
    {sourcePort destinationPort : UInt16} {dscp : UInt8} {s last : PcapRtpWriter}
    {calls : List WriteCall}
    (hconstruct : construct sourceAddress destinationAddress sourcePort destinationPort dscp
      = .ok s)
    (hcalls : s.callAll calls = .ok last)
    (htime : ∀ c ∈ calls, c.unixTimeNs.toNat / 1000000000 < 2 ^ 32) :
    DecodesTo last.output (calls.mapIdx s.datagramOf)
      ↔ ∀ c ∈ calls, c.payload.length ≤ 65493 := by
  obtain ⟨houtput, hzero⟩ := construct_eq_ok hconstruct
  have hread := readCapture_file houtput hzero hcalls htime
  rw [← captured_le_iff s calls]
  constructor
  · rintro ⟨capture, hcapture, _, hshort⟩
    obtain ⟨rfl, _⟩ := Prod.mk.inj (Option.some.inj (hread.symm.trans hcapture))
    exact hshort
  · intro hshort
    refine ⟨_, hread, ?_, hshort⟩
    rw [List.mapIdx_eq_zipIdx_map, List.mapIdx_eq_zipIdx_map, List.map_map]
    rfl

/-- Two packets, of which the second has ports of its own. -/
def reportCalls : List WriteCall :=
  [{ payload := [0x80, 0xE0, 0, 1], unixTimeNs := 1788256990000000000 },
   { payload := [0x80, 0xC8], unixTimeNs := 1788256990001234567, ports := some (5005, 5005) }]

theorem decodesTo_iff_report :
    ∃ s last, construct "192.168.27.2" "239.255.42.42" 5004 5004 36 = .ok s
      ∧ s.callAll reportCalls = .ok last
      ∧ (DecodesTo last.output (reportCalls.mapIdx s.datagramOf)
        ↔ ∀ c ∈ reportCalls, c.payload.length ≤ 65493) := by
  obtain ⟨s, hs⟩ := exists_of_isSome
    (x := construct "192.168.27.2" "239.255.42.42" 5004 5004 36) (by decide)
  exact ⟨s, _, hs, rfl, decodesTo_iff hs rfl (by decide)⟩

/-- A payload that the writer takes, with a packet of 65536 bytes. -/
def jumboCall : WriteCall := { payload := List.replicate 65494 0, unixTimeNs := 0 }

/-- The record is longer than the snapshot length the file declares. -/
theorem decodesTo_jumbo :
    ∃ s last capture, construct "192.168.27.2" "239.255.42.42" 5004 5004 36 = .ok s
      ∧ s.callAll [jumboCall] = .ok last ∧ readCapture last.output = some (capture, [])
      ∧ capture.snaplen = 65535 ∧ capture.records.map (·.captured) = [65536]
      ∧ ¬ DecodesTo last.output ([jumboCall].mapIdx s.datagramOf) := by
  obtain ⟨s, hs⟩ := exists_of_isSome
    (x := construct "192.168.27.2" "239.255.42.42" 5004 5004 36) (by decide)
  have hlength : jumboCall.payload.length = 65494 := List.length_replicate
  have hcalls : s.callAll [jumboCall] = .ok { s with
      output := s.output ++ s.recordBytes jumboCall, identification := s.identification + 1 } := by
    have hwrite : ¬ jumboCall.payload.length > 65535 - 28 := by
      omega
    rw [callAll, List.foldlM_cons, call_eq, if_neg hwrite]
    rfl
  obtain ⟨houtput, hzero⟩ := construct_eq_ok hs
  have htime : ∀ c ∈ [jumboCall], c.unixTimeNs.toNat / 1000000000 < 2 ^ 32 := by
    intro c hc
    rw [List.mem_singleton.mp hc]
    show (0 : UInt64).toNat / 1000000000 < 2 ^ 32
    decide
  have hread := readCapture_file houtput hzero hcalls htime
  have hcaptured : (s.recordOf 0 jumboCall).captured = 65536 := by
    rw [recordOf, hlength]
  refine ⟨s, _, _, hs, hcalls, hread, rfl, ?_, ?_⟩
  · exact congrArg (fun n => [n]) hcaptured
  · rintro ⟨capture, hcapture, _, hshort⟩
    obtain ⟨rfl, _⟩ := Prod.mk.inj (Option.some.inj (hread.symm.trans hcapture))
    have hle := hshort (s.recordOf 0 jumboCall) List.mem_cons_self
    simp only [hcaptured] at hle
    omega

end PcapRtpWriter
end Ipmx.Pcap
