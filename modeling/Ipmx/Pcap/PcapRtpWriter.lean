/-
Ipmx.Pcap.PcapRtpWriter — `PcapRtpWriter` of `pcap.cpp`, which writes the file.

The output stream is the byte string written so far; it does not fail. The
packet that `write` builds in a vector is put together here from its headers,
in the order in which they stand in it. A function that throws returns its
text as the error.
-/
import Ipmx.H264.Nal
import Ipmx.Lib.ByteOrder
import Ipmx.Lib.OnesComplement

namespace Ipmx.Pcap

open H264
open Ipmx.Lib

/-! ## Addresses and checksums -/

structure Ipv4Address where
  a : UInt8 := 0
  b : UInt8 := 0
  c : UInt8 := 0
  d : UInt8 := 0
deriving DecidableEq, Repr

def Ipv4Address.bytes (address : Ipv4Address) : Bytes :=
  [address.a, address.b, address.c, address.d]

def invalidIpv4Address : String := "invalid IPv4 address for PCAP"

/-- The loop over the digits of a number, on the value read so far. -/
def parseIpv4Digits : Nat → List Char → Except String Nat
  | value, [] => .ok value
  | value, digit :: digits =>
    if digit < '0' ∨ digit > '9' then
      .error invalidIpv4Address
    else
      let value := value * 10 + (digit.toNat - '0'.toNat)
      if value > 255 then .error invalidIpv4Address else parseIpv4Digits value digits

/-- One round of the loop over the numbers: the byte, and the text behind the dot. -/
def parseIpv4Number (last : Bool) (text : List Char) : Except String (UInt8 × List Char) :=
  let digits := text.takeWhile (· ≠ '.')
  let dot : Bool := '.' ∈ text
  if digits = [] ∨ (!last) ≠ dot then
    .error invalidIpv4Address
  else do
    let value ← parseIpv4Digits 0 digits
    return (UInt8.ofNat value, text.drop (digits.length + 1))

def parseIpv4 (text : String) : Except String Ipv4Address := do
  let (a, rest) ← parseIpv4Number false text.toList
  let (b, rest) ← parseIpv4Number false rest
  let (c, rest) ← parseIpv4Number false rest
  let (d, _) ← parseIpv4Number true rest
  return { a, b, c, d }

/-- `ipv4_checksum`: the complement of the folded sum of the words. -/
def ipv4Checksum (header : Bytes) : UInt16 :=
  ~~~ UInt16.ofNat (OnesComplement.fold (OnesComplement.wordSum header))

/-! ## The writer -/

/-- `PcapRtpWriter::State`. -/
structure PcapRtpWriter where
  output : Bytes := []
  source : Ipv4Address := {}
  destination : Ipv4Address := {}
  sourcePort : UInt16 := 0
  destinationPort : UInt16 := 0
  identification : UInt16 := 0
  dscp : UInt8 := 0
deriving DecidableEq, Repr

/-- The header of the file: magic number, version 2.4, time zone, accuracy, snapshot length and
`LINKTYPE_ETHERNET`. -/
def fileHeader : Bytes :=
  LittleEndian.encode 4 0xA1B2C3D4 ++ LittleEndian.encode 2 2 ++ LittleEndian.encode 2 4
    ++ LittleEndian.encode 4 0 ++ LittleEndian.encode 4 0 ++ LittleEndian.encode 4 65535
    ++ LittleEndian.encode 4 1

namespace PcapRtpWriter

/-- The constructor. -/
def construct (sourceAddress destinationAddress : String) (sourcePort destinationPort : UInt16)
    (dscp : UInt8) : Except String PcapRtpWriter :=
  if dscp > 63 then
    .error "DSCP must be in the range 0..63"
  else do
    let source ← parseIpv4 sourceAddress
    let destination ← parseIpv4 destinationAddress
    return { output := fileHeader, source, destination, sourcePort, destinationPort, dscp }

def ipBytes : Nat := 20
def udpBytes : Nat := 8

/-- The multicast address of the destination, the source address and the type of IPv4. -/
def ethernetHeader (s : PcapRtpWriter) : Bytes :=
  [0x01, 0x00, 0x5E, s.destination.b &&& 0x7F, s.destination.c, s.destination.d]
    ++ [0x02, 0, 0, 0, 0, 0x01] ++ BigEndian.encode 2 0x0800

/-- The IPv4 header in front of a payload of this size. -/
def ipHeader (s : PcapRtpWriter) (size : Nat) (checksum : UInt16) : Bytes :=
  ([0x45, s.dscp <<< 2] : Bytes) ++ BigEndian.encode 2 (ipBytes + udpBytes + size)
    ++ BigEndian.encode 2 s.identification.toNat ++ BigEndian.encode 2 0x4000
    ++ [64, 17] ++ BigEndian.encode 2 checksum.toNat ++ s.source.bytes ++ s.destination.bytes

/-- The UDP header; its checksum stays 0. -/
def udpHeader (size : Nat) (sourcePort destinationPort : UInt16) : Bytes :=
  BigEndian.encode 2 sourcePort.toNat ++ BigEndian.encode 2 destinationPort.toNat
    ++ BigEndian.encode 2 (size + udpBytes) ++ [0, 0]

/-- The packet: the checksum is taken of the header with a checksum of 0. -/
def packet (s : PcapRtpWriter) (udpPayload : Bytes) (sourcePort destinationPort : UInt16) :
    Bytes :=
  s.ethernetHeader
    ++ s.ipHeader udpPayload.length (ipv4Checksum (s.ipHeader udpPayload.length 0))
    ++ udpHeader udpPayload.length sourcePort destinationPort ++ udpPayload

/-- A packet behind its record header. -/
def record (packet : Bytes) (unixTimeNs : UInt64) : Bytes :=
  LittleEndian.encode 4 (unixTimeNs.toNat / 1000000000)
    ++ LittleEndian.encode 4 (unixTimeNs.toNat % 1000000000 / 1000)
    ++ LittleEndian.encode 4 packet.length ++ LittleEndian.encode 4 packet.length ++ packet

/-- `write` with all its arguments. -/
def write (s : PcapRtpWriter) (udpPayload : Bytes) (unixTimeNs : UInt64)
    (sourcePort destinationPort : UInt16) : Except String PcapRtpWriter :=
  if udpPayload.length > 65535 - 28 then
    .error "UDP packet is too large for IPv4 PCAP"
  else
    .ok { s with
      output := s.output ++ record (s.packet udpPayload sourcePort destinationPort) unixTimeNs
      identification := s.identification + 1 }

/-- A call of `write`: with ports of its own, or with those of the writer. The overload that
takes no time passes the time of the system clock. -/
structure WriteCall where
  payload : Bytes
  unixTimeNs : UInt64
  ports : Option (UInt16 × UInt16) := none
deriving DecidableEq, Repr

def call (s : PcapRtpWriter) (c : WriteCall) : Except String PcapRtpWriter :=
  match c.ports with
  | none => s.write c.payload c.unixTimeNs s.sourcePort s.destinationPort
  | some (sourcePort, destinationPort) =>
    s.write c.payload c.unixTimeNs sourcePort destinationPort

/-- A sequence of calls, none of which throws. -/
def callAll (s : PcapRtpWriter) (calls : List WriteCall) : Except String PcapRtpWriter :=
  calls.foldlM (fun s c => s.call c) s

end PcapRtpWriter
end Ipmx.Pcap
