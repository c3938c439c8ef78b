/-
Ipmx.Pcap.Capture — how a capture file is read, whoever wrote it.

The reader follows the PCAP file format, Ethernet II, IPv4 without options and
UDP. It refuses a file whose lengths contradict each other, a header whose
checksum does not verify and a packet that is fragmented. The snapshot length
is returned with the records, so that they can be held against it.
-/
import Ipmx.H264.Nal
import Ipmx.Lib.ByteOrder
import Ipmx.Lib.OnesComplement

namespace Ipmx.Pcap

open H264
open Ipmx.Lib

/-- A UDP datagram of a capture. -/
structure Datagram where
  seconds : Nat
  microseconds : Nat
  identification : Nat
  source : Bytes
  destination : Bytes
  sourcePort : Nat
  destinationPort : Nat
  payload : Bytes
deriving DecidableEq, Repr

/-- A record: how many bytes of the packet it holds, and the datagram in them. -/
structure CaptureRecord where
  captured : Nat
  datagram : Datagram
deriving DecidableEq, Repr

structure Capture where
  snaplen : Nat
  records : List CaptureRecord
deriving DecidableEq, Repr

abbrev ByteReader := StateT (List UInt8) Option

/-- UDP in `size` bytes: the ports and the payload. A checksum of 0 stands for none. -/
def readUdp (size : Nat) : ByteReader (Nat × Nat × Bytes) := do
  let sourcePort ← readBig 2
  let destinationPort ← readBig 2
  let length ← readBig 2
  guard (length = size ∧ 8 ≤ length)
  let checksum ← readBig 2
  guard (checksum = 0)
  let payload ← takeSymbols (length - 8)
  return (sourcePort, destinationPort, payload)

/-- The IPv4 header of a packet of `size` bytes: version 4 and five words, neither an offset nor
more fragments, and the protocol UDP. -/
def readIpv4Fields (size : Nat) : ByteReader (Nat × Bytes × Bytes) := do
  let versionAndLength ← readBig 1
  guard (versionAndLength = 0x45)
  let _ ← readBig 1
  let totalLength ← readBig 2
  guard (totalLength = size)
  let identification ← readBig 2
  let fragment ← readBig 2
  guard (fragment % 0x4000 = 0)
  let _ ← readBig 1
  let protocol ← readBig 1
  guard (protocol = 17)
  let _ ← readBig 2
  let source ← takeSymbols 4
  let destination ← takeSymbols 4
  return (identification, source, destination)

/-- The one's complement sum of a header with its checksum has all bits set. -/
def Verifies (header : Bytes) : Bool :=
  OnesComplement.fold (OnesComplement.wordSum header) = 0xFFFF

def readIpv4 (size : Nat) : ByteReader (Nat × Bytes × Bytes) :=
  checked 20 Verifies (readIpv4Fields size)

def readRecord : ByteReader CaptureRecord := do
  let seconds ← readLittle 4
  let microseconds ← readLittle 4
  guard (microseconds < 1000000)
  let captured ← readLittle 4
  let length ← readLittle 4
  guard (captured = length ∧ 42 ≤ captured)
  let _ ← takeSymbols 12
  let etherType ← readBig 2
  guard (etherType = 0x0800)
  let (identification, source, destination) ← readIpv4 (captured - 14)
  let (sourcePort, destinationPort, payload) ← readUdp (captured - 34)
  return { captured, datagram := { seconds, microseconds, identification, source, destination,
                                   sourcePort, destinationPort, payload } }

def readCapture : ByteReader Capture := do
  let magic ← readLittle 4
  guard (magic = 0xA1B2C3D4)
  let major ← readLittle 2
  let minor ← readLittle 2
  guard (major = 2 ∧ minor = 4)
  let _ ← readLittle 4
  let _ ← readLittle 4
  let snaplen ← readLittle 4
  let linkType ← readLittle 4
  guard (linkType = 1)
  let records ← readToEnd readRecord
  return { snaplen, records }

/-- Read by the rules and with no record over the snapshot length, the file gives the
datagrams. -/
def DecodesTo (file : Bytes) (datagrams : List Datagram) : Prop :=
  ∃ capture, readCapture file = some (capture, [])
    ∧ capture.records.map (·.datagram) = datagrams
    ∧ ∀ record ∈ capture.records, record.captured ≤ capture.snaplen

end Ipmx.Pcap
