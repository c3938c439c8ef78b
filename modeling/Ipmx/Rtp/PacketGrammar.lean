/-
Ipmx.Rtp.PacketGrammar — the RTP datagrams `parse_rtp_packet` is meant to
accept, as data.

A value of `RtpDatagram` is one reading of a datagram: its header fields, its
CSRC words, its header extension, its payload and its padding. `bytes` lays it
out and `packet` is what a receiver learns of it. The bounds of the format are
fields, so a reading that breaks one cannot be written down.
-/
import Ipmx.Lib.BigEndian
import Ipmx.Rtp.Packet

namespace Ipmx.Rtp

open Lib

/-! ## One-byte-header elements -/

/-- An element of a 0xBEDE extension: an id below 15 and one to sixteen bytes. -/
structure ExtensionElement where
  id : Fin 15
  data : Bytes
  length_pos : 1 ≤ data.length
  length_le : data.length ≤ 16
  /-- A header byte of zero is padding and no element. -/
  not_padding : id.val = 0 → data.length ≠ 1

def ExtensionElement.header (element : ExtensionElement) : UInt8 :=
  UInt8.ofNat (16 * element.id.val + (element.data.length - 1))

def ExtensionElement.bytes (element : ExtensionElement) : Bytes :=
  element.header :: element.data

/-- The capture time of an element that carries one: id 1, eight bytes. -/
def ExtensionElement.captureTime? (element : ExtensionElement) : Option UInt64 :=
  if element.id.val = 1 ∧ element.data.length = 8 then
    some (UInt64.ofNat (BigEndian.decode element.data))
  else
    none

/-- The data of a 0xBEDE extension: padding bytes (`none`) and elements, then possibly a header
byte with id 15 and the bytes that are ignored behind it. -/
structure ElementSequence where
  items : List (Option ExtensionElement)
  stop : Option (Fin 16 × Bytes)

def itemBytes : Option ExtensionElement → Bytes
  | none => [0]
  | some element => element.bytes

def stopBytes : Option (Fin 16 × Bytes) → Bytes
  | none => []
  | some (low, ignored) => UInt8.ofNat (240 + low.val) :: ignored

def ElementSequence.bytes (sequence : ElementSequence) : Bytes :=
  sequence.items.flatMap itemBytes ++ stopBytes sequence.stop

/-- The capture times of a sequence, in order. -/
def ElementSequence.captureTimes (sequence : ElementSequence) : List UInt64 :=
  sequence.items.filterMap fun item => item.bind ExtensionElement.captureTime?

/-! ## The datagram -/

inductive ExtensionData where
  | elements (sequence : ElementSequence)
  | other (profile : UInt16) (profile_ne : profile ≠ kCaptureTimeExtensionProfile) (data : Bytes)

def ExtensionData.profile : ExtensionData → UInt16
  | .elements _ => kCaptureTimeExtensionProfile
  | .other profile _ _ => profile

def ExtensionData.bytes : ExtensionData → Bytes
  | .elements sequence => sequence.bytes
  | .other _ _ data => data

/-- The last capture time of the data, 0 if there is none. -/
def ExtensionData.captureTimeNs : ExtensionData → UInt64
  | .elements sequence => sequence.captureTimes.getLast?.getD 0
  | .other _ _ _ => 0

/-- A header extension: its data in 32-bit words. -/
structure HeaderExtension where
  data : ExtensionData
  words : UInt16
  length_data : data.bytes.length = words.toNat * 4

def HeaderExtension.bytes (extension : HeaderExtension) : Bytes :=
  writeU16 extension.data.profile ++ (writeU16 extension.words ++ extension.data.bytes)

/-- A padding area of 1..255 bytes, the last of which is its size. -/
structure Padding where
  filler : Bytes
  length_le : filler.length ≤ 254

def Padding.bytes (padding : Padding) : Bytes :=
  padding.filler ++ [UInt8.ofNat (padding.filler.length + 1)]

structure RtpDatagram where
  marker : Bool
  payloadType : UInt8
  payloadType_le : payloadType ≤ 127
  sequence : UInt16
  timestamp : UInt32
  ssrc : UInt32
  csrcCount : Fin 16
  csrcs : Bytes
  length_csrcs : csrcs.length = csrcCount.val * 4
  extension : Option HeaderExtension
  payload : Bytes
  payload_ne_nil : payload ≠ []
  padding : Option Padding

namespace RtpDatagram

/-- Version 2, the padding bit, the extension bit and the CSRC count. -/
def firstByte (d : RtpDatagram) : UInt8 :=
  0x80 ||| (if d.padding.isSome then 0x20 else 0) ||| (if d.extension.isSome then 0x10 else 0)
    ||| UInt8.ofNat d.csrcCount.val

def secondByte (d : RtpDatagram) : UInt8 := (if d.marker then 0x80 else 0) ||| d.payloadType

/-- The fixed part of the header. -/
def fixedHeader (d : RtpDatagram) : Bytes :=
  [d.firstByte, d.secondByte] ++ (writeU16 d.sequence ++ (writeU32 d.timestamp ++ writeU32 d.ssrc))

def bytes (d : RtpDatagram) : Bytes :=
  d.fixedHeader ++ (d.csrcs ++ (d.extension.elim [] HeaderExtension.bytes
    ++ (d.payload ++ d.padding.elim [] Padding.bytes)))

/-- What a receiver learns of the datagram. -/
def packet (d : RtpDatagram) : ParsedRtpPacket where
  sequence := d.sequence
  timestamp := d.timestamp
  ssrc := d.ssrc
  payloadType := d.payloadType
  marker := d.marker
  captureTimeNs := d.extension.elim 0 fun extension => extension.data.captureTimeNs
  payload := d.payload

end RtpDatagram

end Ipmx.Rtp
