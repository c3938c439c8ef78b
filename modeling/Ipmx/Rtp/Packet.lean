/-
Ipmx.Rtp.Packet — one RTP datagram: the field writers and readers of
`rtp.cpp`, `parse_rtp_packet` and the packet bytes `make_packet` lays out.

The reads of `parse_rtp_packet` are list accesses that carry their bound, so
a read outside the datagram has no translation here. The element loop of the
header extension walks the slice `[extension_begin, end)` as a list: its
`cursor` is the number of bytes already dropped. Sizes are `Nat`; no sum of
this file comes near `2 ^ 64` for a datagram that exists.
-/
import Ipmx.H264.Nal

namespace Ipmx.Rtp

/-! ## Constants (`rtp.hpp`) -/

def kH264PayloadType : UInt8 := 96
def kRtpClockRate : Nat := 90000
def kCaptureTimeExtensionProfile : UInt16 := 0xBEDE
def kCaptureTimeExtensionId : UInt8 := 1
def kMaximumStandardUdpPayloadBytes : Nat := 1460

/-! ## Fields -/

def writeU16 (value : UInt16) : Bytes :=
  [(value >>> 8).toUInt8, value.toUInt8]

def writeU32 (value : UInt32) : Bytes :=
  [(value >>> 24).toUInt8, (value >>> 16).toUInt8, (value >>> 8).toUInt8, value.toUInt8]

def writeU64 (value : UInt64) : Bytes :=
  [(value >>> 56).toUInt8, (value >>> 48).toUInt8, (value >>> 40).toUInt8,
   (value >>> 32).toUInt8, (value >>> 24).toUInt8, (value >>> 16).toUInt8,
   (value >>> 8).toUInt8, value.toUInt8]

def readU16 (bytes : Bytes) (offset : Nat) (h : offset + 2 ≤ bytes.length) : UInt16 :=
  (bytes[offset].toUInt16 <<< 8) ||| bytes[offset + 1].toUInt16

def readU32 (bytes : Bytes) (offset : Nat) (h : offset + 4 ≤ bytes.length) : UInt32 :=
  (bytes[offset].toUInt32 <<< 24) ||| (bytes[offset + 1].toUInt32 <<< 16)
    ||| (bytes[offset + 2].toUInt32 <<< 8) ||| bytes[offset + 3].toUInt32

/-- `read_u64` of the eight bytes at the front of `bytes`; the loop shifts them in one by one. -/
def readU64 (bytes : Bytes) : UInt64 :=
  (bytes.take 8).foldl (fun value b => (value <<< 8) ||| b.toUInt64) 0

/-! ## `parse_rtp_packet` -/

structure ParsedRtpPacket where
  sequence : UInt16
  timestamp : UInt32
  ssrc : UInt32
  payloadType : UInt8
  marker : Bool
  captureTimeNs : UInt64
  payload : Bytes
deriving DecidableEq, Repr

/-- The element loop of a 0xBEDE extension over the bytes from `cursor` to `end`. Every
round consumes at least the element's header, so the number of bytes is enough fuel. -/
def parseExtensionElements : Nat → Bytes → UInt64 → Option UInt64
  | 0, _, captureTimeNs => some captureTimeNs
  | _ + 1, [], captureTimeNs => some captureTimeNs
  | fuel + 1, header :: rest, captureTimeNs =>
    if header = 0 then
      parseExtensionElements fuel rest captureTimeNs
    else if header >>> 4 = 15 then
      some captureTimeNs
    else
      let length := (header &&& 0x0F).toNat + 1
      if rest.length < length then
        none
      else
        parseExtensionElements fuel (rest.drop length)
          (if header >>> 4 = kCaptureTimeExtensionId ∧ length = 8 then readU64 rest
           else captureTimeNs)

/-- The header extension at `payload_offset`: where the payload begins after it, and the
capture time it carries. -/
def parseExtension (datagram : Bytes) (payloadOffset : Nat) : Option (Nat × UInt64) :=
  if h : payloadOffset + 4 > datagram.length then
    none
  else
    let profile := readU16 datagram payloadOffset (by omega)
    let extensionSize := (readU16 datagram (payloadOffset + 2) (by omega)).toNat * 4
    let extensionBegin := payloadOffset + 4
    if extensionBegin + extensionSize > datagram.length then
      none
    else if profile = kCaptureTimeExtensionProfile then
      match parseExtensionElements extensionSize
          ((datagram.drop extensionBegin).take extensionSize) 0 with
      | none => none
      | some captureTimeNs => some (extensionBegin + extensionSize, captureTimeNs)
    else
      some (extensionBegin + extensionSize, 0)

/-- Where the payload ends once the padding announced by the last byte is cut off. -/
def parsePayloadEnd (datagram : Bytes) (h : datagram ≠ []) (payloadOffset : Nat)
    (padding : Bool) : Option Nat :=
  if padding then
    let paddingSize := (datagram.getLast h).toNat
    if paddingSize = 0 ∨ paddingSize > datagram.length - payloadOffset then none
    else some (datagram.length - paddingSize)
  else
    some datagram.length

def parseRtpPacket (datagram : Bytes) : Option ParsedRtpPacket :=
  if h : datagram.length < 12 then
    none
  else if datagram[0] >>> 6 ≠ 2 then
    none
  else
    let padding : Bool := datagram[0] &&& 0x20 ≠ 0
    let extension : Bool := datagram[0] &&& 0x10 ≠ 0
    let csrcCount := (datagram[0] &&& 0x0F).toNat
    let payloadOffset := 12 + csrcCount * 4
    if payloadOffset > datagram.length then
      none
    else
      match (if extension then parseExtension datagram payloadOffset
             else some (payloadOffset, 0)) with
      | none => none
      | some (payloadOffset, captureTimeNs) =>
        match parsePayloadEnd datagram (by rintro rfl; simp at h) payloadOffset padding with
        | none => none
        | some payloadEnd =>
          if payloadOffset ≥ payloadEnd then
            none
          else
            some
              { sequence := readU16 datagram 2 (by omega)
                timestamp := readU32 datagram 4 (by omega)
                ssrc := readU32 datagram 8 (by omega)
                payloadType := datagram[1] &&& 0x7F
                marker := datagram[1] &&& 0x80 ≠ 0
                captureTimeNs := captureTimeNs
                payload := (datagram.drop payloadOffset).take (payloadEnd - payloadOffset) }

/-! ## The bytes of `make_packet` -/

/-- What `make_packet` writes around a payload. -/
structure RtpHeader where
  payloadType : UInt8
  marker : Bool
  sequence : UInt16
  timestamp : UInt32
  ssrc : UInt32
  captureTimeNs : UInt64
deriving DecidableEq, Repr

def kFullHeaderSize : Nat := 28

/-- The 28-byte header: the twelve fixed bytes, the extension header (profile and a length
of three words) and the capture time element padded to those three words. -/
def RtpHeader.bytes (header : RtpHeader) : Bytes :=
  [0x90, (if header.marker then 0x80 else 0) ||| header.payloadType]
    ++ writeU16 header.sequence
    ++ writeU32 header.timestamp
    ++ writeU32 header.ssrc
    ++ writeU16 kCaptureTimeExtensionProfile
    ++ writeU16 3
    ++ [(kCaptureTimeExtensionId <<< 4) ||| 7]
    ++ writeU64 header.captureTimeNs
    ++ [0, 0, 0]

def packetBytes (header : RtpHeader) (payload : Bytes) : Bytes :=
  header.bytes ++ payload

end Ipmx.Rtp
