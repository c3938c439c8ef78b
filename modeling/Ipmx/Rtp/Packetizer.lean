/-
Ipmx.Rtp.Packetizer — `RtpPacketizer` of `rtp.cpp`.

`packetize` walks the NAL list once. Each round hands one payload (STAP-A or
Single NAL) or one run of payloads (FU-A) to `make_packet`, whose only effect
is the sequence number, so the walk is split in two here: `packetizeLoop`
lists the payloads with their marker bits, and `makePackets` stamps them in
that order. The random SSRC and first sequence number are arguments of the
constructor.
-/
import Ipmx.Rtp.Packet

namespace Ipmx.Rtp

open H264

/-! ## The packetizer -/

/-- A configured packetizer: the fields are those the constructor accepts. -/
structure RtpPacketizer where
  maximumDatagramBytes : Nat
  payloadType : UInt8
  sequence : UInt16
  ssrc : UInt32
  minimum_le : 64 ≤ maximumDatagramBytes
  le_maximum : maximumDatagramBytes ≤ kMaximumStandardUdpPayloadBytes
  payloadType_le : payloadType ≤ 127

/-- The constructor: `none` where it throws "invalid RTP packetizer configuration". -/
def RtpPacketizer.new? (maximumDatagramBytes : Nat) (payloadType : UInt8)
    (ssrc : UInt32) (sequence : UInt16) : Option RtpPacketizer :=
  if h : maximumDatagramBytes < 64 ∨ maximumDatagramBytes > kMaximumStandardUdpPayloadBytes
      ∨ payloadType > 127 then
    none
  else
    some
      { maximumDatagramBytes, payloadType, sequence, ssrc
        minimum_le := by omega
        le_maximum := by omega
        payloadType_le := by
          simp only [not_or] at h
          exact UInt8.not_lt.mp h.2.2 }

/-- `make_packet`: the datagram, and the packetizer with the next sequence number. -/
def RtpPacketizer.makePacket (p : RtpPacketizer) (payload : Bytes) (timestamp : UInt32)
    (captureTimeNs : UInt64) (marker : Bool) : Bytes × RtpPacketizer :=
  (packetBytes
      { payloadType := p.payloadType, marker, sequence := p.sequence, timestamp
        ssrc := p.ssrc, captureTimeNs } payload,
   { p with sequence := p.sequence + 1 })

/-! ## `packetize` -/

/-- A payload on its way to `make_packet`, with the marker bit it is given. -/
structure PacketPlan where
  payload : Bytes
  marker : Bool
deriving DecidableEq, Repr

/-- The aggregation lookahead from `nal_index`: how many units fit one STAP-A payload
(`end - nal_index`), and the largest NRI among them. -/
def aggregate (maximumPayload : Nat) : Nat → UInt8 → List NalUnit → Nat × UInt8
  | _, nri, [] => (0, nri)
  | aggregateBytes, nri, nal :: rest =>
    if nal ≠ [] ∧ nal.length ≤ 65535 ∧ aggregateBytes + 2 + nal.length ≤ maximumPayload then
      let (count, nri) := aggregate maximumPayload (aggregateBytes + 2 + nal.length)
        (max nri (nal.headD 0 &&& 0x60)) rest
      (count + 1, nri)
    else
      (0, nri)

/-- The STAP-A payload of a group of units. -/
def stapA (nri : UInt8) (group : List NalUnit) : Bytes :=
  (nri ||| 24) :: group.flatMap fun nal =>
    [UInt8.ofNat (nal.length >>> 8), UInt8.ofNat nal.length] ++ nal

/-- The payload of one FU-A fragment of a unit with this header byte. -/
def fuA (originalHeader : UInt8) (first last : Bool) (data : Bytes) : Bytes :=
  ((originalHeader &&& 0xE0) ||| 28)
    :: ((originalHeader &&& 0x1F) ||| (if first then 0x80 else 0) ||| (if last then 0x40 else 0))
    :: data

/-- The fragmentation loop over the bytes from `offset` on. Every round sends at least one
byte, so their number is enough fuel. -/
def fuFragments (maximumFragmentData : Nat) (originalHeader : UInt8) (finalNal : Bool) :
    Nat → Bool → Bytes → List PacketPlan
  | 0, _, _ => []
  | fuel + 1, first, data =>
    if data = [] then
      []
    else
      let last := data.length ≤ maximumFragmentData
      { payload := fuA originalHeader first last (data.take maximumFragmentData)
        marker := finalNal && last }
        :: fuFragments maximumFragmentData originalHeader finalNal fuel false
            (data.drop maximumFragmentData)

/-- The loop of `packetize` over the units from `nal_index` on. The first argument counts the
units a STAP-A round has already taken: `nal_index = end - 1U` skips them. -/
def packetizeLoop (maximumPayload : Nat) : Nat → List NalUnit → List PacketPlan
  | _, [] => []
  | skip + 1, _ :: rest => packetizeLoop maximumPayload skip rest
  | 0, nal :: rest =>
    match nal with
    | [] => packetizeLoop maximumPayload 0 rest
    | originalHeader :: data =>
      let (count, nri) := aggregate maximumPayload 1 0 (nal :: rest)
      if count > 1 then
        { payload := stapA nri ((nal :: rest).take count)
          marker := count = (nal :: rest).length }
          :: packetizeLoop maximumPayload (count - 1) rest
      else if nal.length ≤ maximumPayload then
        { payload := nal, marker := rest.isEmpty } :: packetizeLoop maximumPayload 0 rest
      else
        fuFragments (maximumPayload - 2) originalHeader rest.isEmpty nal.length true data
          ++ packetizeLoop maximumPayload 0 rest

/-- `make_packet` on every payload in turn. -/
def RtpPacketizer.makePackets (timestamp : UInt32) (captureTimeNs : UInt64) :
    RtpPacketizer → List PacketPlan → List Bytes × RtpPacketizer
  | p, [] => ([], p)
  | p, plan :: plans =>
    let (packet, p) := p.makePacket plan.payload timestamp captureTimeNs plan.marker
    let (packets, p) := RtpPacketizer.makePackets timestamp captureTimeNs p plans
    (packet :: packets, p)

/-- `maximum_datagram_bytes_ - full_header_size`. The guard `maximum_payload <= 2U` of the
source cannot fire on a constructed packetizer, whose budget is at least 36 bytes. -/
def RtpPacketizer.maximumPayload (p : RtpPacketizer) : Nat :=
  p.maximumDatagramBytes - kFullHeaderSize

def RtpPacketizer.packetize (p : RtpPacketizer) (nals : List NalUnit) (timestamp : UInt32)
    (captureTimeNs : UInt64) : List Bytes × RtpPacketizer :=
  p.makePackets timestamp captureTimeNs (packetizeLoop p.maximumPayload 0 nals)

/-! ## Streams -/

/-- What a sender passes to one `packetize` call: units of type 1..23, as an encoder
produces them. -/
structure AccessUnit where
  nals : List NalUnit
  timestamp : UInt32
  captureTimeNs : UInt64
  carriable : ∀ nal ∈ nals, Carriable nal

/-- The datagrams of a list of access units packetized one after the other, unit by unit. -/
def RtpPacketizer.packetizeAll : RtpPacketizer → List AccessUnit → List (List Bytes)
  | _, [] => []
  | p, unit :: units =>
    let (packets, p) := p.packetize unit.nals unit.timestamp unit.captureTimeNs
    packets :: p.packetizeAll units

end Ipmx.Rtp
