/-
Ipmx.Receiver.ReceiveLoop — the receive loop of the receiver.

One round is a datagram that `network.receive` returned: it is parsed and
filtered, and what passes is observed by the sequence tracker and pushed into
the depacketizer. The loop ends here at the access unit; decoding, presenting
and the statistics printed every second do not come back to it.
-/
import Ipmx.Rtp.Depacketizer
import Ipmx.Rtp.SequenceTracker

namespace Ipmx.Receiver

open Rtp

structure ReceiveLoop where
  sequence : SequenceTracker := {}
  depacketizer : H264Depacketizer := {}
  invalidPackets : Nat := 0
  accessUnits : Nat := 0

namespace ReceiveLoop

/-- The packet a datagram passes the filter with: it parses, and its payload type is the one
of this transport. -/
def filterPacket (datagram : Bytes) : Option ParsedRtpPacket :=
  match parseRtpPacket datagram with
  | none => none
  | some packet => if packet.payloadType ≠ kH264PayloadType then none else some packet

/-- One datagram. The outer `none` is one the filter turns away. -/
def receive (loop : ReceiveLoop) (datagram : Bytes) :
    Option (Option CompletedAccessUnit) × ReceiveLoop :=
  match filterPacket datagram with
  | none => (none, { loop with invalidPackets := loop.invalidPackets + 1 })
  | some packet =>
    let sequence := loop.sequence.observe packet.sequence
    let (accessUnit, depacketizer) := loop.depacketizer.push packet
    let accessUnits := if accessUnit.isSome then loop.accessUnits + 1 else loop.accessUnits
    (some accessUnit, { loop with sequence, depacketizer, accessUnits })

/-- The same for the datagrams of a run, with the result of each. -/
def receiveAll (loop : ReceiveLoop) :
    List Bytes → List (Option (Option CompletedAccessUnit)) × ReceiveLoop
  | [] => ([], loop)
  | datagram :: datagrams =>
    let (result, loop) := loop.receive datagram
    let (results, loop) := loop.receiveAll datagrams
    (result :: results, loop)

end ReceiveLoop
end Ipmx.Receiver
