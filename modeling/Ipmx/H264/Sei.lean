/-
Ipmx.H264.Sei — `parse_h264_sei` of `h264.cpp`, and the SEI syntax of ITU-T
H.264 7.3.2.3 it reads.

The offset into the RBSP is the list of the bytes that are left. The two sums
of 64 bits are natural numbers: each is at most 255 for every byte of the
RBSP, so neither wraps.
-/
import Ipmx.H264.Rbsp
import Ipmx.Lib.Reads

namespace Ipmx.H264

def kH264NalSei : UInt8 := 6

structure H264SeiMessage where
  payloadType : UInt32
  payload : Bytes
deriving DecidableEq, Repr

/-! ## `parse_h264_sei` -/

abbrev ByteReader := StateT Bytes Option

/-- The `0xFF` bytes of a payload type or size and the byte behind them, on top of `value`. -/
def readFfExtended (value : Nat) : ByteReader Nat
  | [] => none
  | byte :: rest =>
    if byte = 0xFF then readFfExtended (value + 255) rest
    else some (value + byte.toNat, rest)

def readPayload (payloadSize : Nat) : ByteReader Bytes := fun rbsp =>
  if payloadSize > rbsp.length then none
  else some (rbsp.take payloadSize, rbsp.drop payloadSize)

/-- One turn of the loop. -/
def readSeiMessage : ByteReader H264SeiMessage := do
  let payloadType ← readFfExtended 0
  let payloadSize ← readFfExtended 0
  guard (payloadType ≤ 4294967295)
  let payload ← readPayload payloadSize
  return { payloadType := UInt32.ofNat payloadType, payload }

theorem length_lt_of_readFfExtended {value read : Nat} {rbsp rest : Bytes}
    (h : readFfExtended value rbsp = some (read, rest)) : rest.length < rbsp.length := by
  induction rbsp generalizing value with
  | nil => cases h
  | cons byte rbsp ih =>
    rw [readFfExtended] at h
    split at h
    · have := ih h
      simp only [List.length_cons]
      omega
    · cases h
      simp

/-- A turn of the loop leaves less than it found. -/
theorem length_lt_of_readSeiMessage {rbsp rest : Bytes} {message : H264SeiMessage}
    (h : readSeiMessage rbsp = some (message, rest)) : rest.length < rbsp.length := by
  obtain ⟨payloadType, rest₁, htype, h⟩ := Lib.bind_eq_some.mp h
  obtain ⟨payloadSize, rest₂, hsize, h⟩ := Lib.bind_eq_some.mp h
  obtain ⟨_, rest₃, hguard, h⟩ := Lib.bind_eq_some.mp h
  obtain ⟨payload, rest₄, hpayload, hpure⟩ := Lib.bind_eq_some.mp h
  have htype := length_lt_of_readFfExtended htype
  have hsize := length_lt_of_readFfExtended hsize
  have hsame : rest₃ = rest₂ := (Lib.guard_eq_some hguard).2
  have hdrop : rest₄.length ≤ rest₃.length := by
    unfold readPayload at hpayload
    split at hpayload
    · cases hpayload
    · cases hpayload
      simp
  cases hpure
  rw [hsame] at hdrop
  omega

/-- The loop: it ends behind the last byte, or in front of a final `0x80`. -/
def parseSeiMessages (rbsp : Bytes) : Option (List H264SeiMessage) :=
  if rbsp = [] ∨ rbsp = [0x80] then
    some []
  else
    match h : readSeiMessage rbsp with
    | none => none
    | some (message, rest) =>
      have := length_lt_of_readSeiMessage h
      (parseSeiMessages rest).map (message :: ·)
termination_by rbsp.length

def parseH264Sei (nal : NalUnit) : Option (List H264SeiMessage) :=
  match rbspFromNal nal kH264NalSei with
  | none => none
  | some rbsp => parseSeiMessages rbsp

/-! ## The SEI syntax -/

/-- `ff_byte`s and the last byte of a payload type or size. -/
def ffExtended (value : Nat) : Bytes :=
  List.replicate (value / 255) 0xFF ++ [UInt8.ofNat (value % 255)]

/-- `sei_message`. -/
def H264SeiMessage.encode (message : H264SeiMessage) : Bytes :=
  ffExtended message.payloadType.toNat ++ (ffExtended message.payload.length ++ message.payload)

/-- `sei_rbsp`, with `rbsp_trailing_bits` behind the messages. -/
def seiRbsp (messages : List H264SeiMessage) : Bytes :=
  messages.flatMap H264SeiMessage.encode ++ [0x80]

end Ipmx.H264
