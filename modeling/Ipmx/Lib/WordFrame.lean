/-
Ipmx.Lib.WordFrame — frames of 32-bit words that carry their own length.

A frame is a tag of two bytes, the number of 32-bit words behind the length
field in two bytes, and those words. `frameLength` is the length a reader
takes from the length field; `frameLength_wordFrame` says that it is the
length of the frame, whatever follows it. A list of frames can therefore be
walked from its first byte.
-/
import Ipmx.Lib.BigEndian

namespace Ipmx.Lib

open BigEndian

/-- The frame of a tag around a body of whole words. -/
def wordFrame (tag body : List UInt8) : List UInt8 :=
  tag ++ (encode 2 (body.length / 4) ++ body)

/-- The length that the length field of a frame announces. -/
def frameLength (bytes : List UInt8) : Nat :=
  (decode ((bytes.drop 2).take 2) + 1) * 4

/-- A body that the length field of a frame can announce. -/
structure FrameBody (body : List UInt8) : Prop where
  aligned : body.length % 4 = 0
  fits : body.length / 4 < 65536

variable {tag body : List UInt8}

theorem length_wordFrame (htag : tag.length = 2) :
    (wordFrame tag body).length = 4 + body.length := by
  simp only [wordFrame, List.length_append, length_encode, htag]
  omega

theorem lengthField_wordFrame (htag : tag.length = 2) (rest : List UInt8) :
    ((wordFrame tag body ++ rest).drop 2).take 2 = encode 2 (body.length / 4) := by
  rw [wordFrame, List.append_assoc, List.drop_left' htag, List.append_assoc,
    List.take_left' (by simp)]

theorem frameLength_wordFrame (htag : tag.length = 2) (hbody : FrameBody body)
    (rest : List UInt8) :
    frameLength (wordFrame tag body ++ rest) = (wordFrame tag body).length := by
  have haligned := hbody.aligned
  have hfits := hbody.fits
  rw [frameLength, lengthField_wordFrame htag, decode_encode_of_lt (by simpa using hfits),
    length_wordFrame htag]
  omega

/-- Frames in a row make a body for the frame around them. -/
theorem FrameBody.length_wordFrame (htag : tag.length = 2) (hbody : FrameBody body) :
    (wordFrame tag body).length % 4 = 0 := by
  have haligned := hbody.aligned
  rw [Lib.length_wordFrame htag]
  omega

end Ipmx.Lib
