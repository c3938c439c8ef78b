/-
Ipmx.Video.BgraToNv12 — `bgra_to_nv12.cpp`.

One loop over the 2x2 blocks of the source writes both planes of the result: a
luma byte for each pixel of the block and one chroma pair for the block. Reads
and writes go through pointers into `pixels`; one outside the vector is
undefined in the source and the fault `outOfRange` here. The loop variables and
the column index are 32-bit words, the offsets of rows and planes are `size_t`.
-/
import Ipmx.H264.Nal
import Ipmx.Lib.Painting
import Ipmx.Lib.Word64

namespace Ipmx.Video

open H264
open Ipmx.Lib

/-! ## `types.hpp` -/

/-- A `BgraFrame`, without its place in the frame timeline. -/
structure BgraFrame where
  width : UInt32
  height : UInt32
  stride : UInt32
  captureTimeNs : UInt64
  pixels : Bytes
deriving DecidableEq, Repr

structure Nv12Frame where
  width : UInt32 := 0
  height : UInt32 := 0
  yStride : UInt32 := 0
  uvStride : UInt32 := 0
  captureTimeNs : UInt64 := 0
  pixels : Bytes := []
deriving DecidableEq, Repr

/-- Where `uv_plane()` points into `pixels`. -/
def Nv12Frame.uvPlane (frame : Nv12Frame) : Nat := frame.yStride.toNat * frame.height.toNat

/-! ## The colour conversion of one pixel -/

def clampByte (value : Int) : UInt8 :=
  if value < 0 then 0 else if 255 < value then 255 else UInt8.ofNat value.toNat

def y709 (r g b : Int) : Int := ((47 * r + 157 * g + 16 * b + 128) >>> (8 : Nat)) + 16

def u709 (r g b : Int) : Int := ((-26 * r - 87 * g + 113 * b + 128) >>> (8 : Nat)) + 128

def v709 (r g b : Int) : Int := ((112 * r - 102 * g - 10 * b + 128) >>> (8 : Nat)) + 128

/-! ## `bgra_to_nv12` -/

inductive ConversionFault where
  | invalidArgument (what : String)
  | outOfRange
deriving DecidableEq, Repr

/-- What the loops over `dy` and `dx` change: the result's pixels and the three sums. -/
structure BlockState where
  pixels : Bytes
  r : Int := 0
  g : Int := 0
  b : Int := 0
deriving DecidableEq, Repr

/-- The body of the loops over `dy` and `dx`. -/
def convertPixel (source : BgraFrame) (result : Nv12Frame) (row column dy dx : UInt32)
    (s : BlockState) : Except ConversionFault BlockState := do
  let input := (row + dy).toNat * source.stride.toNat
  let b ← readCell .outOfRange source.pixels (input + ((column + dx) * 4 + 0).toNat)
  let g ← readCell .outOfRange source.pixels (input + ((column + dx) * 4 + 1).toNat)
  let r ← readCell .outOfRange source.pixels (input + ((column + dx) * 4 + 2).toNat)
  let pixels ← writeCell .outOfRange
    ((row + dy).toNat * result.yStride.toNat + column.toNat + dx.toNat)
    (clampByte (y709 r.toNat g.toNat b.toNat)) s.pixels
  return { pixels, r := s.r + r.toNat, g := s.g + g.toNat, b := s.b + b.toNat }

/-- The body of the loop over `column`. -/
def convertBlock (source : BgraFrame) (result : Nv12Frame) (row column : UInt32)
    (pixels : Bytes) : Except ConversionFault Bytes := do
  let output := result.uvPlane + (row / 2).toNat * result.uvStride.toNat
  let s ← convertPixel source result row column 0 0 { pixels }
  let s ← convertPixel source result row column 0 1 s
  let s ← convertPixel source result row column 1 0 s
  let s ← convertPixel source result row column 1 1 s
  let r := (s.r + 2).tdiv 4
  let g := (s.g + 2).tdiv 4
  let b := (s.b + 2).tdiv 4
  let pixels ← writeCell .outOfRange (output + column.toNat) (clampByte (u709 r g b)) s.pixels
  writeCell .outOfRange (output + (column + 1).toNat) (clampByte (v709 r g b)) pixels

/-- What a loop variable takes that goes from 0 in steps of 2 below an even limit. -/
def evenBelow (limit : UInt32) : List UInt32 :=
  (List.range (limit.toNat / 2)).map fun half => UInt32.ofNat (2 * half)

/-- The body of the loop over `row`. -/
def convertRow (source : BgraFrame) (result : Nv12Frame) (row : UInt32) (pixels : Bytes) :
    Except ConversionFault Bytes :=
  (evenBelow source.width).foldlM
    (fun pixels column => convertBlock source result row column pixels) pixels

/-- `std::vector::resize`. -/
def resize (bytes : Bytes) (size : Nat) : Bytes :=
  bytes.take size ++ List.replicate (size - bytes.length) 0

def bgraToNv12 (source : BgraFrame) (result : Nv12Frame) : Except ConversionFault Nv12Frame :=
  if source.width = 0 ∨ source.height = 0 ∨ source.width &&& 1 ≠ 0 ∨ source.height &&& 1 ≠ 0
      ∨ source.stride < source.width * 4
      ∨ source.pixels.length < source.stride.toNat * source.height.toNat then
    .error (.invalidArgument "BGRA frame must have valid even dimensions and stride")
  else do
    let size := Word64.wrap (source.width.toNat * source.height.toNat * 3) / 2
    let result : Nv12Frame :=
      { width := source.width, height := source.height, yStride := source.width
        uvStride := source.width, captureTimeNs := source.captureTimeNs
        pixels := resize result.pixels size }
    let pixels ← (evenBelow source.height).foldlM
      (fun pixels row => convertRow source result row pixels) result.pixels
    return { result with pixels }

end Ipmx.Video
