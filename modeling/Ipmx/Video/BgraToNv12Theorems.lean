/-
Ipmx.Video.BgraToNv12Theorems — the conversion is its per-pixel definition.

`IsNv12Of` says what an NV12 picture of a field of colours is, byte by byte. A
block paints six cells with values of one function of the position
(`paints_block`), the blocks of a source cover all cells, and so the result is
this function whatever the reused frame held (`convert_fills`). Nothing else of
the source is read, so equal colours give equal pixels (`bgraToNv12_exact`).
-/
import Ipmx.Video.BgraToNv12

namespace Ipmx.Video

open H264
open Ipmx.Lib

/-! ## What an NV12 picture is -/

/-- The colour bytes of a pixel, without its alpha. -/
structure Colour where
  blue : UInt8
  green : UInt8
  red : UInt8
deriving DecidableEq, Repr

/-- The colour of the pixel in a row and a column. -/
def BgraFrame.colour (source : BgraFrame) (row column : Nat) : Colour :=
  let input := row * source.stride.toNat + column * 4
  { blue := source.pixels.getD input 0
    green := source.pixels.getD (input + 1) 0
    red := source.pixels.getD (input + 2) 0 }

/-- The luma byte of a pixel. -/
def luma (colour : Colour) : UInt8 :=
  clampByte (y709 colour.red.toNat colour.green.toNat colour.blue.toNat)

/-- The rounded average of one component over a 2x2 block. -/
def blockAverage (colours : Nat → Nat → Colour) (component : Colour → UInt8) (row column : Nat) :
    Int :=
  (((component (colours (2 * row) (2 * column))).toNat
    + (component (colours (2 * row) (2 * column + 1))).toNat
    + (component (colours (2 * row + 1) (2 * column))).toNat
    + (component (colours (2 * row + 1) (2 * column + 1))).toNat + 2) / 4 : Nat)

/-- A chroma byte of a block, from the averages of its components. -/
def chroma (f : Int → Int → Int → Int) (colours : Nat → Nat → Colour) (row column : Nat) : UInt8 :=
  clampByte (f (blockAverage colours Colour.red row column)
    (blockAverage colours Colour.green row column) (blockAverage colours Colour.blue row column))

/-- `pixels` is the NV12 picture of the colours: a plane of luma bytes, and behind it a plane
of chroma pairs with one for each 2x2 block. -/
structure IsNv12Of (width height : Nat) (colours : Nat → Nat → Colour) (pixels : Bytes) :
    Prop where
  size : pixels.length = width * height * 3 / 2
  lumaBytes : ∀ row < height, ∀ column < width,
    pixels[row * width + column]? = some (luma (colours row column))
  chromaBytes : ∀ row < height / 2, ∀ column < width / 2,
    pixels[width * height + row * width + 2 * column]? = some (chroma u709 colours row column)
      ∧ pixels[width * height + row * width + 2 * column + 1]?
        = some (chroma v709 colours row column)

/-- The same as a function of the position. -/
def nv12Byte (width height : Nat) (colours : Nat → Nat → Colour) (p : Nat) : UInt8 :=
  if p < width * height then
    luma (colours (p / width) (p % width))
  else
    let row := (p - width * height) / width
    let column := (p - width * height) % width
    chroma (if column % 2 = 0 then u709 else v709) colours row (column / 2)

section Positions

variable {width height row column : Nat} (colours : Nat → Nat → Colour)

theorem position_lt (hrow : row < height) (hcolumn : column < width) :
    row * width + column < width * height := by
  calc row * width + column < row * width + width := by omega
    _ = (row + 1) * width := (Nat.succ_mul row width).symm
    _ ≤ height * width := Nat.mul_le_mul_right width hrow
    _ = width * height := Nat.mul_comm height width

theorem position_div (hcolumn : column < width) : (row * width + column) / width = row := by
  rw [Nat.mul_comm, Nat.mul_add_div (by omega), Nat.div_eq_of_lt hcolumn, Nat.add_zero]

theorem position_mod (hcolumn : column < width) : (row * width + column) % width = column := by
  rw [Nat.mul_comm, Nat.mul_add_mod, Nat.mod_eq_of_lt hcolumn]

theorem nv12Byte_luma (hrow : row < height) (hcolumn : column < width) :
    nv12Byte width height colours (row * width + column) = luma (colours row column) := by
  rw [nv12Byte, if_pos (position_lt hrow hcolumn), position_div hcolumn, position_mod hcolumn]

/-- Behind the luma plane. -/
theorem nv12Byte_plane (hcolumn : column < width) :
    nv12Byte width height colours (width * height + row * width + column)
      = chroma (if column % 2 = 0 then u709 else v709) colours row (column / 2) := by
  have hbehind : ¬ width * height + row * width + column < width * height := by omega
  have hoffset : width * height + row * width + column - width * height = row * width + column := by
    omega
  rw [nv12Byte, if_neg hbehind, hoffset]
  dsimp only
  rw [position_div hcolumn, position_mod hcolumn]

/-- The even columns of the chroma plane are those of the blue difference. -/
theorem nv12Byte_blue (hcolumn : 2 * column < width) :
    nv12Byte width height colours (width * height + row * width + 2 * column)
      = chroma u709 colours row column := by
  have hhalf : 2 * column / 2 = column := by omega
  rw [nv12Byte_plane colours hcolumn, if_pos (by omega), hhalf]

theorem nv12Byte_red (hcolumn : 2 * column + 1 < width) :
    nv12Byte width height colours (width * height + row * width + (2 * column + 1))
      = chroma v709 colours row column := by
  have hhalf : (2 * column + 1) / 2 = column := by omega
  rw [nv12Byte_plane colours hcolumn, if_neg (by omega), hhalf]

end Positions

/-! ## The cells of a block -/

/-- The cells that one block writes: four of luma, and a chroma pair. -/
def blockCells (width height row column : Nat) : List Nat :=
  [2 * row * width + 2 * column, 2 * row * width + (2 * column + 1),
   (2 * row + 1) * width + 2 * column, (2 * row + 1) * width + (2 * column + 1),
   width * height + row * width + 2 * column, width * height + row * width + (2 * column + 1)]

theorem exists_of_mem_evenBelow {limit word : UInt32} (h : word ∈ evenBelow limit) :
    ∃ half < limit.toNat / 2, word.toNat = 2 * half := by
  have hlimit := limit.toNat_lt
  obtain ⟨half, hhalf, rfl⟩ := List.mem_map.mp h
  rw [List.mem_range] at hhalf
  exact ⟨half, hhalf, UInt32.toNat_ofNat_of_lt' (show 2 * half < 2 ^ 32 by omega)⟩

theorem exists_mem_evenBelow {limit : UInt32} {half : Nat} (h : half < limit.toNat / 2) :
    ∃ word ∈ evenBelow limit, word.toNat = 2 * half := by
  have hlimit := limit.toNat_lt
  refine ⟨UInt32.ofNat (2 * half), List.mem_map.mpr ⟨half, List.mem_range.mpr h, rfl⟩, ?_⟩
  exact UInt32.toNat_ofNat_of_lt' (show 2 * half < 2 ^ 32 by omega)

/-- An even picture is two planes: its luma, and half as much. -/
theorem picture_size {width height : Nat} (hheight : height % 2 = 0) :
    width * height * 3 / 2 = width * height + width * (height / 2) := by
  obtain ⟨half, rfl⟩ : ∃ half, height = 2 * half := ⟨height / 2, by omega⟩
  have htwice : width * (2 * half) = 2 * (width * half) := Nat.mul_left_comm width 2 half
  rw [htwice, Nat.mul_div_cancel_left half (by decide)]
  omega

/-- Every cell of an even picture belongs to a block. -/
theorem exists_block {width height p : Nat} (hwidth : width % 2 = 0) (hheight : height % 2 = 0)
    (hp : p < width * height * 3 / 2) :
    ∃ row < height / 2, ∃ column < width / 2, p ∈ blockCells width height row column := by
  rw [picture_size hheight] at hp
  have hpositive : 0 < width := by
    rcases Nat.eq_zero_or_pos width with rfl | hpositive
    · simp at hp
    · exact hpositive
  by_cases hluma : p < width * height
  · have hrow : p / width < height := Nat.div_lt_of_lt_mul hluma
    have hcolumn := Nat.mod_lt p hpositive
    have hdecode : p / width * width + p % width = p := Nat.div_add_mod' p width
    generalize p / width = y at hrow hdecode
    generalize p % width = x at hcolumn hdecode
    refine ⟨y / 2, by omega, x / 2, by omega, ?_⟩
    have hy : y = 2 * (y / 2) ∨ y = 2 * (y / 2) + 1 := by omega
    have hx : x = 2 * (x / 2) ∨ x = 2 * (x / 2) + 1 := by omega
    simp only [blockCells, List.mem_cons, List.not_mem_nil, or_false]
    rcases hy with hy | hy <;> rcases hx with hx | hx <;> rw [← hy, ← hx, hdecode] <;> simp
  · obtain ⟨q, rfl⟩ := Nat.exists_eq_add_of_le (Nat.le_of_not_lt hluma)
    have hrow : q / width < height / 2 := Nat.div_lt_of_lt_mul (by omega)
    have hcolumn := Nat.mod_lt q hpositive
    have hdecode : q / width * width + q % width = q := Nat.div_add_mod' q width
    generalize q / width = y at hrow hdecode
    generalize q % width = x at hcolumn hdecode
    refine ⟨y, hrow, x / 2, by omega, ?_⟩
    have hx : x = 2 * (x / 2) ∨ x = 2 * (x / 2) + 1 := by omega
    simp only [blockCells, List.mem_cons, List.not_mem_nil, or_false]
    rcases hx with hx | hx <;> rw [← hx] <;> simp [← hdecode, Nat.add_assoc]

/-- The cells of a block are inside the picture. -/
theorem lt_of_mem_blockCells {width height row column p : Nat} (hheight : height % 2 = 0)
    (hrow : row < height / 2) (hcolumn : column < width / 2)
    (hp : p ∈ blockCells width height row column) : p < width * height * 3 / 2 := by
  rw [picture_size hheight]
  have hluma : ∀ y x, y < height → x < width →
      y * width + x < width * height + width * (height / 2) := by
    intro y x hy hx
    exact Nat.lt_add_right _ (position_lt hy hx)
  have hchroma : ∀ x, x < width →
      width * height + row * width + x < width * height + width * (height / 2) := by
    intro x hx
    rw [Nat.add_assoc]
    exact Nat.add_lt_add_left (position_lt hrow hx) _
  simp only [blockCells, List.mem_cons, List.not_mem_nil, or_false] at hp
  rcases hp with rfl | rfl | rfl | rfl | rfl | rfl
  · exact hluma _ _ (by omega) (by omega)
  · exact hluma _ _ (by omega) (by omega)
  · exact hluma _ _ (by omega) (by omega)
  · exact hluma _ _ (by omega) (by omega)
  · exact hchroma _ (by omega)
  · exact hchroma _ (by omega)

/-- What the source has checked, as far as the conversion rests on it, and the bound under
which `width * 4` does not wrap. -/
structure Convertible (source : BgraFrame) : Prop where
  evenWidth : source.width.toNat % 2 = 0
  evenHeight : source.height.toNat % 2 = 0
  narrow : 4 * source.width.toNat < 2 ^ 32
  stride : 4 * source.width.toNat ≤ source.stride.toNat
  pixels : source.stride.toNat * source.height.toNat ≤ source.pixels.length

/-- A colour byte of a pixel inside the picture is inside the vector. -/
theorem Convertible.read {source : BgraFrame} (h : Convertible source) {row column k : Nat}
    (hrow : row < source.height.toNat) (hcolumn : column < source.width.toNat) (hk : k < 4) :
    readCell ConversionFault.outOfRange source.pixels (row * source.stride.toNat + (column * 4 + k))
      = .ok (source.pixels.getD (row * source.stride.toNat + column * 4 + k) 0) := by
  have hbytes : column * 4 + k < source.stride.toNat := by
    have hstride := h.stride
    omega
  have hinside := position_lt hrow hbytes
  have hlength := h.pixels
  rw [readCell_of_lt _ 0 (Nat.lt_of_lt_of_le hinside hlength), Nat.add_assoc]

/-- One pixel: its luma byte is written, and its components are added to the sums. -/
theorem convertPixel_eq {source : BgraFrame} (h : Convertible source) {result : Nv12Frame}
    (hresult : result.yStride = source.width) {row column dy dx : UInt32} {y x : Nat}
    (hy : row.toNat + dy.toNat = y) (hx : column.toNat + dx.toNat = x)
    (hrow : y < source.height.toNat) (hcolumn : x < source.width.toNat) (s : BlockState) :
    convertPixel source result row column dy dx s
      = writeCell .outOfRange (y * source.width.toNat + x) (luma (source.colour y x)) s.pixels
        >>= fun pixels => .ok
          { pixels
            r := s.r + (source.colour y x).red.toNat
            g := s.g + (source.colour y x).green.toNat
            b := s.b + (source.colour y x).blue.toNat } := by
  have hheight := source.height.toNat_lt
  have hnarrow := h.narrow
  have hrowWord : (row + dy).toNat = y := by
    rw [UInt32.toNat_add, hy]
    exact Nat.mod_eq_of_lt (by omega)
  have hcolumnWord : ∀ k : UInt32, k.toNat < 4 →
      ((column + dx) * 4 + k).toNat = x * 4 + k.toNat := by
    intro k hk
    rw [UInt32.toNat_add, UInt32.toNat_mul, UInt32.toNat_add, hx]
    have hfour : (4 : UInt32).toNat = 4 := rfl
    rw [hfour]
    omega
  have hoffset : y * source.width.toNat + column.toNat + dx.toNat
      = y * source.width.toNat + x := by
    omega
  unfold convertPixel
  dsimp only
  rw [hrowWord, hcolumnWord 0 (by decide), hcolumnWord 1 (by decide), hcolumnWord 2 (by decide),
    hresult, hoffset, h.read hrow hcolumn (by decide), h.read hrow hcolumn (by decide),
    h.read hrow hcolumn (by decide)]
  rfl

/-- The truncating average of the source, over the natural numbers. -/
theorem average_eq (a b c d : Nat) :
    ((0 + (a : Int) + b + c + d + 2).tdiv 4) = ((a + b + c + d + 2) / 4 : Nat) := by
  have hsum : (0 + (a : Int) + b + c + d + 2) = ((a + b + c + d + 2 : Nat) : Int) := by
    omega
  rw [hsum]
  rfl

/-- The result as the loops see it: the fields are set, and only the pixels change. -/
structure LaidOut (source : BgraFrame) (result : Nv12Frame) : Prop where
  height : result.height = source.height
  yStride : result.yStride = source.width
  uvStride : result.uvStride = source.width

section Loops

variable {source : BgraFrame} (h : Convertible source) {result : Nv12Frame}
  (hresult : LaidOut source result)

/-- The writes of one block, in the order of the source. -/
def paintCells (source : BgraFrame) (cells : List Nat) (pixels : Bytes) :
    Except ConversionFault Bytes :=
  cells.foldlM (fun pixels p => writeCell .outOfRange p
    (nv12Byte source.width.toNat source.height.toNat source.colour p) pixels) pixels

include h hresult

/-- A block writes its cells, each with its own byte of the picture. -/
theorem convertBlock_eq {row column : UInt32} {i j : Nat} (hi : i < source.height.toNat / 2)
    (hj : j < source.width.toNat / 2) (hrow : row.toNat = 2 * i) (hcolumn : column.toNat = 2 * j)
    (pixels : Bytes) :
    convertBlock source result row column pixels
      = paintCells source (blockCells source.width.toNat source.height.toNat i j) pixels := by
  have hwidth := h.evenWidth
  have hheight := h.evenHeight
  have hnarrow := h.narrow
  have hone : (1 : UInt32).toNat = 1 := rfl
  have hhalf : (row / 2).toNat = i := by
    rw [UInt32.toNat_div, hrow]
    exact Nat.mul_div_cancel_left i (by decide)
  have hnext : (column + 1).toNat = 2 * j + 1 := by
    rw [UInt32.toNat_add, hcolumn, hone]
    exact Nat.mod_eq_of_lt (by omega)
  have hplane : result.uvPlane + i * result.uvStride.toNat
      = source.width.toNat * source.height.toNat + i * source.width.toNat := by
    rw [Nv12Frame.uvPlane, hresult.yStride, hresult.height, hresult.uvStride]
  have hpixel : ∀ dy dx : UInt32, dy.toNat ≤ 1 → dx.toNat ≤ 1 → ∀ s,
      convertPixel source result row column dy dx s
        = writeCell .outOfRange
            ((2 * i + dy.toNat) * source.width.toNat + (2 * j + dx.toNat))
            (nv12Byte source.width.toNat source.height.toNat source.colour
              ((2 * i + dy.toNat) * source.width.toNat + (2 * j + dx.toNat))) s.pixels
          >>= fun pixels => .ok
            { pixels
              r := s.r + (source.colour (2 * i + dy.toNat) (2 * j + dx.toNat)).red.toNat
              g := s.g + (source.colour (2 * i + dy.toNat) (2 * j + dx.toNat)).green.toNat
              b := s.b + (source.colour (2 * i + dy.toNat) (2 * j + dx.toNat)).blue.toNat } := by
    intro dy dx hdy hdx s
    rw [nv12Byte_luma _ (show 2 * i + dy.toNat < _ by omega) (by omega)]
    exact convertPixel_eq h hresult.yStride (by rw [hrow]) (by rw [hcolumn]) (by omega)
      (by omega) s
  have hzero : (0 : UInt32).toNat = 0 := rfl
  unfold convertBlock paintCells blockCells
  simp only [hhalf, hnext, hcolumn, hplane, hpixel 0 0 (by decide) (by decide),
    hpixel 0 1 (by decide) (by decide), hpixel 1 0 (by decide) (by decide),
    hpixel 1 1 (by decide) (by decide), hzero, hone, Nat.add_zero, bind_assoc, ok_bind,
    List.foldlM_cons, List.foldlM_nil, bind_pure, average_eq]
  rw [nv12Byte_blue _ (by omega), nv12Byte_red _ (by omega)]
  rfl

/-- A block of a picture paints its cells. -/
theorem paints_block {row column : UInt32} {i j : Nat} (hi : i < source.height.toNat / 2)
    (hj : j < source.width.toNat / 2) (hrow : row.toNat = 2 * i) (hcolumn : column.toNat = 2 * j) :
    Paints (convertBlock source result row column)
      (fun p => ∃ q ∈ blockCells source.width.toNat source.height.toNat i j, p = q)
      (nv12Byte source.width.toNat source.height.toNat source.colour)
      (source.width.toNat * source.height.toNat * 3 / 2) := by
  have heq : convertBlock source result row column
      = paintCells source (blockCells source.width.toNat source.height.toNat i j) :=
    funext (convertBlock_eq h hresult hi hj hrow hcolumn)
  rw [heq]
  exact Paints.foldlM fun p hp =>
    Paints.write _ (lt_of_mem_blockCells h.evenHeight hi hj hp) rfl

/-- The loops paint the blocks of all rows and columns. -/
theorem paints_blocks :
    Paints (fun pixels => (evenBelow source.height).foldlM
        (fun pixels row => convertRow source result row pixels) pixels)
      (fun p => ∃ row ∈ evenBelow source.height, ∃ column ∈ evenBelow source.width,
        ∃ q ∈ blockCells source.width.toNat source.height.toNat (row.toNat / 2)
          (column.toNat / 2), p = q)
      (nv12Byte source.width.toNat source.height.toNat source.colour)
      (source.width.toNat * source.height.toNat * 3 / 2) := by
  refine Paints.foldlM fun row hrow => Paints.foldlM fun column hcolumn => ?_
  obtain ⟨i, hi, hrow⟩ := exists_of_mem_evenBelow hrow
  obtain ⟨j, hj, hcolumn⟩ := exists_of_mem_evenBelow hcolumn
  have hrowHalf : row.toNat / 2 = i := by omega
  have hcolumnHalf : column.toNat / 2 = j := by omega
  rw [hrowHalf, hcolumnHalf]
  exact paints_block h hresult hi hj hrow hcolumn

/-- **The loops** leave the picture of the source, whatever they found. -/
theorem convert_fills {pixels : Bytes}
    (hsize : pixels.length = source.width.toNat * source.height.toNat * 3 / 2) :
    ∃ painted, (evenBelow source.height).foldlM
        (fun pixels row => convertRow source result row pixels) pixels = .ok painted
      ∧ painted.length = source.width.toNat * source.height.toNat * 3 / 2
      ∧ ∀ p < source.width.toNat * source.height.toNat * 3 / 2,
        painted[p]? = some (nv12Byte source.width.toNat source.height.toNat source.colour p) := by
  refine (paints_blocks h hresult).fills ?_ hsize
  intro p hp
  obtain ⟨i, hi, j, hj, hcell⟩ := exists_block h.evenWidth h.evenHeight hp
  obtain ⟨row, hrowMem, hrow⟩ := exists_mem_evenBelow hi
  obtain ⟨column, hcolumnMem, hcolumn⟩ := exists_mem_evenBelow hj
  have hrowHalf : row.toNat / 2 = i := by omega
  have hcolumnHalf : column.toNat / 2 = j := by omega
  refine ⟨row, hrowMem, column, hcolumnMem, p, ?_, rfl⟩
  rw [hrowHalf, hcolumnHalf]
  exact hcell

end Loops

/-! ## The picture of a source -/

namespace IsNv12Of

variable {width height : Nat} {colours colours' : Nat → Nat → Colour} {pixels pixels' : Bytes}

/-- A buffer that holds the byte of every position is the picture. -/
theorem of_bytes (hheight : height % 2 = 0) (hsize : pixels.length = width * height * 3 / 2)
    (hbytes : ∀ p < width * height * 3 / 2, pixels[p]? = some (nv12Byte width height colours p)) :
    IsNv12Of width height colours pixels := by
  rw [picture_size hheight] at hbytes
  refine ⟨hsize, ?_, ?_⟩
  · intro row hrow column hcolumn
    rw [hbytes _ (Nat.lt_add_right _ (position_lt hrow hcolumn)),
      nv12Byte_luma colours hrow hcolumn]
  · intro row hrow column hcolumn
    have hinside : ∀ x, x < width →
        width * height + row * width + x < width * height + width * (height / 2) := by
      intro x hx
      rw [Nat.add_assoc]
      exact Nat.add_lt_add_left (position_lt hrow hx) _
    constructor
    · rw [hbytes _ (hinside _ (by omega)), nv12Byte_blue colours (by omega)]
    · rw [Nat.add_assoc _ (2 * column) 1, hbytes _ (hinside _ (by omega)),
        nv12Byte_red colours (by omega)]

/-- Only the colours inside the picture matter. -/
theorem congr (h : IsNv12Of width height colours pixels)
    (hcolours : ∀ row < height, ∀ column < width, colours row column = colours' row column) :
    IsNv12Of width height colours' pixels := by
  have hchroma : ∀ f, ∀ row < height / 2, ∀ column < width / 2,
      chroma f colours row column = chroma f colours' row column := by
    intro f row hrow column hcolumn
    unfold chroma blockAverage
    rw [hcolours _ (by omega) _ (by omega), hcolours _ (by omega) _ (by omega),
      hcolours _ (by omega) _ (by omega), hcolours _ (by omega) _ (by omega)]
  refine ⟨h.size, ?_, ?_⟩
  · intro row hrow column hcolumn
    rw [h.lumaBytes row hrow column hcolumn, hcolours row hrow column hcolumn]
  · intro row hrow column hcolumn
    rw [← hchroma u709 row hrow column hcolumn, ← hchroma v709 row hrow column hcolumn]
    exact h.chromaBytes row hrow column hcolumn

/-- The definition leaves no byte open. -/
theorem unique (hwidth : width % 2 = 0) (hheight : height % 2 = 0)
    (h : IsNv12Of width height colours pixels) (h' : IsNv12Of width height colours pixels') :
    pixels = pixels' := by
  apply List.ext_getElem?
  intro p
  by_cases hp : p < width * height * 3 / 2
  · obtain ⟨row, hrow, column, hcolumn, hcell⟩ := exists_block hwidth hheight hp
    have hluma : ∀ y x, y < height → x < width →
        pixels[y * width + x]? = pixels'[y * width + x]? := by
      intro y x hy hx
      rw [h.lumaBytes y hy x hx, h'.lumaBytes y hy x hx]
    obtain ⟨hblue, hred⟩ := h.chromaBytes row hrow column hcolumn
    obtain ⟨hblue', hred'⟩ := h'.chromaBytes row hrow column hcolumn
    simp only [blockCells, List.mem_cons, List.not_mem_nil, or_false] at hcell
    rcases hcell with rfl | rfl | rfl | rfl | rfl | rfl
    · exact hluma _ _ (by omega) (by omega)
    · exact hluma _ _ (by omega) (by omega)
    · exact hluma _ _ (by omega) (by omega)
    · exact hluma _ _ (by omega) (by omega)
    · rw [hblue, hblue']
    · exact hred.trans hred'.symm
  · have hsize := h.size
    have hsize' := h'.size
    rw [List.getElem?_eq_none (by omega), List.getElem?_eq_none (by omega)]

end IsNv12Of

theorem length_resize (bytes : Bytes) (size : Nat) : (resize bytes size).length = size := by
  rw [resize, List.length_append, List.length_take, List.length_replicate]
  omega

/-- What is accepted can be converted, unless the width wraps. -/
theorem convertible_of_accepted {source : BgraFrame} {reused : Nv12Frame}
    (haccepted : ∀ what, bgraToNv12 source reused ≠ .error (.invalidArgument what))
    (hnarrow : 4 * source.width.toNat < 2 ^ 32) : Convertible source := by
  have heven : ∀ word : UInt32, word &&& 1 = 0 → word.toNat % 2 = 0 := by
    intro word hword
    have hbit := congrArg UInt32.toNat hword
    rw [UInt32.toNat_and] at hbit
    rwa [← Nat.and_one_is_mod]
  have hfour : (source.width * 4).toNat = 4 * source.width.toNat := by
    rw [UInt32.toNat_mul, Nat.mul_comm]
    exact Nat.mod_eq_of_lt hnarrow
  by_contra hnot
  refine haccepted _ (if_pos ?_)
  by_contra hpass
  simp only [not_or, not_not, not_lt] at hpass
  obtain ⟨_, _, hwidth, hheight, hstride, hpixels⟩ := hpass
  rw [UInt32.lt_iff_toNat_lt, hfour, not_lt] at hstride
  exact hnot ⟨heven _ hwidth, heven _ hheight, hnarrow, hstride, hpixels⟩

/-- The size of the result does not wrap. -/
theorem Convertible.size_eq {source : BgraFrame} (h : Convertible source) :
    Word64.wrap (source.width.toNat * source.height.toNat * 3) / 2
      = source.width.toNat * source.height.toNat * 3 / 2 := by
  have hwidth : source.width.toNat < 2 ^ 30 := by
    have hnarrow := h.narrow
    omega
  have harea : source.width.toNat * source.height.toNat < 2 ^ 30 * 2 ^ 32 :=
    Nat.mul_lt_mul'' hwidth source.height.toNat_lt
  rw [Word64.wrap_of_lt]
  rw [Word64.size]
  omega

/-- A source that can be converted is converted to its picture. -/
theorem bgraToNv12_convertible {source : BgraFrame} (h : Convertible source) {reused : Nv12Frame}
    (haccepted : ∀ what, bgraToNv12 source reused ≠ .error (.invalidArgument what)) :
    ∃ pixels, bgraToNv12 source reused = .ok
        { width := source.width, height := source.height, yStride := source.width
          uvStride := source.width, captureTimeNs := source.captureTimeNs, pixels }
      ∧ IsNv12Of source.width.toNat source.height.toNat source.colour pixels := by
  unfold bgraToNv12 at haccepted ⊢
  split at haccepted
  · exact absurd rfl (haccepted _)
  · next hpass =>
    rw [if_neg hpass, h.size_eq]
    dsimp only
    have hresult : LaidOut source
        { width := source.width, height := source.height, yStride := source.width
          uvStride := source.width, captureTimeNs := source.captureTimeNs
          pixels := resize reused.pixels (source.width.toNat * source.height.toNat * 3 / 2) } :=
      ⟨rfl, rfl, rfl⟩
    obtain ⟨painted, hrun, hsize, hbytes⟩ :=
      convert_fills h hresult (length_resize reused.pixels _)
    rw [hrun]
    exact ⟨painted, rfl, .of_bytes h.evenHeight hsize hbytes⟩

/-- **The conversion is its per-pixel definition, and depends on nothing else.** -/
theorem bgraToNv12_exact {source : BgraFrame} {reused : Nv12Frame}
    (haccepted : ∀ what, bgraToNv12 source reused ≠ .error (.invalidArgument what))
    (hnarrow : 4 * source.width.toNat < 2 ^ 32) :
    ∃ result, bgraToNv12 source reused = .ok result
      ∧ IsNv12Of source.width.toNat source.height.toNat source.colour result.pixels
      ∧ ∀ (other : BgraFrame) (reused' result' : Nv12Frame),
        bgraToNv12 other reused' = .ok result' →
          other.width = source.width → other.height = source.height →
          (∀ row < source.height.toNat, ∀ column < source.width.toNat,
            other.colour row column = source.colour row column) →
          result'.pixels = result.pixels := by
  have hsource := convertible_of_accepted haccepted hnarrow
  obtain ⟨pixels, hrun, hpicture⟩ := bgraToNv12_convertible hsource haccepted
  refine ⟨_, hrun, hpicture, ?_⟩
  intro other reused' result' hrun' hwidth hheight hcolours
  have haccepted' : ∀ what, bgraToNv12 other reused' ≠ .error (.invalidArgument what) := by
    intro what
    rw [hrun']
    exact fun h => nomatch h
  have hother := convertible_of_accepted haccepted' (by rw [hwidth]; exact hnarrow)
  obtain ⟨pixels', hpixels', hpicture'⟩ := bgraToNv12_convertible hother haccepted'
  obtain rfl := Except.ok.inj (hrun'.symm.trans hpixels')
  rw [hwidth, hheight] at hpicture'
  exact IsNv12Of.unique hsource.evenWidth hsource.evenHeight (hpicture'.congr hcolours) hpicture

/-- Red, green, blue and white, with four bytes of padding behind each row. -/
def mixedFrame : BgraFrame where
  width := 2
  height := 2
  stride := 12
  captureTimeNs := 5
  pixels := [0, 0, 255, 255, 0, 255, 0, 255, 99, 99, 99, 99,
    255, 0, 0, 255, 255, 255, 255, 255, 99, 99, 99, 99]

example : (bgraToNv12 mixedFrame {}).toOption.map Nv12Frame.pixels
    = some [63, 172, 32, 235, 128, 128] := by
  decide

theorem bgraToNv12_exact_mixed :
    ∃ result, bgraToNv12 mixedFrame { pixels := [7, 7, 7, 7, 7, 7, 7, 7] } = .ok result
      ∧ IsNv12Of 2 2 mixedFrame.colour result.pixels := by
  have hrun : (bgraToNv12 mixedFrame { pixels := [7, 7, 7, 7, 7, 7, 7, 7] }).toOption.isSome := by
    decide
  obtain ⟨converted, hconverted⟩ := exists_of_isSome hrun
  have haccepted : ∀ what, bgraToNv12 mixedFrame { pixels := [7, 7, 7, 7, 7, 7, 7, 7] }
      ≠ .error (.invalidArgument what) := by
    intro what
    rw [hconverted]
    exact fun h => nomatch h
  obtain ⟨result, hresult, hpicture, _⟩ := bgraToNv12_exact haccepted (by decide)
  exact ⟨result, hresult, hpicture⟩

end Ipmx.Video
