/-
Ipmx.Video.NarrowRange — how far the converted picture keeps to the narrow range.

The stream signals narrow range: luma in 16..235, chroma in 16..240. The
luma of every colour is in range, and so is the red difference. The blue
difference has the peak 113 where the red one has 112, so that it leaves the
range by one at saturated blue and at saturated yellow (`u709_narrow_iff`), and
only there. A picture is in range exactly if it has no such block
(`bgraToNv12_narrowRange_iff`).
-/
import Ipmx.Video.BgraToNv12Theorems

namespace Ipmx.Video

open H264
open Ipmx.Lib

/-! ## The range -/

/-- The bytes of a picture are in the narrow range: the luma plane in 16..235, and the chroma
plane behind it in 16..240. -/
structure NarrowRange (width height : Nat) (pixels : Bytes) : Prop where
  luma : ∀ byte ∈ pixels.take (width * height), 16 ≤ byte ∧ byte ≤ 235
  chroma : ∀ byte ∈ pixels.drop (width * height), 16 ≤ byte ∧ byte ≤ 240

/-- The sum of one component over a 2x2 block. -/
def blockSum (colours : Nat → Nat → Colour) (component : Colour → UInt8) (row column : Nat) :
    Nat :=
  (component (colours (2 * row) (2 * column))).toNat
    + (component (colours (2 * row) (2 * column + 1))).toNat
    + (component (colours (2 * row + 1) (2 * column))).toNat
    + (component (colours (2 * row + 1) (2 * column + 1))).toNat

/-- A block of saturated blue or of saturated yellow, each sum off by one or two at most. -/
def Saturated (colours : Nat → Nat → Colour) (row column : Nat) : Prop :=
  (blockSum colours Colour.red row column ≤ 1 ∧ blockSum colours Colour.green row column ≤ 1
      ∧ 1018 ≤ blockSum colours Colour.blue row column)
    ∨ (1018 ≤ blockSum colours Colour.red row column
      ∧ 1018 ≤ blockSum colours Colour.green row column
      ∧ blockSum colours Colour.blue row column ≤ 1)

instance (colours : Nat → Nat → Colour) (row column : Nat) :
    Decidable (Saturated colours row column) :=
  inferInstanceAs (Decidable (_ ∨ _))

/-! ## One byte -/

/-- A range inside of what `clamp_byte` can return is not widened by it. -/
theorem clampByte_between_iff {low high : UInt8} (hlow : 0 < low) (hhigh : high < 255)
    (value : Int) :
    low ≤ clampByte value ∧ clampByte value ≤ high
      ↔ (low.toNat : Int) ≤ value ∧ value ≤ high.toNat := by
  rw [UInt8.lt_iff_toNat_lt] at hlow hhigh
  simp only [UInt8.le_iff_toNat_le]
  have hzero : (0 : UInt8).toNat = 0 := rfl
  have htop : (255 : UInt8).toNat = 255 := rfl
  unfold clampByte
  split
  · omega
  · split
    · omega
    · next hpositive hsmall =>
      have hvalue : (UInt8.ofNat value.toNat).toNat = value.toNat :=
        UInt8.toNat_ofNat_of_lt' (show value.toNat < 256 by omega)
      rw [hvalue]
      omega

section Components

variable {r g b : Nat} (hr : r ≤ 255) (hg : g ≤ 255) (hb : b ≤ 255)

include hr hg hb

theorem y709_narrow : 16 ≤ y709 r g b ∧ y709 r g b ≤ 235 := by
  rw [y709, Int.shiftRight_eq_div_pow]
  omega

theorem v709_narrow : 16 ≤ v709 r g b ∧ v709 r g b ≤ 240 := by
  rw [v709, Int.shiftRight_eq_div_pow]
  omega

/-- The blue difference leaves the range at saturated blue and at saturated yellow. -/
theorem u709_narrow_iff :
    16 ≤ u709 r g b ∧ u709 r g b ≤ 240
      ↔ ¬ (r = 0 ∧ g = 0 ∧ b = 255) ∧ ¬ (r = 255 ∧ g = 255 ∧ b = 0) := by
  rw [u709, Int.shiftRight_eq_div_pow]
  omega

end Components

/-! ## Luma and chroma of a colour -/

variable (colours : Nat → Nat → Colour) (row column : Nat)

theorem luma_narrow (colour : Colour) : 16 ≤ luma colour ∧ luma colour ≤ 235 := by
  have hrange := y709_narrow (Nat.le_of_lt_succ colour.red.toNat_lt)
    (Nat.le_of_lt_succ colour.green.toNat_lt) (Nat.le_of_lt_succ colour.blue.toNat_lt)
  exact (clampByte_between_iff (by decide) (by decide) _).mpr hrange

theorem blockAverage_eq (component : Colour → UInt8) :
    blockAverage colours component row column
      = ((blockSum colours component row column + 2) / 4 : Nat) :=
  rfl

theorem blockSum_le (component : Colour → UInt8) :
    blockSum colours component row column ≤ 1020 := by
  have hbyte : ∀ y x, (component (colours y x)).toNat < 256 := fun y x => UInt8.toNat_lt _
  have h₁ := hbyte (2 * row) (2 * column)
  have h₂ := hbyte (2 * row) (2 * column + 1)
  have h₃ := hbyte (2 * row + 1) (2 * column)
  have h₄ := hbyte (2 * row + 1) (2 * column + 1)
  unfold blockSum
  omega

theorem chroma_v709_narrow :
    16 ≤ chroma v709 colours row column ∧ chroma v709 colours row column ≤ 240 := by
  have hred := blockSum_le colours row column Colour.red
  have hgreen := blockSum_le colours row column Colour.green
  have hblue := blockSum_le colours row column Colour.blue
  rw [chroma, clampByte_between_iff (by decide) (by decide)]
  simp only [blockAverage_eq]
  exact v709_narrow (by omega) (by omega) (by omega)

/-- The blue difference of a block is in range unless the block is saturated. -/
theorem chroma_u709_narrow_iff :
    16 ≤ chroma u709 colours row column ∧ chroma u709 colours row column ≤ 240
      ↔ ¬ Saturated colours row column := by
  have hred := blockSum_le colours row column Colour.red
  have hgreen := blockSum_le colours row column Colour.green
  have hblue := blockSum_le colours row column Colour.blue
  rw [chroma, clampByte_between_iff (by decide) (by decide)]
  simp only [blockAverage_eq]
  refine (u709_narrow_iff (by omega) (by omega) (by omega)).trans ?_
  unfold Saturated
  omega

/-! ## The planes of a picture -/

namespace IsNv12Of

variable {width height : Nat} {colours : Nat → Nat → Colour} {pixels : Bytes}

/-- Every byte of the luma plane is the luma of a pixel. -/
theorem exists_luma (h : IsNv12Of width height colours pixels) {byte : UInt8}
    (hbyte : byte ∈ pixels.take (width * height)) :
    ∃ row column, byte = luma (colours row column) := by
  obtain ⟨p, hp, rfl⟩ := List.mem_take_iff_getElem.mp hbyte
  have hinside : p < width * height := by omega
  have hwidth : 0 < width := Nat.pos_of_mul_pos_right (Nat.zero_lt_of_lt hinside)
  have hcell := h.lumaBytes (p / width) (Nat.div_lt_of_lt_mul hinside) (p % width)
    (Nat.mod_lt p hwidth)
  rw [Nat.div_add_mod', List.getElem?_eq_getElem (by omega)] at hcell
  exact ⟨_, _, Option.some.inj hcell⟩

/-- Every byte of the chroma plane is one of the pair of a block. -/
theorem exists_chroma (hwidth : width % 2 = 0) (hheight : height % 2 = 0)
    (h : IsNv12Of width height colours pixels) {byte : UInt8}
    (hbyte : byte ∈ pixels.drop (width * height)) :
    ∃ row < height / 2, ∃ column < width / 2,
      byte = chroma u709 colours row column ∨ byte = chroma v709 colours row column := by
  obtain ⟨q, hq, rfl⟩ := List.mem_drop_iff_getElem.mp hbyte
  have hsize := h.size
  obtain ⟨row, hrow, column, hcolumn, hcell⟩ :=
    exists_block (p := width * height + q) hwidth hheight (by omega)
  obtain ⟨hblue, hred⟩ := h.chromaBytes row hrow column hcolumn
  have hluma : ∀ y x, y < height → x < width → width * height + q ≠ y * width + x := by
    intro y x hy hx heq
    have := position_lt hy hx
    omega
  refine ⟨row, hrow, column, hcolumn, ?_⟩
  simp only [blockCells, List.mem_cons, List.not_mem_nil, or_false] at hcell
  rcases hcell with heq | heq | heq | heq | heq | heq
  · exact absurd heq (hluma _ _ (by omega) (by omega))
  · exact absurd heq (hluma _ _ (by omega) (by omega))
  · exact absurd heq (hluma _ _ (by omega) (by omega))
  · exact absurd heq (hluma _ _ (by omega) (by omega))
  · rw [← heq, List.getElem?_eq_getElem (by omega)] at hblue
    exact .inl (Option.some.inj hblue)
  · rw [← Nat.add_assoc] at heq
    rw [← heq, List.getElem?_eq_getElem (by omega)] at hred
    exact .inr (Option.some.inj hred)

/-- The blue difference of every block is in the chroma plane. -/
theorem chroma_mem (h : IsNv12Of width height colours pixels) {row column : Nat}
    (hrow : row < height / 2) (hcolumn : column < width / 2) :
    chroma u709 colours row column ∈ pixels.drop (width * height) := by
  have hblue := (h.chromaBytes row hrow column hcolumn).1
  rw [Nat.add_assoc, ← List.getElem?_drop] at hblue
  exact List.mem_of_getElem? hblue

/-- **A picture is in the narrow range exactly if it has no saturated block.** -/
theorem narrowRange_iff (hwidth : width % 2 = 0) (hheight : height % 2 = 0)
    (h : IsNv12Of width height colours pixels) :
    NarrowRange width height pixels
      ↔ ∀ row < height / 2, ∀ column < width / 2, ¬ Saturated colours row column := by
  constructor
  · intro hrange row hrow column hcolumn
    rw [← chroma_u709_narrow_iff]
    exact hrange.chroma _ (h.chroma_mem hrow hcolumn)
  · intro hblocks
    constructor
    · intro byte hbyte
      obtain ⟨row, column, rfl⟩ := h.exists_luma hbyte
      exact luma_narrow _
    · intro byte hbyte
      obtain ⟨row, hrow, column, hcolumn, rfl | rfl⟩ := h.exists_chroma hwidth hheight hbyte
      · exact (chroma_u709_narrow_iff colours row column).mpr (hblocks row hrow column hcolumn)
      · exact chroma_v709_narrow colours row column

end IsNv12Of

/-! ## What `bgra_to_nv12` returns -/

/-- **When the conversion stays in the narrow range.** Every source that is accepted is
converted, and the result is in range exactly if no block of the source is saturated. -/
theorem bgraToNv12_narrowRange_iff {source : BgraFrame} {reused : Nv12Frame}
    (haccepted : ∀ what, bgraToNv12 source reused ≠ .error (.invalidArgument what))
    (hwidth : source.width.toNat < 2 ^ 30) :
    ∃ result, bgraToNv12 source reused = .ok result
      ∧ (NarrowRange source.width.toNat source.height.toNat result.pixels
        ↔ ∀ row < source.height.toNat / 2, ∀ column < source.width.toNat / 2,
          ¬ Saturated source.colour row column) := by
  have hsource := convertible_of_accepted haccepted (by omega)
  obtain ⟨pixels, hrun, hpicture⟩ := bgraToNv12_convertible hsource haccepted
  exact ⟨_, hrun, hpicture.narrowRange_iff hsource.evenWidth hsource.evenHeight⟩

/-- A block of black, white, red and grey. -/
def mutedFrame : BgraFrame where
  width := 2
  height := 2
  stride := 8
  captureTimeNs := 5
  pixels := [0, 0, 0, 255, 255, 255, 255, 255, 0, 0, 255, 255, 128, 128, 128, 255]

theorem bgraToNv12_narrowRange_muted :
    ∃ result, bgraToNv12 mutedFrame {} = .ok result ∧ NarrowRange 2 2 result.pixels := by
  have hrun : (bgraToNv12 mutedFrame {}).toOption.isSome := by decide
  obtain ⟨converted, hconverted⟩ := exists_of_isSome hrun
  have haccepted : ∀ what, bgraToNv12 mutedFrame {} ≠ .error (.invalidArgument what) := by
    intro what
    rw [hconverted]
    exact fun h => nomatch h
  obtain ⟨result, hresult, hrange⟩ := bgraToNv12_narrowRange_iff haccepted (by decide)
  exact ⟨result, hresult, hrange.mpr (by decide)⟩

/-- Saturated blue. -/
def blueFrame : BgraFrame where
  width := 2
  height := 2
  stride := 8
  captureTimeNs := 5
  pixels := [255, 0, 0, 255, 255, 0, 0, 255, 255, 0, 0, 255, 255, 0, 0, 255]

/-- A blue frame is accepted, and its blue difference is 241. -/
theorem bgraToNv12_blue :
    ∃ result, bgraToNv12 blueFrame {} = .ok result
      ∧ result.pixels = [32, 32, 32, 32, 241, 118] ∧ ¬ NarrowRange 2 2 result.pixels := by
  have hrun : ∃ result ∈ (bgraToNv12 blueFrame {}).toOption,
      result.pixels = [32, 32, 32, 32, 241, 118] := by
    decide
  obtain ⟨result, hresult, hpixels⟩ := hrun
  refine ⟨result, toOption_eq_some.mp hresult, hpixels, ?_⟩
  intro hrange
  have hblue := hrange.chroma 241 (by rw [hpixels]; decide)
  exact absurd hblue (by decide)

end Ipmx.Video
