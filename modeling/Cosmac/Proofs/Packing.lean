import Cosmac.Picture
import Mathlib.Tactic.SplitIfs

/-!
# Pixels in bytes

The bytes of a picture are its pixels row by row, eight to a byte and the most significant bit first,
and the bits that are left over in the last byte are not set. `bits_data` says so of the picture as a
whole, as an equation between two lists of bits.

Both lists are numbered from end to end: cell `n` is bit `n % 8` of byte `n / 8` (`flatMap_digits_data`),
and it is the pixel at column `n % w` and row `n / w` (`pixels_eq`). What is left over are the cells
from `w * h` on, and no pixel has its place there, so once they are unset they stay so
(`Padded.toggle`).
-/

namespace Cosmac

/-- The binary digits of a byte, the most significant first. -/
def digits (b : UInt8) : List Bool := (List.range 8).map fun k => b.toNat.testBit (7 - k)

/-- A bit of a byte is a digit of its number. -/
theorem bitOf_eq_testBit (b : UInt8) {k : Nat} (hk : k < 8) :
    bitOf b k = b.toNat.testBit (7 - k) := by
  rw [bitOf, BitVec.getMsbD, decide_eq_true hk, Bool.true_and]
  rfl

/-- The bits of a byte are the digits of its number. -/
theorem digits_eq (b : UInt8) : digits b = (List.range 8).map (bitOf b) :=
  List.map_congr_left fun _ hk => (bitOf_eq_testBit b (List.mem_range.1 hk)).symm

/-- Rows of the same length make one list, in which the row and the column are found by division. -/
theorem flatMap_rows {α : Type} (w h : Nat) (f : Nat → Nat → α) :
    ((List.range h).flatMap fun y => (List.range w).map (f y)) =
      (List.range (w * h)).map fun n => f (n / w) (n % w) := by
  induction h with
  | zero => rfl
  | succ h ih =>
    -- The last row begins after all the others, that is at `w * h`.
    have hlast : (List.range w).map (f h) =
        (List.range w).map fun x => f ((w * h + x) / w) ((w * h + x) % w) := by
      refine List.map_congr_left fun x hx => ?_
      have hx : x < w := List.mem_range.1 hx
      rw [Nat.mul_add_div (Nat.zero_lt_of_lt hx), Nat.div_eq_of_lt hx, Nat.mul_add_mod,
        Nat.mod_eq_of_lt hx, Nat.add_zero]
    rw [List.range_succ, List.flatMap_append, ih, List.flatMap_singleton, hlast, Nat.mul_succ,
      List.range_add, List.map_append, List.map_map]
    rfl

namespace Picture

variable {w h : Nat} (p : Picture w h)

/-! ## Places -/

/-- The column of a place is what is left when it is divided by the width. -/
theorem place_mod (x y : Nat) : place w h x y % w = x % w := by
  rw [place, Nat.mul_add_mod_self_right, Nat.mod_mod]

/-- The row of a place is found by dividing by the width. -/
theorem place_div (x y : Nat) (hw : 0 < w) : place w h x y / w = y % h := by
  rw [place, Nat.mul_comm, Nat.mul_add_div hw, Nat.div_eq_of_lt (Nat.mod_lt x hw), Nat.add_zero]

/-- Points have the same place when they are in the same column and row after wrapping around. -/
theorem place_eq_iff {x y x' y' : Nat} (area : 0 < w * h) :
    place w h x y = place w h x' y' ↔ x % w = x' % w ∧ y % h = y' % h := by
  have hw : 0 < w := Nat.pos_of_mul_pos_right area
  constructor
  · intro heq
    rw [← place_mod x y, ← place_mod x' y', ← place_div x y hw, ← place_div x' y' hw, heq]
    exact ⟨rfl, rfl⟩
  · rintro ⟨hx, hy⟩
    rw [place, place, hx, hy]

/-- The place of the pixel that is found by division is the number that was divided. -/
theorem place_div_mod {n : Nat} (hn : n < w * h) : place w h (n % w) (n / w) = n := by
  have hrow : n / w < h := Nat.div_lt_of_lt_mul hn
  rw [place, Nat.mod_mod, Nat.mod_eq_of_lt hrow, Nat.mul_comm, Nat.div_add_mod]

/-- A pixel inside the picture does not wrap around. -/
theorem pixel_eq_cell {x y : Nat} (hx : x < w) (hy : y < h) :
    y * w + x < w * h ∧ p.pixel x y = p.cell (y * w + x) := by
  have area : 0 < w * h := Nat.mul_pos (Nat.zero_lt_of_lt hx) (Nat.zero_lt_of_lt hy)
  have hplace : place w h x y = y * w + x := by
    rw [place, Nat.mod_eq_of_lt hx, Nat.mod_eq_of_lt hy]
  rw [pixel, if_pos area, ← hplace]
  exact ⟨place_lt x y area, rfl⟩

/-! ## Cells and bytes -/

/-- Pictures are the same when all their cells are. -/
theorem ext_cell {p q : Picture w h} (hcell : ∀ n, p.cell n = q.cell n) : p = q := by
  cases p
  cases q
  congr 1
  refine Vector.ext fun i hi => UInt8.toBitVec_inj.1 (BitVec.eq_of_getMsbD_eq fun k hk => ?_)
  have hbit := hcell (8 * i + k)
  have hbyte : (8 * i + k) / 8 = i := by omega
  have hplace : (8 * i + k) % 8 = k := by omega
  simpa only [cell, hbyte, hplace, Vector.getElem?_eq_getElem hi, Option.getD_some, bitOf] using hbit

/-! ## The pixels as a list -/

/-- The pixels, row by row. -/
def pixels : List Bool :=
  (List.range h).flatMap fun y => (List.range w).map fun x => p.pixel x y

/-- The pixels are the cells up to their number. -/
theorem pixels_eq : p.pixels = (List.range (w * h)).map p.cell := by
  rw [pixels, flatMap_rows w h fun y x => p.pixel x y]
  refine List.map_congr_left fun n hn => ?_
  have hn : n < w * h := List.mem_range.1 hn
  rw [pixel, if_pos (Nat.zero_lt_of_lt hn), place_div_mod hn]

/-! ## The bits of the bytes -/

theorem length_data : p.data.length = byteCount (w * h) := Vector.length_toList

/-- The bits of the bytes are all cells, those that are no pixels included. -/
theorem flatMap_digits_data :
    p.data.flatMap digits = (List.range (8 * byteCount (w * h))).map p.cell := by
  have hdata : p.data = (List.range (byteCount (w * h))).map fun i => p.bytes[i]?.getD 0 := by
    refine List.ext_getElem (by simp [data]) fun i hi _ => ?_
    have hi : i < byteCount (w * h) := p.length_data ▸ hi
    simp [data, Vector.getElem?_eq_getElem hi]
  rw [hdata, List.flatMap_map]
  simp only [digits_eq]
  exact flatMap_rows 8 _ fun i k => bitOf (p.bytes[i]?.getD 0) k

/-- No cell is lit that is not a pixel. -/
def Padded : Prop := ∀ n, w * h ≤ n → p.cell n = false

/-- The bytes of a picture hold its pixels and otherwise nothing. -/
theorem bits_data (hp : p.Padded) : p.data.flatMap digits =
    p.pixels ++ List.replicate (8 * byteCount (w * h) - w * h) false := by
  have hall : 8 * byteCount (w * h) = w * h + (8 * byteCount (w * h) - w * h) := by
    unfold byteCount
    omega
  have hrest : ∀ r, (List.range r).map (p.cell ∘ (w * h + ·)) = List.replicate r false := by
    intro r
    have hunset : ∀ k ∈ List.range r, (p.cell ∘ (w * h + ·)) k = false :=
      fun k _ => hp _ (Nat.le_add_right _ k)
    rw [List.map_congr_left hunset, List.map_const', List.length_range]
  rw [flatMap_digits_data, pixels_eq, hall, List.range_add, List.map_append, List.map_map, hrest,
    Nat.add_sub_cancel_left]

/-- A blank picture has no cell lit. -/
theorem cell_blank (n : Nat) : (blank w h).cell n = false := by
  have hbyte : (blank w h).bytes[n / 8]?.getD 0 = 0 := by
    rw [blank, Vector.getElem?_replicate]
    split <;> rfl
  rw [cell, hbyte, bitOf]
  exact BitVec.getMsbD_zero

theorem padded_blank : (blank w h).Padded := fun n _ => cell_blank n

/-- Inverting a pixel reaches no cell that is not a pixel. -/
theorem Padded.toggle {p : Picture w h} (hp : p.Padded) (x y : Nat) : (p.toggle x y).Padded := by
  intro n hn
  rcases Nat.eq_zero_or_pos (w * h) with hzero | area
  · rw [Picture.toggle, dif_neg (by omega)]
    exact hp n hn
  · have hplace := place_lt x y area
    rw [cell_toggle p x y area, hp n hn, decide_eq_false (by omega)]
    rfl

end Picture

end Cosmac
