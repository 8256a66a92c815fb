import Cosmac.Picture.Points
import Cosmac.Proofs.Packing
import Mathlib.Data.List.Nodup

/-!
# The two planes of a picture

A walk over the packed bytes takes the bit of a pixel by a shift, where a picture reads its pixels by a
mask. Both come to the same digit of the byte (`shifted_eq_bitFor`, `bitOf_iff_mask`). As long as it stays
among the pixels of a picture, a walk finds each byte that it asks for and has columns to divide by, so
it comes to its end (`walk_eq`), and what it has found are the points of the cells of its colour, the
last one first.

A cell can be told from its point (`number_pointOf`). So the two lists together have each point of the
picture once, because each cell has one of the two colours.
-/

namespace Cosmac

/-! ## Bits by shifts and by masks -/

/-- Shifting a bit out of a byte gives one if it is set, and zero if not. -/
theorem shifted_eq_bitFor (b : UInt8) {k : Nat} (hk : k < 8) :
    1 &&& (b >>> UInt8.ofNat (7 - k)) = Picture.bitFor (bitOf b k) := by
  have hshift : (UInt8.ofNat (7 - k)).toNat % 8 = 7 - k := by
    rw [UInt8.toNat_ofNat']
    omega
  have hone : (1 : UInt8).toNat = 1 := rfl
  rw [bitOf_eq_testBit b hk, ← UInt8.toNat_inj, UInt8.toNat_and, UInt8.toNat_shiftRight, hshift, hone,
    Nat.one_and_eq_mod_two, Nat.testBit_eq_decide_div_mod_eq, ← Nat.shiftRight_eq_div_pow]
  rcases Nat.mod_two_eq_zero_or_one (b.toNat >>> (7 - k)) with hbit | hbit <;> rw [hbit] <;> rfl

/-- A bit is set when its mask has something in common with the byte. -/
theorem bitOf_iff_mask (b : UInt8) {k : Nat} (hk : k < 8) :
    bitOf b k = true ↔ b &&& maskOf k ≠ 0 := by
  have hand : ∀ j < 8, bitOf (b &&& maskOf k) j = (bitOf b j && decide (j = k)) := by
    intro j hj
    rw [← bitOf_maskOf hj hk, bitOf, UInt8.toBitVec_and, BitVec.getMsbD_and]
    rfl
  constructor
  · intro hset hzero
    have hnone : bitOf 0 k = false := BitVec.getMsbD_zero
    have hbit := hand k hk
    rw [hzero, hnone, hset, decide_eq_true rfl] at hbit
    cases hbit
  · intro hne
    rcases hbit : bitOf b k with _ | _
    · -- Then the byte and the mask have no bit in common at all.
      refine absurd (UInt8.toBitVec_inj.1 (BitVec.eq_of_getMsbD_eq fun j hj => ?_)) hne
      have hnone : bitOf (b &&& maskOf k) j = false := by
        rw [hand j hj]
        by_cases hjk : j = k
        · rw [hjk, hbit, Bool.false_and]
        · rw [decide_eq_false hjk, Bool.and_false]
      exact hnone.trans BitVec.getMsbD_zero.symm
    · rfl

namespace Picture

/-! ## The walk -/

/-- A pixel can be told from its point. -/
theorem number_pointOf (w n : Nat) : (-(pointOf w n).2).toNat * w + (pointOf w n).1 = n := by
  rw [pointOf, Int.neg_neg, Int.toNat_natCast, Nat.mul_comm, Nat.div_add_mod]

variable {w h : Nat} (p : Picture w h) {n : Nat}

/-- The walk finds the bit of each pixel. -/
theorem shiftedBit_of_lt (hn : n < w * h) :
    shiftedBit p.bytes.toArray n = .ok (bitFor (p.cell n)) := by
  have hbyte : n / 8 < byteCount (w * h) := div_lt_byteCount hn
  rw [shiftedBit, Vector.getElem?_toArray, cell, Vector.getElem?_eq_getElem hbyte]
  dsimp only [Option.getD_some]
  rw [shifted_eq_bitFor _ (Nat.mod_lt n (by decide))]

/-- There are columns to divide its number by. -/
theorem pointAt_of_lt (hn : n < w * h) : pointAt w n = .ok (pointOf w n) := by
  have hw : w ≠ 0 := by
    rintro rfl
    omega
  exact if_neg hw

/-- Colours have different bits. -/
theorem bitFor_inj {lit lit' : Bool} : bitFor lit = bitFor lit' ↔ lit = lit' := by
  cases lit <;> cases lit' <;> decide

/-- A walk over some of the pixels comes to its end with the points of those of its colour. -/
theorem walk_eq (lit : Bool) (hn : n ≤ w * h) : walk w p.bytes.toArray (bitFor lit) n =
    .ok (((List.range n).reverse.filter fun k => p.cell k = lit).map (pointOf w)) := by
  induction n with
  | zero => rfl
  | succ n ih =>
    have hlast : n < w * h := hn
    have hrange : (List.range (n + 1)).reverse = n :: (List.range n).reverse := by
      rw [List.range_succ, List.reverse_append]
      rfl
    rw [walk, p.shiftedBit_of_lt hlast, ih (Nat.le_of_lt hlast), pointAt_of_lt hlast, hrange]
    -- The last pixel is of the colour of the walk or not.
    by_cases hcell : p.cell n = lit
    · rw [List.filter_cons_of_pos (p := fun k => p.cell k = lit) (decide_eq_true hcell)]
      exact if_pos (bitFor_inj.2 hcell)
    · rw [List.filter_cons_of_neg (p := fun k => p.cell k = lit) (mt of_decide_eq_true hcell)]
      exact if_neg (mt bitFor_inj.1 hcell)

/-- The points of a colour are those of its cells. -/
theorem points_eq (lit : Bool) :
    p.points lit = ((List.range (w * h)).reverse.filter fun n => p.cell n = lit).map (pointOf w) := by
  rw [points, p.walk_eq lit (Nat.le_refl _)]

/-! ## The partition -/

theorem pointOf_injective (w : Nat) : Function.Injective (pointOf w) := by
  intro n m heq
  rw [← number_pointOf w n, ← number_pointOf w m, heq]

/-- The points of both colours are those of all cells. -/
theorem points_perm :
    (p.points true ++ p.points false).Perm ((List.range (w * h)).map (pointOf w)) := by
  have hunlit : (fun n => decide (p.cell n = false)) = fun n => !decide (p.cell n = true) := by
    funext n
    cases p.cell n <;> rfl
  rw [p.points_eq, p.points_eq, ← List.map_append, hunlit]
  exact ((List.filter_append_perm _ _).trans (List.reverse_perm _)).map _

/-- A point of a colour is that of a cell of the colour. -/
theorem pointOf_mem_points {lit : Bool} (hn : n < w * h) :
    pointOf w n ∈ p.points lit ↔ p.cell n = lit := by
  rw [p.points_eq, List.mem_map_of_injective (pointOf_injective w), List.mem_filter, List.mem_reverse,
    List.mem_range, and_iff_right hn, decide_eq_true_iff]

/-- The point of a pixel is at its column, and below the first row by its row. -/
theorem pointOf_number {cx : Nat} (hcx : cx < w) (cy : Nat) :
    pointOf w (cy * w + cx) = (cx, -(cy : Int)) := by
  rw [pointOf, Nat.mul_comm, Nat.mul_add_mod, Nat.mod_eq_of_lt hcx,
    Nat.mul_add_div (Nat.zero_lt_of_lt hcx), Nat.div_eq_of_lt hcx, Nat.add_zero]

/-- Each pixel has its point among those of the two colours once. -/
theorem count_points {cx cy : Nat} (hcx : cx < w) (hcy : cy < h) :
    (p.points true ++ p.points false).count (cx, -(cy : Int)) = 1 := by
  obtain ⟨hplace, -⟩ := p.pixel_eq_cell hcx hcy
  rw [p.points_perm.count_eq, ← pointOf_number hcx cy]
  exact List.count_eq_one_of_mem (List.nodup_range.map (pointOf_injective w))
    (List.mem_map_of_mem (List.mem_range.2 hplace))

/-- There are no other points. -/
theorem exists_pixel_of_mem_points {point : Nat × Int}
    (hpoint : point ∈ p.points true ++ p.points false) :
    ∃ cx < w, ∃ cy < h, point = (cx, -(cy : Int)) := by
  rw [p.points_perm.mem_iff, List.mem_map] at hpoint
  obtain ⟨n, hn, rfl⟩ := hpoint
  have hn : n < w * h := List.mem_range.1 hn
  have hw : 0 < w := Nat.pos_of_mul_pos_right (Nat.zero_lt_of_lt hn)
  exact ⟨n % w, Nat.mod_lt n hw, n / w, Nat.div_lt_of_lt_mul hn, rfl⟩

/-- The points of a colour come in falling order of their pixels. -/
theorem pairwise_points (lit : Bool) : (p.points lit).Pairwise fun a b =>
    (-b.2).toNat * w + b.1 < (-a.2).toNat * w + a.1 := by
  rw [p.points_eq, List.pairwise_map]
  simp only [number_pointOf]
  exact (List.pairwise_reverse.2 List.pairwise_lt_range).filter _

/-- A cell is lit when the mask of its bit has something in common with its byte. -/
theorem cell_iff_mask (hn : n < w * h) : p.cell n = true ↔
    ∃ b, p.data[n / 8]? = some b ∧ b &&& (0x80 >>> UInt8.ofNat (n % 8)) ≠ 0 := by
  have hbyte : n / 8 < byteCount (w * h) := div_lt_byteCount hn
  have hdata : p.data[n / 8]? = some p.bytes[n / 8] := by
    rw [data, Vector.getElem?_toList, Vector.getElem?_eq_getElem hbyte]
  rw [hdata, cell, Vector.getElem?_eq_getElem hbyte, Option.getD_some,
    bitOf_iff_mask _ (Nat.mod_lt n (by decide))]
  constructor
  · exact fun hmask => ⟨_, rfl, hmask⟩
  · rintro ⟨b, hb, hmask⟩
    rw [Option.some.inj hb]
    exact hmask

/-- The points of the two planes are a partition of the picture. Whatever its size and its bytes, the walk
over either plane comes to its end, so it asks for no byte that is not there and divides by no zero.
Together the planes have the point of each pixel once and no other point, and either has its points in
falling order of their numbers. A point is in the plane of the lit ones if its pixel is lit, that is if
the mask of its bit has something in common with its byte. -/
theorem points_partition_picture (p : Picture w h) :
    (∀ lit, walk w p.bytes.toArray (bitFor lit) (w * h) = .ok (p.points lit)) ∧
    (∀ cx < w, ∀ cy < h, (p.points true ++ p.points false).count (cx, -(cy : Int)) = 1) ∧
    (∀ point ∈ p.points true ++ p.points false, ∃ cx < w, ∃ cy < h, point = (cx, -(cy : Int))) ∧
    (∀ lit, (p.points lit).Pairwise fun a b =>
      (-b.2).toNat * w + b.1 < (-a.2).toNat * w + a.1) ∧
    ∀ cx < w, ∀ cy < h, ((cx, -(cy : Int)) ∈ p.points true ↔ p.pixel cx cy = true) ∧
      (p.pixel cx cy = true ↔ ∃ b, p.data[(cy * w + cx) / 8]? = some b ∧
        b &&& (0x80 >>> UInt8.ofNat ((cy * w + cx) % 8)) ≠ 0) := by
  refine ⟨fun lit => ?_, fun cx hcx cy hcy => p.count_points hcx hcy,
    fun point hpoint => p.exists_pixel_of_mem_points hpoint, p.pairwise_points,
    fun cx hcx cy hcy => ?_⟩
  · rw [p.points_eq]
    exact p.walk_eq lit (Nat.le_refl _)
  · obtain ⟨hplace, hpixel⟩ := p.pixel_eq_cell hcx hcy
    rw [hpixel, ← p.cell_iff_mask hplace, ← pointOf_number hcx cy]
    exact ⟨p.pointOf_mem_points hplace, Iff.rfl⟩

/-- Nine pixels in two bytes. The bits that are left over in the second byte are set. -/
def speckled : Picture 3 3 := ⟨#v[0xa5, 0xff]⟩

/-- They are no pixels, and there are no points for them. -/
theorem points_partition_picture_speckled :
    speckled.points true = [(2, -2), (1, -2), (2, -1), (2, 0), (0, 0)] ∧
      speckled.points false = [(0, -2), (1, -1), (0, -1), (1, 0)] ∧
      (speckled.points true ++ speckled.points false).count (2, -1) = 1 ∧
      speckled.pixel 2 1 = true := by
  obtain ⟨-, hcount, -, -, hlit⟩ := points_partition_picture speckled
  obtain ⟨hmem, -⟩ := hlit 2 (by decide) 1 (by decide)
  exact ⟨by decide +kernel, by decide +kernel, hcount 2 (by decide) 1 (by decide),
    hmem.1 (by decide +kernel)⟩

end Picture

end Cosmac
