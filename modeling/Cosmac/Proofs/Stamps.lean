import Cosmac.Proofs.Drawing
import Mathlib.Algebra.Group.Nat.Even
import Mathlib.Data.List.Perm.Basic

/-!
# Stamps

A stamp is a sprite that is put at a certain place on a picture. It inverts the cells of a pattern, and
the pattern does not depend on what the picture shows: two pictures differ in the same cells before and
after a stamp is put on both (`cell_stamp_xor`). The pattern is therefore what the stamp makes of a
blank picture (`cell_stamp`), on small pictures too, where several cells of the sprite fall on one
pixel.

Patterns are laid over each other bit by bit. So stamps can change places (`stamp_stamp_comm`), the same
stamp put twice leaves nothing behind (`stamp_stamp_self`), and from these two follow the laws for lists
of stamps (`stampAll_perm`, `stampAll_of_even`). Pictures are the same when all their cells are, so the
laws hold of the bytes, those bits included that are no pixels.

What a stamp that is put twice answers the second time is a matter of the pixels that the first one has
lit (`stamp_stamp_fst`).
-/

namespace Cosmac

/-- A sprite, and the column and the row of its top left corner. -/
structure Stamp where
  x : UInt8
  y : UInt8
  rows : List Row
  deriving DecidableEq, Repr

/-- The sprite has a lit cell. -/
def Stamp.HasLitCell (s : Stamp) : Prop := ∃ row ∈ s.rows, true ∈ row

/-- A sprite has a lit cell if there is something to draw. -/
theorem Stamp.exists_mem_litCells {s : Stamp} (h : s.HasLitCell) : ∃ c, c ∈ litCells s.rows := by
  obtain ⟨row, hrow, hlit⟩ := h
  obtain ⟨r, hr, rfl⟩ := List.getElem_of_mem hrow
  obtain ⟨c, hc, hlit⟩ := Vector.getElem_of_mem hlit
  exact ⟨(c, r), mem_litCells.2 ⟨hr, hc, hlit⟩⟩

namespace Picture

variable {w h : Nat} (p q : Picture w h)

/-- Puts a stamp on a picture. Gives whether a lit pixel was put out. -/
def stamp (s : Stamp) : Bool × Picture w h := p.draw s.x s.y s.rows

/-- Puts some stamps on a picture, one after the other. -/
def stampAll (stamps : List Stamp) : Picture w h := stamps.foldl (fun p s => (p.stamp s).2) p

/-! ## The pattern of a stamp -/

/-- Inverting a pixel of two pictures keeps their differences. -/
theorem cell_toggle_xor (x y n : Nat) :
    ((p.toggle x y).cell n ^^ (q.toggle x y).cell n) = (p.cell n ^^ q.cell n) := by
  by_cases area : 0 < w * h
  · rw [cell_toggle p x y area, cell_toggle q x y area]
    cases decide (n = place w h x y) <;> simp
  · rw [toggle, toggle, dif_neg area, dif_neg area]

/-- Inverting the pixels under some cells of two pictures keeps their differences. -/
theorem cell_invert_xor (x y : UInt8) (cells : List (Nat × Nat)) (n : Nat) :
    ((p.invert x y cells).cell n ^^ (q.invert x y cells).cell n) = (p.cell n ^^ q.cell n) := by
  induction cells generalizing p q with
  | nil => rfl
  | cons c cells ih =>
    calc ((p.invert x y (c :: cells)).cell n ^^ (q.invert x y (c :: cells)).cell n)
        = ((p.toggle (x.toNat + c.1) (y.toNat + c.2)).cell n ^^
            (q.toggle (x.toNat + c.1) (y.toNat + c.2)).cell n) := ih _ _
      _ = (p.cell n ^^ q.cell n) := cell_toggle_xor p q _ _ n

/-- Putting a stamp on two pictures keeps their differences. -/
theorem cell_stamp_xor (s : Stamp) (n : Nat) :
    ((p.stamp s).2.cell n ^^ (q.stamp s).2.cell n) = (p.cell n ^^ q.cell n) := by
  rw [stamp, stamp, draw_snd, draw_snd]
  exact cell_invert_xor p q s.x s.y _ n

/-- A stamp inverts the cells that it lights on a blank picture. -/
theorem cell_stamp (s : Stamp) (n : Nat) :
    (p.stamp s).2.cell n = (p.cell n ^^ ((blank w h).stamp s).2.cell n) := by
  have hdiffer := cell_stamp_xor p (blank w h) s n
  rw [cell_blank, Bool.xor_false] at hdiffer
  rw [← hdiffer, Bool.xor_assoc, Bool.xor_self, Bool.xor_false]

/-! ## Order and repetition -/

/-- Two stamps can change places. -/
theorem stamp_stamp_comm (s s' : Stamp) : ((p.stamp s).2.stamp s').2 = ((p.stamp s').2.stamp s).2 := by
  refine ext_cell fun n => ?_
  rw [cell_stamp (p.stamp s).2 s', cell_stamp p s, cell_stamp (p.stamp s').2 s, cell_stamp p s',
    Bool.xor_right_comm]

/-- A stamp put twice leaves the picture as it was. -/
theorem stamp_stamp_self (s : Stamp) : ((p.stamp s).2.stamp s).2 = p := by
  refine ext_cell fun n => ?_
  rw [cell_stamp (p.stamp s).2 s, cell_stamp p s, Bool.xor_assoc, Bool.xor_self, Bool.xor_false]

/-- The order of stamps does not matter. -/
theorem stampAll_perm {stamps others : List Stamp} (hperm : stamps.Perm others) :
    p.stampAll stamps = p.stampAll others :=
  hperm.foldl_eq' (fun s _ s' _ p => p.stamp_stamp_comm s s') p

/-- Where everything occurs an even number of times, what comes first occurs again later. Without the
two, everything still does. -/
theorem mem_and_even_count_erase {s : Stamp} {rest : List Stamp}
    (heven : ∀ s', Even ((s :: rest).count s')) :
    s ∈ rest ∧ ∀ s', Even ((rest.erase s).count s') := by
  have hodd : ¬ Even (rest.count s) := by
    have hself := heven s
    rwa [List.count_cons_self, Nat.even_add_one] at hself
  have hmem : s ∈ rest := by
    by_contra hnone
    rw [List.count_eq_zero_of_not_mem hnone] at hodd
    exact hodd Even.zero
  refine ⟨hmem, fun s' => ?_⟩
  by_cases hs : s' = s
  · subst hs
    rw [List.count_erase_self]
    have hpos : 0 < rest.count s' := List.count_pos_iff.2 hmem
    rw [Nat.even_iff] at hodd ⊢
    omega
  · rw [List.count_erase_of_ne hs, ← List.count_cons_of_ne (Ne.symm hs)]
    exact heven s'

/-- Stamps that are all put an even number of times leave the picture as it was. -/
theorem stampAll_of_even {stamps : List Stamp} (heven : ∀ s, Even (stamps.count s)) :
    p.stampAll stamps = p := by
  induction hlength : stamps.length using Nat.strong_induction_on generalizing stamps with
  | h length ih =>
    cases stamps with
    | nil => rfl
    | cons s rest =>
      -- The first stamp is moved together with its next occurrence, where the two cancel.
      obtain ⟨hmem, heven⟩ := mem_and_even_count_erase heven
      have hpair : (s :: rest).Perm (s :: s :: rest.erase s) := (List.perm_cons_erase hmem).cons s
      have hshort : (rest.erase s).length < length := by
        have := List.length_erase_add_one hmem
        rw [List.length_cons] at hlength
        omega
      calc p.stampAll (s :: rest) = p.stampAll (s :: s :: rest.erase s) := p.stampAll_perm hpair
        _ = ((p.stamp s).2.stamp s).2.stampAll (rest.erase s) := rfl
        _ = p.stampAll (rest.erase s) := by rw [p.stamp_stamp_self s]
        _ = p := ih _ hshort heven rfl

/-! ## The answer to a repetition -/

/-- With room for all cells of a sprite, a stamp that is put again puts a pixel out if the first time
has lit one. -/
theorem stamp_stamp_fst {s : Stamp} (hw : 8 ≤ w) (hh : s.rows.length ≤ h) :
    ((p.stamp s).2.stamp s).1 = true ↔
      ∃ cx < w, ∃ cy < h, p.pixel cx cy = false ∧ (p.stamp s).2.pixel cx cy = true := by
  rcases Nat.eq_zero_or_pos (w * h) with hzero | area
  · rw [stamp, draw_of_empty _ _ _ _ hzero]
    simp [pixel_of_empty _ hzero]
  · have hw0 : 0 < w := by omega
    have hh0 : 0 < h := Nat.pos_of_mul_pos_left area
    rw [stamp, draw_fst_of_fits _ s.x s.y area hw hh]
    constructor
    · rintro ⟨c, hc, hlit⟩
      have hcx := Nat.mod_lt (s.x.toNat + c.1) hw0
      have hcy := Nat.mod_lt (s.y.toNat + c.2) hh0
      have hchanged := (p.pixel_draw_of_fits s.x s.y area hw hh hcx hcy).2 ⟨c, hc, rfl, rfl⟩
      rw [← pixel_mod] at hlit
      rw [← stamp, hlit] at hchanged
      exact ⟨_, hcx, _, hcy, Bool.eq_false_of_not_eq_true hchanged.symm, hlit⟩
    · rintro ⟨cx, hcx, cy, hcy, hoff, hon⟩
      have hchanged : (p.stamp s).2.pixel cx cy ≠ p.pixel cx cy := by
        rw [hoff, hon]
        decide
      obtain ⟨c, hc, rfl, rfl⟩ := (p.pixel_draw_of_fits s.x s.y area hw hh hcx hcy).1 hchanged
      rw [pixel_mod] at hon
      exact ⟨c, hc, hon⟩

/-- With room for all cells of a sprite, a stamp that put nothing out does so when it is put again,
unless there is nothing to draw. -/
theorem stamp_stamp_fst_of_not {s : Stamp} (hw : 8 ≤ w) (hh : s.rows.length ≤ h)
    (hfirst : (p.stamp s).1 = false) (hlit : s.HasLitCell) : ((p.stamp s).2.stamp s).1 = true := by
  obtain ⟨⟨column, row⟩, hc⟩ := Stamp.exists_mem_litCells hlit
  obtain ⟨hrow, -, -⟩ := mem_litCells.1 hc
  have hw0 : 0 < w := by omega
  have hh0 : 0 < h := by omega
  have area : 0 < w * h := Nat.mul_pos hw0 hh0
  have hcx := Nat.mod_lt (s.x.toNat + column) hw0
  have hcy := Nat.mod_lt (s.y.toNat + row) hh0
  have hoff : p.pixel (s.x.toNat + column) (s.y.toNat + row) = false := by
    by_contra hon
    have := (p.draw_fst_of_fits s.x s.y area hw hh).2 ⟨_, hc, Bool.eq_true_of_not_eq_false hon⟩
    rw [← stamp, hfirst] at this
    cases this
  have hchanged := (p.pixel_draw_of_fits s.x s.y area hw hh hcx hcy).2 ⟨_, hc, rfl, rfl⟩
  rw [← stamp, pixel_mod p, hoff] at hchanged
  refine (p.stamp_stamp_fst hw hh).2 ⟨_, hcx, _, hcy, ?_, Bool.eq_true_of_not_eq_false hchanged⟩
  rw [pixel_mod, hoff]

/-- Stamps commute and cancel, on a picture of any size and whatever it shows. In another order they
make the same bytes of it, and if each of them occurs an even number of times, they leave the bytes as
they were, also where a sprite is larger than the picture and meets itself. With room for all cells of a
sprite, a stamp that is put a second time answers that it has put a pixel out exactly if the first time
has lit one, and so it does whenever the first time has put nothing out and there is something to
draw. -/
theorem stamps_commute_and_cancel (stamps : List Stamp) :
    (∀ others, stamps.Perm others → (p.stampAll others).data = (p.stampAll stamps).data) ∧
    ((∀ s, Even (stamps.count s)) → (p.stampAll stamps).data = p.data) ∧
    ∀ s : Stamp, 8 ≤ w → s.rows.length ≤ h →
      let first := p.stamp s
      let second := first.2.stamp s
      (second.1 = true ↔
        ∃ cx < w, ∃ cy < h, p.pixel cx cy = false ∧ first.2.pixel cx cy = true) ∧
      (first.1 = false → s.HasLitCell → second.1 = true) := by
  refine ⟨fun others hperm => ?_, fun heven => ?_, fun s hw hh => ⟨?_, ?_⟩⟩
  · rw [p.stampAll_perm hperm]
  · rw [p.stampAll_of_even heven]
  · exact p.stamp_stamp_fst hw hh
  · exact p.stamp_stamp_fst_of_not hw hh

/-- A stamp whose sprite meets itself on a picture of three columns. -/
def wideStamp : Stamp := ⟨1, 1, [unpackRow 0xf0]⟩

/-- A stamp of one cell. -/
def dotStamp : Stamp := ⟨0, 1, [unpackRow 0x80]⟩

/-- Four stamps on a small picture cancel, though two of them do not, and two can change places. On a
picture with room for the sprite, it is put out the second time. -/
theorem stamps_commute_and_cancel_small :
    let p := painted 3 2 [.draw 2 0 [unpackRow 0xc0]]
    (p.stampAll [wideStamp, dotStamp, dotStamp, wideStamp]).data = p.data ∧
      (p.stampAll [dotStamp, wideStamp]).data = (p.stampAll [wideStamp, dotStamp]).data ∧
      (p.stampAll [wideStamp, dotStamp]).data ≠ p.data ∧
      (((blank 8 1).stamp wideStamp).2.stamp wideStamp).1 = true := by
  intro p
  have hfour : [wideStamp, dotStamp, dotStamp, wideStamp].Perm
      ([wideStamp, dotStamp] ++ [wideStamp, dotStamp]) := by decide
  have heven : ∀ s, Even ([wideStamp, dotStamp, dotStamp, wideStamp].count s) := by
    intro s
    rw [hfour.count_eq, List.count_append]
    exact ⟨_, rfl⟩
  obtain ⟨-, hcancel, -⟩ :=
    p.stamps_commute_and_cancel [wideStamp, dotStamp, dotStamp, wideStamp]
  obtain ⟨hcommute, -, -⟩ := p.stamps_commute_and_cancel [wideStamp, dotStamp]
  obtain ⟨-, -, hagain⟩ := (blank 8 1).stamps_commute_and_cancel []
  obtain ⟨-, hlit⟩ := hagain wideStamp (by decide) (by decide)
  have hlitCell : wideStamp.HasLitCell :=
    ⟨unpackRow 0xf0, List.mem_singleton_self _, by decide +kernel⟩
  exact ⟨hcancel heven, hcommute _ (by decide), by decide +kernel, hlit (by decide +kernel) hlitCell⟩

end Picture

end Cosmac
