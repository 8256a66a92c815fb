import Cosmac.Picture.Sprite
import Cosmac.Proofs.Packing
import Mathlib.Data.List.FinRange
import Mathlib.Data.List.Induction
import Mathlib.Data.Nat.Bits
import Mathlib.Data.Nat.ModEq

/-!
# Drawing

Drawing a sprite goes through its lit cells in turn and inverts the pixel under each. What becomes of
a pixel is a matter of counting the cells that fall on it (`pixel_invert`), since its coordinates wrap
around and several cells may do so. Whether a lit pixel was put out depends on the turns: a cell finds
its pixel as the cells before it have left it (`draw_fst`). On a picture with room for all cells of a
sprite no two of them meet, so there every cell finds its pixel as it was at first
(`draw_fst_of_fits`).

Strokes are sprites drawn and the picture blanked, in any order. None of them lights a bit after the
last pixel (`padded_painted`), and so the bytes are the pixels packed. `draw_refines` puts all of this
together.
-/

namespace Cosmac

/-! ## The lit cells of a sprite -/

/-- The cell `a` has its turn before the cell `b`: it is in a row above, or in the same row to the
left. -/
def CellBefore (a b : Nat × Nat) : Prop := a.2 < b.2 ∨ a.2 = b.2 ∧ a.1 < b.1

theorem not_cellBefore_self (a : Nat × Nat) : ¬ CellBefore a a := by
  unfold CellBefore
  omega

/-- The lit cells are those that are lit. -/
theorem mem_litCells {rows : List Row} {c r : Nat} :
    (c, r) ∈ litCells rows ↔ ∃ (hr : r < rows.length) (hc : c < 8), rows[r][c] = true := by
  simp only [litCells, List.mem_flatMap, List.mem_map, List.mem_filter, List.mem_zipIdx_iff_getElem?]
  constructor
  · rintro ⟨⟨row, r⟩, hrow, k, ⟨-, hlit⟩, heq⟩
    obtain ⟨rfl, rfl⟩ := Prod.mk.inj heq
    obtain ⟨hr, hrow⟩ := List.getElem?_eq_some_iff.1 hrow
    exact ⟨hr, k.isLt, hrow.symm ▸ hlit⟩
  · rintro ⟨hr, hc, hlit⟩
    exact ⟨(rows[r], r), List.getElem?_eq_getElem hr, ⟨c, hc⟩, ⟨List.mem_finRange _, hlit⟩, rfl⟩

/-- The lit cells have their turns row by row, and from left to right in a row. -/
theorem pairwise_litCells (rows : List Row) : (litCells rows).Pairwise CellBefore := by
  rw [litCells, List.pairwise_flatMap]
  constructor
  · rintro ⟨row, r⟩ -
    rw [List.pairwise_map]
    have hcolumns : (List.finRange 8).Pairwise (· < ·) := List.pairwise_lt_finRange 8
    exact (hcolumns.filter _).imp fun hlt => .inr ⟨rfl, hlt⟩
  · have hrows : rows.zipIdx.Pairwise fun a b => a.2 < b.2 := by
      have hnumbers : (rows.zipIdx.map Prod.snd).Pairwise (· < ·) := by
        rw [List.zipIdx_map_snd]
        exact List.pairwise_lt_range'
      exact List.pairwise_map.1 hnumbers
    refine hrows.imp ?_
    rintro ⟨row, r⟩ ⟨row', r'⟩ hlt a ha b hb
    obtain ⟨_, -, rfl⟩ := List.mem_map.1 ha
    obtain ⟨_, -, rfl⟩ := List.mem_map.1 hb
    exact .inl hlt

namespace Picture

variable {w h : Nat} (p : Picture w h) (x y : UInt8)

/-! ## Cells in turn -/

/-- Inverts the pixels under some cells of a sprite, one after the other. -/
def invert (cells : List (Nat × Nat)) : Picture w h :=
  cells.foldl (fun p c => p.toggle (x.toNat + c.1) (y.toNat + c.2)) p

/-- How many of the cells of a sprite fall on the pixel at column `cx` and row `cy`. -/
def hits (w h : Nat) (x y : UInt8) (cells : List (Nat × Nat)) (cx cy : Nat) : Nat :=
  cells.countP fun c => (x.toNat + c.1) % w = cx ∧ (y.toNat + c.2) % h = cy

/-- What the pixel at column `cx` and row `cy` is after some cells of a sprite had their turn: as it
was, or inverted if an odd number of them falls on it. -/
def pixelAfter (cells : List (Nat × Nat)) (cx cy : Nat) : Bool :=
  p.pixel cx cy ^^ (hits w h x y cells cx cy).bodd

/-- The coordinates of a pixel wrap around. -/
theorem pixel_mod (cx cy : Nat) : p.pixel (cx % w) (cy % h) = p.pixel cx cy := by
  rw [pixel, pixel, place, place, Nat.mod_mod, Nat.mod_mod]

/-- Inverting one after the other comes down to counting. -/
theorem pixel_invert (area : 0 < w * h) (cells : List (Nat × Nat)) (cx cy : Nat) :
    (p.invert x y cells).pixel cx cy = p.pixelAfter x y cells (cx % w) (cy % h) := by
  rw [pixelAfter, pixel_mod]
  induction cells generalizing p with
  | nil =>
    rw [hits, List.countP_nil, Nat.bodd_zero, Bool.xor_false]
    rfl
  | cons c cells ih =>
    have hfold : p.invert x y (c :: cells) =
        (p.toggle (x.toNat + c.1) (y.toNat + c.2)).invert x y cells := rfl
    rw [hfold, ih, pixel_toggle p _ _ _ _ area, hits, hits, List.countP_cons]
    -- The first cell inverts the pixel exactly if it is counted.
    by_cases hhit : (x.toNat + c.1) % w = cx % w ∧ (y.toNat + c.2) % h = cy % h
    · have hplace : place w h cx cy = place w h (x.toNat + c.1) (y.toNat + c.2) :=
        (place_eq_iff area).2 ⟨hhit.1.symm, hhit.2.symm⟩
      simp [hhit, hplace, Nat.bodd_succ]
    · have hplace : place w h cx cy ≠ place w h (x.toNat + c.1) (y.toNat + c.2) :=
        fun heq => hhit ((place_eq_iff area).1 heq.symm)
      simp [hhit, hplace]

/-- Cells that are drawn in turn have the pixels under them inverted. -/
theorem foldl_plot_snd (cells : List (Nat × Nat)) (s : Bool × Picture w h) :
    (cells.foldl (fun s c => plot s (x.toNat + c.1) (y.toNat + c.2)) s).2 =
      s.2.invert x y cells := by
  induction cells generalizing s with
  | nil => rfl
  | cons c cells ih => exact ih _

/-- Cells that are drawn in turn have put out a pixel if one of them found its pixel lit. -/
theorem foldl_plot_fst (cells : List (Nat × Nat)) (s : Bool × Picture w h) :
    (cells.foldl (fun s c => plot s (x.toNat + c.1) (y.toNat + c.2)) s).1 = true ↔ s.1 = true ∨
      ∃ before c after, cells = before ++ c :: after ∧
        (s.2.invert x y before).pixel (x.toNat + c.1) (y.toNat + c.2) = true := by
  induction cells generalizing s with
  | nil => simp
  | cons c cells ih =>
    rw [List.foldl_cons, ih]
    constructor
    · rintro (hplot | ⟨before, d, after, rfl, hlit⟩)
      · rcases Bool.or_eq_true_iff.1 hplot with hs | hlit
        · exact .inl hs
        · exact .inr ⟨[], c, cells, rfl, hlit⟩
      · exact .inr ⟨c :: before, d, after, rfl, hlit⟩
    · rintro (hs | ⟨before, d, after, hsplit, hlit⟩)
      · exact .inl (Bool.or_eq_true_iff.2 (.inl hs))
      · -- The cell is the one that was drawn first, or it comes after that one.
        rcases before with _ | ⟨b, before⟩
        · obtain ⟨rfl, rfl⟩ := List.cons.inj hsplit
          exact .inl (Bool.or_eq_true_iff.2 (.inr hlit))
        · obtain ⟨rfl, rfl⟩ := List.cons.inj hsplit
          exact .inr ⟨before, d, after, rfl, hlit⟩

/-! ## Sprites -/

/-- A sprite has the pixels under its lit cells inverted. -/
theorem draw_snd (rows : List Row) : (p.draw x y rows).2 = p.invert x y (litCells rows) :=
  foldl_plot_snd x y _ _

/-- A sprite leaves every pixel as its lit cells do. -/
theorem pixel_draw (rows : List Row) (area : 0 < w * h) (cx cy : Nat) :
    (p.draw x y rows).2.pixel cx cy = p.pixelAfter x y (litCells rows) (cx % w) (cy % h) := by
  rw [draw_snd, pixel_invert p x y area]

/-- A sprite puts out a pixel if one of its lit cells finds the pixel lit when its turn comes. -/
theorem draw_fst (rows : List Row) (area : 0 < w * h) : (p.draw x y rows).1 = true ↔
    ∃ before c after, litCells rows = before ++ c :: after ∧
      p.pixelAfter x y before ((x.toNat + c.1) % w) ((y.toNat + c.2) % h) = true := by
  have hdraw := foldl_plot_fst x y (litCells rows) (false, p)
  simp only [Bool.false_eq_true, false_or, pixel_invert _ x y area] at hdraw
  exact hdraw

/-- Two cells that are less than a picture apart do not fall on the same pixel. -/
theorem eq_of_mod_eq {n a b m : Nat} (ha : a < m) (hb : b < m) (h : (n + a) % m = (n + b) % m) :
    a = b :=
  (Nat.ModEq.add_left_cancel' n h).eq_of_lt_of_lt ha hb

/-- On a picture with room for all its cells no two of them fall on the same pixel. -/
theorem eq_of_same_pixel {rows : List Row} (hw : 8 ≤ w) (hh : rows.length ≤ h) {b c : Nat × Nat}
    (hb : b ∈ litCells rows) (hc : c ∈ litCells rows)
    (hcolumn : (x.toNat + b.1) % w = (x.toNat + c.1) % w)
    (hrow : (y.toNat + b.2) % h = (y.toNat + c.2) % h) : b = c := by
  have hinside : ∀ a ∈ litCells rows, a.1 < w ∧ a.2 < h := by
    rintro ⟨column, row⟩ ha
    obtain ⟨hrow, hcolumn, -⟩ := mem_litCells.1 ha
    exact ⟨Nat.lt_of_lt_of_le hcolumn hw, Nat.lt_of_lt_of_le hrow hh⟩
  obtain ⟨hbw, hbh⟩ := hinside b hb
  obtain ⟨hcw, hch⟩ := hinside c hc
  exact Prod.ext (eq_of_mod_eq hbw hcw hcolumn) (eq_of_mod_eq hbh hch hrow)

/-- On a picture with room for all its cells a sprite does not meet itself. -/
theorem hits_of_split {rows : List Row} (hw : 8 ≤ w) (hh : rows.length ≤ h)
    {before after : List (Nat × Nat)} {c : Nat × Nat}
    (hsplit : litCells rows = before ++ c :: after) :
    hits w h x y before ((x.toNat + c.1) % w) ((y.toNat + c.2) % h) = 0 := by
  have horder := pairwise_litCells rows
  rw [hsplit] at horder
  rw [hits, List.countP_eq_zero]
  -- A cell before that falls on the same pixel would be the cell itself, which is not before itself.
  intro b hb hsame
  obtain ⟨hcolumn, hrow⟩ := of_decide_eq_true hsame
  have hbmem : b ∈ litCells rows := hsplit ▸ List.mem_append_left _ hb
  have hcmem : c ∈ litCells rows := hsplit ▸ List.mem_append_right _ List.mem_cons_self
  obtain rfl := eq_of_same_pixel x y hw hh hbmem hcmem hcolumn hrow
  exact not_cellBefore_self b ((List.pairwise_append.1 horder).2.2 b hb b List.mem_cons_self)

/-- A pixel under a lit cell is hit by that one only. -/
theorem hits_of_mem {rows : List Row} (hw : 8 ≤ w) (hh : rows.length ≤ h) {c : Nat × Nat}
    (hc : c ∈ litCells rows) :
    hits w h x y (litCells rows) ((x.toNat + c.1) % w) ((y.toNat + c.2) % h) = 1 := by
  have hsame : ∀ b ∈ litCells rows, decide ((x.toNat + b.1) % w = (x.toNat + c.1) % w ∧
      (y.toNat + b.2) % h = (y.toNat + c.2) % h) = true ↔ (b == c) = true := by
    intro b hb
    rw [decide_eq_true_iff, beq_iff_eq]
    constructor
    · rintro ⟨hcolumn, hrow⟩
      exact eq_of_same_pixel x y hw hh hb hc hcolumn hrow
    · rintro rfl
      exact ⟨rfl, rfl⟩
  have hnodup : (litCells rows).Nodup := by
    refine (pairwise_litCells rows).imp ?_
    rintro a _ hbefore rfl
    exact not_cellBefore_self a hbefore
  rw [hits, List.countP_congr hsame]
  exact List.count_eq_one_of_mem hnodup hc

/-- On a picture with room for all its cells a sprite inverts the pixels under its lit cells and no
others. -/
theorem pixel_draw_of_fits {rows : List Row} (area : 0 < w * h) (hw : 8 ≤ w) (hh : rows.length ≤ h)
    {cx cy : Nat} (hcx : cx < w) (hcy : cy < h) :
    (p.draw x y rows).2.pixel cx cy ≠ p.pixel cx cy ↔
      ∃ c ∈ litCells rows, (x.toNat + c.1) % w = cx ∧ (y.toNat + c.2) % h = cy := by
  rw [pixel_draw p x y rows area, Nat.mod_eq_of_lt hcx, Nat.mod_eq_of_lt hcy, pixelAfter]
  constructor
  · intro hchanged
    -- Where no lit cell falls, none is counted, and the pixel is as it was.
    by_contra hnone
    have hzero : hits w h x y (litCells rows) cx cy = 0 := by
      rw [hits, List.countP_eq_zero]
      exact fun c hc hhit => hnone ⟨c, hc, of_decide_eq_true hhit⟩
    rw [hzero, Nat.bodd_zero, Bool.xor_false] at hchanged
    exact hchanged rfl
  · rintro ⟨c, hc, rfl, rfl⟩
    rw [hits_of_mem x y hw hh hc, Nat.bodd_one, Bool.xor_true]
    exact Bool.not_ne_self _

/-- On a picture with room for all its cells a sprite puts out a pixel if there is one lit under its
lit cells beforehand. -/
theorem draw_fst_of_fits {rows : List Row} (area : 0 < w * h) (hw : 8 ≤ w) (hh : rows.length ≤ h) :
    (p.draw x y rows).1 = true ↔
      ∃ c ∈ litCells rows, p.pixel (x.toNat + c.1) (y.toNat + c.2) = true := by
  have hfresh : ∀ {before c after}, litCells rows = before ++ c :: after →
      p.pixelAfter x y before ((x.toNat + c.1) % w) ((y.toNat + c.2) % h) =
        p.pixel (x.toNat + c.1) (y.toNat + c.2) := by
    intro before c after hsplit
    rw [pixelAfter, hits_of_split x y hw hh hsplit, Nat.bodd_zero, Bool.xor_false, pixel_mod]
  rw [draw_fst p x y rows area]
  constructor
  · rintro ⟨before, c, after, hsplit, hlit⟩
    rw [hfresh hsplit] at hlit
    refine ⟨c, ?_, hlit⟩
    rw [hsplit]
    exact List.mem_append_right _ List.mem_cons_self
  · rintro ⟨c, hc, hlit⟩
    obtain ⟨before, after, hsplit⟩ := List.append_of_mem hc
    exact ⟨before, c, after, hsplit, (hfresh hsplit).trans hlit⟩

/-- A picture without pixels shows nothing. -/
theorem pixel_of_empty (hzero : w * h = 0) (cx cy : Nat) : p.pixel cx cy = false :=
  if_neg (Nat.not_lt_of_le (Nat.le_of_eq hzero))

/-- On a picture without pixels there is nothing to draw on. -/
theorem draw_of_empty (rows : List Row) (hzero : w * h = 0) : p.draw x y rows = (false, p) := by
  have hstep : ∀ c : Nat × Nat, plot (false, p) (x.toNat + c.1) (y.toNat + c.2) = (false, p) := by
    intro c
    rw [plot, p.pixel_of_empty hzero, toggle, dif_neg (Nat.not_lt_of_le (Nat.le_of_eq hzero))]
    rfl
  rw [draw]
  induction litCells rows with
  | nil => rfl
  | cons c cells ih => rw [List.foldl_cons, hstep, ih]

/-! ## Pictures that are drawn -/

/-- What can be done to a picture. -/
inductive Stroke
  | clear
  | draw (x y : UInt8) (rows : List Row)

/-- The picture after a stroke. -/
def paint (p : Picture w h) : Stroke → Picture w h
  | .clear => blank w h
  | .draw x y rows => (p.draw x y rows).2

/-- The picture that some strokes make of a blank one. -/
def painted (w h : Nat) (strokes : List Stroke) : Picture w h := strokes.foldl paint (blank w h)

/-- Inverting pixels reaches no cell that is not a pixel. -/
theorem Padded.invert {p : Picture w h} (hp : p.Padded) (cells : List (Nat × Nat)) :
    (p.invert x y cells).Padded := by
  induction cells generalizing p with
  | nil => exact hp
  | cons c cells ih => exact ih (hp.toggle _ _)

/-- No stroke reaches a cell that is not a pixel. -/
theorem Padded.paint {p : Picture w h} (hp : p.Padded) (s : Stroke) : (p.paint s).Padded := by
  cases s with
  | clear => exact padded_blank
  | draw x y rows =>
    rw [Picture.paint, draw_snd]
    exact hp.invert x y _

/-- No strokes do. -/
theorem padded_painted (strokes : List Stroke) : (painted w h strokes).Padded := by
  unfold painted
  induction strokes using List.reverseRecOn with
  | nil => exact padded_blank
  | append_singleton strokes s ih =>
    rw [List.foldl_append]
    exact ih.paint s

/-- A sprite drawn on a picture, whatever was done to the picture before. Every pixel is inverted
once for each lit cell that falls on it after wrapping around. The answer is whether one of the cells,
which have their turns row by row and from left to right, found its pixel lit; with room for all cells
this is whether there was a lit pixel under one of them beforehand. The bytes of the picture are just
enough for its pixels, and hold them row by row, the most significant bit first, with nothing after
them. A picture without pixels shows nothing and cannot be drawn on. -/
theorem draw_refines (strokes : List Stroke) (rows : List Row) :
    let p := painted w h strokes
    let drawn := p.draw x y rows
    ((∀ c r, (c, r) ∈ litCells rows ↔
        ∃ (hr : r < rows.length) (hc : c < 8), rows[r][c] = true) ∧
      (litCells rows).Pairwise CellBefore) ∧
    (0 < w * h →
      (∀ cx < w, ∀ cy < h, drawn.2.pixel cx cy = p.pixelAfter x y (litCells rows) cx cy) ∧
      (drawn.1 = true ↔ ∃ before c after, litCells rows = before ++ c :: after ∧
        p.pixelAfter x y before ((x.toNat + c.1) % w) ((y.toNat + c.2) % h) = true) ∧
      (8 ≤ w → rows.length ≤ h → (drawn.1 = true ↔
        ∃ c ∈ litCells rows, p.pixel (x.toNat + c.1) (y.toNat + c.2) = true)) ∧
      ∀ cx cy, place w h cx cy / 8 < p.data.length) ∧
    p.data.length = (w * h + 7) / 8 ∧
    p.data.flatMap digits =
      p.pixels ++ List.replicate (8 * ((w * h + 7) / 8) - w * h) false ∧
    (w * h = 0 → (∀ cx cy, p.pixel cx cy = false) ∧ drawn = (false, p)) := by
  intro p drawn
  have hlength : p.data.length = (w * h + 7) / 8 := p.length_data
  refine ⟨⟨fun c r => mem_litCells, pairwise_litCells rows⟩, fun area => ⟨?_, ?_, ?_, ?_⟩, hlength,
    p.bits_data (padded_painted strokes), fun hzero => ⟨p.pixel_of_empty hzero, ?_⟩⟩
  · intro cx hcx cy hcy
    have hpixel := p.pixel_draw x y rows area cx cy
    rwa [Nat.mod_eq_of_lt hcx, Nat.mod_eq_of_lt hcy] at hpixel
  · exact p.draw_fst x y rows area
  · exact fun hw hh => p.draw_fst_of_fits x y area hw hh
  · intro cx cy
    rw [hlength]
    exact div_lt_byteCount (place_lt cx cy area)
  · exact p.draw_of_empty x y rows hzero

/-- Four cells in a row meet on a picture of three columns: the last one puts out the pixel that the
first one has lit. -/
theorem draw_refines_narrow :
    ((blank 3 2).draw 1 1 [unpackRow 0xf0]).1 = true ∧
      ((blank 3 2).draw 1 1 [unpackRow 0xf0]).2.pixel 1 1 = false ∧
      ((blank 3 2).draw 1 1 [unpackRow 0xf0]).2.pixel 2 1 = true := by
  obtain ⟨-, hdrawn, -⟩ := draw_refines 1 1 ([] : List Stroke) [unpackRow 0xf0] (w := 3) (h := 2)
  obtain ⟨hpixel, hanswer, -⟩ := hdrawn (by decide)
  refine ⟨hanswer.2 ⟨[(0, 0), (1, 0), (2, 0)], (3, 0), [], by decide, by decide⟩, ?_, ?_⟩
  · exact (hpixel 1 (by decide) 1 (by decide)).trans (by decide)
  · exact (hpixel 2 (by decide) 1 (by decide)).trans (by decide)

end Picture

end Cosmac
