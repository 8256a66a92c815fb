import Cosmac.Terminal.Canvas
import Mathlib.Tactic.SplitIfs

/-!
# What is relied on of a painter

A scene fits a terminal if its box stands in the corner, ends inside, and has one column and one row for
each step of the axes (`Scene.Fits`). Of a painter it is relied on that painting such a scene leaves the
box and nothing else, with one character for each point, which is the mark of the last layer with the
point (`Painter.Draws`). What stood on the terminal before plays no part.

The painter of this library is one of them (`paint_draws`): to scale, a point has a cell of its own, and
the cell has the mark of the last point that was plotted there.
-/

namespace Cosmac.Terminal

/-- The size of a terminal. It has less than 65536 characters, for no area has more. -/
structure Size where
  columns : Nat
  rows : Nat
  bounded : columns * rows < 0x10000

/-- A scene fits a terminal, and its axes are to scale, with two columns and two rows at least. -/
structure Scene.Fits (s : Scene) (size : Size) : Prop where
  corner : s.area.x = 0 ∧ s.area.y = 0
  columns : s.area.width.toNat ≤ size.columns
  rows : s.area.height.toNat ≤ size.rows
  across : s.xBounds.1 < s.xBounds.2
  upward : s.yBounds.1 < s.yBounds.2
  width : s.xBounds.2 - s.xBounds.1 + 1 + 2 = s.area.width.toNat
  height : s.yBounds.2 - s.yBounds.1 + 1 + 2 = s.area.height.toNat

/-- A point lies between the ends of the axes. -/
structure Scene.Spans (s : Scene) (point : Nat × Int) : Prop where
  left : s.xBounds.1 ≤ point.1
  right : point.1 ≤ s.xBounds.2
  bottom : s.yBounds.1 ≤ point.2
  top : point.2 ≤ s.yBounds.2

/-- The mark that a layer has for a point. -/
def Layer.markAt (l : Layer) (point : Nat × Int) : Option Char :=
  if point ∈ l.points then some l.mark else none

/-- The mark that a scene has for a point: that of the last layer with the point. -/
def Scene.markAt (s : Scene) (point : Nat × Int) : Option Char :=
  s.layers.reverse.findSome? fun l => l.markAt point

/-- What is relied on of a painter. A scene that fits the terminal replaces what stood there by its box,
and inside the edges of the box there is one character for each point. -/
structure Painter.Draws (painter : Painter) (size : Size) : Prop where
  height : ∀ s before, s.Fits size → (painter s before).length = s.area.height.toNat
  width : ∀ s before, s.Fits size → ∀ row ∈ painter s before, row.length = s.area.width.toNat
  marks : ∀ s before, s.Fits size → ∀ point mark, s.Spans point → s.markAt point = some mark →
    ((painter s before)[(s.yBounds.2 - point.2).toNat + 1]?.bind fun row =>
      row[(point.1 - s.xBounds.1).toNat + 1]?) = some mark

/-! ## Plotting -/

section Plotting

variable {w h : Nat} {s : Scene}

/-- The number of the cell of a point, if it has one. -/
def Scene.cell? (s : Scene) (w h : Nat) (point : Nat × Int) : Option Nat :=
  (s.spot? w h point).map fun spot => spot.2 * w + spot.1

/-- Plotting a layer marks the cells of its points and no others. -/
theorem Canvas.getElem?_plotLayer (c : Canvas w h) (l : Layer) {n : Nat} (hn : n < w * h) :
    (c.plotLayer s l).cells[n]? =
      if ∃ point ∈ l.points, s.cell? w h point = some n then some l.mark else c.cells[n]? := by
  obtain ⟨mark, points⟩ := l
  induction points generalizing c with
  | nil => simp [plotLayer]
  | cons point points ih =>
    have hplot : (c.plot s mark point).cells[n]? =
        if s.cell? w h point = some n then some mark else c.cells[n]? := by
      rw [plot, Scene.cell?]
      rcases s.spot? w h point with _ | ⟨column, row⟩
      · rfl
      · simp only [Option.map_some, Option.some_inj, Vector.getElem?_setIfInBounds]
        by_cases hcell : row * w + column = n
        · rw [if_pos hcell, if_pos hcell, if_pos (hcell ▸ hn)]
        · rw [if_neg hcell, if_neg hcell]
    have hrest : c.plotLayer s ⟨mark, point :: points⟩ =
        (c.plot s mark point).plotLayer s ⟨mark, points⟩ := rfl
    rw [hrest, ih, hplot]
    by_cases hlater : ∃ point ∈ points, s.cell? w h point = some n
    · have hsome : ∃ later ∈ point :: points, s.cell? w h later = some n :=
        hlater.imp fun _ hp => ⟨List.mem_cons_of_mem _ hp.1, hp.2⟩
      rw [if_pos hlater, if_pos hsome]
    · simp only [List.mem_cons, exists_eq_or_imp, hlater, or_false, if_false]

/-- A canvas is to scale if it has one column and one row for each step of the axes, of which there are
some. -/
structure Scene.ToScale (s : Scene) (w h : Nat) : Prop where
  across : s.xBounds.1 < s.xBounds.2
  upward : s.yBounds.1 < s.yBounds.2
  width : s.xBounds.2 - s.xBounds.1 + 1 = w
  height : s.yBounds.2 - s.yBounds.1 + 1 = h

/-- Only points between the ends of the axes have a cell. -/
theorem Scene.spans_of_spot? {point : Nat × Int} {spot : Nat × Nat}
    (hspot : s.spot? w h point = some spot) : s.Spans point := by
  unfold spot? at hspot
  dsimp only at hspot
  split_ifs at hspot
  constructor <;> omega

/-- To scale, a point between the ends of the axes is as many columns and rows from the corner as it is
from their ends. -/
theorem Scene.ToScale.spot?_eq (hscale : s.ToScale w h) {point : Nat × Int} (hspans : s.Spans point) :
    s.spot? w h point =
      some ((point.1 - s.xBounds.1).toNat, (s.yBounds.2 - point.2).toNat) := by
  obtain ⟨hacross, hupward, hw, hh⟩ := hscale
  obtain ⟨hleft, hright, hbottom, htop⟩ := hspans
  have hx : (w : Int) - 1 = s.xBounds.2 - s.xBounds.1 := by omega
  have hy : (h : Int) - 1 = s.yBounds.2 - s.yBounds.1 := by omega
  unfold spot?
  rw [if_neg (by omega), if_neg (by omega), hx, hy, Int.mul_ediv_cancel _ (by omega),
    Int.mul_ediv_cancel _ (by omega)]

/-- To scale, the number of a point's cell tells its column and its row. -/
theorem Scene.ToScale.cell?_eq (hscale : s.ToScale w h) {point : Nat × Int} (hspans : s.Spans point) :
    s.cell? w h point =
      some ((s.yBounds.2 - point.2).toNat * w + (point.1 - s.xBounds.1).toNat) := by
  rw [cell?, hscale.spot?_eq hspans]
  rfl

/-- To scale, no two points have the same cell. -/
theorem Scene.ToScale.eq_of_cell? (hscale : s.ToScale w h) {point other : Nat × Int}
    (hspans : s.Spans point) (hsame : s.cell? w h other = s.cell? w h point) : other = point := by
  have hother : s.Spans other := by
    rw [hscale.cell?_eq hspans] at hsame
    obtain ⟨spot, hspot, -⟩ := Option.map_eq_some_iff.1 hsame
    exact spans_of_spot? hspot
  rw [hscale.cell?_eq hspans, hscale.cell?_eq hother, Option.some_inj] at hsame
  obtain ⟨-, -, hw, -⟩ := hscale
  obtain ⟨hleft, hright, -, htop⟩ := hspans
  obtain ⟨hleft', hright', -, htop'⟩ := hother
  -- Both columns lie inside a row, so division by the width tells the rows apart.
  have hcolumn : (point.1 - s.xBounds.1).toNat < w := by omega
  have hcolumn' : (other.1 - s.xBounds.1).toNat < w := by omega
  have hrows := congrArg (· / w) hsame
  have hcolumns := congrArg (· % w) hsame
  simp only [Nat.mul_comm _ w, Nat.mul_add_div (Nat.zero_lt_of_lt hcolumn), Nat.mul_add_mod,
    Nat.div_eq_of_lt, Nat.mod_eq_of_lt, hcolumn, hcolumn'] at hrows hcolumns
  exact Prod.ext (by omega) (by omega)

/-- To scale, the cell of a point has the mark of the last layer with the point, or what was there if
there is none. -/
theorem Canvas.getElem?_plotLayers (hscale : s.ToScale w h) {point : Nat × Int} (hspans : s.Spans point)
    (layers : List Layer) (c : Canvas w h) {n : Nat} (hn : n < w * h)
    (hcell : s.cell? w h point = some n) :
    (layers.foldl (plotLayer s) c).cells[n]? =
      (layers.reverse.findSome? fun l => l.markAt point).or c.cells[n]? := by
  induction layers generalizing c with
  | nil => rfl
  | cons l layers ih =>
    have hplotted : (c.plotLayer s l).cells[n]? = (l.markAt point).or c.cells[n]? := by
      have hmem : (∃ other ∈ l.points, s.cell? w h other = some n) ↔ point ∈ l.points := by
        constructor
        · rintro ⟨other, hmem, hother⟩
          exact hscale.eq_of_cell? hspans (hother.trans hcell.symm) ▸ hmem
        · exact fun hmem => ⟨point, hmem, hcell⟩
      rw [c.getElem?_plotLayer l hn, Layer.markAt]
      simp only [hmem]
      split_ifs <;> rfl
    rw [List.foldl_cons, ih, hplotted, List.reverse_cons, List.findSome?_append,
      List.findSome?_singleton, Option.or_assoc]

end Plotting

/-! ## The box -/

/-- The painter draws a box with one character for each point, on terminals of any size. -/
theorem paint_draws (size : Size) : Painter.Draws paint size where
  height := by
    intro s before hfits
    have hheight := hfits.height
    have hupward := hfits.upward
    simp only [paint, Canvas.rows, List.length_append, List.length_cons, List.length_map,
      List.length_range, List.length_nil]
    omega
  width := by
    intro s before hfits row hrow
    have hwidth := hfits.width
    have hacross := hfits.across
    simp only [paint, Canvas.rows, List.cons_append, List.mem_cons, List.mem_append, List.mem_map,
      List.not_mem_nil, or_false] at hrow
    rcases hrow with rfl | ⟨_, ⟨y, -, rfl⟩, rfl⟩ | rfl
    · simp [upperEdge]
      omega
    · simp [Canvas.row]
      omega
    · simp [lowerEdge]
      omega
  marks := by
    intro s before hfits point mark hspans hmark
    obtain ⟨-, -, -, hacross, hupward, hwidth, hheight⟩ := hfits
    have hscale : s.ToScale (s.area.width.toNat - 2) (s.area.height.toNat - 2) :=
      ⟨hacross, hupward, by omega, by omega⟩
    have hcell := hscale.cell?_eq hspans
    obtain ⟨hleft, hright, hbottom, htop⟩ := hspans
    rw [paint]
    generalize s.area.width.toNat - 2 = w, s.area.height.toNat - 2 = h at hscale hcell ⊢
    have hw := hscale.width
    have hh := hscale.height
    let canvas := s.layers.foldl (Canvas.plotLayer s) (Canvas.blank w h)
    let column := (point.1 - s.xBounds.1).toNat
    let row := (s.yBounds.2 - point.2).toNat
    have hcolumn : column < w := by omega
    have hrow : row < h := by omega
    have hinside : row * w + column < w * h := by
      have hrows := Nat.mul_le_mul_left w (Nat.succ_le_of_lt hrow)
      rw [Nat.mul_succ, Nat.mul_comm] at hrows
      omega
    have hplotted : canvas.cells[row * w + column]? = some mark := by
      have hlayers := Canvas.getElem?_plotLayers hscale ⟨hleft, hright, hbottom, htop⟩ s.layers
        (Canvas.blank w h) hinside hcell
      rw [← Scene.markAt, hmark] at hlayers
      exact hlayers
    -- The edges of the box come first, so everything inside is one further on.
    have hline : (upperEdge s.title w :: canvas.rows.map (fun r => '│' :: r ++ ['│']) ++
        [lowerEdge w])[row + 1]? = some ('│' :: canvas.row row ++ ['│']) := by
      simp [Canvas.rows, List.getElem?_append, hrow]
    have hmarked : (canvas.row row)[column]? = some mark := by
      simp [Canvas.row, hcolumn, hplotted]
    rw [hline, Option.bind_some, List.cons_append, List.getElem?_cons_succ,
      List.getElem?_append_left (by simpa [Canvas.row] using hcolumn)]
    exact hmarked

end Cosmac.Terminal
