import Cosmac.Terminal.Scene

/-!
# A painter of scenes

The painter draws the box of a scene and plots the layers of points on the canvas in it, one after the
other, so a point covers those of the layers before. A point is taken to the scale of the canvas, which
has the ends of its axes in its first and last columns and rows. Points outside the axes are dropped, and
so are all points when an axis has no extent, as that of a single column or row.
-/

namespace Cosmac.Terminal

/-- A field of `w` by `h` characters, row by row. -/
structure Canvas (w h : Nat) where
  cells : Vector Char (w * h)

/-- The column and row of a point on a canvas of `w` by `h` characters, if it has one. -/
def Scene.spot? (s : Scene) (w h : Nat) (point : Nat × Int) : Option (Nat × Nat) :=
  let across := point.1 - s.xBounds.1
  let down := s.yBounds.2 - point.2
  let width := s.xBounds.2 - s.xBounds.1
  let height := s.yBounds.2 - s.yBounds.1
  if across < 0 ∨ width < across ∨ down < 0 ∨ height < down then none
  else if width = 0 ∨ height = 0 then none
  else some ((across * (w - 1) / width).toNat, (down * (h - 1) / height).toNat)

namespace Canvas

variable {w h : Nat}

/-- The canvas with nothing on it. -/
def blank (w h : Nat) : Canvas w h := ⟨Vector.replicate _ ' '⟩

/-- Plots a point of a scene. -/
def plot (s : Scene) (mark : Char) (c : Canvas w h) (point : Nat × Int) : Canvas w h :=
  match s.spot? w h point with
  | some (column, row) => ⟨c.cells.setIfInBounds (row * w + column) mark⟩
  | none => c

/-- Plots a layer of a scene. -/
def plotLayer (s : Scene) (c : Canvas w h) (l : Layer) : Canvas w h :=
  l.points.foldl (plot s l.mark) c

/-- The characters of one row. -/
def row (c : Canvas w h) (y : Nat) : List Char :=
  (List.range w).map fun x => c.cells[y * w + x]?.getD ' '

/-- The rows, the top one first. -/
def rows (c : Canvas w h) : List (List Char) := (List.range h).map c.row

end Canvas

/-- The upper edge of a box of inner width `w`, with as much of the title as fits. -/
def upperEdge (title : List Char) (w : Nat) : List Char :=
  '┌' :: title.take w ++ List.replicate (w - title.length) '─' ++ ['┐']

/-- The lower edge of a box of inner width `w`. -/
def lowerEdge (w : Nat) : List Char := '└' :: List.replicate w '─' ++ ['┘']

/-- Paints a scene in the corner of a terminal. Nothing of what stood there is left. -/
def paint : Painter := fun s _ =>
  let w := s.area.width.toNat - 2
  let h := s.area.height.toNat - 2
  let canvas := s.layers.foldl (Canvas.plotLayer s) (Canvas.blank w h)
  upperEdge s.title w :: canvas.rows.map (fun r => '│' :: r ++ ['│']) ++ [lowerEdge w]

end Cosmac.Terminal
