import Cosmac.Picture

/-!
# Sprites

A sprite is a list of rows of eight cells. Drawing it inverts the pixel under every lit cell, row by
row and from left to right, and tells whether any of these pixels was lit when its turn came. The
coordinates wrap around, so a sprite larger than the picture meets itself.
-/

namespace Cosmac

/-- One row of a sprite, the leftmost cell first. -/
abbrev Row := Vector Bool 8

/-- The row that a byte of sprite data stands for, the most significant bit leftmost. -/
def unpackRow (b : UInt8) : Row := Vector.ofFn fun k => bitOf b k

/-- The lit cells of a sprite, as column and row, in drawing order. -/
def litCells (rows : List Row) : List (Nat × Nat) :=
  rows.zipIdx.flatMap fun (row, dy) =>
    ((List.finRange 8).filter fun dx => row[dx]).map fun dx => (dx.val, dy)

namespace Picture

variable {w h : Nat}

/-- Inverts one pixel and remembers whether it, or one before it, was lit. -/
def plot (state : Bool × Picture w h) (x y : Nat) : Bool × Picture w h :=
  (state.1 || state.2.pixel x y, state.2.toggle x y)

/-- Draws a sprite with its top left corner at column `x` and row `y`. Gives whether a lit pixel was
put out. -/
def draw (p : Picture w h) (x y : UInt8) (rows : List Row) : Bool × Picture w h :=
  (litCells rows).foldl (fun s c => plot s (x.toNat + c.1) (y.toNat + c.2)) (false, p)

end Picture

end Cosmac
