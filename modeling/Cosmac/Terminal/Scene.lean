import Cosmac.Picture.Points

/-!
# What a terminal is asked to paint

A picture goes to the terminal as a scene: a box of single lines with a title, and in the box a canvas
with two layers of points, first the unlit pixels and then the lit ones. The box stands in the corner of
the terminal and is larger than the picture by its edges. The axes of the canvas run from the first to
the last column and from the last row up to the first, so there is one character to each pixel.

Painting is left to whoever has the terminal. A `Painter` gives the rows that stand on the terminal after
a scene was painted on it.
-/

namespace Cosmac.Terminal

/-- The mark of a lit pixel. -/
def litMark : Char := '#'

/-- The mark of an unlit pixel. -/
def unlitMark : Char := '.'

/-- The title of the box. -/
def title : List Char := "CHIP-8".toList

/-- A rectangle of characters: its top left corner and its size. -/
structure Area where
  x : UInt16
  y : UInt16
  width : UInt16
  height : UInt16
  deriving DecidableEq, Repr

/-- Some points with the mark that stands for them. -/
structure Layer where
  mark : Char
  points : List (Nat × Int)
  deriving DecidableEq, Repr

/-- A box with a canvas in it. -/
structure Scene where
  /-- Where the box stands. -/
  area : Area
  title : List Char
  /-- The ends of the horizontal axis, the left one first. -/
  xBounds : Int × Int
  /-- The ends of the vertical axis, the bottom one first. -/
  yBounds : Int × Int
  /-- What is plotted, the lowest layer first. -/
  layers : List Layer
  deriving DecidableEq, Repr

/-- What paints scenes on a terminal, over rows that stand there. -/
abbrev Painter := Scene → List (List Char) → List (List Char)

/-- The ends of the horizontal axis for a picture of width `w`. -/
def xBounds (w : Nat) : Int × Int := (0, ((max w 1 - 1 : Nat) : Int))

/-- The ends of the vertical axis for a picture of height `h`. -/
def yBounds (h : Nat) : Int × Int := (-((max h 1 - 1 : Nat) : Int), 0)

/-- The scene of a picture. -/
def sceneOf {w h : Nat} (p : Picture w h) : Scene where
  area := { x := 0, y := 0, width := 2 + UInt16.ofNat w, height := 2 + UInt16.ofNat h }
  title := title
  xBounds := xBounds w
  yBounds := yBounds h
  layers := [⟨unlitMark, p.points false⟩, ⟨litMark, p.points true⟩]

end Cosmac.Terminal
