import Cosmac.Device
import Cosmac.Terminal.Canvas

/-!
# The display in a terminal

The display keeps the picture and shows it in the top left corner of a terminal when asked to
refresh, but only if something was asked of it since the last time. While it is open the cursor is
hidden. The terminal is taken to be large enough for the picture, and writing to it to succeed. How it is
painted is the terminal's matter.
-/

namespace Cosmac

/-- A display that draws on a terminal. -/
structure TerminalScreen where
  width : Nat
  height : Nat
  picture : Picture width height
  /-- What paints on the terminal. -/
  painter : Terminal.Painter := Terminal.paint
  /-- Whether something was asked of the display since it was last shown. -/
  dirty : Bool := true
  /-- The rows that stand on the terminal, from the top. -/
  shown : List (List Char) := []
  /-- How often something was written to the terminal. -/
  writes : Nat := 0
  cursorHidden : Bool := true

namespace TerminalScreen

/-- Takes over a terminal that is painted by a painter: it is cleared and the cursor hidden. -/
def openWith (painter : Terminal.Painter) (w h : Nat) : TerminalScreen where
  width := w
  height := h
  picture := Picture.blank w h
  painter := painter

/-- Takes over a terminal. -/
def openOn (w h : Nat) : TerminalScreen := openWith Terminal.paint w h

/-- Gives the terminal back. -/
def close (d : TerminalScreen) : TerminalScreen := { d with cursorHidden := false }

/-- A blank picture takes the place of the old one, and the terminal is cleared. -/
def setExtents (w h : Nat) (d : TerminalScreen) : TerminalScreen where
  width := w
  height := h
  picture := Picture.blank w h
  painter := d.painter
  shown := []
  writes := d.writes + 1
  cursorHidden := d.cursorHidden

/-- Blanks the picture. -/
def clear (d : TerminalScreen) : TerminalScreen :=
  { d with picture := Picture.blank d.width d.height, dirty := true }

/-- Draws a sprite. -/
def draw (x y : UInt8) (rows : List Row) (d : TerminalScreen) : Bool × TerminalScreen :=
  let (collided, picture) := d.picture.draw x y rows
  (collided, { d with picture := picture, dirty := true })

/-- Shows the picture, if there is anything to show. -/
def refresh (d : TerminalScreen) : TerminalScreen :=
  if d.dirty then
    { d with
      shown := d.painter (Terminal.sceneOf d.picture) d.shown
      dirty := false
      writes := d.writes + 1 }
  else d

/-- The rows that stand on the terminal, as strings. -/
def text (d : TerminalScreen) : List String := d.shown.map String.ofList

instance : Display TerminalScreen where
  setExtents w h d := (.ok (), d.setExtents w h)
  clear d := (.ok (), d.clear)
  draw x y rows d := ((d.draw x y rows).map .ok id)
  refresh d := (.ok (), d.refresh)

end TerminalScreen

end Cosmac
