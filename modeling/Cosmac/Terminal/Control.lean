/-!
# Words to a terminal

What a program writes to a terminal besides text: to blank it, to hide its cursor or show it again,
and to put rows of characters in its top left corner.
-/

namespace Cosmac.Terminal

/-- Blanks the terminal. -/
def blankAll : String := "\x1b[2J\x1b[H"

/-- Hides the cursor. -/
def hideCursor : String := "\x1b[?25l"

/-- Shows the cursor. -/
def showCursor : String := "\x1b[?25h"

/-- Rings the bell. -/
def bell : String := "\x07"

/-- Goes to the first column of the next row. -/
def newRow : String := "\r\n"

/-- Puts rows of characters in the top left corner, over what stands there. -/
def topLeft (rows : List (List Char)) : String :=
  "\x1b[H" ++ String.join (rows.map fun row => String.ofList row ++ newRow)

end Cosmac.Terminal
