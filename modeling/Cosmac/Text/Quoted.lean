import Cosmac.Text.Hex
import Cosmac.Text.Visible

/-!
# Quoted characters

A character in a message stands between single quotes. The quote itself and the backslash get a
backslash in front, the common controls are written by a letter, and any other character that cannot
be shown by itself is written by its code point. A double quote needs no such care.
-/

namespace Cosmac.Text

/-- The inside of a quoted character. -/
def escapeChar (c : Char) : String :=
  if c = '\x00' then "\\0"
  else if c = '\t' then "\\t"
  else if c = '\r' then "\\r"
  else if c = '\n' then "\\n"
  else if c = '\x27' then "\\'"
  else if c = '\x5c' then "\\\\"
  else if isVisible c then String.singleton c
  else "\\u\x7b" ++ hex 1 c.toNat ++ "\x7d"

/-- A character between single quotes. -/
def quoteChar (c : Char) : String := "'" ++ escapeChar c ++ "'"

end Cosmac.Text
