import Cosmac.Keyboard.Event

/-!
# The keymap

The left-hand side of a keyboard stands for the sixteen keys of the keypad:

    1 2 3 4      1 2 3 C
    q w e r      4 5 6 D
    a s d f      7 8 9 E
    z x c v      A 0 B F

Letters count in either case. `Meaning` is what a key event means to the keypad: a key of it, a
request to quit, or nothing. A control key together with a small `c` asks to quit; with any other
character it makes no difference.
-/

namespace Cosmac.Keyboard

/-- The characters of the keymap and their keys. -/
def keymap : List (Char × UInt8) := [
  ('x', 0x0), ('1', 0x1), ('2', 0x2), ('3', 0x3),
  ('q', 0x4), ('w', 0x5), ('e', 0x6), ('a', 0x7),
  ('s', 0x8), ('d', 0x9), ('z', 0xa), ('c', 0xb),
  ('4', 0xc), ('r', 0xd), ('f', 0xe), ('v', 0xf)]

/-- The key that a character stands for, in either case of the letters A to Z. -/
def keyOf (c : Char) : Option UInt8 := keymap.lookup c.toLower

/-- What a key event means. -/
inductive Meaning
  /-- A key of the keypad. -/
  | pressed (key : UInt8)
  /-- A request to quit. -/
  | quit
  /-- A character without a key. -/
  | unmapped (c : Char)
  /-- A key that is no character. -/
  | unknown
  deriving DecidableEq, Repr

/-- What a key event means. -/
def KeyEvent.meaning (e : KeyEvent) : Meaning :=
  match e.key with
  | .char c =>
    if c = 'c' ∧ e.modifiers.control then .quit
    else
      match keyOf c with
      | some key => .pressed key
      | none => .unmapped c
  | .escape => .quit
  | _ => .unknown

end Cosmac.Keyboard
