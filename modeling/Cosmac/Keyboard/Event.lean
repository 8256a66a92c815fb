import Cosmac.Text.Quoted

/-!
# What a terminal reports

A terminal reports keys with the modifiers held at the time, presses of the mouse, and changes of its
size. Each has a text that the log shows.
-/

namespace Cosmac.Keyboard

/-- The modifiers held when a key was pressed. -/
structure Modifiers where
  shift : Bool := false
  control : Bool := false
  alt : Bool := false
  deriving DecidableEq, Repr

/-- The names of the modifiers held, or a word for none. -/
def Modifiers.text (m : Modifiers) : String :=
  let held := (if m.shift then ["SHIFT"] else []) ++ (if m.control then ["CONTROL"] else []) ++
    (if m.alt then ["ALT"] else [])
  if held = [] then "NONE" else String.intercalate " | " held

/-- The keys of a terminal. -/
inductive Key
  | char (c : Char)
  | escape
  | enter
  | tab
  | backTab
  | backspace
  | left
  | right
  | up
  | down
  | home
  | last
  | pageUp
  | pageDown
  | insert
  | delete
  | function (n : Nat)
  deriving DecidableEq, Repr

/-- The name of a key. -/
def Key.text : Key → String
  | char c => "Char(" ++ Text.quoteChar c ++ ")"
  | escape => "Esc"
  | enter => "Enter"
  | tab => "Tab"
  | backTab => "BackTab"
  | backspace => "Backspace"
  | left => "Left"
  | right => "Right"
  | up => "Up"
  | down => "Down"
  | home => "Home"
  | last => "End"
  | pageUp => "PageUp"
  | pageDown => "PageDown"
  | insert => "Insert"
  | delete => "Delete"
  | function n => "F(" ++ toString n ++ ")"

/-- A key pressed with modifiers held. -/
structure KeyEvent where
  key : Key
  modifiers : Modifiers := {}
  deriving DecidableEq, Repr

/-- The text of a key with its modifiers. -/
def KeyEvent.text (e : KeyEvent) : String :=
  "KeyEvent \x7b code: " ++ e.key.text ++ ", modifiers: " ++ e.modifiers.text ++ " \x7d"

/-- What a terminal reports. -/
inductive Event
  | key (e : KeyEvent)
  /-- The left button of the mouse was pressed. -/
  | mouse (column row : Nat)
  | resize (columns rows : Nat)
  deriving DecidableEq, Repr

/-- The text of an event that is not a key. -/
def Event.text : Event → String
  | key e => "Key(" ++ e.text ++ ")"
  | mouse column row =>
    "Mouse(MouseEvent \x7b kind: Down(Left), column: " ++ toString column ++ ", row: " ++
      toString row ++ ", modifiers: NONE \x7d)"
  | resize columns rows => "Resize(" ++ toString columns ++ ", " ++ toString rows ++ ")"

end Cosmac.Keyboard
