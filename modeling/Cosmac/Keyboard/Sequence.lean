import Cosmac.Keyboard.Event

/-!
# Keys as bytes

A terminal sends text in UTF-8, a control key as a byte below the space, and a key without a
character as a sequence that the escape byte introduces. An escape byte with nothing behind it is the
escape key, and one in front of another key stands for the alternate modifier. Bytes that make no
event are dropped.
-/

namespace Cosmac.Keyboard

/-- The byte that introduces a sequence. -/
def escapeByte : UInt8 := 0x1b

/-- The key at the end of a sequence that a letter closes. -/
def Key.ofLetter : UInt8 → Option Key
  | 0x41 => some .up
  | 0x42 => some .down
  | 0x43 => some .right
  | 0x44 => some .left
  | 0x46 => some .last
  | 0x48 => some .home
  | 0x50 => some (.function 1)
  | 0x51 => some (.function 2)
  | 0x52 => some (.function 3)
  | 0x53 => some (.function 4)
  | 0x5a => some .backTab
  | _ => none

/-- The key of a sequence that a number tells. -/
def Key.ofNumber (n : Nat) : Option Key :=
  match n with
  | 1 | 7 => some .home
  | 2 => some .insert
  | 3 => some .delete
  | 4 | 8 => some .last
  | 5 => some .pageUp
  | 6 => some .pageDown
  | n =>
    if 11 ≤ n ∧ n ≤ 15 then some (.function (n - 10))
    else if 17 ≤ n ∧ n ≤ 21 then some (.function (n - 11))
    else if n = 23 ∨ n = 24 then some (.function (n - 12))
    else none

/-- A key as an event. Going back by the tabulator takes the shift key. -/
def Key.event (k : Key) : Event := .key { key := k, modifiers := { shift := k == .backTab } }

/-- A character as an event. -/
def Event.ofChar (c : Char) : Event := .key { key := .char c, modifiers := { shift := c.isUpper } }

/-- A character with the control key held. -/
def Event.ofControl (c : Char) : Event :=
  .key { key := .char c, modifiers := { control := true } }

/-- The same event with the alternate key held. -/
def Event.withAlt : Event → Event
  | .key e => .key { e with modifiers := { e.modifiers with alt := true } }
  | e => e

/-- How many bytes follow the first one of a character. -/
def followers (first : UInt8) : Nat :=
  if first < 0xc0 then 0 else if first < 0xe0 then 1 else if first < 0xf0 then 2 else 3

/-- The character that some bytes make, the first one apart. Six bits of each follower count. -/
def charOf (first : UInt8) (more : List UInt8) : Option Char :=
  let start := first.toNat % (64 >>> more.length)
  let code := more.foldl (fun n b => n * 64 + b.toNat % 64) start
  if more.all (fun b => b / 64 == 2) ∧ code.isValidChar then some (Char.ofNat code) else none

/-- The event that a byte begins, if it makes one, and how many more bytes belong to it. -/
def plain (b : UInt8) (rest : List UInt8) : Option Event × Nat :=
  if b = 0 then (some (.ofControl ' '), 0)
  else if b = 0x09 then (some Key.tab.event, 0)
  else if b = 0x0a ∨ b = 0x0d then (some Key.enter.event, 0)
  else if b = escapeByte then (some Key.escape.event, 0)
  else if b < 0x1b then (some (.ofControl (Char.ofNat (b.toNat + 0x60))), 0)
  else if b < 0x20 then (some (.ofControl (Char.ofNat (b.toNat + 0x18))), 0)
  else if b < 0x7f then (some (.ofChar (Char.ofNat b.toNat)), 0)
  else if b = 0x7f then (some Key.backspace.event, 0)
  else if b < 0xc0 then (none, 0)
  else
    let n := followers b
    if rest.length < n then (none, rest.length)
    else ((charOf b (rest.take n)).map .ofChar, n)

/-- Whether a byte is a parameter of a sequence. -/
def isParameter (b : UInt8) : Bool := 0x20 ≤ b && b < 0x40

/-- The number that the parameters of a sequence begin with. -/
def leadingNumber (parameters : List UInt8) : Nat :=
  (parameters.takeWhile fun b => 0x30 ≤ b && b < 0x3a).foldl
    (fun n b => n * 10 + (b.toNat - 0x30)) 0

/-- The event of a sequence with parameters, and how many bytes it has. -/
def sequence (bytes : List UInt8) : Option Event × Nat :=
  let parameters := bytes.takeWhile isParameter
  match bytes.drop parameters.length with
  | [] => (none, parameters.length)
  | 0x7e :: _ =>
    ((Key.ofNumber (leadingNumber parameters)).map Key.event, parameters.length + 1)
  | final :: _ => ((Key.ofLetter final).map Key.event, parameters.length + 1)

/-- The event that some bytes begin with, if they make one, and how many bytes beyond the first
belong to it. -/
def first (b : UInt8) (rest : List UInt8) : Option Event × Nat :=
  if b = escapeByte then
    match rest with
    | [] => (some Key.escape.event, 0)
    | 0x4f :: letter :: _ => ((Key.ofLetter letter).map Key.event, 2)
    | 0x5b :: bytes =>
      let (event, n) := sequence bytes
      (event, n + 1)
    | c :: more =>
      let (event, n) := plain c more
      (event.map Event.withAlt, n + 1)
  else plain b rest

/-- The events that some bytes make. -/
def eventsOf : List UInt8 → List Event
  | [] => []
  | b :: rest => (first b rest).1.toList ++ eventsOf (rest.drop (first b rest).2)
termination_by bytes => bytes.length
decreasing_by
  simp only [List.length_drop, List.length_cons]
  omega

end Cosmac.Keyboard
