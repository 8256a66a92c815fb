import Cosmac.Device

/-!
# Devices without hardware

A display that keeps its picture and shows it to nobody, a keypad played from a script, and a buzzer
that makes no sound but knows whether it should. None of them fails, except that a script of key
presses can run out.
-/

namespace Cosmac

/-- A display that only keeps the picture and counts what it is asked for. -/
structure Headless where
  width : Nat := 0
  height : Nat := 0
  picture : Picture width height := Picture.blank width height
  /-- How often the picture was blanked. -/
  clears : Nat := 0
  /-- How many sprites were drawn. -/
  sprites : Nat := 0

namespace Headless

/-- A blank picture of the given size takes the place of the old one. -/
def setExtents (w h : Nat) (d : Headless) : Headless where
  width := w
  height := h
  picture := Picture.blank w h
  clears := d.clears
  sprites := d.sprites

/-- Blanks the picture. -/
def clear (d : Headless) : Headless :=
  { d with picture := Picture.blank d.width d.height, clears := d.clears + 1 }

/-- Draws a sprite. -/
def draw (x y : UInt8) (rows : List Row) (d : Headless) : Bool × Headless :=
  let (collided, picture) := d.picture.draw x y rows
  (collided, { d with picture := picture, sprites := d.sprites + 1 })

instance : Display Headless where
  setExtents w h d := (.ok (), d.setExtents w h)
  clear d := (.ok (), d.clear)
  draw x y rows d := ((d.draw x y rows).map .ok id)
  refresh d := (.ok (), d)

end Headless

/-- A keypad whose keys are held down and released from outside, with a queue of presses to wait
for. -/
structure Scripted where
  down : Vector Bool 16 := Vector.replicate 16 false
  /-- The presses that nobody has waited for yet, the next one first. -/
  presses : List UInt8 := []
  /-- How often the keypad was polled. -/
  polls : Nat := 0
  deriving DecidableEq, Repr

namespace Scripted

/-- Holds a key down or releases it. Only the low nibble of the key counts. -/
def setDown (s : Scripted) (key : UInt8) (down : Bool) : Scripted :=
  { s with down := s.down.set (key.toNat % 16) down }

/-- A keypad with some keys down and no presses waiting. -/
def ofKeys (keys : List UInt8) : Scripted :=
  keys.foldl (fun s k => s.setDown k true) {}

/-- Adds presses at the end of the queue. -/
def press (s : Scripted) (keys : List UInt8) : Scripted :=
  { s with presses := s.presses ++ keys }

/-- Whether a key is down. A key that does not exist is not. -/
def isDown (s : Scripted) (key : UInt8) : Bool := s.down[key.toNat]?.getD false

/-- What is reported when nobody will press a key any more. -/
def ranDry : DeviceError := ⟨.endOfInput, "no more key presses"⟩

/-- Takes the next press from the queue. -/
def waitForKey (s : Scripted) : Reply DeviceError UInt8 Scripted :=
  match s.presses with
  | [] => (.error ranDry, s)
  | key :: rest => (.ok key, { s with presses := rest })

instance : Keypad Scripted where
  poll s := (.ok (), { s with polls := s.polls + 1 })
  isDown := isDown
  waitForKey := waitForKey

end Scripted

/-- A buzzer that makes no sound. -/
structure Silent where
  isBeeping : Bool := false
  deriving DecidableEq, Repr

instance : Buzzer Silent where
  beep _ := (.ok (), ⟨true⟩)
  stop _ := (.ok (), ⟨false⟩)
  isBeeping s := s.isBeeping

end Cosmac
