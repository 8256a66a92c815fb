import Cosmac.Fault
import Cosmac.Picture.Sprite

/-!
# Devices

The machine talks to a display, a keypad and a buzzer. Each is a state of some type with a few
operations on it. An operation that can fail says so in its result, and leaves a state behind in
either case, so a device is free to change when it fails. A question that cannot fail is answered from
the state alone and changes nothing. Nothing more is assumed about a device.
-/

namespace Cosmac

/-- What a device does when asked for something that can fail: its answer and the state it is left
in. -/
abbrev Reply (ε α σ : Type) := Except ε α × σ

/-- Displays. -/
class Display (σ : Type) where
  /-- Sets the size of the picture, which is blank afterwards. -/
  setExtents : Nat → Nat → σ → Reply DeviceError Unit σ
  /-- Blanks the picture. -/
  clear : σ → Reply DeviceError Unit σ
  /-- Inverts the pixels under a sprite at a column and a row. Gives whether a lit one was put out. -/
  draw : UInt8 → UInt8 → List Row → σ → Reply DeviceError Bool σ
  /-- Shows the picture. The machine asks for it after ticks of its timers. -/
  refresh : σ → Reply DeviceError Unit σ

/-- Keypads of sixteen keys. -/
class Keypad (σ : Type) where
  /-- Takes note of what happened to the keys. -/
  poll : σ → Reply DeviceError Unit σ
  /-- Whether a key is down, as the state tells. Asking changes nothing. -/
  isDown : σ → UInt8 → Bool
  /-- Waits for a key to be pressed. -/
  waitForKey : σ → Reply DeviceError UInt8 σ

/-- Buzzers, which fail with a text. -/
class Buzzer (σ : Type) where
  /-- Starts the tone. -/
  beep : σ → Reply String Unit σ
  /-- Ends the tone. -/
  stop : σ → Reply String Unit σ
  /-- Whether the tone is on, as the state tells. Asking changes nothing. -/
  isBeeping : σ → Bool

/-- The number of keys of a keypad. -/
def keyCount : Nat := 16

end Cosmac
