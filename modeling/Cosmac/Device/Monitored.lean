import Cosmac.Device

/-!
# Devices under watch

A monitored device passes calls on to another device and keeps a record of them, each with its name
and whether it succeeded. A plan can make it fail: from a given call of a name on, calls of that name
fail and do not reach the device. Questions that cannot fail are neither recorded nor stopped.
-/

namespace Cosmac

/-- A call that was made. -/
structure CallRecord (ι : Type) where
  name : ι
  succeeded : Bool
  deriving DecidableEq, Repr

/-- From which call on a name fails, counted from one, and how. -/
structure Breakdown (ε : Type) where
  first : Nat
  error : ε

/-- A device with a record of the calls it got and a plan of failures. Calls are named in `ι` and fail
with an `ε`. -/
structure Monitored (ι ε σ : Type) where
  inner : σ
  /-- The calls, the latest first. -/
  record : List (CallRecord ι) := []
  plan : ι → Option (Breakdown ε) := fun _ => none

namespace Monitored

variable {ι ε σ α : Type} [DecidableEq ι]

/-- How many calls of a name were made. -/
def count (d : Monitored ι ε σ) (name : ι) : Nat := d.record.countP fun c => c.name = name

/-- The error planned for the next call of a name. -/
def planned (d : Monitored ι ε σ) (name : ι) : Option ε :=
  match d.plan name with
  | none => none
  | some b => if b.first ≤ d.count name + 1 then some b.error else none

/-- Makes a call of the inner device, unless it is planned to fail. -/
def attempt (d : Monitored ι ε σ) (name : ι) (call : σ → Reply ε α σ) :
    Reply ε α (Monitored ι ε σ) :=
  match d.planned name with
  | some e => (.error e, { d with record := ⟨name, false⟩ :: d.record })
  | none =>
    let (result, inner) := call d.inner
    (result, { d with inner := inner, record := ⟨name, result.toBool⟩ :: d.record })

end Monitored

/-- The calls that a display answers. -/
inductive DisplayCall
  | setExtents
  | clear
  | draw
  | refresh
  deriving DecidableEq, Repr

/-- The calls that a keypad answers and that can fail. -/
inductive KeypadCall
  | poll
  | waitForKey
  deriving DecidableEq, Repr

/-- The calls that a buzzer answers and that can fail. -/
inductive BuzzerCall
  | beep
  | stop
  deriving DecidableEq, Repr

instance {σ : Type} [Display σ] : Display (Monitored DisplayCall DeviceError σ) where
  setExtents w h d := d.attempt .setExtents (Display.setExtents w h)
  clear d := d.attempt .clear Display.clear
  draw x y rows d := d.attempt .draw (Display.draw x y rows)
  refresh d := d.attempt .refresh Display.refresh

instance {σ : Type} [Keypad σ] : Keypad (Monitored KeypadCall DeviceError σ) where
  poll d := d.attempt .poll Keypad.poll
  isDown d := Keypad.isDown d.inner
  waitForKey d := d.attempt .waitForKey Keypad.waitForKey

instance {σ : Type} [Buzzer σ] : Buzzer (Monitored BuzzerCall String σ) where
  beep d := d.attempt .beep Buzzer.beep
  stop d := d.attempt .stop Buzzer.stop
  isBeeping d := Buzzer.isBeeping d.inner

end Cosmac
