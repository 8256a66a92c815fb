import Cosmac.Device
import Cosmac.Keyboard.Keymap
import Cosmac.Log

/-!
# The keypad on a keyboard

A terminal tells when a key is pressed and never when it is let go, so a key counts as down for a
while after its press was handled. Events arrive in order, each at a time of its own, and wait until
someone looks at them: a poll handles all that have arrived, up to and including the first request to
quit, and a wait for a key handles one after the other, biding its time, up to the first that is a
key or a request to quit.

The clock of the keyboard is part of its state. `elapse` moves it on, and so does a wait for an event
that has not arrived yet. Coming to an event may take some time as well, so the events that one call
handles need not be handled at the same time.
-/

namespace Cosmac

/-- An event and the time at which it arrives. -/
structure Arrival where
  time : Nat
  event : Keyboard.Event
  deriving DecidableEq, Repr

/-- What the keyboard reports about events it makes nothing of. -/
inductive Keyboard.Notice
  | unmapped (c : Char)
  | unknownKey (e : Keyboard.KeyEvent)
  | ignored (e : Keyboard.Event)
  deriving DecidableEq, Repr

/-- The notice as a line of the log. -/
def Keyboard.Notice.line : Keyboard.Notice → LogLine
  | unmapped c => ⟨.warn, "can't map " ++ Text.quoteChar c ++ " to a COSMAC key"⟩
  | unknownKey e => ⟨.warn, "unknown key event received: " ++ e.text⟩
  | ignored e => ⟨.debug, "ignoring terminal event " ++ e.text⟩

/-- A keypad played on the keyboard of a terminal. -/
structure Keyboard where
  /-- The time, in nanoseconds. -/
  now : Nat := 0
  /-- The events that nobody has looked at yet, the next one first. -/
  incoming : List Arrival := []
  /-- How long it takes to come to each of the next events; no time once there is nothing left. -/
  lags : List Nat := []
  /-- When each key was last handled. -/
  lastPressed : Vector (Option Nat) 16 := Vector.replicate 16 none
  /-- The notices given so far, the latest first. -/
  log : List Keyboard.Notice := []
  /-- Whether the terminal hands keys over one by one. -/
  raw : Bool := true
  deriving DecidableEq, Repr

namespace Keyboard

/-- How long a key counts as down: 150 milliseconds. -/
def holdTime : Nat := 150000000

/-- What is reported when the program is asked to end. -/
def quitRequested : DeviceError := ⟨.interrupted, "quit requested from keyboard"⟩

/-- What is reported when no event will ever arrive. -/
def ranDry : DeviceError := ⟨.endOfInput, "no more terminal events"⟩

/-- Lets time go by. -/
def elapse (k : Keyboard) (time : Nat) : Keyboard := { k with now := k.now + time }

/-- Adds events that arrive now, after all others. -/
def type (k : Keyboard) (events : List Event) : Keyboard :=
  { k with incoming := k.incoming ++ events.map fun e => ⟨k.now, e⟩ }

/-- Gives the terminal back. -/
def close (k : Keyboard) : Keyboard := { k with raw := false }

/-- Adds a notice to the log. -/
def note (k : Keyboard) (n : Notice) : Keyboard := { k with log := n :: k.log }

/-- Remembers a press of a key. -/
def press (k : Keyboard) (key : UInt8) : Keyboard :=
  { k with lastPressed := k.lastPressed.setIfInBounds key.toNat (some k.now) }

/-- Handles an event. Gives the key of the keypad that it was, if it was one. -/
def handle (k : Keyboard) : Event → Reply DeviceError (Option UInt8) Keyboard
  | .key e =>
    match e.meaning with
    | .pressed key => (.ok (some key), k.press key)
    | .quit => (.error quitRequested, k)
    | .unmapped c => (.ok none, k.note (.unmapped c))
    | .unknown => (.ok none, k.note (.unknownKey e))
  | e => (.ok none, k.note (.ignored e))

/-- Whether a wait for a key ends with an event: it is a key of the keypad or a request to quit. -/
def settles : Event → Bool
  | .key e => (e.meaning matches .pressed _) || e.meaning == .quit
  | _ => false

/-- Comes to an event, not before it has arrived. -/
def comeTo (k : Keyboard) (a : Arrival) : Keyboard :=
  { k with now := max k.now a.time + k.lags.headD 0, lags := k.lags.tail }

/-- Handles those of the given events that have arrived, and leaves the others. -/
def pollFrom (k : Keyboard) : List Arrival → Reply DeviceError Unit Keyboard
  | [] => (.ok (), { k with incoming := [] })
  | a :: rest =>
    if a.time ≤ k.now then
      match (k.comeTo a).handle a.event with
      | (.error e, k) => (.error e, { k with incoming := rest })
      | (.ok _, k) => k.pollFrom rest
    else (.ok (), { k with incoming := a :: rest })

/-- Handles the given events up to the first key, waiting for each to arrive. -/
def waitFrom (k : Keyboard) : List Arrival → Reply DeviceError UInt8 Keyboard
  | [] => (.error ranDry, { k with incoming := [] })
  | a :: rest =>
    match (k.comeTo a).handle a.event with
    | (.error e, k) => (.error e, { k with incoming := rest })
    | (.ok (some key), k) => (.ok key, { k with incoming := rest })
    | (.ok none, k) => k.waitFrom rest

/-- Handles what has arrived. -/
def poll (k : Keyboard) : Reply DeviceError Unit Keyboard := k.pollFrom k.incoming

/-- Waits for a key of the keypad. -/
def waitForKey (k : Keyboard) : Reply DeviceError UInt8 Keyboard := k.waitFrom k.incoming

/-- Whether a key was handled not too long ago. -/
def isDown (k : Keyboard) (key : UInt8) : Bool :=
  match k.lastPressed[key.toNat]?.join with
  | some time => k.now - time < holdTime
  | none => false

instance : Keypad Keyboard where
  poll := poll
  isDown := isDown
  waitForKey := waitForKey

end Keyboard

end Cosmac
