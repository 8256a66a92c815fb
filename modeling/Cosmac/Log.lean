import Cosmac.Fault

/-!
# Log lines

The machine reports what it does as notices, each with a level and a wording. A reader of the log
asks for a level and gets the notices at that level and the more severe ones.
-/

namespace Cosmac

/-- The levels of a log line, the most severe first. -/
inductive Level
  | error
  | warn
  | info
  | debug
  | trace
  deriving DecidableEq, Repr

namespace Level

/-- The place of a level in the order of severity; zero is the most severe. -/
def rank : Level → Nat
  | error => 0
  | warn => 1
  | info => 2
  | debug => 3
  | trace => 4

/-- The name of a level at the head of a line. -/
def heading : Level → String
  | error => "ERROR"
  | warn => "WARN"
  | info => "INFO"
  | debug => "DEBUG"
  | trace => "TRACE"

/-- Whether a line at level `l` is shown to a reader who asks for level `wanted`. -/
def shownAt (l wanted : Level) : Bool := l.rank ≤ wanted.rank

end Level

/-- One line of the log. -/
structure LogLine where
  level : Level
  text : String
  deriving DecidableEq, Repr

/-- The line with its level in front. -/
def LogLine.render (l : LogLine) : String := l.level.heading ++ " " ++ l.text

/-- What the machine reports. -/
inductive Notice
  /-- The instruction at `pc` was stepped over. -/
  | skipped (pc : Address)
  /-- The word at `pc` was fetched. -/
  | fetched (pc : Address) (word : Word)
  /-- The timers ticked and now hold these values. -/
  | ticked (ticks : Nat) (delay sound : UInt8)
  /-- A program of `length` bytes did not fit into memory of `capacity` bytes. -/
  | truncated (length capacity : Nat)
  /-- This many bytes of a program were loaded. -/
  | loaded (length : Nat)
  /-- The loop starts at `pc`, at this many instructions a second. -/
  | started (pc : Address) (rate : Nat)
  /-- The loop ended; so many cycles have been run since the machine was made. -/
  | stopped (cycles : Nat)
  /-- The buzzer failed and will not be used again. -/
  | buzzerLost (text : String)
  deriving DecidableEq, Repr

namespace Notice

/-- The level of a notice. -/
def level : Notice → Level
  | skipped _ | fetched _ _ | ticked _ _ _ => .trace
  | loaded _ | started _ _ | stopped _ => .info
  | truncated _ _ | buzzerLost _ => .warn

/-- The wording of a notice. -/
def text : Notice → String
  | skipped pc => Fault.addressText pc ++ ": skipped"
  | fetched pc w => Fault.addressText pc ++ ": " ++ w.text
  | ticked n delay sound =>
    toString n ++ " timer tick(s): delay=" ++ toString delay.toNat ++ " sound=" ++
      toString sound.toNat
  | truncated n room => "program is " ++ toString n ++ " bytes; truncated to " ++ toString room
  | loaded n => "loaded " ++ toString n ++ " byte program"
  | started pc rate =>
    "starting at " ++ Fault.addressText pc ++ ", " ++ toString rate ++ " instructions/s"
  | stopped n => "stopped after " ++ toString n ++ " cycles"
  | buzzerLost reason => "sound unavailable, carrying on without it: " ++ reason

/-- The notice as a line of the log. -/
def line (n : Notice) : LogLine := ⟨n.level, n.text⟩

end Notice

end Cosmac
