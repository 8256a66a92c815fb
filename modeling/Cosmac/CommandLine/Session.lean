import Cosmac.CommandLine.Options
import Cosmac.Device.Headless
import Cosmac.Device.Speaker
import Cosmac.Keyboard
import Cosmac.Machine.Pass
import Cosmac.Terminal.Screen

/-!
# From the command line to the exit

A program image is looked up before anything else is done, so a missing file ends the program with
nothing logged. Then a machine is put together and loaded, and its loop is run (`launch`). A fault that
ends the loop makes the exit a failure and is logged, unless it is a request to quit. The loop may be the
machine's own, on the readings of a clock (`program`).

A session is a program at a terminal, on a clock that is simulated: a pass of the loop takes a fixed time,
sleeping takes as long as it was asked for, and waiting for a key lasts until the key arrives. The
keyboard carries the time.
-/

namespace Cosmac.CommandLine

/-- A machine at the terminal. -/
abbrev Console (B : Type) := Machine TerminalScreen Keyboard B

/-- How a program ended. -/
structure Ending (D K B : Type) where
  /-- The exit code. -/
  exit : Nat
  /-- The message of the fault that was logged. -/
  logged : Option String := none
  /-- The machine, if it could be put together. -/
  machine : Option (Machine D K B) := none

/-- What is seen of a program that has ended. -/
structure Outcome where
  /-- The exit code. -/
  exit : Nat
  /-- The message of the fault that was logged. -/
  logged : Option String := none
  /-- What stood on the terminal in the end. -/
  screen : List String := []
  deriving DecidableEq, Repr

/-- The exit code of a program that fails. -/
def failedCode : Nat := 1

/-- The exit code for what a loop came to: a request to quit is a success. -/
def exitCode : Except Fault Unit → Nat
  | .ok _ => 0
  | .error f => if f.isQuit then 0 else failedCode

/-- The exit code for a command line that cannot be accepted. -/
def refusedCode : Nat := 2

/-- The message that is logged for what a loop came to. -/
def loggedMessage (wanted : Option Level) : Except Fault Unit → Option String
  | .ok _ => none
  | .error f =>
    match wanted with
    | some level => if f.isQuit || !Level.error.shownAt level then none else some f.message
    | none => none

/-- How the options set up a machine. -/
def Options.config (o : Options) : Config where
  rate := o.rate
  seed := o.seed.map UInt64.ofNat
  maxCycles := o.cycles
  skipOnKeyUp := o.fixKeyUp

/-- The buzzer that the options ask for: one on the speaker, or one that makes no sound. -/
def Options.buzzer {σ : Type} (o : Options) (speaker : σ) : Beeper σ ⊕ Silent :=
  if o.beep then .inl { speaker := speaker } else .inr {}

/-- The ending of a program whose loop came to something, if it did. -/
def endingOf {D K B : Type} (o : Options) :
    Option (Except Fault Unit) × Machine D K B → Option (Ending D K B)
  | (none, _) => none
  | (some result, m) => some {
      exit := exitCode result
      logged := loggedMessage o.logLevel result
      machine := some m }

section Launch

variable {μ : Type → Type} [Monad μ] {D K B : Type} [Display D]

/-- Puts a machine together, loads the program and runs the loop. The ending is missing if the loop would
go on. -/
def launch (o : Options) (display : D) (keypad : K) (buzzer : B) (source : Source)
    (entropy : Random.Key)
    (loop : Machine D K B → μ (Option (Except Fault Unit) × Machine D K B)) :
    μ (Option (Ending D K B)) :=
  match Machine.boot o.config entropy display keypad buzzer with
  | .error _ => return some { exit := failedCode }
  | .ok m =>
    match m.loadFrom source with
    | (.error _, m) => return some { exit := failedCode, machine := some m }
    | (.ok _, m) => return endingOf o (← loop m)

/-- Runs a program on a sequence of clock readings, for at most `n` passes. -/
def program [Keypad K] [Buzzer B] (o : Options) (display : D) (keypad : K) (buzzer : B)
    (source : Source) (entropy : Random.Key) (clock : Nat → Nat) (n : Nat) :
    Option (Ending D K B) :=
  Id.run <| launch o display keypad buzzer source entropy fun m => pure (m.mainLoop clock n)

end Launch

/-! ## Sessions -/

variable {B : Type} [Buzzer B]

/-- How long a pass of the loop takes at least: ten microseconds. -/
def passTime : Nat := 10000

/-- Surroundings in which the keyboard's time is the time. -/
def simulated : Surroundings Id TerminalScreen Keyboard B where
  wake m := (m.keypad.now, m)
  attend _ l := l
  read m := (m.keypad.now, m.keypad.now + passTime)
  sleep l :=
    { l with machine :=
      { l.machine with keypad := l.machine.keypad.elapse (passTime + l.sleep) } }

/-- Runs at most `n` passes of a loop at the terminal. The result is missing if it would go on. -/
def play (n : Nat) (l : Loop TerminalScreen Keyboard B) :
    Option (Except Fault Unit) × Console B :=
  match n with
  | 0 => (none, l.machine)
  | n + 1 =>
    match Id.run (l.pass simulated) with
    | (none, l) => play n l
    | (some result, l) => (some result, l.machine)

/-- Runs a loaded machine at the terminal for at most `n` passes. -/
def runConsole (n : Nat) (m : Console B) : Option (Except Fault Unit) × Console B :=
  match play n (m.enterLoop m.keypad.now) with
  | (none, m) => (none, m)
  | (some result, m) =>
    let (result, m) := m.leaveLoop result
    (some result, m)

/-- What is seen of a program at the terminal that has ended. -/
def Ending.outcome {K : Type} (e : Ending TerminalScreen K B) : Outcome where
  exit := e.exit
  logged := e.logged
  screen := (e.machine.map fun m => m.display.text).getD []

/-- A session on a program image, for at most `n` passes, with the events that arrive at the
keyboard. It is missing if it would go on. -/
def start (o : Options) (buzzer : B) (image : List UInt8) (incoming : List Arrival)
    (entropy : Random.Key) (n : Nat) : Option Outcome :=
  let screen := TerminalScreen.openOn pictureWidth pictureHeight
  let keyboard : Keyboard := { incoming := incoming }
  let ending := Id.run <| launch o screen keyboard buzzer (.piece image .done) entropy fun m =>
    pure (runConsole n m)
  ending.map Ending.outcome

/-- A list of events typed again and again, `period` apart, `times` times in all. -/
def typing (events : List Keyboard.Event) (first period times : Nat) : List Arrival :=
  if events = [] then []
  else (List.range times).flatMap fun k => events.map fun e => ⟨first + k * period, e⟩

/-- A session from its command line. `files` gives the contents of a path, if there is such a
file. -/
def session (args : List String) (files : String → Option (List UInt8)) (incoming : List Arrival)
    (entropy : Random.Key) (n : Nat) : Option Outcome :=
  match parse args with
  | .help | .version => some { exit := 0 }
  | .refused _ => some { exit := refusedCode }
  | .run o =>
    match files o.program with
    | none => some { exit := failedCode }
    | some image => start o (o.buzzer ({} : Bell)) image incoming entropy n

end Cosmac.CommandLine
