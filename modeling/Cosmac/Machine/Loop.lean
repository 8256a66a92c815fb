import Cosmac.Machine.Cycle
import Cosmac.Machine.Tick

/-!
# The loop

The loop runs the machine in real time. Each pass lets the time since the last pass go by, polls the
keypad, runs one cycle, looks after the buzzer, and then sleeps until the next instruction is due.
A pass that comes late puts the due time off, so lost time is not made up. Time spent waiting for a
key does not count for the timers.

The clock is not part of the machine. A pass is split where the clock is read: `begin` takes the
reading at the top, `rest` the one after a wait for a key, if there was one, and the one at the end.
Whoever runs the loop supplies the readings and does the sleeping. `run` takes the readings from a
sequence, two or three for each pass.
-/

namespace Cosmac

/-- What is remembered of a pass. -/
structure Pass where
  /-- The clock reading at its top. -/
  top : Nat
  /-- When its instruction was due. -/
  due : Nat
  /-- How often the timers ticked in it. -/
  ticks : Nat
  /-- The reading after its cycle, if the machine then found that it had waited for a key. -/
  resumed : Option Nat := none
  /-- The reading at its end. A fault leaves a pass without one. -/
  ended : Option Nat := none
  /-- How long the loop asked to sleep at its end; zero if it did not. -/
  sleep : Nat := 0
  deriving DecidableEq, Repr

/-- A machine in the loop. -/
structure Loop (D K B : Type) where
  machine : Machine D K B
  /-- The reading up to which time was let go by. -/
  last : Nat
  /-- When the next instruction is due. -/
  due : Nat
  /-- The passes begun, the latest first. -/
  passes : List Pass := []

namespace Loop

variable {D K B : Type}

/-- The time between two instructions. -/
def slot (l : Loop D K B) : Nat := Timers.share l.machine.config.rate

/-- Whether the machine has run as many cycles as it should. -/
def isOver (l : Loop D K B) : Bool :=
  match l.machine.config.maxCycles with
  | some most => most ≤ l.machine.cycles
  | none => false

/-- Remembers that a pass was begun. -/
def enter (l : Loop D K B) (now : Nat) : Loop D K B :=
  let ticks := (l.machine.core.timers.advance (now - l.last)).1
  { l with passes := { top := now, due := l.due, ticks } :: l.passes }

/-- The part of a pass up to its cycle and the buzzer, at the clock reading `now`. -/
def begin [Display D] [Keypad K] [Buzzer B] (l : Loop D K B) (now : Nat) :
    Except Fault Unit × Loop D K B :=
  let entered := l.enter now
  match l.machine.tick (now - l.last) with
  | (.error f, m) => (.error f, { entered with machine := m })
  | (.ok _, m) =>
    match Keypad.poll m.keypad with
    | (.error e, keypad) =>
      (.error (.device e), { entered with machine := { m with keypad := keypad }, last := now })
    | (.ok _, keypad) =>
      match { m with keypad := keypad }.cycle with
      | (.error f, m) => (.error f, { entered with machine := m, last := now })
      | (.ok _, m) => (.ok (), { entered with machine := m.updateBuzzer, last := now })

/-- Whether the machine has waited for a key and the loop has not yet taken note of it. -/
def hasWaited (l : Loop D K B) : Bool := l.machine.core.suspended

/-- Takes note of a wait for a key that was over at `now`. -/
def resume (l : Loop D K B) (now : Nat) : Loop D K B :=
  if l.hasWaited then
    { machine := { l.machine with core := l.machine.core.resume }
      last := now
      due := now
      passes := l.passes.modifyHead fun p => { p with resumed := some now } }
  else l

/-- The rest of a pass: the readings are the one after a wait for a key and the one at the end. The
time to sleep is in the record of the pass. -/
def rest (l : Loop D K B) (resumed now : Nat) : Loop D K B :=
  let l := l.resume resumed
  let due := l.due + l.slot
  { l with
    due := max due now
    passes := l.passes.modifyHead fun p => { p with ended := some now, sleep := due - now } }

/-- How long to sleep after the pass that just ended. -/
def sleep (l : Loop D K B) : Nat :=
  match l.passes with
  | p :: _ => p.sleep
  | [] => 0

/-- Runs at most `n` passes on the clock readings from number `k` on. The result is missing if the
loop would go on. -/
def run [Display D] [Keypad K] [Buzzer B] (clock : Nat → Nat) (n k : Nat) (l : Loop D K B) :
    Option (Except Fault Unit) × Loop D K B :=
  match n with
  | 0 => (none, l)
  | n + 1 =>
    if l.isOver then (some (.ok ()), l)
    else
      match l.begin (clock k) with
      | (.error f, l) => (some (.error f), l)
      | (.ok _, l) =>
        if l.hasWaited then (l.rest (clock (k + 1)) (clock (k + 2))).run clock n (k + 3)
        else (l.rest (clock (k + 1)) (clock (k + 1))).run clock n (k + 2)

end Loop

namespace Machine

variable {D K B : Type}

/-- The machine at the start of a loop, at the clock reading `now`. -/
def enterLoop (m : Machine D K B) (now : Nat) : Loop D K B where
  machine := m.note (.started m.core.registers.pc m.config.rate)
  last := now
  due := now

/-- Ends a loop that came to a result: the buzzer is stopped unless it was given up. A buzzer that
fails to stop replaces the result. -/
def leaveLoop [Buzzer B] (m : Machine D K B) (result : Except Fault Unit) :
    Except Fault Unit × Machine D K B :=
  if m.buzzerOn then
    match Buzzer.stop m.buzzer with
    | (.ok _, buzzer) => (result, { m with buzzer := buzzer }.note (.stopped m.cycles))
    | (.error text, buzzer) => (.error (.buzzer text), { m with buzzer := buzzer })
  else (result, m.note (.stopped m.cycles))

/-- Runs the loop for at most `n` passes on a sequence of clock readings, the first of which is taken
before the first pass. The result is missing if the loop would go on. -/
def mainLoop [Display D] [Keypad K] [Buzzer B] (clock : Nat → Nat) (n : Nat)
    (m : Machine D K B) : Option (Except Fault Unit) × Machine D K B :=
  match (m.enterLoop (clock 0)).run clock n 1 with
  | (none, l) => (none, l.machine)
  | (some result, l) =>
    let (result, m) := l.machine.leaveLoop result
    (some result, m)

end Machine

end Cosmac
