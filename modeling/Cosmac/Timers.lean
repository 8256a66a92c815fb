import Cosmac.Log

/-!
# The timers

The delay timer and the sound timer count down to zero, one step per interval of time. Time is given
in nanoseconds, as it goes by, in pieces of any length. `advance` adds a piece to the time carried
over from before and takes off whole intervals, one tick each; what is left is carried on. An
interval lasts at least a nanosecond, so this ends.

`advance?` does the same in bounded arithmetic, where a duration has at most `2 ^ 64 - 1` seconds and
ticks are counted in 32 bits, and gives up where either is exceeded.
-/

namespace Cosmac

/-- How many nanoseconds make a second. -/
def nanosPerSecond : Nat := 1000000000

/-- The timers of the machine. -/
structure Timers where
  delay : UInt8 := 0
  sound : UInt8 := 0
  /-- Nanoseconds from one tick to the next. -/
  interval : Nat
  /-- Nanoseconds gone by since the last tick. -/
  carried : Nat := 0
  /-- An interval takes time. -/
  interval_pos : 0 < interval
  deriving DecidableEq, Repr

namespace Timers

/-- The share of a second that each of `rate` events gets, in whole nanoseconds; a rate of zero counts
as one. -/
def share (rate : Nat) : Nat := nanosPerSecond / max rate 1

/-- Timers that tick `hz` times a second. -/
def ofRate (hz : Nat) : Timers where
  interval := max (share hz) 1
  interval_pos := by omega

/-- One less, but not below zero. -/
def countDown (b : UInt8) : UInt8 := if b = 0 then 0 else b - 1

/-- One tick of both timers. -/
def tick (t : Timers) : Timers :=
  { t with delay := countDown t.delay, sound := countDown t.sound }

/-- Takes one interval off the carried time and ticks. -/
def step (t : Timers) : Timers :=
  { t with carried := t.carried - t.interval }.tick

/-- Ticks until less than an interval is carried, counting on from `ticks`. -/
def settle (t : Timers) (ticks : Nat) : Nat × Timers :=
  if t.interval ≤ t.carried then settle t.step (ticks + 1) else (ticks, t)
termination_by t.carried
decreasing_by
  have := t.interval_pos
  simp only [step, tick]
  omega

/-- Lets `elapsed` nanoseconds go by. Gives the number of ticks. -/
def advance (t : Timers) (elapsed : Nat) : Nat × Timers :=
  settle { t with carried := t.carried + elapsed } 0

/-- The durations that bounded arithmetic can hold are those below this many nanoseconds. -/
def durationBound : Nat := 0x10000000000000000 * nanosPerSecond

/-- The tick counts that bounded arithmetic can hold are those below this number. -/
def tickBound : Nat := 0x100000000

/-- Ticks as `settle` does, as long as the count stays within bounds. -/
def settle? (t : Timers) (ticks : Nat) : Option (Nat × Timers) :=
  if t.interval ≤ t.carried then
    if ticks + 1 < tickBound then settle? t.step (ticks + 1) else none
  else some (ticks, t)
termination_by t.carried
decreasing_by
  have := t.interval_pos
  simp only [step, tick]
  omega

/-- Lets time go by as `advance` does, as long as sum and count stay within bounds. -/
def advance? (t : Timers) (elapsed : Nat) : Option (Nat × Timers) :=
  if t.carried + elapsed < durationBound then
    settle? { t with carried := t.carried + elapsed } 0
  else none

/-- Forgets the time carried over. -/
def discard (t : Timers) : Timers := { t with carried := 0 }

/-- The buzzer is to be heard while the sound timer runs. -/
def isSounding (t : Timers) : Bool := 0 < t.sound

/-- The notice given after `advance` counted `ticks`. -/
def tickNotices (t : Timers) (ticks : Nat) : List Notice :=
  if 0 < ticks then [.ticked ticks t.delay t.sound] else []

end Timers

end Cosmac
