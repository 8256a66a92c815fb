import Cosmac.Timers
import Mathlib.Tactic.SplitIfs

/-!
# Counting down

The loop in which the timers tick takes whole intervals off the time that they carry. So it ticks as
often as an interval goes into that time (`ticks_settle`), what is left in the end is the remainder of
the division (`carried_settle`), and each of the two timers has lost one for each tick, down to zero
(`value_settle`). The interval itself never changes.

Letting time go by is the same with more time carried at the start (`ticks_advance` and the lemmas
after it).
-/

namespace Cosmac

/-- One of the two timers. -/
inductive Timer
  | delay
  | sound
  deriving DecidableEq, Repr

/-- What a timer holds. -/
def Timers.value (t : Timers) : Timer → UInt8
  | .delay => t.delay
  | .sound => t.sound

namespace Timers

variable (t : Timers)

/-- Counting down takes one off, and does not go below zero. -/
theorem toNat_countDown (b : UInt8) : (countDown b).toNat = b.toNat - 1 := by
  unfold countDown
  split_ifs with hb
  · rw [hb]
    rfl
  · have hpos : b.toNat ≠ 0 := fun h => hb (UInt8.toNat.inj h)
    have hle : 1 ≤ b := UInt8.le_iff_toNat_le.2 (Nat.pos_of_ne_zero hpos)
    exact UInt8.toNat_sub_of_le b 1 hle

/-- A tick takes one off each timer. -/
theorem value_step (timer : Timer) : (t.step.value timer).toNat = (t.value timer).toNat - 1 := by
  cases timer with
  | delay => exact toNat_countDown t.delay
  | sound => exact toNat_countDown t.sound

/-- Ticking does not change the interval. -/
theorem interval_settle (ticks : Nat) : (t.settle ticks).2.interval = t.interval := by
  induction t, ticks using Timers.settle.induct with
  | case1 t ticks h ih =>
    rw [settle, if_pos h, ih]
    rfl
  | case2 t ticks h => rw [settle, if_neg h]

/-- Ticking leaves the remainder of the carried time. -/
theorem carried_settle (ticks : Nat) : (t.settle ticks).2.carried = t.carried % t.interval := by
  induction t, ticks using Timers.settle.induct with
  | case1 t ticks h ih =>
    have hstep : t.step.carried % t.step.interval = (t.carried - t.interval) % t.interval := rfl
    rw [settle, if_pos h, ih, hstep, ← Nat.mod_eq_sub_mod h]
  | case2 t ticks h =>
    rw [settle, if_neg h, Nat.mod_eq_of_lt (Nat.lt_of_not_le h)]

/-- An interval goes into the carried time once more than into what a tick leaves of it. -/
theorem carried_div_of_le (h : t.interval ≤ t.carried) :
    t.carried / t.interval = t.step.carried / t.step.interval + 1 :=
  Nat.div_eq_sub_div t.interval_pos h

/-- There are as many ticks as an interval goes into the carried time. -/
theorem ticks_settle (ticks : Nat) : (t.settle ticks).1 = ticks + t.carried / t.interval := by
  induction t, ticks using Timers.settle.induct with
  | case1 t ticks h ih =>
    have hdiv := t.carried_div_of_le h
    rw [settle, if_pos h, ih]
    omega
  | case2 t ticks h =>
    rw [settle, if_neg h, Nat.div_eq_of_lt (Nat.lt_of_not_le h)]
    rfl

/-- Each timer loses one for each tick. -/
theorem value_settle (timer : Timer) (ticks : Nat) :
    ((t.settle ticks).2.value timer).toNat = (t.value timer).toNat - t.carried / t.interval := by
  induction t, ticks using Timers.settle.induct with
  | case1 t ticks h ih =>
    rw [settle, if_pos h, ih, t.value_step, t.carried_div_of_le h, Nat.sub_sub, Nat.add_comm 1]
  | case2 t ticks h =>
    rw [settle, if_neg h, Nat.div_eq_of_lt (Nat.lt_of_not_le h)]
    rfl

/-! ## Time going by -/

variable (elapsed : Nat)

theorem interval_advance : (t.advance elapsed).2.interval = t.interval :=
  interval_settle _ 0

theorem carried_advance :
    (t.advance elapsed).2.carried = (t.carried + elapsed) % t.interval :=
  carried_settle _ 0

/-- Less than an interval is carried on, however much time went by. -/
theorem carried_advance_lt : (t.advance elapsed).2.carried < (t.advance elapsed).2.interval := by
  rw [carried_advance, interval_advance]
  exact Nat.mod_lt _ t.interval_pos

theorem ticks_advance : (t.advance elapsed).1 = (t.carried + elapsed) / t.interval :=
  (ticks_settle _ 0).trans (Nat.zero_add _)

theorem value_advance (timer : Timer) : ((t.advance elapsed).2.value timer).toNat =
    (t.value timer).toNat - (t.carried + elapsed) / t.interval :=
  value_settle _ timer 0

end Timers

end Cosmac
