import Cosmac.Proofs.Bounds
import Cosmac.Proofs.Steps

/-!
# Counting down over a run

A timer that a program sets loses one for every interval that goes by after it, counted from the last
tick before it was set. It does not matter in which pieces the time goes by, how many cycles lie
between them, and whether the display could be refreshed.

`Timers.CountedDown` says so of two states of the timers with some time between them. Such stretches
can be joined (`CountedDown.trans`), because the time that is carried over at the joint is what is
missing from a whole interval. Letting time go by is one stretch (`countedDown_advance`), and a cycle
that does not set the timer is a stretch without time (`countedDown_cycle`), so a run is one stretch
(`countedDown_steps`). What a program sees is the stretch that starts when it sets the timer
(`countdown`).
-/

namespace Cosmac

/-- The instruction that sets a timer to a register. -/
def Timer.setter : Timer → Reg → Instruction
  | .delay => .setDelay
  | .sound => .setSound

namespace Timers

/-- Time has gone by from `before` to `after`, and the timer has lost one for each whole interval of
it. -/
structure CountedDown (timer : Timer) (elapsed : Nat) (before after : Timers) : Prop where
  interval : after.interval = before.interval
  carried : after.carried = (before.carried + elapsed) % before.interval
  value : (after.value timer).toNat =
    (before.value timer).toNat - (before.carried + elapsed) / before.interval

variable {timer : Timer} {t t' t'' : Timers}

/-- Whole intervals can be counted in two parts, with what is left of the first carried over. -/
theorem add_div_eq (n e i : Nat) (hi : 0 < i) : (n + e) / i = n / i + (n % i + e) / i := by
  have hsplit : n + e = n % i + e + i * (n / i) := by
    have hmod := Nat.mod_add_div n i
    omega
  rw [hsplit, Nat.add_mul_div_left _ _ hi, Nat.add_comm]

/-- Letting time go by counts down. -/
theorem countedDown_advance (t : Timers) (elapsed : Nat) :
    CountedDown timer elapsed t (t.advance elapsed).2 where
  interval := t.interval_advance elapsed
  carried := t.carried_advance elapsed
  value := t.value_advance elapsed timer

namespace CountedDown

/-- Without time going by nothing is lost, as long as less than an interval is carried. -/
theorem of_eq (hcarried : t.carried < t.interval) (hsame : t'.interval = t.interval)
    (hstill : t'.carried = t.carried) (hvalue : t'.value timer = t.value timer) :
    CountedDown timer 0 t t' where
  interval := hsame
  carried := by rw [hstill, Nat.add_zero, Nat.mod_eq_of_lt hcarried]
  value := by rw [hvalue, Nat.add_zero, Nat.div_eq_of_lt hcarried, Nat.sub_zero]

/-- Less than an interval is carried in the end. -/
theorem carried_lt {elapsed : Nat} (h : CountedDown timer elapsed t t') :
    t'.carried < t'.interval := by
  rw [h.carried, h.interval]
  exact Nat.mod_lt _ t.interval_pos

/-- Two stretches of time make one. -/
theorem trans {e e' : Nat} (h : CountedDown timer e t t') (h' : CountedDown timer e' t' t'') :
    CountedDown timer (e + e') t t'' where
  interval := h'.interval.trans h.interval
  carried := by
    rw [h'.carried, h.carried, h.interval, Nat.mod_add_mod, Nat.add_assoc]
  value := by
    -- What is carried at the joint counts for the second stretch, as it did not fill an interval.
    have hdiv := add_div_eq (t.carried + e) e' t.interval t.interval_pos
    rw [h'.value, h.value, h.carried, h.interval, ← Nat.add_assoc, hdiv, Nat.sub_sub]

end CountedDown

end Timers

namespace Machine

variable {D K B : Type}

/-! ## Cycles -/

section

variable [Display D] [Keypad K] (m : Machine D K B) {timer : Timer}

/-- A cycle leaves the interval and the carried time alone. -/
theorem interval_cycle : m.cycle.2.core.timers.interval = m.core.timers.interval ∧
    m.cycle.2.core.timers.carried = m.core.timers.carried := by
  rcases h : m.executed with _ | i
  · have hkept := part_cycle_of_executed_eq_none Core.timers rfl h
    rw [hkept]
    exact ⟨rfl, rfl⟩
  · have heffect := effect_of_executed h
    exact ⟨heffect.interval, heffect.carried⟩

/-- A timer keeps its value in a cycle that does not set it. -/
theorem value_cycle (h : ∀ x, m.executed ≠ some (timer.setter x)) :
    m.cycle.2.core.timers.value timer = m.core.timers.value timer := by
  rcases hi : m.executed with _ | i
  · rw [part_cycle_of_executed_eq_none Core.timers rfl hi]
  · have heffect := effect_of_executed hi
    rw [hi] at h
    -- Each timer has one instruction that sets it, and that one is excluded.
    cases timer with
    | delay =>
      refine heffect.delay.trans ?_
      cases i with
      | setDelay x => exact absurd rfl (h x)
      | _ => rfl
    | sound =>
      refine heffect.sound.trans ?_
      cases i with
      | setSound x => exact absurd rfl (h x)
      | _ => rfl

/-- A cycle that sets neither timer leaves the timers alone. -/
theorem timers_cycle (h : ∀ (timer : Timer) x, m.executed ≠ some (timer.setter x)) :
    m.cycle.2.core.timers = m.core.timers := by
  obtain ⟨hinterval, hcarried⟩ := m.interval_cycle
  have hdelay := m.value_cycle (h .delay)
  have hsound := m.value_cycle (h .sound)
  generalize m.cycle.2.core.timers = after, m.core.timers = before at *
  cases after
  cases before
  congr

/-- A cycle that does not set a timer is a stretch without time for it. -/
theorem countedDown_cycle (hcarried : m.core.timers.carried < m.core.timers.interval)
    (h : ∀ x, m.executed ≠ some (timer.setter x)) :
    Timers.CountedDown timer 0 m.core.timers m.cycle.2.core.timers := by
  obtain ⟨hinterval, hstill⟩ := m.interval_cycle
  exact .of_eq hcarried hinterval hstill (m.value_cycle h)

/-- The cycle that sets a timer succeeds, whatever the timer is set to. -/
theorem executed_of_setter {x : Reg} (h : m.core.ComesTo (timer.setter x)) :
    m.executed = some (timer.setter x) := by
  refine executed_of_comesTo h ?_
  cases timer <;> rfl

/-- A timer holds what it was set to. -/
theorem value_cycle_setter {x : Reg} (h : m.executed = some (timer.setter x)) :
    m.cycle.2.core.timers.value timer = m.core.reg x := by
  have heffect := effect_of_executed h
  cases timer with
  | delay => exact heffect.delay
  | sound => exact heffect.sound

/-- Reading the delay timer puts its value into the register. -/
theorem reg_cycle_readDelay {y : Reg} (h : m.core.ComesTo (.readDelay y)) :
    m.cycle.1 = .ok () ∧ m.cycle.2.core.reg y = m.core.timers.delay := by
  have hok : m.cycle.1 = .ok () := outcome_of_comesTo h
  have hcore : m.cycle.2.core = (m.core.setReg y m.core.timers.delay).advance :=
    m.cycle_yields h.skips h.canFetch h.encodes hok
  rw [hcore]
  exact ⟨hok, m.core.registers.reg_setReg_self y _⟩

end

/-! ## Runs -/

variable [Display D] [Keypad K] [Buzzer B] (m : Machine D K B) {timer : Timer}

/-- How much time goes by in a run. -/
def elapsedIn (run : List (Step D K B)) : Nat := run.foldr (fun s rest => s.elapsed + rest) 0

/-- A step other than a cycle counts down by the time that goes by in it. -/
theorem countedDown_step (hcarried : m.core.timers.carried < m.core.timers.interval)
    {s : Step D K B} (hs : s ≠ .cycle) :
    Timers.CountedDown timer s.elapsed m.core.timers (m.step s).core.timers := by
  rw [m.timers_step hs]
  cases s with
  | cycle => exact absurd rfl hs
  | tick elapsed => exact Timers.countedDown_advance _ elapsed
  | load | loadFrom | devices => exact .of_eq hcarried rfl rfl rfl

/-- A run in which a timer is not set counts it down by the time that goes by in the run. -/
theorem countedDown_steps (hcarried : m.core.timers.carried < m.core.timers.interval)
    (run : List (Step D K B)) (hkept : ∀ x, timer.setter x ∉ m.executedIn run) :
    Timers.CountedDown timer (elapsedIn run) m.core.timers (m.steps run).core.timers := by
  induction m, run using run_induction with
  | nil m => exact .of_eq hcarried rfl rfl rfl
  | cycle m run ih =>
    have helapsed : elapsedIn (.cycle :: run) = 0 + elapsedIn run := rfl
    have hfirst := m.countedDown_cycle hcarried fun x hx =>
      hkept x (m.mem_executedIn_cycle.2 (.inl hx))
    rw [m.steps_cycle, helapsed]
    exact hfirst.trans (ih hfirst.carried_lt fun x hx =>
      hkept x (m.mem_executedIn_cycle.2 (.inr hx)))
  | other m s run hs ih =>
    have helapsed : elapsedIn (s :: run) = s.elapsed + elapsedIn run := rfl
    have hfirst : Timers.CountedDown timer s.elapsed m.core.timers (m.step s).core.timers :=
      m.countedDown_step hcarried hs
    rw [m.executedIn_cons_of_ne hs] at hkept
    rw [m.steps_cons, helapsed]
    exact hfirst.trans (ih hfirst.carried_lt hkept)

/-! ## A timer from when it is set -/

/-- A cycle that sets a timer, and a run after it in which the timer is not set again, leave in the
timer what it was set to, less one for each interval of the time that was carried before and went by
since. -/
theorem countedDown_of_setter (h : m.Reached) {x : Reg} (hset : m.core.ComesTo (timer.setter x))
    (run : List (Step D K B)) (hkept : ∀ y, timer.setter y ∉ m.cycle.2.executedIn run) :
    let after := (m.cycle.2.steps run).core.timers
    after.interval = m.core.timers.interval ∧
      after.carried = (m.core.timers.carried + elapsedIn run) % m.core.timers.interval ∧
      (after.value timer).toNat =
        (m.core.reg x).toNat - (m.core.timers.carried + elapsedIn run) / m.core.timers.interval := by
  obtain ⟨hinterval, hstill⟩ := m.interval_cycle
  have hcarried : m.cycle.2.core.timers.carried < m.cycle.2.core.timers.interval :=
    (h.steps [.cycle]).bounded.carried
  have hcounted := m.cycle.2.countedDown_steps hcarried run hkept
  have hvalue := m.value_cycle_setter (m.executed_of_setter hset)
  rw [← hvalue, ← hinterval, ← hstill]
  exact ⟨hcounted.interval, hcounted.carried, hcounted.value⟩

/-- A timer counts down from what a program sets it to, on a machine that was reached. After any run
in which it is not set again it has lost one for each interval of the time carried before it was set
and gone by since, but does not go below zero, and an instruction that reads the delay timer gives
just this. A tick then takes the share of it that is still missing: if there is any, it has the display
refreshed once and gives the share unless that fails, and otherwise it leaves the display out and gives
zero. -/
theorem countdown (h : m.Reached) {x : Reg} (hset : m.core.ComesTo (timer.setter x))
    (run : List (Step D K B)) (hkept : ∀ y, timer.setter y ∉ m.cycle.2.executedIn run) :
    let after := m.cycle.2.steps run
    let interval := m.core.timers.interval
    let time := m.core.timers.carried + elapsedIn run
    (after.core.timers.value timer).toNat = (m.core.reg x).toNat - time / interval ∧
    (timer = .delay → ∀ y, after.core.ComesTo (.readDelay y) → after.cycle.1 = .ok () ∧
      (after.cycle.2.core.reg y).toNat = (m.core.reg x).toNat - time / interval) ∧
    ∀ elapsed, let share := (time + elapsed) / interval - time / interval
      (0 < share →
        (after.tick elapsed).1 =
          ((Display.refresh after.display).1.map fun _ => share).mapError .device ∧
        (after.tick elapsed).2.display = (Display.refresh after.display).2) ∧
      (share = 0 → (after.tick elapsed).1 = .ok 0 ∧
        ∀ (D' : Type) [Display D'] (display : D'), (after.withDisplay display).tick elapsed =
          ((after.tick elapsed).1, (after.tick elapsed).2.withDisplay display)) := by
  intro after interval time
  obtain ⟨hinterval, hcarried, hvalue⟩ := m.countedDown_of_setter h hset run hkept
  have hshare : ∀ elapsed, after.share elapsed = (time + elapsed) / interval - time / interval := by
    intro elapsed
    have hparts : (time + elapsed) / interval =
        time / interval + (time % interval + elapsed) / interval :=
      Timers.add_div_eq time elapsed interval m.core.timers.interval_pos
    rw [share, hinterval, hcarried, hparts, Nat.add_sub_cancel_left]
  refine ⟨hvalue, fun htimer y hread => ?_, fun elapsed => ⟨fun hpos => ?_, fun hzero => ?_⟩⟩
  · subst htimer
    obtain ⟨hok, hreg⟩ := after.reg_cycle_readDelay hread
    rw [hreg]
    exact ⟨hok, hvalue⟩
  · rw [← hshare] at hpos ⊢
    exact after.tick_of_share_pos elapsed hpos
  · rw [← hshare] at hzero
    refine ⟨?_, fun D' _ display => after.tick_withDisplay elapsed hzero display⟩
    rw [after.tick_of_share_eq_zero elapsed hzero]

/-- A display that keeps a picture but cannot be refreshed. -/
def stuckDisplay : Monitored DisplayCall DeviceError Headless where
  inner := {}
  plan := fun
    | .refresh => some ⟨1, ⟨.other, "refresh failed"⟩⟩
    | _ => none

/-- A machine on that display with ten milliseconds carried. It is about to set the delay timer to
five, and reads it after that. -/
def waiting : Machine (Monitored DisplayCall DeviceError Headless) Scripted Silent :=
  let booted : Machine (Monitored DisplayCall DeviceError Headless) Scripted Silent :=
    { config := { seed := some 1 }
      core := Core.fresh { seed := some 1 } (Vector.replicate 8 0)
      display := (Display.clear (Display.setExtents 64 32 stuckDisplay).2).2
      keypad := {}
      buzzer := {} }
  booted.performAll [.load [0x60, 0x05, 0xf0, 0x15, 0xf0, 0x07], .cycle, .tick 10000000]

/-- Forty milliseconds are two whole intervals, though the display failed in both ticks. -/
theorem countdown_waiting :
    let after := waiting.cycle.2.steps [.tick 10000000, .tick 20000000]
    waiting.Reached ∧ waiting.core.ComesTo (.setDelay Reg.zero) ∧
      after.display.record.take 2 = [⟨.refresh, false⟩, ⟨.refresh, false⟩] ∧
      after.core.ComesTo (.readDelay Reg.zero) ∧
      (after.cycle.2.core.reg Reg.zero).toNat = 3 := by
  intro after
  have hreached : waiting.Reached := ⟨_, _, stuckDisplay, _, _, _, _, rfl, rfl⟩
  have hset : waiting.core.ComesTo (Timer.delay.setter Reg.zero) := by
    have hword : waiting.core.word = 0xf015 := by decide +kernel
    have hencodes : (Instruction.setDelay Reg.zero).Encodes waiting.core.word := by
      rw [hword]
      rfl
    exact ⟨by decide +kernel, by decide +kernel, hencodes⟩
  have hread : after.core.ComesTo (.readDelay Reg.zero) := by
    have hword : after.core.word = 0xf007 := by decide +kernel
    have hencodes : (Instruction.readDelay Reg.zero).Encodes after.core.word := by
      rw [hword]
      rfl
    exact ⟨by decide +kernel, by decide +kernel, hencodes⟩
  have hkept : ∀ y, Timer.delay.setter y ∉
      waiting.cycle.2.executedIn [.tick 10000000, .tick 20000000] := by decide +kernel
  obtain ⟨-, hdelay, -⟩ := countdown waiting hreached hset _ hkept
  obtain ⟨-, hreads⟩ := hdelay rfl Reg.zero hread
  refine ⟨hreached, hset, by decide +kernel, hread, ?_⟩
  rw [hreads]
  decide +kernel

end Machine

end Cosmac
