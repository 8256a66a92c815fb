import Cosmac.Proofs.Tick

/-!
# The loop pass by pass

A pass ticks, polls the keypad and runs a cycle, and ends at the first of these that fails. So it takes
one of four courses, and each has its equation (`begin_of_tick_error` and the three after it;
`begin_cases` says that there are no others). A pass that succeeds is finished on the readings of the
clock that it takes for itself (`finish`, `readings`).

`Loop.Passes` says that some passes in a row succeed. A loop that comes to a result has had such passes
and then found that it was over, or begun a pass that failed (`run_eq_some_iff`). After that nothing
happens but the end of the loop, which stops the buzzer (`leaveLoop_frame`).
-/

namespace Cosmac

namespace Loop

variable {D K B : Type}

/-! ## Before and after a pass -/

/-- A loop is over when there is a limit and as many cycles were done. -/
theorem isOver_iff (l : Loop D K B) : l.isOver = true ↔
    ∃ most, l.machine.config.maxCycles = some most ∧ most ≤ l.machine.cycles := by
  rw [isOver]
  cases l.machine.config.maxCycles with
  | none => exact ⟨nofun, nofun⟩
  | some most =>
    rw [decide_eq_true_iff]
    exact ⟨fun h => ⟨most, rfl, h⟩, fun ⟨_, hmost, h⟩ => Option.some.inj hmost ▸ h⟩

/-- A loop goes on as long as fewer cycles were done than its limit, if it has one. -/
theorem isOver_eq_false_iff (l : Loop D K B) : l.isOver = false ↔
    ∀ most, l.machine.config.maxCycles = some most → l.machine.cycles < most := by
  rw [← Bool.not_eq_true, isOver_iff]
  constructor
  · exact fun h most hmost => Nat.lt_of_not_le fun hle => h ⟨most, hmost, hle⟩
  · rintro h ⟨most, hmost, hle⟩
    exact absurd (h most hmost) (Nat.not_lt_of_le hle)

/-- How many readings of the clock a pass takes, the one at its top included. -/
def readings (l : Loop D K B) : Nat := if l.hasWaited then 3 else 2

/-- The end of a pass on a clock, whose reading number `k` was taken at the top of the pass. -/
def finish (clock : Nat → Nat) (k : Nat) (l : Loop D K B) : Loop D K B :=
  if l.hasWaited then l.rest (clock (k + 1)) (clock (k + 2))
  else l.rest (clock (k + 1)) (clock (k + 1))

/-- All that the end of a pass does to the machine is to have it resume after a wait for a key. -/
theorem machine_finish (clock : Nat → Nat) (k : Nat) (l : Loop D K B) :
    (l.finish clock k).machine =
      if l.hasWaited then { l.machine with core := l.machine.core.resume } else l.machine := by
  have hrest : ∀ resumed now, (l.rest resumed now).machine =
      if l.hasWaited then { l.machine with core := l.machine.core.resume } else l.machine := by
    intro resumed now
    have hmachine : (l.rest resumed now).machine = (l.resume resumed).machine := rfl
    rw [hmachine, resume]
    split_ifs <;> rfl
  rw [finish]
  split_ifs with hwaited
  · rw [hrest, if_pos hwaited]
  · rw [hrest, if_neg hwaited]

/-- The end of a pass leaves the keypad alone. -/
theorem keypad_finish (clock : Nat → Nat) (k : Nat) (l : Loop D K B) :
    (l.finish clock k).machine.keypad = l.machine.keypad := by
  rw [machine_finish]
  split_ifs <;> rfl

variable [Display D] [Buzzer B] (l : Loop D K B) (now : Nat)

/-! ## One pass -/

/-- The machine after the tick of a pass. -/
def ticked : Machine D K B := (l.machine.tick (now - l.last)).2

/-- The tick of a pass leaves the keypad alone. -/
theorem ticked_keypad : (l.ticked now).keypad = l.machine.keypad := by
  obtain ⟨_, _, _, hframe⟩ := l.machine.tick_frame (now - l.last)
  rw [ticked, hframe]

variable [Keypad K]

/-- The machine after the poll of a pass. -/
def polled : Machine D K B :=
  { l.ticked now with keypad := (Keypad.poll (l.ticked now).keypad).2 }

/-- A pass comes to its cycle: neither the tick nor the poll fails. -/
structure ComesToCycle : Prop where
  tick : ∃ ticks, (l.machine.tick (now - l.last)).1 = .ok ticks
  poll : (Keypad.poll (l.ticked now).keypad).1 = .ok ()

/-- A pass whose tick fails ends there. -/
theorem begin_of_tick_error {f : Fault} (h : (l.machine.tick (now - l.last)).1 = .error f) :
    l.begin now = (.error f, { l.enter now with machine := l.ticked now }) := by
  have htick : l.machine.tick (now - l.last) = (.error f, l.ticked now) := Prod.ext h rfl
  rw [begin, htick]

/-- A pass whose poll fails ends there. -/
theorem begin_of_poll_error {ticks : Nat} {e : DeviceError}
    (htick : (l.machine.tick (now - l.last)).1 = .ok ticks)
    (h : (Keypad.poll (l.ticked now).keypad).1 = .error e) :
    l.begin now =
      (.error (.device e), { l.enter now with machine := l.polled now, last := now }) := by
  have ht : l.machine.tick (now - l.last) = (.ok ticks, l.ticked now) := Prod.ext htick rfl
  have hp : Keypad.poll (l.ticked now).keypad = (.error e, (l.polled now).keypad) := Prod.ext h rfl
  rw [begin, ht]
  dsimp only
  rw [hp]
  rfl

/-- A pass that comes to its cycle ends as the cycle does, and if the cycle succeeds it looks after the
buzzer. -/
theorem begin_of_comesToCycle (h : l.ComesToCycle now) :
    l.begin now = match (l.polled now).cycle with
      | (.error f, m) => (.error f, { l.enter now with machine := m, last := now })
      | (.ok _, m) => (.ok (), { l.enter now with machine := m.updateBuzzer, last := now }) := by
  obtain ⟨ticks, htick⟩ := h.tick
  have ht : l.machine.tick (now - l.last) = (.ok ticks, l.ticked now) := Prod.ext htick rfl
  have hp : Keypad.poll (l.ticked now).keypad = (.ok (), (l.polled now).keypad) :=
    Prod.ext h.poll rfl
  rw [begin, ht]
  dsimp only
  rw [hp]
  rfl

/-- A pass whose cycle fails ends there. -/
theorem begin_of_cycle_error {f : Fault} (h : l.ComesToCycle now)
    (hc : (l.polled now).cycle.1 = .error f) :
    l.begin now = (.error f, { l.enter now with machine := (l.polled now).cycle.2, last := now }) := by
  have hcycle : (l.polled now).cycle = (.error f, (l.polled now).cycle.2) := Prod.ext hc rfl
  rw [l.begin_of_comesToCycle now h, hcycle]

/-- A pass in which nothing fails looks after the buzzer in the end. -/
theorem begin_of_cycle_ok (h : l.ComesToCycle now) (hc : (l.polled now).cycle.1 = .ok ()) :
    l.begin now =
      (.ok (), { l.enter now with machine := (l.polled now).cycle.2.updateBuzzer, last := now }) := by
  have hcycle : (l.polled now).cycle = (.ok (), (l.polled now).cycle.2) := Prod.ext hc rfl
  rw [l.begin_of_comesToCycle now h, hcycle]

/-- Every pass takes one of four courses: its tick fails, or its poll, or its cycle, or nothing. -/
theorem begin_cases :
    (∃ f, (l.machine.tick (now - l.last)).1 = .error f) ∨
    (∃ ticks e, (l.machine.tick (now - l.last)).1 = .ok ticks ∧
      (Keypad.poll (l.ticked now).keypad).1 = .error e) ∨
    l.ComesToCycle now ∧ ((∃ f, (l.polled now).cycle.1 = .error f) ∨
      (l.polled now).cycle.1 = .ok ()) := by
  rcases ht : (l.machine.tick (now - l.last)).1 with f | ticks
  · exact .inl ⟨f, rfl⟩
  · rcases hp : (Keypad.poll (l.ticked now).keypad).1 with e | _
    · exact .inr (.inl ⟨ticks, e, rfl, rfl⟩)
    · refine .inr (.inr ⟨⟨⟨ticks, ht⟩, hp⟩, ?_⟩)
      rcases hc : (l.polled now).cycle.1 with f | _
      · exact .inl ⟨f, rfl⟩
      · exact .inr rfl

/-- A pass that succeeds has come to its cycle, and the cycle has succeeded. -/
theorem of_begin_ok {l' : Loop D K B} (h : l.begin now = (.ok (), l')) :
    l.ComesToCycle now ∧ (l.polled now).cycle.1 = .ok () ∧
      l' = { l.enter now with machine := (l.polled now).cycle.2.updateBuzzer, last := now } := by
  rcases l.begin_cases now with ⟨f, ht⟩ | ⟨ticks, e, ht, hp⟩ | ⟨hcomes, ⟨f, hc⟩ | hc⟩
  · rw [l.begin_of_tick_error now ht] at h
    cases h
  · rw [l.begin_of_poll_error now ht hp] at h
    cases h
  · rw [l.begin_of_cycle_error now hcomes hc] at h
    cases h
  · rw [l.begin_of_cycle_ok now hcomes hc] at h
    cases h
    exact ⟨hcomes, hc, rfl⟩

/-! ## Some passes -/

variable {l} {clock : Nat → Nat} {n k : Nat}

/-- A loop that is over comes to a result without a pass. -/
theorem run_of_isOver (h : l.isOver = true) : l.run clock (n + 1) k = (some (.ok ()), l) := by
  rw [run, if_pos h]

/-- A pass that fails ends the loop. -/
theorem run_of_begin_error {f : Fault} {l' : Loop D K B} (h : l.isOver = false)
    (hbegin : l.begin (clock k) = (.error f, l')) :
    l.run clock (n + 1) k = (some (.error f), l') := by
  rw [run, h, hbegin]
  rfl

/-- After a pass that succeeds the loop goes on. -/
theorem run_of_begin_ok {l' : Loop D K B} (h : l.isOver = false)
    (hbegin : l.begin (clock k) = (.ok (), l')) :
    l.run clock (n + 1) k = (l'.finish clock k).run clock n (k + l'.readings) := by
  rw [run, h, hbegin, finish, readings, if_neg Bool.false_ne_true]
  dsimp only
  split_ifs <;> rfl

/-- Induction on a loop along its passes. Either no pass is left to run, or the loop is over, or its next
pass fails, or that pass succeeds and the loop goes on after it. -/
@[elab_as_elim]
theorem run_induction (clock : Nat → Nat) {motive : Nat → Nat → Loop D K B → Prop}
    (stop : ∀ k l, motive 0 k l)
    (ended : ∀ n k l, l.isOver = true → motive (n + 1) k l)
    (fails : ∀ n k l f l', l.isOver = false → l.begin (clock k) = (.error f, l') →
      motive (n + 1) k l)
    (goes : ∀ n k l l', l.isOver = false → l.begin (clock k) = (.ok (), l') →
      motive n (k + l'.readings) (l'.finish clock k) → motive (n + 1) k l)
    (n k : Nat) (l : Loop D K B) : motive n k l := by
  induction n generalizing k l with
  | zero => exact stop k l
  | succ n ih =>
    rcases hover : l.isOver with _ | _
    · rcases hbegin : l.begin (clock k) with ⟨f | _, l'⟩
      · exact fails n k l f l' hover hbegin
      · exact goes n k l l' hover hbegin (ih _ _)
    · exact ended n k l hover

/-- Some passes, `n` in number, succeed one after the other, from the loop `l` at reading `k` of the
clock to the loop `l'` at reading `k'`. -/
inductive Passes (clock : Nat → Nat) : Nat → Nat → Loop D K B → Nat → Loop D K B → Prop
  | none (k : Nat) (l : Loop D K B) : Passes clock 0 k l k l
  | more {n k k'' : Nat} {l l' l'' : Loop D K B} (hgoes : l.isOver = false)
      (hbegin : l.begin (clock k) = (.ok (), l'))
      (hrest : Passes clock n (k + l'.readings) (l'.finish clock k) k'' l'') :
      Passes clock (n + 1) k l k'' l''

/-- A loop comes to a result at the reading `now`: it is over, or a pass fails. -/
inductive Ends (l : Loop D K B) (now : Nat) : Except Fault Unit → Loop D K B → Prop
  | atLimit (h : l.isOver = true) : Ends l now (.ok ()) l
  | fails {f : Fault} {l' : Loop D K B} (hgoes : l.isOver = false)
      (hbegin : l.begin now = (.error f, l')) : Ends l now (.error f) l'

/-- Passes that succeed can be taken off the front of a loop. -/
theorem Passes.run_eq {i k' : Nat} {l' : Loop D K B} (h : Passes clock i k l k' l') (n : Nat) :
    l.run clock (i + n) k = l'.run clock n k' := by
  induction h with
  | none k l => rw [Nat.zero_add]
  | @more i k k'' l l' l'' hgoes hbegin hrest ih =>
    rw [Nat.add_right_comm, run_of_begin_ok hgoes hbegin, ih]

/-- A loop comes to a result when some passes have succeeded and it is then over, or the next pass
fails. -/
theorem run_eq_some_iff {result : Except Fault Unit} {l'' : Loop D K B} :
    l.run clock n k = (some result, l'') ↔
      ∃ i < n, ∃ k' l', Passes clock i k l k' l' ∧ Ends l' (clock k') result l'' := by
  constructor
  -- The induction is on the bound, which the passes that succeed use up one by one.
  · intro h
    induction n generalizing l k with
    | zero => cases h
    | succ n ih =>
      rcases hover : l.isOver with _ | _
      · rcases hbegin : l.begin (clock k) with ⟨f | _, l'⟩
        · rw [run_of_begin_error hover hbegin] at h
          cases h
          exact ⟨0, Nat.succ_pos n, k, l, .none k l, .fails hover hbegin⟩
        · rw [run_of_begin_ok hover hbegin] at h
          obtain ⟨i, hi, k', last, hpasses, hends⟩ := ih h
          exact ⟨i + 1, Nat.succ_lt_succ hi, k', last, .more hover hbegin hpasses, hends⟩
      · rw [run_of_isOver hover] at h
        cases h
        exact ⟨0, Nat.succ_pos n, k, _, .none k _, .atLimit hover⟩
  · rintro ⟨i, hi, k', l', hpasses, hends⟩
    -- One more pass than have succeeded is needed to see the end.
    obtain ⟨rest, rfl⟩ : ∃ rest, n = i + (rest + 1) := ⟨n - i - 1, by omega⟩
    rw [hpasses.run_eq]
    cases hends with
    | atLimit hover => exact run_of_isOver hover
    | fails hgoes hbegin => exact run_of_begin_error hgoes hbegin

end Loop

/-! ## The end of a loop -/

namespace Machine

variable {D K B : Type}

section

variable [Buzzer B] (m : Machine D K B)

/-- The buzzer is still in use at the end of a loop and cannot be stopped. -/
def StopFails (text : String) : Prop :=
  m.buzzerOn = true ∧ (Buzzer.stop m.buzzer).1 = .error text

/-- At the end of a loop there is nothing to stop or the buzzer can be stopped, or it cannot. -/
theorem stops_or_stopFails : (∀ text, ¬ m.StopFails text) ∨ ∃ text, m.StopFails text := by
  by_cases h : ∃ text, m.StopFails text
  · exact .inr h
  · exact .inl fun text htext => h ⟨text, htext⟩

/-- The buzzer after the end of a loop: it is stopped once if it is still in use. -/
def stoppedBuzzer : B := if m.buzzerOn then (Buzzer.stop m.buzzer).2 else m.buzzer

variable {m}

/-- The end of a loop reaches the buzzer and the log, and nothing else. -/
theorem leaveLoop_frame (result : Except Fault Unit) :
    ∃ log, (m.leaveLoop result).2 = { m with buzzer := m.stoppedBuzzer, log := log } := by
  rw [leaveLoop, stoppedBuzzer]
  split_ifs
  · rcases Buzzer.stop m.buzzer with ⟨_ | _, buzzer⟩ <;> exact ⟨_, rfl⟩
  · exact ⟨_, rfl⟩

/-- A loop gives what it came to, unless the buzzer cannot be stopped. -/
theorem leaveLoop_of_stops (result : Except Fault Unit) (h : ∀ text, ¬ m.StopFails text) :
    (m.leaveLoop result).1 = result := by
  rw [leaveLoop]
  split_ifs with hon
  · rcases hstop : Buzzer.stop m.buzzer with ⟨text | _, buzzer⟩
    · exact absurd ⟨hon, congrArg Prod.fst hstop⟩ (h text)
    · rfl
  · rfl

/-- A buzzer that cannot be stopped replaces what the loop came to. -/
theorem leaveLoop_of_stopFails (result : Except Fault Unit) {text : String} (h : m.StopFails text) :
    (m.leaveLoop result).1 = .error (.buzzer text) := by
  obtain ⟨hon, hstop⟩ := h
  have hreply : Buzzer.stop m.buzzer = (.error text, (Buzzer.stop m.buzzer).2) := Prod.ext hstop rfl
  rw [leaveLoop, if_pos hon, hreply]

/-- A loop that gives no error came to none. -/
theorem eq_ok_of_leaveLoop {result : Except Fault Unit} (h : (m.leaveLoop result).1 = .ok ()) :
    result = .ok () := by
  rcases m.stops_or_stopFails with hstops | ⟨text, hfails⟩
  · rw [leaveLoop_of_stops result hstops] at h
    exact h
  · rw [leaveLoop_of_stopFails result hfails] at h
    cases h

end

variable [Display D] [Keypad K] [Buzzer B] {m : Machine D K B} {clock : Nat → Nat} {n : Nat}

/-- A loop that would go on is not left. -/
theorem mainLoop_of_run_none {l : Loop D K B}
    (h : (m.enterLoop (clock 0)).run clock n 1 = (none, l)) :
    m.mainLoop clock n = (none, l.machine) := by
  rw [mainLoop, h]

/-- A loop that comes to a result is left with it. -/
theorem mainLoop_of_run {result : Except Fault Unit} {l : Loop D K B}
    (h : (m.enterLoop (clock 0)).run clock n 1 = (some result, l)) :
    m.mainLoop clock n =
      (some (l.machine.leaveLoop result).1, (l.machine.leaveLoop result).2) := by
  rw [mainLoop, h]

/-- Whether a loop is left or not, nothing but the buzzer and the log changes after its passes. -/
theorem mainLoop_frame (m : Machine D K B) (clock : Nat → Nat) (n : Nat) : ∃ buzzer log,
    (m.mainLoop clock n).2 = { ((m.enterLoop (clock 0)).run clock n 1).2.machine with
      buzzer := buzzer, log := log } := by
  rcases hrun : (m.enterLoop (clock 0)).run clock n 1 with ⟨_ | result, l⟩
  · rw [mainLoop_of_run_none hrun]
    exact ⟨_, _, rfl⟩
  · obtain ⟨log, hframe⟩ := l.machine.leaveLoop_frame result
    rw [mainLoop_of_run hrun, hframe]
    exact ⟨_, _, rfl⟩

/-- A loop that gives a result came to one. -/
theorem run_of_mainLoop {result : Except Fault Unit} {after : Machine D K B}
    (h : m.mainLoop clock n = (some result, after)) :
    ∃ reached l, (m.enterLoop (clock 0)).run clock n 1 = (some reached, l) ∧
      l.machine.leaveLoop reached = (result, after) := by
  rcases hrun : (m.enterLoop (clock 0)).run clock n 1 with ⟨_ | reached, l⟩
  · rw [mainLoop_of_run_none hrun] at h
    cases h
  · rw [mainLoop_of_run hrun] at h
    obtain ⟨hresult, hafter⟩ := Prod.mk.inj h
    exact ⟨reached, l, rfl, Prod.ext (Option.some.inj hresult) hafter⟩

end Machine

end Cosmac
