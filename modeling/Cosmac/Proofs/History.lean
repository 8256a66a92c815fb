import Cosmac.Proofs.Passes

/-!
# The cycles of a history

What a machine has done is told by the cycles that were called on it, one by one or by a loop.
`Machine.history` lists the machines on which some calls have a cycle called. Between two of them the
machine is idle: a program may be loaded, time may go by, devices may be asked, but registers, skips
and the random generator stay (`Machine.Idle`).

`Machine.Through` says that a list of machines accounts for the whole way from one machine to another,
cycle by cycle, and `performAll_through` says that a history does. For a loop this is put together from
its passes (`Loop.run_accounts`), as for any relation that two ways in a row make one of. What a cycle
makes of a part that idling keeps can then be added up over any calls by an induction on `Through`, which
knows of no loop any more.
-/

namespace Cosmac

namespace Machine

variable {D K B : Type}

/-! ## Between two cycles -/

/-- A machine has been idle: no cycle was called, and of the core no more has changed than memory, the
timers, and the note about a wait for a key. -/
structure Idle (before after : Machine D K B) : Prop where
  core : ∃ memory timers suspended, after.core =
    { before.core with memory := memory, timers := timers, suspended := suspended }
  cycles : after.cycles = before.cycles

namespace Idle

variable {m m' m'' : Machine D K B}

theorem of_core_eq (hcore : m'.core = m.core) (hcycles : m'.cycles = m.cycles) : Idle m m' :=
  ⟨⟨_, _, _, hcore⟩, hcycles⟩

theorem trans (h : Idle m m') (h' : Idle m' m'') : Idle m m'' := by
  obtain ⟨_, _, _, hcore⟩ := h.core
  obtain ⟨_, _, _, hcore'⟩ := h'.core
  rw [hcore] at hcore'
  exact ⟨⟨_, _, _, hcore'⟩, h'.cycles.trans h.cycles⟩

/-- An idle machine keeps its registers. -/
theorem registers (h : Idle m m') : m'.core.registers = m.core.registers := by
  obtain ⟨_, _, _, hcore⟩ := h.core
  rw [hcore]

/-- An idle machine does not draw. -/
theorem random (h : Idle m m') : m'.core.random = m.core.random := by
  obtain ⟨_, _, _, hcore⟩ := h.core
  rw [hcore]

end Idle

section

variable (m : Machine D K B)

theorem load_idle (image : List UInt8) : Idle m (m.load image).2 := ⟨⟨_, _, _, rfl⟩, rfl⟩

theorem loadFrom_idle (source : Source) : Idle m (m.loadFrom source).2 := by
  rw [loadFrom]
  split
  · exact .of_core_eq rfl rfl
  · exact m.load_idle _

theorem updateBuzzer_idle [Buzzer B] : Idle m m.updateBuzzer := by
  obtain ⟨buzzer, on, log, hframe⟩ := m.updateBuzzer_frame
  rw [hframe]
  exact .of_core_eq rfl rfl

theorem tick_idle [Display D] [Buzzer B] (elapsed : Nat) : Idle m (m.tick elapsed).2 := by
  obtain ⟨buzzer, on, log, hframe⟩ := m.tick_frame elapsed
  rw [hframe]
  exact ⟨⟨_, _, _, rfl⟩, rfl⟩

/-- Every cycle is counted, whether it succeeds or not. -/
theorem cycles_cycle [Display D] [Keypad K] : m.cycle.2.cycles = m.cycles + 1 := by
  obtain ⟨_, _, _, _, hframe⟩ := m.cycle_frame
  rw [hframe]

end

/-! ## From one machine to another -/

variable [Display D] [Keypad K]

/-- The cycles called on the machines of a list lead from one machine to another, which is idle before
the first of them, between any two and after the last. -/
inductive Through : Machine D K B → List (Machine D K B) → Machine D K B → Prop
  | idle {before after : Machine D K B} (h : Idle before after) : Through before [] after
  | cycle {before m after : Machine D K B} {history : List (Machine D K B)} (h : Idle before m)
      (hrest : Through m.cycle.2 history after) : Through before (m :: history) after

namespace Through

variable {m m' m'' : Machine D K B} {history history' : List (Machine D K B)}

/-- A machine that calls a cycle at once. -/
theorem single (m : Machine D K B) : Through m [m] m.cycle.2 :=
  .cycle (.of_core_eq rfl rfl) (.idle (.of_core_eq rfl rfl))

/-- The machine may be idle for longer before. -/
theorem of_idle (h : Idle m m') (h' : Through m' history m'') : Through m history m'' := by
  cases h' with
  | idle hidle => exact .idle (h.trans hidle)
  | cycle hidle hrest => exact .cycle (h.trans hidle) hrest

/-- Two ways make one. -/
theorem trans (h : Through m history m') (h' : Through m' history' m'') :
    Through m (history ++ history') m'' := by
  induction h with
  | idle hidle => exact of_idle hidle h'
  | cycle hidle _ ih => exact .cycle hidle (ih h')

/-- A way to a machine of the list is a part of the way. -/
theorem exists_idle {before rest : List (Machine D K B)} (h : Through m (before ++ m' :: rest) m'') :
    ∃ last, Through m before last ∧ Idle last m' := by
  induction before generalizing m with
  | nil =>
    cases h with
    | cycle hidle hrest => exact ⟨m, .idle (.of_core_eq rfl rfl), hidle⟩
  | cons first before ih =>
    cases h with
    | cycle hidle hrest =>
      obtain ⟨last, hlast, hlate⟩ := ih hrest
      exact ⟨last, .cycle hidle hlast, hlate⟩

/-- The count of cycles tells how long the list is. -/
theorem cycles_eq (h : Through m history m') : m'.cycles = m.cycles + history.length := by
  induction h with
  | idle hidle => exact hidle.cycles
  | @cycle before m after history hidle _ ih =>
    rw [ih, m.cycles_cycle, hidle.cycles, List.length_cons, Nat.add_right_comm, Nat.add_assoc]

end Through

end Machine

/-! ## The loop -/

namespace Loop

variable {D K B : Type} (l : Loop D K B)

/-- At its end a pass is idle. -/
theorem finish_idle (clock : Nat → Nat) (k : Nat) : l.machine.Idle (l.finish clock k).machine := by
  rw [machine_finish]
  split_ifs
  · exact ⟨⟨_, _, _, rfl⟩, rfl⟩
  · exact .of_core_eq rfl rfl

variable [Display D] [Keypad K] [Buzzer B]

/-- The machine on which a pass calls its cycle, if it comes to that. -/
def cycling (now : Nat) : List (Machine D K B) :=
  match (l.machine.tick (now - l.last)).1, (Keypad.poll (l.ticked now).keypad).1 with
  | .ok _, .ok _ => [l.polled now]
  | _, _ => []

/-- The machines on which cycles are called in at most `n` passes, on the clock readings from number
`k` on. -/
def cycled (clock : Nat → Nat) (n k : Nat) (l : Loop D K B) : List (Machine D K B) :=
  match n with
  | 0 => []
  | n + 1 =>
    if l.isOver then []
    else
      l.cycling (clock k) ++ match l.begin (clock k) with
        | (.error _, _) => []
        | (.ok _, l') => (l'.finish clock k).cycled clock n (k + l'.readings)

theorem cycling_of_comesToCycle {now : Nat} (h : l.ComesToCycle now) :
    l.cycling now = [l.polled now] := by
  obtain ⟨ticks, htick⟩ := h.tick
  rw [cycling, htick, h.poll]

/-- Up to its cycle, and if it does not come to that up to its end, a pass is idle. -/
theorem begin_through (now : Nat) :
    l.machine.Through (l.cycling now) (l.begin now).2.machine := by
  have htick : l.machine.Idle (l.ticked now) := l.machine.tick_idle (now - l.last)
  have hpoll : l.machine.Idle (l.polled now) := htick.trans (.of_core_eq rfl rfl)
  rcases l.begin_cases now with ⟨f, ht⟩ | ⟨ticks, e, ht, hp⟩ | ⟨hcomes, ⟨f, hc⟩ | hc⟩
  · have hnone : l.cycling now = [] := by rw [cycling, ht]
    rw [hnone, l.begin_of_tick_error now ht]
    exact .idle htick
  · have hnone : l.cycling now = [] := by rw [cycling, ht, hp]
    rw [hnone, l.begin_of_poll_error now ht hp]
    exact .idle hpoll
  · rw [l.cycling_of_comesToCycle hcomes, l.begin_of_cycle_error now hcomes hc]
    exact .of_idle hpoll (.single _)
  · rw [l.cycling_of_comesToCycle hcomes, l.begin_of_cycle_ok now hcomes hc]
    exact .cycle hpoll (.idle (Machine.updateBuzzer_idle _))

/-- What two machines and the cycles between them have to do with each other holds of a loop if it holds
of each pass and of the end of each pass. -/
theorem run_accounts {R : Machine D K B → List (Machine D K B) → Machine D K B → Prop}
    (clock : Nat → Nat) (none : ∀ m, R m [] m)
    (trans : ∀ {m m' m'' history history'}, R m history m' → R m' history' m'' →
      R m (history ++ history') m'')
    (pass : ∀ (l : Loop D K B) now, R l.machine (l.cycling now) (l.begin now).2.machine)
    (finished : ∀ (l : Loop D K B) k, R l.machine [] (l.finish clock k).machine) (n k : Nat)
    (l : Loop D K B) : R l.machine (l.cycled clock n k) (l.run clock n k).2.machine := by
  -- Both sides recurse on the bound, and take the same branch in each pass.
  refine run_induction clock ?stop ?ended ?fails ?goes n k l
  case stop =>
    intro k l
    exact none l.machine
  case ended =>
    intro n k l hover
    rw [cycled, run_of_isOver hover, if_pos hover]
    exact none l.machine
  case fails =>
    intro n k l f l' hgoes hbegin
    have hfirst := pass l (clock k)
    rw [hbegin] at hfirst
    rw [cycled, run_of_begin_error hgoes hbegin, hgoes, if_neg Bool.false_ne_true, hbegin,
      List.append_nil]
    exact hfirst
  case goes =>
    intro n k l l' hgoes hbegin ih
    have hfirst := pass l (clock k)
    rw [hbegin] at hfirst
    rw [cycled, run_of_begin_ok hgoes hbegin, hgoes, if_neg Bool.false_ne_true, hbegin]
    exact trans hfirst (trans (finished l' k) ih)

/-- The cycles of a loop lead from its machine to the machine that it leaves. -/
theorem run_through (clock : Nat → Nat) (n k : Nat) :
    l.machine.Through (l.cycled clock n k) (l.run clock n k).2.machine :=
  run_accounts clock (fun _ => .idle (.of_core_eq rfl rfl)) (fun h h' => h.trans h')
    (fun l now => l.begin_through now) (fun l k => .idle (l.finish_idle clock k)) n k l

end Loop

/-! ## Calls in any order -/

namespace Machine

variable {D K B : Type} [Display D] [Keypad K] [Buzzer B] (m : Machine D K B)

/-- The machines on which a call has cycles called. -/
def cycledBy (m : Machine D K B) : Call D K B → List (Machine D K B)
  | .cycle => [m]
  | .mainLoop clock passes => (m.enterLoop (clock 0)).cycled clock passes 1
  | .load _ | .loadFrom _ | .tick _ | .devices _ _ _ => []

/-- The machines on which some calls have cycles called, in order. -/
def history (m : Machine D K B) : List (Call D K B) → List (Machine D K B)
  | [] => []
  | call :: calls => m.cycledBy call ++ (m.perform call).history calls

/-- Calls in two parts have the history of the first part and then that of the second. -/
theorem history_append (calls calls' : List (Call D K B)) :
    m.history (calls ++ calls') = m.history calls ++ (m.performAll calls).history calls' := by
  induction calls generalizing m with
  | nil => rfl
  | cons call calls ih =>
    rw [List.cons_append, history, history, ih, List.append_assoc]
    rfl

theorem mainLoop_through (clock : Nat → Nat) (passes : Nat) :
    m.Through ((m.enterLoop (clock 0)).cycled clock passes 1) (m.mainLoop clock passes).2 := by
  have henter : m.Idle (m.enterLoop (clock 0)).machine := .of_core_eq rfl rfl
  have hrun := Through.of_idle henter ((m.enterLoop (clock 0)).run_through clock passes 1)
  obtain ⟨_, _, hframe⟩ := m.mainLoop_frame clock passes
  have hleave : ((m.enterLoop (clock 0)).run clock passes 1).2.machine.Idle
      (m.mainLoop clock passes).2 := by
    rw [hframe]
    exact .of_core_eq rfl rfl
  rw [← List.append_nil (Loop.cycled _ _ _ _)]
  exact hrun.trans (.idle hleave)

theorem perform_through (call : Call D K B) : m.Through (m.cycledBy call) (m.perform call) := by
  cases call with
  | load image => exact .idle (m.load_idle image)
  | loadFrom source => exact .idle (m.loadFrom_idle source)
  | cycle => exact .single m
  | tick elapsed => exact .idle (m.tick_idle elapsed)
  | mainLoop clock passes => exact m.mainLoop_through clock passes
  | devices display keypad buzzer => exact .idle (.of_core_eq rfl rfl)

/-- The history of some calls leads from the machine before them to the one after them. -/
theorem performAll_through (calls : List (Call D K B)) :
    m.Through (m.history calls) (m.performAll calls) := by
  induction calls generalizing m with
  | nil => exact .idle (.of_core_eq rfl rfl)
  | cons call calls ih => exact (m.perform_through call).trans (ih (m.perform call))

end Machine

end Cosmac
