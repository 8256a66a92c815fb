import Cosmac.Proofs.Tick

/-!
# Runs step by step

A machine that is not in a loop is run by steps: cycles and ticks in any order, with programs loaded
and devices changed between them (`Machine.Step`). Steps are calls, so a machine that steps lead to
from a reached one is reached itself (`Reached.steps`). What holds of a run is proved from its first
step on, where the step is a cycle or another one (`run_induction`).

What a run did is told by its cycles. `Machine.cycled` lists the machines on which they were called,
and `Machine.executed` is the instruction that a cycle executes, if it executes one and succeeds. Such
a cycle has the effect of its instruction (`effect_of_executed`), and any other leaves the core as it
is or steps over an instruction (`core_of_executed_eq_none`). No other step touches the registers
(`registers_step`).
-/

namespace Cosmac

/-- The next cycle comes to an instruction: nothing is to be stepped over, and the word at the program
counter is one of the instruction's. -/
structure Core.ComesTo (c : Core) (i : Instruction) : Prop where
  skips : c.skips = 0
  canFetch : c.CanFetch
  encodes : i.Encodes c.word

/-- A core comes to the instruction of the word that it is at. -/
theorem Core.comesTo_of_word {c : Core} {i : Instruction} {w : Word}
    (h : c.skips = 0 ∧ c.CanFetch ∧ c.word = w) (hi : i.Encodes w) : c.ComesTo i :=
  ⟨h.1, h.2.1, h.2.2.symm ▸ hi⟩

namespace Machine

variable {D K B : Type}

/-! ## What a cycle executes -/

section

variable [Display D] [Keypad K] {m : Machine D K B} {i : Instruction}

/-- The instruction that the next cycle executes with success. There is none if that cycle steps over
an instruction or fails. -/
def executed (m : Machine D K B) : Option Instruction :=
  match m.core.skips, m.cycle.1 with
  | 0, .ok _ => Instruction.decode m.core.word
  | _, _ => none

/-- An instruction is executed when the cycle comes to it and succeeds. -/
theorem executed_eq_some_iff : m.executed = some i ↔ m.core.ComesTo i ∧ m.cycle.1 = .ok () := by
  constructor
  · intro h
    unfold executed at h
    split at h
    · rename_i hs hok
      obtain ⟨hf, -⟩ := m.exists_encodes_of_cycle_ok hs hok
      exact ⟨⟨hs, hf, Instruction.encodes_of_decode h⟩, hok⟩
    · cases h
  · rintro ⟨hi, hok⟩
    rw [executed, hi.skips, hok]
    exact Instruction.decode_of_encodes hi.encodes

/-- A cycle that comes to an instruction grants what the instruction asks for. -/
theorem cycle_of_comesTo (h : m.core.ComesTo i) : m.cycle =
    ((m.fetched.serve (m.request i)).1.mapError fun f => f.during m.core.word m.core.registers.pc,
      (m.fetched.serve (m.request i)).2) :=
  m.cycle_of_encodes h.skips h.canFetch h.encodes

/-- A cycle that comes to an instruction ends as the instruction does. -/
theorem outcome_of_comesTo (h : m.core.ComesTo i) : m.cycle.1 = m.outcome i := by
  rw [cycle_of_comesTo h]
  exact m.outcome_eq i

/-- A cycle that comes to an instruction which is checked succeeds if the check goes through. -/
theorem cycle_ok_iff_of_require {condition : Prop} [Decidable condition] {cause : Fault}
    (h : m.core.ComesTo i) (hcheck : m.outcome i = require condition cause) :
    m.cycle.1 = .ok () ↔ condition := by
  rw [outcome_of_comesTo h, hcheck, require]
  split_ifs with hcondition
  · exact iff_of_true rfl hcondition
  · refine iff_of_false (fun hok => ?_) hcondition
    cases hok

/-- A cycle that comes to an instruction of which nothing but a core is asked goes on with that core. -/
theorem cycle_of_done {next : Core} (h : m.core.ComesTo i) (hdone : m.request i = .done next) :
    m.cycle = (.ok (), { m.fetched with core := next }) := by
  rw [cycle_of_comesTo h, hdone]
  rfl

/-- A cycle that comes to an instruction which asks for a key goes on as the key is up or down. -/
theorem cycle_of_sense {key : UInt8} {next : Bool → Core} (h : m.core.ComesTo i)
    (hsense : m.request i = .sense key next) :
    m.cycle = (.ok (), { m.fetched with core := next (Keypad.isDown m.keypad key) }) := by
  rw [cycle_of_comesTo h, hsense]
  rfl

/-- A cycle that comes to an instruction executes it if the instruction ends well. -/
theorem executed_of_comesTo (h : m.core.ComesTo i) (hok : m.outcome i = .ok ()) :
    m.executed = some i :=
  executed_eq_some_iff.2 ⟨h, (outcome_of_comesTo h).trans hok⟩

/-- A cycle that executes an instruction has the instruction's effect. -/
theorem effect_of_executed (h : m.executed = some i) : Core.Effect i m.core m.cycle.2.core := by
  obtain ⟨hi, hok⟩ := executed_eq_some_iff.1 h
  exact Core.execute_effect (m.cycle_yields hi.skips hi.canFetch hi.encodes hok)

/-- A cycle that executes nothing has failed or steps over an instruction. -/
theorem core_of_executed_eq_none (h : m.executed = none) :
    m.cycle.2.core = m.core ∨ m.cycle.2.core = m.core.stepOver := by
  rcases hr : m.cycle.1 with f | _
  · exact .inl (m.cycle_spares hr).core
  · rcases Nat.eq_zero_or_pos m.core.skips with hs | hs
    · obtain ⟨hf, i, hi⟩ := m.exists_encodes_of_cycle_ok hs hr
      have hsome : m.executed = some i := executed_eq_some_iff.2 ⟨⟨hs, hf, hi⟩, hr⟩
      rw [h] at hsome
      cases hsome
    · rw [m.cycle_of_skips hs]
      exact .inr rfl

/-- A part of the core that stepping over an instruction keeps is kept by every cycle that executes
nothing. -/
theorem part_cycle_of_executed_eq_none {α : Type} (part : Core → α)
    (hpart : part m.core.stepOver = part m.core) (h : m.executed = none) :
    part m.cycle.2.core = part m.core := by
  rcases core_of_executed_eq_none h with hcore | hcore
  · rw [hcore]
  · rw [hcore, hpart]

end

/-! ## Steps -/

/-- A step of a run outside a loop. -/
inductive Step (D K B : Type)
  | cycle
  | tick (elapsed : Nat)
  | load (image : List UInt8)
  | loadFrom (source : Source)
  /-- The devices change by themselves. -/
  | devices (display : D) (keypad : K) (buzzer : B)

/-- The call that makes a step. -/
def Step.call : Step D K B → Call D K B
  | cycle => .cycle
  | tick elapsed => .tick elapsed
  | load image => .load image
  | loadFrom source => .loadFrom source
  | devices display keypad buzzer => .devices display keypad buzzer

/-- How much time goes by in a step. -/
def Step.elapsed : Step D K B → Nat
  | tick elapsed => elapsed
  | _ => 0

/-- What a step makes of the timers by the time that goes by in it. -/
def Step.pass : Step D K B → Timers → Timers
  | tick elapsed, t => (t.advance elapsed).2
  | _, t => t

variable [Display D] [Keypad K] [Buzzer B]

/-- The machine after a step, whether the step succeeded or not. -/
def step (m : Machine D K B) (s : Step D K B) : Machine D K B := m.perform s.call

/-- The machine after a run. -/
def steps (m : Machine D K B) (run : List (Step D K B)) : Machine D K B := run.foldl step m

/-- The machines on which the cycles of a run are called. -/
def cycled (m : Machine D K B) : List (Step D K B) → List (Machine D K B)
  | [] => []
  | .cycle :: run => m :: m.cycle.2.cycled run
  | s :: run => (m.step s).cycled run

/-- The instructions that a run executes, in order. -/
def executedIn (m : Machine D K B) (run : List (Step D K B)) : List Instruction :=
  (m.cycled run).filterMap executed

theorem steps_cycle (m : Machine D K B) (run : List (Step D K B)) :
    m.steps (.cycle :: run) = m.cycle.2.steps run := rfl

theorem steps_cons (m : Machine D K B) (s : Step D K B) (run : List (Step D K B)) :
    m.steps (s :: run) = (m.step s).steps run := rfl

/-- Induction on a run from its first step on, with cycles told apart from all other steps. -/
theorem run_induction {motive : Machine D K B → List (Step D K B) → Prop}
    (nil : ∀ m, motive m [])
    (cycle : ∀ m run, motive m.cycle.2 run → motive m (.cycle :: run))
    (other : ∀ m s run, s ≠ .cycle → motive (m.step s) run → motive m (s :: run))
    (m : Machine D K B) (run : List (Step D K B)) : motive m run := by
  induction run generalizing m with
  | nil => exact nil m
  | cons s run ih =>
    by_cases hs : s = .cycle
    · rw [hs]
      exact cycle m run (ih m.cycle.2)
    · exact other m s run hs (ih (m.step s))

/-- A run of steps is a run of calls. -/
theorem steps_eq_performAll (m : Machine D K B) (run : List (Step D K B)) :
    m.steps run = m.performAll (run.map Step.call) := by
  rw [steps, performAll, List.foldl_map]
  rfl

/-- The last step of a run comes after the others. -/
theorem steps_concat (m : Machine D K B) (run : List (Step D K B)) (s : Step D K B) :
    m.steps (run ++ [s]) = (m.steps run).step s := by
  rw [steps, List.foldl_append]
  rfl

/-- A machine that steps lead to from a reached one is reached. -/
theorem Reached.steps {m : Machine D K B} (h : m.Reached) (run : List (Step D K B)) :
    (m.steps run).Reached := by
  obtain ⟨config, entropy, display, keypad, buzzer, booted, calls, hboot, rfl⟩ := h
  refine ⟨config, entropy, display, keypad, buzzer, booted, calls ++ run.map Step.call, hboot, ?_⟩
  rw [steps_eq_performAll, performAll, performAll, performAll, List.foldl_append]

variable (m : Machine D K B) {s : Step D K B}

/-- A step other than a cycle adds no cycle. -/
theorem cycled_cons_of_ne (h : s ≠ .cycle) (run : List (Step D K B)) :
    m.cycled (s :: run) = (m.step s).cycled run := by
  cases s with
  | cycle => exact absurd rfl h
  | _ => rfl

/-- A step other than a cycle executes nothing. -/
theorem executedIn_cons_of_ne (h : s ≠ .cycle) (run : List (Step D K B)) :
    m.executedIn (s :: run) = (m.step s).executedIn run := by
  rw [executedIn, m.cycled_cons_of_ne h, executedIn]

/-- A run that begins with a cycle executes first what that cycle executes. -/
theorem executedIn_cycle (run : List (Step D K B)) :
    m.executedIn (.cycle :: run) = m.executed.toList ++ m.cycle.2.executedIn run := by
  rw [executedIn, cycled, List.filterMap_cons, executedIn]
  cases m.executed <;> rfl

/-- What a run executes that begins with a cycle is executed by that cycle or after it. -/
theorem mem_executedIn_cycle {i : Instruction} {run : List (Step D K B)} :
    i ∈ m.executedIn (.cycle :: run) ↔ m.executed = some i ∨ i ∈ m.cycle.2.executedIn run := by
  rw [m.executedIn_cycle, List.mem_append, Option.mem_toList]

/-- A step other than a cycle changes no more of the core than memory and timers, and the timers only
in a tick. -/
theorem core_step (h : s ≠ .cycle) : ∃ memory, (m.step s).core =
    { m.core with memory := memory, timers := s.pass m.core.timers } := by
  cases s with
  | cycle => exact absurd rfl h
  | tick elapsed => exact ⟨m.core.memory, m.tick_core elapsed⟩
  | load image => exact ⟨m.core.memory.load image, rfl⟩
  | loadFrom source =>
    have hstep : m.step (.loadFrom source) = (m.loadFrom source).2 := rfl
    rw [hstep, loadFrom]
    split
    · exact ⟨m.core.memory, rfl⟩
    · exact ⟨m.core.memory.load _, rfl⟩
  | devices display keypad buzzer => exact ⟨m.core.memory, rfl⟩

/-- The registers change in cycles only. -/
theorem registers_step (h : s ≠ .cycle) : (m.step s).core.registers = m.core.registers := by
  obtain ⟨memory, hcore⟩ := m.core_step h
  rw [hcore]

/-- Outside cycles the timers change with the time only. -/
theorem timers_step (h : s ≠ .cycle) : (m.step s).core.timers = s.pass m.core.timers := by
  obtain ⟨memory, hcore⟩ := m.core_step h
  rw [hcore]

/-- A machine without hardware, as it is put together. -/
def headless : Machine Headless Scripted Silent where
  config := { seed := some 1 }
  core := Core.fresh { seed := some 1 } (Vector.replicate 8 0)
  display := (({} : Headless).setExtents 64 32).clear
  keypad := {}
  buzzer := {}

/-- Whatever is asked of it leaves a machine that was reached. -/
theorem reached_headless (calls : List (Call Headless Scripted Silent)) :
    (headless.performAll calls).Reached :=
  ⟨_, _, {}, _, _, _, calls, rfl, rfl⟩

end Machine

end Cosmac
