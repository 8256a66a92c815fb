import Cosmac.Proofs.Bounds
import Cosmac.Proofs.Steps
import Mathlib.Data.List.Induction
import Mathlib.Data.List.Infix

/-!
# Calls and returns

A call puts its own address on the stack, and that address and all below it stay where they are until
a return takes it off again. One step either keeps such an ending of the stack or is the return that
closes the call (`step_of_suffix`), and so the ending stays through a run of any length until the
stack is as deep as before the call (`suffix_of_open`).

The stack changes in calls and returns only (`stack_cycle`), so its depth counts them (`depth_steps`).
A call fails when the stack is full and a return when it is empty, and for no other reason.
-/

namespace Cosmac

/-- Whether an instruction is a call. -/
def Instruction.isCall : Instruction → Bool
  | call _ => true
  | _ => false

namespace Machine

variable {D K B : Type}

/-- How many calls are open. -/
def depth (m : Machine D K B) : Nat := m.core.registers.stack.length

/-! ## Cycles -/

section

variable [Display D] [Keypad K] (m : Machine D K B)

/-- A cycle changes the stack as the instruction does that it executes. -/
theorem stack_cycle : m.cycle.2.core.registers.stack =
    m.executed.elim m.core.registers.stack fun i => i.nextStack m.core := by
  rcases h : m.executed with _ | i
  · exact part_cycle_of_executed_eq_none (fun c => c.registers.stack) rfl h
  · exact (effect_of_executed h).stack

/-- A return that is executed has found an open call. -/
theorem stack_ne_nil_of_ret (h : m.executed = some .ret) : m.core.registers.stack ≠ [] := by
  obtain ⟨hret, hok⟩ := executed_eq_some_iff.1 h
  rw [outcome_of_comesTo hret, outcome, require] at hok
  split_ifs at hok with hne
  exact hne

/-- A cycle goes deeper by a call, and less deep by a return. -/
theorem depth_cycle : m.cycle.2.depth + m.executed.toList.count .ret =
    m.depth + m.executed.toList.countP Instruction.isCall := by
  have hstack := m.stack_cycle
  unfold depth
  rcases h : m.executed with _ | i
  · rw [hstack, h]
    rfl
  · rw [hstack, h]
    cases i with
    | ret =>
      have hpos := List.length_pos_iff.2 (m.stack_ne_nil_of_ret h)
      have htail : (Instruction.ret.nextStack m.core).length =
          m.core.registers.stack.length - 1 := List.length_tail
      have hrets : (some Instruction.ret).toList.count .ret = 1 := rfl
      have hcalls : (some Instruction.ret).toList.countP Instruction.isCall = 0 := rfl
      rw [Option.elim_some, htail, hrets, hcalls]
      omega
    | _ => rfl

end

/-! ## Runs -/

variable [Display D] [Keypad K] [Buzzer B] (m : Machine D K B)

/-- The depth counts the calls and the returns of a run. -/
theorem depth_steps (run : List (Step D K B)) :
    (m.steps run).depth + (m.executedIn run).count .ret =
      m.depth + (m.executedIn run).countP Instruction.isCall := by
  induction m, run using run_induction with
  | nil m => rfl
  | cycle m run ih =>
    have hfirst := m.depth_cycle
    rw [m.steps_cycle, m.executedIn_cycle, List.count_append, List.countP_append]
    omega
  | other m s run hs ih =>
    have hdepth : (m.step s).depth = m.depth := by
      unfold depth
      rw [m.registers_step hs]
    rw [m.steps_cons, m.executedIn_cons_of_ne hs, ih, hdepth]

/-- One step keeps an open call and all below it on the stack, or it is the return that closes the
call and goes on after it. -/
theorem step_of_suffix {p : Address} {below : List Address}
    (h : (p :: below) <:+ m.core.registers.stack) (s : Step D K B) :
    (p :: below) <:+ (m.step s).core.registers.stack ∨
      s = .cycle ∧ m.executed = some .ret ∧ (m.step s).core.registers.stack = below ∧
        (m.step s).core.registers.pc.toNat = (p.toNat + 2) % 0x10000 := by
  by_cases hs : s = .cycle
  · subst hs
    have hstack := m.stack_cycle
    have hcycle : m.step (.cycle : Step D K B) = m.cycle.2 := rfl
    rw [hcycle]
    rcases hi : m.executed with _ | i
    · rw [hstack, hi]
      exact .inl h
    · rw [hi] at hstack
      cases i with
      | call target =>
        rw [hstack]
        exact .inl (h.trans (List.suffix_cons _ _))
      | ret =>
        have hpc := (effect_of_executed hi).pc
        rw [Instruction.nextPc_ret] at hpc
        have htail : m.cycle.2.core.registers.stack = m.core.registers.stack.tail := hstack
        -- The call is closed if it is the innermost one, and otherwise a call inside it is.
        rcases hall : m.core.registers.stack with _ | ⟨top, rest⟩
        · exact absurd hall (m.stack_ne_nil_of_ret hi)
        · rw [hall] at h hpc htail
          rcases List.suffix_cons_iff.1 h with heq | hrest
          · obtain ⟨rfl, rfl⟩ := List.cons.inj heq
            exact .inr ⟨rfl, rfl, htail, hpc⟩
          · rw [htail]
            exact .inl hrest
      | _ =>
        rw [hstack]
        exact .inl h
  · rw [m.registers_step hs]
    exact .inl h

/-- No state in the course of a run is as deep as `d`. -/
def Avoids (d : Nat) (run : List (Step D K B)) : Prop :=
  ∀ before, before <+: run → (m.steps before).depth ≠ d

/-- An open call and all below it stay on the stack until the stack is as deep as before the call. -/
theorem suffix_of_open {p : Address} {below : List Address}
    (h : (p :: below) <:+ m.core.registers.stack) {run : List (Step D K B)}
    (hopen : m.Avoids below.length run) : (p :: below) <:+ (m.steps run).core.registers.stack := by
  induction run using List.reverseRecOn with
  | nil => exact h
  | append_singleton run s ih =>
    have hbefore := ih fun before hb => hopen before (hb.trans (List.prefix_append run [s]))
    rw [m.steps_concat]
    rcases (m.steps run).step_of_suffix hbefore s with hkept | ⟨-, -, hclosed, -⟩
    · exact hkept
    · have hdepth := hopen (run ++ [s]) (List.prefix_refl _)
      rw [m.steps_concat] at hdepth
      exact absurd (congrArg List.length hclosed) hdepth

/-- The discipline of calls, on a machine that was reached. A call with room on the stack succeeds.
Through any run after it, as long as the stack does not get as deep again as before the call, it ends
in the address of the call and what was there before; and the step that makes it as deep again is a
cycle that executes a return, which restores the stack and goes on after the call. The depth of the
stack counts calls and returns. A call fails exactly when the stack is full, a return exactly when it
is empty, and a cycle that fails leaves stack and program counter alone. -/
theorem calls_nest (h : m.Reached) :
    (∀ target, m.core.ComesTo (.call target) → m.depth < 16 →
      m.executed = some (.call target) ∧
      ∀ run : List (Step D K B), m.cycle.2.Avoids m.depth run →
        (m.core.registers.pc :: m.core.registers.stack) <:+
          (m.cycle.2.steps run).core.registers.stack ∧
        ∀ s, (m.cycle.2.steps (run ++ [s])).depth = m.depth →
          s = .cycle ∧ (m.cycle.2.steps run).executed = some .ret ∧
          (m.cycle.2.steps (run ++ [s])).core.registers.stack = m.core.registers.stack ∧
          (m.cycle.2.steps (run ++ [s])).core.registers.pc.toNat =
            m.core.registers.pc.toNat + 2) ∧
    (∀ run : List (Step D K B), (m.steps run).depth + (m.executedIn run).count .ret =
      m.depth + (m.executedIn run).countP Instruction.isCall) ∧
    (∀ target, m.core.ComesTo (.call target) → ((∃ f, m.cycle.1 = .error f) ↔ m.depth = 16)) ∧
    (m.core.ComesTo .ret → ((∃ f, m.cycle.1 = .error f) ↔ m.depth = 0)) ∧
    ∀ f, m.cycle.1 = .error f → m.cycle.2.core.registers.stack = m.core.registers.stack ∧
      m.cycle.2.core.registers.pc = m.core.registers.pc := by
  refine ⟨fun target hcall hroom => ?_, m.depth_steps, fun target hcall => ?_, fun hret => ?_, ?_⟩
  · have hexecuted : m.executed = some (.call target) :=
      executed_of_comesTo hcall (if_pos hroom)
    refine ⟨hexecuted, fun run hopen => ?_⟩
    have hpushed : m.cycle.2.core.registers.stack =
        m.core.registers.pc :: m.core.registers.stack := (effect_of_executed hexecuted).stack
    have hstart : (m.core.registers.pc :: m.core.registers.stack) <:+
        m.cycle.2.core.registers.stack := hpushed.symm ▸ List.suffix_refl _
    have hsuffix := m.cycle.2.suffix_of_open hstart hopen
    refine ⟨hsuffix, fun s hdepth => ?_⟩
    rw [steps_concat] at hdepth ⊢
    rcases (m.cycle.2.steps run).step_of_suffix hsuffix s with hkept | ⟨hs, hret, hstack, hpc⟩
    · have hdeeper := hkept.length_le
      rw [List.length_cons] at hdeeper
      unfold depth at hdepth
      omega
    · -- The address of a call has room for two bytes after it, so the sum does not wrap around.
      have htop : m.core.registers.pc.toNat + 2 ≤ 0x1000 := hcall.canFetch.2
      refine ⟨hs, hret, hstack, ?_⟩
      rw [hpc, Nat.mod_eq_of_lt (by omega)]
  · have hbound : m.depth ≤ 16 := h.bounded.depth
    rw [outcome_of_comesTo hcall, outcome, require]
    split_ifs with hroom
    · have hnot : m.depth ≠ 16 := Nat.ne_of_lt hroom
      simp [hnot]
    · have hfull : m.depth = 16 := Nat.le_antisymm hbound (Nat.le_of_not_lt hroom)
      simp [hfull]
  · rw [outcome_of_comesTo hret, outcome, require]
    split_ifs with hopen
    · have hnot : m.depth ≠ 0 := fun hz => hopen (List.length_eq_zero_iff.1 hz)
      simp [hnot]
    · have hempty : m.depth = 0 := List.length_eq_zero_iff.2 (not_not.1 hopen)
      simp [hempty]
  · intro f hf
    have hcore := (m.cycle_spares hf).core
    rw [hcore]
    exact ⟨rfl, rfl⟩

/-- A machine about to call a subroutine that calls another one. -/
def nesting : Machine Headless Scripted Silent :=
  headless.performAll
    [.load [0x22, 0x04, 0x00, 0x00, 0x22, 0x08, 0x00, 0xee, 0x00, 0xee]]

/-- The inner call and its return leave the outer call open, and the return after them closes it. -/
theorem calls_nest_nesting :
    nesting.Reached ∧ nesting.core.ComesTo (.call 0x204) ∧ nesting.depth = 0 ∧
      [nesting.core.registers.pc] <:+
        (nesting.cycle.2.steps [.cycle, .tick 20000000, .cycle]).core.registers.stack ∧
      (nesting.cycle.2.steps [.cycle, .tick 20000000, .cycle, .cycle]).core.registers.pc.toNat =
        nesting.core.registers.pc.toNat + 2 := by
  have hreached : nesting.Reached := reached_headless _
  have hword : nesting.core.word = 0x2204 := by decide +kernel
  have hcall : (Instruction.call 0x204).Encodes nesting.core.word := by
    rw [hword]
    exact ⟨rfl, by decide⟩
  have hcomes : nesting.core.ComesTo (.call 0x204) := ⟨rfl, by decide, hcall⟩
  have hopen : nesting.cycle.2.Avoids nesting.depth [.cycle, .tick 20000000, .cycle] := by
    have hinits : ∀ before ∈ [Step.cycle, .tick 20000000, .cycle].inits,
        (nesting.cycle.2.steps before).depth ≠ nesting.depth := by decide +kernel
    exact fun before hb => hinits before ((List.mem_inits _ _).2 hb)
  obtain ⟨-, hrun⟩ := (calls_nest nesting hreached).1 _ hcomes (by decide)
  obtain ⟨hsuffix, hclose⟩ := hrun _ hopen
  obtain ⟨-, -, -, hpc⟩ := hclose .cycle (by decide +kernel)
  exact ⟨hreached, hcomes, rfl, hsuffix, hpc⟩

end Machine

end Cosmac
