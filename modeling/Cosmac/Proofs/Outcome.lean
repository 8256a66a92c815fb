import Cosmac.Proofs.Cycle

/-!
# How a cycle ends

`Machine.outcome` is the table of what each instruction ends in: an instruction that can fail goes
through under the condition given there, an instruction that asks a device ends as the device
answers, and all others go through. `cycle_outcome` says that nothing else decides how a cycle ends
than this table, the words that are no instruction's, and the program counters at which there is no
word.

Of the requests that an instruction can make only three have an outcome that is not settled yet
(`serve_clear_fst` and the two lemmas after it), and their faults keep their form when they are
placed (`mapError_outcomeOf`). What the table adds to that are the guards (`outcome_eq`).
-/

namespace Cosmac

/-- What a device's answer makes of a cycle: a device that fails ends it with its own error. -/
def outcomeOf {α : Type} : Except DeviceError α → Except Fault Unit
  | .ok _ => .ok ()
  | .error e => .error (.device e)

/-- The outcome of a check that fails with the given fault. -/
def require (condition : Prop) [Decidable condition] (cause : Fault) : Except Fault Unit :=
  if condition then .ok () else .error cause

/-- An error of a device is not placed at the instruction. -/
theorem mapError_outcomeOf {α : Type} (answer : Except DeviceError α) (w : Word) (pc : Address) :
    (outcomeOf answer).mapError (fun f => f.during w pc) = outcomeOf answer := by
  cases answer <;> rfl

/-- A fault that an answer makes is the device's. -/
theorem outcomeOf_ne_undefined {α : Type} (answer : Except DeviceError α) (w : Word)
    (pc : Address) : outcomeOf answer ≠ .error (.undefined w pc) := by
  cases answer <;> exact nofun

/-- A fault that a check makes is the one given for it. -/
theorem require_ne {condition : Prop} [Decidable condition] {cause f : Fault} (h : cause ≠ f) :
    require condition cause ≠ .error f := by
  unfold require
  split_ifs
  · exact nofun
  · exact fun e => h (Except.error.inj e)

/-- Where no word can be fetched, the first address outside is the program counter, unless that is
the last byte of memory. -/
theorem Core.firstOutside_pc {c : Core} (h : ¬ c.CanFetch) :
    Memory.firstOutside c.registers.pc =
      if c.registers.pc = 0xfff then 0x1000 else c.registers.pc := by
  unfold Core.CanFetch Memory.Spans Memory.base Memory.top at h
  unfold Memory.firstOutside Memory.base Memory.top
  have hlast : c.registers.pc = 0xfff ↔ c.registers.pc.toNat = 0xfff :=
    ⟨fun e => congrArg UInt16.toNat e, fun e => UInt16.toNat.inj e⟩
  simp only [hlast]
  split_ifs
  · rfl
  · omega
  · omega
  · rfl

namespace Machine

variable {D K B : Type} (m : Machine D K B)

/-- The fault of an instruction whose bytes at `I` are not all there. -/
def rangeFault : Fault :=
  .failed m.core.word m.core.registers.pc (.outsideMemory (Memory.firstOutside m.core.registers.i))

variable [Display D] [Keypad K]

/-- What an instruction at the program counter ends in. -/
def outcome : Instruction → Except Fault Unit
  | .clear => outcomeOf (Display.clear m.display).1
  | .draw x y height =>
    if Memory.HasSprite m.core.registers.i height.val then
      outcomeOf (Display.draw (m.core.reg x) (m.core.reg y)
        ((m.core.memory.spriteRows m.core.registers.i height.val).map unpackRow) m.display).1
    else .error m.rangeFault
  | .awaitKey _ => outcomeOf (Keypad.waitForKey m.keypad).1
  | .ret => require (m.core.registers.stack ≠ []) (.stackUnderflow m.core.registers.pc)
  | .call _ => require (m.core.registers.stack.length < 16) (.stackOverflow m.core.registers.pc)
  | .storeDigits _ => require (Memory.Spans m.core.registers.i 3) m.rangeFault
  | .storeRegisters x | .loadRegisters x =>
    require (Memory.Spans m.core.registers.i (x.val + 1)) m.rangeFault
  | _ => .ok ()

/-! ## Requests to devices -/

theorem serve_clear_fst (next : Core) :
    (m.serve (.clear next)).1 = outcomeOf (Display.clear m.display).1 := by
  rw [serve]
  rcases Display.clear m.display with ⟨_ | _, _⟩ <;> rfl

theorem serve_draw_fst (x y : UInt8) (rows : List Row) (next : Bool → Core) :
    (m.serve (.draw x y rows next)).1 = outcomeOf (Display.draw x y rows m.display).1 := by
  rw [serve]
  rcases Display.draw x y rows m.display with ⟨_ | _, _⟩ <;> rfl

theorem serve_await_fst (next : UInt8 → Core) :
    (m.serve (.await next)).1 = outcomeOf (Keypad.waitForKey m.keypad).1 := by
  rw [serve]
  rcases Keypad.waitForKey m.keypad with ⟨_ | _, _⟩ <;> rfl

/-! ## The outcome of an instruction and of a cycle -/

/-- The table gives what the request of an instruction comes to, with its fault placed at the word. -/
theorem outcome_eq (i : Instruction) :
    ((m.fetched.serve (m.request i)).1.mapError fun f =>
      f.during m.core.word m.core.registers.pc) = m.outcome i := by
  cases i with
  | clear =>
    rw [request, Core.execute, serve_clear_fst]
    exact mapError_outcomeOf _ _ _
  | draw x y height =>
    rw [request, Core.execute_draw, outcome]
    split_ifs
    · rw [serve_draw_fst]
      exact mapError_outcomeOf _ _ _
    · rfl
  | awaitKey x =>
    rw [request, Core.execute, serve_await_fst]
    exact mapError_outcomeOf _ _ _
  | ret =>
    rw [request, Core.execute_ret, outcome, require]
    cases m.core.registers.stack <;> rfl
  | call target =>
    rw [request, Core.execute_call, outcome, require, Registers.stackDepth]
    split_ifs <;> rfl
  | storeDigits x =>
    rw [request, Core.execute_storeDigits, outcome, require]
    split_ifs <;> rfl
  | storeRegisters x =>
    rw [request, Core.execute_storeRegisters, outcome, require]
    split_ifs <;> rfl
  | loadRegisters x =>
    rw [request, Core.execute_loadRegisters, outcome, require]
    split_ifs <;> rfl
  | _ => rfl

/-- No instruction ends as a word of no instruction does. -/
theorem outcome_ne_undefined (i : Instruction) :
    m.outcome i ≠ .error (.undefined m.core.word m.core.registers.pc) := by
  cases i with
  | clear | awaitKey x => exact outcomeOf_ne_undefined _ _ _
  | draw x y height =>
    rw [outcome]
    split_ifs
    · exact outcomeOf_ne_undefined _ _ _
    · exact nofun
  | ret | call target | storeDigits x | storeRegisters x | loadRegisters x =>
    exact require_ne nofun
  | _ => exact nofun

/-- How a cycle ends. An instruction that is to be skipped is stepped over, whatever it is. Otherwise
the program counter has to stand on two bytes of memory, and a fault about it names no instruction.
The word there is undefined exactly when it is a word of no instruction, and an instruction ends as
the table says. -/
theorem cycle_outcome :
    (0 < m.core.skips → m.cycle.1 = .ok ()) ∧
    (m.core.skips = 0 →
      (¬ (0x200 ≤ m.core.registers.pc.toNat ∧ m.core.registers.pc.toNat ≤ 0xffe) →
        m.cycle.1 = .error (.outsideMemory
          (if m.core.registers.pc = 0xfff then 0x1000 else m.core.registers.pc))) ∧
      (0x200 ≤ m.core.registers.pc.toNat ∧ m.core.registers.pc.toNat ≤ 0xffe →
        (m.cycle.1 = .error (.undefined m.core.word m.core.registers.pc) ↔
          ∀ i : Instruction, ¬ i.Encodes m.core.word) ∧
        ∀ i : Instruction, i.Encodes m.core.word → m.cycle.1 = m.outcome i)) := by
  have hrange : m.core.CanFetch ↔
      0x200 ≤ m.core.registers.pc.toNat ∧ m.core.registers.pc.toNat ≤ 0xffe := by
    unfold Core.CanFetch Memory.Spans Memory.base Memory.top
    omega
  rw [← hrange]
  refine ⟨fun hs => by rw [m.cycle_of_skips hs], fun hs => ⟨fun hf => ?_, fun hf => ?_⟩⟩
  · rw [m.cycle_of_not_canFetch hs hf, Core.firstOutside_pc hf]
  · -- A word of an instruction ends as the table says, which is never as an undefined one.
    have hends : ∀ i : Instruction, i.Encodes m.core.word → m.cycle.1 = m.outcome i := by
      intro i hi
      rw [m.cycle_of_encodes hs hf hi]
      exact m.outcome_eq i
    refine ⟨⟨fun hu i hi => ?_, fun hw => ?_⟩, hends⟩
    · rw [hends i hi] at hu
      exact m.outcome_ne_undefined i hu
    · rw [m.cycle_of_not_encodes hs hf hw]

end Machine

end Cosmac
