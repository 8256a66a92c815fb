import Cosmac.Machine.Execute

/-!
# Cycles

A cycle either steps over an instruction that an earlier one asked to skip, or fetches the word at
the program counter and executes it. A fault that an instruction meets is placed at that
instruction, but a fetch that fails is not: there is no instruction to blame.
-/

namespace Cosmac.Machine

variable {D K B : Type}

/-- Executes a word fetched at the program counter. -/
def executeWord [Display D] [Keypad K] (m : Machine D K B) (w : Word) :
    Except Fault Unit × Machine D K B :=
  let pc := m.core.registers.pc
  let (result, after) := (Work.executeWord w).on m
  (result.mapError fun f => f.during w pc, after)

/-- Runs one cycle. -/
def cycle [Display D] [Keypad K] (m : Machine D K B) : Except Fault Unit × Machine D K B :=
  let begun := { m with cycles := m.cycles + 1 }
  let pc := m.core.registers.pc
  if 0 < m.core.skips then
    (.ok (), { begun with core := m.core.stepOver }.note (.skipped pc))
  else
    match m.core.memory.readWord pc with
    | .error f => (.error f, begun)
    | .ok w => (begun.note (.fetched pc w)).executeWord w

/-- Whether the next cycle is going to wait for a key. -/
def awaitsKey (m : Machine D K B) : Bool :=
  m.core.skips == 0 &&
    match m.core.memory.readWord m.core.registers.pc with
    | .error _ => false
    | .ok w => Instruction.decode w matches some (.awaitKey _)

/-- Runs up to `n` cycles and stops at the first fault. Gives how many succeeded, on top of `done`. -/
def runCycles [Display D] [Keypad K] (m : Machine D K B) (n done : Nat) :
    Nat × Except Fault Unit × Machine D K B :=
  match n with
  | 0 => (done, .ok (), m)
  | n + 1 =>
    match m.cycle with
    | (.ok _, m) => m.runCycles n (done + 1)
    | (.error f, m) => (done, .error f, m)

end Cosmac.Machine
