import Cosmac.Proofs.Guards
import Mathlib.Data.List.GetD

/-!
# What an instruction changes

The tables of this module say, for each part of a core, what an instruction makes of it:
`Instruction.nextPc` is where the machine goes on, `Instruction.Sets` are the registers that may
change, `Instruction.stores` is how many bytes from `I` on may change, and so forth. They are read off
the instruction and the core before it, and every instruction that a table does not list leaves its
part alone.

`Core.Effect` puts the tables together, and `execute_effect` shows that they hold of every core with
which an instruction goes on, whatever the device that it asks may answer (`Request.Yields`). Numbers
are compared as natural numbers, so that the statement shows where a counter can wrap around.
-/

namespace Cosmac

/-- The cores with which a machine may go on once a request is granted. -/
def Request.Yields : Request → Core → Prop
  | .done next, c => c = next
  | .fault _, _ => False
  | .clear next, c => c = next
  | .draw _ _ _ next, c => ∃ collided, c = next collided
  | .sense _ next, c => ∃ down, c = next down
  | .await next, c => ∃ key, c = next key

/-- The operations that write the flag register besides their result. -/
def AluOp.SetsFlag : AluOp → Prop
  | .copy | .or | .and | .xor => False
  | .add | .sub | .shiftRight | .subFrom | .shiftLeft => True

/-! ## The tables -/

namespace Instruction

/-- The address that an instruction goes on at, before it is cut to sixteen bits. -/
def nextPc (c : Core) : Instruction → Nat
  | jump target | call target => target.toNat
  | jumpOffset base => (base.toNat + (c.reg Reg.zero).toNat) % 0x1000
  | ret => c.registers.stack.head?.elim c.registers.pc.toNat fun saved => saved.toNat + 2
  | _ => c.registers.pc.toNat + 2

/-- A return goes on after the innermost call. -/
theorem nextPc_ret (c : Core) : ret.nextPc c =
    c.registers.stack.head?.elim c.registers.pc.toNat fun saved => saved.toNat + 2 := rfl

/-- The call stack after an instruction. -/
def nextStack (c : Core) : Instruction → List Address
  | call _ => c.registers.pc :: c.registers.stack
  | ret => c.registers.stack.tail
  | _ => c.registers.stack

/-- A return ends the innermost call. -/
theorem nextStack_ret (c : Core) : ret.nextStack c = c.registers.stack.tail := rfl

/-- The index register after an instruction. -/
def nextIndex (c : Core) : Instruction → Nat
  | setIndex address => address.toNat
  | addIndex x => (c.registers.i.toNat + (c.reg x).toNat) % 0x10000
  | setGlyph x => 0x50 + (c.reg x).toNat % 16
  | storeRegisters x | loadRegisters x => c.registers.i.toNat + x.val + 1
  | _ => c.registers.i.toNat

/-- The registers that an instruction may set. -/
def Sets : Instruction → Reg → Prop
  | setByte x _, k | addByte x _, k | random x _, k | readDelay x, k | awaitKey x, k => k = x
  | alu op x _, k => k = x ∨ op.SetsFlag ∧ k = Reg.flag
  | draw _ _ _, k => k = Reg.flag
  | loadRegisters x, k => k ≤ x
  | _, _ => False

/-- How many bytes from `I` on an instruction may write. -/
def stores : Instruction → Nat
  | storeDigits _ => 3
  | storeRegisters x => x.val + 1
  | _ => 0

/-- The delay timer after an instruction. -/
def nextDelay (c : Core) : Instruction → UInt8
  | setDelay x => c.reg x
  | _ => c.timers.delay

/-- The sound timer after an instruction. -/
def nextSound (c : Core) : Instruction → UInt8
  | setSound x => c.reg x
  | _ => c.timers.sound

/-- The conditional skips. -/
def IsSkip : Instruction → Prop
  | skipIfByte _ _ | skipUnlessByte _ _ | skipIfSame _ _ | skipUnlessSame _ _ | skipIfKey _
  | skipByKey _ => True
  | _ => False

/-- The random generator after an instruction. -/
def nextRandom (c : Core) : Instruction → Random.Generator
  | random _ _ => c.random.next
  | _ => c.random

/-- Whether the machine notes a wait for a key that the loop has not seen yet. -/
def nextSuspended (c : Core) : Instruction → Bool
  | awaitKey _ => true
  | _ => c.suspended

end Instruction

/-! ## Registers and memory -/

namespace Registers

/-- The flag register has the flag that was set. -/
theorem reg_setFlag (r : Registers) (on : Bool) : (r.setFlag on).reg Reg.flag = flagOf on :=
  r.reg_setReg_self Reg.flag _

/-- Setting the first registers leaves those after them alone. -/
theorem reg_setFirst_of_le (r : Registers) {bytes : List UInt8} {k : Reg}
    (h : bytes.length ≤ k.val) : (r.setFirst bytes).reg k = r.reg k := by
  simp only [setFirst, reg, Fin.getElem_fin, Vector.getElem_ofFn]
  rw [List.getD_eq_default _ _ h]

end Registers

/-- An operation leaves everything but the registers `V0` to `VF` alone. -/
theorem AluOp.apply_eq (op : AluOp) (x y : Reg) (r : Registers) :
    op.apply x y r = { r with v := (op.apply x y r).v } := by
  cases op <;> rfl

/-- An operation leaves the registers alone that are neither its result's nor, if it has a flag, the
flag register. -/
theorem AluOp.reg_apply_of_ne (op : AluOp) {x y k : Reg} (r : Registers) (hx : k ≠ x)
    (hf : op.SetsFlag → k ≠ Reg.flag) : (op.apply x y r).reg k = r.reg k := by
  cases op with
  | copy | or | and | xor => exact r.reg_setReg_of_ne _ hx
  | add | sub | subFrom =>
    rw [apply, Registers.setFlag, Registers.reg_setReg_of_ne _ _ (hf trivial),
      r.reg_setReg_of_ne _ hx]
  | shiftRight | shiftLeft =>
    rw [apply, Registers.reg_setReg_of_ne _ _ hx, Registers.setFlag,
      r.reg_setReg_of_ne _ (hf trivial)]

/-- Writing at an address leaves the bytes outside the range alone. -/
theorem Memory.cell_put_of_outside (m : Memory) {address : Address} {data : List UInt8} {k : Nat}
    (hs : Spans address data.length)
    (hk : ¬ (address.toNat ≤ base + k ∧ base + k < address.toNat + data.length)) :
    (m.put (address.toNat - base) data).cell k = m.cell k := by
  have hbase := hs.1
  rw [cell_put, if_neg (by omega)]

/-- The glyphs lie one after the other from `0x50` on. -/
theorem Glyphs.toNat_address (digit : UInt8) :
    (address digit).toNat = 0x50 + digit.toNat % 16 := by
  simp only [address, base, UInt16.toNat_ofNat']
  omega

/-! ## The effect of an instruction -/

namespace Core

variable {c c' : Core} {skipOnKeyUp : Bool}

/-- Two added to an address, in sixteen bits. -/
theorem toNat_add_two (a : Address) : (a + 2).toNat = (a.toNat + 2) % 0x10000 :=
  UInt16.toNat_add a 2

/-- What an instruction makes of a core. A part that an instruction does not touch is the same by
definition, so an instance gives the other parts only. -/
structure Effect (i : Instruction) (c c' : Core) : Prop where
  pc : c'.registers.pc.toNat = i.nextPc c % 0x10000 := by exact toNat_add_two _
  stack : c'.registers.stack = i.nextStack c := by rfl
  index : c'.registers.i.toNat = i.nextIndex c := by rfl
  register : ∀ k, ¬ i.Sets k → c'.reg k = c.reg k := by exact fun _ _ => rfl
  memory : ∀ k, ¬ (c.registers.i.toNat ≤ Memory.base + k ∧
      Memory.base + k < c.registers.i.toNat + i.stores) →
    c'.memory.cell k = c.memory.cell k := by exact fun _ _ => rfl
  delay : c'.timers.delay = i.nextDelay c := by rfl
  sound : c'.timers.sound = i.nextSound c := by rfl
  interval : c'.timers.interval = c.timers.interval := by rfl
  carried : c'.timers.carried = c.timers.carried := by rfl
  skips : c'.skips = c.skips ∨ i.IsSkip ∧ c'.skips = c.skips + 1 := by exact .inl rfl
  random : c'.random = i.nextRandom c := by rfl
  suspended : c'.suspended = i.nextSuspended c := by rfl

/-- Noting a skip only counts. -/
theorem skipIf_eq (condition : Bool) :
    c.skipIf condition = { c with skips := c.skips + condition.toNat } := by
  cases condition <;> rfl

/-- A jump with an offset wraps around at `0x1000`, so its sum does not have to fit. -/
theorem toNat_jumpOffset (base : Address) (v : UInt8) :
    ((base + v.toUInt16) % 0x1000).toNat = (base.toNat + v.toNat) % 0x1000 := by
  have h : (0x1000 : UInt16).toNat = 0x1000 := rfl
  rw [UInt16.toNat_mod, UInt16.toNat_add, UInt8.toNat_toUInt16, h]
  omega

/-- `I` moved past a range in memory has not wrapped around. -/
theorem toNat_passRegisters {x : Reg} (hs : Memory.Spans c.registers.i (x.val + 1)) :
    (c.passRegisters x).registers.i.toNat = c.registers.i.toNat + x.val + 1 := by
  have htop := hs.2
  unfold Memory.top at htop
  simp only [passRegisters, setIndex, UInt16.toNat_add, UInt16.toNat_ofNat']
  omega

section

-- A part that stays the same is compared by unfolding, which must not go on into the arrays.
attribute [local irreducible] Vector.ofFn Vector.set Memory.put

/-- A conditional skip only counts. -/
theorem skipIf_effect (i : Instruction) (hi : i.IsSkip) (condition : Bool) :
    Effect i c (c.skipIf condition).advance := by
  have hskips : c.skips + condition.toNat = c.skips ∨
      i.IsSkip ∧ c.skips + condition.toNat = c.skips + 1 := by
    cases condition
    · exact .inl rfl
    · exact .inr ⟨hi, rfl⟩
  rw [skipIf_eq]
  cases i with
  | skipIfByte | skipUnlessByte | skipIfSame | skipUnlessSame | skipIfKey | skipByKey =>
    exact { skips := hskips }
  | _ => exact hi.elim

/-- An instruction that is granted has the effect that the tables say. -/
theorem execute_effect {i : Instruction} (h : (c.execute skipOnKeyUp i).Yields c') :
    Effect i c c' := by
  cases i with
  | clear | setDelay x | setSound x | setIndex address =>
    -- The table has what the instruction puts there word for word.
    cases h
    exact {}
  | ret =>
    rw [execute_ret] at h
    split at h
    · exact h.elim
    · rename_i saved rest hs
      cases h
      have hpc : Instruction.ret.nextPc c = saved.toNat + 2 := by
        rw [Instruction.nextPc_ret, hs]
        rfl
      have hstack : Instruction.ret.nextStack c = rest := by
        rw [Instruction.nextStack_ret, hs]
        rfl
      exact { pc := hpc ▸ toNat_add_two saved, stack := hstack.symm }
  | jump target =>
    cases h
    exact { pc := (Nat.mod_eq_of_lt target.toNat_lt).symm }
  | call target =>
    rw [execute_call] at h
    split_ifs at h
    · cases h
      exact { pc := (Nat.mod_eq_of_lt target.toNat_lt).symm }
    · exact h.elim
  | jumpOffset base =>
    cases h
    have hpc := toNat_jumpOffset base (c.reg Reg.zero)
    exact { pc := hpc.trans (Nat.mod_eq_of_lt (by omega)).symm }
  | skipIfByte x b | skipUnlessByte x b | skipIfSame x y | skipUnlessSame x y =>
    cases h
    exact skipIf_effect _ (by trivial) _
  | skipIfKey x | skipByKey x =>
    obtain ⟨down, rfl⟩ := h
    exact skipIf_effect _ (by trivial) _
  | setByte x b | addByte x b | random x b | readDelay x =>
    cases h
    exact { register := fun k hk => c.registers.reg_setReg_of_ne _ hk }
  | awaitKey x =>
    obtain ⟨key, rfl⟩ := h
    exact { register := fun k hk => c.registers.reg_setReg_of_ne _ hk }
  | alu op x y =>
    cases h
    rw [op.apply_eq]
    exact { register := fun k hk => op.reg_apply_of_ne c.registers (fun hx => hk (.inl hx))
              fun hf hx => hk (.inr ⟨hf, hx⟩) }
  | draw x y height =>
    rw [execute_draw] at h
    split_ifs at h
    · obtain ⟨collided, rfl⟩ := h
      exact { register := fun k hk => c.registers.reg_setReg_of_ne _ hk }
    · exact h.elim
  | addIndex x =>
    -- Of the instructions that set `I`, this is the one whose sum may wrap around.
    cases h
    have hindex : (c.registers.i + (c.reg x).toUInt16).toNat =
        (c.registers.i.toNat + (c.reg x).toNat) % 0x10000 := by
      rw [UInt16.toNat_add, UInt8.toNat_toUInt16]
    exact { index := hindex }
  | setGlyph x =>
    cases h
    exact { index := Glyphs.toNat_address _ }
  | storeDigits x =>
    rw [execute_storeDigits] at h
    split_ifs at h with hs
    · cases h
      have hlen : (decimalDigits (c.reg x)).length = 3 := rfl
      exact { memory := fun k hk => c.memory.cell_put_of_outside (hlen ▸ hs) (hlen ▸ hk) }
    · exact h.elim
  | storeRegisters x =>
    rw [execute_storeRegisters] at h
    split_ifs at h with hs
    · cases h
      have hlen := c.registers.length_upTo x
      exact { memory := fun k hk => c.memory.cell_put_of_outside (hlen ▸ hs) (hlen ▸ hk)
              index := toNat_passRegisters hs }
    · exact h.elim
  | loadRegisters x =>
    rw [execute_loadRegisters] at h
    split_ifs at h with hs
    · cases h
      have hlen := c.memory.length_window (c.registers.i.toNat - Memory.base) (x.val + 1)
      exact { register := fun k hk => c.registers.reg_setFirst_of_le (by
                rw [hlen]
                exact Nat.lt_of_not_le hk)
              index := toNat_passRegisters hs }
    · exact h.elim

end

end Core

end Cosmac
