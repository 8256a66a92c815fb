import Cosmac.Proofs.Steps
import Mathlib.Data.Nat.Bitwise

/-!
# Calculating with registers

An instruction that calculates has a result, which goes to `VX`, and some have a flag besides, which
goes to the flag register. `AluOp.result` and `AluOp.flag` give both as numbers. As long as these are two
registers it does not matter which is written first. If `VX` is the flag register it does, and
`AluOp.merged` is what it is left with.

`Calculated` says all this of what the registers hold before and after. It is shown for the three orders
in which they can be written: a result alone (`Registers.calculated_setReg`), a result and then its
flag (`Registers.calculated_setFlag`), and a flag and then a result from what the register now holds
(`Registers.calculated_setReg_setFlag`). Which of them an operation takes, and that its bytes are the
numbers of the tables, is all that remains to be said of it (`AluOp.calculated`).
-/

namespace Cosmac

/-! ## The operations on numbers -/

namespace AluOp

/-- What an operation makes of the numbers in `VX` and `VY`. -/
def result : AluOp → Nat → Nat → Nat
  | copy, _, b => b
  | or, a, b => a ||| b
  | and, a, b => a &&& b
  | xor, a, b => a ^^^ b
  | add, a, b => (a + b) % 256
  | sub, a, b => (256 + a - b) % 256
  | subFrom, a, b => (256 + b - a) % 256
  | shiftRight, a, _ => a / 2
  | shiftLeft, a, _ => 2 * a % 256

/-- The flag of an operation, if it has one: whether the sum is too large for a byte, whether the number
that is taken away is the smaller one, or the bit that is shifted out. -/
def flag : AluOp → Nat → Nat → Option Nat
  | add, a, b => some (if 255 < a + b then 1 else 0)
  | sub, a, b => some (if b < a then 1 else 0)
  | subFrom, a, b => some (if a < b then 1 else 0)
  | shiftRight, a, _ => some (a % 2)
  | shiftLeft, a, _ => some (a / 128)
  | copy, _, _ | or, _, _ | and, _, _ | xor, _, _ => none

/-- What the flag register is left with if it is `VX` as well. A flag takes the place of the result,
except that the shifts go on to shift it. -/
def merged : AluOp → Nat → Nat → Nat
  | shiftRight, _, _ => 0
  | shiftLeft, a, _ => 2 * (a / 128)
  | op, a, b => (op.flag a b).getD (op.result a b)

end AluOp

/-! ## Writing the registers -/

/-- A calculation for register `x` has been carried out: the register has the result, the flag register
has the flag if there is one, or what is left of the two if it is `x` itself, and all other registers
hold what they did. -/
structure Calculated (x : Reg) (result : Nat) (flag : Option Nat) (merged : Nat)
    (before after : Reg → UInt8) : Prop where
  target : x ≠ Reg.flag → (after x).toNat = result
  flagged : x ≠ Reg.flag → ∀ f ∈ flag, (after Reg.flag).toNat = f
  shared : x = Reg.flag → (after Reg.flag).toNat = merged
  others : ∀ k, k ≠ x → (k = Reg.flag → flag = none) → after k = before k

namespace Registers

variable (r : Registers) (x : Reg)

/-- A flag as a number. -/
theorem toNat_flagOf (on : Bool) : (flagOf on).toNat = on.toNat := by
  cases on <;> rfl

/-- A register that is set has the result, also if it is the flag register. -/
theorem calculated_setReg (value : UInt8) :
    Calculated x value.toNat none value.toNat r.reg (r.setReg x value).reg where
  target _ := congrArg UInt8.toNat (r.reg_setReg_self x value)
  flagged _ _ hf := nomatch hf
  shared hx := by rw [← hx, r.reg_setReg_self]
  others _ hk _ := r.reg_setReg_of_ne value hk

/-- A flag that is set after the result takes its place in the flag register. -/
theorem calculated_setFlag (value : UInt8) (on : Bool) :
    Calculated x value.toNat (some on.toNat) on.toNat r.reg ((r.setReg x value).setFlag on).reg where
  target hx := by rw [setFlag, reg_setReg_of_ne _ _ hx, r.reg_setReg_self]
  flagged _ f hf := by rw [reg_setFlag, toNat_flagOf, Option.mem_some_iff.1 hf]
  shared _ := by rw [reg_setFlag, toNat_flagOf]
  others k hk hflag := by
    have hne : k ≠ Reg.flag := fun h => Option.some_ne_none _ (hflag h)
    rw [setFlag, reg_setReg_of_ne _ _ hne, r.reg_setReg_of_ne _ hk]

/-- If the flag is set before the result, the result is calculated from it in the flag register. -/
theorem calculated_setReg_setFlag (calculate : UInt8 → UInt8) (on : Bool) :
    Calculated x (calculate (r.reg x)).toNat (some on.toNat) (calculate (flagOf on)).toNat r.reg
      ((r.setFlag on).setReg x (calculate ((r.setFlag on).reg x))).reg where
  target hx := by rw [reg_setReg_self, setFlag, reg_setReg_of_ne _ _ hx]
  flagged hx f hf := by
    rw [reg_setReg_of_ne _ _ hx.symm, reg_setFlag, toNat_flagOf, Option.mem_some_iff.1 hf]
  shared hx := by rw [hx, reg_setReg_self, reg_setFlag]
  others k hk hflag := by
    have hne : k ≠ Reg.flag := fun h => Option.some_ne_none _ (hflag h)
    rw [reg_setReg_of_ne _ _ hk, setFlag, reg_setReg_of_ne _ _ hne]

end Registers

/-! ## The operations on bytes -/

namespace AluOp

variable (a b : UInt8)

/-- The flag for a condition is one or zero. -/
theorem toNat_decide (p : Prop) [Decidable p] : (decide p).toNat = if p then 1 else 0 := by
  split <;> simp [*]

theorem toNat_sub_byte : (a - b).toNat = (256 + a.toNat - b.toNat) % 256 := by
  have := b.toNat_lt
  rw [UInt8.toNat_sub]
  omega

theorem toNat_shiftRight_byte : (a >>> 1).toNat = a.toNat / 2 := by
  rw [UInt8.toNat_shiftRight, Nat.shiftRight_eq_div_pow]
  rfl

theorem toNat_shiftLeft_byte : (a <<< 1).toNat = 2 * a.toNat % 256 := by
  rw [UInt8.toNat_shiftLeft, Nat.shiftLeft_eq, Nat.mul_comm]
  rfl

/-- A byte is set if its number is. -/
theorem bne_zero_eq : (a != 0) = decide (a.toNat ≠ 0) := by
  rw [Bool.eq_iff_iff, bne_iff_ne, decide_eq_true_iff, ne_eq, ne_eq, ← UInt8.toNat_inj]
  rfl

/-- The lowest bit of a byte is what is left over when it is halved. -/
theorem toNat_lowBit : (a &&& 1 != 0).toNat = a.toNat % 2 := by
  have hbit : (a &&& 1).toNat = a.toNat % 2 := (UInt8.toNat_and a 1).trans (Nat.and_one_is_mod _)
  rw [bne_zero_eq, hbit, toNat_decide]
  split <;> omega

/-- The highest bit of a byte says whether it is 128 or more. -/
theorem toNat_highBit : (a &&& 0x80 != 0).toNat = a.toNat / 128 := by
  have hlt := a.toNat_lt
  have hbit : (a &&& 0x80).toNat = (a.toNat.testBit 7).toNat * 128 :=
    (UInt8.toNat_and a 0x80).trans (Nat.and_two_pow _ 7)
  have htest : (a &&& 0x80 != 0) = a.toNat.testBit 7 := by
    rw [bne_zero_eq, hbit]
    cases a.toNat.testBit 7 <;> rfl
  rw [htest, Nat.toNat_testBit]
  omega

open Registers in
/-- An operation calculates what the tables say. -/
theorem calculated (op : AluOp) (x y : Reg) (r : Registers) :
    Calculated x (op.result (r.reg x).toNat (r.reg y).toNat)
      (op.flag (r.reg x).toNat (r.reg y).toNat) (op.merged (r.reg x).toNat (r.reg y).toNat) r.reg
      (op.apply x y r).reg := by
  cases op with
  | copy => exact r.calculated_setReg x (r.reg y)
  | or =>
    have h := r.calculated_setReg x (r.reg x ||| r.reg y)
    rwa [UInt8.toNat_or] at h
  | and =>
    have h := r.calculated_setReg x (r.reg x &&& r.reg y)
    rwa [UInt8.toNat_and] at h
  | xor =>
    have h := r.calculated_setReg x (r.reg x ^^^ r.reg y)
    rwa [UInt8.toNat_xor] at h
  | add =>
    have h := r.calculated_setFlag x (r.reg x + r.reg y)
      (255 < (r.reg x).toNat + (r.reg y).toNat)
    rwa [UInt8.toNat_add, toNat_decide] at h
  | sub =>
    have h := r.calculated_setFlag x (r.reg x - r.reg y) (r.reg y < r.reg x)
    rwa [toNat_sub_byte, toNat_decide] at h
  | subFrom =>
    have h := r.calculated_setFlag x (r.reg y - r.reg x) (r.reg x < r.reg y)
    rwa [toNat_sub_byte, toNat_decide] at h
  | shiftRight =>
    have h := r.calculated_setReg_setFlag x (· >>> 1) (r.reg x &&& 1 != 0)
    have hmerged : (flagOf (r.reg x &&& 1 != 0) >>> 1).toNat = 0 := by
      cases r.reg x &&& 1 != 0 <;> rfl
    rwa [hmerged, toNat_shiftRight_byte, toNat_lowBit] at h
  | shiftLeft =>
    have h := r.calculated_setReg_setFlag x (· <<< 1) (r.reg x &&& 0x80 != 0)
    have hmerged : (flagOf (r.reg x &&& 0x80 != 0) <<< 1).toNat = 2 * ((r.reg x).toNat / 128) := by
      rw [← toNat_highBit]
      cases r.reg x &&& 0x80 != 0 <;> rfl
    rwa [hmerged, toNat_shiftLeft_byte, toNat_highBit] at h

end AluOp

namespace Machine

variable {D K B : Type} [Display D] [Keypad K] {m : Machine D K B} {x : Reg}

/-- A cycle that comes to a calculation carries it out, whatever the registers hold, and also if they are
all the same one. An operation on two registers has its result, its flag, and what is left of both in
the flag register, by the tables; the shifts do so whatever the second register is. A byte is added
without a flag. -/
theorem cycle_calculates :
    (∀ op y, m.core.ComesTo (.alu op x y) → m.cycle.1 = .ok () ∧
      let a := (m.core.reg x).toNat
      let b := (m.core.reg y).toNat
      Calculated x (op.result a b) (op.flag a b) (op.merged a b) m.core.reg m.cycle.2.core.reg) ∧
    (∀ byte, m.core.ComesTo (.addByte x byte) → m.cycle.1 = .ok () ∧
      let sum := ((m.core.reg x).toNat + byte.toNat) % 256
      Calculated x sum none sum m.core.reg m.cycle.2.core.reg) := by
  refine ⟨fun op y hcomes => ?_, fun byte hcomes => ?_⟩
  · have hok : m.cycle.1 = .ok () := outcome_of_comesTo hcomes
    have hcore : m.cycle.2.core =
        { m.core with registers := op.apply x y m.core.registers }.advance :=
      m.cycle_yields hcomes.skips hcomes.canFetch hcomes.encodes hok
    rw [hcore]
    exact ⟨hok, op.calculated x y m.core.registers⟩
  · have hok : m.cycle.1 = .ok () := outcome_of_comesTo hcomes
    have hcore : m.cycle.2.core = (m.core.setReg x (m.core.reg x + byte)).advance :=
      m.cycle_yields hcomes.skips hcomes.canFetch hcomes.encodes hok
    have hadded := m.core.registers.calculated_setReg x (m.core.reg x + byte)
    rw [UInt8.toNat_add] at hadded
    rw [hcore]
    exact ⟨hok, hadded⟩

/-- A machine that is about to shift the flag register, which holds 200, and then to add 255 to it. -/
def shifting : Machine Headless Scripted Silent :=
  headless.performAll [.load [0x6f, 0xc8, 0x8f, 0x0e, 0x7f, 0xff], .cycle]

/-- The flag register takes the bit that is shifted out, which is shifted itself, and the sum wraps
around. -/
theorem cycle_calculates_shifting :
    let after := shifting.cycle.2
    shifting.core.ComesTo (.alu .shiftLeft Reg.flag Reg.zero) ∧
      shifting.core.reg Reg.flag = 200 ∧ shifting.cycle.1 = .ok () ∧
      (after.core.reg Reg.flag).toNat = 2 ∧ after.core.ComesTo (.addByte Reg.flag 0xff) ∧
      after.cycle.1 = .ok () ∧ (after.cycle.2.core.reg Reg.flag).toNat = 1 := by
  intro after
  obtain ⟨hskips, hfetch, hword, hholds⟩ : shifting.core.skips = 0 ∧ shifting.core.CanFetch ∧
      shifting.core.word = 0x8f0e ∧ shifting.core.reg Reg.flag = 200 := by decide +kernel
  obtain ⟨hskips', hfetch', hword'⟩ : after.core.skips = 0 ∧ after.core.CanFetch ∧
      after.core.word = 0x7fff := by decide +kernel
  have hshift : shifting.core.ComesTo (.alu .shiftLeft Reg.flag Reg.zero) := by
    refine ⟨hskips, hfetch, ?_⟩
    rw [hword]
    rfl
  have hadd : after.core.ComesTo (.addByte Reg.flag 0xff) := by
    refine ⟨hskips', hfetch', ?_⟩
    rw [hword']
    rfl
  obtain ⟨hoperates, -⟩ := cycle_calculates (m := shifting) (x := Reg.flag)
  obtain ⟨hok, hshifted⟩ := hoperates _ _ hshift
  have htwo : (after.core.reg Reg.flag).toNat = 2 :=
    (hshifted.shared rfl).trans (by rw [hholds]; rfl)
  obtain ⟨-, hadds⟩ := cycle_calculates (m := after) (x := Reg.flag)
  obtain ⟨hok', hadded⟩ := hadds _ hadd
  have hone : (after.cycle.2.core.reg Reg.flag).toNat = 1 :=
    (hadded.shared rfl).trans (by rw [htwo]; rfl)
  exact ⟨hshift, hholds, hok, htwo, hadd, hok', hone⟩

end Machine

end Cosmac
