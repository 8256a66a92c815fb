import Cosmac.Proofs.Footprint
import Cosmac.Proofs.Run
import Cosmac.Proofs.Timers

/-!
# Bounds that always hold

`Core.Bounded` bounds the program counter of every machine that can be reached. The bound would not
be kept by itself: a return goes on two bytes after an address of the stack, and stepping over an
instruction goes on two bytes after wherever the machine stands. So it is joined to a bound on every
saved address and to a sharper bound while a skip is pending, and it is these together that each
change of a core keeps (`Bounded.change`).

What follows is that the sixteen bits of a program counter are enough: `reached_bounded` gives the
bounds for all reached machines, and with them the sums that are made of addresses without a wrap.
-/

namespace Cosmac

namespace Core

/-- The bounds on a core. -/
structure Bounded (c : Core) : Prop where
  skips : c.skips ≤ 1
  depth : c.registers.stack.length ≤ 16
  saved : ∀ a ∈ c.registers.stack, 0x200 ≤ a.toNat ∧ a.toNat ≤ 0xffe
  pc : c.registers.pc.toNat ≤ 0x1002
  skipping : 0 < c.skips → 0x202 ≤ c.registers.pc.toNat ∧ c.registers.pc.toNat ≤ 0x1000
  size : c.memory.bytes.toList.length = 3584
  carried : c.timers.carried < c.timers.interval

variable {c c' : Core} {skipOnKeyUp : Bool}

/-- A fresh core is within bounds. -/
theorem bounded_fresh (config : Config) (entropy : Random.Key) :
    (fresh config entropy).Bounded where
  skips := Nat.zero_le 1
  depth := Nat.zero_le 16
  saved a ha := nomatch ha
  pc := show programStart.toNat ≤ 0x1002 by decide
  skipping h := nomatch h
  size := Vector.length_toList
  carried := (Timers.ofRate config.timerRate).interval_pos

namespace Bounded

/-! ## Executing an instruction -/

/-- A call that is granted found room on the stack, and no other instruction makes it deeper. -/
theorem length_nextStack_le {i : Instruction} (hb : c.Bounded)
    (h : (c.execute skipOnKeyUp i).Yields c') :
    (i.nextStack c).length ≤ 16 := by
  have hdepth := hb.depth
  cases i with
  | call target =>
    rw [execute_call] at h
    split_ifs at h with hroom
    · exact hroom
    · exact h.elim
  | ret =>
    rw [Instruction.nextStack_ret, List.length_tail]
    omega
  | _ => exact hdepth

section

variable {i : Instruction} (hb : c.Bounded) (hf : c.CanFetch)

include hb hf

/-- An instruction goes on within memory or at its end. -/
theorem nextPc_le (hi : i.Encodes c.word) : i.nextPc c ≤ 0x1000 := by
  have htop : c.registers.pc.toNat + 2 ≤ 0x1000 := hf.2
  cases i with
  | jump target | call target =>
    have htarget : target.toNat < 0x1000 := hi.2
    exact Nat.le_of_lt htarget
  | jumpOffset base =>
    have hwrapped : (base.toNat + (c.reg Reg.zero).toNat) % 0x1000 < 0x1000 :=
      Nat.mod_lt _ (by decide)
    exact Nat.le_of_lt hwrapped
  | ret =>
    have hsaved := hb.saved
    rw [Instruction.nextPc_ret]
    generalize c.registers.stack = stack at hsaved ⊢
    -- A return with nothing to return to is never granted, and the table stays where it is.
    rcases stack with _ | ⟨saved, rest⟩
    · exact Nat.le_of_succ_le (Nat.le_of_succ_le htop)
    · exact Nat.add_le_add_right (hsaved saved List.mem_cons_self).2 2
  | _ => exact htop

/-- A granted instruction goes on just where the table says, with nothing cut off. -/
theorem pc_eq (hi : i.Encodes c.word) (he : Effect i c c') :
    c'.registers.pc.toNat = i.nextPc c := by
  have hle := hb.nextPc_le hf hi
  rw [he.pc, Nat.mod_eq_of_lt (by omega)]

/-- The addresses on the stack are those of calls. -/
theorem saved_nextStack : ∀ a ∈ i.nextStack c, 0x200 ≤ a.toNat ∧ a.toNat ≤ 0xffe := by
  have hsaved := hb.saved
  cases i with
  | call target =>
    -- The address that a call saves is its own, and a word was fetched there.
    have hbase : 0x200 ≤ c.registers.pc.toNat := hf.1
    have htop : c.registers.pc.toNat + 2 ≤ 0x1000 := hf.2
    intro a ha
    rcases List.mem_cons.1 ha with rfl | ha
    · omega
    · exact hsaved a ha
  | ret => exact fun a ha => hsaved a (List.mem_of_mem_tail ha)
  | _ => exact hsaved

/-- A granted instruction keeps the bounds. -/
theorem execute (hs : c.skips = 0) (hi : i.Encodes c.word)
    (h : (c.execute skipOnKeyUp i).Yields c') : c'.Bounded := by
  have he := execute_effect h
  have hpc := hb.pc_eq hf hi he
  have hle := hb.nextPc_le hf hi
  refine { skips := ?_, depth := ?_, saved := ?_, pc := ?_, skipping := ?_,
           size := Vector.length_toList, carried := ?_ }
  · rcases he.skips with hsame | ⟨-, hmore⟩
    · omega
    · omega
  · rw [he.stack]
    exact hb.length_nextStack_le h
  · rw [he.stack]
    exact hb.saved_nextStack hf
  · omega
  · -- A skip is noted by a conditional skip alone, and that goes on at the next instruction.
    intro hpending
    rcases he.skips with hsame | ⟨hskip, -⟩
    · omega
    · have hbase : 0x200 ≤ c.registers.pc.toNat := hf.1
      have hnext : i.nextPc c = c.registers.pc.toNat + 2 := by
        cases i with
        | skipIfByte | skipUnlessByte | skipIfSame | skipUnlessSame | skipIfKey | skipByKey => rfl
        | _ => exact hskip.elim
      omega
  · rw [he.carried, he.interval]
    exact hb.carried

end

/-! ## Every change -/

/-- Stepping over an instruction goes on two bytes later. -/
theorem pc_stepOver (hb : c.Bounded) (hs : 0 < c.skips) :
    c.stepOver.registers.pc.toNat = c.registers.pc.toNat + 2 := by
  have hle := (hb.skipping hs).2
  have hadd : c.stepOver.registers.pc.toNat = (c.registers.pc.toNat + 2) % 0x10000 :=
    toNat_add_two _
  rw [hadd, Nat.mod_eq_of_lt (by omega)]

/-- Every change keeps the bounds. -/
theorem change (hb : c.Bounded) (h : Change skipOnKeyUp c c') : c'.Bounded := by
  cases h with
  | load image => exact { hb with size := Vector.length_toList }
  | stepOver hs =>
    have hone := hb.skips
    have hpc := hb.pc_stepOver hs
    have hle := (hb.skipping hs).2
    have hnone : c.stepOver.skips = c.skips - 1 := rfl
    exact { hb with skips := by omega, pc := by omega, skipping := fun hpending => by omega }
  | execute i hs hf hi h => exact hb.execute hf hs hi h
  | advance elapsed => exact { hb with carried := c.timers.carried_advance_lt elapsed }
  | resume => exact { hb with carried := c.timers.interval_pos }

/-- Any number of changes keep the bounds. -/
theorem changes (hb : c.Bounded) (h : Relation.ReflTransGen (Change skipOnKeyUp) c c') :
    c'.Bounded := by
  induction h with
  | refl => exact hb
  | tail _ hlast ih => exact ih.change hlast

end Bounded

end Core

namespace Machine

variable {D K B : Type} [Display D] [Keypad K] [Buzzer B] {m : Machine D K B}

/-- A machine that was reached is within bounds. -/
theorem Reached.bounded (h : m.Reached) : m.core.Bounded := by
  obtain ⟨entropy, hchanges⟩ := h.changes
  exact (Core.bounded_fresh m.config entropy).changes hchanges

/-- The bounds hold of every machine that was reached, and no sum of addresses wraps around there:
not the step over an instruction, not the step to the next one after an instruction or a return, and
not the sum of a jump with an offset. A cycle never leaves more than one skip pending. -/
theorem reached_bounded (h : m.Reached) :
    m.core.Bounded ∧
    (0 < m.core.skips →
      m.cycle.2.core.registers.pc.toNat = m.core.registers.pc.toNat + 2) ∧
    (m.core.skips = 0 → m.cycle.1 = .ok () → ∃ i : Instruction, i.Encodes m.core.word ∧
      m.cycle.2.core.registers.pc.toNat = i.nextPc m.core ∧ i.nextPc m.core ≤ 0x1000) ∧
    m.cycle.2.core.skips ≤ 1 ∧
    ∀ base : Address, (Instruction.jumpOffset base).Encodes m.core.word →
      base.toNat + (m.core.reg Reg.zero).toNat < 0x10000 := by
  have hb := h.bounded
  refine ⟨hb, fun hs => ?_, fun hs hok => ?_, ?_, fun base hi => ?_⟩
  · rw [m.cycle_of_skips hs]
    exact hb.pc_stepOver hs
  · obtain ⟨hf, i, hi⟩ := m.exists_encodes_of_cycle_ok hs hok
    have hfoot := m.cycle_footprint hs hf hi hok
    exact ⟨i, hi, hb.pc_eq hf hi hfoot.core, hb.nextPc_le hf hi⟩
  · exact (hb.changes m.cycle_follows.core).skips
  · have hbase : base.toNat < 0x1000 := hi.2
    have hbyte := (m.core.reg Reg.zero).toNat_lt
    omega

/-- A machine whose program does nothing but call itself, after one call more than the stack has room
for. -/
def overcalled : Machine Headless Scripted Silent :=
  let booted : Machine Headless Scripted Silent :=
    { config := { seed := some 1 }
      core := Core.fresh { seed := some 1 } (Vector.replicate 8 0)
      display := (({} : Headless).setExtents 64 32).clear
      keypad := {}
      buzzer := {} }
  booted.performAll (.load [0x22, 0x00] :: List.replicate 17 .cycle)

/-- The call too many left the machine within its bounds, with the stack full. -/
theorem reached_overcalled :
    overcalled.Reached ∧ overcalled.core.Bounded ∧ overcalled.core.registers.stack.length = 16 := by
  have hreached : overcalled.Reached := ⟨_, _, {}, _, _, _, _, rfl, rfl⟩
  exact ⟨hreached, (reached_bounded hreached).1, by decide +kernel⟩

end Machine

end Cosmac
