import Cosmac.Keyboard
import Cosmac.Proofs.Steps

/-!
# Skipping one instruction

A conditional skip takes two cycles. The first one moves past the skip itself and notes that one
instruction is to be stepped over, and the second one moves past that instruction without looking at it.
`Machine.movedTo` is all that such a cycle does, so the two equations of `skip_bypasses_one` say at once
where the machine goes on and that everything else stays.

What can happen between the two cycles, such as a tick or the loading of another program, leaves the
program counter and the note alone (`steps_pause`), so the second cycle goes the same way.
-/

namespace Cosmac

/-- A keypad has sixteen keys: none above them is ever down. -/
def Keypad.HasSixteenKeys (K : Type) [Keypad K] : Prop :=
  ∀ (k : K) (key : UInt8), 16 ≤ key.toNat → Keypad.isDown k key = false

/-- A scripted keypad has sixteen keys. -/
theorem Scripted.hasSixteenKeys : Keypad.HasSixteenKeys Scripted := fun k key hkey => by
  have hnone : k.down[key.toNat]? = none := Vector.getElem?_eq_none hkey
  change k.down[key.toNat]?.getD false = false
  rw [hnone]
  rfl

/-- A keyboard is used for sixteen keys. -/
theorem Keyboard.hasSixteenKeys : Keypad.HasSixteenKeys Keyboard := fun k key hkey => by
  have hnone : k.lastPressed[key.toNat]? = none := Vector.getElem?_eq_none hkey
  change k.isDown key = false
  rw [Keyboard.isDown, hnone]
  rfl

namespace Machine

variable {D K B : Type}

/-- The machine after a cycle that goes on at an address with so many instructions to step over, gives a
notice, and does nothing else. -/
def movedTo (m : Machine D K B) (pc : Address) (skips : Nat) (notice : Notice) : Machine D K B :=
  { m with
    core := { m.core with registers := { m.core.registers with pc := pc }, skips := skips }
    cycles := m.cycles + 1
    log := notice :: m.log }

/-- The first cycle of a skip does nothing but move past it and note a skip if there is to be one. -/
theorem fetched_skipIf {m : Machine D K B} (hskips : m.core.skips = 0) (condition : Bool) :
    { m.fetched with core := (m.core.skipIf condition).advance } =
      m.movedTo (m.core.registers.pc + 2) condition.toNat
        (.fetched m.core.registers.pc m.core.word) := by
  rw [Core.skipIf_eq, hskips, Nat.zero_add]
  rfl

variable [Display D] [Keypad K] {m : Machine D K B} {i : Instruction}

/-- The condition of a conditional skip. -/
def SkipHolds (m : Machine D K B) : Instruction → Prop
  | .skipIfByte x byte => m.core.reg x = byte
  | .skipUnlessByte x byte => m.core.reg x ≠ byte
  | .skipIfSame x y => m.core.reg x = m.core.reg y
  | .skipUnlessSame x y => m.core.reg x ≠ m.core.reg y
  | .skipIfKey x => Keypad.isDown m.keypad (m.core.reg x) = true
  | .skipByKey x => Keypad.isDown m.keypad (m.core.reg x) = !m.config.skipOnKeyUp
  | _ => False

/-! ## The two cycles -/

/-- A cycle that comes to a skip moves past it and notes a skip if the condition holds. -/
theorem cycle_of_isSkip (h : m.core.ComesTo i) (hi : i.IsSkip) :
    ∃ condition : Bool, (condition = true ↔ m.SkipHolds i) ∧
      m.cycle = (.ok (), { m.fetched with core := (m.core.skipIf condition).advance }) := by
  cases i with
  | skipIfByte x byte => exact ⟨m.core.reg x == byte, beq_iff_eq, cycle_of_done h rfl⟩
  | skipUnlessByte x byte => exact ⟨m.core.reg x != byte, bne_iff_ne, cycle_of_done h rfl⟩
  | skipIfSame x y => exact ⟨m.core.reg x == m.core.reg y, beq_iff_eq, cycle_of_done h rfl⟩
  | skipUnlessSame x y => exact ⟨m.core.reg x != m.core.reg y, bne_iff_ne, cycle_of_done h rfl⟩
  | skipIfKey x => exact ⟨Keypad.isDown m.keypad (m.core.reg x), Iff.rfl, cycle_of_sense h rfl⟩
  | skipByKey x =>
    refine ⟨Keypad.isDown m.keypad (m.core.reg x) != m.config.skipOnKeyUp, ?_, cycle_of_sense h rfl⟩
    rw [SkipHolds]
    cases Keypad.isDown m.keypad (m.core.reg x) <;> cases m.config.skipOnKeyUp <;> decide
  | _ => exact hi.elim

/-- The second cycle of a skip does nothing but move past the instruction. -/
theorem cycle_of_skips_eq_one (hskips : m.core.skips = 1) :
    m.cycle = (.ok (), m.movedTo (m.core.registers.pc + 2) 0 (.skipped m.core.registers.pc)) := by
  rw [m.cycle_of_skips (by omega), Core.stepOver, hskips]
  rfl

/-- A pause between two cycles leaves the registers and the noted skips alone. -/
theorem steps_pause [Buzzer B] (m : Machine D K B) {pause : List (Step D K B)}
    (h : ∀ s ∈ pause, s ≠ .cycle) :
    (m.steps pause).core.registers = m.core.registers ∧
      (m.steps pause).core.skips = m.core.skips := by
  induction pause generalizing m with
  | nil => exact ⟨rfl, rfl⟩
  | cons s pause ih =>
    -- The first step of the pause changes memory and timers at most.
    obtain ⟨memory, hcore⟩ := m.core_step (h s List.mem_cons_self)
    obtain ⟨hregisters, hskips⟩ := ih (m.step s) fun s' hs' => h s' (List.mem_cons_of_mem s hs')
    rw [steps_cons, hregisters, hskips, hcore]
    exact ⟨rfl, rfl⟩

/-- A conditional skip whose condition holds bypasses one instruction. The cycle that comes to it moves two
bytes on and notes the skip. The next cycle succeeds and moves two bytes on again, whatever is there, also
if nothing is there because memory has ended, and whatever went on between the two cycles. If the
condition does not hold, the first cycle moves on and that is all. The program counter does not wrap around
in this. A key above the sixteen of a keypad counts as one that is up. -/
theorem skip_bypasses_one [Buzzer B] (h : m.core.ComesTo i) (hi : i.IsSkip) :
    let p := m.core.registers.pc
    (p + 2).toNat = p.toNat + 2 ∧ (p + 4).toNat = p.toNat + 4 ∧
    (m.SkipHolds i →
      m.cycle = (.ok (), m.movedTo (p + 2) 1 (.fetched p m.core.word)) ∧
      ∀ pause : List (Step D K B), (∀ s ∈ pause, s ≠ .cycle) →
        (m.cycle.2.steps pause).cycle =
          (.ok (), (m.cycle.2.steps pause).movedTo (p + 4) 0 (.skipped (p + 2)))) ∧
    (¬ m.SkipHolds i → m.cycle = (.ok (), m.movedTo (p + 2) 0 (.fetched p m.core.word))) ∧
    (Keypad.HasSixteenKeys K → ∀ x, 16 ≤ (m.core.reg x).toNat →
      ¬ m.SkipHolds (.skipIfKey x) ∧
      (m.SkipHolds (.skipByKey x) ↔ m.config.skipOnKeyUp = true)) ∧
    Keypad.HasSixteenKeys Scripted ∧ Keypad.HasSixteenKeys Keyboard := by
  intro p
  have htop : p.toNat + 2 ≤ 0x1000 := h.canFetch.2
  have htwo : (p + 2).toNat = (p.toNat + 2) % 0x10000 := UInt16.toNat_add p 2
  have hfour : (p + 4).toNat = (p.toNat + 4) % 0x10000 := UInt16.toNat_add p 4
  obtain ⟨condition, hcondition, hcycle⟩ := cycle_of_isSkip h hi
  rw [fetched_skipIf h.skips] at hcycle
  refine ⟨by omega, by omega, fun hholds => ?_, fun hholds => ?_, fun hkeys x hx => ?_,
    Scripted.hasSixteenKeys, Keyboard.hasSixteenKeys⟩
  · rw [hcondition.2 hholds] at hcycle
    refine ⟨hcycle, fun pause hpause => ?_⟩
    -- What the first cycle left in the program counter and the note is still there after the pause.
    obtain ⟨hregisters, hskips⟩ := m.cycle.2.steps_pause hpause
    have hpc : (m.cycle.2.steps pause).core.registers.pc = p + 2 := by
      rw [hregisters, hcycle]
      rfl
    have hnoted : (m.cycle.2.steps pause).core.skips = 1 := by
      rw [hskips, hcycle]
      rfl
    rw [cycle_of_skips_eq_one hnoted, hpc, UInt16.add_assoc]
    rfl
  · rw [Bool.eq_false_iff.2 fun hc => hholds (hcondition.1 hc)] at hcycle
    exact hcycle
  · have hup : Keypad.isDown m.keypad (m.core.reg x) = false := hkeys m.keypad _ hx
    rw [SkipHolds, SkipHolds, hup]
    cases m.config.skipOnKeyUp <;> decide

/-- A machine on the last word of memory, which is a skip on a key that is up. The key is one of those that
a keypad does not have. -/
def skipping : Machine Headless Scripted Silent :=
  { headless with config := { headless.config with skipOnKeyUp := true } }.performAll
    [.load [0x60, 0xe0, 0x61, 0xa1, 0xaf, 0xfe, 0xf1, 0x55, 0x1f, 0xfe],
      .cycle, .cycle, .cycle, .cycle, .cycle]

/-- What is skipped at the end of memory lies outside, and a tick and another program come before it. -/
theorem skip_bypasses_one_at_end :
    skipping.core.ComesTo (.skipByKey Reg.zero) ∧ Instruction.IsSkip (.skipByKey Reg.zero) ∧
    skipping.SkipHolds (.skipByKey Reg.zero) ∧
    skipping.cycle.1 = .ok () ∧ skipping.cycle.2.core.registers.pc = 0x1000 ∧
    let met := skipping.cycle.2.steps [.tick 20000000, .load [0x12, 0x00]]
    met.cycle.1 = .ok () ∧ met.cycle.2.core.registers.pc = 0x1002 ∧ met.cycle.2.core.skips = 0 ∧
      met.cycle.2.core.memory = met.core.memory := by
  obtain ⟨hword, hpc, hkey, hconfig⟩ :
      (skipping.core.skips = 0 ∧ skipping.core.CanFetch ∧ skipping.core.word = 0xe0a1) ∧
      skipping.core.registers.pc = 0xffe ∧ 16 ≤ (skipping.core.reg Reg.zero).toNat ∧
      skipping.config.skipOnKeyUp = true := by decide +kernel
  have hcomes : skipping.core.ComesTo (.skipByKey Reg.zero) := Core.comesTo_of_word hword rfl
  obtain ⟨-, -, hskips, -, hkeys, hscripted, -⟩ := skip_bypasses_one hcomes trivial
  have hholds : skipping.SkipHolds (.skipByKey Reg.zero) := (hkeys hscripted Reg.zero hkey).2.2 hconfig
  obtain ⟨hfirst, hsecond⟩ := hskips hholds
  have hmet := hsecond [.tick 20000000, .load [0x12, 0x00]] (by simp)
  refine ⟨hcomes, trivial, hholds, ?_, ?_, ?_, ?_, ?_, ?_⟩
  · rw [hfirst]
  · rw [hfirst, hpc]
    rfl
  · rw [hmet]
  · rw [hmet, hpc]
    rfl
  · rw [hmet]
    rfl
  · rw [hmet]
    rfl

end Machine

end Cosmac
