import Cosmac.Proofs.Request
import Mathlib.Tactic.SplitIfs

/-!
# Where an instruction may fail

An access to program memory asks for a range of bytes, and `Memory.Spans` says that the range lies
in memory. Then the access does what it is for, and otherwise it fails and names the first address
that is outside (`offset_of_not_spans`). Sprite data may also come from the font, where the rows have
to lie before its end: `Memory.HasSprite` is the condition for both.

Six instructions can fail by themselves: a return, a call, a draw, and the three that access memory
at `I`. For each of them an equation says under which condition it goes on and with which core, and
which fault it meets otherwise (`Core.execute_ret` and the equations after it). `Core.word` is the
word that is fetched, for a program counter that stands on two bytes of memory.
-/

namespace Cosmac

namespace Memory

/-- The `n` bytes at an address lie in program memory. -/
def Spans (address : Address) (n : Nat) : Prop :=
  base ≤ address.toNat ∧ address.toNat + n ≤ top

instance (address : Address) (n : Nat) : Decidable (Spans address n) :=
  inferInstanceAs (Decidable (_ ∧ _))

/-- The first address outside program memory, from an address on. -/
def firstOutside (address : Address) : Address :=
  if base ≤ address.toNat ∧ address.toNat < top then 0x1000 else address

/-- A range in memory starts at its distance from the start of memory. -/
theorem offset_of_spans {address : Address} {n : Nat} (h : Spans address n) :
    offset address n = .ok (address.toNat - base) :=
  offset_eq_ok_iff.2 ⟨h.1, h.2, rfl⟩

/-- A range that is not in memory has no offset, and the fault names where it leaves memory. -/
theorem offset_of_not_spans {address : Address} {n : Nat} (h : ¬ Spans address n) :
    offset address n = .error (.outsideMemory (firstOutside address)) := by
  unfold Spans base top at h
  unfold offset firstOutside base size top
  by_cases hbase : address.toNat < 0x200
  · rw [if_pos hbase, if_neg (by omega)]
  · -- The range starts above the bottom of memory, so it is its end that is outside.
    rw [if_neg hbase, if_pos (by omega)]
    by_cases htop : address.toNat < 0x1000
    · rw [if_pos htop, if_pos (by omega)]
      rfl
    · rw [if_neg htop, if_neg (by omega)]

section Accesses

variable (m : Memory) {address : Address} {n : Nat} {data : List UInt8}

theorem read_of_spans (h : Spans address n) :
    m.read address n = .ok (m.window (address.toNat - base) n) := by
  rw [read, offset_of_spans h]
  rfl

theorem read_of_not_spans (h : ¬ Spans address n) :
    m.read address n = .error (.outsideMemory (firstOutside address)) := by
  rw [read, offset_of_not_spans h]
  rfl

theorem write_of_spans (h : Spans address data.length) :
    m.write address data = .ok (m.put (address.toNat - base) data) := by
  rw [write, offset_of_spans h]
  rfl

theorem write_of_not_spans (h : ¬ Spans address data.length) :
    m.write address data = .error (.outsideMemory (firstOutside address)) := by
  rw [write, offset_of_not_spans h]
  rfl

theorem readWord_of_spans (h : Spans address 2) :
    m.readWord address =
      .ok (Word.ofBytes (m.cell (address.toNat - base)) (m.cell (address.toNat - base + 1))) := by
  rw [readWord, offset_of_spans h]
  rfl

theorem readWord_of_not_spans (h : ¬ Spans address 2) :
    m.readWord address = .error (.outsideMemory (firstOutside address)) := by
  rw [readWord, offset_of_not_spans h]
  rfl

end Accesses

/-! ## Sprite data -/

/-- The `n` rows of sprite data at an address are there: in the font, if the address is a glyph's,
and otherwise in program memory. -/
def HasSprite (address : Address) (n : Nat) : Prop :=
  (Glyphs.IsGlyph address ∧ 5 * (address.toNat - 0x50) + n ≤ 80) ∨ Spans address n

instance (address : Address) (n : Nat) : Decidable (HasSprite address n) :=
  inferInstanceAs (Decidable (_ ∨ _))

/-- The rows of sprite data at an address. -/
def spriteRows (m : Memory) (address : Address) (n : Nat) : List UInt8 :=
  if Glyphs.IsGlyph address then (Glyphs.font.drop (5 * (address.toNat - 0x50))).take n
  else m.window (address.toNat - base) n

/-- A glyph's address is no address of program memory. -/
theorem not_spans_of_isGlyph {address : Address} {n : Nat} (h : Glyphs.IsGlyph address) :
    ¬ Spans address n := by
  unfold Glyphs.IsGlyph Glyphs.base Glyphs.count at h
  unfold Spans base
  omega

theorem spriteData_of_hasSprite (m : Memory) {address : Address} {n : Nat}
    (h : HasSprite address n) : m.spriteData address n = .ok (m.spriteRows address n) := by
  unfold spriteData spriteRows
  by_cases hg : Glyphs.IsGlyph address
  · have hfont := (h.resolve_right (not_spans_of_isGlyph hg)).2
    rw [if_pos hg, if_pos hg]
    exact if_pos hfont
  · have hspans := h.resolve_left fun hf => hg hf.1
    rw [if_neg hg, if_neg hg]
    exact m.read_of_spans hspans

theorem spriteData_of_not_hasSprite (m : Memory) {address : Address} {n : Nat}
    (h : ¬ HasSprite address n) :
    m.spriteData address n = .error (.outsideMemory (firstOutside address)) := by
  unfold spriteData
  by_cases hg : Glyphs.IsGlyph address
  · have hfont : ¬ 5 * (address.toNat - 0x50) + n ≤ 80 := fun hf => h (.inl ⟨hg, hf⟩)
    have hbelow : ¬ (base ≤ address.toNat ∧ address.toNat < top) := by
      unfold Glyphs.IsGlyph Glyphs.base Glyphs.count at hg
      unfold base
      omega
    rw [if_pos hg, firstOutside, if_neg hbelow]
    exact if_neg hfont
  · rw [if_neg hg]
    exact m.read_of_not_spans fun hs => h (.inr hs)

end Memory

/-- `V0` to `VX` are as many bytes as registers. -/
theorem Registers.length_upTo (r : Registers) (x : Reg) :
    (r.upTo x).length = x.val + 1 := by
  simp only [Registers.upTo, List.length_take, Vector.length_toList]
  omega

namespace Core

variable (c : Core) (skipOnKeyUp : Bool)

/-! ## The fetch -/

/-- The word at the program counter, high byte first. -/
def word (c : Core) : Word :=
  let k := c.registers.pc.toNat - Memory.base
  Word.ofBytes (c.memory.cell k) (c.memory.cell (k + 1))

/-- The program counter stands on two bytes of program memory. -/
def CanFetch (c : Core) : Prop := Memory.Spans c.registers.pc 2

instance (c : Core) : Decidable c.CanFetch := inferInstanceAs (Decidable (Memory.Spans _ _))

theorem readWord_pc {c : Core} (h : c.CanFetch) :
    c.memory.readWord c.registers.pc = .ok c.word :=
  c.memory.readWord_of_spans h

/-! ## Instructions that may fail -/

/-- A return needs an open call. -/
theorem execute_ret : c.execute skipOnKeyUp .ret =
    match c.registers.stack with
    | [] => .fault (.stackUnderflow c.registers.pc)
    | saved :: rest =>
      .done { c with registers := { c.registers with pc := saved + 2, stack := rest } } := by
  rw [execute, Registers.pop]
  cases c.registers.stack <;> rfl

/-- A call needs room on the stack. -/
theorem execute_call (target : Address) : c.execute skipOnKeyUp (.call target) =
    if c.registers.stack.length < Registers.stackDepth then
      .done { c with registers :=
        { c.registers with pc := target, stack := c.registers.pc :: c.registers.stack } }
    else .fault (.stackOverflow c.registers.pc) := by
  rw [execute, Registers.push]
  split_ifs <;> rfl

/-- A draw needs its rows. -/
theorem execute_draw (x y : Reg) (height : Fin 16) : c.execute skipOnKeyUp (.draw x y height) =
    if Memory.HasSprite c.registers.i height.val then
      .draw (c.reg x) (c.reg y) ((c.memory.spriteRows c.registers.i height.val).map unpackRow)
        fun collided => { c with registers := c.registers.setFlag collided }.advance
    else .fault (.outsideMemory (Memory.firstOutside c.registers.i)) := by
  rw [execute]
  split_ifs with h
  · rw [c.memory.spriteData_of_hasSprite h]
  · rw [c.memory.spriteData_of_not_hasSprite h]

/-- Storing digits needs three bytes. -/
theorem execute_storeDigits (x : Reg) : c.execute skipOnKeyUp (.storeDigits x) =
    if Memory.Spans c.registers.i 3 then
      .done { c with
        memory := c.memory.put (c.registers.i.toNat - Memory.base)
          (decimalDigits (c.reg x)) }.advance
    else .fault (.outsideMemory (Memory.firstOutside c.registers.i)) := by
  have hlen : 3 = (decimalDigits (c.reg x)).length := rfl
  rw [execute, hlen]
  split_ifs with h
  · rw [c.memory.write_of_spans h]
    rfl
  · rw [c.memory.write_of_not_spans h]
    rfl

/-- Storing registers needs a byte for each. -/
theorem execute_storeRegisters (x : Reg) : c.execute skipOnKeyUp (.storeRegisters x) =
    if Memory.Spans c.registers.i (x.val + 1) then
      .done ({ c with
        memory := c.memory.put (c.registers.i.toNat - Memory.base)
          (c.registers.upTo x) }.passRegisters x).advance
    else .fault (.outsideMemory (Memory.firstOutside c.registers.i)) := by
  rw [execute, ← c.registers.length_upTo x]
  split_ifs with h
  · rw [c.memory.write_of_spans h]
    rfl
  · rw [c.memory.write_of_not_spans h]
    rfl

/-- Loading registers needs a byte for each. -/
theorem execute_loadRegisters (x : Reg) : c.execute skipOnKeyUp (.loadRegisters x) =
    if Memory.Spans c.registers.i (x.val + 1) then
      .done ({ c with
        registers := c.registers.setFirst
          (c.memory.window (c.registers.i.toNat - Memory.base) (x.val + 1)) }.passRegisters
            x).advance
    else .fault (.outsideMemory (Memory.firstOutside c.registers.i)) := by
  rw [execute]
  split_ifs with h
  · rw [c.memory.read_of_spans h]
    rfl
  · rw [c.memory.read_of_not_spans h]
    rfl

end Core

end Cosmac
