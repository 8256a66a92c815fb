import Cosmac.Instruction
import Mathlib.Tactic.SplitIfs

/-!
# The words of an instruction

`Instruction.Encodes` lists the words that stand for each instruction by the digits of their
hexadecimal form, operands included, without the decoder. Apart from `00E0` and `00EE` a word is its
family's digit followed by an address, by a register and a byte, or by two registers and a digit.
`decode_eq_some_iff` says that the decoder reads a word as an instruction exactly when the word is
one of the instruction's, and so the words that it leaves unread are those of no instruction at all
(`decode_eq_none_iff`).

The fields that the decoder takes out of a word are its digits as numbers (`family_val` and the
lemmas after it). From these, each of the three shapes of a word is a statement on its fields
(`hasAddress_iff`, `hasByte_iff`, `hasPair_iff`).
-/

namespace Cosmac

namespace Word

/-! ## The fields as numbers -/

/-- The family is the first digit. -/
theorem family_val (w : Word) : (family w).val = w.toNat / 0x1000 := by
  have := w.toNat_lt
  simp only [family, nibble, Nat.shiftRight_eq_div_pow]
  omega

/-- The register `X` is the second digit. -/
theorem x_val (w : Word) : (x w).val = w.toNat / 0x100 % 16 := by
  simp only [x, nibble, Nat.shiftRight_eq_div_pow]

/-- The register `Y` is the third digit. -/
theorem y_val (w : Word) : (y w).val = w.toNat / 0x10 % 16 := by
  simp only [y, nibble, Nat.shiftRight_eq_div_pow]

/-- The selector is the last digit. -/
theorem selector_val (w : Word) : (selector w).val = w.toNat % 16 := by
  simp [selector, nibble]

/-- The low byte is the last two digits. -/
theorem toNat_low (w : Word) : (low w).toNat = w.toNat % 0x100 := by
  simp [low]

/-- The address is the last three digits. -/
theorem toNat_address (w : Word) : (address w).toNat = w.toNat % 0x1000 := by
  simp only [address, UInt16.toNat_ofNat']
  omega

/-! ## The shapes of a word -/

/-- The word is the digit `f` followed by an address of three digits. -/
def HasAddress (w : Word) (f : Nat) (target : Address) : Prop :=
  w.toNat = 0x1000 * f + target.toNat ∧ target.toNat < 0x1000

/-- The word is the digit `f` followed by a register and a byte. -/
def HasByte (w : Word) (f : Nat) (r : Reg) (byte : UInt8) : Prop :=
  w.toNat = 0x1000 * f + 0x100 * r.val + byte.toNat

/-- The word is the digit `f` followed by two registers and the digit `n`. -/
def HasPair (w : Word) (f : Nat) (r s : Reg) (n : Nat) : Prop :=
  w.toNat = 0x1000 * f + 0x100 * r.val + 0x10 * s.val + n

theorem hasAddress_iff {w : Word} {f : Nat} {target : Address} :
    HasAddress w f target ↔ (family w).val = f ∧ address w = target := by
  rw [HasAddress, family_val, ← UInt16.toNat_inj, toNat_address]
  omega

theorem hasByte_iff {w : Word} {f : Nat} {r : Reg} {byte : UInt8} :
    HasByte w f r byte ↔ (family w).val = f ∧ x w = r ∧ low w = byte := by
  have := r.isLt
  have := byte.toNat_lt
  rw [HasByte, family_val, Fin.ext_iff, x_val, ← UInt8.toNat_inj, toNat_low]
  omega

theorem hasPair_iff {w : Word} {f : Nat} {r s : Reg} {n : Nat} (hn : n < 16) :
    HasPair w f r s n ↔ (family w).val = f ∧ x w = r ∧ y w = s ∧ (selector w).val = n := by
  have := r.isLt
  have := s.isLt
  rw [HasPair, family_val, Fin.ext_iff, x_val, Fin.ext_iff, y_val, selector_val]
  omega

/-- A family known as a number is known as a digit. -/
theorem family_eq {w : Word} {f : Nat} (hf : (family w).val = f) (h : f < 16) :
    family w = ⟨f, h⟩ := Fin.ext hf

end Word

/-! ## Operations between registers -/

/-- The last digit of the words that ask for an operation. -/
def AluOp.digit : AluOp → Nat
  | .copy => 0x0
  | .or => 0x1
  | .and => 0x2
  | .xor => 0x3
  | .add => 0x4
  | .sub => 0x5
  | .shiftRight => 0x6
  | .subFrom => 0x7
  | .shiftLeft => 0xe

theorem AluOp.digit_lt (op : AluOp) : op.digit < 16 := by
  cases op <;> decide

/-- A selector asks for an operation exactly when it is the operation's digit. -/
theorem AluOp.ofSelector_eq_some_iff {s : Fin 16} {op : AluOp} :
    ofSelector s = some op ↔ s.val = op.digit := by
  revert s
  cases op <;> decide

/-! ## Instructions -/

namespace Instruction

/-- The words of an instruction. In the families `5` and `9` the last digit is free. -/
def Encodes : Instruction → Word → Prop
  | clear, w => w.toNat = 0x00e0
  | ret, w => w.toNat = 0x00ee
  | jump target, w => Word.HasAddress w 0x1 target
  | call target, w => Word.HasAddress w 0x2 target
  | skipIfByte x byte, w => Word.HasByte w 0x3 x byte
  | skipUnlessByte x byte, w => Word.HasByte w 0x4 x byte
  | skipIfSame x y, w => ∃ n < 16, Word.HasPair w 0x5 x y n
  | setByte x byte, w => Word.HasByte w 0x6 x byte
  | addByte x byte, w => Word.HasByte w 0x7 x byte
  | alu op x y, w => Word.HasPair w 0x8 x y op.digit
  | skipUnlessSame x y, w => ∃ n < 16, Word.HasPair w 0x9 x y n
  | setIndex address, w => Word.HasAddress w 0xa address
  | jumpOffset base, w => Word.HasAddress w 0xb base
  | random x mask, w => Word.HasByte w 0xc x mask
  | draw x y height, w => Word.HasPair w 0xd x y height.val
  | skipIfKey x, w => Word.HasByte w 0xe x 0x9e
  | skipByKey x, w => Word.HasByte w 0xe x 0xa1
  | readDelay x, w => Word.HasByte w 0xf x 0x07
  | awaitKey x, w => Word.HasByte w 0xf x 0x0a
  | setDelay x, w => Word.HasByte w 0xf x 0x15
  | setSound x, w => Word.HasByte w 0xf x 0x18
  | addIndex x, w => Word.HasByte w 0xf x 0x1e
  | setGlyph x, w => Word.HasByte w 0xf x 0x29
  | storeDigits x, w => Word.HasByte w 0xf x 0x33
  | storeRegisters x, w => Word.HasByte w 0xf x 0x55
  | loadRegisters x, w => Word.HasByte w 0xf x 0x65

/-- The decoder reads a word only as an instruction whose word it is. -/
theorem encodes_of_decode {w : Word} {i : Instruction} (h : decode w = some i) : i.Encodes w := by
  unfold decode at h
  split at h
  case h_1 =>
    -- Family `0` has two instructions without operands.
    split_ifs at h with h0 h1
    · cases h
      rw [h0]
      rfl
    · cases h
      rw [h1]
      rfl
  case h_2 | h_3 | h_11 | h_12 =>
    -- The families with an address.
    rename_i hf
    cases h
    exact Word.hasAddress_iff.2 ⟨congrArg Fin.val hf, rfl⟩
  case h_4 | h_5 | h_7 | h_8 | h_13 =>
    -- The families with a register and a byte.
    rename_i hf
    cases h
    exact Word.hasByte_iff.2 ⟨congrArg Fin.val hf, rfl, rfl⟩
  case h_6 | h_10 =>
    -- The families with two registers, whose last digit is whatever the word has there.
    rename_i hf
    cases h
    have hs := w.selector.isLt
    exact ⟨_, hs, (Word.hasPair_iff hs).2 ⟨congrArg Fin.val hf, rfl, rfl, rfl⟩⟩
  case h_9 hf =>
    obtain ⟨op, hop, rfl⟩ := Option.map_eq_some_iff.1 h
    exact (Word.hasPair_iff op.digit_lt).2
      ⟨congrArg Fin.val hf, rfl, rfl, AluOp.ofSelector_eq_some_iff.1 hop⟩
  case h_14 hf =>
    cases h
    exact (Word.hasPair_iff w.selector.isLt).2 ⟨congrArg Fin.val hf, rfl, rfl, rfl⟩
  case h_15 hf =>
    split_ifs at h with h0 h1
    · cases h
      exact Word.hasByte_iff.2 ⟨congrArg Fin.val hf, rfl, h0⟩
    · cases h
      exact Word.hasByte_iff.2 ⟨congrArg Fin.val hf, rfl, h1⟩
  case h_16 =>
    -- The last case is what the fifteen before it leave over.
    have hf : w.family.val = 0xf := by
      simp only [imp_false, Fin.ext_iff] at *
      omega
    unfold decodeMisc at h
    split at h
    case h_10 => cases h
    all_goals
      rename_i hl
      cases h
      exact Word.hasByte_iff.2 ⟨hf, rfl, UInt8.toNat.inj hl⟩

/-- Every word of an instruction is read as that instruction. -/
theorem decode_of_encodes {w : Word} {i : Instruction} (h : i.Encodes w) : decode w = some i := by
  cases i with
  | clear =>
    obtain rfl : w = 0x00e0 := UInt16.toNat.inj h
    rfl
  | ret =>
    obtain rfl : w = 0x00ee := UInt16.toNat.inj h
    rfl
  | jump target | call target | setIndex target | jumpOffset target =>
    obtain ⟨hf, rfl⟩ := Word.hasAddress_iff.1 h
    rw [decode, Word.family_eq hf (by decide)]
    rfl
  | skipIfByte x b | skipUnlessByte x b | setByte x b | addByte x b | random x b =>
    obtain ⟨hf, rfl, rfl⟩ := Word.hasByte_iff.1 h
    rw [decode, Word.family_eq hf (by decide)]
    rfl
  | skipIfSame x y | skipUnlessSame x y =>
    obtain ⟨n, hn, hw⟩ := h
    obtain ⟨hf, rfl, rfl, -⟩ := (Word.hasPair_iff hn).1 hw
    rw [decode, Word.family_eq hf (by decide)]
    rfl
  | alu op x y =>
    obtain ⟨hf, rfl, rfl, hs⟩ := (Word.hasPair_iff op.digit_lt).1 h
    rw [decode, Word.family_eq hf (by decide)]
    exact congrArg (Option.map _) (AluOp.ofSelector_eq_some_iff.2 hs)
  | draw x y height =>
    obtain ⟨hf, rfl, rfl, hs⟩ := (Word.hasPair_iff height.isLt).1 h
    rw [decode, Word.family_eq hf (by decide), ← Fin.ext hs]
    rfl
  | skipIfKey x | skipByKey x | readDelay x | awaitKey x | setDelay x | setSound x | addIndex x
  | setGlyph x | storeDigits x | storeRegisters x | loadRegisters x =>
    obtain ⟨hf, rfl, hl⟩ := Word.hasByte_iff.1 h
    rw [decode, Word.family_eq hf (by decide), hl]
    rfl

/-- The decoder reads a word as an instruction exactly when the word is one of the instruction's. -/
theorem decode_eq_some_iff {w : Word} {i : Instruction} : decode w = some i ↔ i.Encodes w :=
  ⟨encodes_of_decode, decode_of_encodes⟩

/-- The words that the decoder leaves unread are those of no instruction. -/
theorem decode_eq_none_iff {w : Word} : decode w = none ↔ ∀ i : Instruction, ¬ i.Encodes w := by
  simp only [← decode_eq_some_iff, Option.eq_none_iff_forall_ne_some, ne_eq]

end Instruction

end Cosmac
