import Cosmac.Text.Hex

/-!
# Instruction words

An instruction is one 16-bit word, stored high byte first. Its four nibbles, from the most
significant one, are the family, the registers `X` and `Y`, and a selector; its low byte and its low
twelve bits serve as an immediate value and as an address.
-/

namespace Cosmac

/-- A 16-bit instruction word. -/
abbrev Word := UInt16

/-- An address as the machine holds it, in `I` and in the program counter. -/
abbrev Address := UInt16

namespace Word

/-- The word whose high byte is `high` and whose low byte is `low`. -/
def ofBytes (high low : UInt8) : Word :=
  UInt16.ofNat (high.toNat * 256 + low.toNat)

/-- Nibble `k` of a word, counted from the most significant one, for `k` up to three. -/
def nibble (w : Word) (k : Nat) : Fin 16 :=
  ⟨(w.toNat >>> (4 * (3 - k))) % 16, Nat.mod_lt _ (by decide)⟩

/-- The family of an instruction is its first nibble. -/
def family (w : Word) : Fin 16 := nibble w 0

/-- The register `X` is named by the second nibble. -/
def x (w : Word) : Fin 16 := nibble w 1

/-- The register `Y` is named by the third nibble. -/
def y (w : Word) : Fin 16 := nibble w 2

/-- The last nibble selects an operation or gives the height of a sprite. -/
def selector (w : Word) : Fin 16 := nibble w 3

/-- The high byte. -/
def high (w : Word) : UInt8 := UInt8.ofNat (w.toNat / 256)

/-- The low byte, the immediate value of an instruction. -/
def low (w : Word) : UInt8 := UInt8.ofNat w.toNat

/-- The low twelve bits, the address that an instruction names. -/
def address (w : Word) : Address := UInt16.ofNat (w.toNat % 0x1000)

/-- The word as messages show it: four hexadecimal digits in capitals. -/
def text (w : Word) : String := Text.upperHex 4 w.toNat

theorem toNat_ofBytes (high low : UInt8) :
    (ofBytes high low).toNat = high.toNat * 256 + low.toNat := by
  have := high.toNat_lt
  have := low.toNat_lt
  simp only [ofBytes, UInt16.toNat_ofNat']
  omega

/-- The high byte of a word made from two bytes is the first of them. -/
theorem high_ofBytes (high low : UInt8) : Word.high (ofBytes high low) = high := by
  have := low.toNat_lt
  rw [Word.high, toNat_ofBytes, show (high.toNat * 256 + low.toNat) / 256 = high.toNat by omega,
    UInt8.ofNat_toNat]

/-- The low byte of a word made from two bytes is the second of them. -/
theorem low_ofBytes (high low : UInt8) : Word.low (ofBytes high low) = low := by
  have := low.toNat_lt
  apply UInt8.toNat.inj
  simp only [Word.low, toNat_ofBytes, UInt8.toNat_ofNat']
  omega

end Word

end Cosmac
