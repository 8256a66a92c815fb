import Cosmac.Memory

/-!
# The built-in glyphs

The sixteen hexadecimal digits have glyphs of five rows each. They are addressed one by one from
`0x050` on, below program memory, so that no address is both a glyph and a byte of the program.
Sprite data at such an address comes from the font, where the glyphs follow each other; at any other
address it comes from program memory.
-/

namespace Cosmac.Glyphs

/-- The address of the glyph of zero. -/
def base : Nat := 0x050

/-- How many glyphs there are. -/
def count : Nat := 16

/-- How many rows a glyph has. -/
def height : Nat := 5

/-- The rows of all glyphs, one byte a row. -/
def font : List UInt8 := [
  0xf0, 0x90, 0x90, 0x90, 0xf0,
  0x20, 0x60, 0x20, 0x20, 0x70,
  0xf0, 0x10, 0xf0, 0x80, 0xf0,
  0xf0, 0x10, 0xf0, 0x10, 0xf0,
  0x90, 0x90, 0xf0, 0x10, 0x10,
  0xf0, 0x80, 0xf0, 0x10, 0xf0,
  0xf0, 0x80, 0xf0, 0x90, 0xf0,
  0xf0, 0x10, 0x20, 0x40, 0x40,
  0xf0, 0x90, 0xf0, 0x90, 0xf0,
  0xf0, 0x90, 0xf0, 0x10, 0xf0,
  0xf0, 0x90, 0xf0, 0x90, 0x90,
  0xe0, 0x90, 0xe0, 0x90, 0xe0,
  0xf0, 0x80, 0x80, 0x80, 0xf0,
  0xe0, 0x90, 0x90, 0x90, 0xe0,
  0xf0, 0x80, 0xf0, 0x80, 0xf0,
  0xf0, 0x80, 0xf0, 0x80, 0x80]

/-- The address of the glyph of a digit, of which only the low nibble counts. -/
def address (digit : UInt8) : Address := UInt16.ofNat (base + digit.toNat % 16)

/-- Whether an address is that of a glyph. -/
def IsGlyph (a : Address) : Prop := base ≤ a.toNat ∧ a.toNat < base + count

instance (a : Address) : Decidable (IsGlyph a) :=
  inferInstanceAs (Decidable (_ ∧ _))

/-- The font has five rows for each glyph. -/
theorem length_font : font.length = count * height := rfl

end Cosmac.Glyphs

namespace Cosmac.Memory

/-- The `n` rows of sprite data at an address, in the font or in program memory. -/
def spriteData (m : Memory) (a : Address) (n : Nat) : Except Fault (List UInt8) :=
  if Glyphs.IsGlyph a then
    let start := Glyphs.height * (a.toNat - Glyphs.base)
    if start + n ≤ Glyphs.font.length then .ok ((Glyphs.font.drop start).take n)
    else .error (.outsideMemory a)
  else m.read a n

end Cosmac.Memory
