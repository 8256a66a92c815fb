import Cosmac.Word

/-!
# The instruction set

`Instruction` names what a program can ask of the machine, with its operands taken out of the word,
and `Instruction.decode` reads a word as an instruction. Words that mean nothing are not decoded.
In the families `5` and `9` the last nibble plays no part, so sixteen words stand for the same
instruction there; every other instruction that takes all its operands from the word has exactly one.
-/

namespace Cosmac

/-- The number of one of the sixteen registers `V0` to `VF`. -/
abbrev Reg := Fin 16

/-- The register that receives carries, borrows, shifted-out bits and collisions. -/
def Reg.flag : Reg := Fin.last 15

/-- There is a first register. -/
theorem Reg.zero_lt : 0 < 16 := by decide

/-- The register `V0`. -/
def Reg.zero : Reg := ⟨0, Reg.zero_lt⟩

/-- The operations between two registers. -/
inductive AluOp
  | copy
  | or
  | and
  | xor
  | add
  | sub
  | shiftRight
  /-- Subtracts the first register from the second. -/
  | subFrom
  | shiftLeft
  deriving DecidableEq, Repr

/-- Reads the selector of a word of family `8`. -/
def AluOp.ofSelector : Fin 16 → Option AluOp
  | 0x0 => some .copy
  | 0x1 => some .or
  | 0x2 => some .and
  | 0x3 => some .xor
  | 0x4 => some .add
  | 0x5 => some .sub
  | 0x6 => some .shiftRight
  | 0x7 => some .subFrom
  | 0xe => some .shiftLeft
  | _ => none

/-- An instruction with its operands. -/
inductive Instruction
  /-- `00E0`: blanks the screen. -/
  | clear
  /-- `00EE`: returns from a subroutine. -/
  | ret
  /-- `1NNN`: goes on at an address. -/
  | jump (target : Address)
  /-- `2NNN`: calls a subroutine. -/
  | call (target : Address)
  /-- `3XNN`: skips the next instruction if `VX` is the byte. -/
  | skipIfByte (x : Reg) (byte : UInt8)
  /-- `4XNN`: skips the next instruction unless `VX` is the byte. -/
  | skipUnlessByte (x : Reg) (byte : UInt8)
  /-- `5XY*`: skips the next instruction if `VX` and `VY` are equal. -/
  | skipIfSame (x y : Reg)
  /-- `6XNN`: sets `VX`. -/
  | setByte (x : Reg) (byte : UInt8)
  /-- `7XNN`: adds to `VX`, leaving the flag alone. -/
  | addByte (x : Reg) (byte : UInt8)
  /-- `8XY*`: combines `VX` and `VY` into `VX`. -/
  | alu (op : AluOp) (x y : Reg)
  /-- `9XY*`: skips the next instruction unless `VX` and `VY` are equal. -/
  | skipUnlessSame (x y : Reg)
  /-- `ANNN`: sets `I`. -/
  | setIndex (address : Address)
  /-- `BNNN`: goes on at the address plus `V0`. -/
  | jumpOffset (base : Address)
  /-- `CXNN`: sets `VX` to a random byte under a mask. -/
  | random (x : Reg) (mask : UInt8)
  /-- `DXYN`: draws `N` rows of sprite data from `I` at column `VX`, row `VY`. -/
  | draw (x y : Reg) (height : Fin 16)
  /-- `EX9E`: skips the next instruction if the key `VX` is down. -/
  | skipIfKey (x : Reg)
  /-- `EXA1`: skips the next instruction by the state of the key `VX`, the way the machine is set
  up to read it. -/
  | skipByKey (x : Reg)
  /-- `FX07`: reads the delay timer. -/
  | readDelay (x : Reg)
  /-- `FX0A`: waits for a key. -/
  | awaitKey (x : Reg)
  /-- `FX15`: sets the delay timer. -/
  | setDelay (x : Reg)
  /-- `FX18`: sets the sound timer. -/
  | setSound (x : Reg)
  /-- `FX1E`: adds `VX` to `I`. -/
  | addIndex (x : Reg)
  /-- `FX29`: points `I` at the glyph of a digit. -/
  | setGlyph (x : Reg)
  /-- `FX33`: stores the three decimal digits of `VX` at `I`. -/
  | storeDigits (x : Reg)
  /-- `FX55`: stores `V0` to `VX` at `I` and moves `I` past them. -/
  | storeRegisters (x : Reg)
  /-- `FX65`: loads `V0` to `VX` from `I` and moves `I` past them. -/
  | loadRegisters (x : Reg)
  deriving DecidableEq, Repr

namespace Instruction

/-- Reads a word of family `F` by its low byte. -/
def decodeMisc (x : Reg) (low : Nat) : Option Instruction :=
  match low with
  | 0x07 => some (readDelay x)
  | 0x0a => some (awaitKey x)
  | 0x15 => some (setDelay x)
  | 0x18 => some (setSound x)
  | 0x1e => some (addIndex x)
  | 0x29 => some (setGlyph x)
  | 0x33 => some (storeDigits x)
  | 0x55 => some (storeRegisters x)
  | 0x65 => some (loadRegisters x)
  | _ => none

/-- Reads a word as an instruction; `none` for the words that mean nothing. The last case is family
`F`. -/
def decode (w : Word) : Option Instruction :=
  match w.family with
  | 0x0 => if w = 0x00e0 then some clear else if w = 0x00ee then some ret else none
  | 0x1 => some (jump w.address)
  | 0x2 => some (call w.address)
  | 0x3 => some (skipIfByte w.x w.low)
  | 0x4 => some (skipUnlessByte w.x w.low)
  | 0x5 => some (skipIfSame w.x w.y)
  | 0x6 => some (setByte w.x w.low)
  | 0x7 => some (addByte w.x w.low)
  | 0x8 => (AluOp.ofSelector w.selector).map (alu · w.x w.y)
  | 0x9 => some (skipUnlessSame w.x w.y)
  | 0xa => some (setIndex w.address)
  | 0xb => some (jumpOffset w.address)
  | 0xc => some (random w.x w.low)
  | 0xd => some (draw w.x w.y w.selector)
  | 0xe =>
    if w.low = 0x9e then some (skipIfKey w.x)
    else if w.low = 0xa1 then some (skipByKey w.x)
    else none
  | _ => decodeMisc w.x w.low.toNat

end Instruction

end Cosmac
