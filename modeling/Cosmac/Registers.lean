import Cosmac.Fault
import Cosmac.Instruction

/-!
# The register file

Sixteen byte registers, the index register `I`, the program counter and the call stack. The stack
holds at most sixteen addresses, the innermost call first. A call saves the address of the calling
instruction itself, and the machine steps past it after the return.
-/

namespace Cosmac

/-- Where programs start. -/
def programStart : Address := 0x200

/-- The number that the register file knows a register by. -/
def Reg.index (x : Reg) : UInt8 := UInt8.ofNat x.val

/-- The registers of the machine. -/
structure Registers where
  /-- `V0` to `VF`. -/
  v : Vector UInt8 16 := Vector.replicate 16 0
  /-- The index register. -/
  i : Address := 0
  /-- The program counter. -/
  pc : Address := programStart
  /-- The addresses of the calls that have not returned, the innermost first. -/
  stack : List Address := []
  deriving DecidableEq, Repr

namespace Registers

/-- How many calls can be open at once. -/
def stackDepth : Nat := 16

/-- The value of the register numbered `index`, if there is one. -/
def get (r : Registers) (index : UInt8) : Except Fault UInt8 :=
  if h : index.toNat < 16 then .ok r.v[index.toNat] else .error (.noSuchRegister index)

/-- Sets the register numbered `index`, if there is one. -/
def set (r : Registers) (index value : UInt8) : Except Fault Registers :=
  if h : index.toNat < 16 then .ok { r with v := r.v.set index.toNat value }
  else .error (.noSuchRegister index)

/-- The value of register `x`. -/
def reg (r : Registers) (x : Reg) : UInt8 := r.v[x]

/-- Puts `value` into register `x`. -/
def setReg (r : Registers) (x : Reg) (value : UInt8) : Registers :=
  { r with v := r.v.set x value }

/-- The registers `V0` to `VX`. -/
def upTo (r : Registers) (x : Reg) : List UInt8 := r.v.toList.take (x.val + 1)

/-- The flag for a condition: one if it holds, zero if not. -/
def flagOf (on : Bool) : UInt8 := if on then 1 else 0

/-- Sets the flag register to one or zero. -/
def setFlag (r : Registers) (on : Bool) : Registers :=
  r.setReg Reg.flag (flagOf on)

/-- Saves the program counter on the call stack. -/
def push (r : Registers) : Except Fault Registers :=
  if r.stack.length < stackDepth then .ok { r with stack := r.pc :: r.stack }
  else .error (.stackOverflow r.pc)

/-- Takes the program counter back from the call stack. -/
def pop (r : Registers) : Except Fault Registers :=
  match r.stack with
  | [] => .error (.stackUnderflow r.pc)
  | pc :: rest => .ok { r with pc := pc, stack := rest }

/-- Moves the program counter past a two-byte instruction. -/
def advance (r : Registers) : Registers := { r with pc := r.pc + 2 }

end Registers

end Cosmac
