import Cosmac.Word

/-!
# Faults

What can stop the machine. A fault either names the instruction it belongs to (`undefined`,
`stackOverflow`, `stackUnderflow`), or is a bare finding about an address or a register that
`Fault.during` places at an instruction, or comes from a device and is passed on as it is. A device
that is asked to quit reports an interruption, and `Fault.isQuit` recognises it.
-/

namespace Cosmac

/-- The kinds of device error that callers tell apart. -/
inductive DeviceError.Kind
  /-- Someone asked for the program to end. -/
  | interrupted
  /-- The source of input has run dry. -/
  | endOfInput
  | notFound
  | permissionDenied
  | other
  deriving DecidableEq, Repr

/-- An error reported by a display, a keypad or a program source: its kind and its wording. -/
structure DeviceError where
  kind : DeviceError.Kind
  text : String
  deriving DecidableEq, Repr

/-- A reason for the machine to stop. -/
inductive Fault
  /-- The word's family has no instruction at all. -/
  | unknownFamily (word : Word) (pc : Address)
  /-- The word is none of its family's instructions. -/
  | undefined (word : Word) (pc : Address)
  /-- The address lies outside program memory. -/
  | outsideMemory (address : Address)
  /-- There is no register of this number. -/
  | noSuchRegister (index : UInt8)
  /-- A call found the call stack full. -/
  | stackOverflow (pc : Address)
  /-- A return found the call stack empty. -/
  | stackUnderflow (pc : Address)
  /-- The instruction failed for the given cause. -/
  | failed (word : Word) (pc : Address) (cause : Fault)
  /-- The buzzer failed. -/
  | buzzer (text : String)
  /-- A display, a keypad or a program source failed. -/
  | device (error : DeviceError)
  deriving DecidableEq, Repr

namespace Fault

/-- An address as messages show it. -/
def addressText (a : Address) : String := "0x" ++ Text.hex 4 a.toNat

/-- The wording of a fault. -/
def message : Fault → String
  | unknownFamily w pc => "unknown instruction family in " ++ w.text ++ " at " ++ addressText pc
  | undefined w pc => "invalid operand in " ++ w.text ++ " at " ++ addressText pc
  | outsideMemory a => "address " ++ addressText a ++ " is outside program memory"
  | noSuchRegister i => "register V" ++ Text.upperHex 1 i.toNat ++ " does not exist"
  | stackOverflow pc => "call stack overflow at " ++ addressText pc
  | stackUnderflow pc => "return with empty call stack at " ++ addressText pc
  | failed w pc cause => w.text ++ " at " ++ addressText pc ++ " failed: " ++ cause.message
  | buzzer text => "sound error: " ++ text
  | device e => "i/o error: " ++ e.text

/-- Places a fault at the instruction that met it. Only a finding about an address or a register
lacks a place; every other fault names its own or has none in the program. -/
def during (w : Word) (pc : Address) : Fault → Fault
  | outsideMemory a => failed w pc (outsideMemory a)
  | noSuchRegister i => failed w pc (noSuchRegister i)
  | fault => fault

/-- Whether the fault is a device's request to end the program. -/
def isQuit : Fault → Bool
  | device e => e.kind = .interrupted
  | _ => false

end Fault

end Cosmac
