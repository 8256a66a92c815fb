import Cosmac.Machine

/-!
# Work on a machine

An instruction is carried out in steps. A step reads or changes the core, or asks the display or the
keypad for something, and it may fail. `Work` puts steps in a row: the first step that fails ends the
row, and what the steps before it did stays done. Nothing takes a step back, so whether a failure
leaves the machine alone depends on the order of the steps.
-/

namespace Cosmac

/-- Work on a machine. It ends with a value or with a fault, and leaves a machine behind in either
case. -/
abbrev Work (D K B α : Type) := ExceptT Fault (StateM (Machine D K B)) α

namespace Work

variable {D K B α : Type}

/-- Does the work on a machine. -/
def on (w : Work D K B α) (m : Machine D K B) : Except Fault α × Machine D K B := w.run.run m

/-! ## Steps on the core -/

/-- The core as it stands. -/
def core : Work D K B Core := do
  return (← get).core

/-- Reads something off the core, which can fail. -/
def look (read : Core → Except Fault α) : Work D K B α := do
  liftExcept (read (← core))

/-- Changes the core. -/
def change (f : Core → Core) : Work D K B Unit :=
  modify fun m => { m with core := f m.core }

/-- Changes the core, unless the change fails. -/
def tryChange (f : Core → Except Fault Core) : Work D K B Unit := do
  let next ← look f
  change fun _ => next

/-- Reads a register. -/
def reg (x : Reg) : Work D K B UInt8 :=
  look fun c => c.registers.get x.index

/-- Changes the registers, unless the change fails. -/
def tryRegisters (f : Registers → Except Fault Registers) : Work D K B Unit :=
  tryChange fun c => (f c.registers).map fun r => { c with registers := r }

/-- Sets a register. -/
def setReg (x : Reg) (value : UInt8) : Work D K B Unit :=
  tryRegisters fun r => r.set x.index value

/-- Sets the registers from number `k` on, one after the other. -/
def setFrom (k : Nat) : List UInt8 → Work D K B Unit
  | [] => return
  | value :: rest => do
    tryRegisters fun r => r.set (UInt8.ofNat k) value
    setFrom (k + 1) rest

/-- Sets the flag register. -/
def setFlag (on : Bool) : Work D K B Unit :=
  change fun c => { c with registers := c.registers.setFlag on }

/-- Writes bytes into program memory. -/
def write (address : Address) (bytes : List UInt8) : Work D K B Unit :=
  tryChange fun c => (c.memory.write address bytes).map fun memory => { c with memory := memory }

/-- Takes a byte from the random generator. -/
def randomByte : Work D K B UInt8 := do
  let generator := (← core).random
  change fun c => { c with random := generator.next }
  return generator.byte

/-! ## Steps of the devices -/

/-- Asks the display for something. -/
def askDisplay (call : D → Reply DeviceError α D) : Work D K B α := do
  let (answer, display) := call (← get).display
  modify fun m => { m with display := display }
  liftExcept (answer.mapError Fault.device)

/-- Asks the keypad for something. -/
def askKeypad (call : K → Reply DeviceError α K) : Work D K B α := do
  let (answer, keypad) := call (← get).keypad
  modify fun m => { m with keypad := keypad }
  liftExcept (answer.mapError Fault.device)

/-- Whether a key is down. -/
def isDown [Keypad K] (key : UInt8) : Work D K B Bool := do
  return Keypad.isDown (← get).keypad key

end Work

end Cosmac
