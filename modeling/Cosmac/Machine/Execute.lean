import Cosmac.Machine.Work

/-!
# What an instruction does

Each instruction as a row of steps, in the order in which the machine takes them: a store writes its
bytes and then moves `I`, a load sets one register after the other, a call saves the program counter
and then jumps, and a shift sets the flag before it shifts. An instruction tells whether it has set
the program counter itself.
-/

namespace Cosmac

/-- The decimal digits of a byte: hundreds, tens and ones. -/
def decimalDigits (b : UInt8) : List UInt8 := [b / 100, b / 10 % 10, b % 10]

namespace Work

variable {D K B : Type}

/-- Goes on at an address. -/
def jump (address : Address) : Work D K B Bool := do
  change (·.jump address)
  return true

/-- Notes that an instruction is to be stepped over, if the condition holds. -/
def skipIf (condition : Bool) : Work D K B Bool := do
  change (·.skipIf condition)
  return false

/-- Sets the index register. -/
def setIndex (address : Address) : Work D K B Unit :=
  change (·.setIndex address)

/-- Carries out an operation on `VX` and `VY`. The flag is written after the result, except by the
shifts, which write it first and then shift the register as it stands. -/
def calculate (op : AluOp) (x y : Reg) : Work D K B Unit := do
  let vx ← reg x
  let vy ← reg y
  match op with
  | .copy => setReg x vy
  | .or => setReg x (vx ||| vy)
  | .and => setReg x (vx &&& vy)
  | .xor => setReg x (vx ^^^ vy)
  | .add =>
    setReg x (vx + vy)
    setFlag (255 < vx.toNat + vy.toNat)
  | .sub =>
    setReg x (vx - vy)
    setFlag (vy < vx)
  | .shiftRight =>
    setFlag (vx &&& 1 != 0)
    setReg x ((← reg x) >>> 1)
  | .subFrom =>
    setReg x (vy - vx)
    setFlag (vx < vy)
  | .shiftLeft =>
    setFlag (vx &&& 0x80 != 0)
    setReg x ((← reg x) <<< 1)

/-- Executes an instruction. Gives whether it has set the program counter itself. -/
def execute [Display D] [Keypad K] : Instruction → Work D K B Bool
  | .clear => do
    askDisplay Display.clear
    return false
  -- A return lands on the call that it belongs to, and goes on behind it.
  | .ret => do
    tryRegisters Registers.pop
    return false
  | .jump target => jump target
  | .call target => do
    tryRegisters Registers.push
    jump target
  | .skipIfByte x byte => do skipIf ((← reg x) == byte)
  | .skipUnlessByte x byte => do skipIf ((← reg x) != byte)
  | .skipIfSame x y => do skipIf ((← reg x) == (← reg y))
  | .skipUnlessSame x y => do skipIf ((← reg x) != (← reg y))
  | .setByte x byte => do
    setReg x byte
    return false
  | .addByte x byte => do
    setReg x ((← reg x) + byte)
    return false
  | .alu op x y => do
    calculate op x y
    return false
  | .setIndex address => do
    setIndex address
    return false
  | .jumpOffset base => do jump ((base + (← reg Reg.zero).toUInt16) % 0x1000)
  | .random x mask => do
    setReg x ((← randomByte) &&& mask)
    return false
  | .draw x y height => do
    let column ← reg x
    let row ← reg y
    let data ← look fun c => c.memory.spriteData c.registers.i height.val
    setFlag (← askDisplay (Display.draw column row (data.map unpackRow)))
    return false
  | .skipIfKey x => do skipIf (← isDown (← reg x))
  | .skipByKey x => do
    let down ← isDown (← reg x)
    if (← get).config.skipOnKeyUp then skipIf (!down) else skipIf down
  | .readDelay x => do
    setReg x (← core).timers.delay
    return false
  -- The note about the wait is made last, so a wait that fails leaves none.
  | .awaitKey x => do
    setReg x (← askKeypad Keypad.waitForKey)
    change fun c => { c with suspended := true }
    return false
  | .setDelay x => do
    let vx ← reg x
    change fun c => { c with timers := { c.timers with delay := vx } }
    return false
  | .setSound x => do
    let vx ← reg x
    change fun c => { c with timers := { c.timers with sound := vx } }
    return false
  | .addIndex x => do
    let vx ← reg x
    setIndex ((← core).registers.i + vx.toUInt16)
    return false
  | .setGlyph x => do
    setIndex (Glyphs.address (← reg x))
    return false
  | .storeDigits x => do
    let vx ← reg x
    write (← core).registers.i (decimalDigits vx)
    return false
  -- `I` moves past the registers only when they have been moved themselves.
  | .storeRegisters x => do
    let i := (← core).registers.i
    write i ((← core).registers.upTo x)
    setIndex (i + UInt16.ofNat (x.val + 1))
    return false
  | .loadRegisters x => do
    let i := (← core).registers.i
    let bytes ← look fun c => c.memory.read i (x.val + 1)
    setFrom 0 bytes
    setIndex (i + UInt16.ofNat (x.val + 1))
    return false

/-- Executes an instruction, and goes on at the next one unless it has jumped. -/
def perform [Display D] [Keypad K] (i : Instruction) : Work D K B Unit := do
  let jumped ← execute i
  unless jumped do change Core.advance

/-- Executes a word. -/
def executeWord [Display D] [Keypad K] (w : Word) : Work D K B Unit := do
  match Instruction.decode w with
  | none => throw (.undefined w (← core).registers.pc)
  | some i => perform i

end Work

end Cosmac
