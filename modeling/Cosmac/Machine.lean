import Cosmac.Device
import Cosmac.Memory.Glyphs
import Cosmac.Memory.Program
import Cosmac.Random.Stream
import Cosmac.Registers
import Cosmac.Timers

/-!
# The machine

`Core` is everything that a program can affect without a device: registers, memory, timers, the
random generator, and two notes that the machine makes to itself, on instructions to skip and on a
wait for a key. `Machine` puts a core together with a display, a keypad and a buzzer, and keeps what
belongs to the run as a whole: how it is set up, how many cycles it did, whether the buzzer is still
in use, and the log.
-/

namespace Cosmac

/-- The width of the picture that programs draw on. -/
def pictureWidth : Nat := 64

/-- The height of the picture that programs draw on. -/
def pictureHeight : Nat := 32

/-- How a machine is set up. -/
structure Config where
  /-- At most how many instructions to run in a second. -/
  rate : Nat := 700
  /-- How often the timers tick in a second. -/
  timerRate : Nat := 60
  /-- The seed of the random generator; without one its key comes from outside. -/
  seed : Option UInt64 := none
  /-- After how many cycles the loop ends by itself. -/
  maxCycles : Option Nat := none
  /-- Whether `EXA1` skips on a key that is up. Otherwise it skips on a key that is down, as `EX9E`
  does. -/
  skipOnKeyUp : Bool := false
  deriving DecidableEq, Repr

/-- The part of the machine that instructions work on. -/
structure Core where
  registers : Registers := {}
  memory : Memory := Memory.zeroed
  timers : Timers
  /-- How many instructions are still to be stepped over. -/
  skips : Nat := 0
  /-- Whether the program waited for a key since the loop last looked. -/
  suspended : Bool := false
  random : Random.Generator

namespace Core

/-- The core of a fresh machine. -/
def fresh (config : Config) (entropy : Random.Key) : Core where
  timers := Timers.ofRate config.timerRate
  random := match config.seed with
    | some seed => Random.Generator.ofSeed seed
    | none => Random.Generator.ofKey entropy

/-- The value of a register. -/
def reg (c : Core) (x : Reg) : UInt8 := c.registers.reg x

/-- Sets a register. -/
def setReg (c : Core) (x : Reg) (value : UInt8) : Core :=
  { c with registers := c.registers.setReg x value }

/-- Sets the index register. -/
def setIndex (c : Core) (address : Address) : Core :=
  { c with registers := { c.registers with i := address } }

/-- Goes on at an address. -/
def jump (c : Core) (address : Address) : Core :=
  { c with registers := { c.registers with pc := address } }

/-- Goes on at the next instruction. -/
def advance (c : Core) : Core := { c with registers := c.registers.advance }

/-- Notes that an instruction is to be stepped over, if the condition holds. -/
def skipIf (c : Core) (condition : Bool) : Core :=
  if condition then { c with skips := c.skips + 1 } else c

/-- Steps over an instruction that was to be skipped. -/
def stepOver (c : Core) : Core := { c with skips := c.skips - 1 }.advance

/-- Forgets that the program waited for a key, and the time that the timers carried when it did. -/
def resume (c : Core) : Core :=
  { c with suspended := false, timers := c.timers.discard }

end Core

/-- A machine with a display, a keypad and a buzzer. -/
structure Machine (D K B : Type) where
  config : Config
  core : Core
  display : D
  keypad : K
  buzzer : B
  /-- Whether the buzzer is in use. It is given up the first time it fails. -/
  buzzerOn : Bool := true
  /-- How many cycles were begun. -/
  cycles : Nat := 0
  /-- The notices given so far, the latest first. -/
  log : List Notice := []

namespace Machine

variable {D K B : Type}

/-- Puts a machine together. The display is set to the machine's size and blanked; the key is used
only without a seed. -/
def boot [Display D] (config : Config) (entropy : Random.Key) (display : D) (keypad : K)
    (buzzer : B) : Except Fault (Machine D K B) :=
  match Display.setExtents pictureWidth pictureHeight display with
  | (.error e, _) => .error (.device e)
  | (.ok _, display) =>
    match Display.clear display with
    | (.error e, _) => .error (.device e)
    | (.ok _, display) =>
      .ok { config, core := Core.fresh config entropy, display, keypad, buzzer }

/-- Adds a notice to the log. -/
def note (m : Machine D K B) (n : Notice) : Machine D K B := { m with log := n :: m.log }

/-- Adds some notices to the log, in order. -/
def noteAll (m : Machine D K B) (ns : List Notice) : Machine D K B :=
  { m with log := ns.reverse ++ m.log }

/-- Loads a program image. Gives the number of bytes loaded. -/
def load (m : Machine D K B) (image : List UInt8) : Nat × Machine D K B :=
  let loaded := { m with core := { m.core with memory := m.core.memory.load image } }
  let length := Memory.loadedLength image
  (length, (loaded.noteAll (Memory.loadNotices image)).note (.loaded length))

/-- Loads the program that a source hands out; a source that fails loads nothing. -/
def loadFrom (m : Machine D K B) (source : Source) : Except Fault Nat × Machine D K B :=
  match source.readAll with
  | .error e => (.error (.device e), m)
  | .ok image =>
    let (length, loaded) := m.load image
    (.ok length, loaded)

end Machine

end Cosmac
