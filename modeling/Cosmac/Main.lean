import Cosmac.CommandLine.Session
import Cosmac.CommandLine.Usage
import Cosmac.Keyboard.Sequence
import Cosmac.Terminal.Control

/-!
# The program

Runs a program image on the terminal, in real time. The terminal must hand over keys at once and
without an echo, and a read must not wait for one (`stty -icanon -echo min 0 time 0`).

The loop itself is that of the library: this module reads the clock, brings in the keys, shows the
picture when the display was refreshed, and sleeps. A wait for a key is done before the pass that
asks for it, and the events that came in meanwhile are handed over with the times at which they
arrived.
-/

namespace Cosmac.Main

open CommandLine

/-- The buzzers of a program: one that rings the bell of the terminal, or one that makes no sound. -/
abbrev Sound := Beeper Bell ⊕ Silent

/-- A loop at the terminal. -/
abbrev Running := Loop TerminalScreen Keyboard Sound

/-- The ends of the terminal, and how much of the log is wanted. -/
structure Streams where
  input : IO.FS.Stream
  output : IO.FS.Stream
  errors : IO.FS.Stream
  logLevel : Option Level

/-- The bytes that have arrived at the terminal. -/
partial def readBytes (t : Streams) (sofar : List UInt8) : IO (List UInt8) := do
  let bytes ← t.input.read 1
  if bytes.isEmpty then return sofar
  else readBytes t (sofar ++ bytes.toList)

/-- How long to sleep between two looks at the keyboard, in milliseconds. -/
def lookTime : UInt32 := 2

/-- Looks at the keyboard until something arrives that ends a wait for a key. An input that is no
terminal has nothing to offer once it is empty. -/
partial def awaitEvents (t : Streams) (sofar : List Arrival) : IO (List Arrival) := do
  let events := Keyboard.eventsOf (← readBytes t [])
  let now ← IO.monoNanosNow
  let sofar := sofar ++ events.map fun e => ⟨now, e⟩
  if events.any Keyboard.settles then return sofar
  else if events.isEmpty && !(← t.input.isTty) then return sofar
  else do
    IO.sleep lookTime
    awaitEvents t sofar

/-- Writes a line of the log, if it is wanted. -/
def writeLine (t : Streams) (line : LogLine) : IO Unit :=
  match t.logLevel with
  | some level => if line.level.shownAt level then t.errors.putStrLn line.render else pure ()
  | none => pure ()

/-- Writes the log of a machine and leaves it empty. -/
def writeLog (t : Streams) (m : Console Sound) : IO (Console Sound) := do
  for n in m.log.reverse do
    writeLine t n.line
  for n in m.keypad.log.reverse do
    writeLine t n.line
  return { m with log := [], keypad := { m.keypad with log := [] } }

/-- Whether a machine has the bell ring. -/
def rings (m : Console Sound) : Bool :=
  match m.buzzer with
  | .inl b => b.speaker.pitch != 0
  | .inr _ => false

/-- Shows on the terminal what became of the display and the buzzer. -/
def present (t : Streams) (before after : Console Sound) : IO Unit := do
  if after.display.writes != before.display.writes then
    t.output.putStr (Terminal.topLeft after.display.shown)
    t.output.flush
  if rings after && !rings before then
    t.output.putStr Terminal.bell
    t.output.flush

/-- Brings the keyboard up to the time, with the events that have arrived. -/
def hear (t : Streams) (now : Nat) (m : Console Sound) : IO (Console Sound) := do
  let events := Keyboard.eventsOf (← readBytes t [])
  return { m with keypad := (m.keypad.elapse (now - m.keypad.now)).type events }

/-- Waits for a key ahead of the pass that asks for one. -/
def hearAhead (t : Streams) (m : Console Sound) : IO (Console Sound) := do
  if m.awaitsKey && m.keypad.poll.1.toBool then
    let later ← awaitEvents t []
    return { m with keypad := { m.keypad with incoming := m.keypad.incoming ++ later } }
  else return m

/-- The real world. Events are brought in ahead of each pass; what a part of a pass did is shown, and what
nobody will look at again is forgotten. -/
def surroundings (t : Streams) : Surroundings IO TerminalScreen Keyboard Sound where
  wake m := do
    let now ← IO.monoNanosNow
    return (now, ← hearAhead t (← hear t now m))
  attend before l := do
    present t before l.machine
    return { l with machine := ← writeLog t l.machine, passes := l.passes.take 1 }
  read _ := do
    let resumed ← IO.monoNanosNow
    return (resumed, ← IO.monoNanosNow)
  sleep l := do
    if 0 < l.sleep then IO.sleep (UInt32.ofNat ((l.sleep + 999999) / 1000000))
    return l

/-- Runs a loop to its end. -/
partial def runLoop (t : Streams) (l : Running) : IO (Except Fault Unit × Console Sound) := do
  match ← l.pass (surroundings t) with
  | (none, l) => runLoop t l
  | (some result, l) => return (result, l.machine)

/-- Runs the loop of a machine and gives the terminal back. -/
def runMachine (t : Streams) (m : Console Sound) :
    IO (Option (Except Fault Unit) × Console Sound) := do
  let (result, m) ← runLoop t (m.enterLoop (← IO.monoNanosNow))
  let (result, m) := m.leaveLoop result
  let m ← writeLog t m
  t.output.putStr (Terminal.showCursor ++
    String.join (List.replicate (pictureHeight / 2) Terminal.newRow))
  t.output.flush
  return (some result, m)

/-- A key for the random generator from the system. -/
def entropy : IO Random.Key := do
  let bytes ← IO.getRandomBytes 32
  return Vector.ofFn fun k => (List.range 4).foldl
    (fun w j => w * 256 + (bytes.get! (4 * k.val + j)).toUInt32) 0

/-- Runs a program image. -/
def runImage (t : Streams) (o : Options) (image : List UInt8) : IO UInt32 := do
  t.output.putStr (Terminal.blankAll ++ Terminal.hideCursor)
  t.output.flush
  let start ← IO.monoNanosNow
  let screen := TerminalScreen.openOn pictureWidth pictureHeight
  let ending ← launch o screen { now := start } (o.buzzer ({} : Bell)) (.piece image .done)
    (← entropy) (runMachine t)
  match ending with
  | none => return UInt32.ofNat failedCode
  | some ending =>
    match ending.logged with
    | some message => writeLine t ⟨.error, message⟩
    | none => pure ()
    return UInt32.ofNat ending.exit

/-- Does what a command line asks for. -/
def run (args : List String) : IO UInt32 := do
  let errors ← IO.getStderr
  match parse args with
  | .help =>
    IO.println usage
    return 0
  | .version =>
    IO.println versionText
    return 0
  | .refused r =>
    errors.putStrLn r.message
    return UInt32.ofNat refusedCode
  | .run o =>
    match ← (IO.FS.readBinFile o.program).toBaseIO with
    | .error e =>
      errors.putStrLn (toString e)
      return UInt32.ofNat failedCode
    | .ok bytes =>
      let t : Streams := {
        input := ← IO.getStdin, output := ← IO.getStdout, errors := errors
        logLevel := o.logLevel }
      runImage t o bytes.toList

end Cosmac.Main

/-- The entry point. -/
def main (args : List String) : IO UInt32 := Cosmac.Main.run args
