import Cosmac.Log

/-!
# The command line

The program is started with the path of a program image and some options, in any order. An option
begins with two dashes and is named in full; one that takes a value has it after an equals sign or in
the next argument. `-h` and `-V` are short for `--help` and `--version`. Two dashes alone end the
options, and everything after them is a path.

Arguments are read from left to right, and the first one that asks for help or the version, or that
cannot be accepted, decides. Nothing may be given twice. A value in an argument of its own must not
look like an option.
-/

namespace Cosmac.CommandLine

/-- What the program is asked to do. -/
structure Options where
  /-- The path of the program image. -/
  program : String
  /-- Instructions per second. -/
  rate : Nat := 700
  /-- The seed of the random generator. -/
  seed : Option Nat := none
  /-- After how many cycles to end. -/
  cycles : Option Nat := none
  /-- Whether `EXA1` skips on a key that is up. -/
  fixKeyUp : Bool := false
  /-- Whether to use the buzzer of the computer. -/
  beep : Bool := false
  /-- How much to log; nothing at all if missing. -/
  logLevel : Option Level := some .error
  deriving DecidableEq, Repr

/-- Why a command line is refused. -/
inductive Refusal
  | unknownOption (arg : String)
  | missingValue (option : String)
  | unexpectedValue (option : String)
  | badValue (option value : String)
  | repeated (option : String)
  | extraArgument (arg : String)
  | emptyPath
  | noProgram
  deriving DecidableEq, Repr

/-- What a command line means. -/
inductive Parsed
  | run (o : Options)
  | help
  | version
  | refused (r : Refusal)
  deriving DecidableEq, Repr

/-- The options that take a value. -/
inductive Setting
  | rate
  | seed
  | cycles
  | logLevel
  deriving DecidableEq, Repr

/-- The options that take none. -/
inductive Switch
  | fixKeyUp
  | beep
  | help
  | version
  deriving DecidableEq, Repr

/-- The option with a value that a name stands for. -/
def Setting.ofName : String → Option Setting
  | "ips" => some rate
  | "seed" => some seed
  | "cycles" => some cycles
  | "log-level" => some logLevel
  | _ => none

/-- The option without a value that a name stands for. -/
def Switch.ofName : String → Option Switch
  | "fix-key-up" => some fixKeyUp
  | "beep" => some beep
  | "help" => some help
  | "version" => some version
  | _ => none

/-- One argument by its looks. -/
inductive Argument
  | endOfOptions
  | long (name : String) (value : Option String)
  | short (letters : List Char)
  | path (text : String)
  deriving DecidableEq, Repr

/-- Looks at an argument. A single dash is a path. -/
def Argument.ofString (arg : String) : Argument :=
  match arg.toList with
  | '-' :: '-' :: [] => .endOfOptions
  | '-' :: '-' :: cs =>
    let name := String.ofList (cs.takeWhile (· != '='))
    match cs.dropWhile (· != '=') with
    | _ :: value => .long name (some (String.ofList value))
    | [] => .long name none
  | '-' :: c :: cs => .short (c :: cs)
  | _ => .path arg

/-- The value of decimal digits, of which there must be some. -/
def decimal? (digits : List Char) : Option Nat :=
  if digits ≠ [] ∧ digits.all Char.isDigit then
    some (digits.foldl (fun n c => 10 * n + (c.toNat - '0'.toNat)) 0)
  else none

/-- A number below `bound` in decimal digits, with a plus sign or none. -/
def unsigned? (bound : Nat) (text : String) : Option Nat :=
  let digits := match text.toList with
    | '+' :: digits => digits
    | digits => digits
  (decimal? digits).filter (· < bound)

/-- A number below `bound` in decimal digits, with a sign or none. Only zero can have a minus. -/
def signed? (bound : Nat) (text : String) : Option Nat :=
  match text.toList with
  | '-' :: digits => (decimal? digits).filter (· = 0)
  | _ => unsigned? bound text

/-- The numbers of 32 bits are those below this one. -/
def wordBound : Nat := 0x100000000

/-- The numbers of 64 bits are those below this one. -/
def longBound : Nat := 0x10000000000000000

/-- The names of the log levels, and of having no log. -/
def logLevel? : String → Option (Option Level)
  | "off" => some none
  | "error" => some (some .error)
  | "warn" => some (some .warn)
  | "info" => some (some .info)
  | "debug" => some (some .debug)
  | "trace" => some (some .trace)
  | _ => none

/-- What was read so far. -/
structure Draft where
  program : Option String := none
  rate : Option Nat := none
  seed : Option Nat := none
  cycles : Option Nat := none
  logLevel : Option (Option Level) := none
  fixKeyUp : Bool := false
  beep : Bool := false
  deriving DecidableEq, Repr

namespace Draft

/-- Fills in a value that must be readable and not there yet. -/
def fill {α : Type} (old value : Option α) (name text : String) (store : α → Draft) :
    Except Refusal Draft :=
  match value with
  | none => .error (.badValue name text)
  | some v => if old.isSome then .error (.repeated name) else .ok (store v)

/-- Takes in an option with its value. -/
def set (d : Draft) (s : Setting) (name text : String) : Except Refusal Draft :=
  match s with
  | .rate => fill d.rate (signed? wordBound text) name text fun v => { d with rate := some v }
  | .seed => fill d.seed (unsigned? longBound text) name text fun v => { d with seed := some v }
  | .cycles =>
    fill d.cycles (unsigned? longBound text) name text fun v => { d with cycles := some v }
  | .logLevel => fill d.logLevel (logLevel? text) name text fun v => { d with logLevel := some v }

/-- Takes in a path, of which there is one. -/
def addPath (d : Draft) (path : String) : Except Refusal Draft :=
  if d.program.isSome then .error (.extraArgument path)
  else if path.isEmpty then .error .emptyPath
  else .ok { d with program := some path }

/-- The options once all arguments have been read. -/
def finish (d : Draft) : Parsed :=
  match d.program with
  | none => .refused .noProgram
  | some program => .run {
      program
      rate := d.rate.getD 700
      seed := d.seed
      cycles := d.cycles
      fixKeyUp := d.fixKeyUp
      beep := d.beep
      logLevel := d.logLevel.getD (some .error) }

/-- Reads arguments all of which are paths. -/
def readPaths (d : Draft) : List String → Parsed
  | [] => d.finish
  | arg :: rest =>
    match d.addPath arg with
    | .ok d => d.readPaths rest
    | .error r => .refused r

/-- Reads arguments one after the other. -/
def read (d : Draft) : List String → Parsed
  | [] => d.finish
  | arg :: rest =>
    match Argument.ofString arg with
    | .endOfOptions => d.readPaths rest
    | .path text =>
      match d.addPath text with
      | .ok d => d.read rest
      | .error r => .refused r
    | .short ('h' :: _) => .help
    | .short ('V' :: _) => .version
    | .short _ => .refused (.unknownOption arg)
    | .long name value =>
      match Setting.ofName name, Switch.ofName name, value with
      | some s, _, some text =>
        match d.set s name text with
        | .ok d => d.read rest
        | .error r => .refused r
      | some s, _, none =>
        match rest with
        | [] => .refused (.missingValue name)
        | text :: rest =>
          match Argument.ofString text with
          | .path text =>
            match d.set s name text with
            | .ok d => d.read rest
            | .error r => .refused r
          | _ => .refused (.missingValue name)
      | none, some _, some _ => .refused (.unexpectedValue name)
      | none, some .help, none => .help
      | none, some .version, none => .version
      | none, some .fixKeyUp, none =>
        if d.fixKeyUp then .refused (.repeated name) else { d with fixKeyUp := true }.read rest
      | none, some .beep, none =>
        if d.beep then .refused (.repeated name) else { d with beep := true }.read rest
      | none, none, _ => .refused (.unknownOption arg)

end Draft

/-- Reads a command line. -/
def parse (args : List String) : Parsed := ({} : Draft).read args

end Cosmac.CommandLine
