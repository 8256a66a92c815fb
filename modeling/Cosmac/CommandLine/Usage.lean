import Cosmac.CommandLine.Options

/-!
# What the program says about itself

The texts of `--help` and `--version`, and the reason why a command line is refused.
-/

namespace Cosmac.CommandLine

/-- The name of the program and its version. -/
def versionText : String := "cosmac 0.1.0"

/-- How the program is used. -/
def usage : String := String.intercalate "\n" [
  "Runs a CHIP-8 program on a terminal",
  "",
  "Usage: cosmac [OPTIONS] <PROGRAM>",
  "",
  "Options:",
  "      --ips <N>            Instructions to execute per second [default: 700]",
  "      --seed <SEED>        Seed for the random number generator",
  "      --cycles <N>         Stop after this many cycles",
  "      --fix-key-up         Make EXA1 skip when the key is up, not down",
  "      --beep               Ring the bell when the tone starts",
  "      --log-level <LEVEL>  off, error, warn, info, debug or trace [default: error]",
  "  -h, --help               Print this text",
  "  -V, --version            Print the version"]

/-- Why a command line is refused, in words. -/
def Refusal.message : Refusal → String
  | unknownOption arg => "unexpected argument " ++ arg
  | missingValue option => "--" ++ option ++ " needs a value"
  | unexpectedValue option => "--" ++ option ++ " takes no value"
  | badValue option value => "--" ++ option ++ " cannot be " ++ value
  | repeated option => "--" ++ option ++ " is given twice"
  | extraArgument arg => "unexpected argument " ++ arg
  | emptyPath => "the path of the program is empty"
  | noProgram => "no program is given"

end Cosmac.CommandLine
