/-!
# Hexadecimal text

Messages and listings give addresses and bytes in hexadecimal, with a fixed number of digits and in
either letter case. `hex` writes the digits of a number with zeros in front up to a width, and
`upperHex` writes the same with capital letters. A number that needs more digits than the width gets
all of them.
-/

namespace Cosmac.Text

/-- The digits of `n` to base 16 in lower case, with zeros in front up to `width` digits. -/
def hexDigits (width n : Nat) : List Char :=
  let digits := Nat.toDigits 16 n
  List.replicate (width - digits.length) '0' ++ digits

/-- `n` in hexadecimal, at least `width` digits, in lower case. -/
def hex (width n : Nat) : String :=
  String.ofList (hexDigits width n)

/-- `n` in hexadecimal, at least `width` digits, in capitals. -/
def upperHex (width n : Nat) : String :=
  String.ofList ((hexDigits width n).map Char.toUpper)

/-- A list of bytes as two lower-case digits each, without separators. -/
def hexBytes (bytes : List UInt8) : String :=
  String.ofList (bytes.flatMap fun b => hexDigits 2 b.toNat)

end Cosmac.Text
