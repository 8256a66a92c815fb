import Cosmac.Picture

/-!
# A picture as points

A terminal canvas takes a picture as two lists of points, the lit and the unlit ones. Its vertical
axis points up, so the rows of the picture lie at zero and below. Both lists run from the last pixel
to the first.

Each list comes from a walk over the packed bytes that counts the pixels down. It shifts the bit of a
pixel out of its byte, and if it is the bit that is looked for, it finds column and row by division. A
byte may be missing or there may be no columns to divide by, and `WalkFault` is what a walk then
meets.
-/

namespace Cosmac

/-- What can stop a walk over packed pixels. -/
inductive WalkFault
  /-- There is no byte of this number. -/
  | noByte (index : Nat)
  /-- There are no columns to divide a number by. -/
  | noColumns
  deriving DecidableEq, Repr

namespace Picture

/-- The bit of pixel number `n` in packed bytes, as one or zero. -/
def shiftedBit (bytes : Array UInt8) (n : Nat) : Except WalkFault UInt8 :=
  match bytes[n / 8]? with
  | some b => .ok (1 &&& (b >>> UInt8.ofNat (7 - n % 8)))
  | none => .error (.noByte (n / 8))

/-- The point of pixel number `n` among `w` columns. -/
def pointOf (w n : Nat) : Nat × Int := (n % w, -((n / w : Nat) : Int))

/-- That point, if there are columns to divide by. -/
def pointAt (w n : Nat) : Except WalkFault (Nat × Int) :=
  if w = 0 then .error .noColumns else .ok (pointOf w n)

/-- The points of the pixels before number `n` whose bit is the one looked for, from the last pixel
to the first. -/
def walk (w : Nat) (bytes : Array UInt8) (bit : UInt8) : Nat → Except WalkFault (List (Nat × Int))
  | 0 => .ok []
  | n + 1 => do
    if (← shiftedBit bytes n) = bit then
      let point ← pointAt w n
      let rest ← walk w bytes bit n
      return point :: rest
    else walk w bytes bit n

variable {w h : Nat}

/-- The bit of a pixel that is lit, or of one that is not. -/
def bitFor (lit : Bool) : UInt8 := if lit then 1 else 0

/-- The points of the pixels that are lit, or of those that are not. -/
def points (p : Picture w h) (lit : Bool) : List (Nat × Int) :=
  match walk w p.bytes.toArray (bitFor lit) (w * h) with
  | .ok found => found
  | .error _ => []

end Picture

end Cosmac
