/-!
# Pictures

A picture of `w` by `h` pixels is kept as packed bits: the pixels follow each other row by row, eight
to a byte, the most significant bit first. `cell` reads a pixel by its place in that order and
`pixel` by its coordinates, which wrap around on both axes. A picture without pixels shows nothing.

Toggling a pixel is the one way in which a picture changes short of being blanked, and
`pixel_toggle` says what it does: that pixel is inverted and no other.
-/

namespace Cosmac

/-- Bit `k` of a byte, counted from the most significant one. -/
def bitOf (b : UInt8) (k : Nat) : Bool := b.toBitVec.getMsbD k

/-- The byte in which only bit `k`, counted from the most significant one, is set. -/
def maskOf (k : Nat) : UInt8 := 0x80 >>> UInt8.ofNat k

/-- The mask of a bit has that bit and no other. -/
theorem bitOf_maskOf {j k : Nat} (hj : j < 8) (hk : k < 8) : bitOf (maskOf k) j = decide (j = k) := by
  have mask : ∀ j k : Fin 8, bitOf (maskOf k) j = decide (j.val = k.val) := by decide
  exact mask ⟨j, hj⟩ ⟨k, hk⟩

/-- Inverting the bit of a mask inverts that bit and no other. -/
theorem bitOf_xor_maskOf (b : UInt8) {j k : Nat} (hj : j < 8) (hk : k < 8) :
    bitOf (b ^^^ maskOf k) j = (bitOf b j ^^ decide (j = k)) := by
  rw [← bitOf_maskOf hj hk]
  simp only [bitOf, UInt8.toBitVec_xor, BitVec.getMsbD_xor]

/-- How many bytes hold `n` pixels. -/
def byteCount (n : Nat) : Nat := (n + 7) / 8

/-- A picture of `w` columns and `h` rows. -/
structure Picture (w h : Nat) where
  /-- The pixels, packed. -/
  bytes : Vector UInt8 (byteCount (w * h))
  deriving DecidableEq, Repr

namespace Picture

variable {w h : Nat}

/-- A picture with no pixel lit. -/
def blank (w h : Nat) : Picture w h := ⟨Vector.replicate _ 0⟩

/-- The packed pixels. -/
def data (p : Picture w h) : List UInt8 := p.bytes.toList

/-- Pixel number `n`, row by row. -/
def cell (p : Picture w h) (n : Nat) : Bool := bitOf (p.bytes[n / 8]?.getD 0) (n % 8)

/-- The number of the pixel at column `x` and row `y`, which wrap around. -/
def place (w h x y : Nat) : Nat := y % h * w + x % w

/-- The place of a pixel is that of one of the pixels. -/
theorem place_lt (x y : Nat) (area : 0 < w * h) : place w h x y < w * h := by
  have hw : 0 < w := Nat.pos_of_mul_pos_right area
  have hh : 0 < h := Nat.pos_of_mul_pos_left area
  have hx : x % w < w := Nat.mod_lt _ hw
  have hy : y % h + 1 ≤ h := Nat.mod_lt _ hh
  calc place w h x y < y % h * w + w := Nat.add_lt_add_left hx _
    _ = (y % h + 1) * w := by rw [Nat.add_mul, Nat.one_mul]
    _ ≤ h * w := Nat.mul_le_mul_right _ hy
    _ = w * h := Nat.mul_comm _ _

/-- The byte of a pixel is one of the bytes. -/
theorem div_lt_byteCount {n m : Nat} (hn : n < m) : n / 8 < byteCount m := by
  unfold byteCount
  omega

/-- The pixel at column `x` and row `y`. -/
def pixel (p : Picture w h) (x y : Nat) : Bool :=
  if 0 < w * h then p.cell (place w h x y) else false

/-- Inverts the pixel at column `x` and row `y`. -/
def toggle (p : Picture w h) (x y : Nat) : Picture w h :=
  if area : 0 < w * h then
    let n := place w h x y
    have inside : n / 8 < byteCount (w * h) := div_lt_byteCount (place_lt x y area)
    ⟨p.bytes.set (n / 8) (p.bytes[n / 8] ^^^ maskOf (n % 8))⟩
  else p

/-- What each cell is after a pixel was inverted. -/
theorem cell_toggle (p : Picture w h) (x y : Nat) (area : 0 < w * h) (n : Nat) :
    (p.toggle x y).cell n = (p.cell n ^^ decide (n = place w h x y)) := by
  have inside := div_lt_byteCount (place_lt x y area)
  have hn : n % 8 < 8 := Nat.mod_lt _ (by decide)
  have hp : place w h x y % 8 < 8 := Nat.mod_lt _ (by decide)
  simp only [toggle, dif_pos area, cell, Vector.getElem?_set]
  by_cases hb : place w h x y / 8 = n / 8
  · rw [if_pos hb]
    simp only [Option.getD_some, bitOf_xor_maskOf _ hn hp]
    rw [← hb, Vector.getElem?_eq_getElem inside, Option.getD_some]
    congr 1
    rw [decide_eq_decide]
    omega
  · rw [if_neg hb]
    have : n ≠ place w h x y := fun e => hb (by rw [e])
    simp [this]

/-- What each pixel is after a pixel was inverted. -/
theorem pixel_toggle (p : Picture w h) (x y x' y' : Nat) (area : 0 < w * h) :
    (p.toggle x y).pixel x' y' =
      (p.pixel x' y' ^^ decide (place w h x' y' = place w h x y)) := by
  simp only [pixel, if_pos area, cell_toggle p x y area]

end Picture

end Cosmac
