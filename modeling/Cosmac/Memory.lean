import Cosmac.Fault

/-!
# Program memory

A program sees the 3584 bytes from `0x200` to `0xfff` and nothing else. `Memory` holds them by their
offset from `0x200`. An access by address first goes through `offset`, which checks the whole range
asked for, so an access either succeeds entirely or changes nothing.

`cell` is the view that everything here is described by: `cell_put` says what each byte is after a
write, and the checked operations are `offset` followed by a look or a `put`.
-/

namespace Cosmac

/-- The bytes that programs can see. -/
structure Memory where
  bytes : Vector UInt8 0xe00
  deriving DecidableEq, Repr

namespace Memory

/-- The address of the first byte. -/
def base : Nat := 0x200

/-- How many bytes there are. -/
def size : Nat := 0xe00

/-- The first address above the last byte. -/
def top : Nat := 0x1000

/-- Memory full of zeros. -/
def zeroed : Memory := ⟨Vector.replicate 0xe00 0⟩

/-- The byte at an offset; zero past the end. -/
def cell (m : Memory) (k : Nat) : UInt8 := m.bytes[k]?.getD 0

/-- The `n` bytes from offset `k` on. -/
def window (m : Memory) (k n : Nat) : List UInt8 :=
  (List.range n).map fun j => m.cell (k + j)

/-- Writes bytes from offset `k` on; what would lie past the end is dropped. -/
def put (m : Memory) (k : Nat) : List UInt8 → Memory
  | [] => m
  | b :: rest => put ⟨m.bytes.setIfInBounds k b⟩ (k + 1) rest

/-- The offset of an access to `n` bytes at an address. The range has to lie in memory; if it does
not, the fault names the first address of it that is outside, which is the address itself when that
is outside already. -/
def offset (address : Address) (n : Nat) : Except Fault Nat :=
  if address.toNat < base then .error (.outsideMemory address)
  else if size < address.toNat - base + n then
    .error (.outsideMemory (if address.toNat < top then UInt16.ofNat top else address))
  else .ok (address.toNat - base)

/-- The `n` bytes at an address. -/
def read (m : Memory) (address : Address) (n : Nat) : Except Fault (List UInt8) :=
  (offset address n).map fun k => m.window k n

/-- Writes bytes at an address. -/
def write (m : Memory) (address : Address) (data : List UInt8) : Except Fault Memory :=
  (offset address data.length).map fun k => m.put k data

/-- The byte at an address. -/
def readByte (m : Memory) (address : Address) : Except Fault UInt8 :=
  (offset address 1).map fun k => m.cell k

/-- Sets the byte at an address. -/
def writeByte (m : Memory) (address : Address) (value : UInt8) : Except Fault Memory :=
  m.write address [value]

/-- The word at an address, high byte first. -/
def readWord (m : Memory) (address : Address) : Except Fault Word :=
  (offset address 2).map fun k => Word.ofBytes (m.cell k) (m.cell (k + 1))

/-- Sets `n` bytes at an address to one value. -/
def fill (m : Memory) (address : Address) (n : Nat) (value : UInt8) : Except Fault Memory :=
  (offset address n).map fun k => m.put k (List.replicate n value)

/-- Memory is the list of its cells. -/
theorem ext_cell {m m' : Memory} (h : ∀ k, k < 0xe00 → m.cell k = m'.cell k) : m = m' := by
  cases m
  cases m'
  congr 1
  refine Vector.ext fun k hk => ?_
  have := h k hk
  simpa [cell, hk] using this

/-- What each byte is after a write. -/
theorem cell_put (data : List UInt8) (m : Memory) (k j : Nat) :
    (m.put k data).cell j =
      if k ≤ j ∧ j < k + data.length ∧ j < 0xe00 then data.getD (j - k) 0 else m.cell j := by
  induction data generalizing m k with
  | nil => simp [put]; omega
  | cons b rest ih =>
    rw [put, ih]
    simp only [cell, List.length_cons, Vector.getElem?_setIfInBounds]
    by_cases hkj : k = j
    · subst hkj
      rw [if_neg (by omega)]
      by_cases hk : k < 0xe00
      · simp [hk]
      · simp [hk]
    · simp only [if_neg hkj]
      by_cases hin : k + 1 ≤ j ∧ j < k + 1 + rest.length ∧ j < 0xe00
      · rw [if_pos hin, if_pos (by omega), show j - k = j - (k + 1) + 1 by omega,
          List.getD_cons_succ]
      · rw [if_neg hin, if_neg (by omega)]

/-- A window shows as many bytes as it is wide. -/
theorem length_window (m : Memory) (k n : Nat) : (m.window k n).length = n := by
  rw [window, List.length_map, List.length_range]

/-- As many bytes are read as were asked for. -/
theorem length_of_read {m : Memory} {address : Address} {n : Nat} {bytes : List UInt8}
    (h : m.read address n = .ok bytes) : bytes.length = n := by
  rw [read] at h
  rcases hk : offset address n with f | k
  · rw [hk] at h
    cases h
  · rw [hk] at h
    cases h
    exact m.length_window k n

/-- An access succeeds exactly when its range lies in memory. -/
theorem offset_eq_ok_iff {address : Address} {n k : Nat} :
    offset address n = .ok k ↔
      base ≤ address.toNat ∧ address.toNat + n ≤ top ∧ k = address.toNat - base := by
  unfold offset base size top
  split
  · simp; omega
  · split
    · simp; omega
    · simp; omega

end Memory

end Cosmac
