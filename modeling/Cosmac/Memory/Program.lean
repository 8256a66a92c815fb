import Cosmac.Memory
import Cosmac.Log

/-!
# Loading a program

An image is written at the start of program memory. What does not fit is cut off, and the rest of
memory stays as it was. A program is loaded from a source, which hands the image out piece by piece
and may fail at any point; then nothing is loaded.
-/

namespace Cosmac

/-- A source of bytes: the pieces it hands out, and how it ends. A read that gives nothing is the end of
the data, and one that was interrupted is made again and leaves no trace. So no piece stands for the
first, and no failure for the second: a source fails with an error of any other kind. -/
inductive Source
  /-- The end of the data. -/
  | done
  /-- The source fails. -/
  | fails (error : DeviceError)
  /-- Some bytes, and what follows them. -/
  | piece (bytes : List UInt8) (rest : Source)

namespace Source

/-- Everything a source hands out up to its end, or the error it ends in. An empty piece adds nothing. -/
def readAll : Source → Except DeviceError (List UInt8)
  | done => .ok []
  | fails e => .error e
  | piece bytes rest => rest.readAll.map (bytes ++ ·)

/-- A source that hands out the given pieces and then goes on as `last`. -/
def ofPieces (pieces : List (List UInt8)) (last : Source) : Source :=
  pieces.foldr piece last

/-- Cuts an image into pieces of at most `n` bytes, for `n` above zero. -/
def cut (n : Nat) (image : List UInt8) : List (List UInt8) :=
  if image = [] ∨ n = 0 then []
  else image.take n :: cut n (image.drop n)
termination_by image.length
decreasing_by
  rename_i h
  simp only [not_or] at h
  have := List.length_pos_iff.mpr h.1
  simp only [List.length_drop]
  omega

/-- Reading the pieces of a source that does not fail gives them joined. -/
theorem readAll_ofPieces_done (pieces : List (List UInt8)) :
    (ofPieces pieces done).readAll = .ok pieces.flatten := by
  induction pieces with
  | nil => rfl
  | cons p ps ih =>
    simp only [ofPieces, List.foldr_cons, readAll] at ih ⊢
    rw [ih]
    rfl

/-- A source that fails in the end gives that error, whatever it handed out before. -/
theorem readAll_ofPieces_fails (pieces : List (List UInt8)) (e : DeviceError) :
    (ofPieces pieces (fails e)).readAll = .error e := by
  induction pieces with
  | nil => rfl
  | cons p ps ih =>
    simp only [ofPieces, List.foldr_cons, readAll] at ih ⊢
    rw [ih]
    rfl

end Source

namespace Memory

/-- How many bytes of an image fit. -/
def loadedLength (image : List UInt8) : Nat := min image.length size

/-- Memory after an image has been loaded. -/
def load (m : Memory) (image : List UInt8) : Memory := m.put 0 (image.take size)

/-- The notice given when an image does not fit. -/
def loadNotices (image : List UInt8) : List Notice :=
  if size < image.length then [.truncated image.length size] else []

end Memory

end Cosmac
