import Cosmac.Proofs.Steps
import Cosmac.Proofs.Stores

/-!
# What loading a program leaves

`Machine.Loaded` says what a machine is after an image was loaded: the image is at the start of memory,
cut off where memory ends, and what an earlier program left behind it is still there, like everything
else but the log. A source that hands the image out in pieces comes to the same, however the pieces are
cut, and a source that fails leaves the machine as it was, however much it handed out before
(`load_in_pieces`).

A program is a list of words. Their bytes follow each other (`Word.getElem?_flatMap_bytes`), so once
they are written each word is read at its place (`Memory.Written.readWord`).
-/

namespace Cosmac

/-! ## Words as bytes -/

namespace Word

/-- A word as it is stored, high byte first. -/
def bytes (w : Word) : List UInt8 := [Word.high w, Word.low w]

/-- A word has two bytes. -/
theorem length_bytes (w : Word) : (bytes w).length = 2 := rfl

/-- A word is the number that its two bytes make. -/
theorem toNat_eq_bytes (w : Word) : w.toNat = 256 * (Word.high w).toNat + (Word.low w).toNat := by
  have hlt := w.toNat_lt
  simp only [Word.high, Word.low, UInt8.toNat_ofNat']
  omega

/-- Words have twice as many bytes as there are words. -/
theorem length_flatMap_bytes (words : List Word) :
    (words.flatMap bytes).length = 2 * words.length := by
  induction words with
  | nil => rfl
  | cons w words ih =>
    rw [List.flatMap_cons, List.length_append, ih, length_bytes, List.length_cons]
    omega

/-- The bytes of a word stand where twice as many bytes as words are before them. -/
theorem getElem?_flatMap_bytes {words : List Word} {k : Nat} (h : k < words.length) :
    (words.flatMap bytes)[2 * k]? = some (Word.high words[k]) ∧
      (words.flatMap bytes)[2 * k + 1]? = some (Word.low words[k]) := by
  induction words generalizing k with
  | nil => exact absurd h (Nat.not_lt_zero k)
  | cons w words ih =>
    cases k with
    | zero => exact ⟨rfl, rfl⟩
    | succ k => exact ih (Nat.lt_of_succ_lt_succ h)

end Word

/-- Words that were written can be read, each at its place. -/
theorem Memory.Written.readWord {m m' : Memory} {start : Address} {words : List Word}
    (h : m.Written start (words.flatMap Word.bytes) m') {k : Nat} (hk : k < words.length) {a : Address}
    (ha : a.toNat = start.toNat + 2 * k) : m'.readWord a = .ok words[k] := by
  have hlength := Word.length_flatMap_bytes words
  obtain ⟨hhigh, hlow⟩ := Word.getElem?_flatMap_bytes hk
  rw [List.getElem?_eq_some_iff] at hhigh hlow
  obtain ⟨hjhigh, hhigh⟩ := hhigh
  obtain ⟨hjlow, hlow⟩ := hlow
  have hfirst := h.bytes _ hjhigh a ha
  have htop := (spans_of_readByte hfirst).2
  unfold top at htop
  have hnext : (a + 1).toNat = start.toNat + (2 * k + 1) := by
    rw [toNat_next (by omega), ha, Nat.add_assoc]
  have hsecond := h.bytes _ hjlow (a + 1) hnext
  rw [hhigh] at hfirst
  rw [hlow] at hsecond
  exact readWord_eq_ok_iff.2 ⟨_, _, hfirst, hsecond, Word.toNat_eq_bytes _⟩

/-- Every source hands out some pieces and then ends or fails. -/
theorem Source.eq_ofPieces (source : Source) :
    (∃ pieces, source = ofPieces pieces done) ∨ ∃ pieces e, source = ofPieces pieces (fails e) := by
  induction source with
  | done => exact .inl ⟨[], rfl⟩
  | fails e => exact .inr ⟨[], e, rfl⟩
  | piece bytes rest ih =>
    rcases ih with ⟨pieces, rfl⟩ | ⟨pieces, e, rfl⟩
    · exact .inl ⟨bytes :: pieces, rfl⟩
    · exact .inr ⟨bytes :: pieces, e, rfl⟩

namespace Machine

variable {D K B : Type}

/-- What is there after `n` bytes of an image were loaded: these at the start of memory, as many as fit,
and the rest of memory, the registers, the timers and all else but the log as before. -/
structure Loaded (image : List UInt8) (before : Machine D K B) (n : Nat) (after : Machine D K B) :
    Prop where
  count : n = min image.length 3584
  memory : before.core.memory.Written 0x200 (image.take n) after.core.memory
  others : after = { before with
    core := { before.core with memory := after.core.memory }, log := after.log }

/-- Loading loads. -/
theorem load_loaded (m : Machine D K B) (image : List UInt8) :
    Loaded image m (m.load image).1 (m.load image).2 where
  count := rfl
  memory := by
    have hcount : (m.load image).1 = min 0xe00 image.length := Nat.min_comm _ _
    rw [hcount, ← List.take_eq_take_min]
    exact m.core.memory.written_load image
  others := rfl

/-- Loading from a source that hands an image out in pieces and then ends is loading the image. -/
theorem loadFrom_ofPieces_done (m : Machine D K B) (pieces : List (List UInt8)) :
    m.loadFrom (.ofPieces pieces .done) =
      (.ok (m.load pieces.flatten).1, (m.load pieces.flatten).2) := by
  rw [loadFrom, Source.readAll_ofPieces_done]

/-- Loading from a source that fails in the end changes nothing. -/
theorem loadFrom_ofPieces_fails (m : Machine D K B) (pieces : List (List UInt8)) (e : DeviceError) :
    m.loadFrom (.ofPieces pieces (.fails e)) = (.error (.device e), m) := by
  rw [loadFrom, Source.readAll_ofPieces_fails]

/-- Loading an image leaves the bytes of it that fit at the start of memory and changes nothing else but
the log. To load from a source is the same, however the image is cut into pieces. If the source fails,
its error is passed on and the machine is as it was, and every source ends in one of these two ways. When
a program of at most 1792 words is loaded, each word can be read at its place. -/
theorem load_in_pieces (m : Machine D K B) (image : List UInt8) :
    Loaded image m (m.load image).1 (m.load image).2 ∧
    (∀ pieces : List (List UInt8), pieces.flatten = image →
      m.loadFrom (.ofPieces pieces .done) = (.ok (m.load image).1, (m.load image).2)) ∧
    (∀ (pieces : List (List UInt8)) (e : DeviceError),
      m.loadFrom (.ofPieces pieces (.fails e)) = (.error (.device e), m)) ∧
    (∀ source : Source, (∃ pieces, source = .ofPieces pieces .done) ∨
      ∃ pieces e, source = .ofPieces pieces (.fails e)) ∧
    ∀ words : List Word, words.length ≤ 1792 → words.flatMap Word.bytes = image →
      ∀ (k : Nat) (h : k < words.length) (a : Address), a.toNat = 0x200 + 2 * k →
        (m.load image).2.core.memory.readWord a = .ok words[k] := by
  refine ⟨m.load_loaded image, ?_, m.loadFrom_ofPieces_fails, Source.eq_ofPieces, ?_⟩
  · rintro pieces rfl
    exact m.loadFrom_ofPieces_done pieces
  · rintro words hwords rfl k hk a ha
    have hlength := Word.length_flatMap_bytes words
    have hloaded := m.core.memory.written_load (words.flatMap Word.bytes)
    rw [List.take_of_length_le (by omega)] at hloaded
    exact hloaded.readWord hk ha

/-- A program of two words is loaded byte by byte over a longer one, whose last byte stays. -/
theorem load_in_pieces_leftover :
    let longer := (headless.load [0x60, 0x01, 0x12, 0x00, 0xff]).2
    let image : List UInt8 := [0x00, 0xe0, 0xa2, 0x06]
    [[0x00], [0xe0, 0xa2], [0x06]].flatten = image ∧
    [(0x00e0 : Word), 0xa206].flatMap Word.bytes = image ∧
    (longer.loadFrom (.ofPieces [[0x00], [0xe0, 0xa2], [0x06]] .done)).1 = .ok 4 ∧
    (longer.load image).2.core.memory.readWord 0x202 = .ok 0xa206 ∧
    (longer.load image).2.core.memory.readByte 0x204 = .ok 0xff := by
  intro longer image
  obtain ⟨hloaded, hpieces, -, -, hwords⟩ := load_in_pieces longer image
  obtain ⟨hlonger, -⟩ := load_in_pieces headless [0x60, 0x01, 0x12, 0x00, 0xff]
  have hfrom := hpieces [[0x00], [0xe0, 0xa2], [0x06]] rfl
  refine ⟨rfl, rfl, ?_, hwords [0x00e0, 0xa206] (by decide) rfl 1 (by decide) 0x202 (by decide), ?_⟩
  · rw [hfrom]
    rfl
  · rw [hloaded.memory.others 0x204 (by decide)]
    exact hlonger.memory.bytes 4 (by decide) 0x204 (by decide)

end Machine

end Cosmac
