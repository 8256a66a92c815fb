import Cosmac.Keyboard
import Mathlib.Tactic.ByContra

/-!
# What an event asks for

A terminal event asks to quit (`Event.IsQuit`), or it presses a key of the keypad (`Event.Presses`), or
it is of no interest. Both conditions are said in terms of the characters of the keymap, which count in
either case, and `handle_cases` compares them with what handling an event does: a request to quit is
refused and leaves the keyboard as it was, a press is remembered and answered, and anything else is
noted in the log and no more.
-/

namespace Cosmac.Keyboard

/-! ## Characters in either case -/

/-- A character is either the one that it becomes in lower case, or that one in upper case. -/
theorem eq_toLower_or_eq_toUpper (c : Char) : c = c.toLower ∨ c = c.toLower.toUpper := by
  by_cases hupper : c.val ≥ 'A'.val ∧ c.val ≤ 'Z'.val
  · right
    have hlower : c.toLower.val = c.val + 32 := by
      unfold Char.toLower
      rw [dif_pos hupper]
      rfl
    have hletter : 'a'.val ≤ c.toLower.val ∧ c.toLower.val ≤ 'z'.val := by
      rw [hlower]
      simp only [UInt32.le_iff_toNat_le, ge_iff_le, UInt32.toNat_add, Char.reduceVal,
        UInt32.reduceToNat] at hupper ⊢
      omega
    have hraised : c.toLower.toUpper.val = c.toLower.val + ('A'.val - 'a'.val) := by
      unfold Char.toUpper
      rw [dif_pos hletter]
    have hback : (32 : UInt32) + ('A'.val - 'a'.val) = 0 := by decide
    rw [Char.ext_iff, hraised, hlower, UInt32.add_assoc, hback, UInt32.add_zero]
  · left
    unfold Char.toLower
    rw [dif_neg hupper]

/-- The key of a character is the one that the keymap has for it in one of the two cases. -/
theorem keyOf_eq_some_iff {c : Char} {key : UInt8} : keyOf c = some key ↔
    ∃ entry ∈ keymap, entry.2 = key ∧ (c = entry.1 ∨ c = entry.1.toUpper) := by
  unfold keyOf
  constructor
  · intro h
    obtain ⟨before, after, hsplit, -⟩ := List.lookup_eq_some_iff.1 h
    have hentry : (c.toLower, key) ∈ keymap := by
      rw [hsplit]
      exact List.mem_append_right _ List.mem_cons_self
    exact ⟨(c.toLower, key), hentry, rfl, eq_toLower_or_eq_toUpper c⟩
  · rintro ⟨entry, hentry, rfl, hc⟩
    have hlower : ∀ e ∈ keymap, e.1.toLower = e.1 ∧ e.1.toUpper.toLower = e.1 := by decide
    have hlookup : ∀ e ∈ keymap, keymap.lookup e.1 = some e.2 := by decide
    obtain ⟨hsame, hupper⟩ := hlower entry hentry
    rcases hc with rfl | rfl
    · rw [hsame]
      exact hlookup entry hentry
    · rw [hupper]
      exact hlookup entry hentry

/-! ## Events -/

namespace Event

/-- The key of a character was pressed, whatever modifiers were held. -/
def IsChar (c : Char) : Event → Prop
  | .key e => e.key = .char c
  | _ => False

/-- A request to quit: the escape key, or a small `c` with the control key held. -/
def IsQuit : Event → Prop
  | .key e => e.key = .escape ∨ e.key = .char 'c' ∧ e.modifiers.control = true
  | _ => False

/-- A press of a key of the keypad: its character in the keymap, in either case, unless it is part of a
request to quit. -/
def Presses (e : Event) (key : UInt8) : Prop :=
  ¬ e.IsQuit ∧ ∃ entry ∈ keymap, entry.2 = key ∧ (e.IsChar entry.1 ∨ e.IsChar entry.1.toUpper)

/-- An event that a wait for a key ends with. -/
def Settles (e : Event) : Prop := e.IsQuit ∨ ∃ key, e.Presses key

instance : DecidablePred IsQuit
  | .key e => inferInstanceAs (Decidable (e.key = .escape ∨ _))
  | .mouse _ _ | .resize _ _ => inferInstanceAs (Decidable False)

/-- What is neither a character nor a request to quit is of no interest. -/
theorem not_settles {e : Event} (hquit : ¬ e.IsQuit) (hchar : ∀ c, ¬ e.IsChar c) :
    ¬ e.Settles := by
  rintro (h | ⟨key, -, entry, -, -, h | h⟩)
  · exact hquit h
  · exact hchar _ h
  · exact hchar _ h

end Event

theorem meaning_eq_quit_iff {e : KeyEvent} : e.meaning = .quit ↔ (Event.key e).IsQuit := by
  obtain ⟨key, held⟩ := e
  cases key with
  | char c =>
    simp only [KeyEvent.meaning, Event.IsQuit, Key.char.injEq, reduceCtorEq, false_or]
    split
    · rename_i hquit
      exact iff_of_true rfl hquit
    · rename_i hquit
      refine iff_of_false ?_ hquit
      split <;> exact nofun
  | escape => exact iff_of_true rfl (.inl rfl)
  | _ => exact iff_of_false nofun (by simp [Event.IsQuit])

theorem meaning_eq_pressed_iff {e : KeyEvent} {key : UInt8} :
    e.meaning = .pressed key ↔ (Event.key e).Presses key := by
  rw [Event.Presses, ← meaning_eq_quit_iff]
  obtain ⟨typed, held⟩ := e
  cases typed with
  | char c =>
    have hkey : keyOf c = some key ↔ ∃ entry ∈ keymap, entry.2 = key ∧
        ((Event.key ⟨.char c, held⟩).IsChar entry.1 ∨
          (Event.key ⟨.char c, held⟩).IsChar entry.1.toUpper) := by
      simp only [keyOf_eq_some_iff, Event.IsChar, Key.char.injEq]
    rw [← hkey]
    simp only [KeyEvent.meaning]
    split
    · simp
    · cases keyOf c <;> simp
  | _ => simp [KeyEvent.meaning, Event.IsChar]

/-- With the control key held, a small letter asks to quit where the capital one presses a key. -/
example : KeyEvent.meaning ⟨.char 'c', { control := true }⟩ = .quit ∧
    KeyEvent.meaning ⟨.char 'C', { control := true }⟩ = .pressed 0xb := by decide

/-- Only sixteen keys can be pressed. -/
theorem Event.Presses.toNat_lt {e : Event} {key : UInt8} (h : e.Presses key) : key.toNat < 16 := by
  obtain ⟨-, entry, hentry, rfl, -⟩ := h
  have all : ∀ entry ∈ keymap, entry.2.toNat < 16 := by decide
  exact all entry hentry

/-- An event presses one key at most. -/
theorem Event.Presses.unique {e : Event} {key other : UInt8} (h : e.Presses key)
    (hother : e.Presses other) : key = other := by
  cases e with
  | key e =>
    rw [← meaning_eq_pressed_iff] at h hother
    rw [h] at hother
    exact Meaning.pressed.inj hother
  | mouse column row => exact absurd (.inr ⟨key, h⟩) (not_settles nofun nofun)
  | resize columns rows => exact absurd (.inr ⟨key, h⟩) (not_settles nofun nofun)

/-- Handling an event takes one of three courses. A request to quit is refused, a press is remembered
and answered, and anything else is noted in the log. -/
theorem handle_cases (k : Keyboard) (e : Event) :
    e.IsQuit ∧ k.handle e = (.error quitRequested, k) ∨
    (∃ key, e.Presses key ∧ k.handle e = (.ok (some key), k.press key)) ∨
    ¬ e.Settles ∧ ∃ n, k.handle e = (.ok none, k.note n) := by
  cases e with
  | key e =>
    simp only [Event.Settles, ← meaning_eq_quit_iff, ← meaning_eq_pressed_iff, handle]
    cases e.meaning with
    | quit => exact .inl ⟨rfl, rfl⟩
    | pressed key => exact .inr (.inl ⟨key, rfl, rfl⟩)
    | unmapped c => exact .inr (.inr ⟨by simp, _, rfl⟩)
    | unknown => exact .inr (.inr ⟨by simp, _, rfl⟩)
  | mouse column row => exact .inr (.inr ⟨Event.not_settles nofun nofun, _, rfl⟩)
  | resize columns rows => exact .inr (.inr ⟨Event.not_settles nofun nofun, _, rfl⟩)

end Cosmac.Keyboard
