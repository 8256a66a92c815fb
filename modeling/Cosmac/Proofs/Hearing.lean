import Cosmac.Proofs.Meaning
import Mathlib.Algebra.GroupWithZero.Nat

/-!
# Events in a queue

Two calls take events from the front of the keyboard's queue. A poll takes what has arrived, up to the
first request to quit (`Polled`), and a wait for a key takes what comes, up to the first event that
settles it (`Awaited`). Both handle what they take in turn (`hear`), each event at a time of its own
(`visits`), and leave the rest of the queue as it was.

What the keyboard remembers is the last time at which each key was handled (`Remembers`). Handling one
event keeps this, and so do all calls. With nothing else in its memory, the keyboard still answers
whether some press of a key is young enough: the last press is the youngest one
(`Remembers.isDown_iff`).
-/

namespace Cosmac

/-- An event that was handled, and when. -/
structure Handling where
  time : Nat
  arrival : Arrival

namespace Keyboard

/-! ## Events in turn -/

/-- When some events are handled one after the other: each is come to after the one before it was
handled, and not before it has arrived. -/
def visits (now : Nat) (lags : List Nat) : List Arrival → List Handling
  | [] => []
  | a :: rest =>
    let time := max now a.time + lags.headD 0
    ⟨time, a⟩ :: visits time lags.tail rest

theorem map_arrival_visits (now : Nat) (lags : List Nat) (events : List Arrival) :
    (visits now lags events).map Handling.arrival = events := by
  induction events generalizing now lags with
  | nil => rfl
  | cons a rest ih => rw [visits, List.map_cons, ih]

/-- Comes to an event and handles it. -/
def attend (k : Keyboard) (a : Arrival) : Keyboard := ((k.comeTo a).handle a.event).2

/-- Handles some events one after the other. -/
def hear (k : Keyboard) (events : List Arrival) : Keyboard := events.foldl attend k

/-- Handling an event reaches the presses and the log, and nothing else. -/
theorem handle_frame (k : Keyboard) (e : Event) : ∃ lastPressed log,
    (k.handle e).2 = { k with lastPressed := lastPressed, log := log } := by
  rcases k.handle_cases e with ⟨-, h⟩ | ⟨key, -, h⟩ | ⟨-, n, h⟩ <;> rw [h] <;> exact ⟨_, _, rfl⟩

/-- A request to quit is refused. -/
theorem handle_fst_of_isQuit (k : Keyboard) {e : Event} (h : e.IsQuit) :
    (k.handle e).1 = .error quitRequested := by
  rcases k.handle_cases e with ⟨-, hhandle⟩ | ⟨key, hkey, -⟩ | ⟨hnone, -⟩
  · rw [hhandle]
  · exact absurd h hkey.1
  · exact absurd (.inl h) hnone

/-- Nothing else is. -/
theorem exists_answer (k : Keyboard) {e : Event} (h : ¬ e.IsQuit) :
    ∃ answer, (k.handle e).1 = .ok answer := by
  rcases k.handle_cases e with ⟨hquit, -⟩ | ⟨key, -, hhandle⟩ | ⟨-, n, hhandle⟩
  · exact absurd hquit h
  · exact ⟨_, congrArg Prod.fst hhandle⟩
  · exact ⟨_, congrArg Prod.fst hhandle⟩

/-- The clock and what is left of the lags after an event. -/
theorem now_attend (k : Keyboard) (a : Arrival) :
    (k.attend a).now = max k.now a.time + k.lags.headD 0 ∧ (k.attend a).lags = k.lags.tail := by
  obtain ⟨lastPressed, log, h⟩ := (k.comeTo a).handle_frame a.event
  rw [attend, h]
  exact ⟨rfl, rfl⟩

/-! ## What a call takes from the queue -/

/-- How a poll ends at the time `now`, with the events that it has taken and those that it has left. -/
inductive Polled (now : Nat) : List Arrival → List Arrival → Except DeviceError Unit → Prop
  /-- There was no request to quit, and what comes next has not arrived. -/
  | through {taken left : List Arrival} (hnone : ∀ a ∈ taken, ¬ a.event.IsQuit)
      (hnext : ∀ a ∈ left.head?, now < a.time) : Polled now taken left (.ok ())
  /-- The last event was the first request to quit. -/
  | quit {before left : List Arrival} {a : Arrival} (hnone : ∀ b ∈ before, ¬ b.event.IsQuit)
      (hquit : a.event.IsQuit) : Polled now (before ++ [a]) left (.error quitRequested)

/-- How a wait for a key ends, with the events that it has taken and those that it has left. -/
inductive Awaited : List Arrival → List Arrival → Except DeviceError UInt8 → Prop
  /-- The last event was the first key. -/
  | key {before left : List Arrival} {a : Arrival} {key : UInt8}
      (hnone : ∀ b ∈ before, ¬ b.event.Settles) (hkey : a.event.Presses key) :
      Awaited (before ++ [a]) left (.ok key)
  /-- The last event was the first request to quit. -/
  | quit {before left : List Arrival} {a : Arrival} (hnone : ∀ b ∈ before, ¬ b.event.Settles)
      (hquit : a.event.IsQuit) : Awaited (before ++ [a]) left (.error quitRequested)
  /-- There will never be a key or a request to quit. -/
  | ranDry {taken : List Arrival} (hnone : ∀ a ∈ taken, ¬ a.event.Settles) :
      Awaited taken [] (.error ranDry)

/-- An event that is no request to quit does not change how a poll ends. -/
theorem Polled.cons {now : Nat} {taken left : List Arrival} {result : Except DeviceError Unit}
    (h : Polled now taken left result) {a : Arrival} (ha : ¬ a.event.IsQuit) :
    Polled now (a :: taken) left result := by
  cases h with
  | through hnone hnext => exact .through (List.forall_mem_cons.2 ⟨ha, hnone⟩) hnext
  | quit hnone hquit =>
    rw [← List.cons_append]
    exact .quit (List.forall_mem_cons.2 ⟨ha, hnone⟩) hquit

/-- An event that settles nothing does not change how a wait ends. -/
theorem Awaited.cons {taken left : List Arrival} {result : Except DeviceError UInt8}
    (h : Awaited taken left result) {a : Arrival} (ha : ¬ a.event.Settles) :
    Awaited (a :: taken) left result := by
  cases h with
  | key hnone hkey =>
    rw [← List.cons_append]
    exact .key (List.forall_mem_cons.2 ⟨ha, hnone⟩) hkey
  | quit hnone hquit =>
    rw [← List.cons_append]
    exact .quit (List.forall_mem_cons.2 ⟨ha, hnone⟩) hquit
  | ranDry hnone => exact .ranDry (List.forall_mem_cons.2 ⟨ha, hnone⟩)

/-- What a poll does with an event that has arrived depends on whether handling it fails. -/
theorem pollFrom_cons {k : Keyboard} {a : Arrival} (rest : List Arrival) (h : a.time ≤ k.now) :
    k.pollFrom (a :: rest) =
      match ((k.comeTo a).handle a.event).1 with
      | .error e => (.error e, { k.attend a with incoming := rest })
      | .ok _ => (k.attend a).pollFrom rest := by
  rw [pollFrom, if_pos h, attend]
  rcases (k.comeTo a).handle a.event with ⟨_ | _, _⟩ <;> rfl

/-- What a wait for a key does with the next event depends on the answer to it. -/
theorem waitFrom_cons (k : Keyboard) (a : Arrival) (rest : List Arrival) :
    k.waitFrom (a :: rest) =
      match ((k.comeTo a).handle a.event).1 with
      | .error e => (.error e, { k.attend a with incoming := rest })
      | .ok (some key) => (.ok key, { k.attend a with incoming := rest })
      | .ok none => (k.attend a).waitFrom rest := by
  rw [waitFrom, attend]
  rcases (k.comeTo a).handle a.event with ⟨_ | _ | _, _⟩ <;> rfl

/-- A poll takes what has arrived up to the first request to quit, and bides no time. -/
theorem pollFrom_spec (k : Keyboard) (events : List Arrival) : ∃ taken left,
    events = taken ++ left ∧ (k.pollFrom events).2 = { k.hear taken with incoming := left } ∧
      (k.hear taken).now = k.now + (k.lags.take taken.length).sum ∧
      Polled (k.hear taken).now taken left (k.pollFrom events).1 := by
  induction events generalizing k with
  | nil => exact ⟨[], [], rfl, rfl, by simp [hear], .through nofun nofun⟩
  | cons a rest ih =>
    by_cases harrived : a.time ≤ k.now
    · obtain ⟨hnow, hlags⟩ := k.now_attend a
      rw [Nat.max_eq_left harrived] at hnow
      have hsum : ∀ n, (k.lags.take (n + 1)).sum = k.lags.headD 0 + (k.lags.tail.take n).sum := by
        intro n
        cases k.lags <;> simp
      rw [pollFrom_cons rest harrived]
      by_cases hquit : a.event.IsQuit
      · rw [(k.comeTo a).handle_fst_of_isQuit hquit]
        refine ⟨[a], rest, rfl, rfl, ?_, .quit (List.forall_mem_nil _) hquit⟩
        rw [List.length_singleton, hsum, List.take_zero, List.sum_nil]
        exact hnow
      · obtain ⟨answer, hanswer⟩ := (k.comeTo a).exists_answer hquit
        obtain ⟨taken, left, hsplit, hafter, hlater, hpolled⟩ := ih (k.attend a)
        rw [hanswer]
        refine ⟨a :: taken, left, congrArg (a :: ·) hsplit, hafter, ?_, hpolled.cons hquit⟩
        have hhear : k.hear (a :: taken) = (k.attend a).hear taken := rfl
        rw [hhear, hlater, hnow, hlags, List.length_cons, hsum, Nat.add_assoc]
    · refine ⟨[], a :: rest, rfl, ?_, by simp [hear], ?_⟩ <;> rw [pollFrom, if_neg harrived]
      · rfl
      · refine .through nofun fun b hb => ?_
        obtain rfl := Option.mem_some.1 hb
        exact Nat.lt_of_not_le harrived

/-- A wait for a key takes what comes up to the first event that settles it. -/
theorem waitFrom_spec (k : Keyboard) (events : List Arrival) : ∃ taken left,
    events = taken ++ left ∧ (k.waitFrom events).2 = { k.hear taken with incoming := left } ∧
      Awaited taken left (k.waitFrom events).1 := by
  induction events generalizing k with
  | nil => exact ⟨[], [], rfl, rfl, .ranDry nofun⟩
  | cons a rest ih =>
    rw [waitFrom_cons]
    rcases (k.comeTo a).handle_cases a.event with ⟨hquit, h⟩ | ⟨key, hkey, h⟩ | ⟨hnone, n, h⟩
    · rw [h]
      exact ⟨[a], rest, rfl, rfl, .quit (List.forall_mem_nil _) hquit⟩
    · rw [h]
      exact ⟨[a], rest, rfl, rfl, .key (List.forall_mem_nil _) hkey⟩
    · obtain ⟨taken, left, hsplit, hafter, hawaited⟩ := ih (k.attend a)
      rw [h]
      exact ⟨a :: taken, left, congrArg (a :: ·) hsplit, hafter, hawaited.cons hnone⟩

/-! ## What is remembered -/

/-- The keyboard remembers when each key was last handled, of all that was handled before now. -/
structure Remembers (k : Keyboard) (handled : List Handling) : Prop where
  past : ∀ h ∈ handled, h.time ≤ k.now
  handled_of_some : ∀ {key : UInt8} {time : Nat}, k.lastPressed[key.toNat]? = some (some time) →
    ∃ h ∈ handled, h.arrival.event.Presses key ∧ h.time = time
  latest : ∀ h ∈ handled, ∀ key, h.arrival.event.Presses key →
    ∃ time, k.lastPressed[key.toNat]? = some (some time) ∧ h.time ≤ time

/-- A keyboard that nobody has touched remembers nothing. -/
theorem remembers_nil {k : Keyboard} (h : k.lastPressed = Vector.replicate 16 none) :
    k.Remembers [] where
  past := nofun
  handled_of_some := by
    intro key time hsome
    rw [h, Vector.getElem?_replicate] at hsome
    split at hsome <;> cases hsome
  latest := nofun

/-- When a key was last handled, after a press of a key. -/
theorem lastPressed_press (k : Keyboard) {key : UInt8} (hkey : key.toNat < 16) (other : UInt8) :
    (k.press key).lastPressed[other.toNat]? =
      if other = key then some (some k.now) else k.lastPressed[other.toNat]? := by
  rw [press, Vector.getElem?_setIfInBounds]
  by_cases hother : other = key
  · rw [hother, if_pos rfl, if_pos rfl, if_pos hkey]
  · rw [if_neg hother, if_neg fun heq => hother (UInt8.toNat.inj heq.symm)]

namespace Remembers

variable {k k' : Keyboard} {handled : List Handling} (hk : k.Remembers handled)

include hk

/-- Time that goes by takes no memory away. -/
theorem later (hpressed : k'.lastPressed = k.lastPressed) (hnow : k.now ≤ k'.now) :
    k'.Remembers handled where
  past h hmem := Nat.le_trans (hk.past h hmem) hnow
  handled_of_some := by
    rw [hpressed]
    exact hk.handled_of_some
  latest := by
    rw [hpressed]
    exact hk.latest

/-- An event that presses no key leaves nothing to remember. -/
theorem unpressed {h : Handling} (hnone : ∀ key, ¬ h.arrival.event.Presses key)
    (hpast : h.time ≤ k.now) : k.Remembers (handled ++ [h]) where
  past := by
    rw [List.forall_mem_append]
    exact ⟨hk.past, List.forall_mem_singleton.2 hpast⟩
  handled_of_some hsome := by
    obtain ⟨h', hmem, hpresses, htime⟩ := hk.handled_of_some hsome
    exact ⟨h', List.mem_append_left _ hmem, hpresses, htime⟩
  latest := by
    rw [List.forall_mem_append]
    exact ⟨hk.latest, List.forall_mem_singleton.2 fun key hkey => absurd hkey (hnone key)⟩

/-- A press of a key is remembered in place of those before it. -/
theorem pressed {a : Arrival} {key : UInt8} (hkey : a.event.Presses key) :
    (k.press key).Remembers (handled ++ [⟨k.now, a⟩]) where
  past := by
    rw [List.forall_mem_append]
    exact ⟨hk.past, List.forall_mem_singleton.2 (Nat.le_refl k.now)⟩
  handled_of_some := by
    intro other time hsome
    rw [lastPressed_press k hkey.toNat_lt] at hsome
    by_cases hother : other = key
    · rw [if_pos hother] at hsome
      obtain rfl := Option.some.inj (Option.some.inj hsome)
      exact ⟨⟨k.now, a⟩, List.mem_append_right _ List.mem_cons_self, hother ▸ hkey, rfl⟩
    · rw [if_neg hother] at hsome
      obtain ⟨h, hmem, hpresses, htime⟩ := hk.handled_of_some hsome
      exact ⟨h, List.mem_append_left _ hmem, hpresses, htime⟩
  latest := by
    intro h hmem other hpresses
    rw [lastPressed_press k hkey.toNat_lt]
    by_cases hother : other = key
    · rw [if_pos hother]
      -- Whichever press of the key it is, it is not after now.
      rcases List.mem_append.1 hmem with hbefore | hlast
      · exact ⟨k.now, rfl, hk.past h hbefore⟩
      · obtain rfl := List.mem_singleton.1 hlast
        exact ⟨k.now, rfl, Nat.le_refl _⟩
    · rw [if_neg hother]
      rcases List.mem_append.1 hmem with hbefore | hlast
      · exact hk.latest h hbefore other hpresses
      · obtain rfl := List.mem_singleton.1 hlast
        exact absurd (hpresses.unique hkey) hother

/-- Handling an event adds it to what is remembered. -/
theorem attend (a : Arrival) :
    (k.attend a).Remembers (handled ++ [⟨max k.now a.time + k.lags.headD 0, a⟩]) := by
  have hcome : (k.comeTo a).Remembers handled :=
    hk.later rfl (Nat.le_trans (Nat.le_max_left _ _) (Nat.le_add_right _ _))
  rw [Keyboard.attend]
  rcases (k.comeTo a).handle_cases a.event with ⟨hquit, h⟩ | ⟨key, hkey, h⟩ | ⟨hnone, n, h⟩ <;> rw [h]
  · exact hcome.unpressed (fun key hkey => hkey.1 hquit) (Nat.le_refl _)
  · exact hcome.pressed hkey
  · have hunpressed := hcome.unpressed (h := ⟨_, a⟩) (fun key hkey => hnone (.inr ⟨key, hkey⟩))
      (Nat.le_refl (k.comeTo a).now)
    exact hunpressed.later rfl (Nat.le_refl _)

/-- Handling some events adds them all. -/
theorem hear (events : List Arrival) :
    (k.hear events).Remembers (handled ++ visits k.now k.lags events) := by
  induction events generalizing k handled with
  | nil =>
    rw [visits, List.append_nil]
    exact hk
  | cons a rest ih =>
    have hrest := ih (hk.attend a)
    rw [(k.now_attend a).1, (k.now_attend a).2, List.append_assoc] at hrest
    exact hrest

/-- A key is down if some press of it was handled not too long ago. -/
theorem isDown_iff (key : UInt8) : k.isDown key = true ↔
    key.toNat < 16 ∧ ∃ h ∈ handled, h.arrival.event.Presses key ∧ k.now - h.time < 150000000 := by
  rw [isDown]
  rcases hlast : k.lastPressed[key.toNat]?.join with _ | last
  · refine iff_of_false Bool.false_ne_true ?_
    rintro ⟨-, h, hmem, hpresses, -⟩
    obtain ⟨time, hsome, -⟩ := hk.latest h hmem key hpresses
    rw [hsome] at hlast
    cases hlast
  · have hlast : k.lastPressed[key.toNat]? = some (some last) := Option.join_eq_some_iff.1 hlast
    dsimp only
    rw [decide_eq_true_iff, holdTime]
    constructor
    · intro hyoung
      obtain ⟨h, hmem, hpresses, rfl⟩ := hk.handled_of_some hlast
      exact ⟨hpresses.toNat_lt, h, hmem, hpresses, hyoung⟩
    · rintro ⟨-, h, hmem, hpresses, hyoung⟩
      -- The last press is at least as young as this one.
      obtain ⟨time, hsome, htime⟩ := hk.latest h hmem key hpresses
      obtain rfl : last = time := Option.some.inj (Option.some.inj (hlast.symm.trans hsome))
      omega

end Remembers

end Keyboard

end Cosmac
