import Cosmac.Proofs.Hearing

/-!
# A keyboard over many calls

Events arrive at a keyboard while time goes by and while it is polled and waited on (`Move`). Whatever
the order, the events handled so far and the ones in the queue are, one after the other, all that have
arrived (`handled_append_incoming`), and the keyboard remembers the handled ones (`Remembers.after`).
Together with what each call takes this is all there is to a keyboard (`hears_each_event_once`).
-/

namespace Cosmac.Keyboard

/-- What can happen to a keyboard: time goes by, events arrive, or one of the two calls is made. -/
inductive Move
  | elapse (time : Nat)
  | type (events : List Event)
  | poll
  | waitForKey

/-- The keyboard after a move. -/
def make (k : Keyboard) : Move → Keyboard
  | .elapse time => k.elapse time
  | .type events => k.type events
  | .poll => k.poll.2
  | .waitForKey => k.waitForKey.2

/-- The events that arrive with a move. -/
def arriving (k : Keyboard) : Move → List Arrival
  | .type events => events.map fun e => ⟨k.now, e⟩
  | _ => []

/-- The events that a move takes from the queue: those in front that are gone afterwards. -/
def taken (k : Keyboard) (m : Move) : List Arrival :=
  k.incoming.take (k.incoming.length - (k.make m).incoming.length)

/-- The keyboard after some moves. -/
def after (k : Keyboard) (moves : List Move) : Keyboard := moves.foldl make k

/-- The events that arrive with some moves. -/
def arrivals (k : Keyboard) : List Move → List Arrival
  | [] => []
  | m :: moves => k.arriving m ++ (k.make m).arrivals moves

/-- The events that are handled in some moves, with the times. -/
def handled (k : Keyboard) : List Move → List Handling
  | [] => []
  | m :: moves => visits k.now k.lags (k.taken m) ++ (k.make m).handled moves

theorem taken_of_split {k : Keyboard} {m : Move} {front : List Arrival}
    (h : k.incoming = front ++ (k.make m).incoming) : k.taken m = front := by
  rw [taken]
  generalize (k.make m).incoming = left at h ⊢
  rw [h, List.length_append, Nat.add_sub_cancel, List.take_left]

/-- What a poll does. -/
theorem poll_spec (k : Keyboard) :
    k.taken .poll ++ k.poll.2.incoming = k.incoming ∧
      k.poll.2 = { k.hear (k.taken .poll) with incoming := k.poll.2.incoming } ∧
      k.poll.2.now = k.now + (k.lags.take (k.taken .poll).length).sum ∧
      Polled k.poll.2.now (k.taken .poll) k.poll.2.incoming k.poll.1 := by
  obtain ⟨front, left, hsplit, hafter, hnow, hpolled⟩ := k.pollFrom_spec k.incoming
  have hleft : k.poll.2.incoming = left := congrArg Keyboard.incoming hafter
  have htaken : k.taken .poll = front :=
    taken_of_split (hsplit.trans (congrArg (front ++ ·) hleft.symm))
  have hclock : k.poll.2.now = (k.hear front).now := by rw [poll, hafter]
  rw [htaken, hleft, hclock]
  exact ⟨hsplit.symm, hafter, hnow, hpolled⟩

/-- What a wait for a key does. -/
theorem waitForKey_spec (k : Keyboard) :
    k.taken .waitForKey ++ k.waitForKey.2.incoming = k.incoming ∧
      k.waitForKey.2 = { k.hear (k.taken .waitForKey) with incoming := k.waitForKey.2.incoming } ∧
      Awaited (k.taken .waitForKey) k.waitForKey.2.incoming k.waitForKey.1 := by
  obtain ⟨front, left, hsplit, hafter, hawaited⟩ := k.waitFrom_spec k.incoming
  have hleft : k.waitForKey.2.incoming = left := congrArg Keyboard.incoming hafter
  have htaken : k.taken .waitForKey = front :=
    taken_of_split (hsplit.trans (congrArg (front ++ ·) hleft.symm))
  rw [htaken, hleft]
  exact ⟨hsplit.symm, hafter, hawaited⟩

/-- A move takes events from the front of the queue only, and what arrives goes to its end. -/
theorem taken_append_incoming (k : Keyboard) (m : Move) :
    k.taken m ++ (k.make m).incoming = k.incoming ++ k.arriving m := by
  cases m with
  | elapse time => simp [taken, make, elapse, arriving]
  | type events => simp [taken, make, type, arriving, Nat.sub_eq_zero_of_le]
  | poll => exact k.poll_spec.1.trans (List.append_nil _).symm
  | waitForKey => exact k.waitForKey_spec.1.trans (List.append_nil _).symm

/-- A move adds the events that it handles to what is remembered. -/
theorem Remembers.make {k : Keyboard} {handled : List Handling} (hk : k.Remembers handled)
    (m : Move) : (k.make m).Remembers (handled ++ visits k.now k.lags (k.taken m)) := by
  cases m with
  | elapse time =>
    have hnone : k.taken (.elapse time) = [] := taken_of_split rfl
    rw [hnone, visits, List.append_nil]
    exact hk.later rfl (Nat.le_add_right _ _)
  | type events =>
    have hnone : k.taken (.type events) = [] := by
      simp [taken, Keyboard.make, type, Nat.sub_eq_zero_of_le]
    rw [hnone, visits, List.append_nil]
    exact hk.later rfl (Nat.le_refl _)
  | poll =>
    have hafter := k.poll_spec.2.1
    rw [Keyboard.make, hafter]
    exact (hk.hear _).later rfl (Nat.le_refl _)
  | waitForKey =>
    have hafter := k.waitForKey_spec.2.1
    rw [Keyboard.make, hafter]
    exact (hk.hear _).later rfl (Nat.le_refl _)

/-- So do all moves. -/
theorem Remembers.after {k : Keyboard} {before : List Handling} (hk : k.Remembers before)
    (moves : List Move) : (k.after moves).Remembers (before ++ k.handled moves) := by
  induction moves generalizing k before with
  | nil =>
    rw [handled, List.append_nil]
    exact hk
  | cons m moves ih =>
    rw [handled, ← List.append_assoc]
    exact ih (hk.make m)

/-- All events that have been in the queue were handled in their order, or are still there. -/
theorem handled_append_incoming (k : Keyboard) (moves : List Move) :
    (k.handled moves).map Handling.arrival ++ (k.after moves).incoming =
      k.incoming ++ k.arrivals moves := by
  induction moves generalizing k with
  | nil => exact (List.append_nil _).symm
  | cons m moves ih =>
    have hrest : (k.after (m :: moves)).incoming = ((k.make m).after moves).incoming := rfl
    rw [handled, arrivals, List.map_append, map_arrival_visits, hrest, List.append_assoc, ih,
      ← List.append_assoc, taken_append_incoming, List.append_assoc]

/-- A keyboard that nobody has touched, after any moves. A poll takes the events in front that have
arrived, up to the first request to quit, and says whether there was one; it bides no time besides what
coming to them takes. A wait for a key takes events up to the first that is a key or a request to quit,
and says which it was. Each event is handled once and in its turn, as the handled ones and those in the
queue together are all there have been. And a key is down exactly if it is one of sixteen and some event
of it that either call has taken was handled less than 150 milliseconds ago. -/
theorem hears_each_event_once (now : Nat) (incoming : List Arrival) (lags : List Nat)
    (moves : List Move) :
    let start : Keyboard := { now := now, incoming := incoming, lags := lags }
    let k := start.after moves
    let handled := start.handled moves
    (k.taken .poll ++ k.poll.2.incoming = k.incoming ∧
      Polled k.poll.2.now (k.taken .poll) k.poll.2.incoming k.poll.1 ∧
      k.poll.2.now = k.now + (k.lags.take (k.taken .poll).length).sum) ∧
    (k.taken .waitForKey ++ k.waitForKey.2.incoming = k.incoming ∧
      Awaited (k.taken .waitForKey) k.waitForKey.2.incoming k.waitForKey.1) ∧
    handled.map Handling.arrival ++ k.incoming = incoming ++ start.arrivals moves ∧
    (∀ h ∈ handled, h.time ≤ k.now) ∧
    ∀ key, k.isDown key = true ↔ key.toNat < 16 ∧
      ∃ h ∈ handled, h.arrival.event.Presses key ∧ k.now - h.time < 150000000 := by
  intro start k handled
  obtain ⟨hpollSplit, -, hpollNow, hpolled⟩ := k.poll_spec
  obtain ⟨hwaitSplit, -, hawaited⟩ := k.waitForKey_spec
  have hremembers : k.Remembers handled := (remembers_nil rfl).after moves
  exact ⟨⟨hpollSplit, hpolled, hpollNow⟩, ⟨hwaitSplit, hawaited⟩,
    start.handled_append_incoming moves, hremembers.past, hremembers.isDown_iff⟩

end Cosmac.Keyboard
