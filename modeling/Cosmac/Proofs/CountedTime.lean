import Cosmac.Proofs.Countdown
import Cosmac.Proofs.Tally
import Mathlib.Data.List.SplitBy
import Mathlib.Order.Monotone.Defs

/-!
# The time that counts

A loop lets the timers tick by the time from one pass to the next, but not while it waits for a key.
`Loop.begun` lists the passes that a loop begins, and `segments` cuts the list after each pass in which
the machine has waited. The time that counts in a segment runs up to the top of its last pass, from the
reading that was taken when the wait before the segment was over (`countedTimes`).

A pass adds the share of the time since the pass before. In a segment these shares add up to one
division, as the remainder is carried on from pass to pass (`Timers.add_div_eq`); after a wait the
remainder is dropped and the time starts anew (`Loop.after_pass`). So the ticks of a loop are one
division for each segment (`Loop.tally_run`). What is left out of the counted time is the time of the
waits and nothing else (`sum_countedTimes`).
-/

namespace Cosmac

variable {D K B : Type}

/-- A pass that was begun: the number of the clock reading at its top, and the loop there. -/
structure Begun (D K B : Type) where
  reading : Nat
  loop : Loop D K B

section

variable [Display D] [Keypad K] [Buzzer B] (clock : Nat → Nat)

namespace Begun

/-- After the cycle of the pass the machine is found to have waited for a key. -/
def waited (p : Begun D K B) : Bool := (p.loop.begin (clock p.reading)).2.hasWaited

/-- The pass executes an instruction that waits for a key. -/
def AwaitsKey (p : Begun D K B) : Prop :=
  p.loop.ComesToCycle (clock p.reading) ∧
    ∃ x, (p.loop.polled (clock p.reading)).executed = some (.awaitKey x)

end Begun

/-- The passes that a loop begins when it runs at most `n` of them on the clock readings from number
`k` on. -/
def Loop.begun (n k : Nat) (l : Loop D K B) : List (Begun D K B) :=
  match n with
  | 0 => []
  | n + 1 =>
    if l.isOver then []
    else
      ⟨k, l⟩ :: match l.begin (clock k) with
        | (.error _, _) => []
        | (.ok _, l') => (l'.finish clock k).begun n (k + l'.readings)

/-- The passes, cut after each one in which the machine has waited. -/
def segments (passes : List (Begun D K B)) : List (List (Begun D K B)) :=
  passes.splitBy fun p _ => !p.waited clock

/-- The last pass of each segment. -/
def segmentEnds (passes : List (Begun D K B)) : List (Begun D K B) :=
  (segments clock passes).filterMap List.getLast?

/-- The time that counts in each segment, by its last pass: up to the top of that pass, from the time
`since` and on top of what is `carried`. For a later segment it starts at the reading after the wait
before it, with nothing carried. -/
def countedTimes (since carried : Nat) : List (Begun D K B) → List Nat
  | [] => []
  | p :: rest =>
    (carried + (clock p.reading - since)) :: countedTimes (clock (p.reading + 1)) 0 rest

/-- The time of each wait after which there was another segment. -/
def blockedTimes (ends : List (Begun D K B)) : List Nat :=
  ends.dropLast.map fun p => clock (p.reading + 1) - clock p.reading

end

/-! ## Segments -/

/-- A list is not cut between two elements that belong together. -/
theorem splitBy_cons_cons {α : Type} {r : α → α → Bool} {a b : α} {l : List α}
    (h : r a b = true) {s : List α} {rest : List (List α)}
    (hsplit : (b :: l).splitBy r = s :: rest) : (a :: b :: l).splitBy r = (a :: s) :: rest := by
  obtain ⟨hflatten, hnil, hchain, hcuts⟩ := List.splitBy_eq_iff.1 hsplit
  rw [List.flatten_cons] at hflatten
  obtain _ | ⟨c, s⟩ := s
  · exact absurd List.mem_cons_self hnil
  · obtain ⟨rfl, rfl⟩ := List.cons.inj hflatten
    refine List.splitBy_eq_iff.2 ⟨rfl, ?_, ?_, ?_⟩
    · simpa using hnil
    · rw [List.forall_mem_cons] at hchain ⊢
      exact ⟨hchain.1.cons_cons h, hchain.2⟩
    · -- The last element of the first part, which decides about the first cut, is the same.
      rw [List.isChain_cons] at hcuts ⊢
      exact ⟨fun t ht => by simpa using hcuts.1 t ht, hcuts.2⟩

section

variable [Display D] [Keypad K] [Buzzer B] {clock : Nat → Nat}

/-- A pass in which the machine has waited is a segment of its own if it comes first. -/
theorem segments_cons_of_waited {p : Begun D K B} (h : p.waited clock = true)
    (rest : List (Begun D K B)) : segments clock (p :: rest) = [p] :: segments clock rest := by
  cases rest with
  | nil => rfl
  | cons q rest =>
    refine List.splitBy_append_cons (l := [p]) rest fun x hx => ?_
    obtain rfl : p = x := Option.some.inj hx
    rw [h]
    rfl

/-- The ends of segments, pass by pass. -/
theorem segmentEnds_cons_cons (p q : Begun D K B) (rest : List (Begun D K B)) :
    segmentEnds clock (p :: q :: rest) =
      if p.waited clock then p :: segmentEnds clock (q :: rest)
      else segmentEnds clock (q :: rest) := by
  split_ifs with hwaited
  · rw [segmentEnds, segments_cons_of_waited hwaited]
    rfl
  · rcases hsplit : segments clock (q :: rest) with _ | ⟨s, later⟩
    · exact absurd hsplit (List.splitBy_ne_nil.2 (List.cons_ne_nil _ _))
    · have hjoined : segments clock (p :: q :: rest) = (p :: s) :: later :=
        splitBy_cons_cons (by simp [hwaited]) hsplit
      have hs : s ≠ [] := List.ne_nil_of_mem_splitBy (hsplit ▸ List.mem_cons_self)
      have hlast : s.getLast? = some (s.getLast hs) := List.getLast?_eq_some_getLast hs
      rw [segmentEnds, hjoined, segmentEnds, hsplit]
      simp [hlast, List.getLast?_cons]

/-- The last passes of the segments are some of the passes. -/
theorem segmentEnds_sublist (passes : List (Begun D K B)) :
    (segmentEnds clock passes).Sublist passes := by
  induction passes with
  | nil => exact List.Sublist.refl []
  | cons p rest ih =>
    cases rest with
    | nil => exact List.Sublist.refl [p]
    | cons q rest =>
      rw [segmentEnds_cons_cons]
      split_ifs
      · exact ih.cons_cons p
      · exact ih.cons p

/-- The last segment ends with the last pass. -/
theorem getLast?_segmentEnds (passes : List (Begun D K B)) :
    (segmentEnds clock passes).getLast? = passes.getLast? := by
  induction passes with
  | nil => rfl
  | cons p rest ih =>
    cases rest with
    | nil => rfl
    | cons q rest =>
      rw [segmentEnds_cons_cons, List.getLast?_cons_cons]
      split_ifs
      · rw [List.getLast?_cons, ih, List.getLast?_cons]
        rfl
      · exact ih

end

/-! ## Counted time -/

/-- The ticks of a pass and those of the rest of its segment are one division, since what is left of the
first is carried on. -/
theorem sum_countedTimes_joint {clock : Nat → Nat} (hclock : Monotone clock)
    {interval since carried k : Nat} (hinterval : 0 < interval) (hsince : since ≤ clock k)
    {ends : List (Begun D K B)} (hends : ends ≠ []) (hlater : ∀ p ∈ ends, k ≤ p.reading) :
    ((countedTimes clock since carried ends).map (· / interval)).sum =
      (carried + (clock k - since)) / interval +
        ((countedTimes clock (clock k) ((carried + (clock k - since)) % interval) ends).map
          (· / interval)).sum := by
  obtain ⟨p, rest, rfl⟩ := List.exists_cons_of_ne_nil hends
  have htop : clock k ≤ clock p.reading := hclock (hlater p List.mem_cons_self)
  have htime : carried + (clock p.reading - since) =
      carried + (clock k - since) + (clock p.reading - clock k) := by omega
  have hdiv := Timers.add_div_eq (carried + (clock k - since)) (clock p.reading - clock k) interval
    hinterval
  rw [countedTimes, countedTimes, List.map_cons, List.map_cons, List.sum_cons, List.sum_cons, htime,
    hdiv, Nat.add_assoc]

/-- The time that counts and the time of the waits make up all the time, from what is carried to the top
of the last pass. -/
theorem sum_countedTimes {clock : Nat → Nat} (hclock : Monotone clock) {since carried : Nat}
    {ends : List (Begun D K B)} (hsince : ∀ p ∈ ends, since ≤ clock p.reading)
    (happart : ends.Pairwise fun p q => p.reading + 1 ≤ q.reading) {last : Begun D K B}
    (hlast : ends.getLast? = some last) :
    (countedTimes clock since carried ends).sum + (blockedTimes clock ends).sum =
      carried + (clock last.reading - since) := by
  induction ends generalizing since carried with
  | nil => cases hlast
  | cons p rest ih =>
    cases rest with
    | nil =>
      cases hlast
      rfl
    | cons q rest =>
      rw [List.getLast?_cons_cons] at hlast
      obtain ⟨hafter, happart⟩ := List.pairwise_cons.1 happart
      have hwait : clock p.reading ≤ clock (p.reading + 1) := hclock (Nat.le_succ _)
      have hresumed : ∀ r ∈ q :: rest, clock (p.reading + 1) ≤ clock r.reading :=
        fun r hr => hclock (hafter r hr)
      have hend : clock (p.reading + 1) ≤ clock last.reading :=
        hresumed last (List.mem_of_getLast? hlast)
      have htop : since ≤ clock p.reading := hsince p List.mem_cons_self
      have hrest := @ih (clock (p.reading + 1)) 0 hresumed happart hlast
      have hblocked : (blockedTimes clock (p :: q :: rest)).sum =
          (clock (p.reading + 1) - clock p.reading) + (blockedTimes clock (q :: rest)).sum := rfl
      rw [countedTimes, List.sum_cons, hblocked]
      omega

/-! ## Waiting for a key -/

namespace Machine

variable [Display D] [Keypad K] (m : Machine D K B)

/-- A cycle notes that the machine waits for a key when it executes the instruction for that, and takes
no such note back. -/
theorem suspended_cycle : m.cycle.2.core.suspended = true ↔
    m.core.suspended = true ∨ ∃ x, m.executed = some (.awaitKey x) := by
  rcases h : m.executed with _ | i
  · rw [part_cycle_of_executed_eq_none Core.suspended rfl h]
    simp
  · rw [(effect_of_executed h).suspended]
    cases i <;> simp [Instruction.nextSuspended]

end Machine

/-- A pass takes its readings after those of the pass before it. -/
theorem Loop.two_le_readings (l : Loop D K B) : 2 ≤ l.readings := by
  rw [Loop.readings]
  split_ifs <;> omega

/-- At its end a pass lets time start anew after a wait for a key. -/
theorem Loop.last_finish (clock : Nat → Nat) (k : Nat) (l : Loop D K B) :
    (l.finish clock k).last = if l.hasWaited then clock (k + 1) else l.last := by
  have hrest : ∀ resumed now, (l.rest resumed now).last =
      if l.hasWaited then resumed else l.last := by
    intro resumed now
    have hlast : (l.rest resumed now).last = (l.resume resumed).last := rfl
    rw [hlast, resume]
    split_ifs <;> rfl
  rw [finish]
  split_ifs with hwaited
  · rw [hrest, if_pos hwaited]
  · rw [hrest, if_neg hwaited]

section

variable [Display D] [Keypad K] [Buzzer B] {clock : Nat → Nat}

/-- Up to its cycle a pass changes no part of the core but the timers. -/
theorem Loop.core_polled (l : Loop D K B) (now : Nat) : (l.polled now).core =
    { l.machine.core with timers := (l.machine.core.timers.advance (now - l.last)).2 } :=
  l.machine.tick_core (now - l.last)

/-- A pass that does not come to its cycle leaves the core as it is before the cycle. -/
theorem Loop.core_begin_of_not_comesToCycle (l : Loop D K B) (now : Nat)
    (h : ¬ l.ComesToCycle now) : (l.begin now).2.machine.core = (l.polled now).core := by
  rcases l.begin_cases now with ⟨f, ht⟩ | ⟨ticks, e, ht, hp⟩ | ⟨hcomes, -⟩
  · rw [l.begin_of_tick_error now ht]
    rfl
  · rw [l.begin_of_poll_error now ht hp]
  · exact absurd hcomes h

/-- Any other pass leaves the core as its cycle does. -/
theorem Loop.core_begin_of_comesToCycle (l : Loop D K B) (now : Nat) (h : l.ComesToCycle now) :
    (l.begin now).2.machine.core = (l.polled now).cycle.2.core := by
  obtain ⟨_, _, _, hframe⟩ := (l.polled now).cycle.2.updateBuzzer_frame
  rcases hc : (l.polled now).cycle.1 with f | _
  · rw [l.begin_of_cycle_error now h hc]
  · rw [l.begin_of_cycle_ok now h hc, hframe]

/-- After its cycle a pass finds that the machine has waited if this was noted before, or if the pass
has executed an instruction that waits. -/
theorem Begun.waited_iff (p : Begun D K B) : p.waited clock = true ↔
    p.loop.hasWaited = true ∨ p.AwaitsKey clock := by
  obtain ⟨k, l⟩ := p
  have hpolled : (l.polled (clock k)).core.suspended = l.hasWaited := by
    rw [l.core_polled]
    rfl
  rw [waited, AwaitsKey, Loop.hasWaited]
  dsimp only
  by_cases hcomes : l.ComesToCycle (clock k)
  · rw [l.core_begin_of_comesToCycle _ hcomes, Machine.suspended_cycle, hpolled, and_iff_right hcomes]
  · rw [l.core_begin_of_not_comesToCycle _ hcomes, hpolled]
    simp only [hcomes, false_and, or_false]

namespace Loop

variable {n k : Nat} {l l' : Loop D K B}

/-- What a pass that was completed leaves: the note about a wait is gone, and time goes on from its top,
or from the reading after the wait if there was one, and then without what was carried. -/
theorem after_pass (hbegin : l.begin (clock k) = (.ok (), l')) :
    (l'.finish clock k).hasWaited = false ∧
    (l'.finish clock k).machine.core.timers.interval = l.machine.core.timers.interval ∧
    (l'.finish clock k).last = (if l'.hasWaited then clock (k + 1) else clock k) ∧
    (l'.finish clock k).machine.core.timers.carried = if l'.hasWaited then 0
      else (l.machine.core.timers.carried + (clock k - l.last)) % l.machine.core.timers.interval := by
  obtain ⟨hcomes, -, hl'⟩ := l.of_begin_ok (clock k) hbegin
  have hlast : l'.last = clock k := by rw [hl']
  have htimers : l'.machine.core.timers.interval = l.machine.core.timers.interval ∧
      l'.machine.core.timers.carried =
        (l.machine.core.timers.carried + (clock k - l.last)) % l.machine.core.timers.interval := by
    have hcore := l.core_begin_of_comesToCycle (clock k) hcomes
    obtain ⟨hinterval, hcarried⟩ := (l.polled (clock k)).interval_cycle
    rw [hbegin] at hcore
    rw [l.core_polled] at hinterval hcarried
    rw [hcore]
    exact ⟨hinterval.trans (l.machine.core.timers.interval_advance _),
      hcarried.trans (l.machine.core.timers.carried_advance _)⟩
  rw [hasWaited, machine_finish, last_finish, hlast]
  split_ifs with hwaited
  · exact ⟨rfl, htimers.1, rfl, rfl⟩
  · exact ⟨eq_false_of_ne_true hwaited, htimers.1, rfl, htimers.2⟩

/-! ## The ticks of a loop -/

theorem begun_of_isOver (h : l.isOver = true) : l.begun clock (n + 1) k = [] := by
  rw [begun, if_pos h]

theorem begun_of_begin_error {f : Fault} (h : l.isOver = false)
    (hbegin : l.begin (clock k) = (.error f, l')) : l.begun clock (n + 1) k = [⟨k, l⟩] := by
  rw [begun, h, hbegin, if_neg Bool.false_ne_true]

theorem begun_of_begin_ok (h : l.isOver = false) (hbegin : l.begin (clock k) = (.ok (), l')) :
    l.begun clock (n + 1) k =
      ⟨k, l⟩ :: (l'.finish clock k).begun clock n (k + l'.readings) := by
  rw [begun, h, hbegin, if_neg Bool.false_ne_true]

/-- The first pass that a loop begins finds it as it is. -/
theorem eq_of_begun_eq_cons {p : Begun D K B} {rest : List (Begun D K B)}
    (h : l.begun clock n k = p :: rest) : p = ⟨k, l⟩ := by
  cases n with
  | zero => cases h
  | succ n =>
    rw [begun] at h
    split_ifs at h
    exact (List.cons.inj h).1.symm

/-- The passes take their readings from number `k` on. -/
theorem le_reading_of_mem_begun (n k : Nat) (l : Loop D K B) :
    ∀ p ∈ l.begun clock n k, k ≤ p.reading := by
  refine run_induction clock ?stop ?ended ?fails ?goes n k l
  case stop => exact fun k l => nofun
  case ended =>
    intro n k l hover
    rw [begun_of_isOver hover]
    exact nofun
  case fails =>
    intro n k l f l' hgoes hbegin
    rw [begun_of_begin_error hgoes hbegin]
    exact List.forall_mem_singleton.2 (Nat.le_refl k)
  case goes =>
    intro n k l l' hgoes hbegin ih
    rw [begun_of_begin_ok hgoes hbegin]
    exact List.forall_mem_cons.2 ⟨Nat.le_refl k, fun p hp => Nat.le_of_add_right_le (ih p hp)⟩

/-- There is a reading after the top of a pass before the next pass begins. -/
theorem pairwise_begun (n k : Nat) (l : Loop D K B) :
    (l.begun clock n k).Pairwise fun p q => p.reading + 1 ≤ q.reading := by
  refine run_induction clock ?stop ?ended ?fails ?goes n k l
  case stop => exact fun k l => .nil
  case ended =>
    intro n k l hover
    rw [begun_of_isOver hover]
    exact .nil
  case fails =>
    intro n k l f l' hgoes hbegin
    rw [begun_of_begin_error hgoes hbegin]
    exact List.pairwise_singleton _ _
  case goes =>
    intro n k l l' hgoes hbegin ih
    rw [begun_of_begin_ok hgoes hbegin]
    refine List.pairwise_cons.2 ⟨fun p hp => ?_, ih⟩
    have hreading := le_reading_of_mem_begun n (k + l'.readings) _ p hp
    have hreadings := l'.two_le_readings
    dsimp only
    omega

/-- The timers tick in a loop as often as the interval goes into the counted time of each segment. -/
theorem tally_run (hclock : Monotone clock) (n k : Nat) (l : Loop D K B) : l.last ≤ clock k →
    (l.run clock n k).2.machine.tally = l.machine.tally +
      ((countedTimes clock l.last l.machine.core.timers.carried
        (segmentEnds clock (l.begun clock n k))).map (· / l.machine.core.timers.interval)).sum := by
  refine run_induction clock ?stop ?ended ?fails ?goes n k l
  case stop => exact fun k l _ => rfl
  case ended =>
    intro n k l hover _
    rw [run_of_isOver hover, begun_of_isOver hover]
    rfl
  case fails =>
    intro n k l f l' hgoes hbegin _
    have hticks := l.tally_begin (clock k)
    rw [hbegin] at hticks
    rw [run_of_begin_error hgoes hbegin, begun_of_begin_error hgoes hbegin]
    exact hticks
  case goes =>
    intro n k l l' hgoes hbegin ih hlast
    have hticks := l.tally_begin (clock k)
    have hwaited : Begun.waited clock ⟨k, l⟩ = l'.hasWaited := by rw [Begun.waited, hbegin]
    obtain ⟨-, hinterval, hreached, hcarried⟩ := after_pass hbegin
    have hlater : (l'.finish clock k).last ≤ clock (k + l'.readings) := by
      have hreadings := l'.two_le_readings
      rw [hreached]
      split_ifs <;> exact hclock (by omega)
    have hrest := ih hlater
    rw [hbegin] at hticks
    rw [tally_finish, hticks, hinterval, hreached, hcarried] at hrest
    rw [run_of_begin_ok hgoes hbegin, begun_of_begin_ok hgoes hbegin, hrest, Nat.add_assoc]
    congr 1
    rcases hbegun : (l'.finish clock k).begun clock n (k + l'.readings) with _ | ⟨q, rest⟩
    -- If no pass follows, this one has the last segment to itself.
    · rfl
    · rw [segmentEnds_cons_cons, hwaited]
      split_ifs
      · rfl
      · have hends : segmentEnds clock (q :: rest) ≠ [] := by
          rw [← List.getLast?_isSome, getLast?_segmentEnds, List.getLast?_isSome]
          exact List.cons_ne_nil q rest
        refine (sum_countedTimes_joint hclock l.machine.core.timers.interval_pos hlast hends
          fun p hp => ?_).symm
        have hmem := (segmentEnds_sublist _).mem hp
        rw [← hbegun] at hmem
        exact Nat.le_of_add_right_le (le_reading_of_mem_begun n _ _ p hmem)

/-- The note about a wait is gone after each pass that was completed. -/
theorem Passes.not_hasWaited {i k' : Nat} (h : Passes clock i k l k' l')
    (hstart : 0 < i ∨ l.hasWaited = false) : l'.hasWaited = false := by
  induction h with
  | none k l => exact hstart.resolve_left (Nat.lt_irrefl 0)
  | more hgoes hbegin hrest ih => exact ih (.inr (after_pass hbegin).1)

/-- A loop begins a pass when all passes before it were completed and the loop is not over then. -/
theorem mem_begun_iff {p : Begun D K B} : p ∈ l.begun clock n k ↔
    ∃ i < n, Passes clock i k l p.reading p.loop ∧ p.loop.isOver = false := by
  refine run_induction clock ?stop ?ended ?fails ?goes n k l
  case stop => exact fun k l => ⟨nofun, nofun⟩
  case ended =>
    intro n k l hover
    rw [begun_of_isOver hover]
    refine ⟨nofun, ?_⟩
    rintro ⟨i, -, hpasses, hgoes⟩
    cases hpasses with
    | none => rw [hover] at hgoes; cases hgoes
    | more h => rw [hover] at h; cases h
  case fails =>
    intro n k l f l' hgoes hbegin
    rw [begun_of_begin_error hgoes hbegin, List.mem_singleton]
    constructor
    · rintro rfl
      exact ⟨0, Nat.succ_pos n, .none k l, hgoes⟩
    · rintro ⟨i, -, hpasses, -⟩
      obtain ⟨reading, loop⟩ := p
      cases hpasses with
      | none => rfl
      | more _ h => rw [hbegin] at h; cases h
  case goes =>
    intro n k l l' hgoes hbegin ih
    rw [begun_of_begin_ok hgoes hbegin, List.mem_cons, ih]
    constructor
    · rintro (rfl | ⟨i, hi, hpasses, hp⟩)
      · exact ⟨0, Nat.succ_pos n, .none k l, hgoes⟩
      · exact ⟨i + 1, Nat.succ_lt_succ hi, .more hgoes hbegin hpasses, hp⟩
    · rintro ⟨i, hi, hpasses, hp⟩
      obtain ⟨reading, loop⟩ := p
      cases hpasses with
      | none => exact .inl rfl
      | more _ h hrest =>
        rw [hbegin] at h
        cases h
        exact .inr ⟨_, Nat.lt_of_succ_lt_succ hi, hrest, hp⟩

end Loop

end

namespace Machine

variable {D K B : Type} [Display D] [Keypad K] [Buzzer B] (m : Machine D K B) {clock : Nat → Nat}

/-- The time for which a loop waits for keys does not count, and all other time does. On a clock that is
never put back, the timers tick as often as their interval goes into the counted time of each segment.
Counted and blocked time together are the time from the start of the loop to the top of its last pass.

A segment ends with a pass that waits for a key. The first one does so too if the machine waited for a
key before the loop began, but no pass hands the note about a wait on to the next. -/
theorem blocked_time_does_not_count (hclock : Monotone clock) (n : Nat) :
    let start := m.enterLoop (clock 0)
    let begun := start.begun clock n 1
    let ends := segmentEnds clock begun
    let counted := countedTimes clock (clock 0) m.core.timers.carried ends
    (m.mainLoop clock n).2.tally =
        m.tally + (counted.map (· / m.core.timers.interval)).sum ∧
      (∀ last, begun.getLast? = some last →
        counted.sum + (blockedTimes clock ends).sum =
          m.core.timers.carried + (clock last.reading - clock 0)) ∧
      (∀ p, p ∈ begun ↔ ∃ i < n, Loop.Passes clock i 1 start p.reading p.loop ∧
        p.loop.isOver = false) ∧
      (∀ p ∈ begun, p.waited clock = true ↔ p.loop.hasWaited = true ∨ p.AwaitsKey clock) ∧
      (m.core.suspended = true → ∀ p rest, begun = p :: rest →
        segments clock begun = [p] :: segments clock rest) ∧
      ∀ i k l, Loop.Passes clock (i + 1) 1 start k l → l.hasWaited = false := by
  intro start begun ends counted
  refine ⟨?_, fun last hlast => ?_, fun p => Loop.mem_begun_iff, fun p _ => p.waited_iff,
    fun hsuspended p rest hbegun => ?_, fun i k l hpasses => ?_⟩
  · have hstart : start.machine.tally = m.tally := (tally_note m _).trans (Nat.zero_add _)
    have hrun := start.tally_run hclock n 1 (hclock (Nat.zero_le 1))
    rw [m.tally_mainLoop, hrun, hstart]
    rfl
  · have hsome : ends.Sublist begun := segmentEnds_sublist begun
    refine sum_countedTimes hclock (fun p _ => hclock (Nat.zero_le _))
      ((start.pairwise_begun n 1).sublist hsome) ?_
    rw [getLast?_segmentEnds, hlast]
  · have hfirst : p = ⟨1, start⟩ := Loop.eq_of_begun_eq_cons hbegun
    have hwaited : p.loop.hasWaited = true := by
      rw [hfirst]
      exact hsuspended
    rw [hbegun]
    exact segments_cons_of_waited (p.waited_iff.2 (.inl hwaited)) rest
  · exact hpasses.not_hasWaited (.inl (Nat.succ_pos i))

/-- A machine that carries five milliseconds and has waited for a key in a cycle. It is about to clear the
display, and to wait for another key after that. -/
def awaiting : Machine Headless Scripted Silent :=
  let pressing : Machine Headless Scripted Silent :=
    { headless with keypad := { presses := [5, 6] } }
  pressing.performAll
    [.load [0xf0, 0x0a, 0x00, 0xe0, 0xf1, 0x0a, 0x12, 0x06], .tick 5000000, .cycle]

/-- With ten milliseconds between the readings of the clock, four passes take ninety, of which each wait
takes ten. The three segments that are left hold three whole intervals, where the time as a whole would
have held five. -/
theorem blocked_time_does_not_count_awaiting :
    let clock := fun k => 10000000 * k
    let ends := segmentEnds clock ((awaiting.enterLoop (clock 0)).begun clock 4 1)
    Monotone clock ∧ awaiting.core.suspended = true ∧
      countedTimes clock 0 awaiting.core.timers.carried ends = [15000000, 20000000, 40000000] ∧
      blockedTimes clock ends = [10000000, 10000000] ∧
      (awaiting.mainLoop clock 4).2.tally = 3 := by
  intro clock ends
  have hclock : Monotone clock := fun _ _ h => Nat.mul_le_mul_left 10000000 h
  have hcounted : countedTimes clock (clock 0) awaiting.core.timers.carried ends =
      [15000000, 20000000, 40000000] := by decide +kernel
  have hbefore : awaiting.tally = 0 ∧ awaiting.core.timers.interval = 16666666 := by
    decide +kernel
  obtain ⟨hticks, -⟩ := blocked_time_does_not_count awaiting hclock 4
  rw [hcounted, hbefore.1, hbefore.2] at hticks
  exact ⟨hclock, by decide +kernel, hcounted, by decide +kernel, hticks⟩

end Machine

end Cosmac
