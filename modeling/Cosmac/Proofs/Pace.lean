import Cosmac.Proofs.CountedTime
import Cosmac.Proofs.PlainCycles

/-!
# The pace of a loop

A loop gives each instruction a slot of time and sleeps until the next one is due. The deadline moves on
by a slot in each pass, from where it was or, after a wait for a key, from the reading at its end, and it
is put off to the present when it has gone by (`due_finish`). So it never moves on by less than a slot.

What a loop remembers of its passes is one entry for each of them (`passes_run`), and a pass begins when
the sleep after the one before it is over (`SleptInFull`). As that sleep ends at the deadline at the
earliest, no pass begins before its deadline. These two facts carry the induction (`paced_run`): from
the start of the loop the deadlines lie at least a slot apart, and the tops of the passes are not before
them. A loop can fall behind by any time, but what it has lost it does not make up for by more than the
slots that have gone by since its start.
-/

namespace Cosmac

/-! ## Passes that are remembered -/

namespace Pass

/-- When the sleep after a pass is over, if the pass was completed. -/
def wakes (p : Pass) : Nat := p.ended.getD 0 + p.sleep

/-- Until when a pass may sleep: a slot after its instruction was due, or after the reading at the end of
a wait for a key. -/
def deadline (slot : Nat) (p : Pass) : Nat := p.resumed.getD p.due + slot

/-- A pass keeps the pace: its instruction is due at the time `earliest` or later, it does not begin before
the instruction is due, and at its end it sleeps for the time that is left to the deadline, which is a
slot at most. -/
structure Paced (slot earliest : Nat) (p : Pass) : Prop where
  earliest_le_due : earliest ≤ p.due
  due_le_top : p.due ≤ p.top
  sleep_le : p.sleep ≤ slot
  sleep_eq : p.sleep = p.ended.elim 0 fun now => p.deadline slot - now

/-- Who keeps the pace from some time on keeps it from any time before. -/
theorem Paced.mono {slot earliest earlier : Nat} {p : Pass} (h : p.Paced slot earliest)
    (hearlier : earlier ≤ earliest) : p.Paced slot earlier :=
  { h with earliest_le_due := hearlier.trans h.earliest_le_due }

end Pass

/-- No pass begins before the sleep after the one before it is over. The passes are in the order in which
they were begun. -/
def SleptInFull (passes : List Pass) : Prop := passes.IsChain fun p q => p.wakes ≤ q.top

instance (passes : List Pass) : Decidable (SleptInFull passes) :=
  inferInstanceAs (Decidable (passes.IsChain _))

namespace Loop

variable {D K B : Type} (l : Loop D K B) (clock : Nat → Nat) (k : Nat)

/-! ## The deadline after a pass -/

/-- From when on the slot of a pass counts. -/
def slotStart : Nat := if l.hasWaited then clock (k + 1) else l.due

/-- The reading at the end of a pass. -/
def lastReading : Nat := if l.hasWaited then clock (k + 2) else clock (k + 1)

/-- The deadline moves on by a slot, and it is put off if it has gone by. -/
theorem due_finish :
    (l.finish clock k).due = max (l.slotStart clock k + l.slot) (l.lastReading clock k) := by
  unfold finish slotStart lastReading rest resume
  split_ifs <;> rfl

/-- What is remembered of a pass at its end: the reading after a wait for a key, the one at the end, and
the time from then to the deadline. -/
theorem passes_finish {p : Pass} {before : List Pass} (h : l.passes = p :: before) :
    (l.finish clock k).passes = { p with
      resumed := if l.hasWaited then some (clock (k + 1)) else p.resumed
      ended := some (l.lastReading clock k)
      sleep := l.slotStart clock k + l.slot - l.lastReading clock k } :: before := by
  unfold finish slotStart lastReading rest resume
  split_ifs
  · simp only [h, List.modifyHead_cons]
    rfl
  · simp only [h, List.modifyHead_cons]

variable {l clock k} in
/-- The slot of a pass counts from its deadline on or from later, but not from later than its end. -/
theorem slotStart_bounds (hclock : Monotone clock) (hdue : l.due ≤ clock k) :
    l.due ≤ l.slotStart clock k ∧ l.slotStart clock k ≤ l.lastReading clock k := by
  have hresumed : clock k ≤ clock (k + 1) := hclock (Nat.le_succ k)
  have hended : clock (k + 1) ≤ clock (k + 2) := hclock (Nat.le_succ (k + 1))
  unfold slotStart lastReading
  split_ifs <;> omega

end Loop

section

variable {D K B : Type} [Display D] [Keypad K] [Buzzer B]

namespace Begun

/-- What a loop remembers at the top of a pass. -/
def entry (clock : Nat → Nat) (p : Begun D K B) : Pass where
  top := clock p.reading
  due := p.loop.due
  ticks := (p.loop.machine.core.timers.advance (clock p.reading - p.loop.last)).1

/-- What a loop remembers of a pass in the end. -/
def record (clock : Nat → Nat) (p : Begun D K B) : Pass :=
  match p.loop.begin (clock p.reading) with
  | (.error _, _) => p.entry clock
  | (.ok _, l) => { p.entry clock with
      resumed := if l.hasWaited then some (clock (p.reading + 1)) else none
      ended := some (l.lastReading clock p.reading)
      sleep := l.slotStart clock p.reading + l.slot - l.lastReading clock p.reading }

/-- The reading at the top of a pass is remembered, and so is its deadline. -/
theorem entry_record (clock : Nat → Nat) (p : Begun D K B) :
    (p.record clock).top = clock p.reading ∧ (p.record clock).due = p.loop.due := by
  rw [record]
  split <;> exact ⟨rfl, rfl⟩

end Begun

namespace Loop

variable {clock : Nat → Nat} {k : Nat} {l l' : Loop D K B}

/-- Of a pass that fails no more is remembered than that it was begun. -/
theorem record_of_begin_error {f : Fault} (h : l.begin (clock k) = (.error f, l')) :
    Begun.record clock ⟨k, l⟩ = Begun.entry clock ⟨k, l⟩ := by
  rw [Begun.record, h]

/-- Of a pass that succeeds its end is remembered as well. -/
theorem record_of_begin_ok (h : l.begin (clock k) = (.ok (), l')) :
    Begun.record clock ⟨k, l⟩ = { Begun.entry clock ⟨k, l⟩ with
      resumed := if l'.hasWaited then some (clock (k + 1)) else none
      ended := some (l'.lastReading clock k)
      sleep := l'.slotStart clock k + l'.slot - l'.lastReading clock k } := by
  rw [Begun.record, h]

/-- A loop remembers each pass that it begins. -/
theorem passes_run (n k : Nat) (l : Loop D K B) : (l.run clock n k).2.passes =
    ((l.begun clock n k).map (Begun.record clock)).reverse ++ l.passes := by
  refine run_induction clock ?stop ?ended ?fails ?goes n k l
  case stop => exact fun k l => rfl
  case ended =>
    intro n k l hover
    rw [run_of_isOver hover, begun_of_isOver hover]
    rfl
  case fails =>
    intro n k l f l' hgoes hbegin
    have hpasses : (l.begin (clock k)).2.passes = (l.enter (clock k)).passes := passes_begin
    rw [hbegin] at hpasses
    rw [run_of_begin_error hgoes hbegin, begun_of_begin_error hgoes hbegin, hpasses, List.map_singleton,
      record_of_begin_error hbegin]
    rfl
  case goes =>
    intro n k l l' hgoes hbegin ih
    have hpasses : (l.begin (clock k)).2.passes = (l.enter (clock k)).passes := passes_begin
    rw [hbegin] at hpasses
    have hfirst : (l'.finish clock k).passes = Begun.record clock ⟨k, l⟩ :: l.passes := by
      rw [l'.passes_finish clock k hpasses, record_of_begin_ok hbegin]
      rfl
    rw [run_of_begin_ok hgoes hbegin, begun_of_begin_ok hgoes hbegin, ih, hfirst, List.map_cons,
      List.reverse_cons, List.append_assoc]
    rfl

/-- A pass that succeeds leaves the deadline for its end to move, and the length of a slot as it is. -/
theorem slot_finish (hbegin : l.begin (clock k) = (.ok (), l')) :
    l'.due = l.due ∧ l'.slot = l.slot ∧ (l'.finish clock k).slot = l.slot := by
  obtain ⟨-, -, hl'⟩ := l.of_begin_ok (clock k) hbegin
  have hconfig := (cycles_finish hbegin).2
  have hbegun := (l.begin_follows (clock k)).config
  rw [hbegin] at hbegun
  refine ⟨?_, ?_, ?_⟩
  · rw [hl']
    rfl
  · rw [slot, slot, hbegun]
  · rw [slot, slot, hconfig]

/-- A pass keeps the pace if its deadline has gone by, whether it succeeds or not. -/
theorem paced_record (hclock : Monotone clock) (hdue : l.due ≤ clock k) :
    (Begun.record clock ⟨k, l⟩).Paced l.slot l.due := by
  rcases hbegin : l.begin (clock k) with ⟨f | _, l'⟩
  · -- A pass that fails does not come to its end, and does not sleep.
    rw [record_of_begin_error hbegin]
    exact { earliest_le_due := Nat.le_refl _, due_le_top := hdue, sleep_le := Nat.zero_le _,
            sleep_eq := rfl }
  · obtain ⟨hsame, hslot, -⟩ := slot_finish hbegin
    obtain ⟨-, hstart⟩ := slotStart_bounds hclock (hsame.trans_le hdue)
    have hdeadline : (Begun.record clock ⟨k, l⟩).deadline l.slot = l'.slotStart clock k + l.slot := by
      rw [record_of_begin_ok hbegin, Pass.deadline, slotStart, hsame]
      dsimp only
      split_ifs <;> rfl
    have hsleep : (Begun.record clock ⟨k, l⟩).sleep =
        l'.slotStart clock k + l.slot - l'.lastReading clock k := by
      rw [record_of_begin_ok hbegin, hslot]
    have hended : (Begun.record clock ⟨k, l⟩).ended = some (l'.lastReading clock k) := by
      rw [record_of_begin_ok hbegin]
    obtain ⟨htop, hentry⟩ := Begun.entry_record clock ⟨k, l⟩
    dsimp only at htop hentry
    refine ⟨by omega, by omega, by omega, ?_⟩
    rw [hended, Option.elim_some, hsleep, hdeadline]

/-- The sleep after a pass is over when the next instruction is due. -/
theorem wakes_record (hbegin : l.begin (clock k) = (.ok (), l')) :
    (Begun.record clock ⟨k, l⟩).wakes = (l'.finish clock k).due := by
  rw [record_of_begin_ok hbegin, Pass.wakes, due_finish]
  dsimp only [Option.getD_some]
  omega

/-- If the sleep after a pass is not cut short, the next pass does not begin before its deadline. -/
theorem due_finish_le (hbegin : l.begin (clock k) = (.ok (), l')) {rest : List (Begun D K B)}
    (hslept : SleptInFull ((⟨k, l⟩ :: rest).map (Begun.record clock))) :
    ∀ q ∈ rest.head?, (l'.finish clock k).due ≤ clock q.reading := by
  intro q hq
  rw [SleptInFull, List.map_cons, List.isChain_cons, List.head?_map] at hslept
  have hwoken : (Begun.record clock ⟨k, l⟩).wakes ≤ (q.record clock).top :=
    hslept.1 _ (Option.mem_map_of_mem _ hq)
  rw [wakes_record hbegin] at hwoken
  exact hwoken.trans_eq (q.entry_record clock).1

/-- A loop keeps the pace from the first deadline on, if it has gone by when the loop begins a pass. The
deadline of each pass lies at least a slot after that of the pass before it, and no pass begins before
its deadline. -/
theorem paced_run (hclock : Monotone clock) (n k : Nat) (l : Loop D K B) :
    (∀ q ∈ (l.begun clock n k).head?, l.due ≤ clock q.reading) →
    SleptInFull ((l.begun clock n k).map (Begun.record clock)) →
    ∀ (j : Nat) (q : Begun D K B), (l.begun clock n k)[j]? = some q →
      (q.record clock).Paced l.slot (l.due + j * l.slot) := by
  -- The induction carries along that the deadline has gone by when the next pass begins, if there is one.
  refine run_induction clock ?stop ?ended ?fails ?goes n k l
  case stop => exact fun k l _ _ j q hq => nomatch hq
  case ended =>
    intro n k l hover _ _ j q hq
    rw [begun_of_isOver hover] at hq
    cases hq
  case fails =>
    intro n k l f l' hgoes hbegin hdue _ j q hq
    rw [begun_of_begin_error hgoes hbegin] at hq hdue
    cases j with
    | zero =>
      obtain rfl := Option.some.inj hq
      rw [Nat.zero_mul, Nat.add_zero]
      exact paced_record hclock (hdue _ rfl)
    | succ j => cases hq
  case goes =>
    intro n k l l' hgoes hbegin ih hdue hslept j q hq
    rw [begun_of_begin_ok hgoes hbegin] at hq hdue hslept
    have hfirst : l.due ≤ clock k := hdue _ rfl
    cases j with
    | zero =>
      obtain rfl := Option.some.inj hq
      rw [Nat.zero_mul, Nat.add_zero]
      exact paced_record hclock hfirst
    | succ j =>
      obtain ⟨hsame, hslot, hlater⟩ := slot_finish hbegin
      obtain ⟨hstart, -⟩ := slotStart_bounds hclock (hsame.trans_le hfirst)
      have hnext : l.due + l.slot ≤ (l'.finish clock k).due := by
        rw [due_finish]
        omega
      have hlast : SleptInFull (((l'.finish clock k).begun clock n (k + l'.readings)).map
          (Begun.record clock)) := hslept.tail
      have hpaced := ih (due_finish_le hbegin hslept) hlast j q hq
      rw [hlater] at hpaced
      have hearliest : l.due + (j + 1) * l.slot ≤ (l'.finish clock k).due + j * l.slot := by
        rw [Nat.add_mul, Nat.one_mul]
        omega
      exact hpaced.mono hearliest

end Loop

end

namespace Machine

variable {D K B : Type} [Display D] [Keypad K] [Buzzer B] (m : Machine D K B) {clock : Nat → Nat}

/-- A loop keeps its pace. On a clock that is never put back, and with sleeps that are not cut short, pass
number `j` does not begin before `j` slots have gone by since the start, however late passes were before,
however long they slept and however long they waited for keys. No pass begins before its deadline, so no
time that was lost is made up for beyond this. A pass sleeps if it comes to its end before the deadline
for the next one, and then until that deadline, which is for a slot at most. -/
theorem loop_keeps_pace (hclock : Monotone clock) (n : Nat)
    (hslept : SleptInFull ((m.enterLoop (clock 0)).run clock n 1).2.passes.reverse) :
    let start := m.enterLoop (clock 0)
    let begun := start.begun clock n 1
    let passes := (start.run clock n 1).2.passes.reverse
    let slot := 1000000000 / max m.config.rate 1
    passes = begun.map (Begun.record clock) ∧
      ∀ (j : Nat) (p : Pass), passes[j]? = some p →
        clock 0 + j * slot ≤ p.top ∧ p.due ≤ p.top ∧ p.sleep ≤ slot ∧
        (0 < p.sleep ↔ ∃ now, p.ended = some now ∧ now < p.deadline slot) ∧
        ∀ now, p.ended = some now → p.sleep = p.deadline slot - now := by
  intro start begun passes slot
  have hrun : (start.run clock n 1).2.passes = (begun.map (Begun.record clock)).reverse :=
    (start.passes_run n 1).trans (List.append_nil _)
  have hpasses : passes = begun.map (Begun.record clock) := by
    rw [← List.reverse_reverse (begun.map (Begun.record clock)), ← hrun]
  have hstart : ∀ p ∈ begun.head?, start.due ≤ clock p.reading := fun p _ => hclock (Nat.zero_le _)
  have hpaced := start.paced_run hclock n 1 hstart (hpasses ▸ hslept)
  refine ⟨hpasses, fun j p hp => ?_⟩
  -- The entry is the record of a pass that was begun, which keeps the pace from the start on.
  rw [hpasses, List.getElem?_map, Option.map_eq_some_iff] at hp
  obtain ⟨q, hq, rfl⟩ := hp
  have hq : (q.record clock).Paced slot (clock 0 + j * slot) := hpaced j q hq
  refine ⟨hq.earliest_le_due.trans hq.due_le_top, hq.due_le_top, hq.sleep_le, ?_, fun now hnow => ?_⟩
  · rw [hq.sleep_eq]
    cases (q.record clock).ended with
    | none => simp
    | some now =>
      simp only [Option.elim_some, Option.some.injEq, exists_eq_left']
      exact Nat.sub_pos_iff_lt
  · rw [hq.sleep_eq, hnow, Option.elim_some]

/-- Readings of a clock with four passes. The sleep after the first one is too long, the second one waits
for a key for five seconds, and the third one takes longer than a slot. -/
def dawdling (k : Nat) : Nat :=
  1000 * k + (if 4 ≤ k then 2000000 else 0) + (if 5 ≤ k then 5000000 else 0) +
    (if 7 ≤ k then 1427000 else 0) + (if 8 ≤ k then 3000000 else 0)

/-- The third pass has no time left to sleep, and none of the passes makes up for the time lost before. -/
theorem loop_keeps_pace_dawdling :
    let passes := ((awaiting.enterLoop (dawdling 0)).run dawdling 4 1).2.passes.reverse
    Monotone dawdling ∧ SleptInFull passes ∧
      passes.map (fun p => (p.due, p.top, p.sleep)) =
        [(0, 1000, 1427571), (1430571, 2004000, 1427571), (8433571, 8434000, 0),
          (11435000, 11436000, 1426571)] ∧
      ∀ (j : Nat) (p : Pass), passes[j]? = some p → j * 1428571 ≤ p.top := by
  intro passes
  have hclock : Monotone dawdling := by
    intro j k hjk
    unfold dawdling
    split_ifs <;> omega
  have hslept : SleptInFull passes := by decide +kernel
  obtain ⟨-, hpaced⟩ := loop_keeps_pace awaiting hclock 4 hslept
  refine ⟨hclock, hslept, by decide +kernel, fun j p hp => ?_⟩
  obtain ⟨htop, -⟩ := hpaced j p hp
  have hstart : dawdling 0 = 0 := rfl
  have hslot : 1000000000 / max awaiting.config.rate 1 = 1428571 := by decide +kernel
  rw [hstart, hslot, Nat.zero_add] at htop
  exact htop

end Machine

end Cosmac
