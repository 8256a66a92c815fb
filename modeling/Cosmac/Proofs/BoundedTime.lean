import Cosmac.Proofs.Countdown
import Mathlib.Algebra.GroupWithZero.Nat

/-!
# Time in bounded arithmetic

Durations and tick counts have bounds, and `Timers.advance?` gives up where one of them is exceeded.
Within the bounds it is the division that `Timers.advance` is (`advance?_eq`): the time that is then
carried must be a duration, and the ticks that are due must fit into their counter. The loop does not
need the bounds to come to its end (`settles_settle`), only an interval that takes time, which timers of
every rate have.

Since what is left of a division is carried over, pieces of time can be joined (`advance_add`). So time
that goes by in pieces has the effect of all of it at once (`eq_advance_of_advanceAll?`), and if all of
it at once stays within the bounds, the pieces do (`advanceAll?_sum`).
-/

namespace Cosmac.Timers

/-- The loop in which the timers tick comes to its end after this many rounds, with these timers. -/
inductive Settles : Timers → Nat → Timers → Prop
  | rest {t : Timers} (h : t.carried < t.interval) : Settles t 0 t
  | round {t t' : Timers} {n : Nat} (h : t.interval ≤ t.carried) (hrest : Settles t.step n t') :
      Settles t (n + 1) t'

/-- Timers that come about from fresh ones of a rate, when time goes by within bounds, the timers tick,
carried time is forgotten, and a program sets them. -/
inductive Reached (hz : Nat) : Timers → Prop
  | fresh : Reached hz (ofRate hz)
  | advance {t after : Timers} {elapsed ticks : Nat} (h : Reached hz t)
      (hadvance : t.advance? elapsed = some (ticks, after)) : Reached hz after
  | tick {t : Timers} (h : Reached hz t) : Reached hz t.tick
  | discard {t : Timers} (h : Reached hz t) : Reached hz t.discard
  | setDelay {t : Timers} (h : Reached hz t) (value : UInt8) : Reached hz { t with delay := value }
  | setSound {t : Timers} (h : Reached hz t) (value : UInt8) : Reached hz { t with sound := value }

/-- Lets pieces of time go by, one after the other, as long as each stays within bounds. Gives the
number of ticks of all. -/
def advanceAll? (t : Timers) : List Nat → Option (Nat × Timers)
  | [] => some (0, t)
  | elapsed :: rest =>
    (t.advance? elapsed).bind fun first =>
      (first.2.advanceAll? rest).map fun others => (first.1 + others.1, others.2)

variable {t t' t'' : Timers}

/-! ## The loop and its bounds -/

/-- The loop comes to its end, after as many rounds as an interval goes into the carried time. -/
theorem settles_settle (t : Timers) (ticks : Nat) :
    Settles t (t.carried / t.interval) (t.settle ticks).2 := by
  induction t, ticks using Timers.settle.induct with
  | case1 t ticks h ih =>
    rw [settle, if_pos h, t.carried_div_of_le h]
    exact .round h ih
  | case2 t ticks h =>
    rw [settle, if_neg h, Nat.div_eq_of_lt (Nat.lt_of_not_le h)]
    exact .rest (Nat.lt_of_not_le h)

/-- The bounded loop is the unbounded one as long as the count of ticks has room for the result. -/
theorem settle?_eq (t : Timers) (ticks : Nat) (hticks : ticks < tickBound) :
    t.settle? ticks =
      if ticks + t.carried / t.interval < tickBound then some (t.settle ticks) else none := by
  induction t, ticks using Timers.settle?.induct with
  | case1 t ticks h hroom ih =>
    have hcount : ticks + t.carried / t.interval = ticks + 1 + t.step.carried / t.step.interval := by
      rw [t.carried_div_of_le h]
      omega
    rw [settle?, if_pos h, if_pos hroom, ih hroom, hcount, settle.eq_def t ticks, if_pos h]
  | case2 t ticks h hroom =>
    have hfull : ¬ ticks + (t.step.carried / t.step.interval + 1) < tickBound := fun hlt =>
      hroom (Nat.lt_of_le_of_lt (Nat.add_le_add_left (Nat.le_add_left 1 _) ticks) hlt)
    rw [settle?, if_pos h, if_neg hroom, t.carried_div_of_le h, if_neg hfull]
  | case3 t ticks h =>
    have hzero : t.carried / t.interval = 0 := Nat.div_eq_of_lt (Nat.lt_of_not_le h)
    rw [settle?, if_neg h, settle, if_neg h, hzero, Nat.add_zero, if_pos hticks]

/-- Time can go by within bounds: what is then carried is a duration, and the ticks that are due can be
counted. -/
def HasRoom (t : Timers) (elapsed : Nat) : Prop :=
  t.carried + elapsed < durationBound ∧ (t.carried + elapsed) / t.interval < tickBound

instance (t : Timers) (elapsed : Nat) : Decidable (t.HasRoom elapsed) :=
  inferInstanceAs (Decidable (_ ∧ _))

/-- Within bounds time goes by as it does without them, and otherwise not at all. -/
theorem advance?_eq (t : Timers) (elapsed : Nat) :
    t.advance? elapsed = if t.HasRoom elapsed then some (t.advance elapsed) else none := by
  have hsettle := settle?_eq { t with carried := t.carried + elapsed } 0 (by decide)
  rw [Nat.zero_add] at hsettle
  unfold advance?
  by_cases hduration : t.carried + elapsed < durationBound
  · rw [if_pos hduration, hsettle]
    exact if_congr ⟨fun hticks => ⟨hduration, hticks⟩, And.right⟩ rfl rfl
  · rw [if_neg hduration, if_neg fun hroom => hduration hroom.1]

theorem isSome_advance? (t : Timers) (elapsed : Nat) :
    (t.advance? elapsed).isSome = true ↔ t.HasRoom elapsed := by
  rw [advance?_eq]
  split <;> simp [*]

theorem eq_advance_of_advance? {elapsed : Nat} {result : Nat × Timers}
    (h : t.advance? elapsed = some result) : result = t.advance elapsed := by
  rw [advance?_eq] at h
  split at h
  · exact (Option.some.inj h).symm
  · cases h

/-! ## Timers that were reached -/

/-- Timers that were reached have the interval of their rate, and carry less than that. -/
theorem Reached.interval_eq {hz : Nat} (h : Reached hz t) :
    t.interval = max (nanosPerSecond / max hz 1) 1 ∧ t.carried < t.interval := by
  induction h with
  | fresh => exact ⟨rfl, (ofRate hz).interval_pos⟩
  | @advance t after elapsed ticks _ hadvance ih =>
    have hafter : after = (t.advance elapsed).2 :=
      congrArg Prod.snd (eq_advance_of_advance? hadvance)
    rw [hafter]
    exact ⟨(t.interval_advance elapsed).trans ih.1, t.carried_advance_lt elapsed⟩
  | tick _ ih => exact ih
  | @discard t _ ih => exact ⟨ih.1, t.interval_pos⟩
  | setDelay _ _ ih => exact ih
  | setSound _ _ ih => exact ih

/-! ## Pieces of time -/

/-- Timers are what they hold and what they carry. -/
theorem eq_of_countedDown {elapsed : Nat} (h : ∀ timer, CountedDown timer elapsed t t')
    (h' : ∀ timer, CountedDown timer elapsed t t'') : t' = t'' := by
  have hvalue : ∀ timer, t'.value timer = t''.value timer := fun timer =>
    UInt8.toNat.inj ((h timer).value.trans (h' timer).value.symm)
  have hdelay : t'.delay = t''.delay := hvalue .delay
  have hsound : t'.sound = t''.sound := hvalue .sound
  have hinterval := (h .delay).interval.trans (h' .delay).interval.symm
  have hcarried := (h .delay).carried.trans (h' .delay).carried.symm
  cases t'
  cases t''
  simp only at hdelay hsound hinterval hcarried
  subst hdelay hsound hinterval hcarried
  rfl

/-- Time that goes by in two pieces has the effect of both at once. -/
theorem advance_add (t : Timers) (e e' : Nat) : t.advance (e + e') =
    ((t.advance e).1 + ((t.advance e).2.advance e').1, ((t.advance e).2.advance e').2) := by
  refine Prod.ext ?_ (eq_of_countedDown (fun _ => t.countedDown_advance (e + e')) fun _ =>
    (t.countedDown_advance e).trans ((t.advance e).2.countedDown_advance e'))
  simp only [ticks_advance, carried_advance, interval_advance]
  rw [← Nat.add_assoc, add_div_eq _ _ _ t.interval_pos]

/-- Without time going by nothing happens to timers that carry less than an interval. -/
theorem advance_zero (hcarried : t.carried < t.interval) : t.advance 0 = (0, t) := by
  rw [advance, settle]
  exact if_neg (Nat.not_le_of_lt hcarried)

/-- Pieces of time that stay within bounds have the effect of all of it at once. -/
theorem eq_advance_of_advanceAll? {pieces : List Nat} {result : Nat × Timers}
    (hcarried : t.carried < t.interval) (h : t.advanceAll? pieces = some result) :
    result = t.advance pieces.sum := by
  induction pieces generalizing t result with
  | nil =>
    rw [List.sum_nil, advance_zero hcarried]
    exact (Option.some.inj h).symm
  | cons elapsed rest ih =>
    obtain ⟨first, hfirst, hrest⟩ := Option.bind_eq_some_iff.1 h
    obtain ⟨others, hothers, rfl⟩ := Option.map_eq_some_iff.1 hrest
    obtain rfl := eq_advance_of_advance? hfirst
    rw [List.sum_cons, advance_add, ← ih (t.carried_advance_lt elapsed) hothers]

/-- If all of some time can go by at once within bounds, a first piece of it can, and then the rest. -/
theorem HasRoom.split {e e' : Nat} (h : t.HasRoom (e + e')) :
    t.HasRoom e ∧ (t.advance e).2.HasRoom e' := by
  obtain ⟨hduration, hticks⟩ := h
  have hleft : (t.carried + e) % t.interval ≤ t.carried + e := Nat.mod_le _ _
  rw [← Nat.add_assoc] at hduration hticks
  rw [add_div_eq _ _ _ t.interval_pos] at hticks
  refine ⟨⟨?_, ?_⟩, ?_, ?_⟩
  · exact Nat.lt_of_le_of_lt (Nat.le_add_right _ _) hduration
  · exact Nat.lt_of_le_of_lt (Nat.le_add_right _ _) hticks
  · rw [t.carried_advance]
    exact Nat.lt_of_le_of_lt (Nat.add_le_add_right hleft e') hduration
  · rw [t.carried_advance, t.interval_advance]
    exact Nat.lt_of_le_of_lt (Nat.le_add_left _ _) hticks

/-- If all of some time can go by at once within bounds, it can do so in pieces, with the same
effect. -/
theorem advanceAll?_sum {pieces : List Nat} (hcarried : t.carried < t.interval)
    (h : t.HasRoom pieces.sum) : t.advanceAll? pieces = some (t.advance pieces.sum) := by
  induction pieces generalizing t with
  | nil => rw [List.sum_nil, advance_zero hcarried, advanceAll?]
  | cons elapsed rest ih =>
    rw [List.sum_cons] at h ⊢
    obtain ⟨hfirst, hrest⟩ := h.split
    rw [advanceAll?, advance?_eq, if_pos hfirst, Option.bind_some,
      ih (t.carried_advance_lt elapsed) hrest, advance_add]
    rfl

/-- Letting time go by is a division, for timers of any rate and whatever was done to them. The
interval is at least a nanosecond, so that the loop ends, after as many rounds as the interval goes into
the time then carried. Within bounds this is the answer, the remainder is carried on, and each timer has
lost as many, but does not go below zero; and time goes by within bounds exactly if that time is
a duration and that number of ticks fits into 32 bits. Then the same time can go by in any pieces, with
the same ticks in all and the same timers after them. -/
theorem advance_divides_within_bounds {hz : Nat} (h : Reached hz t) (elapsed : Nat) :
    let r := t.carried
    let p := t.interval
    let n := (r + elapsed) / p
    p = max (1000000000 / max hz 1) 1 ∧ 1 ≤ p ∧
    Settles { t with carried := r + elapsed } n (t.advance elapsed).2 ∧
    ((t.advance? elapsed).isSome = true ↔
      r + elapsed < 0x10000000000000000 * 1000000000 ∧ n ≤ 0xffffffff) ∧
    (∀ ticks after, t.advance? elapsed = some (ticks, after) →
      ticks = n ∧ after = (t.advance elapsed).2 ∧ after.carried = (r + elapsed) % p ∧
      after.interval = p ∧ after.delay.toNat = t.delay.toNat - n ∧
      after.sound.toNat = t.sound.toNat - n) ∧
    ∀ pieces : List Nat, pieces.sum = elapsed → (t.advance? elapsed).isSome = true →
      t.advanceAll? pieces = t.advance? elapsed := by
  intro r p n
  obtain ⟨hinterval, hcarried⟩ := h.interval_eq
  refine ⟨hinterval, t.interval_pos, settles_settle _ 0, ?_, fun ticks after hafter => ?_,
    fun pieces hsum hroom => ?_⟩
  · rw [isSome_advance?]
    exact and_congr_right' Nat.lt_succ_iff
  · obtain ⟨rfl, rfl⟩ := Prod.mk.inj (eq_advance_of_advance? hafter)
    exact ⟨t.ticks_advance elapsed, rfl, t.carried_advance elapsed, t.interval_advance elapsed,
      t.value_advance elapsed .delay, t.value_advance elapsed .sound⟩
  · subst hsum
    rw [isSome_advance?] at hroom
    rw [advanceAll?_sum hcarried hroom, advance?_eq, if_pos hroom]

/-- Timers that are to tick twice in each nanosecond, which they cannot, with ten in the delay timer. -/
def hasty : Timers := { ofRate 2000000000 with delay := 10 }

/-- They tick once in each nanosecond, also if the time goes by in pieces, and there is an end to what
they can count. -/
theorem advance_divides_within_bounds_hasty :
    Reached 2000000000 hasty ∧ hasty.interval = 1 ∧
      (∃ after, hasty.advance? 5 = some (5, after) ∧ after.delay.toNat = 5 ∧
        hasty.advanceAll? [2, 0, 3] = some (5, after)) ∧
      (hasty.advance? 0xffffffff).isSome = true ∧ (hasty.advance? 0x100000000).isSome = false := by
  have hreached : Reached 2000000000 hasty := .setDelay .fresh 10
  obtain ⟨hinterval, -, -, hroom, hresult, hpieces⟩ := advance_divides_within_bounds hreached 5
  obtain ⟨-, -, -, hmost, -⟩ := advance_divides_within_bounds hreached 0xffffffff
  obtain ⟨-, -, -, hmore, -⟩ := advance_divides_within_bounds hreached 0x100000000
  have hfive : (hasty.advance? 5).isSome = true := hroom.2 (by decide)
  obtain ⟨⟨ticks, after⟩, hafter⟩ := Option.isSome_iff_exists.1 hfive
  obtain ⟨rfl, -, -, -, hdelay, -⟩ := hresult ticks after hafter
  refine ⟨hreached, hinterval, ⟨after, hafter, hdelay, ?_⟩, hmost.2 (by decide), ?_⟩
  · exact (hpieces [2, 0, 3] rfl hfive).trans hafter
  · rw [← Bool.not_eq_true, hmore]
    decide

end Cosmac.Timers
