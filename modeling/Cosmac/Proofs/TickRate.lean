import Cosmac.Proofs.BoundedTime
import Mathlib.Algebra.Order.Floor.Div
import Mathlib.GroupTheory.GroupAction.Ring

/-!
# The rate of the ticks

An interval is a whole number of nanoseconds. For most rates it is therefore a little shorter than the
share of a second that it stands for (`share_mul_le`), though by less than a nanosecond
(`nanosPerSecond_le`). So the timers tick too often rather than too seldom: of some time they make at
least the ticks that the rate stands for (`nominal_le`), and at most as many more as the nanoseconds
amount to that were cut off from their intervals (`le_nominal_add`). For a rate that divides a second
nothing is cut off (`div_share_of_dvd`).
-/

namespace Cosmac.Timers

variable {hz : Nat}

/-! ## Intervals -/

/-- As many intervals as there are in a second take at most a second. -/
theorem share_mul_le (hpos : 1 ≤ hz) : share hz * hz ≤ nanosPerSecond := by
  rw [share, Nat.max_eq_left hpos]
  exact Nat.div_mul_le_self _ _

/-- What they fall short of a second is less than a nanosecond for each. -/
theorem nanosPerSecond_le (hpos : 1 ≤ hz) : nanosPerSecond ≤ share hz * hz + (hz - 1) := by
  have hlt : nanosPerSecond < nanosPerSecond / hz * hz + hz := Nat.lt_div_mul_add hpos
  rw [share, Nat.max_eq_left hpos]
  omega

/-- Up to a billion ticks in a second, each has a share that takes time. -/
theorem share_pos (hpos : 1 ≤ hz) (hle : hz ≤ nanosPerSecond) : 0 < share hz := by
  rw [share, Nat.max_eq_left hpos]
  exact Nat.div_pos hle hpos

/-- Up to there, the share is the interval. -/
theorem interval_ofRate (hpos : 1 ≤ hz) (hle : hz ≤ nanosPerSecond) :
    (ofRate hz).interval = share hz :=
  Nat.max_eq_left (share_pos hpos hle)

/-! ## Ticks -/

/-- The ticks are not fewer than those that the rate stands for. -/
theorem nominal_le (hpos : 1 ≤ hz) (hle : hz ≤ nanosPerSecond) (time : Nat) :
    time * hz / nanosPerSecond ≤ time / share hz := by
  rw [Nat.le_div_iff_mul_le (share_pos hpos hle)]
  refine Nat.le_of_mul_le_mul_right ?_ hpos
  calc time * hz / nanosPerSecond * share hz * hz
      = time * hz / nanosPerSecond * (share hz * hz) := Nat.mul_assoc _ _ _
    _ ≤ time * hz / nanosPerSecond * nanosPerSecond := Nat.mul_le_mul_left _ (share_mul_le hpos)
    _ ≤ time * hz := Nat.div_mul_le_self _ _

/-- If `n` intervals have gone by, the ticks that the rate stands for are at most so many fewer as whole
seconds are needed for what was cut off from the intervals. -/
theorem le_nominal_add (hpos : 1 ≤ hz) {n time : Nat} (hn : n * share hz ≤ time) :
    n ≤ time * hz / nanosPerSecond + (n * (hz - 1)) ⌈/⌉ nanosPerSecond := by
  have hsecond : 0 < nanosPerSecond := by decide
  have hticks : n * nanosPerSecond ≤ time * hz + n * (hz - 1) :=
    calc n * nanosPerSecond
        ≤ n * (share hz * hz + (hz - 1)) := Nat.mul_le_mul_left _ (nanosPerSecond_le hpos)
      _ = n * share hz * hz + n * (hz - 1) := by rw [Nat.mul_add, Nat.mul_assoc]
      _ ≤ time * hz + n * (hz - 1) := Nat.add_le_add_right (Nat.mul_le_mul_right _ hn) _
  have hnominal : time * hz < nanosPerSecond * (time * hz / nanosPerSecond + 1) :=
    Nat.lt_mul_div_succ _ hsecond
  have hcut : n * (hz - 1) ≤ nanosPerSecond * ((n * (hz - 1)) ⌈/⌉ nanosPerSecond) :=
    le_smul_ceilDiv hsecond
  generalize time * hz / nanosPerSecond = nominal at hnominal ⊢
  generalize (n * (hz - 1)) ⌈/⌉ nanosPerSecond = surplus at hcut ⊢
  have hlt : nanosPerSecond * n < nanosPerSecond * (nominal + 1 + surplus) := by
    rw [Nat.mul_add nanosPerSecond (nominal + 1), Nat.mul_comm]
    omega
  have := Nat.lt_of_mul_lt_mul_left hlt
  omega

/-- If the rate divides a second, the ticks are those that it stands for. -/
theorem div_share_of_dvd (hpos : 1 ≤ hz) (hdvd : hz ∣ nanosPerSecond) (time : Nat) :
    time / share hz = time * hz / nanosPerSecond := by
  have hexact : share hz * hz = nanosPerSecond := by
    rw [share, Nat.max_eq_left hpos, Nat.div_mul_cancel hdvd]
  rw [← hexact, Nat.mul_div_mul_right _ _ hpos]

/-- The rate is kept with fresh timers, whatever the pieces in which the time goes by, as long as they
stay within bounds. No tick is missing from those that the rate stands for. There may be some more,
since intervals are cut to whole nanoseconds, but at most as many as whole seconds are needed for what
was cut off; and there are none if the rate divides a second. -/
theorem ticks_keep_rate (hpos : 1 ≤ hz) (hle : hz ≤ 1000000000) {pieces : List Nat} {n : Nat}
    {after : Timers} (h : (ofRate hz).advanceAll? pieces = some (n, after)) :
    let time := pieces.sum
    time * hz / 1000000000 ≤ n ∧
    n ≤ time * hz / 1000000000 + (n * (hz - 1)) ⌈/⌉ 1000000000 ∧
    (hz ∣ 1000000000 → n = time * hz / 1000000000) := by
  intro time
  have hn : n = time / share hz := by
    have hall := congrArg Prod.fst (eq_advance_of_advanceAll? (ofRate hz).interval_pos h)
    rw [ticks_advance, interval_ofRate hpos hle] at hall
    exact hall.trans (congrArg (· / share hz) (Nat.zero_add time))
  have hwhole : n * share hz ≤ time := hn ▸ Nat.div_mul_le_self time (share hz)
  refine ⟨hn ▸ nominal_le hpos hle time, le_nominal_add hpos hwhole, fun hdvd => ?_⟩
  rw [hn]
  exact div_share_of_dvd hpos hdvd time

/-- At sixty ticks in a second, the sixtieth comes before a second has gone by. -/
theorem ticks_keep_rate_sixty :
    let time := 499999980 + 0 + 499999980
    ∃ after, (ofRate 60).advanceAll? [499999980, 0, 499999980] = some (60, after) ∧
      time * 60 / 1000000000 = 59 ∧ 60 ≤ 59 + (60 * (60 - 1)) ⌈/⌉ 1000000000 := by
  intro time
  have hall : (ofRate 60).advanceAll? [499999980, 0, 499999980] = some ((ofRate 60).advance time) :=
    advanceAll?_sum (ofRate 60).interval_pos (by decide)
  have hticks : ((ofRate 60).advance time).1 = 60 := (ticks_advance _ _).trans (by decide)
  have hsixty : (ofRate 60).advanceAll? [499999980, 0, 499999980] =
      some (60, ((ofRate 60).advance time).2) := hall.trans (congrArg some (Prod.ext hticks rfl))
  obtain ⟨-, hmost, -⟩ := ticks_keep_rate (by decide) (by decide) hsixty
  exact ⟨_, hsixty, by decide, hmost⟩

end Cosmac.Timers
