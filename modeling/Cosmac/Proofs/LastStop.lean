import Cosmac.Proofs.FirstError
import Cosmac.Proofs.Muted
import Mathlib.Control.Monad.Basic

/-!
# The stop at the end of a loop

While a loop runs, no failure of the buzzer reaches its result, for the muted loop comes to the same one,
and neither a cycle nor a pass has a fault that is the buzzer's (`cycle_ne_buzzer`, `begin_ne_buzzer`).

When the loop is left, a buzzer that is still in use is stopped, and here a failure takes the place of
whatever the loop came to: of success, of a fault and of a request to quit alike. This is the one way in
which a buzzer can change what a loop gives (`mainLoop_ends_as_muted`).
-/

namespace Cosmac

namespace Machine

variable {D K B : Type} [Display D] [Keypad K]

/-- No instruction ends with a failure of the buzzer. -/
theorem outcome_ne_buzzer (m : Machine D K B) (i : Instruction) (text : String) :
    m.outcome i ≠ .error (.buzzer text) := by
  have hfatal : (Fault.buzzer text).IsFatal := nofun
  cases i with
  | clear | awaitKey x => exact outcomeOf_ne_of_isFatal hfatal _
  | draw x y height =>
    by_cases hsprite : Memory.HasSprite m.core.registers.i height.val
    · have hdrawn : m.outcome (.draw x y height) = outcomeOf _ := if_pos hsprite
      rw [hdrawn]
      exact outcomeOf_ne_of_isFatal hfatal _
    · have hrange : m.outcome (.draw x y height) = .error m.rangeFault := if_neg hsprite
      rw [hrange]
      exact nofun
  | ret | call target | storeDigits x | storeRegisters x | loadRegisters x =>
    exact require_ne nofun
  | _ => exact nofun

/-- No cycle ends with a failure of the buzzer. -/
theorem cycle_ne_buzzer (m : Machine D K B) (text : String) :
    m.cycle.1 ≠ .error (.buzzer text) := by
  rcases m.cycle_cases with hs | ⟨hs, hf | ⟨hf, hw | ⟨i, hi⟩⟩⟩
  · rw [m.cycle_of_skips hs]
    exact nofun
  · rw [m.cycle_of_not_canFetch hs hf]
    exact nofun
  · rw [m.cycle_of_not_encodes hs hf hw]
    exact nofun
  · rw [outcome_of_comesTo ⟨hs, hf, hi⟩]
    exact m.outcome_ne_buzzer i text

end Machine

namespace Loop

variable {D K B : Type} [Display D] [Keypad K] [Buzzer B] (l : Loop D K B)

/-- No pass ends with a failure of the buzzer. -/
theorem begin_ne_buzzer (now : Nat) (text : String) : (l.begin now).1 ≠ .error (.buzzer text) := by
  intro h
  cases begin_error_iff.1 ⟨h, rfl⟩ with
  | cycle hcomes hfails =>
    have hcycle := Machine.cycle_eq_error_iff.2 hfails
    exact (l.polled now).cycle_ne_buzzer text (congrArg Prod.fst hcycle)

/-- Nor does a loop come to one before it is left. -/
theorem run_ne_buzzer (clock : Nat → Nat) (n k : Nat) (text : String) :
    (l.run clock n k).1 ≠ some (.error (.buzzer text)) := by
  intro h
  obtain ⟨i, -, k', last, -, hends⟩ := run_eq_some_iff.1 (Prod.ext h rfl)
  generalize (l.run clock n k).2 = left at hends
  cases hends with
  | fails hgoes hbegin => exact last.begin_ne_buzzer _ _ (congrArg Prod.fst hbegin)

end Loop

namespace Machine

variable {D K B : Type} [Display D] [Keypad K] [Buzzer B]

/-- The loop of the muted machine gives what the loop comes to before it is left. -/
theorem mainLoop_muted_fst (m : Machine D K B) (clock : Nat → Nat) (n : Nat) :
    (m.muted.mainLoop clock n).1 = ((m.enterLoop (clock 0)).run clock n 1).1 := by
  have hrun : (m.muted.enterLoop (clock 0)).run clock n 1 = _ :=
    (m.enterLoop (clock 0)).run_muted clock n 1
  rcases hloop : (m.enterLoop (clock 0)).run clock n 1 with ⟨_ | result, l⟩
  · rw [hloop] at hrun
    rw [mainLoop_of_run_none hrun]
  · rw [hloop] at hrun
    have hoff : ∀ text, ¬ l.muted.machine.StopFails text := fun text hfails => nomatch hfails.1
    rw [mainLoop_of_run hrun, leaveLoop_of_stops result hoff]

/-- A loop gives what the loop of the muted machine gives, with the same success, fault or request to
quit, as long as the buzzer can be stopped at its end or was given up before. It fails by its buzzer
exactly when it comes to a result at all, the buzzer is still in use then, and stopping it fails. -/
theorem mainLoop_ends_as_muted (m : Machine D K B) (clock : Nat → Nat) (n : Nat) :
    let left := ((m.enterLoop (clock 0)).run clock n 1).2.machine
    ((∀ text, ¬ left.StopFails text) →
      (m.mainLoop clock n).1 = (m.muted.mainLoop clock n).1) ∧
    ∀ text, (m.mainLoop clock n).1 = some (.error (.buzzer text)) ↔
      (m.muted.mainLoop clock n).1 ≠ none ∧ left.StopFails text := by
  have hclean := (m.enterLoop (clock 0)).run_ne_buzzer clock n 1
  rw [m.mainLoop_muted_fst]
  rcases hrun : (m.enterLoop (clock 0)).run clock n 1 with ⟨_ | result, l⟩
  · rw [mainLoop_of_run_none hrun]
    exact ⟨fun _ => rfl, fun text => ⟨nofun, fun h => absurd rfl h.1⟩⟩
  · rw [hrun] at hclean
    rw [mainLoop_of_run hrun]
    refine ⟨fun hstops => congrArg some (leaveLoop_of_stops result hstops), fun text => ⟨?_, ?_⟩⟩
    · intro h
      refine ⟨nofun, ?_⟩
      rcases l.machine.stops_or_stopFails with hstops | ⟨text', hfails⟩
      -- A buzzer that can be stopped leaves the result of the loop, which is never the buzzer's own.
      · rw [leaveLoop_of_stops result hstops] at h
        exact absurd h (hclean text)
      · rw [leaveLoop_of_stopFails result hfails] at h
        cases h
        exact hfails
    · rintro ⟨-, hfails⟩
      exact congrArg some (leaveLoop_of_stopFails result hfails)

/-- A machine with a limit of four cycles that is about to start the tone, with a buzzer that cannot be
stopped. -/
def jammed : Machine Headless Scripted (Monitored BuzzerCall String Silent) :=
  let booted : Machine Headless Scripted Silent :=
    { headless with config := { seed := some 1, maxCycles := some 4 } }
  (booted.load [0x60, 0x1e, 0xf0, 0x18, 0x12, 0x04]).2.withBuzzer
    { inner := {}, plan := fun call => if call = .stop then some ⟨1, "jammed"⟩ else none }

/-- It reaches its limit, and then its loop fails by the buzzer alone, where the same loop without a
buzzer ends well. So it is not true that a buzzer is never fatal to a loop. -/
theorem mainLoop_of_jammed :
    (jammed.mainLoop (fun _ => 0) 5).2.cycles = 4 ∧
      (jammed.mainLoop (fun _ => 0) 5).1 = some (.error (.buzzer "jammed")) ∧
      (jammed.muted.mainLoop (fun _ => 0) 5).1 = some (.ok ()) := by
  decide +kernel

end Machine

end Cosmac
