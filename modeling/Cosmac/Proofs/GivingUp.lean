import Cosmac.Proofs.Tending

/-!
# Giving up the buzzer

A buzzer that fails while it is looked after is given up, and that is final. One turn gives it up or
leaves it as it was (`Turn.after_of_losesBuzzer`), and nothing between two turns takes it into use
again. So over a whole way from one machine to another the buzzer stays in use exactly as long as no
turn has lost it (`Attended.buzzerOn_eq`). Once it is given up no turn calls it any more, the end of a
loop included (`Attended.machine_of_off`), so it is lost only once (`Attended.countP_le_one`), and the
log tells of it as often as that happens (`Attended.losses_eq`).

For the machine as it is put together this is the whole story of its buzzer (`giving_up_is_final`).
-/

namespace Cosmac.Machine

variable {D K B V : Type}

namespace Attended

variable [Buzzer B] {view : B → V} {m m' : Machine D K B} {turns : List (Turn D K B)}

/-- A way can be cut before any of its turns. -/
theorem exists_rests {before later : List (Turn D K B)} {t : Turn D K B}
    (h : Attended view m (before ++ t :: later) m') :
    ∃ last, Attended view m before last ∧ Rests view last t.machine := by
  induction before generalizing m with
  | nil =>
    cases h with
    | turn t hrests hrest => exact ⟨m, .rest (.refl m), hrests⟩
  | cons first before ih =>
    cases h with
    | turn t hrests hrest =>
      obtain ⟨last, hlast, hlate⟩ := ih hrest
      exact ⟨last, .turn first hrests hlast, hlate⟩

/-- In the end the buzzer is in use if it was at first and no turn has lost it. -/
theorem buzzerOn_eq (h : Attended view m turns m') :
    m'.buzzerOn = (m.buzzerOn && turns.all fun t => !t.losesBuzzer) := by
  induction h with
  | rest hrests => rw [hrests.buzzerOn, List.all_nil, Bool.and_true]
  | turn t hrests _ ih =>
    rw [ih, t.after_of_losesBuzzer.1, hrests.buzzerOn, List.all_cons, Bool.and_assoc]

/-- The log tells of every loss. -/
theorem losses_eq (h : Attended view m turns m') :
    m'.losses = m.losses + turns.countP Turn.losesBuzzer := by
  induction h with
  | rest hrests => exact hrests.losses
  | @turn before after turns t hrests _ ih =>
    have hcount : (t :: turns).countP Turn.losesBuzzer =
        t.losesBuzzer.toNat + turns.countP Turn.losesBuzzer := by
      rw [List.countP_cons, Nat.add_comm]
      cases t.losesBuzzer <;> rfl
    rw [ih, t.after_of_losesBuzzer.2, hrests.losses, hcount, Nat.add_assoc]

/-- A buzzer that was given up is so in every turn. -/
theorem machine_of_off (h : Attended view m turns m') (hoff : m.buzzerOn = false) :
    ∀ t ∈ turns, t.machine.buzzerOn = false := by
  intro t ht
  obtain ⟨before, later, rfl⟩ := List.append_of_mem ht
  obtain ⟨last, hlast, hrests⟩ := h.exists_rests
  rw [hrests.buzzerOn, hlast.buzzerOn_eq, hoff, Bool.false_and]

/-- It is left to itself to the end. -/
theorem rests_of_off (h : Attended view m turns m') (hoff : m.buzzerOn = false) :
    Rests view m m' := by
  induction h with
  | rest hrests => exact hrests
  | turn t hrests _ ih =>
    have hoff' : t.machine.buzzerOn = false := hrests.buzzerOn.trans hoff
    have hbuzzer : t.after.buzzer = t.machine.buzzer := by
      rw [t.buzzer_after, t.duty_of_off hoff']
    obtain ⟨hon, hlosses⟩ := t.after_of_losesBuzzer
    rw [t.losesBuzzer_of_off hoff'] at hon hlosses
    rw [Bool.not_false, Bool.and_true] at hon
    have hturn : Rests view t.machine t.after := ⟨congrArg view hbuzzer, hon, hlosses⟩
    exact (hrests.trans hturn).trans (ih (hon.trans hoff'))

/-- A buzzer is lost at most once. -/
theorem countP_le_one (h : Attended view m turns m') : turns.countP Turn.losesBuzzer ≤ 1 := by
  induction h with
  | rest hrests => exact Nat.zero_le 1
  | @turn before after turns t hrests hrest ih =>
    rw [List.countP_cons]
    split_ifs with hloses
    -- After the loss there are only turns on machines that have given the buzzer up.
    · have hoff : t.after.buzzerOn = false := by
        rw [t.after_of_losesBuzzer.1, hloses, Bool.not_true, Bool.and_false]
      have hnone : turns.countP Turn.losesBuzzer = 0 := by
        refine List.countP_eq_zero.2 fun t' ht' => ?_
        rw [t'.losesBuzzer_of_off (hrest.machine_of_off hoff t' ht')]
        exact Bool.false_ne_true
      exact Nat.le_of_eq (congrArg Nat.succ hnone)
    · exact ih

end Attended

variable [Display D] [Keypad K] [Buzzer B]

/-- Giving up the buzzer is final. A machine has its buzzer in use from the start. Whatever is asked of
it, the turns of its buzzer leave out no call of it, and the buzzer is in use in each of them, and in the
end, exactly as long as it has not failed while it was looked after. Where it is not in use it is not
called. So it fails in this way at most once, and the log tells of that as often as it happens, which is
at most once as well. Any later calls find it given up, and leave it in the very state in which it failed
unless they put in another one. -/
theorem giving_up_is_final {config : Config} {entropy : Random.Key} {display : D} {keypad : K}
    {buzzer : B} {booted : Machine D K B}
    (hboot : boot config entropy display keypad buzzer = .ok booted) (calls : List (Call D K B)) :
    let after := booted.performAll calls
    let turns := booted.turns calls
    ((∀ display keypad buzzer, .devices display keypad buzzer ∉ calls) →
      booted.Attended id turns after ∧
      ∀ record : B → List (CallRecord BuzzerCall), Buzzer.Records record →
        record after.buzzer = turns.reverse.flatMap Turn.calls ++ record booted.buzzer) ∧
    (∀ before t later, turns = before ++ t :: later →
      (t.machine.buzzerOn = true ↔ ∀ t' ∈ before, t'.losesBuzzer = false) ∧
      (t.machine.buzzerOn = false → t.calls = [])) ∧
    (after.buzzerOn = true ↔ ∀ t ∈ turns, t.losesBuzzer = false) ∧
    turns.countP Turn.losesBuzzer ≤ 1 ∧
    after.losses = turns.countP Turn.losesBuzzer ∧
    (after.buzzerOn = false → ∀ later, (after.performAll later).buzzerOn = false ∧
      ((∀ display keypad buzzer, .devices display keypad buzzer ∉ later) →
        (after.performAll later).buzzer = after.buzzer)) := by
  intro after turns
  have hway : booted.Attended unseen turns after := booted.performAll_attended_unseen calls
  obtain ⟨shown, hfresh⟩ := boot_eq_ok hboot
  have hon : booted.buzzerOn = true := by rw [hfresh]
  have hnoloss : booted.losses = 0 := by
    rw [hfresh]
    rfl
  -- This holds on every way from the start, also on one that is cut before some turn.
  have hkept : ∀ {some : List (Turn D K B)} {m : Machine D K B},
      booted.Attended unseen some m →
      (m.buzzerOn = true ↔ ∀ t ∈ some, t.losesBuzzer = false) := by
    intro some m h
    rw [h.buzzerOn_eq, hon, Bool.true_and, List.all_eq_true]
    simp only [Bool.not_eq_true']
  refine ⟨booted.turns_account, fun before t later hsplit => ⟨?_, t.calls_of_off⟩, hkept hway,
    hway.countP_le_one, ?_, fun hoff later => ⟨?_, fun hinside => ?_⟩⟩
  · rw [hsplit] at hway
    obtain ⟨last, hlast, hrests⟩ := hway.exists_rests
    rw [hrests.buzzerOn]
    exact hkept hlast
  · rw [hway.losses_eq, hnoloss, Nat.zero_add]
  · have hlater := after.performAll_attended_unseen later
    exact (hlater.rests_of_off hoff).buzzerOn.trans hoff
  · exact ((after.turns_account hinside).1.rests_of_off hoff).buzzer

/-- A buzzer that always fails is given up when a tone is to start, and the log tells so once. The turns
until then make all the calls that it has on record. -/
theorem giving_up_is_final_voiceless :
    let calls := soundingCalls (Monitored BuzzerCall String Silent)
    let after := voiceless.performAll calls
    boot { seed := some 1 } (Vector.replicate 8 0) ({} : Headless) ({} : Scripted)
      voiceless.buzzer = .ok voiceless ∧
    after.buzzer.record = (voiceless.turns calls).reverse.flatMap Turn.calls ∧
    after.buzzerOn = false ∧ after.losses = 1 ∧
    ∀ later, (after.performAll later).buzzerOn = false := by
  intro calls after
  have hboot : boot { seed := some 1 } (Vector.replicate 8 0) ({} : Headless) ({} : Scripted)
      voiceless.buzzer = .ok voiceless := rfl
  have hinside : ∀ display keypad buzzer, .devices display keypad buzzer ∉ calls := by
    intro display keypad buzzer hmem
    simp [calls, soundingCalls] at hmem
  have hoff : after.buzzerOn = false := by decide +kernel
  obtain ⟨haccount, -, -, -, -, hfinal⟩ := giving_up_is_final hboot calls
  obtain ⟨-, hrecord⟩ := haccount hinside
  have hrecorded := (hrecord _ Monitored.records).trans (List.append_nil _)
  exact ⟨hboot, hrecorded, hoff, by decide +kernel, fun later => (hfinal hoff later).1⟩

end Cosmac.Machine
