import Cosmac.Proofs.Tending

/-!
# The tone of an obedient buzzer

An obedient buzzer never fails, and it knows whether its tone is on (`Buzzer.Obedient`). A machine with
such a buzzer keeps it in use for good, since every turn leaves it in a state in which it still obeys
(`Turn.obeyed`, `Attended.keepsObedient`).

Each time the machine has looked after the buzzer, the tone is on exactly while the sound timer runs,
whatever the tone was before (`updateBuzzer_inTune`). So ticks that succeed and passes that are completed
end in tune, and leaving a loop ends the tone (`buzzer_follows_sound_timer`).
-/

namespace Cosmac

/-- What is asked of a buzzer that obeys: as long as it is in one of its `good` states, it can start and
end its tone, it knows that it has, and is in a good state again. -/
structure Buzzer.Obedient {B : Type} [Buzzer B] (good : B → Prop) : Prop where
  beep : ∀ b, good b → ∃ b', Buzzer.beep b = (.ok (), b') ∧ Buzzer.isBeeping b' = true ∧ good b'
  stop : ∀ b, good b → ∃ b', Buzzer.stop b = (.ok (), b') ∧ Buzzer.isBeeping b' = false ∧ good b'

/-- The buzzer that makes no sound obeys. -/
theorem Silent.obedient : Buzzer.Obedient fun _ : Silent => True where
  beep _ _ := ⟨⟨true⟩, rfl, rfl, trivial⟩
  stop _ _ := ⟨⟨false⟩, rfl, rfl, trivial⟩

/-- Whether a call is made to have the tone on. -/
def BuzzerCall.startsTone : BuzzerCall → Bool
  | beep => true
  | stop => false

/-- An obedient buzzer does what it is told. -/
theorem Buzzer.Obedient.on {B : Type} [Buzzer B] {good : B → Prop} (hgood : Buzzer.Obedient good)
    (call : BuzzerCall) {b : B} (h : good b) :
    ∃ b', call.on b = (.ok (), b') ∧ Buzzer.isBeeping b' = call.startsTone ∧ good b' := by
  cases call with
  | beep => exact hgood.beep b h
  | stop => exact hgood.stop b h

namespace Machine

variable {D K B : Type}

/-- The machine has its buzzer in use, and the buzzer is in a good state. -/
structure KeepsObedient (good : B → Prop) (m : Machine D K B) : Prop where
  buzzerOn : m.buzzerOn = true
  buzzer : good m.buzzer

theorem KeepsObedient.of_rests {good : B → Prop} {m m' : Machine D K B} (h : m.KeepsObedient good)
    (hrests : Rests good m m') : m'.KeepsObedient good :=
  ⟨hrests.buzzerOn.trans h.buzzerOn, hrests.buzzer.mpr h.buzzer⟩

/-- The tone is on exactly while the sound timer runs. -/
def InTune [Buzzer B] (m : Machine D K B) : Prop :=
  Buzzer.isBeeping m.buzzer = decide (0 < m.core.timers.sound)

/-- Whether the tone is on after what there is to be done, if the buzzer obeys. -/
def toneAfter [Buzzer B] (m : Machine D K B) (duty : Option BuzzerCall) : Bool :=
  match duty with
  | none => Buzzer.isBeeping m.buzzer
  | some call => call.startsTone

/-- What there is to be done brings the tone in line with the sound timer, whatever it was. -/
theorem toneAfter_duty [Buzzer B] {m : Machine D K B} (h : m.buzzerOn = true) :
    m.toneAfter m.duty = m.core.timers.isSounding := by
  rw [duty, if_pos h]
  -- The tone is left alone in two of the four cases, where it is in line already.
  rcases m.core.timers.isSounding with _ | _ <;> rcases htone : Buzzer.isBeeping m.buzzer with _ | _
  · exact htone
  · rfl
  · rfl
  · exact htone

end Machine

/-! ## Turns -/

namespace Turn

variable {D K B : Type} [Buzzer B] {good : B → Prop} {t : Turn D K B}

/-- A buzzer that can do what there is to be done is not lost. -/
theorem losesBuzzer_of_ok
    (h : ∀ call, t.duty = some call → (call.on t.machine.buzzer).1 = .ok ()) :
    t.losesBuzzer = false := by
  cases t with
  | leave m => rfl
  | tend m =>
    rw [losesBuzzer, calls_eq]
    rcases hduty : (tend m).duty with _ | call
    · rfl
    · dsimp only
      rw [h call hduty]
      rfl

/-- An obedient buzzer is still in use and in a good state after its turn, and its tone is as it was to
be. -/
theorem obeyed (hgood : Buzzer.Obedient good) (h : t.machine.KeepsObedient good) :
    t.after.KeepsObedient good ∧ Buzzer.isBeeping t.after.buzzer = t.machine.toneAfter t.duty := by
  have hkept : t.losesBuzzer = false := by
    refine losesBuzzer_of_ok fun call _ => ?_
    obtain ⟨b', hreply, -, -⟩ := hgood.on call h.buzzer
    rw [hreply]
  have hon : t.after.buzzerOn = true := by
    rw [t.after_of_losesBuzzer.1, hkept, h.buzzerOn]
    rfl
  have hafter := t.buzzer_after
  rcases hduty : t.duty with _ | call <;> rw [hduty] at hafter
  · refine ⟨⟨hon, ?_⟩, congrArg Buzzer.isBeeping hafter⟩
    rw [hafter]
    exact h.buzzer
  · obtain ⟨b', hreply, htone, hb'⟩ := hgood.on call h.buzzer
    dsimp only at hafter
    rw [hreply] at hafter
    rw [hafter]
    exact ⟨⟨hon, hafter ▸ hb'⟩, htone⟩

end Turn

namespace Machine

variable {D K B : Type} [Buzzer B] {good : B → Prop} {m m' : Machine D K B}

/-- Whatever its tone was before, an obedient buzzer is in tune after it was looked after. -/
theorem updateBuzzer_inTune (hgood : Buzzer.Obedient good) (h : m.KeepsObedient good) :
    m.updateBuzzer.InTune := by
  have htone : Buzzer.isBeeping m.updateBuzzer.buzzer = m.toneAfter m.duty :=
    (Turn.obeyed (t := .tend m) hgood h).2
  obtain ⟨_, _, _, hframe⟩ := m.updateBuzzer_frame
  have hcore : m.updateBuzzer.core = m.core := by rw [hframe]
  rw [toneAfter_duty h.buzzerOn] at htone
  rw [InTune, htone, hcore]
  rfl

/-- An obedient buzzer is silent after a loop was left. -/
theorem isBeeping_leaveLoop (hgood : Buzzer.Obedient good) (h : m.KeepsObedient good)
    (result : Except Fault Unit) : Buzzer.isBeeping (m.leaveLoop result).2.buzzer = false := by
  have htone := (Turn.obeyed (t := .leave m) hgood h).2
  have hduty : (Turn.leave m).duty = some .stop := if_pos h.buzzerOn
  rw [hduty] at htone
  rw [leaveLoop_snd]
  exact htone

/-- An obedient buzzer is kept in use over any turns. -/
theorem Attended.keepsObedient {turns : List (Turn D K B)} (hgood : Buzzer.Obedient good)
    (hway : Attended good m turns m') (h : m.KeepsObedient good) : m'.KeepsObedient good := by
  induction hway with
  | rest hrests => exact h.of_rests hrests
  | turn t hrests _ ih => exact ih (Turn.obeyed hgood (h.of_rests hrests)).1

/-- A tick that succeeds ends in tune. -/
theorem tick_inTune [Display D] (hgood : Buzzer.Obedient good) (h : m.KeepsObedient good)
    {elapsed ticks : Nat} (hok : (m.tick elapsed).1 = .ok ticks) : (m.tick elapsed).2.InTune := by
  have htended : m.Rests good (m.tended elapsed) :=
    (m.timed_rests good elapsed).trans ⟨rfl, rfl, rfl⟩
  rw [tick_of_ok hok]
  exact updateBuzzer_inTune hgood (h.of_rests htended)

end Machine

/-! ## Passes -/

namespace Loop

variable {D K B : Type} [Buzzer B] {good : B → Prop} {l : Loop D K B}

/-- The end of a pass keeps a machine in tune. -/
theorem finish_inTune (h : l.machine.InTune) (clock : Nat → Nat) (k : Nat) :
    (l.finish clock k).machine.InTune := by
  rw [machine_finish]
  split_ifs
  · exact h
  · exact h

variable [Display D] [Keypad K]

/-- A pass in which nothing fails has its machine in tune when it has looked after the buzzer. -/
theorem begin_inTune {l' : Loop D K B} {now : Nat} (hgood : Buzzer.Obedient good)
    (h : l.machine.KeepsObedient good) (hbegin : l.begin now = (.ok (), l')) :
    l'.machine.InTune := by
  obtain ⟨-, -, rfl⟩ := l.of_begin_ok now hbegin
  have hticked : (l.ticked now).KeepsObedient good :=
    (l.machine.tick_attended (now - l.last) good).keepsObedient hgood h
  have hpolled : (l.polled now).KeepsObedient good := hticked.of_rests ⟨rfl, rfl, rfl⟩
  exact Machine.updateBuzzer_inTune hgood (hpolled.of_rests ((l.polled now).cycle_rests good))

/-- Passes that succeed keep an obedient buzzer in use. They end in tune if there are any, and also if
the machine was in tune before. -/
theorem Passes.inTune {clock : Nat → Nat} {n k k' : Nat} {l' : Loop D K B}
    (hpasses : Passes clock n k l k' l') (hgood : Buzzer.Obedient good)
    (h : l.machine.KeepsObedient good) :
    l'.machine.KeepsObedient good ∧ ((0 < n ∨ l.machine.InTune) → l'.machine.InTune) := by
  -- Passes are taken off the front, so the machine after the first one is in tune for the rest.
  induction hpasses with
  | none k l =>
    refine ⟨h, ?_⟩
    rintro (hpos | htune)
    · exact absurd hpos (Nat.lt_irrefl 0)
    · exact htune
  | @more n k k'' l l' l'' hgoes hbegin hrest ih =>
    have hbegun : l'.machine.KeepsObedient good := by
      have hway := l.begin_attended good (clock k)
      rw [hbegin] at hway
      exact hway.keepsObedient hgood h
    have hkeeps := hbegun.of_rests (l'.finish_rests good clock k)
    have htune := finish_inTune (begin_inTune hgood h hbegin) clock k
    obtain ⟨hlast, hends⟩ := ih hkeeps
    exact ⟨hlast, fun _ => hends (.inr htune)⟩

end Loop

namespace Machine

variable {D K B : Type} [Display D] [Keypad K] [Buzzer B] {good : B → Prop}

/-- A loop that comes to a result leaves an obedient buzzer silent. -/
theorem isBeeping_mainLoop {m after : Machine D K B} {clock : Nat → Nat} {n : Nat}
    {result : Except Fault Unit} (hgood : Buzzer.Obedient good) (h : m.KeepsObedient good)
    (hloop : m.mainLoop clock n = (some result, after)) :
    Buzzer.isBeeping after.buzzer = false := by
  obtain ⟨reached, l, hrun, hleave⟩ := run_of_mainLoop hloop
  have henter : (m.enterLoop (clock 0)).machine.KeepsObedient good := h.of_rests ⟨rfl, rfl, rfl⟩
  have hway := (m.enterLoop (clock 0)).run_attended good clock n 1
  rw [hrun] at hway
  have hsilent := isBeeping_leaveLoop hgood (hway.keepsObedient hgood henter) reached
  rw [hleave] at hsilent
  exact hsilent

/-- Any calls keep an obedient buzzer in use, if what they put in from outside obeys too. -/
theorem performAll_keepsObedient {m : Machine D K B} {calls : List (Call D K B)}
    (hgood : Buzzer.Obedient good) (h : m.KeepsObedient good)
    (hcalls : ∀ display keypad buzzer, .devices display keypad buzzer ∈ calls → good buzzer) :
    (m.performAll calls).KeepsObedient good := by
  induction calls generalizing m with
  | nil => exact h
  | cons call calls ih =>
    -- Here `good` itself is the view of the buzzer: all that must be seen is that it still obeys.
    have hfirst : m.Attended good (m.turnsOf call) (m.perform call) := by
      refine m.perform_attended good fun display keypad buzzer hcall => ?_
      have hbuzzer := hcalls display keypad buzzer (hcall ▸ List.mem_cons_self)
      exact propext (iff_of_true hbuzzer h.buzzer)
    exact ih (hfirst.keepsObedient hgood h) fun display keypad buzzer hmem =>
      hcalls display keypad buzzer (List.mem_cons_of_mem call hmem)

/-- An obedient buzzer follows the sound timer. Whatever was asked of its machine before, and whatever
the display and the keypad made of that, a tick that succeeds ends with the tone on exactly while the
sound timer runs, and so does each completed pass of a loop; and a loop that comes to a result, whichever
it is, leaves the buzzer silent. In all of this the tone is started only while it is off and the sound
timer runs, and ended only while it is on and the sound timer does not run, except that a loop ends it
when it is left: the turns of the buzzer leave out no call of it, and this holds of the calls that each of
them makes. -/
theorem buzzer_follows_sound_timer (hgood : Buzzer.Obedient good) {config : Config}
    {entropy : Random.Key} {display : D} {keypad : K} {buzzer : B} {booted : Machine D K B}
    (hboot : boot config entropy display keypad buzzer = .ok booted) (hbuzzer : good buzzer)
    {calls : List (Call D K B)}
    (hcalls : ∀ display keypad buzzer, .devices display keypad buzzer ∈ calls → good buzzer) :
    let after := booted.performAll calls
    (∀ elapsed ticks, (after.tick elapsed).1 = .ok ticks → (after.tick elapsed).2.InTune) ∧
    (∀ clock n k l, Loop.Passes clock n 1 (after.enterLoop (clock 0)) k l →
      (0 < n → l.machine.InTune) ∧
      ∀ ticks, (l.machine.tick (clock k - l.last)).1 = .ok ticks → (l.ticked (clock k)).InTune) ∧
    (∀ clock n result left, after.mainLoop clock n = (some result, left) →
      Buzzer.isBeeping left.buzzer = false) ∧
    ((∀ display keypad buzzer, .devices display keypad buzzer ∉ calls) →
      booted.Attended id (booted.turns calls) after ∧
      ∀ record : B → List (CallRecord BuzzerCall), Buzzer.Records record →
        record after.buzzer =
          (booted.turns calls).reverse.flatMap Turn.calls ++ record booted.buzzer) ∧
    ∀ t ∈ booted.turns calls, ∀ call ∈ t.calls,
      (call.name = .beep →
        Buzzer.isBeeping t.machine.buzzer = false ∧ 0 < t.machine.core.timers.sound) ∧
      ∀ m, t = .tend m → call.name = .stop →
        Buzzer.isBeeping m.buzzer = true ∧ m.core.timers.sound = 0 := by
  intro after
  obtain ⟨shown, hfresh⟩ := boot_eq_ok hboot
  have hbooted : booted.KeepsObedient good := by
    rw [hfresh]
    exact ⟨rfl, hbuzzer⟩
  have hkeeps : after.KeepsObedient good := performAll_keepsObedient hgood hbooted hcalls
  refine ⟨fun elapsed ticks hok => tick_inTune hgood hkeeps hok, fun clock n k l hpasses => ?_,
    fun clock n result left hloop => isBeeping_mainLoop hgood hkeeps hloop, booted.turns_account, ?_⟩
  · have henter : (after.enterLoop (clock 0)).machine.KeepsObedient good :=
      hkeeps.of_rests ⟨rfl, rfl, rfl⟩
    obtain ⟨hlast, htune⟩ := hpasses.inTune hgood henter
    exact ⟨fun hn => htune (.inl hn), fun ticks hok => tick_inTune hgood hlast hok⟩
  · intro t _ call hcall
    have hduty := Turn.duty_of_mem_calls hcall
    refine ⟨fun hbeep => ?_, fun m htend hstop => ?_⟩
    · rw [hbeep] at hduty
      have htend := Turn.eq_tend_of_beep hduty
      rw [htend] at hduty
      obtain ⟨-, hsilent, hsounding⟩ := t.machine.duty_eq_beep_iff.1 hduty
      exact ⟨hsilent, of_decide_eq_true hsounding⟩
    · rw [hstop, htend] at hduty
      obtain ⟨-, hbeeping, hsounding⟩ := m.duty_eq_stop_iff.1 hduty
      exact ⟨hbeeping, UInt8.le_zero_iff.1 (UInt8.not_lt.1 (of_decide_eq_false hsounding))⟩

/-- Right after a program has set the sound timer the tone is still off. The next tick starts it, though
no time goes by. -/
theorem buzzer_follows_sound_timer_headless :
    let after := headless.performAll ((soundingCalls Silent).take 3)
    after.core.timers.sound = 2 ∧ after.buzzer.isBeeping = false ∧
      (after.tick 0).1 = .ok 0 ∧ (after.tick 0).2.InTune ∧
      (after.tick 0).2.buzzer.isBeeping = true := by
  intro after
  have hboot : boot { seed := some 1 } (Vector.replicate 8 0) ({} : Headless) ({} : Scripted)
      ({} : Silent) = .ok headless := rfl
  have hinside : ∀ display keypad buzzer,
      .devices display keypad buzzer ∈ (soundingCalls Silent).take 3 → True :=
    fun _ _ _ _ => trivial
  have htick : (after.tick 0).1 = .ok 0 :=
    congrArg Prod.fst (after.tick_of_share_eq_zero 0 (by decide +kernel))
  obtain ⟨hticks, -⟩ := buzzer_follows_sound_timer Silent.obedient hboot trivial hinside
  exact ⟨by decide +kernel, by decide +kernel, htick, hticks 0 0 htick, by decide +kernel⟩

end Machine

end Cosmac
