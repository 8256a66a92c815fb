import Cosmac.Device.Headless
import Cosmac.Device.Monitored
import Cosmac.Proofs.Atomic
import Cosmac.Proofs.Outcome

/-!
# What a failed cycle leaves behind

A cycle that fails has counted itself and perhaps noted the word that it fetched, and a device that
failed is in whatever state it left itself in. Everything else is spared (`Machine.Spares`). That the
core is among it comes from the order of the steps of each instruction (`cycle_error_core`); what a
device does when it fails is read off the request that was made of it.

A picture survives a failed cycle for certain when the cycle did not fail by the display. When it
did, the picture survives if the display's own calls leave it alone when they fail
(`Display.FailsClean`). A monitored display is of that kind whenever the display that it watches is
(`failsClean_inner`).
-/

namespace Cosmac

namespace Display

variable {D α : Type} [Display D]

/-- A call that a cycle may make of the display fails with the error `e` and leaves `after`. -/
def Fails (before : D) (e : DeviceError) (after : D) : Prop :=
  clear before = (.error e, after) ∨ ∃ x y rows, draw x y rows before = (.error e, after)

/-- The calls that a cycle may make of the display leave a part of it alone when they fail. -/
def FailsClean (frame : D → α) : Prop :=
  ∀ before e after, Fails before e after → frame after = frame before

end Display

namespace Monitored

variable {ι ε σ α β : Type} [DecidableEq ι]

/-- A failing call has not reached the inner device, or is a failing call of that device. -/
theorem inner_attempt_error {d after : Monitored ι ε σ} {name : ι} {call : σ → Reply ε α σ} {e : ε}
    (h : d.attempt name call = (.error e, after)) :
    after.inner = d.inner ∨ call d.inner = (.error e, after.inner) := by
  rw [attempt] at h
  split at h
  · cases h
    exact .inl rfl
  · obtain ⟨hresult, hafter⟩ := Prod.mk.inj h
    refine .inr (Prod.ext hresult ?_)
    rw [← hafter]

/-- A monitored display leaves alone what the display under watch leaves alone. -/
theorem failsClean_inner [Display σ] {frame : σ → β} (h : Display.FailsClean frame) :
    Display.FailsClean fun d : Monitored DisplayCall DeviceError σ => frame d.inner := by
  intro before e after hfails
  rcases hfails with hclear | ⟨x, y, rows, hdraw⟩
  · rcases inner_attempt_error hclear with hsame | hinner
    · exact congrArg frame hsame
    · exact h _ _ _ (.inl hinner)
  · rcases inner_attempt_error hdraw with hsame | hinner
    · exact congrArg frame hsame
    · exact h _ _ _ (.inr ⟨x, y, rows, hinner⟩)

end Monitored

/-- A display without hardware does not fail. -/
theorem Headless.failsClean {α : Type} (frame : Headless → α) : Display.FailsClean frame := by
  rintro before e after (hclear | ⟨x, y, rows, hdraw⟩)
  · exact nomatch congrArg Prod.fst hclear
  · exact nomatch congrArg Prod.fst hdraw

namespace Machine

variable {D K B : Type} [Display D] [Keypad K] (m : Machine D K B) {f : Fault}

/-- A cycle that failed with `f` has spared what it could: it is counted, the log may tell what it
fetched, and a display or a keypad has changed only if `f` is its own error. -/
structure Spares (f : Fault) (before after : Machine D K B) : Prop where
  config : after.config = before.config := by rfl
  core : after.core = before.core := by rfl
  buzzer : after.buzzer = before.buzzer := by rfl
  buzzerOn : after.buzzerOn = before.buzzerOn := by rfl
  cycles : after.cycles = before.cycles + 1 := by rfl
  log : after.log = before.log ∨
    after.log = .fetched before.core.registers.pc before.core.word :: before.log
  display : after.display = before.display ∨
    ∃ e, f = .device e ∧ Display.Fails before.display e after.display
  keypad : after.keypad = before.keypad ∨
    ∃ e, f = .device e ∧ Keypad.waitForKey before.keypad = (.error e, after.keypad)

/-! ## Requests that are not granted -/

/-- A request that is not granted changes the display only by a failing call of it. -/
theorem serve_error_display {r : Request} (h : (m.serve r).1 = .error f) :
    (m.serve r).2.display = m.display ∨
      ∃ e, f = .device e ∧ Display.Fails m.display e (m.serve r).2.display := by
  have hserved := m.serve_served r
  rw [h] at hserved
  generalize (m.serve r).2 = after at hserved ⊢
  cases hserved with
  | fault | notAwaited => exact .inl rfl
  | notCleared hclear => exact .inr ⟨_, rfl, .inl hclear⟩
  | notDrawn hdraw => exact .inr ⟨_, rfl, .inr ⟨_, _, _, hdraw⟩⟩

/-- A request that is not granted changes the keypad only by a failing wait. -/
theorem serve_error_keypad {r : Request} (h : (m.serve r).1 = .error f) :
    (m.serve r).2.keypad = m.keypad ∨
      ∃ e, f = .device e ∧ Keypad.waitForKey m.keypad = (.error e, (m.serve r).2.keypad) := by
  have hserved := m.serve_served r
  rw [h] at hserved
  generalize (m.serve r).2 = after at hserved ⊢
  cases hserved with
  | fault | notCleared | notDrawn => exact .inl rfl
  | notAwaited hwait => exact .inr ⟨_, rfl, hwait⟩

/-! ## Cycles that fail -/

/-- A cycle that fails has left the core alone. -/
theorem cycle_error_core (h : m.cycle.1 = .error f) : m.cycle.2.core = m.core := by
  rcases m.cycle_cases with hs | ⟨hs, hf | ⟨hf, -⟩⟩
  · rw [m.cycle_of_skips hs] at h
    cases h
  · rw [m.cycle_of_not_canFetch hs hf]
  · rw [m.cycle_of_canFetch hs hf] at h ⊢
    have hatomic := Work.atomic_executeWord m.core.word m.fetched
    rw [executeWord] at h ⊢
    generalize (Work.executeWord m.core.word).on m.fetched = worked at h hatomic ⊢
    obtain ⟨cause | _, after⟩ := worked
    · exact hatomic cause rfl
    · cases h

/-- A cycle that fails has failed at the fetch, at the word, or at a request that was not granted. -/
theorem cycle_error_cases (h : m.cycle.1 = .error f) :
    m.cycle.2 = { m with cycles := m.cycles + 1 } ∨ m.cycle.2 = m.fetched ∨
      ∃ r cause, (m.fetched.serve r).1 = .error cause ∧ m.cycle.2 = (m.fetched.serve r).2 ∧
        f = cause.during m.core.word m.core.registers.pc := by
  rcases m.cycle_cases with hs | ⟨hs, hf | ⟨hf, hw | ⟨i, hi⟩⟩⟩
  · rw [m.cycle_of_skips hs] at h
    cases h
  · rw [m.cycle_of_not_canFetch hs hf]
    exact .inl rfl
  · rw [m.cycle_of_not_encodes hs hf hw]
    exact .inr (.inl rfl)
  · refine .inr (.inr ⟨m.request i, ?_⟩)
    rw [m.cycle_of_encodes hs hf hi] at h ⊢
    generalize m.request i = r at h ⊢
    rcases hr : (m.fetched.serve r).1 with cause | _
    · rw [hr] at h
      exact ⟨cause, rfl, rfl, (Except.error.inj h).symm⟩
    · rw [hr] at h
      cases h

/-- What a failed cycle leaves behind. -/
theorem cycle_spares (h : m.cycle.1 = .error f) : Spares f m m.cycle.2 := by
  have hcore := m.cycle_error_core h
  rcases m.cycle_error_cases h with hm | hm | ⟨r, cause, hr, hm, rfl⟩
  · rw [hm]
    exact { log := .inl rfl, display := .inl rfl, keypad := .inl rfl }
  · rw [hm]
    exact { log := .inr rfl, display := .inl rfl, keypad := .inl rfl }
  · -- What the request could reach is read off the frame; of that, the core has stayed.
    obtain ⟨core, display, keypad, hframe⟩ := m.fetched.serve_frame r
    have hdisplay := m.fetched.serve_error_display hr
    have hkeypad := m.fetched.serve_error_keypad hr
    rw [hm] at hcore ⊢
    rw [hframe] at hcore hdisplay hkeypad ⊢
    refine { core := hcore, log := .inr rfl,
             display := hdisplay.imp_right ?_, keypad := hkeypad.imp_right ?_ }
    · rintro ⟨e, rfl, hfails⟩
      exact ⟨e, rfl, hfails⟩
    · rintro ⟨e, rfl, hfails⟩
      exact ⟨e, rfl, hfails⟩

/-- A failed cycle spares everything but the count of cycles, the log and a device that failed, and
it spares every part of the display that the display's failing calls leave alone. -/
theorem cycle_error (h : m.cycle.1 = .error f) :
    Spares f m m.cycle.2 ∧
      ∀ (α : Type) (frame : D → α), Display.FailsClean frame →
        frame m.cycle.2.display = frame m.display := by
  have hspares := m.cycle_spares h
  refine ⟨hspares, fun α frame hclean => ?_⟩
  rcases hspares.display with hsame | ⟨e, -, hfails⟩
  · rw [hsame]
  · exact hclean _ _ _ hfails

/-- A machine inside a call, about to draw on a display that is going to refuse. -/
def refused : Machine (Monitored DisplayCall DeviceError Headless) Scripted Silent where
  config := {}
  core :=
    { registers := { i := 0x50, pc := 0x202, stack := [0x200] }
      memory := Memory.zeroed.load [0x22, 0x02, 0xd0, 0x05]
      timers := { delay := 3, interval := 1000, carried := 7, interval_pos := by decide }
      random := .ofKey (Vector.replicate 8 0) }
  display :=
    { inner := {}
      plan := fun
        | .draw => some ⟨1, ⟨.other, "no picture"⟩⟩
        | _ => none }
  keypad := {}
  buzzer := {}

/-- The refusal ends the cycle, and the display under watch has not noticed. -/
theorem cycle_refused :
    refused.cycle.1 = .error (.device ⟨.other, "no picture"⟩) ∧
      Spares (.device ⟨.other, "no picture"⟩) refused refused.cycle.2 ∧
      refused.cycle.2.display.inner = refused.display.inner := by
  have hword : refused.core.word = 0xd005 := by decide +kernel
  have hdraw : (Instruction.draw Reg.zero Reg.zero 5).Encodes refused.core.word := by
    rw [hword]
    rfl
  have hsprite : Memory.HasSprite refused.core.registers.i (5 : Fin 16).val := by decide
  have hfails : refused.cycle.1 = .error (.device ⟨.other, "no picture"⟩) := by
    rw [refused.cycle_of_encodes rfl (by decide) hdraw, outcome_eq, outcome, if_pos hsprite]
    rfl
  obtain ⟨hspares, hframe⟩ := cycle_error refused hfails
  exact ⟨hfails, hspares, hframe _ _ (Monitored.failsClean_inner (Headless.failsClean id))⟩

end Machine

end Cosmac
