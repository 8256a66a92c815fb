import Cosmac.Proofs.Footprint
import Cosmac.Proofs.Run
import Cosmac.Proofs.Timers

/-!
# The course of a tick

A tick takes one of three courses. The timers stand still (`tick_of_share_eq_zero`), or they tick and
the display is refreshed (`tick_of_refresh_ok`), or they tick and the display fails
(`tick_of_refresh_error`). How often the timers tick is known before (`Machine.share`), and they have
ticked in every course, also when the display fails (`tick_frame`).

Besides the timers and the display only what serves the tone can change, and the log.
-/

namespace Cosmac.Machine

variable {D D' K K' B : Type} (m : Machine D K B) (elapsed : Nat)

/-- How often the timers tick while some time goes by. -/
def share : Nat := (m.core.timers.carried + elapsed) / m.core.timers.interval

/-- The machine in the middle of a tick, after its timers have ticked. -/
def timed : Machine D K B := (m.advanceTimers elapsed).2

/-- The timers tick as often as the share says. -/
theorem advanceTimers_eq : m.advanceTimers elapsed = (m.share elapsed, m.timed elapsed) :=
  Prod.ext (m.core.timers.ticks_advance elapsed) rfl

/-- Looking after the buzzer commutes with a change of the machine that leaves out what serves the tone
and leaves the log to be added to. -/
theorem updateBuzzer_comm [Buzzer B] (f : Machine D K B → Machine D' K' B)
    (hbuzzer : (f m).buzzer = m.buzzer) (hon : (f m).buzzerOn = m.buzzerOn)
    (htimers : (f m).core.timers = m.core.timers)
    (hset : ∀ b, f { m with buzzer := b } = { f m with buzzer := b })
    (hlost : ∀ b n, f ({ m with buzzer := b, buzzerOn := false }.note n) =
      { f m with buzzer := b, buzzerOn := false }.note n) :
    (f m).updateBuzzer = f m.updateBuzzer := by
  have hcall : ∀ call : B → Reply String Unit B, (f m).callBuzzer call = f (m.callBuzzer call) := by
    intro call
    rw [callBuzzer, callBuzzer, hbuzzer]
    rcases call m.buzzer with ⟨text | _, buzzer⟩
    · exact (hlost buzzer _).symm
    · exact (hset buzzer).symm
  rw [updateBuzzer, updateBuzzer, hon, htimers, hbuzzer]
  split_ifs
  · split
    · exact hcall _
    · exact hcall _
    · rfl
  · rfl

/-- Looking after the buzzer goes the same way with any display. -/
theorem updateBuzzer_withDisplay [Buzzer B] (display : D') :
    (m.withDisplay display).updateBuzzer = m.updateBuzzer.withDisplay display :=
  m.updateBuzzer_comm (fun m => m.withDisplay display) rfl rfl rfl (fun _ => rfl) fun _ _ => rfl

/-- Looking after the buzzer goes the same way with any keypad. -/
theorem updateBuzzer_withKeypad [Buzzer B] (keypad : K') :
    (m.withKeypad keypad).updateBuzzer = m.updateBuzzer.withKeypad keypad :=
  m.updateBuzzer_comm (fun m => m.withKeypad keypad) rfl rfl rfl (fun _ => rfl) fun _ _ => rfl

variable [Display D] [Display D'] [Buzzer B]

/-! ## The three courses -/

/-- A tick in which the timers stand still leaves the display out. -/
theorem tick_of_share_eq_zero (h : m.share elapsed = 0) :
    m.tick elapsed = (.ok 0, (m.timed elapsed).updateBuzzer) := by
  rw [tick, advanceTimers_eq, h]
  rfl

/-- A tick in which the timers tick has the display refreshed. -/
theorem tick_of_refresh_ok {display : D} (h : 0 < m.share elapsed)
    (hrefresh : Display.refresh m.display = (.ok (), display)) :
    m.tick elapsed =
      (.ok (m.share elapsed), { m.timed elapsed with display := display }.updateBuzzer) := by
  have hdisplay : (m.timed elapsed).display = m.display := rfl
  rw [tick, advanceTimers_eq]
  dsimp only
  rw [if_pos h, hdisplay, hrefresh]

/-- A tick in which the display fails ends there. -/
theorem tick_of_refresh_error {e : DeviceError} {display : D} (h : 0 < m.share elapsed)
    (hrefresh : Display.refresh m.display = (.error e, display)) :
    m.tick elapsed = (.error (.device e), { m.timed elapsed with display := display }) := by
  have hdisplay : (m.timed elapsed).display = m.display := rfl
  rw [tick, advanceTimers_eq]
  dsimp only
  rw [if_pos h, hdisplay, hrefresh]

variable {m elapsed} in
/-- A tick fails only if the timers tick and the display cannot be refreshed. -/
theorem refresh_of_tick_error {f : Fault} (h : (m.tick elapsed).1 = .error f) :
    0 < m.share elapsed ∧
      ∃ e display, Display.refresh m.display = (.error e, display) ∧ f = .device e := by
  rcases Nat.eq_zero_or_pos (m.share elapsed) with hzero | hpos
  · rw [m.tick_of_share_eq_zero elapsed hzero] at h
    cases h
  · rcases hr : Display.refresh m.display with ⟨e | _, display⟩
    · rw [m.tick_of_refresh_error elapsed hpos hr] at h
      exact ⟨hpos, e, display, rfl, (Except.error.inj h).symm⟩
    · rw [m.tick_of_refresh_ok elapsed hpos hr] at h
      cases h

/-! ## What a tick leaves -/

/-- The display after a tick: refreshed once if the timers ticked, and left alone if they did not. -/
def displayAfterTick : D :=
  if 0 < m.share elapsed then (Display.refresh m.display).2 else m.display

/-- A tick lets the timers count down, has the display refreshed if they did, and reaches nothing
else but the buzzer, the note whether it is in use, and the log. -/
theorem tick_frame : ∃ buzzer on log, (m.tick elapsed).2 = { m with
    core := { m.core with timers := (m.core.timers.advance elapsed).2 }
    display := m.displayAfterTick elapsed, buzzer := buzzer, buzzerOn := on, log := log } := by
  unfold displayAfterTick
  rcases Nat.eq_zero_or_pos (m.share elapsed) with hzero | hpos
  · obtain ⟨buzzer, on, log, hframe⟩ := (m.timed elapsed).updateBuzzer_frame
    rw [m.tick_of_share_eq_zero elapsed hzero, hframe, hzero]
    exact ⟨_, _, _, rfl⟩
  · rw [if_pos hpos]
    rcases hr : Display.refresh m.display with ⟨e | _, display⟩
    · rw [m.tick_of_refresh_error elapsed hpos hr]
      exact ⟨_, _, _, rfl⟩
    · obtain ⟨buzzer, on, log, hframe⟩ :=
        { m.timed elapsed with display := display }.updateBuzzer_frame
      rw [m.tick_of_refresh_ok elapsed hpos hr, hframe]
      exact ⟨_, _, _, rfl⟩

/-- When the timers tick, the display is refreshed once, and the answer is how often the timers ticked
unless the display fails. -/
theorem tick_of_share_pos (h : 0 < m.share elapsed) :
    (m.tick elapsed).1 =
      ((Display.refresh m.display).1.map fun _ => m.share elapsed).mapError .device ∧
    (m.tick elapsed).2.display = (Display.refresh m.display).2 := by
  obtain ⟨_, _, _, hframe⟩ := m.tick_frame elapsed
  have hdisplay : m.displayAfterTick elapsed = (Display.refresh m.display).2 := if_pos h
  rw [hframe]
  refine ⟨?_, hdisplay⟩
  rcases hr : Display.refresh m.display with ⟨e | _, display⟩
  · rw [m.tick_of_refresh_error elapsed h hr]
    rfl
  · rw [m.tick_of_refresh_ok elapsed h hr]
    rfl

/-- A tick changes no part of the core but the timers, whatever becomes of the display. -/
theorem tick_core : (m.tick elapsed).2.core =
    { m.core with timers := (m.core.timers.advance elapsed).2 } := by
  obtain ⟨_, _, _, hframe⟩ := m.tick_frame elapsed
  rw [hframe]

/-- A tick in which the timers stand still goes the same way with any display, so it calls none. -/
theorem tick_withDisplay (h : m.share elapsed = 0) (display : D') :
    (m.withDisplay display).tick elapsed =
      ((m.tick elapsed).1, (m.tick elapsed).2.withDisplay display) := by
  have hshare : (m.withDisplay display).share elapsed = 0 := h
  rw [m.tick_of_share_eq_zero elapsed h, tick_of_share_eq_zero _ elapsed hshare]
  exact congrArg (Prod.mk _) ((m.timed elapsed).updateBuzzer_withDisplay display)

/-- A tick goes the same way with any keypad. -/
theorem tick_withKeypad (keypad : K') :
    (m.withKeypad keypad).tick elapsed =
      ((m.tick elapsed).1, (m.tick elapsed).2.withKeypad keypad) := by
  have hshare : (m.withKeypad keypad).share elapsed = m.share elapsed := rfl
  have htimed : (m.withKeypad keypad).timed elapsed = (m.timed elapsed).withKeypad keypad := rfl
  rcases Nat.eq_zero_or_pos (m.share elapsed) with hzero | hpos
  · rw [m.tick_of_share_eq_zero elapsed hzero, (m.withKeypad keypad).tick_of_share_eq_zero elapsed hzero,
      htimed, updateBuzzer_withKeypad]
  · rcases hr : Display.refresh m.display with ⟨e | _, display⟩
    · rw [m.tick_of_refresh_error elapsed hpos hr,
        (m.withKeypad keypad).tick_of_refresh_error elapsed hpos hr, htimed]
      rfl
    · rw [m.tick_of_refresh_ok elapsed hpos hr,
        (m.withKeypad keypad).tick_of_refresh_ok elapsed hpos hr, htimed, hshare]
      exact congrArg (Prod.mk _)
        ({ m.timed elapsed with display := display }.updateBuzzer_withKeypad keypad)

end Cosmac.Machine
