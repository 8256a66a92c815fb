import Cosmac.Proofs.Cycle
import Cosmac.Proofs.Passes
import Mathlib.Algebra.GroupWithZero.Nat

/-!
# The tally of ticks

Each time the timers tick, the log says how often, so the ticks that the log tells of are all there have
been (`Machine.tally`). A tick of the machine adds its share to them (`Machine.tally_tick`), also when
the display fails. Nothing else adds any: not a cycle, not looking after the buzzer, nor the start, the
rest of a pass and the end of a loop. So a pass adds what its tick does, wherever it ends
(`Loop.tally_begin`).
-/

namespace Cosmac

/-- How many ticks a notice tells of. -/
def Notice.ticks : Notice → Nat
  | ticked n _ _ => n
  | _ => 0

namespace Machine

variable {D K B : Type}

/-- How many ticks the log tells of. -/
def tally (m : Machine D K B) : Nat := (m.log.map Notice.ticks).sum

section

variable (m : Machine D K B)

theorem tally_note (n : Notice) : (m.note n).tally = n.ticks + m.tally := by
  rw [tally, note, List.map_cons, List.sum_cons, tally]

theorem tally_noteAll (notices : List Notice) :
    (m.noteAll notices).tally = (notices.map Notice.ticks).sum + m.tally := by
  rw [tally, noteAll, List.map_append, List.sum_append, List.map_reverse, List.sum_reverse, tally]

/-- The timers tell how often they have ticked. -/
theorem tally_timed (elapsed : Nat) : (m.timed elapsed).tally = m.tally + m.share elapsed := by
  have hticks : (m.core.timers.advance elapsed).1 = m.share elapsed :=
    m.core.timers.ticks_advance elapsed
  have htold : ∀ (t : Timers) ticks, ((t.tickNotices ticks).map Notice.ticks).sum = ticks := by
    intro t ticks
    rw [Timers.tickNotices]
    split_ifs with hpos
    · rfl
    · exact (Nat.eq_zero_of_not_pos hpos).symm
  rw [timed, advanceTimers]
  dsimp only
  rw [tally_noteAll, htold, hticks, Nat.add_comm]
  rfl

theorem tally_updateBuzzer [Buzzer B] : m.updateBuzzer.tally = m.tally := by
  have hcall : ∀ call : B → Reply String Unit B, (m.callBuzzer call).tally = m.tally := by
    intro call
    rw [callBuzzer]
    rcases call m.buzzer with ⟨_ | _, _⟩
    · rw [tally_note]
      exact Nat.zero_add _
    · rfl
  rw [updateBuzzer]
  split_ifs
  · split
    · exact hcall _
    · exact hcall _
    · rfl
  · rfl

/-- A tick adds its share, whatever becomes of the display. -/
theorem tally_tick [Display D] [Buzzer B] (elapsed : Nat) :
    (m.tick elapsed).2.tally = m.tally + m.share elapsed := by
  rcases Nat.eq_zero_or_pos (m.share elapsed) with hzero | hpos
  · rw [m.tick_of_share_eq_zero elapsed hzero, tally_updateBuzzer, tally_timed]
  · rcases hr : Display.refresh m.display with ⟨e | _, display⟩
    · rw [m.tick_of_refresh_error elapsed hpos hr]
      exact m.tally_timed elapsed
    · rw [m.tick_of_refresh_ok elapsed hpos hr, tally_updateBuzzer]
      exact m.tally_timed elapsed

/-- A cycle adds none. -/
theorem tally_cycle [Display D] [Keypad K] : m.cycle.2.tally = m.tally := by
  have hfetched : m.fetched.tally = m.tally := (tally_note _ _).trans (Nat.zero_add _)
  rcases m.cycle_cases with hs | ⟨hs, hf | ⟨hf, hw | ⟨i, hi⟩⟩⟩
  · rw [m.cycle_of_skips hs, tally_note]
    exact Nat.zero_add _
  · rw [m.cycle_of_not_canFetch hs hf]
    rfl
  · rw [m.cycle_of_not_encodes hs hf hw]
    exact hfetched
  · obtain ⟨core, display, keypad, hframe⟩ := m.fetched.serve_frame (m.request i)
    rw [m.cycle_of_encodes hs hf hi, hframe]
    exact hfetched

/-- Neither does the end of a loop. -/
theorem tally_leaveLoop [Buzzer B] (result : Except Fault Unit) :
    (m.leaveLoop result).2.tally = m.tally := by
  rw [leaveLoop]
  split_ifs
  · rcases Buzzer.stop m.buzzer with ⟨_ | _, buzzer⟩
    · rfl
    · exact (tally_note _ _).trans (Nat.zero_add _)
  · exact (tally_note _ _).trans (Nat.zero_add _)

end

end Machine

namespace Loop

variable {D K B : Type} (l : Loop D K B)

/-- The end of a pass adds no ticks. -/
theorem tally_finish (clock : Nat → Nat) (k : Nat) :
    (l.finish clock k).machine.tally = l.machine.tally := by
  rw [machine_finish]
  split_ifs <;> rfl

variable [Display D] [Keypad K] [Buzzer B]

/-- A pass adds the share of the time up to its top, wherever it ends. -/
theorem tally_begin (now : Nat) :
    (l.begin now).2.machine.tally = l.machine.tally + l.machine.share (now - l.last) := by
  have htick : (l.ticked now).tally = l.machine.tally + l.machine.share (now - l.last) :=
    l.machine.tally_tick (now - l.last)
  have hpoll : (l.polled now).tally = (l.ticked now).tally := rfl
  rcases l.begin_cases now with ⟨f, ht⟩ | ⟨ticks, e, ht, hp⟩ | ⟨hcomes, ⟨f, hc⟩ | hc⟩
  · rw [l.begin_of_tick_error now ht]
    exact htick
  · rw [l.begin_of_poll_error now ht hp]
    exact htick
  · rw [l.begin_of_cycle_error now hcomes hc]
    exact (l.polled now).tally_cycle.trans htick
  · rw [l.begin_of_cycle_ok now hcomes hc, Machine.tally_updateBuzzer]
    exact (l.polled now).tally_cycle.trans htick

end Loop

namespace Machine

variable {D K B : Type} [Display D] [Keypad K] [Buzzer B] (m : Machine D K B)

/-- The ticks of a loop are those of its passes. -/
theorem tally_mainLoop (clock : Nat → Nat) (n : Nat) :
    (m.mainLoop clock n).2.tally = ((m.enterLoop (clock 0)).run clock n 1).2.machine.tally := by
  rcases hrun : (m.enterLoop (clock 0)).run clock n 1 with ⟨_ | result, l⟩
  · rw [mainLoop_of_run_none hrun]
  · rw [mainLoop_of_run hrun]
    exact l.machine.tally_leaveLoop result

end Machine

end Cosmac
