import Cosmac.Proofs.Run
import Cosmac.Proofs.Tick

/-!
# Agreement

A loop adds two things to the cycles that it runs: time that the timers carry without a tick, and the
note about a wait for a key, which it takes back. Both are just what a core forgets when a wait is over
(`Core.resume`). Machines that differ in no more than this, in what serves the tone and in the log agree
(`Machine.Agrees`).

An instruction makes the same request on them up to what `resume` forgets (`execute_resume`), so a cycle
goes the same way on both and keeps them in agreement (`Agrees.cycle`). They may even have different
keypads, as long as a program can learn the same of them. This is given by a view of the keypad
(`Keypad.Shows`).
-/

namespace Cosmac

/-! ## Instructions -/

/-- The same request, except that the core goes on differently. -/
def Request.map (f : Core → Core) : Request → Request
  | .done next => .done (f next)
  | .fault cause => .fault cause
  | .clear next => .clear (f next)
  | .draw x y rows next => .draw x y rows fun collided => f (next collided)
  | .sense key next => .sense key fun down => f (next down)
  | .await next => .await fun key => f (next key)

namespace Core

theorem skipIf_resume (c : Core) (condition : Bool) :
    c.resume.skipIf condition = (c.skipIf condition).resume := by
  rw [skipIf_eq, skipIf_eq]
  rfl

/-- An instruction does not see what `resume` forgets. -/
theorem execute_resume (c : Core) (skipOnKeyUp : Bool) (i : Instruction) :
    (c.resume.execute skipOnKeyUp i).map resume = (c.execute skipOnKeyUp i).map resume := by
  -- Where the core decides about the request, both sides take the same branch.
  cases i with
  | skipIfByte x byte | skipUnlessByte x byte | skipIfSame x y | skipUnlessSame x y =>
    exact congrArg (fun next => Request.done next.advance.resume) (c.skipIf_resume _)
  | skipIfKey x | skipByKey x =>
    exact congrArg (Request.sense (c.reg x)) (funext fun down =>
      congrArg (fun next => next.advance.resume) (c.skipIf_resume _))
  | draw x y height =>
    rw [execute_draw, execute_draw, resume]
    split_ifs <;> rfl
  | ret =>
    have hstack : c.resume.registers.stack = c.registers.stack := rfl
    rw [execute_ret, execute_ret, hstack]
    cases c.registers.stack <;> rfl
  | call target =>
    rw [execute_call, execute_call, resume]
    split_ifs <;> rfl
  | storeDigits x =>
    rw [execute_storeDigits, execute_storeDigits, resume]
    split_ifs <;> rfl
  | storeRegisters x =>
    rw [execute_storeRegisters, execute_storeRegisters, resume]
    split_ifs <;> rfl
  | loadRegisters x =>
    rw [execute_loadRegisters, execute_loadRegisters, resume]
    split_ifs <;> rfl
  | _ => rfl

/-- Cores that differ in what `resume` forgets make the same request up to that. -/
theorem execute_of_resume_eq {c c' : Core} (h : c'.resume = c.resume) (skipOnKeyUp : Bool)
    (i : Instruction) :
    (c'.execute skipOnKeyUp i).map resume = (c.execute skipOnKeyUp i).map resume := by
  rw [← execute_resume, h, execute_resume]

end Core

/-- A time in which the timers stand still is only carried. -/
theorem Timers.discard_advance {t : Timers} {elapsed : Nat}
    (h : (t.carried + elapsed) / t.interval = 0) : (t.advance elapsed).2.discard = t.discard := by
  have hshort : ¬ t.interval ≤ t.carried + elapsed := by
    rw [Nat.not_le, ← Nat.div_eq_zero_iff_lt t.interval_pos]
    exact h
  rw [advance, settle, if_neg hshort]
  rfl

/-- Whatever a program can learn of a keypad is in a view of it. -/
structure Keypad.Shows {K V : Type} [Keypad K] (view : K → V) : Prop where
  isDown : ∀ {k k' : K}, view k' = view k → Keypad.isDown k' = Keypad.isDown k
  waitForKey : ∀ {k k' : K}, view k' = view k →
    (Keypad.waitForKey k').1 = (Keypad.waitForKey k).1 ∧
      view (Keypad.waitForKey k').2 = view (Keypad.waitForKey k).2

/-- A keypad shows itself. -/
theorem Keypad.shows_id {K : Type} [Keypad K] : Keypad.Shows (id : K → K) where
  isDown := fun h => congrArg Keypad.isDown h
  waitForKey := fun h => by
    rw [id, id] at h
    rw [h]
    exact ⟨rfl, rfl⟩

namespace Machine

variable {D K B V : Type}

/-! ## Machines that agree -/

/-- Two machines differ at most in the time that their timers carry, in the note about a wait for a key,
in what serves the tone, in the log, and in what their keypads do not show. -/
structure Agrees (view : K → V) (m m' : Machine D K B) : Prop where
  config : m'.config = m.config
  core : m'.core.resume = m.core.resume
  display : m'.display = m.display
  keypad : view m'.keypad = view m.keypad
  cycles : m'.cycles = m.cycles

namespace Agrees

variable {view : K → V} {m m' m'' : Machine D K B}

theorem refl (view : K → V) (m : Machine D K B) : Agrees view m m := ⟨rfl, rfl, rfl, rfl, rfl⟩

theorem trans (h : Agrees view m m') (h' : Agrees view m' m'') : Agrees view m m'' where
  config := h'.config.trans h.config
  core := h'.core.trans h.core
  display := h'.display.trans h.display
  keypad := h'.keypad.trans h.keypad
  cycles := h'.cycles.trans h.cycles

/-- A part of the core that `resume` keeps is the same on both. -/
theorem part {α : Type} (h : Agrees view m m') (part : Core → α)
    (hpart : ∀ c : Core, part c.resume = part c) : part m'.core = part m.core := by
  rw [← hpart m'.core, h.core, hpart]

theorem registers (h : Agrees view m m') : m'.core.registers = m.core.registers :=
  h.part Core.registers fun _ => rfl

theorem skips (h : Agrees view m m') : m'.core.skips = m.core.skips :=
  h.part Core.skips fun _ => rfl

theorem word (h : Agrees view m m') : m'.core.word = m.core.word := h.part Core.word fun _ => rfl

theorem canFetch_iff (h : Agrees view m m') : m'.core.CanFetch ↔ m.core.CanFetch := by
  rw [Core.CanFetch, h.registers, Core.CanFetch]

variable [Display D] [Keypad K]

/-- Machines that agree grant a request in the same way, if the cores with which it goes on agree. -/
theorem serve (h : Agrees view m m') (hview : Keypad.Shows view) {r r' : Request}
    (hr : r'.map Core.resume = r.map Core.resume) :
    (m'.serve r').1 = (m.serve r).1 ∧ Agrees view (m.serve r).2 (m'.serve r').2 := by
  cases r with
  | done next =>
    cases r' with
    | done next' => exact ⟨rfl, { h with core := Request.done.inj hr }⟩
    | _ => cases hr
  | fault cause =>
    cases r' with
    | fault cause' =>
      cases hr
      exact ⟨rfl, h⟩
    | _ => cases hr
  | clear next =>
    cases r' with
    | clear next' =>
      rw [Machine.serve, Machine.serve, h.display]
      rcases Display.clear m.display with ⟨_ | _, display⟩
      · exact ⟨rfl, { h with display := rfl }⟩
      · exact ⟨rfl, { h with core := Request.clear.inj hr, display := rfl }⟩
    | _ => cases hr
  | draw x y rows next =>
    cases r' with
    | draw x' y' rows' next' =>
      obtain ⟨rfl, rfl, rfl, hnext⟩ := Request.draw.inj hr
      rw [Machine.serve, Machine.serve, h.display]
      rcases Display.draw x' y' rows' m.display with ⟨_ | collided, display⟩
      · exact ⟨rfl, { h with display := rfl }⟩
      · exact ⟨rfl, { h with core := congrFun hnext collided, display := rfl }⟩
    | _ => cases hr
  | sense key next =>
    cases r' with
    | sense key' next' =>
      obtain ⟨rfl, hnext⟩ := Request.sense.inj hr
      rw [Machine.serve, Machine.serve, hview.isDown h.keypad]
      exact ⟨rfl, { h with core := congrFun hnext _ }⟩
    | _ => cases hr
  | await next =>
    cases r' with
    | await next' =>
      obtain ⟨hanswer, hafter⟩ := hview.waitForKey h.keypad
      rw [Machine.serve, Machine.serve]
      -- The two replies have the same answer, and keypads that show the same.
      generalize Keypad.waitForKey m.keypad = reply, Keypad.waitForKey m'.keypad = reply' at *
      obtain ⟨answer, keypad⟩ := reply
      obtain ⟨answer', keypad'⟩ := reply'
      cases hanswer
      rcases answer with _ | key
      · exact ⟨rfl, { h with keypad := hafter }⟩
      · exact ⟨rfl, { h with core := congrFun (Request.await.inj hr) key, keypad := hafter }⟩
    | _ => cases hr

/-- A cycle goes the same way on machines that agree, and they agree after it. -/
theorem cycle (h : Agrees view m m') (hview : Keypad.Shows view) :
    m'.cycle.1 = m.cycle.1 ∧ Agrees view m.cycle.2 m'.cycle.2 := by
  have hcount : m'.cycles + 1 = m.cycles + 1 := by rw [h.cycles]
  rcases m.cycle_cases with hs | ⟨hs, hf | ⟨hf, hw | ⟨i, hi⟩⟩⟩
  · have hs' : 0 < m'.core.skips := h.skips.symm ▸ hs
    rw [m.cycle_of_skips hs, m'.cycle_of_skips hs']
    exact ⟨rfl, { h with core := congrArg Core.stepOver h.core, cycles := hcount }⟩
  · have hs' : m'.core.skips = 0 := h.skips.trans hs
    rw [m.cycle_of_not_canFetch hs hf, m'.cycle_of_not_canFetch hs' (mt h.canFetch_iff.1 hf),
      h.registers]
    exact ⟨rfl, { h with cycles := hcount }⟩
  · have hs' : m'.core.skips = 0 := h.skips.trans hs
    have hw' : ∀ i : Instruction, ¬ i.Encodes m'.core.word := h.word.symm ▸ hw
    rw [m.cycle_of_not_encodes hs hf hw, m'.cycle_of_not_encodes hs' (h.canFetch_iff.2 hf) hw',
      h.word, h.registers]
    exact ⟨rfl, { h with cycles := hcount }⟩
  · have hs' : m'.core.skips = 0 := h.skips.trans hs
    have hi' : i.Encodes m'.core.word := h.word.symm ▸ hi
    have hfetched : Agrees view m.fetched m'.fetched := { h with cycles := hcount }
    have hrequest : (m'.request i).map Core.resume = (m.request i).map Core.resume := by
      rw [request, request, h.config]
      exact Core.execute_of_resume_eq h.core _ i
    obtain ⟨hresult, hafter⟩ := hfetched.serve hview hrequest
    rw [m.cycle_of_encodes hs hf hi, m'.cycle_of_encodes hs' (h.canFetch_iff.2 hf) hi', hresult,
      h.word, h.registers]
    exact ⟨rfl, hafter⟩

end Agrees

/-- Looking after the buzzer leaves a machine in agreement. -/
theorem updateBuzzer_agrees [Buzzer B] (m : Machine D K B) (view : K → V) :
    Agrees view m m.updateBuzzer := by
  obtain ⟨buzzer, on, log, hframe⟩ := m.updateBuzzer_frame
  rw [hframe]
  exact ⟨rfl, rfl, rfl, rfl, rfl⟩

end Machine

end Cosmac
