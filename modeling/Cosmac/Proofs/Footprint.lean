import Cosmac.Device.Headless
import Cosmac.Proofs.Outcome

/-!
# The footprint of an instruction

A cycle that executes an instruction and succeeds makes of the core what the tables of `Core.Effect`
say, makes at most the one call of a device that the instruction is for, and changes nothing else
(`Machine.Footprint`).

That a device is not called means more than that it stays as it was: the cycle would have gone the
same way with any other device in its place, of whatever type. `cycle_withDisplay` and its companions
say so for the display, the keypad and the buzzer. They follow from the one port that an instruction
may use, which is known before it is executed (`execute_port`). `cycle_ok` puts everything together.
-/

namespace Cosmac

/-- The devices that an instruction may call. No instruction calls the buzzer. -/
inductive Port
  | display
  | keypad
  deriving DecidableEq, Repr

/-- The device that a request is for. -/
def Request.port : Request → Option Port
  | .done _ | .fault _ => none
  | .clear _ | .draw _ _ _ _ => some .display
  | .sense _ _ | .await _ => some .keypad

/-- The device that an instruction is for. -/
def Instruction.port : Instruction → Option Port
  | clear | draw _ _ _ => some .display
  | skipIfKey _ | skipByKey _ | awaitKey _ => some .keypad
  | _ => none

/-- A step that is done or fails by itself is for no device. -/
theorem Core.port_finish (step : Except Fault Core) : (finish step).port = none := by
  cases step <;> rfl

/-- An instruction asks no other device than the one that it is for. -/
theorem Core.execute_port {c : Core} {skipOnKeyUp : Bool} {i : Instruction} {p : Port}
    (h : (c.execute skipOnKeyUp i).port = some p) : i.port = some p := by
  cases i with
  | ret | call target | storeDigits x | storeRegisters x | loadRegisters x =>
    rw [execute, port_finish] at h
    cases h
  | draw x y height =>
    -- A draw may fail before it comes to the display.
    rw [execute_draw] at h
    split_ifs at h
    · exact h
    · cases h
  | _ => exact h

namespace Machine

variable {D D' K K' B B' : Type} (m : Machine D K B)

/-! ## Other devices in place of the machine's own -/

/-- The machine with another display. -/
def withDisplay (display : D') : Machine D' K B where
  config := m.config
  core := m.core
  display := display
  keypad := m.keypad
  buzzer := m.buzzer
  buzzerOn := m.buzzerOn
  cycles := m.cycles
  log := m.log

/-- The machine with another keypad. -/
def withKeypad (keypad : K') : Machine D K' B where
  config := m.config
  core := m.core
  display := m.display
  keypad := keypad
  buzzer := m.buzzer
  buzzerOn := m.buzzerOn
  cycles := m.cycles
  log := m.log

/-- The machine with another buzzer. -/
def withBuzzer (buzzer : B') : Machine D K B' where
  config := m.config
  core := m.core
  display := m.display
  keypad := m.keypad
  buzzer := buzzer
  buzzerOn := m.buzzerOn
  cycles := m.cycles
  log := m.log

variable [Display D] [Display D'] [Keypad K] [Keypad K']

/-- A request that is not for the display is granted the same way with any display. -/
theorem serve_withDisplay {r : Request} (h : r.port ≠ some .display) (display : D') :
    (m.withDisplay display).serve r = ((m.serve r).1, (m.serve r).2.withDisplay display) := by
  cases r with
  | done next | fault cause | sense key next => rfl
  | clear next | draw x y rows next => exact absurd rfl h
  | await next =>
    rw [serve, serve, withDisplay]
    rcases Keypad.waitForKey m.keypad with ⟨_ | _, _⟩ <;> rfl

/-- A request that is not for the keypad is granted the same way with any keypad. -/
theorem serve_withKeypad {r : Request} (h : r.port ≠ some .keypad) (keypad : K') :
    (m.withKeypad keypad).serve r = ((m.serve r).1, (m.serve r).2.withKeypad keypad) := by
  cases r with
  | done next | fault cause => rfl
  | sense key next | await next => exact absurd rfl h
  | clear next =>
    rw [serve, serve, withKeypad]
    rcases Display.clear m.display with ⟨_ | _, _⟩ <;> rfl
  | draw x y rows next =>
    rw [serve, serve, withKeypad]
    rcases Display.draw x y rows m.display with ⟨_ | _, _⟩ <;> rfl

/-- A request is granted the same way with any buzzer. -/
theorem serve_withBuzzer (r : Request) (buzzer : B') :
    (m.withBuzzer buzzer).serve r = ((m.serve r).1, (m.serve r).2.withBuzzer buzzer) := by
  cases r with
  | done next | fault cause | sense key next => rfl
  | clear next =>
    rw [serve, serve, withBuzzer]
    rcases Display.clear m.display with ⟨_ | _, _⟩ <;> rfl
  | draw x y rows next =>
    rw [serve, serve, withBuzzer]
    rcases Display.draw x y rows m.display with ⟨_ | _, _⟩ <;> rfl
  | await next =>
    rw [serve, serve, withBuzzer]
    rcases Keypad.waitForKey m.keypad with ⟨_ | _, _⟩ <;> rfl

/-! ## The cycle of an instruction -/

section

variable {i : Instruction} (hs : m.core.skips = 0) (hf : m.core.CanFetch)
  (hi : i.Encodes m.core.word)

include hs hf hi

/-- The cycle of an instruction that is not for the display goes the same way with any display. -/
theorem cycle_withDisplay (h : i.port ≠ some .display) (display : D') :
    (m.withDisplay display).cycle = (m.cycle.1, m.cycle.2.withDisplay display) := by
  have hport : (m.request i).port ≠ some .display :=
    fun hp => h (Core.execute_port hp)
  have hserve := m.fetched.serve_withDisplay hport display
  rw [m.cycle_of_encodes hs hf hi, (m.withDisplay display).cycle_of_encodes hs hf hi]
  exact congrArg (fun r => (Except.mapError _ r.1, r.2)) hserve

/-- The cycle of an instruction that is not for the keypad goes the same way with any keypad. -/
theorem cycle_withKeypad (h : i.port ≠ some .keypad) (keypad : K') :
    (m.withKeypad keypad).cycle = (m.cycle.1, m.cycle.2.withKeypad keypad) := by
  have hport : (m.request i).port ≠ some .keypad :=
    fun hp => h (Core.execute_port hp)
  have hserve := m.fetched.serve_withKeypad hport keypad
  rw [m.cycle_of_encodes hs hf hi, (m.withKeypad keypad).cycle_of_encodes hs hf hi]
  exact congrArg (fun r => (Except.mapError _ r.1, r.2)) hserve

/-- The cycle of an instruction goes the same way with any buzzer. -/
theorem cycle_withBuzzer (buzzer : B') :
    (m.withBuzzer buzzer).cycle = (m.cycle.1, m.cycle.2.withBuzzer buzzer) := by
  have hserve := m.fetched.serve_withBuzzer (m.request i) buzzer
  rw [m.cycle_of_encodes hs hf hi, (m.withBuzzer buzzer).cycle_of_encodes hs hf hi]
  exact congrArg (fun r => (Except.mapError _ r.1, r.2)) hserve

end

/-! ## What a successful cycle leaves -/

/-- The display after an instruction: the state in which its one call leaves it. -/
def displayAfter (m : Machine D K B) : Instruction → D
  | .clear => (Display.clear m.display).2
  | .draw x y height =>
    (Display.draw (m.core.reg x) (m.core.reg y)
      ((m.core.memory.spriteRows m.core.registers.i height.val).map unpackRow) m.display).2
  | _ => m.display

/-- The keypad after an instruction: the state in which a wait leaves it. Asking whether a key is
down does not change it. -/
def keypadAfter (m : Machine D K B) : Instruction → K
  | .awaitKey _ => (Keypad.waitForKey m.keypad).2
  | _ => m.keypad

/-- A request that is not for the display leaves it alone. -/
theorem serve_display_of_port {r : Request} (h : r.port ≠ some .display) :
    (m.serve r).2.display = m.display := by
  have hserved := m.serve_served r
  generalize (m.serve r).1 = result, (m.serve r).2 = after at hserved ⊢
  cases hserved with
  | done | fault | sensed | awaited | notAwaited => rfl
  | cleared | notCleared | drawn | notDrawn => exact absurd rfl h

/-- An instruction that succeeds leaves the display as the table says. -/
theorem serve_display {i : Instruction} (h : (m.serve (m.request i)).1 = .ok ()) :
    (m.serve (m.request i)).2.display = m.displayAfter i := by
  by_cases hport : i.port = some .display
  · -- The two instructions that are for the display.
    cases i with
    | clear =>
      rw [request, Core.execute, serve, displayAfter]
      rcases Display.clear m.display with ⟨_ | _, _⟩ <;> rfl
    | draw x y height =>
      rw [request, Core.execute_draw] at h ⊢
      split_ifs at h ⊢
      · rw [serve, displayAfter]
        rcases Display.draw _ _ _ m.display with ⟨_ | _, _⟩ <;> rfl
      · cases h
    | _ => cases hport
  · have hsame : m.displayAfter i = m.display := by
      cases i with
      | clear | draw x y height => exact absurd rfl hport
      | _ => rfl
    rw [hsame]
    exact m.serve_display_of_port fun hp => hport (Core.execute_port hp)

/-- A request that is not for the keypad leaves it alone. -/
theorem serve_keypad_of_port {r : Request} (h : r.port ≠ some .keypad) :
    (m.serve r).2.keypad = m.keypad := by
  have hserved := m.serve_served r
  generalize (m.serve r).1 = result, (m.serve r).2 = after at hserved ⊢
  cases hserved with
  | done | fault | cleared | notCleared | drawn | notDrawn => rfl
  | sensed | awaited | notAwaited => exact absurd rfl h

/-- An instruction leaves the keypad as the table says. -/
theorem serve_keypad (i : Instruction) :
    (m.serve (m.request i)).2.keypad = m.keypadAfter i := by
  by_cases hport : i.port = some .keypad
  · -- The three instructions that are for the keypad, of which two only look at it.
    cases i with
    | awaitKey x =>
      rw [request, Core.execute, serve, keypadAfter]
      rcases Keypad.waitForKey m.keypad with ⟨_ | _, _⟩ <;> rfl
    | skipIfKey x | skipByKey x => rfl
    | _ => cases hport
  · have hsame : m.keypadAfter i = m.keypad := by
      cases i with
      | awaitKey x => exact absurd rfl hport
      | _ => rfl
    rw [hsame]
    exact m.serve_keypad_of_port fun hp => hport (Core.execute_port hp)

/-- What an instruction that succeeds has made of a machine. -/
structure Footprint (i : Instruction) (before after : Machine D K B) : Prop where
  core : Core.Effect i before.core after.core
  display : after.display = before.displayAfter i
  keypad : after.keypad = before.keypadAfter i
  buzzer : after.buzzer = before.buzzer
  buzzerOn : after.buzzerOn = before.buzzerOn
  config : after.config = before.config
  cycles : after.cycles = before.cycles + 1
  log : after.log = .fetched before.core.registers.pc before.core.word :: before.log

/-- A successful cycle has the footprint of its instruction. -/
theorem cycle_footprint {i : Instruction} (hs : m.core.skips = 0) (hf : m.core.CanFetch)
    (hi : i.Encodes m.core.word) (hok : m.cycle.1 = .ok ()) : Footprint i m m.cycle.2 := by
  have hserve := m.serve_of_cycle_ok hs hf hi hok
  have hcore : Core.Effect i m.core (m.fetched.serve (m.request i)).2.core :=
    Core.execute_effect (m.fetched.serve_ok hserve)
  have hdisplay : (m.fetched.serve (m.request i)).2.display = m.displayAfter i :=
    m.fetched.serve_display hserve
  have hkeypad : (m.fetched.serve (m.request i)).2.keypad = m.keypadAfter i :=
    m.fetched.serve_keypad i
  obtain ⟨core, display, keypad, hframe⟩ := m.fetched.serve_frame (m.request i)
  rw [m.cycle_of_encodes hs hf hi]
  rw [hframe] at hcore hdisplay hkeypad ⊢
  exact { core := hcore, display := hdisplay, keypad := hkeypad, buzzer := rfl, buzzerOn := rfl,
          config := rfl, cycles := rfl, log := rfl }

/-- What a successful cycle does that steps over nothing: it executes the one instruction of the
word, with that instruction's footprint. An instruction that stores nothing leaves memory as it is.
Only an instruction that is for a device depends on it, and none depends on the buzzer. -/
theorem cycle_ok (hs : m.core.skips = 0) (hok : m.cycle.1 = .ok ()) :
    m.core.CanFetch ∧ ∃ i : Instruction, (∀ j : Instruction, j.Encodes m.core.word ↔ j = i) ∧
      Footprint i m m.cycle.2 ∧
      (i.stores = 0 → m.cycle.2.core.memory = m.core.memory) ∧
      (i.port ≠ some .display → ∀ (D' : Type) [Display D'] (display : D'),
        (m.withDisplay display).cycle = (m.cycle.1, m.cycle.2.withDisplay display)) ∧
      (i.port ≠ some .keypad → ∀ (K' : Type) [Keypad K'] (keypad : K'),
        (m.withKeypad keypad).cycle = (m.cycle.1, m.cycle.2.withKeypad keypad)) ∧
      ∀ (B' : Type) (buzzer : B'),
        (m.withBuzzer buzzer).cycle = (m.cycle.1, m.cycle.2.withBuzzer buzzer) := by
  obtain ⟨hf, i, hi⟩ := m.exists_encodes_of_cycle_ok hs hok
  have hfoot := m.cycle_footprint hs hf hi hok
  -- The word has one instruction only, since the decoder reads it in one way.
  refine ⟨hf, i, fun j => ⟨fun hj => ?_, fun hj => hj ▸ hi⟩, hfoot, fun hstores => ?_, ?_, ?_, ?_⟩
  · exact Option.some.inj ((Instruction.decode_of_encodes hj).symm.trans
      (Instruction.decode_of_encodes hi))
  · refine Memory.ext_cell fun k _ => hfoot.core.memory k ?_
    omega
  · intro h D' _ display
    exact m.cycle_withDisplay hs hf hi h display
  · intro h K' _ keypad
    exact m.cycle_withKeypad hs hf hi h keypad
  · intro B' buzzer
    exact m.cycle_withBuzzer hs hf hi buzzer

/-- A machine about to store three registers in the last bytes of memory. -/
def storing : Machine Headless Scripted Silent where
  config := {}
  core :=
    { registers := { i := 0xffd }
      memory := Memory.zeroed.load [0xf2, 0x55]
      timers := Timers.ofRate 60
      random := .ofKey (Vector.replicate 8 0) }
  display := {}
  keypad := {}
  buzzer := {}

/-- The three bytes fit, and `I` ends up just above memory. -/
theorem cycle_storing :
    storing.core.skips = 0 ∧ storing.cycle.1 = .ok () ∧
      Footprint (.storeRegisters ⟨2, by decide⟩) storing storing.cycle.2 ∧
      storing.cycle.2.core.registers.i.toNat = 0x1000 := by
  have hword : storing.core.word = 0xf255 := by decide +kernel
  have hstore : (Instruction.storeRegisters ⟨2, by decide⟩).Encodes storing.core.word := by
    rw [hword]
    rfl
  have hok : storing.cycle.1 = .ok () := by
    rw [storing.cycle_of_encodes rfl (by decide) hstore, outcome_eq]
    rfl
  obtain ⟨-, i, hi, hfoot, -⟩ := cycle_ok storing rfl hok
  obtain rfl := (hi _).1 hstore
  exact ⟨rfl, hok, hfoot, hfoot.core.index⟩

end Machine

end Cosmac
