import Cosmac.Proofs.Permanence
import Cosmac.Proofs.Sessions

/-!
# The first error of a loop

In the order of a pass the display is refreshed, the keypad is polled, and a cycle is run, which may
itself blank the picture, draw, or wait for a key. The first of these that fails ends the loop
(`Machine.FirstError`). What fails is given back as it is: the error of a device is the device's own
(`CycleFails`, `PassFails`), and the machine is left at the very point where it failed.

After that the loop only stops the buzzer, once, if it is still in use. That is the one thing that can
change the result, and only if it fails (`leaveLoop_of_stops`, `leaveLoop_of_stopFails`). So a request to
quit is seen by the caller exactly when it was the first error and the buzzer could be stopped. The
program runs the loop, and its exit is a success exactly when the loop ended well or with a request to
quit (`first_error_surfaces`).
-/

namespace Cosmac

/-! ## Cycles that fail -/

namespace Machine

variable {D K B : Type}

section

variable [Display D] [Keypad K] {m : Machine D K B} {e : DeviceError}

/-- A cycle comes to the fault `f` and leaves a machine. Either a device that its instruction asks
fails, and the fault is the error of the device, or the fault is fatal, and nothing but the count of
cycles and the log has changed. -/
inductive CycleFails (m : Machine D K B) : Fault → Machine D K B → Prop
  | clear {e : DeviceError} {display : D} (hi : m.core.ComesTo .clear)
      (h : Display.clear m.display = (.error e, display)) :
      CycleFails m (.device e) { m.fetched with display := display }
  | draw {x y : Reg} {height : Fin 16} {e : DeviceError} {display : D}
      (hi : m.core.ComesTo (.draw x y height))
      (hsprite : Memory.HasSprite m.core.registers.i height.val)
      (h : Display.draw (m.core.reg x) (m.core.reg y)
        ((m.core.memory.spriteRows m.core.registers.i height.val).map unpackRow) m.display =
          (.error e, display)) :
      CycleFails m (.device e) { m.fetched with display := display }
  | awaitKey {x : Reg} {e : DeviceError} {keypad : K} (hi : m.core.ComesTo (.awaitKey x))
      (h : Keypad.waitForKey m.keypad = (.error e, keypad)) :
      CycleFails m (.device e) { m.fetched with keypad := keypad }
  | fatal {f : Fault} {log : List Notice} (hf : f.IsFatal)
      (h : m.cycle = (.error f, { m with cycles := m.cycles + 1, log := log })) :
      CycleFails m f { m with cycles := m.cycles + 1, log := log }

/-- A display that fails to blank its picture ends the cycle with its error. -/
theorem cycle_of_clear_error {display : D} (hi : m.core.ComesTo .clear)
    (h : Display.clear m.display = (.error e, display)) :
    m.cycle = (.error (.device e), { m.fetched with display := display }) := by
  have hrequest : m.request .clear = .clear m.core.advance := rfl
  have hdisplay : m.fetched.display = m.display := rfl
  rw [m.cycle_of_encodes hi.skips hi.canFetch hi.encodes, hrequest, serve, hdisplay, h]
  rfl

/-- A display that fails to draw ends the cycle with its error. -/
theorem cycle_of_draw_error {x y : Reg} {height : Fin 16} {display : D}
    (hi : m.core.ComesTo (.draw x y height))
    (hsprite : Memory.HasSprite m.core.registers.i height.val)
    (h : Display.draw (m.core.reg x) (m.core.reg y)
      ((m.core.memory.spriteRows m.core.registers.i height.val).map unpackRow) m.display =
        (.error e, display)) :
    m.cycle = (.error (.device e), { m.fetched with display := display }) := by
  have hdisplay : m.fetched.display = m.display := rfl
  rw [m.cycle_of_encodes hi.skips hi.canFetch hi.encodes, request, Core.execute_draw, if_pos hsprite,
    serve, hdisplay, h]
  rfl

/-- A keypad that fails while a key is waited for ends the cycle with its error. -/
theorem cycle_of_waitForKey_error {x : Reg} {keypad : K} (hi : m.core.ComesTo (.awaitKey x))
    (h : Keypad.waitForKey m.keypad = (.error e, keypad)) :
    m.cycle = (.error (.device e), { m.fetched with keypad := keypad }) := by
  have hrequest : m.request (.awaitKey x) =
      .await fun key => ({ m.core with suspended := true }.setReg x key).advance := rfl
  have hkeypad : m.fetched.keypad = m.keypad := rfl
  rw [m.cycle_of_encodes hi.skips hi.canFetch hi.encodes, hrequest, serve, hkeypad, h]
  rfl

/-- An answer of a device that makes a fault is an error, and the fault is that error. -/
theorem answer_of_outcomeOf {α σ : Type} {answer : Reply DeviceError α σ}
    (h : outcomeOf answer.1 = .error (.device e)) : answer = (.error e, answer.2) := by
  obtain ⟨answer | _, after⟩ := answer
  · cases h
    rfl
  · cases h

/-- The error of a device comes from the device that the instruction asks. -/
theorem cycleFails_of_device (h : m.cycle.1 = .error (.device e)) :
    CycleFails m (.device e) m.cycle.2 := by
  rcases m.cycle_cases with hs | ⟨hs, hf | ⟨hf, hw | ⟨i, hi⟩⟩⟩
  · rw [m.cycle_of_skips hs] at h
    cases h
  · rw [m.cycle_of_not_canFetch hs hf] at h
    cases h
  · rw [m.cycle_of_not_encodes hs hf hw] at h
    cases h
  · have hcomes : m.core.ComesTo i := ⟨hs, hf, hi⟩
    rw [outcome_of_comesTo hcomes] at h
    cases i with
    | clear =>
      have hanswer := answer_of_outcomeOf h
      rw [cycle_of_clear_error hcomes hanswer]
      exact .clear hcomes hanswer
    | draw x y height =>
      rw [outcome] at h
      split_ifs at h with hsprite
      · have hanswer := answer_of_outcomeOf h
        rw [cycle_of_draw_error hcomes hsprite hanswer]
        exact .draw hcomes hsprite hanswer
      · cases h
    | awaitKey x =>
      have hanswer := answer_of_outcomeOf h
      rw [cycle_of_waitForKey_error hcomes hanswer]
      exact .awaitKey hcomes hanswer
    -- The other instructions that can fail ask no device.
    | ret | call target | storeDigits x | storeRegisters x | loadRegisters x =>
      rw [outcome, require] at h
      split_ifs at h
      cases h
    | _ => cases h

/-- Cycles fail in these ways and in no other. -/
theorem cycle_eq_error_iff {f : Fault} {left : Machine D K B} :
    m.cycle = (.error f, left) ↔ CycleFails m f left := by
  constructor
  · intro h
    have hresult : m.cycle.1 = .error f := congrArg Prod.fst h
    have hleft : m.cycle.2 = left := congrArg Prod.snd h
    rw [← hleft]
    rcases f.isFatal_or_device with hf | ⟨e, rfl⟩
    · obtain ⟨log, hcycle⟩ := cycle_of_isFatal hf hresult
      rw [hcycle]
      exact .fatal hf hcycle
    · exact cycleFails_of_device hresult
  · rintro (⟨hi, h⟩ | ⟨hi, hsprite, h⟩ | ⟨hi, h⟩ | ⟨hf, h⟩)
    · exact cycle_of_clear_error hi h
    · exact cycle_of_draw_error hi hsprite h
    · exact cycle_of_waitForKey_error hi h
    · exact h

end

end Machine

/-! ## Passes that fail -/

namespace Loop

variable {D K B : Type} [Display D] [Keypad K] [Buzzer B] {l : Loop D K B} {now : Nat}

/-- A pass comes to the fault `f` and leaves a machine: the first that fails in it is the refresh in
its tick, the poll, or its cycle. -/
inductive PassFails (l : Loop D K B) (now : Nat) : Fault → Machine D K B → Prop
  | refresh {e : DeviceError} {display : D} (hshare : 0 < l.machine.share (now - l.last))
      (h : Display.refresh l.machine.display = (.error e, display)) :
      PassFails l now (.device e) { l.machine.timed (now - l.last) with display := display }
  | poll {ticks : Nat} {e : DeviceError} {keypad : K}
      (htick : (l.machine.tick (now - l.last)).1 = .ok ticks)
      (h : Keypad.poll (l.ticked now).keypad = (.error e, keypad)) :
      PassFails l now (.device e) { l.ticked now with keypad := keypad }
  | cycle {f : Fault} {left : Machine D K B} (hcomes : l.ComesToCycle now)
      (h : (l.polled now).CycleFails f left) : PassFails l now f left

/-- Passes fail in these ways and in no other. -/
theorem begin_error_iff {f : Fault} {left : Machine D K B} :
    (l.begin now).1 = .error f ∧ (l.begin now).2.machine = left ↔ PassFails l now f left := by
  constructor
  · rintro ⟨hresult, rfl⟩
    rcases l.begin_cases now with ⟨f', ht⟩ | ⟨ticks, e, ht, hp⟩ | ⟨hcomes, ⟨f', hc⟩ | hc⟩
    · obtain ⟨hshare, e, display, hrefresh, rfl⟩ := Machine.refresh_of_tick_error ht
      have hticked : l.ticked now =
          { l.machine.timed (now - l.last) with display := display } := by
        rw [ticked, l.machine.tick_of_refresh_error _ hshare hrefresh]
      rw [l.begin_of_tick_error now ht] at hresult ⊢
      cases hresult
      rw [hticked]
      exact .refresh hshare hrefresh
    · rw [l.begin_of_poll_error now ht hp] at hresult ⊢
      cases hresult
      exact .poll ht (Prod.ext hp rfl)
    · rw [l.begin_of_cycle_error now hcomes hc] at hresult ⊢
      cases hresult
      exact .cycle hcomes (Machine.cycle_eq_error_iff.1 (Prod.ext hc rfl))
    · rw [l.begin_of_cycle_ok now hcomes hc] at hresult
      cases hresult
  · rintro (⟨hshare, h⟩ | ⟨htick, h⟩ | ⟨hcomes, h⟩)
    · have htick := l.machine.tick_of_refresh_error _ hshare h
      rw [l.begin_of_tick_error now (congrArg Prod.fst htick)]
      exact ⟨rfl, congrArg Prod.snd htick⟩
    · rw [l.begin_of_poll_error now htick (congrArg Prod.fst h), polled, h]
      exact ⟨rfl, rfl⟩
    · have hcycle := Machine.cycle_eq_error_iff.2 h
      rw [l.begin_of_cycle_error now hcomes (congrArg Prod.fst hcycle), hcycle]
      exact ⟨rfl, rfl⟩

end Loop

/-! ## Loops that fail -/

/-- What a loop came to, or what it gives, is a request to quit. -/
def IsQuit (result : Except Fault Unit) : Prop := ∃ f, result = .error f ∧ f.isQuit = true

namespace Machine

variable {D K B : Type}

/-- What a loop gives is a request to quit if it came to one and the buzzer could be stopped. -/
theorem isQuit_leaveLoop_iff [Buzzer B] {m : Machine D K B} (result : Except Fault Unit) :
    IsQuit (m.leaveLoop result).1 ↔ IsQuit result ∧ ∀ text, ¬ m.StopFails text := by
  rcases m.stops_or_stopFails with hstops | ⟨text, hfails⟩
  · rw [leaveLoop_of_stops result hstops]
    exact ⟨fun hquit => ⟨hquit, hstops⟩, And.left⟩
  -- The buzzer's own error is never a request to quit.
  · rw [leaveLoop_of_stopFails result hfails]
    refine ⟨?_, fun hquit => absurd hfails (hquit.2 text)⟩
    rintro ⟨f, hf, hquit⟩
    cases hf
    cases hquit

/-- A fault is a request to quit when a device reports an interruption. -/
theorem isQuit_error_iff {f : Fault} :
    IsQuit (.error f) ↔ ∃ e, f = .device e ∧ e.kind = .interrupted := by
  constructor
  · rintro ⟨f, hf, hquit⟩
    cases hf
    cases f with
    | device e => exact ⟨e, rfl, of_decide_eq_true hquit⟩
    | _ => cases hquit
  · rintro ⟨e, rfl, hkind⟩
    exact ⟨_, rfl, decide_eq_true hkind⟩

variable [Display D] [Keypad K] [Buzzer B]

/-- The first error of a loop is the fault `f`, and it leaves a machine: after some passes without an
error, fewer than `n`, there is another one, and it fails. -/
def FirstError (m : Machine D K B) (clock : Nat → Nat) (n : Nat) (f : Fault)
    (left : Machine D K B) : Prop :=
  ∃ i < n, ∃ k l, Loop.Passes clock i 1 (m.enterLoop (clock 0)) k l ∧ l.isOver = false ∧
    l.PassFails (clock k) f left

variable {m : Machine D K B} {clock : Nat → Nat} {n : Nat}

/-- The first error ends the loop. -/
theorem FirstError.mainLoop_eq {f : Fault} {left : Machine D K B} (h : m.FirstError clock n f left) :
    m.mainLoop clock n = (some (left.leaveLoop (.error f)).1, (left.leaveLoop (.error f)).2) := by
  obtain ⟨i, hi, k, l, hpasses, hgoes, hfails⟩ := h
  obtain ⟨hresult, rfl⟩ := Loop.begin_error_iff.2 hfails
  have hbegin : l.begin (clock k) = (.error f, (l.begin (clock k)).2) := Prod.ext hresult rfl
  exact mainLoop_of_run (Loop.run_eq_some_iff.2 ⟨i, hi, k, l, hpasses, .fails hgoes hbegin⟩)

/-- A loop that comes to a result was over, or it had a first error. -/
theorem leaveLoop_of_mainLoop {result : Except Fault Unit} {after : Machine D K B}
    (h : m.mainLoop clock n = (some result, after)) :
    (∃ left : Machine D K B, left.leaveLoop (.ok ()) = (result, after)) ∨
      ∃ f left, m.FirstError clock n f left ∧ left.leaveLoop (.error f) = (result, after) := by
  obtain ⟨reached, l, hrun, hleave⟩ := run_of_mainLoop h
  obtain ⟨i, hi, k, last, hpasses, hends⟩ := Loop.run_eq_some_iff.1 hrun
  cases hends with
  | atLimit hover => exact .inl ⟨l.machine, hleave⟩
  | @fails f _ hgoes hbegin =>
    have hfails : last.PassFails (clock k) f l.machine :=
      Loop.begin_error_iff.1 ⟨congrArg Prod.fst hbegin, by rw [hbegin]⟩
    exact .inr ⟨f, l.machine, ⟨i, hi, k, last, hpasses, hgoes, hfails⟩, hleave⟩

/-- A loop without an error ends well, unless the buzzer cannot be stopped. -/
theorem result_of_no_error {result : Except Fault Unit} {after : Machine D K B}
    (h : m.mainLoop clock n = (some result, after))
    (hnone : ∀ f left, ¬ m.FirstError clock n f left) :
    result = .ok () ∨ ∃ text, result = .error (.buzzer text) := by
  rcases leaveLoop_of_mainLoop h with ⟨left, hleave⟩ | ⟨f, left, hfirst, -⟩
  · have hresult : (left.leaveLoop (.ok ())).1 = result := congrArg Prod.fst hleave
    rcases left.stops_or_stopFails with hstops | ⟨text, hfails⟩
    · exact .inl (hresult.symm.trans (leaveLoop_of_stops _ hstops))
    · exact .inr ⟨text, hresult.symm.trans (leaveLoop_of_stopFails _ hfails)⟩
  · exact absurd hfirst (hnone f left)

/-- A loop comes to a request to quit when its first error is one and the buzzer can be stopped. -/
theorem isQuit_mainLoop_iff {result : Except Fault Unit} {after : Machine D K B}
    (h : m.mainLoop clock n = (some result, after)) :
    IsQuit result ↔ ∃ e left, m.FirstError clock n (.device e) left ∧ e.kind = .interrupted ∧
      ∀ text, ¬ left.StopFails text := by
  constructor
  · intro hquit
    rcases leaveLoop_of_mainLoop h with ⟨left, hleave⟩ | ⟨f, left, hfirst, hleave⟩
    -- A loop that was over came to no error, so leaving it cannot give a request to quit.
    · have hresult : (left.leaveLoop (.ok ())).1 = result := congrArg Prod.fst hleave
      rw [← hresult, isQuit_leaveLoop_iff] at hquit
      obtain ⟨f, hf, -⟩ := hquit.1
      cases hf
    · have hresult : (left.leaveLoop (.error f)).1 = result := congrArg Prod.fst hleave
      rw [← hresult, isQuit_leaveLoop_iff, isQuit_error_iff] at hquit
      obtain ⟨⟨e, rfl, hkind⟩, hstops⟩ := hquit
      exact ⟨e, left, hfirst, hkind, hstops⟩
  · rintro ⟨e, left, hfirst, hkind, hstops⟩
    rw [hfirst.mainLoop_eq] at h
    have hresult : (left.leaveLoop (.error (.device e))).1 = result :=
      Option.some.inj (congrArg Prod.fst h)
    rw [← hresult, isQuit_leaveLoop_iff, isQuit_error_iff]
    exact ⟨⟨e, rfl, hkind⟩, hstops⟩

/-- The exit code is zero when the loop ended well or came to a request to quit. -/
theorem exitCode_eq_zero_iff (result : Except Fault Unit) :
    CommandLine.exitCode result = 0 ↔ result = .ok () ∨ IsQuit result := by
  rcases result with f | _
  · have hcode : CommandLine.exitCode (.error f) = if f.isQuit then 0 else 1 := rfl
    rw [hcode]
    constructor
    · intro h
      split_ifs at h with hquit
      exact .inr ⟨f, rfl, hquit⟩
    · rintro (h | ⟨f', hf, hquit⟩)
      · cases h
      · cases hf
        exact if_pos hquit
  · exact ⟨fun _ => .inl rfl, fun _ => rfl⟩

/-- A program whose machine was put together and loaded exits when its loop comes to a result, with
success if that is no error or a request to quit. -/
theorem program_of_mainLoop {o : CommandLine.Options} {display : D} {keypad : K} {buzzer : B}
    {source : Source} {entropy : Random.Key} {booted loaded after : Machine D K B} {count : Nat}
    {result : Except Fault Unit}
    (hboot : boot o.config entropy display keypad buzzer = .ok booted)
    (hload : booted.loadFrom source = (.ok count, loaded))
    (hloop : loaded.mainLoop clock n = (some result, after)) :
    ∃ ending, CommandLine.program o display keypad buzzer source entropy clock n = some ending ∧
      ending.machine = some after ∧ (ending.exit = 0 ↔ result = .ok () ∨ IsQuit result) := by
  rw [CommandLine.program, CommandLine.launch_of_loaded hboot hload, hloop]
  exact ⟨_, rfl, rfl, exitCode_eq_zero_iff result⟩

/-- The first error of a loop surfaces. It ends the loop, which is left with the machine that the error
left, except that the buzzer is stopped if it is still in use. The result is that error as it is, unless
the buzzer cannot be stopped, and then it is the buzzer's. A loop without an error ends well unless the
buzzer cannot be stopped. So a loop comes to a request to quit exactly when its first error is a device's
interruption and the buzzer can be stopped.

A program that has put its machine together and loaded it, with whatever devices, exits exactly when the
loop of the machine comes to a result, and with success exactly when the loop ends well or comes to a
request to quit. A session at the terminal is such a program, on some readings of the clock. -/
theorem first_error_surfaces (m : Machine D K B) (clock : Nat → Nat) (n : Nat) :
    (∀ f left, m.FirstError clock n f left → ∃ result log,
      m.mainLoop clock n =
        (some result, { left with buzzer := left.stoppedBuzzer, log := log }) ∧
      ((∀ text, ¬ left.StopFails text) → result = .error f) ∧
      ∀ text, left.StopFails text → result = .error (.buzzer text)) ∧
    (∀ result after, m.mainLoop clock n = (some result, after) →
      ((∀ f left, ¬ m.FirstError clock n f left) →
        result = .ok () ∨ ∃ text, result = .error (.buzzer text)) ∧
      (IsQuit result ↔ ∃ e left, m.FirstError clock n (.device e) left ∧ e.kind = .interrupted ∧
        ∀ text, ¬ left.StopFails text)) ∧
    (∀ (o : CommandLine.Options) (display : D) (keypad : K) (buzzer : B) (source : Source)
      (entropy : Random.Key) (booted : Machine D K B) (count : Nat),
      boot o.config entropy display keypad buzzer = .ok booted →
      booted.loadFrom source = (.ok count, m) →
      let exits := CommandLine.program o display keypad buzzer source entropy clock n
      (∀ after, m.mainLoop clock n = (none, after) → exits.isNone) ∧
      ∀ result after, m.mainLoop clock n = (some result, after) → ∃ ending, exits = some ending ∧
        ending.machine = some after ∧ (ending.exit = 0 ↔ result = .ok () ∨ IsQuit result)) ∧
    ∀ (o : CommandLine.Options) (buzzer : B) (image : List UInt8) (incoming : List Arrival)
      (entropy : Random.Key) (passes : Nat), ∃ pauses clock,
      CommandLine.start o buzzer image incoming entropy passes =
        (CommandLine.program o (TerminalScreen.openOn pictureWidth pictureHeight)
          (⟨{ incoming := incoming }, pauses⟩ : Keyboard.Paced) buzzer (.piece image .done) entropy clock
            passes).map CommandLine.Ending.outcome := by
  refine ⟨fun f left hfirst => ?_, fun result after hloop => ⟨?_, ?_⟩, ?_,
    CommandLine.exists_start_eq_program⟩
  · obtain ⟨log, hleft⟩ := left.leaveLoop_frame (.error f)
    refine ⟨_, log, hleft ▸ hfirst.mainLoop_eq, left.leaveLoop_of_stops _, fun text hfails => ?_⟩
    exact leaveLoop_of_stopFails _ hfails
  · exact result_of_no_error hloop
  · exact isQuit_mainLoop_iff hloop
  · intro o display keypad buzzer source entropy booted count hboot hload
    refine ⟨fun after hloop => ?_, fun result after => program_of_mainLoop hboot hload⟩
    rw [CommandLine.program, CommandLine.launch_of_loaded hboot hload, hloop]
    rfl

/-- What is reported when someone asks to quit instead of pressing a key. -/
def quitting : DeviceError := ⟨.interrupted, "no key"⟩

/-- A machine that is about to wait for a key, with a tone to be heard and a request to quit coming. -/
def interrupted : Machine Headless (Monitored KeypadCall DeviceError Scripted) Silent where
  config := {}
  core :=
    { memory := Memory.zeroed.load [0xf0, 0x0a]
      timers := { sound := 9, interval := 1000, interval_pos := Nat.succ_pos 999 }
      random := .ofKey (Vector.replicate 8 0) }
  display := {}
  keypad :=
    { inner := {}
      plan := fun call => if call = .waitForKey then some ⟨1, quitting⟩ else none }
  buzzer := {}

/-- A speaker that can be turned on and not off. -/
structure Stuck where

instance : Speaker Stuck where
  sound pitch s := (if pitch = 0 then .error "no console" else .ok (), s)

/-- Options to run four cycles with the buzzer of the computer. -/
def fourBeeping : CommandLine.Options := { program := "", cycles := some 4, beep := true }

/-- The request comes back as it is, and the program exits with success on it. A program that cannot end
its tone does not, although nothing failed before. And a session in which the escape key was pressed is a
program that ends with success. -/
theorem first_error_surfaces_interrupted :
    let clock := fun _ => 0
    let key := Vector.replicate 8 0
    let waiting : Source := .piece [0xf0, 0x0a] .done
    let sounding : Source := .piece [0x60, 0x1e, 0xf0, 0x18, 0x12, 0x04] .done
    let esc : Arrival := ⟨0, .key { key := .escape }⟩
    (∃ left, interrupted.FirstError clock 1 (.device quitting) left ∧
      (∀ text, ¬ left.StopFails text) ∧
      (interrupted.mainLoop clock 1).1 = some (.error (.device quitting)) ∧
      IsQuit (.error (.device quitting))) ∧
    (∃ ending, CommandLine.program { program := "" } ({} : Headless) interrupted.keypad ({} : Silent)
      waiting key clock 1 = some ending ∧ ending.exit = 0) ∧
    (∃ ending, CommandLine.program fourBeeping ({} : Headless) ({} : Scripted)
      (fourBeeping.buzzer ({} : Stuck)) sounding key clock 5 = some ending ∧ ending.exit ≠ 0) ∧
    ∃ pauses clock ending, CommandLine.program { program := "" }
      (TerminalScreen.openOn pictureWidth pictureHeight)
      (⟨{ incoming := [esc] }, pauses⟩ : Keyboard.Paced) ({} : Silent) waiting key clock 1 =
        some ending ∧ ending.exit = 0 := by
  intro clock key waiting sounding esc
  refine ⟨?request, ?program, ?jammed, ?session⟩
  case request =>
    let l := interrupted.enterLoop (clock 0)
    have htick : (l.machine.tick (clock 1 - l.last)).1 = .ok 0 := by
      rw [l.machine.tick_of_share_eq_zero _ (by decide)]
    have hcomes : l.ComesToCycle (clock 1) := by
      refine ⟨⟨0, htick⟩, ?_⟩
      rw [l.ticked_keypad]
      rfl
    have hwaits : (l.polled (clock 1)).core.ComesTo (.awaitKey Reg.zero) := by
      have hword : (l.polled (clock 1)).core.word = 0xf00a := by decide +kernel
      have hencodes : (Instruction.awaitKey Reg.zero).Encodes (l.polled (clock 1)).core.word := by
        rw [hword]
        rfl
      exact ⟨by decide +kernel, by decide +kernel, hencodes⟩
    have hfails : (Keypad.waitForKey (l.polled (clock 1)).keypad).1 = .error quitting := by
      rw [Loop.polled, l.ticked_keypad]
      rfl
    obtain ⟨left, hfirst⟩ : ∃ left, interrupted.FirstError clock 1 (.device quitting) left :=
      ⟨_, 0, by decide, 1, l, .none 1 l, rfl, .cycle hcomes (.awaitKey hwaits (Prod.ext hfails rfl))⟩
    have hstops : ∀ text, ¬ left.StopFails text := by
      rintro text ⟨-, hstop⟩
      cases hstop
    obtain ⟨hfirsts, hloops, -⟩ := first_error_surfaces interrupted clock 1
    obtain ⟨result, log, hloop, hresult, -⟩ := hfirsts _ _ hfirst
    have hquits := (hloops _ _ hloop).2.2 ⟨quitting, _, hfirst, rfl, hstops⟩
    rw [hresult hstops] at hloop hquits
    exact ⟨_, hfirst, hstops, congrArg Prod.fst hloop, hquits⟩
  case program =>
    let o : CommandLine.Options := { program := "" }
    let booted : Machine Headless (Monitored KeypadCall DeviceError Scripted) Silent :=
      { config := o.config
        core := Core.fresh o.config key
        display := (({} : Headless).setExtents 64 32).clear
        keypad := interrupted.keypad
        buzzer := {} }
    let loaded := (booted.load [0xf0, 0x0a]).2
    have hexits : (loaded.mainLoop clock 1).1.map CommandLine.exitCode = some 0 := by decide +kernel
    obtain ⟨result, hloop, hcode⟩ := Option.map_eq_some_iff.1 hexits
    obtain ⟨-, -, hprograms, -⟩ := first_error_surfaces loaded clock 1
    obtain ⟨ending, hends, -, hexit⟩ := (hprograms o {} interrupted.keypad {} waiting key booted 2 rfl
      rfl).2 result _ (Prod.ext hloop rfl)
    exact ⟨ending, hends, hexit.2 ((exitCode_eq_zero_iff result).1 hcode)⟩
  case jammed =>
    let booted : Machine Headless Scripted (Beeper Stuck ⊕ Silent) :=
      { config := fourBeeping.config
        core := Core.fresh fourBeeping.config key
        display := (({} : Headless).setExtents 64 32).clear
        keypad := {}
        buzzer := fourBeeping.buzzer {} }
    let loaded := (booted.load [0x60, 0x1e, 0xf0, 0x18, 0x12, 0x04]).2
    have hexits : (loaded.mainLoop clock 5).1.map CommandLine.exitCode = some 1 := by decide +kernel
    obtain ⟨result, hloop, hcode⟩ := Option.map_eq_some_iff.1 hexits
    obtain ⟨-, -, hprograms, -⟩ := first_error_surfaces loaded clock 5
    obtain ⟨ending, hends, -, hexit⟩ := (hprograms fourBeeping {} {} (fourBeeping.buzzer {}) sounding
      key booted 6 rfl rfl).2 result _ (Prod.ext hloop rfl)
    refine ⟨ending, hends, fun hzero => ?_⟩
    rw [(exitCode_eq_zero_iff result).2 (hexit.1 hzero)] at hcode
    cases hcode
  case session =>
    have hexits : (CommandLine.start { program := "" } ({} : Silent) [0xf0, 0x0a] [esc] key 1).map
        CommandLine.Outcome.exit = some 0 := by decide +kernel
    obtain ⟨-, -, -, hsessions⟩ := first_error_surfaces
      (interrupted.withDisplay (TerminalScreen.openOn 64 32)) clock 1
    obtain ⟨pauses, clock', hstart⟩ := hsessions { program := "" } {} [0xf0, 0x0a] [esc] key 1
    rw [hstart, Option.map_map, Option.map_eq_some_iff] at hexits
    obtain ⟨ending, hends, hexit⟩ := hexits
    exact ⟨pauses, clock', ending, hends, hexit⟩

end Machine

end Cosmac
