import Cosmac.Proofs.Interleaving

/-!
# Faults that stay

A fault that is not a device's own error comes from the program counter, the index register, the call
stack and memory, and from nothing else. So it is met again on every machine whose core differs in the
timers only, with whatever devices (`cycle_of_fatal`). A cycle that fails changes no core, and time
changes the timers of it only. It follows that a machine which has met such a fault meets it in every
later cycle, until a program is loaded (`fatal_fault_stays`).
-/

namespace Cosmac

/-- A fault that does not come from a device. -/
def Fault.IsFatal (f : Fault) : Prop := ∀ e, f ≠ .device e

/-- A fault is fatal or it comes from a device. -/
theorem Fault.isFatal_or_device (f : Fault) : f.IsFatal ∨ ∃ e, f = .device e := by
  cases f with
  | device e => exact .inr ⟨e, rfl⟩
  | _ => exact .inl nofun

/-- A monitored display keeps, when it is refreshed, what the display under watch keeps. -/
theorem Monitored.inner_refresh {σ α : Type} [Display σ] (d : Monitored DisplayCall DeviceError σ)
    (frame : σ → α) (h : ∀ d, frame (Display.refresh d).2 = frame d) :
    frame (Display.refresh d).2.inner = frame d.inner := by
  have hattempt : Display.refresh d = d.attempt .refresh Display.refresh := rfl
  rw [hattempt, attempt]
  split
  · rfl
  · exact h d.inner

/-- What a device answers is not a fatal fault. -/
theorem outcomeOf_ne_of_isFatal {α : Type} {f : Fault} (hf : f.IsFatal)
    (answer : Except DeviceError α) : outcomeOf answer ≠ .error f := by
  rcases answer with e | _
  · exact fun h => hf e (Except.error.inj h).symm
  · exact nofun

namespace Machine

variable {D D' K K' B B' : Type}

/-! ## Cycles -/

section

variable [Display D] [Display D'] [Keypad K] [Keypad K'] {m : Machine D K B}
  {m' : Machine D' K' B'} {t : Timers} {f : Fault}

/-- An instruction that meets a fatal fault meets it with any timers and any devices. -/
theorem outcome_of_fatal (hcore : m'.core = m.core.withTimers t) (hf : f.IsFatal) {i : Instruction}
    (h : m.outcome i = .error f) : m'.outcome i = .error f := by
  have hfault : m'.rangeFault = m.rangeFault := by
    rw [rangeFault, hcore]
    rfl
  -- Only the instructions that ask a device or check a range can fail at all.
  cases i with
  | clear | awaitKey x => exact absurd h (outcomeOf_ne_of_isFatal hf _)
  | draw x y height =>
    rw [outcome] at h
    rw [outcome, hfault, hcore]
    split_ifs at h with hsprite
    · exact absurd h (outcomeOf_ne_of_isFatal hf _)
    · exact (if_neg hsprite).trans h
  | ret | call target =>
    rw [outcome, hcore]
    exact h
  | storeDigits x | storeRegisters x | loadRegisters x =>
    rw [outcome, hfault, hcore]
    exact h
  | _ => cases h

/-- A cycle that meets a fatal fault meets it with any timers and any devices. -/
theorem cycle_of_fatal (hcore : m'.core = m.core.withTimers t) (hf : f.IsFatal)
    (h : m.cycle.1 = .error f) : m'.cycle.1 = .error f := by
  have hskips : m'.core.skips = m.core.skips := by
    rw [hcore]
    rfl
  have hpc : m'.core.registers.pc = m.core.registers.pc := by
    rw [hcore]
    rfl
  have hword : m'.core.word = m.core.word := by
    rw [hcore]
    rfl
  have hfetch : m'.core.CanFetch ↔ m.core.CanFetch := by
    rw [Core.CanFetch, hpc, Core.CanFetch]
  rcases m.cycle_cases with hs | ⟨hs, hn | ⟨hc, hw | ⟨i, hi⟩⟩⟩
  · rw [m.cycle_of_skips hs] at h
    cases h
  · rw [m.cycle_of_not_canFetch hs hn] at h
    rw [m'.cycle_of_not_canFetch (hskips.trans hs) (mt hfetch.1 hn), hpc]
    exact h
  · rw [m.cycle_of_not_encodes hs hc hw] at h
    rw [m'.cycle_of_not_encodes (hskips.trans hs) (hfetch.2 hc) (hword.symm ▸ hw), hword, hpc]
    exact h
  · rw [outcome_of_comesTo ⟨hs, hc, hi⟩] at h
    rw [outcome_of_comesTo ⟨hskips.trans hs, hfetch.2 hc, hword.symm ▸ hi⟩]
    exact outcome_of_fatal hcore hf h

/-- A cycle that meets a fatal fault changes no more than the count of cycles and the log. -/
theorem cycle_of_isFatal (hf : f.IsFatal) (h : m.cycle.1 = .error f) :
    ∃ log, m.cycle = (.error f, { m with cycles := m.cycles + 1, log := log }) := by
  have hspares := m.cycle_spares h
  have hcore := hspares.core
  -- A failed cycle may have changed a device only if the device failed, and then the fault is its own.
  have hdisplay : m.cycle.2.display = m.display :=
    hspares.display.resolve_right fun ⟨e, he, _⟩ => hf e he
  have hkeypad : m.cycle.2.keypad = m.keypad :=
    hspares.keypad.resolve_right fun ⟨e, he, _⟩ => hf e he
  obtain ⟨core, display, keypad, log, hframe⟩ := m.cycle_frame
  rw [hframe] at hcore hdisplay hkeypad
  dsimp only at hcore hdisplay hkeypad
  rw [hcore, hdisplay, hkeypad] at hframe
  exact ⟨log, Prod.ext h hframe⟩

end

/-! ## Runs -/

/-- Whether a step may load a program. -/
def Step.isLoad : Step D K B → Bool
  | load _ | loadFrom _ => true
  | _ => false

variable [Display D] [Keypad K] [Buzzer B] {m : Machine D K B} {f : Fault}

/-- Where no program is loaded, a step on a machine that meets a fatal fault changes no more of the
core than the timers. -/
theorem core_step_of_fatal (h : m.cycle.1 = .error f) {s : Step D K B} (hs : s.isLoad = false) :
    ∃ t, (m.step s).core = m.core.withTimers t := by
  cases s with
  | cycle => exact ⟨m.core.timers, (m.cycle_spares h).core⟩
  | tick elapsed => exact ⟨_, m.tick_core elapsed⟩
  | devices display keypad buzzer => exact ⟨m.core.timers, rfl⟩
  | load image | loadFrom source => cases hs

/-- A step on a machine that meets a fatal fault keeps every part of the display that being refreshed
keeps, if a display that is put in place has the same. -/
theorem frame_step_of_fatal {α : Type} {frame : D → α}
    (hrefresh : ∀ d, frame (Display.refresh d).2 = frame d) (hf : f.IsFatal)
    (h : m.cycle.1 = .error f) {s : Step D K B} (hs : s.isLoad = false)
    (hput : ∀ d k b, s = .devices d k b → frame d = frame m.display) :
    frame (m.step s).display = frame m.display := by
  cases s with
  | cycle =>
    obtain ⟨log, hcycle⟩ := cycle_of_isFatal hf h
    have hstep : m.step .cycle = m.cycle.2 := rfl
    rw [hstep, hcycle]
  | tick elapsed =>
    obtain ⟨_, _, _, hframe⟩ := m.tick_frame elapsed
    have hstep : m.step (.tick elapsed) = (m.tick elapsed).2 := rfl
    rw [hstep, hframe]
    dsimp only
    rw [displayAfterTick]
    split_ifs
    · exact hrefresh m.display
    · rfl
  | devices display keypad buzzer => exact hput _ _ _ rfl
  | load image | loadFrom source => cases hs

/-- A machine that meets a fatal fault meets it in all cycles of a run without a program loaded, and
its core changes in the timers only. -/
theorem steps_of_fatal (hf : f.IsFatal) (h : m.cycle.1 = .error f) {run : List (Step D K B)}
    (hload : ∀ s ∈ run, s.isLoad = false) :
    (∀ m' ∈ m.cycled run, m'.cycle.1 = .error f) ∧
      ∃ t, (m.steps run).core = m.core.withTimers t := by
  induction m, run using run_induction with
  | nil m => exact ⟨nofun, m.core.timers, rfl⟩
  | cycle m run ih =>
    obtain ⟨t, hcore⟩ : ∃ t, m.cycle.2.core = m.core.withTimers t :=
      core_step_of_fatal h (hload .cycle List.mem_cons_self)
    obtain ⟨hcycles, t', hcore'⟩ :=
      ih (cycle_of_fatal hcore hf h) fun s hs => hload s (List.mem_cons_of_mem _ hs)
    refine ⟨fun m' hm' => ?_, t', ?_⟩
    · rcases List.mem_cons.1 hm' with rfl | hm'
      · exact h
      · exact hcycles m' hm'
    · rw [m.steps_cycle, hcore', hcore]
      rfl
  | other m s run hs ih =>
    obtain ⟨t, hcore⟩ := core_step_of_fatal h (hload s List.mem_cons_self)
    obtain ⟨hcycles, t', hcore'⟩ :=
      ih (cycle_of_fatal hcore hf h) fun s hs => hload s (List.mem_cons_of_mem _ hs)
    rw [m.cycled_cons_of_ne hs, m.steps_cons]
    refine ⟨hcycles, t', ?_⟩
    rw [hcore', hcore]
    rfl

/-- In such a run the display keeps every part that being refreshed keeps. -/
theorem frame_steps_of_fatal {α : Type} {frame : D → α}
    (hrefresh : ∀ d, frame (Display.refresh d).2 = frame d) (hf : f.IsFatal)
    (h : m.cycle.1 = .error f) {run : List (Step D K B)} (hload : ∀ s ∈ run, s.isLoad = false)
    (hput : ∀ d k b, .devices d k b ∈ run → frame d = frame m.display) :
    frame (m.steps run).display = frame m.display := by
  induction run generalizing m with
  | nil => rfl
  | cons s run ih =>
    have hs := hload s List.mem_cons_self
    obtain ⟨t, hcore⟩ := core_step_of_fatal h hs
    have hfirst := frame_step_of_fatal hrefresh hf h hs fun d k b e =>
      hput d k b (e ▸ List.mem_cons_self)
    have hrest := ih (cycle_of_fatal hcore hf h) (fun s hs => hload s (List.mem_cons_of_mem _ hs))
      fun d k b hd => (hput d k b (List.mem_cons_of_mem _ hd)).trans hfirst.symm
    rw [m.steps_cons, hrest, hfirst]

/-- A fatal fault stays. After a cycle that met it, in any run of cycles, of ticks that may fail, and
of changes to the devices, every cycle meets the same fault, and of the core nothing but the timers has
changed in the end. Neither has any part of the display that being refreshed keeps, unless it was put
there from outside. -/
theorem fatal_fault_stays (m : Machine D K B) (hf : f.IsFatal) (h : m.cycle.1 = .error f)
    (run : List (Step D K B)) (hload : ∀ s ∈ run, s.isLoad = false) :
    (∀ m' ∈ m.cycle.2.cycled run, m'.cycle.1 = .error f) ∧
    (∃ t, (m.cycle.2.steps run).core = m.core.withTimers t) ∧
    ∀ (α : Type) (frame : D → α), (∀ d, frame (Display.refresh d).2 = frame d) →
      (∀ d k b, .devices d k b ∈ run → frame d = frame m.display) →
      frame (m.cycle.2.steps run).display = frame m.display := by
  -- The run starts after a first cycle, which is a step like those of the run.
  have hfirst : ∀ s ∈ Step.cycle :: run, s.isLoad = false := List.forall_mem_cons.2 ⟨rfl, hload⟩
  obtain ⟨hcycles, hcore⟩ := steps_of_fatal hf h hfirst
  refine ⟨fun m' hm' => hcycles m' (List.mem_cons_of_mem m hm'), hcore, ?_⟩
  intro α frame hrefresh hput
  refine frame_steps_of_fatal hrefresh hf h hfirst fun d k b hd => hput d k b ?_
  exact (List.mem_cons.1 hd).resolve_left nofun

/-- A machine about to draw more rows of the font than there are, on a display that cannot be
refreshed. -/
def overrunning : Machine (Monitored DisplayCall DeviceError Headless) Scripted Silent :=
  (headless.performAll [.load [0xa0, 0x5f, 0xd0, 0x0a], .cycle]).withDisplay stuckDisplay

/-- It meets the same fault after a tick that failed and with a key down, and its picture is as it
was. -/
theorem fatal_fault_stays_overrunning :
    let fault := Fault.failed 0xd00a 0x202 (.outsideMemory 0x5f)
    let run := [.tick 20000000, .cycle, .devices stuckDisplay (Scripted.ofKeys [3]) {}, .cycle]
    overrunning.cycle.1 = .error fault ∧
      (overrunning.cycle.2.tick 20000000).1 = .error (.device ⟨.other, "refresh failed"⟩) ∧
      (∀ m' ∈ overrunning.cycle.2.cycled run, m'.cycle.1 = .error fault) ∧
      (overrunning.cycle.2.steps run).display.inner = overrunning.display.inner := by
  intro fault run
  have hword : overrunning.core.word = 0xd00a := by decide +kernel
  have hdraw : (Instruction.draw Reg.zero Reg.zero 10).Encodes overrunning.core.word := by
    rw [hword]
    rfl
  have hoverruns : ¬ Memory.HasSprite overrunning.core.registers.i (10 : Fin 16).val := by
    decide +kernel
  have hrange : overrunning.rangeFault = fault := by decide +kernel
  have hfault : overrunning.cycle.1 = .error fault := by
    rw [outcome_of_comesTo ⟨by decide +kernel, by decide +kernel, hdraw⟩, outcome, if_neg hoverruns,
      hrange]
  have hfatal : fault.IsFatal := fun e => Fault.noConfusion
  have hload : ∀ s ∈ run, s.isLoad = false := by decide
  obtain ⟨log, hcycle⟩ := cycle_of_isFatal hfatal hfault
  obtain ⟨hcycles, -, hframe⟩ := fatal_fault_stays overrunning hfatal hfault run hload
  refine ⟨hfault, ?_, hcycles, hframe Headless Monitored.inner (fun d => ?_) ?_⟩
  · have hrefused : (Display.refresh overrunning.cycle.2.display).1 =
        .error ⟨.other, "refresh failed"⟩ := by
      rw [hcycle]
      rfl
    rw [(tick_of_share_pos _ _ (by decide +kernel)).1, hrefused]
    rfl
  · exact d.inner_refresh id fun _ => rfl
  · intro d k b hd
    obtain ⟨rfl, -, -⟩ : d = stuckDisplay ∧ k = Scripted.ofKeys [3] ∧ b = {} := by
      simpa [run] using hd
    rfl

end Machine

end Cosmac
