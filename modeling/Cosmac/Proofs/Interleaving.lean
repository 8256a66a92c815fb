import Cosmac.Proofs.Countdown

/-!
# Ticks between cycles

Time reaches a program only when it reads the delay timer. Two machines that differ in their timers,
in what serves the tone, and in the log are alike to everything else (`Machine.Alike`), and a cycle
that does not read the timer keeps them alike and ends in the same way on both (`Alike.cycle`). It
comes down to the instructions, which make the same request with any timers (`execute_withTimers`).

A tick leaves a machine alike to what it was, as long as the display does nothing when it is refreshed
(`alike_tick`). So ticks can be put between the cycles of a run in any way without a difference to the
cycles (`cycled_alike`), and where the run does not set the timers either, these are in the end what
the ticks alone have made of them (`timers_steps`).
-/

namespace Cosmac

/-! ## Instructions -/

/-- The core with other timers. -/
def Core.withTimers (c : Core) (t : Timers) : Core := { c with timers := t }

/-- The timers after an instruction. -/
def Instruction.nextTimers (c : Core) (i : Instruction) : Timers :=
  { c.timers with delay := i.nextDelay c, sound := i.nextSound c }

/-- The same request, except that the core goes on with other timers. -/
def Request.withTimers (t : Timers) : Request → Request
  | .done next => .done (next.withTimers t)
  | .fault cause => .fault cause
  | .clear next => .clear (next.withTimers t)
  | .draw x y rows next => .draw x y rows fun collided => (next collided).withTimers t
  | .sense key next => .sense key fun down => (next down).withTimers t
  | .await next => .await fun key => (next key).withTimers t

namespace Core

variable (c : Core) (t : Timers)

theorem skipIf_withTimers (condition : Bool) :
    (c.withTimers t).skipIf condition = (c.skipIf condition).withTimers t := by
  rw [skipIf_eq, skipIf_eq]
  rfl

/-- An instruction that does not read the delay timer makes the same request with any timers. All it
can do to them is to set them. -/
theorem execute_withTimers {i : Instruction} (skipOnKeyUp : Bool) (h : ∀ x, i ≠ .readDelay x) :
    (c.withTimers t).execute skipOnKeyUp i =
      (c.execute skipOnKeyUp i).withTimers (i.nextTimers (c.withTimers t)) := by
  -- Where the core decides about the request, the decision is taken apart first. Timers have no part in
  -- it, so both sides take the same branch.
  cases i with
  | readDelay x => exact absurd rfl (h x)
  | skipIfByte x byte | skipUnlessByte x byte | skipIfSame x y | skipUnlessSame x y =>
    exact congrArg (fun next => Request.done next.advance) (c.skipIf_withTimers t _)
  | skipIfKey x | skipByKey x =>
    exact congrArg (Request.sense (c.reg x)) (funext fun down =>
      congrArg advance (c.skipIf_withTimers t _))
  | draw x y height =>
    rw [execute_draw, execute_draw, withTimers]
    split_ifs <;> rfl
  | ret =>
    have hstack : (c.withTimers t).registers.stack = c.registers.stack := rfl
    rw [execute_ret, execute_ret, hstack]
    cases c.registers.stack <;> rfl
  | call target =>
    rw [execute_call, execute_call, withTimers]
    split_ifs <;> rfl
  | storeDigits x =>
    rw [execute_storeDigits, execute_storeDigits, withTimers]
    split_ifs <;> rfl
  | storeRegisters x =>
    rw [execute_storeRegisters, execute_storeRegisters, withTimers]
    split_ifs <;> rfl
  | loadRegisters x =>
    rw [execute_loadRegisters, execute_loadRegisters, withTimers]
    split_ifs <;> rfl
  | _ => rfl

end Core

namespace Machine

variable {D K B : Type}

/-! ## Machines that are alike -/

/-- Two machines that differ at most in their timers, in what serves the tone, and in the log. -/
structure Alike (m m' : Machine D K B) : Prop where
  config : m'.config = m.config
  core : m'.core = m.core.withTimers m'.core.timers
  display : m'.display = m.display
  keypad : m'.keypad = m.keypad
  cycles : m'.cycles = m.cycles

namespace Alike

variable {m m' m'' : Machine D K B}

theorem refl (m : Machine D K B) : Alike m m := ⟨rfl, rfl, rfl, rfl, rfl⟩

theorem trans (h : Alike m m') (h' : Alike m' m'') : Alike m m'' where
  config := h'.config.trans h.config
  core := by
    rw [h'.core, h.core]
    rfl
  display := h'.display.trans h.display
  keypad := h'.keypad.trans h.keypad
  cycles := h'.cycles.trans h.cycles

theorem symm (h : Alike m m') : Alike m' m where
  config := h.config.symm
  core := by
    rw [h.core]
    rfl
  display := h.display.symm
  keypad := h.keypad.symm
  cycles := h.cycles.symm

theorem skips (h : Alike m m') : m'.core.skips = m.core.skips := by
  rw [h.core]
  rfl

theorem pc (h : Alike m m') : m'.core.registers.pc = m.core.registers.pc := by
  rw [h.core]
  rfl

theorem canFetch_iff (h : Alike m m') : m'.core.CanFetch ↔ m.core.CanFetch := by
  rw [Core.CanFetch, h.pc, Core.CanFetch]

theorem word (h : Alike m m') : m'.core.word = m.core.word := by
  rw [h.core]
  rfl

/-- Loading a program keeps machines alike. -/
theorem load (h : Alike m m') (image : List UInt8) :
    Alike (m.load image).2 (m'.load image).2 := by
  have hcore : (m'.load image).2.core =
      { m'.core with memory := m'.core.memory.load image } := rfl
  refine { h with core := ?_ }
  rw [hcore, h.core]
  rfl

variable [Display D] [Keypad K]

/-- Two machines that are alike grant the same request in the same way, with whatever timers their
cores go on. -/
theorem serve (h : Alike m m') (t : Timers) (r : Request) :
    (m'.serve (r.withTimers t)).1 = (m.serve r).1 ∧
      Alike (m.serve r).2 (m'.serve (r.withTimers t)).2 := by
  cases r with
  | done next => exact ⟨rfl, { h with core := rfl }⟩
  | fault cause => exact ⟨rfl, h⟩
  | sense key next =>
    rw [Request.withTimers, Machine.serve, Machine.serve, h.keypad]
    exact ⟨rfl, { h with core := rfl, keypad := rfl }⟩
  | clear next =>
    rw [Request.withTimers, Machine.serve, Machine.serve, h.display]
    rcases Display.clear m.display with ⟨_ | _, display⟩
    · exact ⟨rfl, { h with display := rfl }⟩
    · exact ⟨rfl, { h with core := rfl, display := rfl }⟩
  | draw x y rows next =>
    rw [Request.withTimers, Machine.serve, Machine.serve, h.display]
    rcases Display.draw x y rows m.display with ⟨_ | _, display⟩
    · exact ⟨rfl, { h with display := rfl }⟩
    · exact ⟨rfl, { h with core := rfl, display := rfl }⟩
  | await next =>
    rw [Request.withTimers, Machine.serve, Machine.serve, h.keypad]
    rcases Keypad.waitForKey m.keypad with ⟨_ | _, keypad⟩
    · exact ⟨rfl, { h with keypad := rfl }⟩
    · exact ⟨rfl, { h with core := rfl, keypad := rfl }⟩

/-- The cycle of an instruction that does not read the delay timer goes the same way on two machines
that are alike. -/
theorem cycle_of_encodes (h : Alike m m') {i : Instruction} (hs : m.core.skips = 0)
    (hf : m.core.CanFetch) (hi : i.Encodes m.core.word) (hread : ∀ x, i ≠ .readDelay x) :
    m'.cycle.1 = m.cycle.1 ∧ Alike m.cycle.2 m'.cycle.2 := by
  have hs' : m'.core.skips = 0 := h.skips.trans hs
  have hf' : m'.core.CanFetch := h.canFetch_iff.2 hf
  have hi' : i.Encodes m'.core.word := h.word.symm ▸ hi
  have hfetched : Alike m.fetched m'.fetched :=
    ⟨h.config, h.core, h.display, h.keypad, congrArg Nat.succ h.cycles⟩
  have hrequest : m'.request i = (m.request i).withTimers (i.nextTimers m'.core) := by
    rw [request, request, h.config, h.core]
    exact m.core.execute_withTimers m'.core.timers m.config.skipOnKeyUp hread
  obtain ⟨hresult, hafter⟩ := hfetched.serve (i.nextTimers m'.core) (m.request i)
  rw [m.cycle_of_encodes hs hf hi, m'.cycle_of_encodes hs' hf' hi', hrequest, hresult, h.word, h.pc]
  exact ⟨rfl, hafter⟩

/-- A cycle that does not read the delay timer goes the same way on two machines that are alike, and
they are alike after it. -/
theorem cycle (h : Alike m m') (hread : ∀ x, ¬ m.core.ComesTo (.readDelay x)) :
    m'.cycle.1 = m.cycle.1 ∧ Alike m.cycle.2 m'.cycle.2 := by
  have hcount : m'.cycles + 1 = m.cycles + 1 := by rw [h.cycles]
  rcases m.cycle_cases with hs | ⟨hs, hf | ⟨hf, hw | ⟨i, hi⟩⟩⟩
  · have hs' : 0 < m'.core.skips := h.skips.symm ▸ hs
    rw [m.cycle_of_skips hs, m'.cycle_of_skips hs']
    exact ⟨rfl, { h with core := by rw [h.core]; rfl, cycles := hcount }⟩
  · have hs' : m'.core.skips = 0 := h.skips.trans hs
    rw [m.cycle_of_not_canFetch hs hf, m'.cycle_of_not_canFetch hs' (mt h.canFetch_iff.1 hf), h.pc]
    exact ⟨rfl, { h with cycles := hcount }⟩
  · have hs' : m'.core.skips = 0 := h.skips.trans hs
    have hw' : ∀ i : Instruction, ¬ i.Encodes m'.core.word := h.word.symm ▸ hw
    rw [m.cycle_of_not_encodes hs hf hw, m'.cycle_of_not_encodes hs' (h.canFetch_iff.2 hf) hw',
      h.word, h.pc]
    exact ⟨rfl, { h with cycles := hcount }⟩
  · exact h.cycle_of_encodes hs hf hi fun x hx => hread x ⟨hs, hf, hx ▸ hi⟩

/-- Machines that are alike and whose cycles end in the same way execute the same instruction. -/
theorem executed_eq (h : Alike m m') (hresult : m'.cycle.1 = m.cycle.1) :
    m'.executed = m.executed := by
  rw [executed, executed, h.skips, hresult, h.word]

end Alike

/-- The next cycles of two machines go the same way: they end in the same way, execute the same
instruction, and leave the machines alike. -/
structure CycleAlike [Display D] [Keypad K] (m m' : Machine D K B) : Prop where
  result : m'.cycle.1 = m.cycle.1
  executed : m'.executed = m.executed
  after : Alike m.cycle.2 m'.cycle.2

/-- A cycle that does not read the delay timer goes the same way on two machines that are alike. -/
theorem Alike.cycleAlike [Display D] [Keypad K] {m m' : Machine D K B} (h : Alike m m')
    (hread : ∀ x, m.executed ≠ some (.readDelay x)) : CycleAlike m m' := by
  obtain ⟨hresult, hafter⟩ := h.cycle fun x hx => hread x (executed_of_comesTo hx rfl)
  exact ⟨hresult, h.executed_eq hresult, hafter⟩

/-- Machines whose cycles go the same way execute the same instructions. -/
theorem filterMap_executed_eq [Display D] [Keypad K] {before before' : List (Machine D K B)}
    (h : List.Forall₂ CycleAlike before before') :
    before'.filterMap executed = before.filterMap executed := by
  induction h with
  | nil => rfl
  | cons hfirst _ ih => rw [List.filterMap_cons, List.filterMap_cons, hfirst.executed, ih]

/-! ## Runs -/

/-- Whether a step lets time go by. -/
def Step.isTick : Step D K B → Bool
  | tick _ => true
  | _ => false

section

variable [Display D] [Buzzer B] (m : Machine D K B)

/-- A tick that leaves the display as it was leaves a machine that is alike. -/
theorem alike_tick (elapsed : Nat) (hquiet : (Display.refresh m.display).2 = m.display) :
    Alike m (m.tick elapsed).2 := by
  obtain ⟨buzzer, on, log, hframe⟩ := m.tick_frame elapsed
  have hdisplay : m.displayAfterTick elapsed = m.display := by
    rw [displayAfterTick, hquiet, ite_self]
  rw [hframe, hdisplay]
  exact ⟨rfl, rfl, rfl, rfl, rfl⟩

variable [Keypad K]

/-- In a run that sets neither timer the timers go through the ticks of the run, as if there were no
cycles between them. -/
theorem timers_steps (run : List (Step D K B))
    (h : ∀ (timer : Timer) x, timer.setter x ∉ m.executedIn run) :
    (m.steps run).core.timers =
      (run.filter Step.isTick).foldl (fun t s => s.pass t) m.core.timers := by
  induction m, run using run_induction with
  | nil m => rfl
  | cycle m run ih =>
    have hfirst := m.timers_cycle fun timer x hx => h timer x (m.mem_executedIn_cycle.2 (.inl hx))
    have hrest := ih fun timer x hx => h timer x (m.mem_executedIn_cycle.2 (.inr hx))
    rw [m.steps_cycle, hrest, hfirst]
    rfl
  | other m s run hs ih =>
    rw [m.executedIn_cons_of_ne hs] at h
    rw [m.steps_cons, ih h, m.timers_step hs]
    cases s <;> rfl

end

section

variable [Keypad K] [Buzzer B] {m m' : Machine Headless K B} {s : Step Headless K B}

/-- Ticks at the start of a run add no cycle, and leave a machine that is alike. -/
theorem cycled_ticks_append (m : Machine Headless K B) {ticks : List (Step Headless K B)}
    (h : ∀ s ∈ ticks, s.isTick = true) (run : List (Step Headless K B)) :
    ∃ after, Alike m after ∧ m.cycled (ticks ++ run) = after.cycled run := by
  induction ticks generalizing m with
  | nil => exact ⟨m, .refl m, rfl⟩
  | cons s ticks ih =>
    obtain ⟨htick, hticks⟩ := List.forall_mem_cons.1 h
    cases s with
    | tick elapsed =>
      obtain ⟨after, halike, hcycled⟩ := ih (m.tick elapsed).2 hticks
      exact ⟨after, (m.alike_tick elapsed rfl).trans halike, hcycled⟩
    | _ => cases htick

/-- A step that is neither a cycle nor a tick keeps machines alike. -/
theorem Alike.step (h : Alike m m') (hs : s ≠ .cycle) (htick : ¬ s.isTick) :
    Alike (m.step s) (m'.step s) := by
  cases s with
  | cycle => exact absurd rfl hs
  | tick elapsed => exact absurd rfl htick
  | load image => exact h.load image
  | loadFrom source =>
    have hstep : ∀ m : Machine Headless K B, m.step (.loadFrom source) = (m.loadFrom source).2 :=
      fun _ => rfl
    rw [hstep, hstep, loadFrom, loadFrom]
    split
    · exact h
    · exact h.load _
  | devices display keypad buzzer => exact { h with display := rfl, keypad := rfl }

/-- Runs that are the same apart from their ticks have cycles that go the same way, if the first one
does not read the delay timer. -/
theorem cycled_alike (h : Alike m m') {run run' : List (Step Headless K B)}
    (hsame : run'.filter (!·.isTick) = run.filter (!·.isTick))
    (hread : ∀ x, .readDelay x ∉ m.executedIn run) :
    List.Forall₂ CycleAlike (m.cycled run) (m'.cycled run') := by
  -- The induction is on the first run. Its ticks are passed over, and for every other step the second
  -- run is wound forward to the same step, over the ticks before it.
  induction run generalizing m m' run' with
  | nil =>
    have hticks : ∀ s ∈ run', s.isTick = true := by simpa using hsame
    obtain ⟨after, -, hcycled⟩ := m'.cycled_ticks_append hticks []
    rw [List.append_nil] at hcycled
    rw [hcycled]
    exact .nil
  | cons s run ih =>
    by_cases htick : s.isTick
    · cases s with
      | tick elapsed => exact ih ((m.alike_tick elapsed rfl).symm.trans h) hsame hread
      | _ => cases htick
    · rw [List.filter_cons_of_pos (by simpa using htick)] at hsame
      obtain ⟨ticks, rest, rfl, hticks, -, hrest⟩ := List.filter_eq_cons_iff.1 hsame
      obtain ⟨after, halike, hcycled⟩ := m'.cycled_ticks_append (by simpa using hticks) (s :: rest)
      rw [hcycled]
      have hstart := h.trans halike
      by_cases hs : s = .cycle
      · subst hs
        have hcycle := hstart.cycleAlike fun x hx => hread x (m.mem_executedIn_cycle.2 (.inl hx))
        exact .cons hcycle (ih hcycle.after hrest fun x hx =>
          hread x (m.mem_executedIn_cycle.2 (.inr hx)))
      · rw [m.executedIn_cons_of_ne hs] at hread
        rw [m.cycled_cons_of_ne hs, after.cycled_cons_of_ne hs]
        exact ih (hstart.step hs htick) hrest hread

/-- Ticks reach a program through the delay timer only. Two runs from one machine that are the same
apart from their ticks have cycles that go the same way, one by one, if the first run does not read the
delay timer. If it sets neither timer, and the ticks are the same in both runs, the timers are the same
in the end, wherever the ticks stand between the cycles. -/
theorem cycles_ignore_ticks (m : Machine Headless K B) (run run' : List (Step Headless K B))
    (hsame : run'.filter (!·.isTick) = run.filter (!·.isTick))
    (hread : ∀ x, .readDelay x ∉ m.executedIn run) :
    List.Forall₂ CycleAlike (m.cycled run) (m.cycled run') ∧
    ((∀ (timer : Timer) x, timer.setter x ∉ m.executedIn run) →
      run'.filter Step.isTick = run.filter Step.isTick →
      (m.steps run').core.timers = (m.steps run).core.timers) := by
  have hcycles := cycled_alike (.refl m) hsame hread
  refine ⟨hcycles, fun hset hticks => ?_⟩
  -- That the second run sets no timer either is known from its cycles, which go as those of the first.
  have hexecuted : m.executedIn run' = m.executedIn run := filterMap_executed_eq hcycles
  have hset' : ∀ (timer : Timer) x, timer.setter x ∉ m.executedIn run' := by
    rw [hexecuted]
    exact hset
  rw [m.timers_steps run hset, m.timers_steps run' hset', hticks]

end

/-- A machine with the delay timer running, about to draw a random number and a sprite. -/
def drawing : Machine Headless Scripted Silent :=
  headless.performAll
    [.load [0x60, 0x05, 0xf0, 0x15, 0xa2, 0x00, 0xc1, 0xff, 0xd0, 0x05], .cycle, .cycle, .cycle]

/-- It draws the same whether twenty milliseconds go by between its cycles or before them. -/
theorem cycles_ignore_ticks_drawing :
    drawing.core.timers.delay = 5 ∧
      List.Forall₂ CycleAlike (drawing.cycled [.cycle, .tick 20000000, .cycle])
        (drawing.cycled [.tick 20000000, .cycle, .cycle]) ∧
      (drawing.steps [.tick 20000000, .cycle, .cycle]).core.timers =
        (drawing.steps [.cycle, .tick 20000000, .cycle]).core.timers := by
  have hread : ∀ x, .readDelay x ∉ drawing.executedIn [.cycle, .tick 20000000, .cycle] := by
    decide +kernel
  have hset : ∀ (timer : Timer) x,
      timer.setter x ∉ drawing.executedIn [.cycle, .tick 20000000, .cycle] := by
    intro timer
    cases timer <;> decide +kernel
  obtain ⟨hcycles, htimers⟩ := cycles_ignore_ticks drawing [.cycle, .tick 20000000, .cycle]
    [.tick 20000000, .cycle, .cycle] rfl hread
  exact ⟨by decide +kernel, hcycles, htimers hset rfl⟩

end Machine

end Cosmac
