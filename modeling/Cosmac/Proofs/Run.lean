import Cosmac.Machine.Loop
import Cosmac.Proofs.Failure
import Mathlib.Logic.Relation

/-!
# Runs

A machine is run from outside by calls: programs are loaded, cycles and ticks are asked for one by
one, or a loop does both (`Machine.Call`). Any call may fail, and the calls after it go on from what
it left behind.

Whatever the calls are, a core changes in five ways only (`Core.Change`), and what holds of a core at
first and is kept by these five holds of it for ever. `performAll_follows` says so of every list of
calls, from one lemma for each operation. Only the loop needs an induction, over its passes.
-/

namespace Cosmac

/-- One change of a core: a program is loaded, an instruction is stepped over, an instruction is
executed and granted, time goes by, or the loop takes note of a wait for a key. -/
inductive Core.Change (skipOnKeyUp : Bool) (c : Core) : Core → Prop
  | load (image : List UInt8) : Change skipOnKeyUp c { c with memory := c.memory.load image }
  | stepOver (hs : 0 < c.skips) : Change skipOnKeyUp c c.stepOver
  | execute {c' : Core} (i : Instruction) (hs : c.skips = 0) (hf : c.CanFetch)
      (hi : i.Encodes c.word) (h : (c.execute skipOnKeyUp i).Yields c') : Change skipOnKeyUp c c'
  | advance (elapsed : Nat) :
      Change skipOnKeyUp c { c with timers := (c.timers.advance elapsed).2 }
  | resume : Change skipOnKeyUp c c.resume

namespace Machine

variable {D K B : Type}

/-! ## What one machine leaves to the next -/

/-- The machine `after` can come after `before`: it is set up in the same way, and its core has gone
through some changes. -/
structure Follows (before after : Machine D K B) : Prop where
  config : after.config = before.config
  core : Relation.ReflTransGen (Core.Change before.config.skipOnKeyUp) before.core after.core

namespace Follows

variable {m m' m'' : Machine D K B}

theorem of_core_eq (hconfig : m'.config = m.config) (hcore : m'.core = m.core) : Follows m m' :=
  ⟨hconfig, hcore ▸ .refl⟩

theorem of_change (hconfig : m'.config = m.config)
    (hcore : Core.Change m.config.skipOnKeyUp m.core m'.core) : Follows m m' :=
  ⟨hconfig, .single hcore⟩

theorem trans (h : Follows m m') (h' : Follows m' m'') : Follows m m'' := by
  refine ⟨h'.config.trans h.config, h.core.trans ?_⟩
  rw [← h.config]
  exact h'.core

end Follows

/-! ## The operations one by one -/

section

variable (m : Machine D K B)

theorem load_follows (image : List UInt8) : Follows m (m.load image).2 :=
  .of_change rfl (.load image)

theorem loadFrom_follows (source : Source) : Follows m (m.loadFrom source).2 := by
  rw [loadFrom]
  split
  · exact .of_core_eq rfl rfl
  · exact m.load_follows _

theorem cycle_follows [Display D] [Keypad K] : Follows m m.cycle.2 := by
  rcases hr : m.cycle.1 with f | _
  · have hspares := m.cycle_spares hr
    exact .of_core_eq hspares.config hspares.core
  · rcases Nat.eq_zero_or_pos m.core.skips with hs | hs
    · obtain ⟨hf, i, hi⟩ := m.exists_encodes_of_cycle_ok hs hr
      have hconfig : m.cycle.2.config = m.config := by
        obtain ⟨_, _, _, _, hframe⟩ := m.cycle_frame
        rw [hframe]
      exact .of_change hconfig (.execute i hs hf hi (m.cycle_yields hs hf hi hr))
    · rw [m.cycle_of_skips hs]
      exact .of_change rfl (.stepOver hs)

/-- A call of the buzzer reaches the buzzer, the note whether it is in use, and the log. -/
theorem callBuzzer_frame (call : B → Reply String Unit B) : ∃ buzzer on log,
    m.callBuzzer call = { m with buzzer := buzzer, buzzerOn := on, log := log } := by
  rw [callBuzzer]
  split <;> exact ⟨_, _, _, rfl⟩

/-- Looking after the buzzer reaches no more than a call of it. -/
theorem updateBuzzer_frame [Buzzer B] : ∃ buzzer on log,
    m.updateBuzzer = { m with buzzer := buzzer, buzzerOn := on, log := log } := by
  rw [updateBuzzer]
  split_ifs
  · split
    · exact m.callBuzzer_frame _
    · exact m.callBuzzer_frame _
    · exact ⟨_, _, _, rfl⟩
  · exact ⟨_, _, _, rfl⟩

theorem updateBuzzer_follows [Buzzer B] : Follows m m.updateBuzzer := by
  obtain ⟨buzzer, on, log, h⟩ := m.updateBuzzer_frame
  rw [h]
  exact .of_core_eq rfl rfl

theorem advanceTimers_follows (elapsed : Nat) : Follows m (m.advanceTimers elapsed).2 :=
  .of_change rfl (.advance elapsed)

theorem tick_follows [Display D] [Buzzer B] (elapsed : Nat) : Follows m (m.tick elapsed).2 := by
  have htimers := m.advanceTimers_follows elapsed
  rw [tick]
  generalize m.advanceTimers elapsed = advanced at htimers ⊢
  obtain ⟨ticks, m'⟩ := advanced
  dsimp only at htimers ⊢
  split_ifs
  · split
    · rename_i display _
      have hshown : Follows m' { m' with display := display } := .of_core_eq rfl rfl
      exact (htimers.trans hshown).trans (updateBuzzer_follows _)
    · exact htimers.trans (.of_core_eq rfl rfl)
  · exact htimers.trans m'.updateBuzzer_follows

end

end Machine

/-! ## The loop -/

namespace Loop

variable {D K B : Type} (l : Loop D K B)

theorem begin_follows [Display D] [Keypad K] [Buzzer B] (now : Nat) :
    l.machine.Follows (l.begin now).2.machine := by
  -- A pass ends at the tick, at the poll or at the cycle, or it goes on to the buzzer.
  have htick := l.machine.tick_follows (now - l.last)
  rw [begin]
  split
  · rename_i f m ht
    rw [ht] at htick
    exact htick
  · rename_i ticks m ht
    rw [ht] at htick
    split
    · exact htick.trans (.of_core_eq rfl rfl)
    · rename_i keypad _
      have hpolled : m.Follows { m with keypad := keypad } := .of_core_eq rfl rfl
      have hcycle := ({ m with keypad := keypad } : Machine D K B).cycle_follows
      split
      · rename_i f m' hc
        rw [hc] at hcycle
        exact (htick.trans hpolled).trans hcycle
      · rename_i m' hc
        rw [hc] at hcycle
        exact ((htick.trans hpolled).trans hcycle).trans m'.updateBuzzer_follows

theorem rest_follows (resumed now : Nat) : l.machine.Follows (l.rest resumed now).machine := by
  have hmachine : (l.rest resumed now).machine = (l.resume resumed).machine := rfl
  rw [hmachine, resume]
  split_ifs
  · exact .of_change rfl .resume
  · exact .of_core_eq rfl rfl

theorem run_follows [Display D] [Keypad K] [Buzzer B] (clock : Nat → Nat) (n k : Nat) :
    l.machine.Follows (l.run clock n k).2.machine := by
  induction n generalizing l k with
  | zero => exact .of_core_eq rfl rfl
  | succ n ih =>
    have hbegin := l.begin_follows (clock k)
    rw [run]
    split_ifs
    · exact .of_core_eq rfl rfl
    · split
      · rename_i f l' hl
        rw [hl] at hbegin
        exact hbegin
      · rename_i l' hl
        rw [hl] at hbegin
        -- A wait for a key takes one more reading of the clock, and that is all.
        split_ifs
        · exact (hbegin.trans (l'.rest_follows _ _)).trans (ih _ _)
        · exact (hbegin.trans (l'.rest_follows _ _)).trans (ih _ _)

end Loop

namespace Machine

variable {D K B : Type} (m : Machine D K B)

theorem leaveLoop_follows [Buzzer B] (result : Except Fault Unit) :
    Follows m (m.leaveLoop result).2 := by
  rw [leaveLoop]
  split_ifs
  · split <;> exact .of_core_eq rfl rfl
  · exact .of_core_eq rfl rfl

theorem mainLoop_follows [Display D] [Keypad K] [Buzzer B] (clock : Nat → Nat) (passes : Nat) :
    Follows m (m.mainLoop clock passes).2 := by
  have henter : Follows m (m.enterLoop (clock 0)).machine := .of_core_eq rfl rfl
  have hrun := henter.trans ((m.enterLoop (clock 0)).run_follows clock passes 1)
  rw [mainLoop]
  split
  · rename_i l hl
    rw [hl] at hrun
    exact hrun
  · rename_i result l hl
    rw [hl] at hrun
    exact hrun.trans (l.machine.leaveLoop_follows result)

/-- A machine that could be put together has a fresh core. -/
theorem boot_eq_ok [Display D] {config : Config} {entropy : Random.Key} {display : D} {keypad : K}
    {buzzer : B} {m : Machine D K B} (h : boot config entropy display keypad buzzer = .ok m) :
    ∃ shown, m = { config, core := Core.fresh config entropy, display := shown, keypad, buzzer } := by
  rw [boot] at h
  split at h
  · cases h
  · split at h
    · cases h
    · cases h
      exact ⟨_, rfl⟩

/-! ## Calls in any order -/

/-- What can be asked of a machine from outside. Between two calls the devices may change by
themselves. -/
inductive Call (D K B : Type)
  | load (image : List UInt8)
  | loadFrom (source : Source)
  | cycle
  | tick (elapsed : Nat)
  | mainLoop (clock : Nat → Nat) (passes : Nat)
  | devices (display : D) (keypad : K) (buzzer : B)

variable [Display D] [Keypad K] [Buzzer B]

/-- The machine after a call, whether the call succeeded or not. -/
def perform (m : Machine D K B) : Call D K B → Machine D K B
  | .load image => (m.load image).2
  | .loadFrom source => (m.loadFrom source).2
  | .cycle => m.cycle.2
  | .tick elapsed => (m.tick elapsed).2
  | .mainLoop clock passes => (m.mainLoop clock passes).2
  | .devices display keypad buzzer =>
    { m with display := display, keypad := keypad, buzzer := buzzer }

/-- The machine after some calls, one after the other. -/
def performAll (m : Machine D K B) (calls : List (Call D K B)) : Machine D K B :=
  calls.foldl perform m

theorem perform_follows (call : Call D K B) : Follows m (m.perform call) := by
  cases call with
  | load image => exact m.load_follows image
  | loadFrom source => exact m.loadFrom_follows source
  | cycle => exact m.cycle_follows
  | tick elapsed => exact m.tick_follows elapsed
  | mainLoop clock passes => exact m.mainLoop_follows clock passes
  | devices display keypad buzzer => exact .of_core_eq rfl rfl

/-- Any calls in any order come down to changes of the core. -/
theorem performAll_follows (calls : List (Call D K B)) : Follows m (m.performAll calls) := by
  induction calls generalizing m with
  | nil => exact .of_core_eq rfl rfl
  | cons call calls ih => exact (m.perform_follows call).trans (ih (m.perform call))

/-- The machines that come of a fresh one, whatever it is made with, by calls in any order. -/
def Reached (m : Machine D K B) : Prop :=
  ∃ (config : Config) (entropy : Random.Key) (display : D) (keypad : K) (buzzer : B)
    (booted : Machine D K B) (calls : List (Call D K B)),
    boot config entropy display keypad buzzer = .ok booted ∧ booted.performAll calls = m

/-- The core of a machine that was reached has come of a fresh one by changes. -/
theorem Reached.changes {m : Machine D K B} (h : m.Reached) : ∃ entropy : Random.Key,
    Relation.ReflTransGen (Core.Change m.config.skipOnKeyUp) (Core.fresh m.config entropy)
      m.core := by
  obtain ⟨config, entropy, display, keypad, buzzer, booted, calls, hboot, rfl⟩ := h
  have hfollows := booted.performAll_follows calls
  obtain ⟨shown, hbooted⟩ := boot_eq_ok hboot
  have hconfig : booted.config = config := by rw [hbooted]
  have hfresh : booted.core = Core.fresh config entropy := by rw [hbooted]
  have hchanges := hfollows.core
  rw [hfresh, hconfig] at hchanges
  rw [hfollows.config, hconfig]
  exact ⟨entropy, hchanges⟩

end Machine

end Cosmac
