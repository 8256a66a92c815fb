import Cosmac.Proofs.FirstError
import Cosmac.Proofs.History

/-!
# Presses that are taken once

A scripted keypad holds its presses in a queue. A wait for a key takes the first of them if it succeeds,
and nothing else takes any (`presses_cycle`). So between two machines the keys that cycles have stored
(`keyStored`) are just the presses that were taken (`Delivers`). Passes, loops and calls keep this, and
what is pressed meanwhile comes after it all.

A machine that waits without a press fails and stays where it is (`Starved`). It can be asked for cycles,
time can go by, and loops can be tried, as often as one likes: no more than its timers changes
(`Stalls`). Once a key is pressed, it takes up the wait that failed.
-/

namespace Cosmac

namespace Machine

/-! ## What is done with a machine -/

/-- What is done with a machine whose keypad is scripted: presses are added, keys are held down or
released, and calls are made. -/
inductive Act
  | press (keys : List UInt8)
  | hold (key : UInt8) (down : Bool)
  | load (image : List UInt8)
  | loadFrom (source : Source)
  | cycle
  | tick (elapsed : Nat)
  | mainLoop (clock : Nat → Nat) (passes : Nat)

namespace Act

/-- The presses that an act adds. -/
def pressed : Act → List UInt8
  | press keys => keys
  | _ => []

/-- An act adds no press and loads no program. -/
def IsIdle : Act → Prop
  | press _ | load _ | loadFrom _ => False
  | _ => True

instance : DecidablePred IsIdle := fun a => by
  cases a <;> unfold IsIdle <;> infer_instance

variable {D B : Type}

/-- The call that makes an act happen on a machine. -/
def call (m : Machine D Scripted B) : Act → Call D Scripted B
  | press keys => .devices m.display (m.keypad.press keys) m.buzzer
  | hold key down => .devices m.display (m.keypad.setDown key down) m.buzzer
  | load image => .load image
  | loadFrom source => .loadFrom source
  | cycle => .cycle
  | tick elapsed => .tick elapsed
  | mainLoop clock passes => .mainLoop clock passes

end Act

/-- The calls that make some acts happen, one after the other. -/
def callsOf {D B : Type} [Display D] [Buzzer B] (m : Machine D Scripted B) :
    List Act → List (Call D Scripted B)
  | [] => []
  | a :: acts => a.call m :: (m.perform (a.call m)).callsOf acts

/-! ## The press that a cycle takes -/

section

variable {D K B : Type} [Display D] [Keypad K] (m : Machine D K B)

/-- The key that the next cycle stores, if it executes a wait for one. -/
def keyStored : Option UInt8 :=
  match m.executed with
  | some (.awaitKey x) => some (m.cycle.2.core.reg x)
  | _ => none

variable {m}

/-- A cycle that comes to no wait for a key leaves the keypad as it is. -/
theorem keypad_cycle_of_not_awaitKey (h : ∀ x, ¬ m.core.ComesTo (.awaitKey x)) :
    m.cycle.2.keypad = m.keypad := by
  rcases m.cycle_cases with hs | ⟨hs, hf | ⟨hf, hw | ⟨i, hi⟩⟩⟩
  · rw [m.cycle_of_skips hs]
    rfl
  · rw [m.cycle_of_not_canFetch hs hf]
  · rw [m.cycle_of_not_encodes hs hf hw]
    rfl
  · have hkeypad : (m.fetched.serve (m.request i)).2.keypad = m.keypadAfter i :=
      m.fetched.serve_keypad i
    rw [m.cycle_of_encodes hs hf hi, hkeypad]
    cases i with
    | awaitKey x => exact absurd ⟨hs, hf, hi⟩ (h x)
    | _ => rfl

/-- It stores no key either. -/
theorem keyStored_of_not_awaitKey (h : ∀ x, ¬ m.core.ComesTo (.awaitKey x)) : m.keyStored = none := by
  rw [keyStored]
  split
  · rename_i x hx
    exact absurd (executed_eq_some_iff.1 hx).1 (h x)
  · rfl

end

section

variable {D B : Type} [Display D] {m m' m'' : Machine D Scripted B} {x : Reg}

/-- A wait for a key takes the first press and stores it. -/
theorem cycle_of_press {key : UInt8} {rest : List UInt8} (hi : m.core.ComesTo (.awaitKey x))
    (h : m.keypad.presses = key :: rest) : m.cycle = (.ok (), { m.fetched with
      core := ({ m.core with suspended := true }.setReg x key).advance
      keypad := { m.keypad with presses := rest } }) := by
  have hrequest : m.request (.awaitKey x) =
      .await fun key => ({ m.core with suspended := true }.setReg x key).advance := rfl
  have hanswer : Keypad.waitForKey m.fetched.keypad =
      (.ok key, { m.keypad with presses := rest }) := by
    have hwait : Keypad.waitForKey m.fetched.keypad = m.keypad.waitForKey := rfl
    rw [hwait, Scripted.waitForKey, h]
  rw [cycle_of_comesTo hi, hrequest, serve, hanswer]
  rfl

/-- Such a wait is executed, and the press is the key that it stores. -/
theorem keyStored_of_press {key : UInt8} {rest : List UInt8} (hi : m.core.ComesTo (.awaitKey x))
    (h : m.keypad.presses = key :: rest) :
    m.executed = some (.awaitKey x) ∧ m.keyStored = some key := by
  have hcycle := cycle_of_press hi h
  have hsome : m.executed = some (.awaitKey x) :=
    executed_eq_some_iff.2 ⟨hi, congrArg Prod.fst hcycle⟩
  have hreg : m.cycle.2.core.reg x = key := by
    rw [hcycle]
    exact m.core.registers.reg_setReg_self x key
  exact ⟨hsome, by rw [keyStored, hsome, ← hreg]⟩

/-- Without a press it fails, and neither the core nor the keypad changes. -/
theorem cycle_of_no_press (hi : m.core.ComesTo (.awaitKey x)) (h : m.keypad.presses = []) :
    m.cycle = (.error (.device Scripted.ranDry), m.fetched) := by
  have hanswer : Keypad.waitForKey m.keypad = (.error Scripted.ranDry, m.keypad) := by
    have hwait : Keypad.waitForKey m.keypad = m.keypad.waitForKey := rfl
    rw [hwait, Scripted.waitForKey, h]
  exact cycle_of_waitForKey_error hi hanswer

/-- A cycle takes the press that it stores from the front of the queue, and no other. -/
theorem presses_cycle (m : Machine D Scripted B) :
    m.keypad.presses = m.keyStored.toList ++ m.cycle.2.keypad.presses := by
  -- No other instruction than a wait for a key takes a press.
  by_cases hi : ∃ x, m.core.ComesTo (.awaitKey x)
  · obtain ⟨x, hi⟩ := hi
    rcases hpresses : m.keypad.presses with _ | ⟨key, rest⟩
    · have hcycle := cycle_of_no_press hi hpresses
      have hnone : m.executed = none := by
        rw [executed, hi.skips, hcycle]
        rfl
      have hstored : m.keyStored = none := by rw [keyStored, hnone]
      rw [hstored, hcycle]
      exact hpresses.symm
    · obtain ⟨-, hstored⟩ := keyStored_of_press hi hpresses
      rw [hstored, cycle_of_press hi hpresses]
      rfl
  · have hnone : ∀ x, ¬ m.core.ComesTo (.awaitKey x) := not_exists.1 hi
    rw [keyStored_of_not_awaitKey hnone, keypad_cycle_of_not_awaitKey hnone]
    rfl

/-! ## The presses that cycles take -/

/-- The cycles called on the machines of a list have stored the presses that were taken between one
machine and another, each of them once and in order. -/
def Delivers (before : Machine D Scripted B) (history : List (Machine D Scripted B))
    (after : Machine D Scripted B) : Prop :=
  before.keypad.presses = history.filterMap keyStored ++ after.keypad.presses

namespace Delivers

variable {history history' : List (Machine D Scripted B)}

/-- Without a cycle no press is taken. -/
theorem of_presses_eq (h : m'.keypad.presses = m.keypad.presses) : Delivers m [] m' := h.symm

/-- One cycle takes the press that it stores. -/
theorem single (m : Machine D Scripted B) : Delivers m [m] m.cycle.2 := by
  have hhistory : [m].filterMap keyStored = m.keyStored.toList := by
    rw [List.filterMap_cons]
    cases m.keyStored <;> rfl
  rw [Delivers, hhistory]
  exact m.presses_cycle

/-- What was taken on two ways was taken on the two as one. -/
theorem trans (h : Delivers m history m') (h' : Delivers m' history' m'') :
    Delivers m (history ++ history') m'' := by
  rw [Delivers, List.filterMap_append, List.append_assoc, ← h']
  exact h

/-- Whatever takes no press may come before. -/
theorem of_eq_before (heq : m'.keypad.presses = m.keypad.presses) (h : Delivers m' history m'') :
    Delivers m history m'' := by
  rw [Delivers, ← heq]
  exact h

end Delivers

end

end Machine

namespace Loop

variable {D B : Type} [Display D] [Buzzer B] (l : Loop D Scripted B)

/-- Up to its cycle a pass takes no press: the tick does not ask the keypad, and a poll only counts. -/
theorem presses_polled (now : Nat) :
    (l.polled now).keypad.presses = l.machine.keypad.presses := by
  have hpoll : (l.polled now).keypad.presses = (l.ticked now).keypad.presses := rfl
  rw [hpoll, l.ticked_keypad]

/-- A pass takes the press that its cycle stores. -/
theorem begin_delivers (now : Nat) :
    l.machine.Delivers (l.cycling now) (l.begin now).2.machine := by
  have hpolled := l.presses_polled now
  rcases l.begin_cases now with ⟨f, ht⟩ | ⟨ticks, e, ht, hp⟩ | ⟨hcomes, ⟨f, hc⟩ | hc⟩
  · have hnone : l.cycling now = [] := by rw [cycling, ht]
    rw [hnone, l.begin_of_tick_error now ht]
    exact .of_presses_eq hpolled
  · cases hp
  · rw [l.cycling_of_comesToCycle hcomes, l.begin_of_cycle_error now hcomes hc]
    exact .of_eq_before hpolled (.single _)
  · obtain ⟨_, _, _, hframe⟩ := (l.polled now).cycle.2.updateBuzzer_frame
    rw [l.cycling_of_comesToCycle hcomes, l.begin_of_cycle_ok now hcomes hc, hframe]
    exact .of_eq_before hpolled (.single _)

/-- A loop takes the presses that its cycles store. -/
theorem run_delivers (clock : Nat → Nat) (n k : Nat) :
    l.machine.Delivers (l.cycled clock n k) (l.run clock n k).2.machine :=
  run_accounts clock (fun _ => .of_presses_eq rfl) (fun h h' => h.trans h')
    (fun l now => l.begin_delivers now)
    (fun l k => .of_presses_eq (congrArg Scripted.presses (keypad_finish clock k l))) n k l

end Loop

namespace Machine

variable {D B : Type} [Display D] [Buzzer B] (m : Machine D Scripted B)

/-- So does a loop that is left. -/
theorem mainLoop_delivers (clock : Nat → Nat) (passes : Nat) :
    m.Delivers ((m.enterLoop (clock 0)).cycled clock passes 1) (m.mainLoop clock passes).2 := by
  have hrun := (m.enterLoop (clock 0)).run_delivers clock passes 1
  obtain ⟨_, _, hframe⟩ := m.mainLoop_frame clock passes
  rw [hframe]
  exact hrun

/-- An act adds its presses at the end of the queue, and its cycles take the ones that they store from
the front. -/
theorem presses_act (a : Act) : m.keypad.presses ++ a.pressed =
    (m.cycledBy (a.call m)).filterMap keyStored ++ (m.perform (a.call m)).keypad.presses := by
  cases a with
  | press keys => rfl
  -- No other act adds a press.
  | hold key down | load image => exact List.append_nil _
  | loadFrom source =>
    have hkeypad : (m.loadFrom source).2.keypad = m.keypad := by
      rw [loadFrom]
      split <;> rfl
    exact (List.append_nil _).trans (congrArg Scripted.presses hkeypad).symm
  | tick elapsed =>
    obtain ⟨_, _, _, hframe⟩ := m.tick_frame elapsed
    have hkeypad : (m.tick elapsed).2.keypad = m.keypad := by rw [hframe]
    exact (List.append_nil _).trans (congrArg Scripted.presses hkeypad).symm
  | cycle => exact (List.append_nil _).trans (Delivers.single m)
  | mainLoop clock passes => exact (List.append_nil _).trans (m.mainLoop_delivers clock passes)

/-- The presses that were there and those that are added are stored one by one, and the others wait. -/
theorem presses_acts (acts : List Act) : m.keypad.presses ++ acts.flatMap Act.pressed =
    (m.history (m.callsOf acts)).filterMap keyStored ++
      (m.performAll (m.callsOf acts)).keypad.presses := by
  induction acts generalizing m with
  | nil => exact List.append_nil _
  | cons a acts ih =>
    rw [List.flatMap_cons, ← List.append_assoc, m.presses_act a, List.append_assoc, ih, callsOf, history,
      List.filterMap_append, List.append_assoc]
    rfl

end Machine

/-! ## A wait without a press -/

namespace Machine

section

variable {D B : Type} {m m' m'' : Machine D Scripted B} {x : Reg}

/-- From one machine to another no more of the core has changed than the timers, and no press has come
or gone. -/
structure Stalls (before after : Machine D Scripted B) : Prop where
  core : ∃ timers, after.core = { before.core with timers := timers }
  presses : after.keypad.presses = before.keypad.presses

/-- The next cycle comes to a wait for a key, and no press is there. -/
structure Starved (m : Machine D Scripted B) (x : Reg) : Prop where
  comesTo : m.core.ComesTo (.awaitKey x)
  presses : m.keypad.presses = []

namespace Stalls

theorem of_core_eq (hcore : m'.core = m.core) (hpresses : m'.keypad.presses = m.keypad.presses) :
    Stalls m m' := ⟨⟨_, hcore⟩, hpresses⟩

theorem trans (h : Stalls m m') (h' : Stalls m' m'') : Stalls m m'' := by
  obtain ⟨_, hcore⟩ := h.core
  obtain ⟨_, hcore'⟩ := h'.core
  rw [hcore] at hcore'
  exact ⟨⟨_, hcore'⟩, h'.presses.trans h.presses⟩

/-- The timers have no say in what a core comes to. -/
theorem comesTo {i : Instruction} (h : Stalls m m') (hi : m.core.ComesTo i) : m'.core.ComesTo i := by
  obtain ⟨_, hcore⟩ := h.core
  rw [hcore]
  exact ⟨hi.skips, hi.canFetch, hi.encodes⟩

theorem starved (h : Stalls m m') (hm : Starved m x) : Starved m' x :=
  ⟨h.comesTo hm.comesTo, h.presses.trans hm.presses⟩

end Stalls

/-- The cycle of a machine that waits without a press fails, and the machine stays where it is. -/
theorem Starved.cycle_eq [Display D] (h : Starved m x) :
    m.cycle = (.error (.device Scripted.ranDry), m.fetched) :=
  cycle_of_no_press h.comesTo h.presses

theorem Starved.stalls_cycle [Display D] (h : Starved m x) : Stalls m m.cycle.2 := by
  rw [h.cycle_eq]
  exact .of_core_eq rfl rfl

/-- Nothing happens to the keypad in a tick, and to the core no more than that its timers change. -/
theorem stalls_tick [Display D] [Buzzer B] (m : Machine D Scripted B) (elapsed : Nat) :
    Stalls m (m.tick elapsed).2 := by
  obtain ⟨_, _, _, hframe⟩ := m.tick_frame elapsed
  rw [hframe]
  exact ⟨⟨_, rfl⟩, rfl⟩

end

end Machine

namespace Loop

variable {D B : Type} [Display D] [Buzzer B] {l : Loop D Scripted B} {x : Reg}

theorem stalls_polled (l : Loop D Scripted B) (now : Nat) : l.machine.Stalls (l.polled now) :=
  (l.machine.stalls_tick (now - l.last)).trans (.of_core_eq rfl rfl)

/-- A pass of a machine that waits without a press fails, at its cycle or before. -/
theorem begin_of_starved (h : l.machine.Starved x) (now : Nat) : ∃ f l',
    l.begin now = (.error f, l') ∧ l.machine.Stalls l'.machine ∧
      ∀ m ∈ l.cycling now, m.Starved x := by
  have hpolled : (l.polled now).Starved x := (l.stalls_polled now).starved h
  rcases l.begin_cases now with ⟨f, ht⟩ | ⟨ticks, e, ht, hp⟩ | ⟨hcomes, -⟩
  · have hnone : l.cycling now = [] := by rw [cycling, ht]
    rw [hnone, l.begin_of_tick_error now ht]
    exact ⟨_, _, rfl, l.machine.stalls_tick _, List.forall_mem_nil _⟩
  · cases hp
  · have hfails : (l.polled now).cycle.1 = .error (.device Scripted.ranDry) := by rw [hpolled.cycle_eq]
    rw [l.cycling_of_comesToCycle hcomes, l.begin_of_cycle_error now hcomes hfails]
    exact ⟨_, _, rfl, (l.stalls_polled now).trans hpolled.stalls_cycle,
      List.forall_mem_singleton.2 hpolled⟩

/-- A loop of such a machine has one pass at most, and the machine stays where it is. -/
theorem run_of_starved (h : l.machine.Starved x) (clock : Nat → Nat) (n k : Nat) :
    l.machine.Stalls (l.run clock n k).2.machine ∧ ∀ m ∈ l.cycled clock n k, m.Starved x := by
  cases n with
  | zero => exact ⟨.of_core_eq rfl rfl, List.forall_mem_nil _⟩
  | succ n =>
    rcases hover : l.isOver with _ | _
    · obtain ⟨f, l', hbegin, hstalls, hcycling⟩ := begin_of_starved h (clock k)
      rw [cycled, run_of_begin_error hover hbegin, hover, if_neg Bool.false_ne_true, hbegin,
        List.append_nil]
      exact ⟨hstalls, hcycling⟩
    · rw [cycled, run_of_isOver hover, if_pos hover]
      exact ⟨.of_core_eq rfl rfl, List.forall_mem_nil _⟩

end Loop

namespace Machine

variable {D B : Type} [Display D] [Buzzer B] {m : Machine D Scripted B} {x : Reg}

namespace Starved

/-- A machine that waits without a press stays where it is in a loop that is left. -/
theorem mainLoop (h : Starved m x) (clock : Nat → Nat) (passes : Nat) :
    Stalls m (m.mainLoop clock passes).2 ∧
      ∀ m' ∈ (m.enterLoop (clock 0)).cycled clock passes 1, Starved m' x := by
  have henter : Stalls m (m.enterLoop (clock 0)).machine := .of_core_eq rfl rfl
  obtain ⟨hstays, hcycled⟩ := Loop.run_of_starved (henter.starved h) clock passes 1
  obtain ⟨_, _, hframe⟩ := m.mainLoop_frame clock passes
  rw [hframe]
  exact ⟨(henter.trans hstays).trans (.of_core_eq rfl rfl), hcycled⟩

/-- It stays there whatever is done that adds no press and loads no program. -/
theorem perform (h : Starved m x) {a : Act} (ha : a.IsIdle) :
    Stalls m (m.perform (a.call m)) ∧ ∀ m' ∈ m.cycledBy (a.call m), Starved m' x := by
  cases a with
  | press keys | load image | loadFrom source => exact ha.elim
  | hold key down => exact ⟨.of_core_eq rfl rfl, List.forall_mem_nil _⟩
  | cycle => exact ⟨h.stalls_cycle, List.forall_mem_singleton.2 h⟩
  | tick elapsed => exact ⟨m.stalls_tick elapsed, List.forall_mem_nil _⟩
  | mainLoop clock passes => exact h.mainLoop clock passes

/-- As often as one likes. -/
theorem performAll (h : Starved m x) {acts : List Act} (hacts : ∀ a ∈ acts, a.IsIdle) :
    Stalls m (m.performAll (m.callsOf acts)) ∧ ∀ m' ∈ m.history (m.callsOf acts), Starved m' x := by
  induction acts generalizing m with
  | nil => exact ⟨.of_core_eq rfl rfl, List.forall_mem_nil _⟩
  | cons a acts ih =>
    obtain ⟨ha, hacts⟩ := List.forall_mem_cons.1 hacts
    obtain ⟨hfirst, hcycled⟩ := h.perform ha
    obtain ⟨hrest, hhistory⟩ := ih (hfirst.starved h) hacts
    exact ⟨hfirst.trans hrest, List.forall_mem_append.2 ⟨hcycled, hhistory⟩⟩

end Starved

/-! ## No press is lost or repeated -/

/-- Each press is taken once. Whatever is done with a machine, failures included, the cycles of its
history and nothing else lead to where it is, and the keys that they have stored, in order, and then the
presses that still wait are all the presses that were there or have been added, in order. A wait for a
key without a press fails and leaves the core as it is. It can be tried again in cycles and in loops
while time goes by, and fails each time, until a press is added; then the next cycle takes it up with the
first key. A wait that is stepped over takes no press. -/
theorem each_press_is_taken_once (m : Machine D Scripted B) :
    (∀ acts : List Act,
      m.Through (m.history (m.callsOf acts)) (m.performAll (m.callsOf acts)) ∧
      m.keypad.presses ++ acts.flatMap Act.pressed =
        (m.history (m.callsOf acts)).filterMap keyStored ++
          (m.performAll (m.callsOf acts)).keypad.presses) ∧
    (∀ x, m.core.ComesTo (.awaitKey x) → m.keypad.presses = [] →
      m.cycle.1 = .error (.device ⟨.endOfInput, "no more key presses"⟩) ∧
      m.cycle.2.core = m.core ∧ m.cycle.2.keypad = m.keypad ∧
      ∀ acts : List Act, (∀ a ∈ acts, a.IsIdle) →
        let waiting := m.cycle.2.performAll (m.cycle.2.callsOf acts)
        (∀ m' ∈ m.cycle.2.history (m.cycle.2.callsOf acts), m'.cycle.1 = m.cycle.1) ∧
        (∃ timers, waiting.core = { m.core with timers := timers }) ∧
        ∀ key rest,
          let pressed := { waiting with keypad := waiting.keypad.press (key :: rest) }
          pressed.executed = some (.awaitKey x) ∧ pressed.keyStored = some key ∧
          pressed.cycle.2.core = ({ waiting.core with suspended := true }.setReg x key).advance ∧
          pressed.cycle.2.keypad.presses = rest) ∧
    (0 < m.core.skips →
      m.cycle.1 = .ok () ∧ m.cycle.2.keypad = m.keypad ∧ m.keyStored = none) := by
  refine ⟨fun acts => ⟨m.performAll_through _, m.presses_acts acts⟩, fun x hcomes hpresses => ?_,
    fun hskips => ?_⟩
  · -- The machine is starved before the first wait, and still is when a press is added at last.
    have h : Starved m x := ⟨hcomes, hpresses⟩
    have hcycle := h.cycle_eq
    refine ⟨by rw [hcycle]; rfl, by rw [hcycle]; rfl, by rw [hcycle]; rfl, fun acts hacts => ?_⟩
    intro waiting
    obtain ⟨hstalls, hhistory⟩ := (h.stalls_cycle.starved h).performAll hacts
    have hwaiting := h.stalls_cycle.trans hstalls
    refine ⟨fun m' hm' => ?_, hwaiting.core, fun key rest => ?_⟩
    · rw [(hhistory m' hm').cycle_eq, hcycle]
    · intro pressed
      have hqueue : pressed.keypad.presses = key :: rest :=
        congrArg (· ++ key :: rest) (hwaiting.starved h).presses
      have hagain : pressed.core.ComesTo (.awaitKey x) := hwaiting.comesTo hcomes
      obtain ⟨hexecuted, hstored⟩ := keyStored_of_press hagain hqueue
      refine ⟨hexecuted, hstored, ?_, ?_⟩ <;> rw [cycle_of_press hagain hqueue]
  · have hnone : ∀ x, ¬ m.core.ComesTo (.awaitKey x) := fun x hi => absurd hi.skips (by omega)
    rw [keyStored_of_not_awaitKey hnone, keypad_cycle_of_not_awaitKey hnone, m.cycle_of_skips hskips]
    exact ⟨rfl, rfl, rfl⟩

/-- A machine about to wait for a key. If that is 5 it is going to step over another wait, and there are
three more after that. -/
def asking : Machine Headless Scripted Silent :=
  headless.performAll
    [.load [0xf1, 0x0a, 0x31, 0x05, 0xf2, 0x0a, 0xf3, 0x0a, 0xf4, 0x0a, 0xf5, 0x0a]]

/-- What is done with it: the first wait fails and is tried again, the second one is stepped over, and
the last one fails in a loop. -/
def questions : List Act :=
  [.cycle, .tick 20000000, .press [5, 6], .cycle, .cycle, .cycle, .press [9],
    .mainLoop (fun _ => 0) 3, .press [10, 11], .cycle]

/-- Four of the five presses are stored, and one is left. The first wait stores the first press however
often it has failed, and the second wait leaves the queue alone. -/
theorem each_press_is_taken_once_asking :
    let stepping := asking.performAll (asking.callsOf [.press [5, 6], .cycle, .cycle])
    let retried := asking.cycle.2.performAll
      (asking.cycle.2.callsOf [.mainLoop (fun _ => 0) 3, .tick 20000000, .hold 5 true, .cycle])
    asking.core.ComesTo (.awaitKey 1) ∧ asking.keypad.presses = [] ∧
      asking.cycle.1 = .error (.device ⟨.endOfInput, "no more key presses"⟩) ∧
      { retried with keypad := retried.keypad.press [5, 6] }.keyStored = some 5 ∧
      [5, 6, 9, 10, 11] = (asking.history (asking.callsOf questions)).filterMap keyStored ++
        (asking.performAll (asking.callsOf questions)).keypad.presses ∧
      (asking.performAll (asking.callsOf questions)).keypad.presses = [11] ∧
      0 < stepping.core.skips ∧ stepping.cycle.2.keypad = stepping.keypad := by
  intro stepping retried
  have hword : asking.core.skips = 0 ∧ asking.core.CanFetch ∧ asking.core.word = 0xf10a := by
    decide +kernel
  have hcomes : asking.core.ComesTo (.awaitKey 1) := Core.comesTo_of_word hword rfl
  have hskips : 0 < stepping.core.skips := by decide +kernel
  have hidle : ∀ a ∈ [Act.mainLoop (fun _ => 0) 3, .tick 20000000, .hold 5 true, .cycle], a.IsIdle := by
    decide
  obtain ⟨htaken, hwaits, -⟩ := each_press_is_taken_once asking
  obtain ⟨hfails, -, -, hretry⟩ := hwaits 1 hcomes rfl
  obtain ⟨-, -, hpressed⟩ := hretry _ hidle
  obtain ⟨-, hstored, -⟩ := hpressed 5 [6]
  obtain ⟨-, -, hspares⟩ := each_press_is_taken_once stepping
  obtain ⟨-, hkeypad, -⟩ := hspares hskips
  exact ⟨hcomes, rfl, hfails, hstored, (htaken questions).2, by decide +kernel, hskips, hkeypad⟩

end Machine

end Cosmac
