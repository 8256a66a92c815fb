import Cosmac.Device.Monitored
import Cosmac.Proofs.Passes
import Cosmac.Proofs.Steps

/-!
# A machine without its buzzer

A machine can be muted: its buzzer is taken away, and the log no longer tells of it (`Machine.muted`).
Whatever the buzzer did, the muted machine does the same. A cycle and a tick have the same result and
leave the muted machine (`cycle_muted`, `tick_muted`), and so does every pass of a loop (`begin_muted`,
`finish_muted`) and with it the loop up to its end (`run_muted`).

So a buzzer has no say. Machines that are the same when muted stay so through any calls, and answer each
of them in the same way, whatever buzzers they have (`buzzer_has_no_say`). Only the end of a loop is left
out of this: there the buzzer is stopped, and the result may be its own.
-/

namespace Cosmac

/-- The notices that a machine gives whatever its buzzer does. That a loop has ended is not among them,
since it is not noted when the buzzer cannot be stopped. -/
def Notice.isCommon : Notice → Bool
  | .stopped _ | .buzzerLost _ => false
  | _ => true

/-- The notices about a load are common. -/
theorem Memory.isCommon_of_mem_loadNotices {image : List UInt8} {n : Notice}
    (h : n ∈ Memory.loadNotices image) : n.isCommon = true := by
  unfold Memory.loadNotices at h
  split_ifs at h
  · rw [List.mem_singleton.1 h]
    rfl
  · cases h

/-- The notice about ticks of the timers is common. -/
theorem Timers.isCommon_of_mem_tickNotices {t : Timers} {ticks : Nat} {n : Notice}
    (h : n ∈ t.tickNotices ticks) : n.isCommon = true := by
  unfold Timers.tickNotices at h
  split_ifs at h
  · rw [List.mem_singleton.1 h]
    rfl
  · cases h

namespace Machine

variable {D K B B' : Type}

/-- The machine without its buzzer: one that makes no sound stands in for it and is not in use, and the
log tells only what it would with any buzzer. -/
def muted (m : Machine D K B) : Machine D K Silent where
  config := m.config
  core := m.core
  display := m.display
  keypad := m.keypad
  buzzer := {}
  buzzerOn := false
  cycles := m.cycles
  log := m.log.filter Notice.isCommon

section

variable (m : Machine D K B)

/-- Muting a machine twice is muting it once. -/
theorem muted_muted : m.muted.muted = m.muted := by
  have hlog : (m.log.filter Notice.isCommon).filter Notice.isCommon =
      m.log.filter Notice.isCommon := by
    rw [List.filter_filter]
    simp only [Bool.and_self]
  exact congrArg (fun log => { m.muted with log := log }) hlog

/-- Common notices are kept when a machine is muted. -/
theorem noteAll_muted {notices : List Notice} (h : ∀ n ∈ notices, n.isCommon = true) :
    m.muted.noteAll notices = (m.noteAll notices).muted := by
  have hkept : notices.reverse.filter Notice.isCommon = notices.reverse :=
    List.filter_eq_self.2 fun n hn => h n (List.mem_reverse.1 hn)
  have hlog : notices.reverse ++ m.log.filter Notice.isCommon =
      (notices.reverse ++ m.log).filter Notice.isCommon := by
    rw [List.filter_append, hkept]
  exact congrArg (fun log => { m.muted with log := log }) hlog

theorem load_muted (image : List UInt8) :
    m.muted.load image = ((m.load image).1, (m.load image).2.muted) := by
  let loaded : Machine D K B := { m with core := { m.core with memory := m.core.memory.load image } }
  have hnoted : loaded.muted.noteAll (Memory.loadNotices image) = _ :=
    loaded.noteAll_muted fun _ => Memory.isCommon_of_mem_loadNotices
  exact congrArg (fun after => (_, after.note (.loaded (Memory.loadedLength image)))) hnoted

theorem loadFrom_muted (source : Source) :
    m.muted.loadFrom source = ((m.loadFrom source).1, (m.loadFrom source).2.muted) := by
  rw [loadFrom, loadFrom]
  rcases source.readAll with e | image
  · rfl
  · dsimp only
    rw [m.load_muted]

/-! ## Cycles -/

section

variable [Display D] [Keypad K]

theorem serve_muted (r : Request) :
    m.muted.serve r = ((m.serve r).1, (m.serve r).2.muted) := by
  cases r with
  | done next | fault cause | sense key next => rfl
  | clear next =>
    rw [serve, serve, muted]
    rcases Display.clear m.display with ⟨_ | _, _⟩ <;> rfl
  | draw x y rows next =>
    rw [serve, serve, muted]
    rcases Display.draw x y rows m.display with ⟨_ | _, _⟩ <;> rfl
  | await next =>
    rw [serve, serve, muted]
    rcases Keypad.waitForKey m.keypad with ⟨_ | _, _⟩ <;> rfl

/-- A cycle goes the same way on the muted machine. -/
theorem cycle_muted : m.muted.cycle = (m.cycle.1, m.cycle.2.muted) := by
  rcases m.cycle_cases with hs | ⟨hs, hf | ⟨hf, hw | ⟨i, hi⟩⟩⟩
  · rw [m.cycle_of_skips hs, m.muted.cycle_of_skips hs]
    rfl
  · rw [m.cycle_of_not_canFetch hs hf, m.muted.cycle_of_not_canFetch hs hf]
    rfl
  · rw [m.cycle_of_not_encodes hs hf hw, m.muted.cycle_of_not_encodes hs hf hw]
    rfl
  · have hfetched : m.muted.fetched = m.fetched.muted := rfl
    have hrequest : m.muted.request i = m.request i := rfl
    rw [m.cycle_of_encodes hs hf hi, m.muted.cycle_of_encodes hs hf hi, hfetched, hrequest,
      serve_muted]
    rfl

end

/-! ## Ticks -/

/-- Looking after the buzzer does nothing that would not be muted. -/
theorem muted_updateBuzzer [Buzzer B] : m.updateBuzzer.muted = m.muted := by
  have hcall : ∀ call : B → Reply String Unit B, (m.callBuzzer call).muted = m.muted := by
    intro call
    rw [callBuzzer]
    rcases call m.buzzer with ⟨_ | _, _⟩ <;> rfl
  rw [updateBuzzer]
  split_ifs
  · split
    · exact hcall _
    · exact hcall _
    · rfl
  · rfl

/-- The timers of the muted machine tick in the same way. -/
theorem timed_muted (elapsed : Nat) : m.muted.timed elapsed = (m.timed elapsed).muted := by
  exact noteAll_muted { m with core := { m.core with timers := (m.core.timers.advance elapsed).2 } }
    fun _ => Timers.isCommon_of_mem_tickNotices

/-- A tick goes the same way on the muted machine. -/
theorem tick_muted [Display D] [Buzzer B] (elapsed : Nat) :
    m.muted.tick elapsed = ((m.tick elapsed).1, (m.tick elapsed).2.muted) := by
  have hshare : m.muted.share elapsed = m.share elapsed := rfl
  rcases Nat.eq_zero_or_pos (m.share elapsed) with hzero | hpos
  · rw [m.tick_of_share_eq_zero elapsed hzero, m.muted.tick_of_share_eq_zero elapsed hzero,
      timed_muted, muted_updateBuzzer]
    rfl
  · rcases hr : Display.refresh m.display with ⟨e | _, display⟩
    · rw [m.tick_of_refresh_error elapsed hpos hr, m.muted.tick_of_refresh_error elapsed hpos hr,
        timed_muted]
      rfl
    · rw [m.tick_of_refresh_ok elapsed hpos hr, m.muted.tick_of_refresh_ok elapsed hpos hr,
        timed_muted, hshare, muted_updateBuzzer]
      rfl

end

end Machine

/-! ## Loops -/

namespace Loop

variable {D K B : Type}

/-- The loop with its machine muted. -/
def muted (l : Loop D K B) : Loop D K Silent where
  machine := l.machine.muted
  last := l.last
  due := l.due
  passes := l.passes

variable (l : Loop D K B)

/-- A pass goes the same way in the muted loop. -/
theorem begin_muted [Display D] [Keypad K] [Buzzer B] (now : Nat) :
    l.muted.begin now = ((l.begin now).1, (l.begin now).2.muted) := by
  have htick : l.muted.machine.tick (now - l.muted.last) =
      ((l.machine.tick (now - l.last)).1, (l.ticked now).muted) := l.machine.tick_muted _
  have hticked : l.muted.ticked now = (l.ticked now).muted := congrArg Prod.snd htick
  have hpolled : l.muted.polled now = (l.polled now).muted := by
    rw [polled, hticked]
    rfl
  have hcycle : (l.muted.polled now).cycle =
      ((l.polled now).cycle.1, (l.polled now).cycle.2.muted) := by
    rw [hpolled, Machine.cycle_muted]
  rcases l.begin_cases now with ⟨f, ht⟩ | ⟨ticks, e, ht, hp⟩ | ⟨hcomes, hends⟩
  · have ht' := (congrArg Prod.fst htick).trans ht
    rw [l.begin_of_tick_error now ht, l.muted.begin_of_tick_error now ht', hticked]
    rfl
  · have ht' := (congrArg Prod.fst htick).trans ht
    have hp' : (Keypad.poll (l.muted.ticked now).keypad).1 = .error e := by
      rw [hticked]
      exact hp
    rw [l.begin_of_poll_error now ht hp, l.muted.begin_of_poll_error now ht' hp', hpolled]
    rfl
  · have hcomes' : l.muted.ComesToCycle now := by
      refine ⟨hcomes.tick.imp fun ticks ht => (congrArg Prod.fst htick).trans ht, ?_⟩
      rw [hticked]
      exact hcomes.poll
    rcases hends with ⟨f, hc⟩ | hc
    · have hc' := (congrArg Prod.fst hcycle).trans hc
      rw [l.begin_of_cycle_error now hcomes hc, l.muted.begin_of_cycle_error now hcomes' hc', hcycle]
      rfl
    · have hc' := (congrArg Prod.fst hcycle).trans hc
      have hlooked := (l.polled now).cycle.2.muted_updateBuzzer
      rw [l.begin_of_cycle_ok now hcomes hc, l.muted.begin_of_cycle_ok now hcomes' hc', hcycle]
      exact congrArg (fun m => (_, { l.muted.enter now with machine := m, last := now })) hlooked.symm

/-- So does what is left of the pass after its cycle. -/
theorem finish_muted (clock : Nat → Nat) (k : Nat) :
    l.muted.finish clock k = (l.finish clock k).muted := by
  have hresume : ∀ now, l.muted.resume now = (l.resume now).muted := by
    intro now
    have hwaited : l.muted.hasWaited = l.hasWaited := rfl
    rw [resume, resume, hwaited]
    split_ifs <;> rfl
  have hrest : ∀ resumed now, l.muted.rest resumed now = (l.rest resumed now).muted := by
    intro resumed now
    rw [rest, rest, hresume]
    rfl
  have hwaited : l.muted.hasWaited = l.hasWaited := rfl
  rw [finish, finish, hwaited, hrest, hrest]
  split_ifs <;> rfl

/-- The muted loop comes to the same result. -/
theorem run_muted [Display D] [Keypad K] [Buzzer B] (clock : Nat → Nat) (n k : Nat) :
    l.muted.run clock n k = ((l.run clock n k).1, (l.run clock n k).2.muted) := by
  refine run_induction clock ?stop ?ended ?fails ?goes n k l
  case stop =>
    intro k l
    rfl
  case ended =>
    intro n k l hover
    have hover' : l.muted.isOver = true := hover
    rw [run_of_isOver hover, run_of_isOver hover']
  case fails =>
    intro n k l f l' hgoes hpass
    have hgoes' : l.muted.isOver = false := hgoes
    have hbegin := l.begin_muted (clock k)
    rw [hpass] at hbegin
    rw [run_of_begin_error hgoes hpass, run_of_begin_error hgoes' hbegin]
  case goes =>
    intro n k l l' hgoes hpass ih
    have hgoes' : l.muted.isOver = false := hgoes
    have hreadings : l'.muted.readings = l'.readings := rfl
    have hbegin := l.begin_muted (clock k)
    rw [hpass] at hbegin
    rw [run_of_begin_ok hgoes hpass, run_of_begin_ok hgoes' hbegin, finish_muted, hreadings, ih]

end Loop

/-! ## Calls in any order -/

namespace Machine

variable {D K B B' : Type}

/-- The call that is made of the muted machine in place of a call. -/
def Call.muted : Call D K B → Call D K Silent
  | load image => .load image
  | loadFrom source => .loadFrom source
  | cycle => .cycle
  | tick elapsed => .tick elapsed
  | mainLoop clock passes => .mainLoop clock passes
  | devices display keypad _ => .devices display keypad {}

/-- All that the end of a loop leaves of a machine is muted, the note that it ended included. -/
theorem leaveLoop_muted [Buzzer B] (m : Machine D K B) (result : Except Fault Unit) :
    (m.leaveLoop result).2.muted = m.muted := by
  rw [leaveLoop]
  split_ifs
  · rcases Buzzer.stop m.buzzer with ⟨_ | _, buzzer⟩ <;> rfl
  · rfl

variable [Display D] [Keypad K] [Buzzer B] [Buzzer B']

/-- What a loop leaves of a machine, muted, is what its passes leave. -/
theorem mainLoop_muted (m : Machine D K B) (clock : Nat → Nat) (n : Nat) :
    (m.mainLoop clock n).2.muted =
      ((m.muted.enterLoop (clock 0)).run clock n 1).2.machine := by
  have hrun : (m.muted.enterLoop (clock 0)).run clock n 1 = _ :=
    (m.enterLoop (clock 0)).run_muted clock n 1
  rw [hrun]
  rcases hloop : (m.enterLoop (clock 0)).run clock n 1 with ⟨_ | result, l⟩
  · rw [mainLoop_of_run_none hloop]
    rfl
  · rw [mainLoop_of_run hloop]
    exact l.machine.leaveLoop_muted result

/-- What a call leaves of a machine, muted, is what the muted call leaves of the muted machine. -/
theorem perform_muted (m : Machine D K B) (call : Call D K B) :
    (m.perform call).muted = (m.muted.perform call.muted).muted := by
  cases call with
  | load image =>
    have hload : m.muted.perform (.load image) = (m.load image).2.muted :=
      congrArg Prod.snd (m.load_muted image)
    rw [Call.muted, hload, muted_muted]
    rfl
  | loadFrom source =>
    have hload : m.muted.perform (.loadFrom source) = (m.loadFrom source).2.muted :=
      congrArg Prod.snd (m.loadFrom_muted source)
    rw [Call.muted, hload, muted_muted]
    rfl
  | cycle =>
    have hcycle : m.muted.perform .cycle = m.cycle.2.muted := congrArg Prod.snd m.cycle_muted
    rw [Call.muted, hcycle, muted_muted]
    rfl
  | tick elapsed =>
    have htick : m.muted.perform (.tick elapsed) = (m.tick elapsed).2.muted :=
      congrArg Prod.snd (m.tick_muted elapsed)
    rw [Call.muted, htick, muted_muted]
    rfl
  | mainLoop clock passes =>
    have hloop := m.mainLoop_muted clock passes
    have hmuted := m.muted.mainLoop_muted clock passes
    rw [muted_muted] at hmuted
    exact hloop.trans hmuted.symm
  | devices display keypad buzzer =>
    exact ({ m with display := display, keypad := keypad } : Machine D K B).muted_muted.symm

/-- Machines that are the same when muted are so after calls that are. -/
theorem performAll_muted {m : Machine D K B} {m' : Machine D K B'} (h : m'.muted = m.muted)
    {calls : List (Call D K B)} {calls' : List (Call D K B')}
    (hcalls : calls'.map Call.muted = calls.map Call.muted) :
    (m'.performAll calls').muted = (m.performAll calls).muted := by
  induction calls generalizing m m' calls' with
  | nil =>
    rw [List.map_nil, List.map_eq_nil_iff] at hcalls
    rw [hcalls]
    exact h
  | cons call calls ih =>
    obtain ⟨call', rest, rfl, hcall, hrest⟩ := List.map_eq_cons_iff.1 hcalls
    have hfirst : (m'.perform call').muted = (m.perform call).muted := by
      rw [perform_muted m', perform_muted m, h, hcall]
    exact ih hfirst hrest

/-- A buzzer has no say. Two machines that differ in their buzzers only, in whether these are still in
use, and in what the log tells of them, stay so through any calls, which may change the buzzers from
outside in different ways. At each point a cycle has the same result on both, and so has a tick, which
fails by the display and by nothing else; and loops come to the same result, pass by pass and on the
same readings of the clock, before they are left. -/
theorem buzzer_has_no_say {m : Machine D K B} {m' : Machine D K B'} (h : m'.muted = m.muted)
    {calls : List (Call D K B)} {calls' : List (Call D K B')}
    (hcalls : calls'.map Call.muted = calls.map Call.muted) :
    let after := m.performAll calls
    let after' := m'.performAll calls'
    after'.muted = after.muted ∧
    after'.cycle.1 = after.cycle.1 ∧
    (∀ elapsed, (after'.tick elapsed).1 = (after.tick elapsed).1 ∧
      ∀ f, (after.tick elapsed).1 = .error f → ∃ e display,
        Display.refresh after.display = (.error e, display) ∧ f = .device e) ∧
    ∀ clock n,
      let ended := (after.enterLoop (clock 0)).run clock n 1
      let ended' := (after'.enterLoop (clock 0)).run clock n 1
      ended'.1 = ended.1 ∧ ended'.2.muted = ended.2.muted := by
  intro after after'
  have hafter : after'.muted = after.muted := performAll_muted h hcalls
  have hcycle := after'.cycle_muted
  rw [hafter, after.cycle_muted] at hcycle
  refine ⟨hafter, (congrArg Prod.fst hcycle).symm, fun elapsed => ⟨?_, fun f hf => ?_⟩,
    fun clock n => ?_⟩
  · have htick := after'.tick_muted elapsed
    rw [hafter, after.tick_muted] at htick
    exact (congrArg Prod.fst htick).symm
  · exact (refresh_of_tick_error hf).2
  · have hrun := (after'.enterLoop (clock 0)).run_muted clock n 1
    have henter : (after'.enterLoop (clock 0)).muted = (after.enterLoop (clock 0)).muted :=
      congrArg (fun m : Machine D K Silent => m.enterLoop (clock 0)) hafter
    rw [henter, Loop.run_muted] at hrun
    obtain ⟨hresult, hleft⟩ := Prod.mk.inj hrun
    exact ⟨hresult.symm, hleft.symm⟩

/-- The machine without hardware, with a buzzer that fails whatever it is asked. -/
def voiceless : Machine Headless Scripted (Monitored BuzzerCall String Silent) :=
  headless.withBuzzer { inner := {}, plan := fun _ => some ⟨1, "permission denied"⟩ }

/-- Calls that load a program which starts the tone and counts it down in a loop. -/
def soundingCalls (B : Type) : List (Call Headless Scripted B) :=
  [.load [0x60, 0x02, 0xf0, 0x18, 0x12, 0x04], .cycle, .cycle, .tick 0,
    .mainLoop (fun k => 10000000 * k) 3]

/-- The failing buzzer is given up and the other is not, and that is all the difference. -/
theorem buzzer_has_no_say_voiceless :
    let after := headless.performAll (soundingCalls _)
    let after' := voiceless.performAll (soundingCalls _)
    voiceless.muted = headless.muted ∧ after.buzzerOn = true ∧ after'.buzzerOn = false ∧
      after'.muted = after.muted ∧ (after'.tick 20000000).1 = (after.tick 20000000).1 := by
  intro after after'
  have hsame : voiceless.muted = headless.muted := rfl
  have hcalls : (soundingCalls (Monitored BuzzerCall String Silent)).map Call.muted =
      (soundingCalls Silent).map Call.muted := rfl
  obtain ⟨hafter, -, hticks, -⟩ := buzzer_has_no_say hsame hcalls
  exact ⟨hsame, by decide +kernel, by decide +kernel, hafter, (hticks _).1⟩

end Machine

end Cosmac
