import Cosmac.Proofs.History
import Cosmac.Proofs.Muted

/-!
# The turns of the buzzer

A machine looks after its buzzer at the end of a tick and after the cycle of a pass, and it stops the
buzzer when it leaves a loop. These are the turns of the buzzer (`Turn`), and nothing else calls it.
`Machine.turns` lists the turns that come up in some calls, each with the machine as it then is. What
a turn calls is read off by a watch over the buzzer (`Turn.calls`).

`Machine.Attended` says that a list of turns accounts for the whole way from one machine to another.
Between two turns the buzzer is left to itself, and so are the note whether it is in use and the
notices that it was lost (`Machine.Rests`); a load, the timers, the display, the keypad and a cycle
reach none of these. `performAll_attended` says that the turns of any calls account for what they did.
For a buzzer that keeps a record of its calls (`Buzzer.Records`) this means that the record grows by the
calls of the turns and by nothing else (`turns_account`), and any buzzer keeps one when it is under watch
(`Monitored.records`).
-/

namespace Cosmac

/-! ## Calls of a buzzer -/

/-- Makes a call of a buzzer. -/
def BuzzerCall.on {B : Type} [Buzzer B] : BuzzerCall → B → Reply String Unit B
  | beep => Buzzer.beep
  | stop => Buzzer.stop

/-- Whether the notice is that the buzzer was lost. -/
def Notice.tellsLoss : Notice → Bool
  | .buzzerLost _ => true
  | _ => false

/-- A buzzer keeps a `record` of its calls if each call is added with how it ended, the latest first. -/
def Buzzer.Records {B : Type} [Buzzer B] (record : B → List (CallRecord BuzzerCall)) : Prop :=
  ∀ (b : B) (call : BuzzerCall), record (call.on b).2 = ⟨call, (call.on b).1.toBool⟩ :: record b

namespace Monitored

variable {σ : Type} [Buzzer σ]

/-- A monitored buzzer records each call with how it ended. -/
theorem record_on (d : Monitored BuzzerCall String σ) (call : BuzzerCall) :
    (call.on d).2.record = ⟨call, (call.on d).1.toBool⟩ :: d.record := by
  have hattempt : ∀ make : σ → Reply String Unit σ,
      (d.attempt call make).2.record = ⟨call, (d.attempt call make).1.toBool⟩ :: d.record := by
    intro make
    rw [attempt]
    cases d.planned call <;> rfl
  cases call <;> exact hattempt _

/-- So it keeps a record. -/
theorem records :
    Buzzer.Records (record : Monitored BuzzerCall String σ → List (CallRecord BuzzerCall)) := record_on

/-- Without a plan of failures the buzzer under watch decides how a call ends. -/
theorem on_fst_of_unplanned (b : σ) (call : BuzzerCall) :
    (call.on ({ inner := b } : Monitored BuzzerCall String σ)).1 = (call.on b).1 := by
  cases call <;> rfl

end Monitored

namespace Machine

variable {D K B V : Type}

/-- How often the log tells that the buzzer was lost. -/
def losses (m : Machine D K B) : Nat := m.log.countP Notice.tellsLoss

/-- Common notices tell of no loss. -/
theorem losses_noteAll (m : Machine D K B) {notices : List Notice}
    (h : ∀ n ∈ notices, n.isCommon = true) : (m.noteAll notices).losses = m.losses := by
  have hnone : notices.reverse.countP Notice.tellsLoss = 0 := by
    refine List.countP_eq_zero.2 fun n hn => ?_
    have hcommon := h n (List.mem_reverse.1 hn)
    cases n with
    | buzzerLost text => exact absurd hcommon Bool.false_ne_true
    | _ => exact Bool.false_ne_true
  rw [losses, noteAll, List.countP_append, hnone, Nat.zero_add, losses]

/-! ## Looking after the buzzer -/

section

variable [Buzzer B] (m : Machine D K B)

/-- What there is to be done about the buzzer: the tone starts if it should be heard and is not, and
ends if it is heard and should not be. -/
def duty : Option BuzzerCall :=
  if m.buzzerOn then
    match m.core.timers.isSounding, Buzzer.isBeeping m.buzzer with
    | true, false => some .beep
    | false, true => some .stop
    | _, _ => none
  else none

/-- Looking after the buzzer does just that. -/
theorem updateBuzzer_eq : m.updateBuzzer = match m.duty with
    | none => m
    | some call => m.callBuzzer call.on := by
  rw [updateBuzzer, duty]
  split_ifs
  · cases m.core.timers.isSounding <;> cases Buzzer.isBeeping m.buzzer <;> rfl
  · rfl

/-- A buzzer that was given up is left alone. -/
theorem duty_of_off (h : m.buzzerOn = false) : m.duty = none := by
  rw [duty, h]
  rfl

/-- The tone is to be started when the buzzer is in use and silent and the sound timer runs. -/
theorem duty_eq_beep_iff : m.duty = some .beep ↔
    m.buzzerOn = true ∧ Buzzer.isBeeping m.buzzer = false ∧ m.core.timers.isSounding = true := by
  rw [duty]
  cases m.buzzerOn <;> cases m.core.timers.isSounding <;> cases Buzzer.isBeeping m.buzzer <;> decide

/-- The tone is to be ended when the buzzer is in use and beeping and the sound timer does not run. -/
theorem duty_eq_stop_iff : m.duty = some .stop ↔
    m.buzzerOn = true ∧ Buzzer.isBeeping m.buzzer = true ∧ m.core.timers.isSounding = false := by
  rw [duty]
  cases m.buzzerOn <;> cases m.core.timers.isSounding <;> cases Buzzer.isBeeping m.buzzer <;> decide

/-- What a machine leaves of itself when it leaves a loop does not depend on what the loop came to. -/
theorem leaveLoop_snd (result : Except Fault Unit) :
    (m.leaveLoop result).2 = (m.leaveLoop (.ok ())).2 := by
  rw [leaveLoop, leaveLoop]
  split_ifs
  · rcases Buzzer.stop m.buzzer with ⟨_ | _, buzzer⟩ <;> rfl
  · rfl

end

/-- The machine with its buzzer under watch from now on. -/
def watched (m : Machine D K B) : Machine D K (Monitored BuzzerCall String B) :=
  m.withBuzzer { inner := m.buzzer }

end Machine

/-! ## Turns -/

/-- The turn of a buzzer comes when its machine looks after it, and when its machine leaves a loop. -/
inductive Turn (D K B : Type)
  | tend (m : Machine D K B)
  | leave (m : Machine D K B)

namespace Turn

variable {D K B : Type}

/-- The machine before a turn. -/
def machine : Turn D K B → Machine D K B
  | tend m | leave m => m

/-- The machine after a turn. -/
def after [Buzzer B] : Turn D K B → Machine D K B
  | tend m => m.updateBuzzer
  | leave m => (m.leaveLoop (.ok ())).2

/-- The turn with the buzzer under watch. -/
def watched : Turn D K B → Turn D K (Monitored BuzzerCall String B)
  | tend m => .tend m.watched
  | leave m => .leave m.watched

variable [Buzzer B]

/-- The calls of the buzzer that a turn makes, the latest first, and whether they succeeded. -/
def calls (t : Turn D K B) : List (CallRecord BuzzerCall) := t.watched.after.buzzer.record

/-- Whether the buzzer fails while it is looked after. -/
def losesBuzzer : Turn D K B → Bool
  | tend m => (tend m).calls.any fun call => !call.succeeded
  | leave _ => false

/-- What there is to be done in a turn. -/
def duty : Turn D K B → Option BuzzerCall
  | tend m => m.duty
  | leave m => if m.buzzerOn then some .stop else none

variable (t : Turn D K B)

theorem duty_watched : t.watched.duty = t.duty := by
  cases t <;> rfl

/-- A turn is spent on what there is to be done, and reaches the buzzer in no other way. -/
theorem buzzer_after : t.after.buzzer = match t.duty with
    | none => t.machine.buzzer
    | some call => (call.on t.machine.buzzer).2 := by
  cases t with
  | tend m =>
    rw [after, m.updateBuzzer_eq, duty]
    cases m.duty with
    | none => rfl
    | some call =>
      dsimp only
      rw [Machine.callBuzzer, machine]
      rcases call.on m.buzzer with ⟨_ | _, _⟩ <;> rfl
  | leave m =>
    obtain ⟨log, hframe⟩ := m.leaveLoop_frame (.ok ())
    rw [after, hframe, duty, machine]
    dsimp only
    rw [Machine.stoppedBuzzer]
    split_ifs <;> rfl

/-- At most one call is made in a turn, if there is something to be done. -/
theorem calls_eq : t.calls = match t.duty with
    | none => []
    | some call => [⟨call, (call.on t.machine.buzzer).1.toBool⟩] := by
  have hbuzzer : t.watched.machine.buzzer = { inner := t.machine.buzzer } := by
    cases t <;> rfl
  rw [calls, buzzer_after, duty_watched, hbuzzer]
  cases t.duty with
  | none => rfl
  | some call =>
    dsimp only
    rw [Monitored.record_on, Monitored.on_fst_of_unplanned]

variable {t} in
/-- A call that is made in a turn is what there is to be done. -/
theorem duty_of_mem_calls {call : CallRecord BuzzerCall} (h : call ∈ t.calls) :
    t.duty = some call.name := by
  rcases hduty : t.duty with _ | name <;> rw [calls_eq, hduty] at h
  · cases h
  · rw [List.mem_singleton.1 h]

variable {t} in
/-- The tone is started in no turn but one in which the machine looks after its buzzer. -/
theorem eq_tend_of_beep (h : t.duty = some .beep) : t = .tend t.machine := by
  cases t with
  | tend m => rfl
  | leave m =>
    rw [duty] at h
    split_ifs at h
    cases h

/-- Nothing is done about a buzzer that was given up. -/
theorem duty_of_off (h : t.machine.buzzerOn = false) : t.duty = none := by
  cases t with
  | tend m => exact m.duty_of_off h
  | leave m =>
    rw [machine] at h
    rw [duty, h]
    rfl

/-- A buzzer that was given up is not called. -/
theorem calls_of_off (h : t.machine.buzzerOn = false) : t.calls = [] := by
  rw [calls_eq, t.duty_of_off h]

/-- So it is not lost again. -/
theorem losesBuzzer_of_off (h : t.machine.buzzerOn = false) : t.losesBuzzer = false := by
  cases t with
  | tend m =>
    rw [losesBuzzer, calls_of_off _ h]
    rfl
  | leave m => rfl

/-- After a turn the buzzer is in use if it was before and was not lost. If it was lost, the log tells
so once. -/
theorem after_of_losesBuzzer :
    t.after.buzzerOn = (t.machine.buzzerOn && !t.losesBuzzer) ∧
      t.after.losses = t.machine.losses + t.losesBuzzer.toNat := by
  cases t with
  | tend m =>
    rw [losesBuzzer, calls_eq, after, m.updateBuzzer_eq, duty, machine]
    rcases hduty : m.duty with _ | call
    · dsimp only
      rw [List.any_nil, Bool.not_false, Bool.and_true]
      exact ⟨rfl, rfl⟩
    -- A call is due, so the buzzer is still in use, and how the call ends decides about the rest.
    · have hon : m.buzzerOn = true := by
        rcases hon : m.buzzerOn with _ | _
        · rw [m.duty_of_off hon] at hduty
          cases hduty
        · rfl
      dsimp only
      rw [Machine.callBuzzer, hon]
      rcases call.on m.buzzer with ⟨text | _, buzzer⟩
      · exact ⟨rfl, List.countP_cons_of_pos rfl⟩
      · exact ⟨rfl, rfl⟩
  -- A stop that fails at the end of a loop ends the loop with a fault, and the buzzer stays in use.
  | leave m =>
    rw [losesBuzzer, after, machine, Machine.leaveLoop, Bool.not_false, Bool.and_true]
    split_ifs
    · rcases Buzzer.stop m.buzzer with ⟨_ | _, buzzer⟩ <;> exact ⟨rfl, rfl⟩
    · exact ⟨rfl, rfl⟩

end Turn

namespace Machine

variable {D K B V : Type}

/-! ## Between two turns -/

/-- The view in which all buzzers look the same. -/
def unseen (_ : B) : Unit := ()

/-- The buzzer is left to itself, as far as can be seen in some `view` of it. It stays in use or given
up as it was, and the log tells of no further loss. -/
structure Rests (view : B → V) (before after : Machine D K B) : Prop where
  buzzer : view after.buzzer = view before.buzzer
  buzzerOn : after.buzzerOn = before.buzzerOn
  losses : after.losses = before.losses

namespace Rests

variable {view : B → V} {m m' m'' : Machine D K B}

theorem refl (m : Machine D K B) : Rests view m m := ⟨rfl, rfl, rfl⟩

theorem trans (h : Rests view m m') (h' : Rests view m' m'') : Rests view m m'' :=
  ⟨h'.buzzer.trans h.buzzer, h'.buzzerOn.trans h.buzzerOn, h'.losses.trans h.losses⟩

end Rests

section

variable (view : B → V) (m : Machine D K B)

theorem load_rests (image : List UInt8) : Rests view m (m.load image).2 := by
  let loaded : Machine D K B := { m with core := { m.core with memory := m.core.memory.load image } }
  have hlosses : (loaded.noteAll (Memory.loadNotices image)).losses = loaded.losses :=
    loaded.losses_noteAll fun _ => Memory.isCommon_of_mem_loadNotices
  exact ⟨rfl, rfl, hlosses⟩

theorem loadFrom_rests (source : Source) : Rests view m (m.loadFrom source).2 := by
  rw [loadFrom]
  split
  · exact .refl m
  · exact m.load_rests view _

theorem timed_rests (elapsed : Nat) : Rests view m (m.timed elapsed) := by
  let advanced := m.core.timers.advance elapsed
  let after : Machine D K B := { m with core := { m.core with timers := advanced.2 } }
  have hlosses : (after.noteAll (advanced.2.tickNotices advanced.1)).losses = after.losses :=
    after.losses_noteAll fun _ => Timers.isCommon_of_mem_tickNotices
  exact ⟨rfl, rfl, hlosses⟩

theorem cycle_rests [Display D] [Keypad K] : Rests view m m.cycle.2 := by
  rcases m.cycle_cases with hs | ⟨hs, hf | ⟨hf, hw | ⟨i, hi⟩⟩⟩
  · rw [m.cycle_of_skips hs]
    exact ⟨rfl, rfl, rfl⟩
  · rw [m.cycle_of_not_canFetch hs hf]
    exact ⟨rfl, rfl, rfl⟩
  · rw [m.cycle_of_not_encodes hs hf hw]
    exact ⟨rfl, rfl, rfl⟩
  · obtain ⟨core, display, keypad, hframe⟩ := m.fetched.serve_frame (m.request i)
    rw [m.cycle_of_encodes hs hf hi, hframe]
    exact ⟨rfl, rfl, rfl⟩

end

/-! ## From one machine to another -/

/-- The turns of a list lead from one machine to another, and the buzzer is left to itself before the
first of them, between any two and after the last. -/
inductive Attended [Buzzer B] (view : B → V) : Machine D K B → List (Turn D K B) → Machine D K B → Prop
  | rest {before after : Machine D K B} (h : Rests view before after) : Attended view before [] after
  | turn {before after : Machine D K B} {turns : List (Turn D K B)} (t : Turn D K B)
      (h : Rests view before t.machine) (hrest : Attended view t.after turns after) :
      Attended view before (t :: turns) after

namespace Attended

variable [Buzzer B] {view : B → V} {m m' m'' : Machine D K B} {turns turns' : List (Turn D K B)}

/-- A turn that comes at once. -/
theorem single (t : Turn D K B) : Attended view t.machine [t] t.after :=
  .turn t (.refl _) (.rest (.refl _))

/-- The buzzer may be left to itself for longer before. -/
theorem of_rests (h : Rests view m m') (h' : Attended view m' turns m'') :
    Attended view m turns m'' := by
  cases h' with
  | rest hrests => exact .rest (h.trans hrests)
  | turn t hrests hrest => exact .turn t (h.trans hrests) hrest

/-- Two ways make one. -/
theorem trans (h : Attended view m turns m') (h' : Attended view m' turns' m'') :
    Attended view m (turns ++ turns') m'' := by
  induction h with
  | rest hrests => exact of_rests hrests h'
  | turn t hrests _ ih => exact .turn t hrests (ih h')

/-- The record of a buzzer that keeps one grows by the calls of the turns and by nothing else, if the
buzzer as a whole is left to itself between them. -/
theorem record (h : Attended id m turns m') {record : B → List (CallRecord BuzzerCall)}
    (hrecord : Buzzer.Records record) :
    record m'.buzzer = turns.reverse.flatMap Turn.calls ++ record m.buzzer := by
  -- Seen from its first turn, a way adds what comes later on top of what that turn has added.
  induction h with
  | rest hrests => exact congrArg record hrests.buzzer
  | @turn before after turns t hrests _ ih =>
    have hturn : record t.after.buzzer = t.calls ++ record t.machine.buzzer := by
      rw [t.buzzer_after, t.calls_eq]
      cases t.duty with
      | none => rfl
      | some call => exact hrecord _ call
    have hbefore : record t.machine.buzzer = record before.buzzer := congrArg record hrests.buzzer
    rw [ih, hturn, hbefore, List.reverse_cons, List.flatMap_append, List.flatMap_singleton,
      List.append_assoc]

end Attended

/-! ## Ticks -/

section

variable [Display D] [Buzzer B] (m : Machine D K B) (elapsed : Nat)

/-- The machine in a tick when the turn of the buzzer comes: the timers have ticked, and the display
was refreshed if need be. -/
def tended : Machine D K B := { m.timed elapsed with display := m.displayAfterTick elapsed }

/-- The turns in a tick: one, unless the tick fails before it. -/
def turnsOfTick : List (Turn D K B) :=
  match (m.tick elapsed).1 with
  | .ok _ => [.tend (m.tended elapsed)]
  | .error _ => []

variable {m elapsed} in
/-- A tick that succeeds ends with the turn of the buzzer. -/
theorem tick_of_ok {ticks : Nat} (h : (m.tick elapsed).1 = .ok ticks) :
    (m.tick elapsed).2 = (m.tended elapsed).updateBuzzer := by
  unfold tended displayAfterTick
  rcases Nat.eq_zero_or_pos (m.share elapsed) with hzero | hpos
  · have hdisplay : (m.timed elapsed).display = m.display := rfl
    rw [m.tick_of_share_eq_zero elapsed hzero, hzero, if_neg (Nat.lt_irrefl 0), ← hdisplay]
  · rw [if_pos hpos]
    rcases hr : Display.refresh m.display with ⟨e | _, display⟩
    · rw [m.tick_of_refresh_error elapsed hpos hr] at h
      cases h
    · rw [m.tick_of_refresh_ok elapsed hpos hr]

theorem tick_attended (view : B → V) :
    Attended view m (m.turnsOfTick elapsed) (m.tick elapsed).2 := by
  have htimed := m.timed_rests view elapsed
  rcases ht : (m.tick elapsed).1 with f | ticks
  · obtain ⟨hpos, e, display, hr, -⟩ := refresh_of_tick_error ht
    rw [turnsOfTick, ht, m.tick_of_refresh_error elapsed hpos hr]
    exact .rest (htimed.trans ⟨rfl, rfl, rfl⟩)
  · have htended : Rests view m (m.tended elapsed) := htimed.trans ⟨rfl, rfl, rfl⟩
    rw [turnsOfTick, ht, tick_of_ok ht]
    exact .of_rests htended (.single (.tend (m.tended elapsed)))

end

end Machine

/-! ## Loops -/

namespace Loop

variable {D K B V : Type} (l : Loop D K B)

/-- At its end a pass leaves the buzzer to itself. -/
theorem finish_rests (view : B → V) (clock : Nat → Nat) (k : Nat) :
    l.machine.Rests view (l.finish clock k).machine := by
  rw [machine_finish]
  split_ifs
  · exact ⟨rfl, rfl, rfl⟩
  · exact .refl _

variable [Display D] [Keypad K] [Buzzer B]

/-- The turns in a pass: that of its tick, and one after its cycle if nothing fails before. -/
def turnsOfPass (now : Nat) : List (Turn D K B) :=
  l.machine.turnsOfTick (now - l.last) ++ match (l.begin now).1 with
    | .ok _ => [.tend (l.polled now).cycle.2]
    | .error _ => []

/-- The turns in at most `n` passes, on the clock readings from number `k` on. -/
def turns (clock : Nat → Nat) (n k : Nat) (l : Loop D K B) : List (Turn D K B) :=
  match n with
  | 0 => []
  | n + 1 =>
    if l.isOver then []
    else
      l.turnsOfPass (clock k) ++ match l.begin (clock k) with
        | (.error _, _) => []
        | (.ok _, l') => (l'.finish clock k).turns clock n (k + l'.readings)

theorem begin_attended (view : B → V) (now : Nat) :
    l.machine.Attended view (l.turnsOfPass now) (l.begin now).2.machine := by
  have htick : l.machine.Attended view _ (l.ticked now) :=
    l.machine.tick_attended (now - l.last) view
  have hpolled : (l.ticked now).Rests view (l.polled now) := ⟨rfl, rfl, rfl⟩
  have hcycled := hpolled.trans ((l.polled now).cycle_rests view)
  rw [turnsOfPass]
  -- The turn of the tick comes in each course of the pass, and the second one in the last course only.
  rcases l.begin_cases now with ⟨f, ht⟩ | ⟨ticks, e, ht, hp⟩ | ⟨hcomes, ⟨f, hc⟩ | hc⟩
  · rw [l.begin_of_tick_error now ht, List.append_nil]
    exact htick
  · rw [l.begin_of_poll_error now ht hp]
    exact htick.trans (.rest hpolled)
  · rw [l.begin_of_cycle_error now hcomes hc]
    exact htick.trans (.rest hcycled)
  · rw [l.begin_of_cycle_ok now hcomes hc]
    exact htick.trans (.of_rests hcycled (.single (.tend (l.polled now).cycle.2)))

theorem run_attended (view : B → V) (clock : Nat → Nat) (n k : Nat) :
    l.machine.Attended view (l.turns clock n k) (l.run clock n k).2.machine := by
  -- Both sides recurse on the bound, and take the same branch in each pass.
  refine run_induction clock ?stop ?ended ?fails ?goes n k l
  case stop =>
    intro k l
    exact .rest (.refl _)
  case ended =>
    intro n k l hover
    rw [turns, run_of_isOver hover, if_pos hover]
    exact .rest (.refl _)
  case fails =>
    intro n k l f l' hgoes hbegin
    have hfirst := l.begin_attended view (clock k)
    rw [hbegin] at hfirst
    rw [turns, run_of_begin_error hgoes hbegin, hgoes, if_neg Bool.false_ne_true, hbegin,
      List.append_nil]
    exact hfirst
  case goes =>
    intro n k l l' hgoes hbegin ih
    have hfirst := l.begin_attended view (clock k)
    rw [hbegin] at hfirst
    rw [turns, run_of_begin_ok hgoes hbegin, hgoes, if_neg Bool.false_ne_true, hbegin]
    exact hfirst.trans (.of_rests (l'.finish_rests view clock k) ih)

end Loop

/-! ## Calls in any order -/

namespace Machine

variable {D K B V : Type} [Display D] [Keypad K] [Buzzer B] (m : Machine D K B)

/-- The turns in a loop: those of its passes, and one when it is left with a result. -/
def turnsOfLoop (clock : Nat → Nat) (passes : Nat) : List (Turn D K B) :=
  (m.enterLoop (clock 0)).turns clock passes 1 ++
    match (m.enterLoop (clock 0)).run clock passes 1 with
    | (none, _) => []
    | (some _, l) => [.leave l.machine]

/-- The turns in a call. -/
def turnsOf (m : Machine D K B) : Call D K B → List (Turn D K B)
  | .tick elapsed => m.turnsOfTick elapsed
  | .mainLoop clock passes => m.turnsOfLoop clock passes
  | .load _ | .loadFrom _ | .cycle | .devices _ _ _ => []

/-- The turns in some calls, in order. -/
def turns (m : Machine D K B) : List (Call D K B) → List (Turn D K B)
  | [] => []
  | call :: calls => m.turnsOf call ++ (m.perform call).turns calls

theorem mainLoop_attended (view : B → V) (clock : Nat → Nat) (passes : Nat) :
    m.Attended view (m.turnsOfLoop clock passes) (m.mainLoop clock passes).2 := by
  have henter : m.Rests view (m.enterLoop (clock 0)).machine := ⟨rfl, rfl, rfl⟩
  have hrun := Attended.of_rests henter ((m.enterLoop (clock 0)).run_attended view clock passes 1)
  rw [turnsOfLoop]
  rcases hloop : (m.enterLoop (clock 0)).run clock passes 1 with ⟨_ | result, l⟩
  · rw [hloop] at hrun
    rw [mainLoop_of_run_none hloop, List.append_nil]
    exact hrun
  · rw [hloop] at hrun
    rw [mainLoop_of_run hloop, leaveLoop_snd]
    exact hrun.trans (.single (.leave l.machine))

/-- The turns in a call account for what it does to the buzzer, unless a buzzer is put in from outside
that looks different. -/
theorem perform_attended (view : B → V) {call : Call D K B}
    (h : ∀ display keypad buzzer, call = .devices display keypad buzzer →
      view buzzer = view m.buzzer) :
    m.Attended view (m.turnsOf call) (m.perform call) := by
  cases call with
  | load image => exact .rest (m.load_rests view image)
  | loadFrom source => exact .rest (m.loadFrom_rests view source)
  | cycle => exact .rest (m.cycle_rests view)
  | tick elapsed => exact m.tick_attended elapsed view
  | mainLoop clock passes => exact m.mainLoop_attended view clock passes
  | devices display keypad buzzer => exact .rest ⟨h _ _ _ rfl, rfl, rfl⟩

/-- The turns in some calls account for what they do, as far as can be seen in a view to which all
buzzers put in from outside look like any other. -/
theorem performAll_attended (view : B → V) {calls : List (Call D K B)}
    (h : ∀ display keypad buzzer, .devices display keypad buzzer ∈ calls →
      ∀ b, view buzzer = view b) :
    m.Attended view (m.turns calls) (m.performAll calls) := by
  induction calls generalizing m with
  | nil => exact .rest (.refl m)
  | cons call calls ih =>
    have hfirst : m.Attended view (m.turnsOf call) (m.perform call) := by
      refine m.perform_attended view fun display keypad buzzer hcall => ?_
      exact h display keypad buzzer (hcall ▸ List.mem_cons_self) _
    exact hfirst.trans (ih (m.perform call) fun display keypad buzzer hmem =>
      h display keypad buzzer (List.mem_cons_of_mem call hmem))

/-- If nothing is seen of the buzzer, the turns account for any calls. -/
theorem performAll_attended_unseen (calls : List (Call D K B)) :
    m.Attended unseen (m.turns calls) (m.performAll calls) :=
  m.performAll_attended unseen fun _ _ _ _ _ => rfl

/-- The turns leave out no call that a machine makes of its buzzer: if the buzzer is not changed from
outside, they are all that happens to it, and any record of its calls has theirs and no others. -/
theorem turns_account {calls : List (Call D K B)}
    (h : ∀ display keypad buzzer, .devices display keypad buzzer ∉ calls) :
    m.Attended id (m.turns calls) (m.performAll calls) ∧
    ∀ record : B → List (CallRecord BuzzerCall), Buzzer.Records record →
      record (m.performAll calls).buzzer =
        (m.turns calls).reverse.flatMap Turn.calls ++ record m.buzzer := by
  have hway := m.performAll_attended id fun _ _ _ hmem => absurd hmem (h _ _ _)
  exact ⟨hway, fun _ hrecord => hway.record hrecord⟩

end Machine

end Cosmac
