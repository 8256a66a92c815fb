import Cosmac.CommandLine.Session
import Cosmac.Proofs.Passes

/-!
# Sessions are runs of the loop

A session runs the passes of a loop in simulated time, and the machine's own loop runs them on readings
of a clock. They are the same passes. The session moves the clock of the keyboard at the end of a pass,
for the time that the pass took and slept, and a loop that leaves its devices alone finds that time gone
by when it polls the keypad next. `Paced` is the keyboard on which this happens by itself.

So for every session there are readings of the clock, and pauses between polls, on which the machine's
loop comes to the same (`exists_start_eq_program`). The pauses and the readings are taken down pass by
pass.
-/

namespace Cosmac

/-- A keyboard on which some time goes by ahead of each poll. -/
structure Keyboard.Paced where
  keyboard : Keyboard
  /-- How much time goes by ahead of each of the next polls; none once there is nothing left. -/
  pauses : List Nat

namespace Keyboard.Paced

instance : Keypad Paced where
  poll k := (k.keyboard.elapse (k.pauses.headD 0)).poll.map id fun keyboard => ⟨keyboard, k.pauses.tail⟩
  isDown k := k.keyboard.isDown
  waitForKey k := k.keyboard.waitForKey.map id fun keyboard => { k with keyboard := keyboard }

end Keyboard.Paced

open Keyboard (Paced)

namespace Machine

variable {D K K' B : Type}

/-- The end of a loop goes the same way with any keypad. -/
theorem leaveLoop_withKeypad [Buzzer B] (m : Machine D K B) (keypad : K')
    (result : Except Fault Unit) :
    (m.withKeypad keypad).leaveLoop result =
      ((m.leaveLoop result).1, (m.leaveLoop result).2.withKeypad keypad) := by
  have hon : (m.withKeypad keypad).buzzerOn = m.buzzerOn := rfl
  have hbuzzer : (m.withKeypad keypad).buzzer = m.buzzer := rfl
  rw [leaveLoop, leaveLoop, hon, hbuzzer]
  split_ifs
  · rcases Buzzer.stop m.buzzer with ⟨_ | _, buzzer⟩ <;> rfl
  · rfl

variable (m : Machine D Keyboard B) (pauses : List Nat)

/-- The machine on a keyboard with pauses. -/
def paced : Machine D Paced B := m.withKeypad ⟨m.keypad, pauses⟩

variable [Display D]

theorem serve_paced (r : Request) :
    (m.paced pauses).serve r = ((m.serve r).1, (m.serve r).2.paced pauses) := by
  cases r with
  | done next | fault cause | sense key next => rfl
  | clear next =>
    rw [serve, serve, paced, withKeypad]
    rcases Display.clear m.display with ⟨_ | _, _⟩ <;> rfl
  | draw x y rows next =>
    rw [serve, serve, paced, withKeypad]
    rcases Display.draw x y rows m.display with ⟨_ | _, _⟩ <;> rfl
  | await next =>
    have hwait : Keypad.waitForKey (m.paced pauses).keypad =
        (Keypad.waitForKey m.keypad).map id fun keyboard => (⟨keyboard, pauses⟩ : Paced) := rfl
    rw [serve, serve, hwait]
    rcases Keypad.waitForKey m.keypad with ⟨_ | _, _⟩ <;> rfl

omit [Display D] in
/-- Looking after the buzzer goes the same way with pauses to come. -/
theorem updateBuzzer_paced [Buzzer B] :
    (m.paced pauses).updateBuzzer = m.updateBuzzer.paced pauses := by
  obtain ⟨buzzer, on, log, hframe⟩ := m.updateBuzzer_frame
  have hkeypad : m.updateBuzzer.keypad = m.keypad := by rw [hframe]
  rw [paced, paced, updateBuzzer_withKeypad, hkeypad]

/-- A cycle goes the same way with pauses to come. -/
theorem cycle_paced : (m.paced pauses).cycle = (m.cycle.1, m.cycle.2.paced pauses) := by
  rcases m.cycle_cases with hs | ⟨hs, hf | ⟨hf, hw | ⟨i, hi⟩⟩⟩
  · rw [m.cycle_of_skips hs, (m.paced pauses).cycle_of_skips hs]
    rfl
  · rw [m.cycle_of_not_canFetch hs hf, (m.paced pauses).cycle_of_not_canFetch hs hf]
    rfl
  · rw [m.cycle_of_not_encodes hs hf hw, (m.paced pauses).cycle_of_not_encodes hs hf hw]
    rfl
  · have hfetched : (m.paced pauses).fetched = m.fetched.paced pauses := rfl
    have hrequest : (m.paced pauses).request i = m.request i := rfl
    rw [m.cycle_of_encodes hs hf hi, (m.paced pauses).cycle_of_encodes hs hf hi, hfetched, hrequest,
      serve_paced]
    rfl

end Machine

namespace Loop

variable {D K K' B : Type}

/-- The loop with another keypad. -/
def withKeypad (l : Loop D K B) (keypad : K') : Loop D K' B where
  machine := l.machine.withKeypad keypad
  last := l.last
  due := l.due
  passes := l.passes

/-- The loop on a keyboard with pauses. -/
def paced (l : Loop D Keyboard B) (pauses : List Nat) : Loop D Paced B :=
  l.withKeypad ⟨l.machine.keypad, pauses⟩

variable [Display D] [Buzzer B] (l : Loop D Keyboard B)

/-- The first part of a pass goes the same way on a keyboard whose clock has yet to catch up: it does so
at the poll. Only a tick that fails comes before that. -/
theorem begin_lagging {keyboard : Keyboard} {pause : Nat}
    (h : keyboard.elapse pause = l.machine.keypad) (pauses : List Nat) (now : Nat) :
    ∃ keypad : Paced,
      (l.withKeypad (⟨keyboard, pause :: pauses⟩ : Paced)).begin now =
        ((l.begin now).1, (l.begin now).2.withKeypad keypad) ∧
      ((l.begin now).1 = .ok () → keypad = ⟨(l.begin now).2.machine.keypad, pauses⟩) := by
  let lagging : Loop D Paced B := l.withKeypad ⟨keyboard, pause :: pauses⟩
  have htick : lagging.machine.tick (now - lagging.last) =
      ((l.machine.tick (now - l.last)).1, (l.ticked now).withKeypad ⟨keyboard, pause :: pauses⟩) :=
    l.machine.tick_withKeypad _ _
  have hticked : lagging.ticked now = (l.ticked now).withKeypad ⟨keyboard, pause :: pauses⟩ :=
    congrArg Prod.snd htick
  have hpoll : Keypad.poll (lagging.ticked now).keypad =
      (Keypad.poll (l.ticked now).keypad).map id fun k => (⟨k, pauses⟩ : Paced) := by
    rw [hticked, l.ticked_keypad, ← h]
    rfl
  have hpolled : lagging.polled now = (l.polled now).paced pauses := by
    rw [polled, hpoll, hticked]
    rfl
  have hcycle : (lagging.polled now).cycle =
      ((l.polled now).cycle.1, (l.polled now).cycle.2.paced pauses) := by
    rw [hpolled, Machine.cycle_paced]
  -- The first course ends before the poll and leaves the keyboard behind; the others have made it up.
  rcases l.begin_cases now with ⟨f, ht⟩ | ⟨ticks, e, ht, hp⟩ | ⟨hcomes, hends⟩
  · have ht' := (congrArg Prod.fst htick).trans ht
    refine ⟨⟨keyboard, pause :: pauses⟩, ?_, fun hok => ?_⟩
    · rw [l.begin_of_tick_error now ht, lagging.begin_of_tick_error now ht', hticked]
      rfl
    · rw [l.begin_of_tick_error now ht] at hok
      cases hok
  · have ht' := (congrArg Prod.fst htick).trans ht
    have hp' : (Keypad.poll (lagging.ticked now).keypad).1 = .error e := by
      rw [hpoll]
      exact hp
    refine ⟨⟨_, pauses⟩, ?_, fun _ => rfl⟩
    rw [l.begin_of_poll_error now ht hp, lagging.begin_of_poll_error now ht' hp', hpolled]
    rfl
  · have hcomes' : lagging.ComesToCycle now := by
      refine ⟨hcomes.tick.imp fun ticks ht => (congrArg Prod.fst htick).trans ht, ?_⟩
      rw [hpoll]
      exact hcomes.poll
    refine ⟨⟨_, pauses⟩, ?_, fun _ => rfl⟩
    rcases hends with ⟨f, hc⟩ | hc
    · have hc' := (congrArg Prod.fst hcycle).trans hc
      rw [l.begin_of_cycle_error now hcomes hc, lagging.begin_of_cycle_error now hcomes' hc', hcycle]
      rfl
    · have hc' := (congrArg Prod.fst hcycle).trans hc
      rw [l.begin_of_cycle_ok now hcomes hc, lagging.begin_of_cycle_ok now hcomes' hc', hcycle]
      exact congrArg (fun m => (_, { lagging.enter now with machine := m, last := now }))
        ((l.polled now).cycle.2.updateBuzzer_paced pauses)

omit [Display D] [Buzzer B] in
/-- What is left of a pass goes the same way with pauses to come. -/
theorem rest_paced (pauses : List Nat) (resumed ended : Nat) :
    (l.paced pauses).rest resumed ended = (l.rest resumed ended).paced pauses := by
  have hresume : (l.paced pauses).resume resumed = (l.resume resumed).paced pauses := by
    have hwaited : (l.paced pauses).hasWaited = l.hasWaited := rfl
    rw [resume, resume, hwaited]
    split_ifs <;> rfl
  rw [rest, rest, hresume]
  rfl

end Loop

namespace CommandLine

variable {B : Type} [Buzzer B] {l : Loop TerminalScreen Keyboard B} {n : Nat}

/-! ## Sessions pass by pass -/

/-- The end of a pass of a session: it takes its time and sleeps. -/
def sessionFinish (l : Loop TerminalScreen Keyboard B) : Loop TerminalScreen Keyboard B :=
  let now := l.machine.keypad.now
  simulated.sleep (l.rest now (now + passTime))

/-- A pass of a session is a pass of the loop at the time of the keyboard. -/
theorem pass_simulated (h : l.isOver = false) :
    Id.run (l.pass simulated) =
      match l.begin l.machine.keypad.now with
      | (.error f, l) => (some (.error f), l)
      | (.ok _, l) => (none, sessionFinish l) := by
  simp only [Loop.pass, h, Bool.false_eq_true, if_false, simulated, Id.run, pure, bind]
  rcases l.begin l.machine.keypad.now with ⟨_ | _, l'⟩ <;> rfl

theorem play_of_isOver (h : l.isOver = true) : play (n + 1) l = (some (.ok ()), l.machine) := by
  rw [play, Loop.pass, if_pos h]
  rfl

theorem play_of_begin_error {f : Fault} {l' : Loop TerminalScreen Keyboard B}
    (h : l.isOver = false) (hbegin : l.begin l.machine.keypad.now = (.error f, l')) :
    play (n + 1) l = (some (.error f), l'.machine) := by
  rw [play, pass_simulated h, hbegin]

theorem play_of_begin_ok {l' : Loop TerminalScreen Keyboard B}
    (h : l.isOver = false) (hbegin : l.begin l.machine.keypad.now = (.ok (), l')) :
    play (n + 1) l = play n (sessionFinish l') := by
  rw [play, pass_simulated h, hbegin]

/-- From reading `k` on, a clock shows the given times. -/
def Reads (clock : Nat → Nat) (k : Nat) (times : List Nat) : Prop :=
  ∀ i time, times[i]? = some time → clock (k + i) = time

section Readings

variable {clock : Nat → Nat} {k : Nat} {times later : List Nat}

theorem Reads.left (h : Reads clock k (times ++ later)) : Reads clock k times := by
  intro i time hi
  have hlt := (List.getElem?_eq_some_iff.1 hi).1
  exact h i time ((List.getElem?_append_left hlt).trans hi)

theorem Reads.right (h : Reads clock k (times ++ later)) :
    Reads clock (k + times.length) later := by
  intro i time hi
  rw [Nat.add_assoc]
  refine h _ time ?_
  rw [List.getElem?_append_right (Nat.le_add_right _ _), Nat.add_sub_cancel_left]
  exact hi

/-- The readings that a pass of a session takes after the one at its top. -/
def readingsOf (l : Loop TerminalScreen Keyboard B) : List Nat :=
  let now := l.machine.keypad.now
  if l.hasWaited then [now, now + passTime] else [now + passTime]

omit [Buzzer B] in
theorem length_readingsOf (l : Loop TerminalScreen Keyboard B) :
    (l.machine.keypad.now :: readingsOf l).length = l.readings := by
  rw [readingsOf, Loop.readings]
  split_ifs <;> rfl

omit [Buzzer B] in
/-- A pass of a session ends as one of the loop does, but for the time that is still to go by. -/
theorem finish_paced (l : Loop TerminalScreen Keyboard B) (pauses : List Nat)
    (h : Reads clock (k + 1) (readingsOf l)) :
    (l.paced pauses).finish clock k =
      (l.rest l.machine.keypad.now (l.machine.keypad.now + passTime)).paced pauses := by
  have hwaited : (l.paced pauses).hasWaited = l.hasWaited := rfl
  rw [readingsOf] at h
  rw [Loop.finish, hwaited]
  rcases hw : l.hasWaited with _ | _
  · rw [hw] at h
    have hended : clock (k + 1) = l.machine.keypad.now + passTime := h 0 _ rfl
    -- The reading after a wait plays no part where there was none.
    have hresume : ∀ resumed, l.resume resumed = l := fun resumed => by
      rw [Loop.resume, hw]
      rfl
    have hrest : ∀ resumed resumed' now, l.rest resumed now = l.rest resumed' now := by
      intro resumed resumed' now
      rw [Loop.rest, Loop.rest, hresume, hresume]
    rw [if_neg Bool.false_ne_true, hended, Loop.rest_paced, hrest]
  · rw [hw] at h
    have hresumed : clock (k + 1) = l.machine.keypad.now := h 0 _ rfl
    have hended : clock (k + 2) = l.machine.keypad.now + passTime := h 1 _ rfl
    rw [if_pos rfl, hresumed, hended, Loop.rest_paced]

end Readings

/-- The passes of a session are those of the machine's loop, on some readings of the clock and with some
pauses. The keyboard of the session is ahead by the first pause. -/
theorem exists_run_eq_play (n k : Nat) {l : Loop TerminalScreen Keyboard B} {keyboard : Keyboard}
    {pause : Nat} (h : keyboard.elapse pause = l.machine.keypad) :
    ∃ times pauses, ∀ clock, Reads clock k times → ∃ (keypad : Paced) (last : Loop _ _ B),
      (l.withKeypad (⟨keyboard, pause :: pauses⟩ : Paced)).run clock n k = ((play n l).1, last) ∧
      last.machine = (play n l).2.withKeypad keypad := by
  -- The session recurses on the bound as the loop does. It is one pause ahead in each pass.
  induction n generalizing k l keyboard pause with
  | zero => exact ⟨[], [], fun clock _ => ⟨_, _, rfl, rfl⟩⟩
  | succ n ih =>
    have hgoes : ∀ keypad : Paced, (l.withKeypad keypad).isOver = l.isOver := fun _ => rfl
    rcases hover : l.isOver with _ | _
    · rcases hbegin : l.begin l.machine.keypad.now with ⟨f | _, l'⟩
      · refine ⟨[l.machine.keypad.now], [], fun clock hclock => ?_⟩
        have hnow : clock k = l.machine.keypad.now := hclock 0 _ rfl
        obtain ⟨keypad, hlagging, -⟩ := l.begin_lagging h [] l.machine.keypad.now
        rw [hbegin, ← hnow] at hlagging
        rw [play_of_begin_error hover hbegin,
          Loop.run_of_begin_error ((hgoes _).trans hover) hlagging]
        exact ⟨keypad, _, rfl, rfl⟩
      · -- The pauses and readings of the rest of the session go behind those of this pass.
        let finished := l'.rest l'.machine.keypad.now (l'.machine.keypad.now + passTime)
        let sleep := passTime + finished.sleep
        have hcatches : finished.machine.keypad.elapse sleep = (sessionFinish l').machine.keypad := rfl
        obtain ⟨later, pauses, hrun⟩ := ih (k + l'.readings) hcatches
        refine ⟨l.machine.keypad.now :: readingsOf l' ++ later, sleep :: pauses, fun clock hclock => ?_⟩
        obtain ⟨keypad, hlagging, hkeypad⟩ :=
          l.begin_lagging h (sleep :: pauses) l.machine.keypad.now
        have hnow : clock k = l.machine.keypad.now := hclock 0 _ rfl
        have hreads : Reads clock k ([l.machine.keypad.now] ++ readingsOf l') := hclock.left
        have hfinish := finish_paced l' (sleep :: pauses) hreads.right
        have hlater : Reads clock (k + l'.readings) later := by
          rw [← length_readingsOf]
          exact hclock.right
        rw [hbegin] at hlagging hkeypad
        rw [hkeypad rfl, ← hnow] at hlagging
        rw [play_of_begin_ok hover hbegin, Loop.run_of_begin_ok ((hgoes _).trans hover) hlagging]
        change ∃ keypad last, ((l'.paced (sleep :: pauses)).finish clock k).run clock n
          (k + l'.readings) = _ ∧ _
        rw [hfinish]
        exact hrun clock hlater
    · refine ⟨[], [], fun clock _ => ?_⟩
      rw [play_of_isOver hover, Loop.run_of_isOver ((hgoes _).trans hover)]
      exact ⟨_, _, rfl, rfl⟩

/-! ## Whole programs -/

omit [Buzzer B] in
/-- A program whose machine was put together and loaded ends as its loop does. -/
theorem launch_of_loaded {D K : Type} [Display D] {o : Options} {display : D} {keypad : K} {buzzer : B}
    {source : Source} {entropy : Random.Key} {booted loaded : Machine D K B} {count : Nat}
    (hboot : Machine.boot o.config entropy display keypad buzzer = .ok booted)
    (hload : booted.loadFrom source = (.ok count, loaded))
    (loop : Machine D K B → Option (Except Fault Unit) × Machine D K B) :
    Id.run (launch o display keypad buzzer source entropy fun m => pure (loop m)) =
      endingOf o (loop loaded) := by
  rw [launch, hboot]
  dsimp only
  rw [hload]
  rfl

/-- A session is a program on some readings of the clock, with some pauses between polls. -/
theorem exists_start_eq_program (o : Options) (buzzer : B) (image : List UInt8)
    (incoming : List Arrival) (entropy : Random.Key) (n : Nat) : ∃ pauses clock,
    start o buzzer image incoming entropy n =
      (program o (TerminalScreen.openOn pictureWidth pictureHeight)
        (⟨{ incoming := incoming }, pauses⟩ : Paced) buzzer (.piece image .done) entropy clock n).map
          Ending.outcome := by
  let screen := TerminalScreen.openOn pictureWidth pictureHeight
  let booted : Console B :=
    { config := o.config
      core := Core.fresh o.config entropy
      display := (screen.setExtents pictureWidth pictureHeight).clear
      keypad := { incoming := incoming }
      buzzer := buzzer }
  let loaded := (booted.load (image ++ [])).2
  have hcatches : loaded.keypad.elapse 0 = (loaded.enterLoop loaded.keypad.now).machine.keypad := rfl
  obtain ⟨times, pauses, hrun⟩ := exists_run_eq_play n 1 hcatches
  let clock := fun k => (loaded.keypad.now :: times).getD k 0
  have hclock : Reads clock 1 times := by
    intro i time hi
    have hclock : clock (1 + i) = (times[i]?).getD 0 := by rw [Nat.add_comm]; rfl
    rw [hclock, hi]
    rfl
  obtain ⟨keypad, last, hloop, hlast⟩ := hrun clock hclock
  refine ⟨0 :: pauses, clock, ?_⟩
  -- The program is put together and loaded as the session is, but for its keypad.
  let lagging : Paced := ⟨{ incoming := incoming }, 0 :: pauses⟩
  have hboot : Machine.boot o.config entropy screen booted.keypad buzzer = .ok booted := rfl
  have hload : booted.loadFrom (.piece image .done) = (.ok (Memory.loadedLength (image ++ [])), loaded) :=
    rfl
  have hboot' : Machine.boot o.config entropy screen lagging buzzer =
      .ok (booted.withKeypad lagging) := rfl
  have hload' : (booted.withKeypad lagging).loadFrom (.piece image .done) =
      (.ok (Memory.loadedLength (image ++ [])), loaded.withKeypad lagging) := rfl
  rw [start, program, launch_of_loaded hboot hload, launch_of_loaded hboot' hload']
  rcases hplay : play n (loaded.enterLoop loaded.keypad.now) with ⟨_ | result, m⟩
  · rw [hplay] at hloop
    rw [runConsole, hplay, Machine.mainLoop_of_run_none hloop]
    rfl
  · rw [hplay] at hloop hlast
    rw [runConsole, hplay, Machine.mainLoop_of_run hloop, hlast, Machine.leaveLoop_withKeypad]
    rfl

end CommandLine

end Cosmac
