import Cosmac.Device.Headless
import Cosmac.Proofs.Agreement
import Cosmac.Proofs.History
import Cosmac.Proofs.Steps

/-!
# A loop and its cycles

A loop in which no time comes to a tick does the same as its cycles called one by one, each after a poll
of the keypad (`runPolled`). A pass of it leaves a machine that agrees with what the cycle leaves
(`begin_agrees`, `finish_agrees`), and the loop leaves one that agrees with what all the cycles leave
(`run_agrees`). Which passes have ticked is read off the record of the passes (`share_of_ticks`).

If polls change nothing that a program could learn of the keypad, they can be left out on one side, and
the loop is compared with cycles alone (`loop_agrees_with_cycles`).
-/

namespace Cosmac

namespace Machine

variable {D K B V : Type}

/-! ## Cycles on their own -/

section

variable [Display D] [Keypad K]

/-- The machine after something has happened to its keypad. -/
def prepared (before : K → K) (m : Machine D K B) : Machine D K B :=
  { m with keypad := before m.keypad }

/-- Runs up to `n` cycles and stops at the first fault. Before each of them something happens to the
keypad. -/
def runEach (before : K → K) (m : Machine D K B) (n : Nat) : Except Fault Unit × Machine D K B :=
  match n with
  | 0 => (.ok (), m)
  | n + 1 =>
    match (m.prepared before).cycle with
    | (.ok _, m) => m.runEach before n
    | (.error f, m) => (.error f, m)

/-- Runs up to `n` cycles, each after one poll of the keypad, and stops at the first fault. -/
def runPolled (m : Machine D K B) (n : Nat) : Except Fault Unit × Machine D K B :=
  m.runEach (fun keypad => (Keypad.poll keypad).2) n

variable {m : Machine D K B} {before : K → K} {n : Nat}

theorem runEach_of_error {f : Fault} (h : (m.prepared before).cycle.1 = .error f) :
    m.runEach before (n + 1) = (.error f, (m.prepared before).cycle.2) := by
  have hcycle : (m.prepared before).cycle = (.error f, (m.prepared before).cycle.2) := Prod.ext h rfl
  rw [runEach, hcycle]

theorem runEach_of_ok (h : (m.prepared before).cycle.1 = .ok ()) :
    m.runEach before (n + 1) = (m.prepared before).cycle.2.runEach before n := by
  have hcycle : (m.prepared before).cycle = (.ok (), (m.prepared before).cycle.2) := Prod.ext h rfl
  rw [runEach, hcycle]

/-- Plain cycles are those before which nothing happens to the keypad. -/
theorem runCycles_eq (m : Machine D K B) (n done : Nat) :
    (m.runCycles n done).2 = m.runEach id n := by
  induction n generalizing m done with
  | zero => rfl
  | succ n ih =>
    have hsame : m.prepared id = m := rfl
    rw [runCycles, runEach, hsame]
    rcases m.cycle with ⟨_ | _, after⟩
    · rfl
    · exact ih after (done + 1)

end

end Machine

/-! ## Passes without a tick -/

/-- What is remembered of passes besides the ticks can change without them. -/
theorem Pass.ticks_modifyHead {f : Pass → Pass} (hf : ∀ p, (f p).ticks = p.ticks)
    (passes : List Pass) : (passes.modifyHead f).map Pass.ticks = passes.map Pass.ticks := by
  cases passes with
  | nil => rfl
  | cons p passes => exact congrArg (· :: passes.map Pass.ticks) (hf p)

namespace Loop

variable {D K B V : Type}

section

variable (l : Loop D K B) {view : K → V}

/-- The end of a pass leaves a machine in agreement, for it only forgets what `resume` does. -/
theorem finish_agrees (clock : Nat → Nat) (k : Nat) :
    Machine.Agrees view l.machine (l.finish clock k).machine := by
  rw [machine_finish]
  split_ifs
  · exact ⟨rfl, rfl, rfl, rfl, rfl⟩
  · exact .refl view l.machine

/-- The end of a pass changes nothing about how often the timers ticked. -/
theorem ticks_finish (clock : Nat → Nat) (k : Nat) :
    (l.finish clock k).passes.map Pass.ticks = l.passes.map Pass.ticks := by
  have hrest : ∀ resumed now,
      (l.rest resumed now).passes.map Pass.ticks = l.passes.map Pass.ticks := by
    intro resumed now
    rw [rest]
    refine (Pass.ticks_modifyHead ?_ _).trans ?_
    · exact fun _ => rfl
    · rw [resume]
      split_ifs
      · refine Pass.ticks_modifyHead ?_ _
        exact fun _ => rfl
      · rfl
  rw [finish]
  split_ifs
  · exact hrest _ _
  · exact hrest _ _

end

variable [Display D] [Buzzer B] {l : Loop D K B} {clock : Nat → Nat} {n k now : Nat}
  {view : K → V} {before : K → K} {m : Machine D K B}

/-- A tick in which the timers stand still leaves a machine in agreement. -/
theorem ticked_agrees (hstill : l.machine.share (now - l.last) = 0) :
    Machine.Agrees view l.machine (l.ticked now) := by
  obtain ⟨buzzer, on, log, hframe⟩ := l.machine.tick_frame (now - l.last)
  have hdisplay : l.machine.displayAfterTick (now - l.last) = l.machine.display := by
    rw [Machine.displayAfterTick, hstill]
    rfl
  have hcore : { l.machine.core with
      timers := (l.machine.core.timers.advance (now - l.last)).2 }.resume = l.machine.core.resume :=
    congrArg (fun t => { l.machine.core with suspended := false, timers := t })
      (Timers.discard_advance hstill)
  rw [ticked, hframe, hdisplay]
  exact ⟨rfl, hcore, rfl, rfl, rfl⟩

variable [Keypad K]

/-- Whatever becomes of a pass, it is remembered as it was begun. -/
theorem passes_begin : (l.begin now).2.passes = (l.enter now).passes := by
  rcases l.begin_cases now with ⟨f, ht⟩ | ⟨ticks, e, ht, hp⟩ | ⟨hcomes, ⟨f, hc⟩ | hc⟩
  · rw [l.begin_of_tick_error now ht]
  · rw [l.begin_of_poll_error now ht hp]
  · rw [l.begin_of_cycle_error now hcomes hc]
  · rw [l.begin_of_cycle_ok now hcomes hc]

/-- The ticks of passes are remembered in all later passes. -/
theorem ticks_run : l.passes.map Pass.ticks <:+ (l.run clock n k).2.passes.map Pass.ticks := by
  have hentered : ∀ (l : Loop D K B) (k : Nat),
      l.passes.map Pass.ticks <:+ (l.begin (clock k)).2.passes.map Pass.ticks := by
    intro l k
    rw [passes_begin]
    exact List.suffix_cons _ _
  refine run_induction clock ?stop ?ended ?fails ?goes n k l
  case stop =>
    intro k l
    exact List.suffix_rfl
  case ended =>
    intro n k l hover
    simp only [run_of_isOver hover, List.suffix_rfl]
  case fails =>
    intro n k l f l' hgoes hbegin
    have hfirst := hentered l k
    rw [hbegin] at hfirst
    rw [run_of_begin_error hgoes hbegin]
    exact hfirst
  case goes =>
    intro n k l l' hgoes hbegin ih
    have hfirst := hentered l k
    rw [hbegin, ← l'.ticks_finish clock k] at hfirst
    rw [run_of_begin_ok hgoes hbegin]
    exact hfirst.trans ih

/-- If the timers tick in no pass of a loop, they stand still in the first one. -/
theorem share_of_ticks (hover : l.isOver = false)
    (h : ∀ p ∈ (l.run clock (n + 1) k).2.passes, p.ticks = 0) :
    l.machine.share (clock k - l.last) = 0 := by
  -- The record of the first pass is still there when the loop ends.
  have hfirst : (l.enter (clock k)).passes.map Pass.ticks <:+
      (l.run clock (n + 1) k).2.passes.map Pass.ticks := by
    rw [← passes_begin]
    rcases hbegin : l.begin (clock k) with ⟨f | _, l'⟩
    · simp only [run_of_begin_error hover hbegin, List.suffix_rfl]
    · rw [run_of_begin_ok hover hbegin]
      exact l'.ticks_finish clock k ▸ ticks_run
  have hmem : l.machine.share (clock k - l.last) ∈
      (l.run clock (n + 1) k).2.passes.map Pass.ticks := by
    refine hfirst.subset ?_
    exact List.mem_cons.2 (.inl (l.machine.core.timers.ticks_advance _).symm)
  obtain ⟨p, hp, hticks⟩ := List.mem_map.1 hmem
  exact hticks.symm.trans (h p hp)

/-- If the tick of a pass does not tick and its poll succeeds, the pass comes to its cycle, on a machine
that agrees with what the other machine is after the same poll. -/
theorem polled_agrees (h : Machine.Agrees view m l.machine)
    (hstill : l.machine.share (now - l.last) = 0) (hpoll : (Keypad.poll l.machine.keypad).1 = .ok ())
    (hbefore : ∀ k k' : K, view k' = view k → view (Keypad.poll k').2 = view (before k)) :
    l.ComesToCycle now ∧ Machine.Agrees view (m.prepared before) (l.polled now) := by
  have hticked : Machine.Agrees view m (l.ticked now) := h.trans (ticked_agrees hstill)
  rw [← l.ticked_keypad now] at hpoll
  refine ⟨⟨⟨0, ?_⟩, hpoll⟩, { hticked with keypad := hbefore _ _ hticked.keypad }⟩
  rw [l.machine.tick_of_share_eq_zero _ hstill]

/-- Such a pass ends as the cycle of the other machine does, and leaves a machine that agrees. -/
theorem begin_agrees (hview : Keypad.Shows view) (h : Machine.Agrees view m l.machine)
    (hstill : l.machine.share (now - l.last) = 0) (hpoll : (Keypad.poll l.machine.keypad).1 = .ok ())
    (hbefore : ∀ k k' : K, view k' = view k → view (Keypad.poll k').2 = view (before k)) :
    (l.begin now).1 = (m.prepared before).cycle.1 ∧
      Machine.Agrees view (m.prepared before).cycle.2 (l.begin now).2.machine := by
  obtain ⟨hcomes, hagrees⟩ := polled_agrees h hstill hpoll hbefore
  obtain ⟨hresult, hafter⟩ := hagrees.cycle hview
  rcases hc : (l.polled now).cycle.1 with f | _
  · rw [l.begin_of_cycle_error now hcomes hc, ← hresult, hc]
    exact ⟨rfl, hafter⟩
  · rw [l.begin_of_cycle_ok now hcomes hc, ← hresult, hc]
    exact ⟨rfl, hafter.trans (Machine.updateBuzzer_agrees _ view)⟩

/-- A pass that succeeds has counted one cycle, and the setup stays as it is. -/
theorem cycles_finish {l' : Loop D K B} (h : l.begin (clock k) = (.ok (), l')) :
    (l'.finish clock k).machine.cycles = l.machine.cycles + 1 ∧
      (l'.finish clock k).machine.config = l.machine.config := by
  obtain ⟨hcomes, -, -⟩ := l.of_begin_ok _ h
  have hthrough := l.begin_through (clock k)
  have hfollows := l.begin_follows (clock k)
  have hfinish : Machine.Agrees id l'.machine (l'.finish clock k).machine := l'.finish_agrees clock k
  rw [l.cycling_of_comesToCycle hcomes, h] at hthrough
  rw [h] at hfollows
  exact ⟨hfinish.cycles.trans hthrough.cycles_eq, hfinish.config.trans hfollows.config⟩

/-! ## The loop -/

/-- A loop in which no time comes to a tick runs the cycles that are left, as the other machine runs them
on its own. The induction is on how many are left. -/
theorem run_agrees (hview : Keypad.Shows view)
    (hbefore : ∀ k k' : K, view k' = view k → view (Keypad.poll k').2 = view (before k))
    (hpoll : ∀ i k' l', Passes clock i k l k' l' → l'.isOver = false →
      (Keypad.poll l'.machine.keypad).1 = .ok ())
    {most : Nat} (hmost : l.machine.config.maxCycles = some most) (hn : most - l.machine.cycles < n)
    (hstill : ∀ p ∈ (l.run clock n k).2.passes, p.ticks = 0)
    (h : Machine.Agrees view m l.machine) :
    (l.run clock n k).1 = some (m.runEach before (most - l.machine.cycles)).1 ∧
      Machine.Agrees view (m.runEach before (most - l.machine.cycles)).2
        (l.run clock n k).2.machine := by
  generalize hleft : most - l.machine.cycles = left at *
  induction left generalizing l m n k with
  | zero =>
    obtain ⟨n, rfl⟩ : ∃ n', n = n' + 1 := ⟨n - 1, by omega⟩
    have hover : l.isOver = true := l.isOver_iff.2 ⟨most, hmost, Nat.le_of_sub_eq_zero hleft⟩
    rw [run_of_isOver hover]
    exact ⟨rfl, h⟩
  | succ left ih =>
    obtain ⟨n, rfl⟩ : ∃ n', n = n' + 1 := ⟨n - 1, by omega⟩
    have hover : l.isOver = false := by
      rw [isOver_eq_false_iff, hmost]
      intro limit hlimit
      cases hlimit
      omega
    have hfirst := hpoll 0 k l (.none k l) hover
    obtain ⟨hresult, hafter⟩ :=
      begin_agrees hview h (share_of_ticks hover hstill) hfirst hbefore
    rcases hbegin : l.begin (clock k) with ⟨f | _, l'⟩
    · rw [hbegin] at hresult hafter
      rw [run_of_begin_error hover hbegin, Machine.runEach_of_error hresult.symm]
      exact ⟨rfl, hafter⟩
    · obtain ⟨hcycles, hconfig⟩ := cycles_finish hbegin
      rw [hbegin] at hresult hafter
      rw [run_of_begin_ok hover hbegin] at hstill ⊢
      rw [Machine.runEach_of_ok hresult.symm]
      -- What is asked of the polls goes over to the passes after this one, and one cycle fewer is left.
      have hlater : ∀ i k' last, Passes clock i (k + l'.readings) (l'.finish clock k) k' last →
          last.isOver = false → (Keypad.poll last.machine.keypad).1 = .ok () :=
        fun i k' last hrest => hpoll (i + 1) k' last (.more hover hbegin hrest)
      have hfewer : most - (l'.finish clock k).machine.cycles = left := by omega
      exact ih hlater (hconfig.symm ▸ hmost) hstill (hafter.trans (l'.finish_agrees clock k)) hfewer
        (Nat.lt_of_succ_lt_succ hn)

/-- After some passes a loop that is over has done the most cycles that it should, or it was over from
the start. -/
theorem Passes.cycles_eq_max {i k' : Nat} {l' : Loop D K B} (h : Passes clock i k l k' l')
    (hover : l'.isOver = true) : ∃ most, l.machine.config.maxCycles = some most ∧
      l'.machine.cycles = max l.machine.cycles most := by
  induction h with
  | none k l =>
    obtain ⟨most, hmost, hle⟩ := l.isOver_iff.1 hover
    exact ⟨most, hmost, (Nat.max_eq_left hle).symm⟩
  | @more i k k'' l l' l'' hgoes hbegin hrest ih =>
    obtain ⟨hcycles, hconfig⟩ := cycles_finish hbegin
    obtain ⟨most, hmost, hmax⟩ := ih hover
    rw [hconfig] at hmost
    -- This pass was begun below the limit, so that its cycle reaches the limit at most.
    have hless : l.machine.cycles < most := l.isOver_eq_false_iff.1 hgoes most hmost
    exact ⟨most, hmost, by omega⟩

end Loop

namespace Machine

variable {D K B V : Type}

/-- The end of a loop leaves a machine in agreement. -/
theorem leaveLoop_agrees [Buzzer B] (m : Machine D K B) (view : K → V)
    (result : Except Fault Unit) : Agrees view m (m.leaveLoop result).2 := by
  obtain ⟨log, hframe⟩ := m.leaveLoop_frame result
  rw [hframe]
  exact ⟨rfl, rfl, rfl, rfl, rfl⟩

variable [Display D] [Keypad K] [Buzzer B] {m : Machine D K B} {clock : Nat → Nat} {n most : Nat}

/-- A loop of `n` passes or fewer has a limit of cycles that can be reached in it. No poll of it fails,
nor does the stopping of the buzzer at its end, and in no pass of it does time come to a tick. -/
structure Undisturbed (m : Machine D K B) (clock : Nat → Nat) (n most : Nat) : Prop where
  limit : m.config.maxCycles = some most
  passes : most - m.cycles < n
  poll : ∀ i k l, Loop.Passes clock i 1 (m.enterLoop (clock 0)) k l → l.isOver = false →
    (Keypad.poll l.machine.keypad).1 = .ok ()
  stop : ∀ result l, (m.enterLoop (clock 0)).run clock n 1 = (some result, l) →
    ∀ text, ¬ l.machine.StopFails text
  still : ∀ p ∈ ((m.enterLoop (clock 0)).run clock n 1).2.passes, p.ticks = 0

/-- An undisturbed loop does what its cycles do on their own, if what is done to the keypad before each
of them shows as a poll does. -/
theorem Undisturbed.mainLoop_agrees (h : m.Undisturbed clock n most) {view : K → V}
    (hview : Keypad.Shows view) {before : K → K}
    (hbefore : ∀ k k' : K, view k' = view k → view (Keypad.poll k').2 = view (before k)) :
    (m.mainLoop clock n).1 = some (m.runEach before (most - m.cycles)).1 ∧
      Agrees view (m.runEach before (most - m.cycles)).2 (m.mainLoop clock n).2 := by
  have henter : Agrees view m (m.enterLoop (clock 0)).machine := ⟨rfl, rfl, rfl, rfl, rfl⟩
  have hlimit : (m.enterLoop (clock 0)).machine.config.maxCycles = some most := h.limit
  obtain ⟨hresult, hagrees⟩ := Loop.run_agrees hview hbefore h.poll hlimit h.passes h.still henter
  rcases hrun : (m.enterLoop (clock 0)).run clock n 1 with ⟨result, l⟩
  rw [hrun] at hresult hagrees
  obtain rfl : result = some (m.runEach before (most - m.cycles)).1 := hresult
  rw [mainLoop_of_run hrun, leaveLoop_of_stops _ (h.stop _ l hrun)]
  exact ⟨rfl, hagrees.trans (l.machine.leaveLoop_agrees view _)⟩

/-- A loop agrees with its cycles called one by one.

If the loop is undisturbed, it comes to the same result as the cycles that are left until its limit,
each after one poll, and leaves a machine that agrees with the one that they leave. If moreover polls do
not show to a program, these cycles can be called without polls. A loop that finds its limit reached
only notes that it was started and stops the buzzer, with no tick, poll or cycle. And any loop that ends
without an error has a limit, and its cycles are counted up to the limit, or more if they were more from
the start. -/
theorem loop_agrees_with_cycles (m : Machine D K B) (clock : Nat → Nat) (n : Nat) :
    (∀ most, m.Undisturbed clock n most →
      ((m.mainLoop clock n).1 = some (m.runPolled (most - m.cycles)).1 ∧
        Agrees id (m.runPolled (most - m.cycles)).2 (m.mainLoop clock n).2) ∧
      ∀ (V : Type) (view : K → V), Keypad.Shows view →
        (∀ keypad : K, view (Keypad.poll keypad).2 = view keypad) →
        (m.mainLoop clock n).1 = some (m.runCycles (most - m.cycles) 0).2.1 ∧
          Agrees view (m.runCycles (most - m.cycles) 0).2.2 (m.mainLoop clock n).2) ∧
    (∀ most, m.config.maxCycles = some most → most ≤ m.cycles → 0 < n →
      let started := m.note (.started m.core.registers.pc m.config.rate)
      m.mainLoop clock n = (some (started.leaveLoop (.ok ())).1, (started.leaveLoop (.ok ())).2)) ∧
    ∀ after, m.mainLoop clock n = (some (.ok ()), after) →
      ∃ most, m.config.maxCycles = some most ∧ after.cycles = max m.cycles most := by
  refine ⟨fun most h => ⟨?_, fun V view hview hunseen => ?_⟩, fun most hmost hle hn => ?_,
    fun after hloop => ?_⟩
  · exact h.mainLoop_agrees Keypad.shows_id fun k k' hk => congrArg (fun k => (Keypad.poll k).2) hk
  · rw [m.runCycles_eq]
    exact h.mainLoop_agrees hview fun k k' hk => (hunseen k').trans hk
  · have hover : (m.enterLoop (clock 0)).isOver = true :=
      (m.enterLoop (clock 0)).isOver_iff.2 ⟨most, hmost, hle⟩
    obtain ⟨passes, rfl⟩ : ∃ passes, n = passes + 1 := ⟨n - 1, by omega⟩
    exact mainLoop_of_run (Loop.run_of_isOver hover)
  · obtain ⟨reached, l, hrun, hleave⟩ := run_of_mainLoop hloop
    have hreached : reached = .ok () := l.machine.eq_ok_of_leaveLoop (congrArg Prod.fst hleave)
    have hend : Agrees id l.machine (l.machine.leaveLoop reached).2 :=
      l.machine.leaveLoop_agrees id reached
    rw [hleave] at hend
    obtain ⟨i, -, k, last, hpasses, hends⟩ := Loop.run_eq_some_iff.1 hrun
    cases hends with
    | atLimit hover =>
      obtain ⟨most, hmost, hmax⟩ := hpasses.cycles_eq_max hover
      exact ⟨most, hmost, hend.cycles.trans hmax⟩
    | fails hgoes hbegin => cases hreached

/-- All that a program can learn of a scripted keypad are the keys that are down and the presses that
wait. -/
theorem shows_scripted : Keypad.Shows fun s : Scripted => (s.down, s.presses) where
  isDown := fun {k k'} h => by
    have hdown : k'.down = k.down := congrArg Prod.fst h
    have hsense : ∀ s : Scripted, Keypad.isDown s = fun key : UInt8 => s.down[key.toNat]?.getD false :=
      fun _ => rfl
    rw [hsense, hsense, hdown]
  waitForKey := fun {k k'} h => by
    obtain ⟨down, presses, polls⟩ := k
    obtain ⟨down', presses', polls'⟩ := k'
    cases h
    cases presses <;> exact ⟨rfl, rfl⟩

/-- A machine with a press waiting and a limit of six cycles, one of them done. It is about to start the
tone, wait for a key, and draw a number and a glyph. -/
def limited : Machine Headless Scripted Silent :=
  let booted : Machine Headless Scripted Silent :=
    { headless with
      config := { seed := some 1, maxCycles := some 6 }
      keypad := { presses := [7] } }
  booted.performAll
    [.load [0x60, 0x05, 0xf0, 0x18, 0xf1, 0x0a, 0xc2, 0xff, 0xf1, 0x29, 0xd0, 0x05], .cycle]

/-- The loop does as its five cycles do, with a microsecond between the readings of the clock. -/
theorem loop_agrees_with_cycles_limited :
    let clock := fun k => 1000 * k
    let view := fun s : Scripted => (s.down, s.presses)
    limited.Reached ∧ limited.Undisturbed clock 6 6 ∧
      (limited.mainLoop clock 6).1 = some (limited.runCycles 5 0).2.1 ∧
      Agrees view (limited.runCycles 5 0).2.2 (limited.mainLoop clock 6).2 ∧
      (limited.runCycles 5 0).1 = 5 ∧ (limited.mainLoop clock 6).2.keypad.polls = 5 := by
  intro clock view
  have hreached : limited.Reached := ⟨{ seed := some 1, maxCycles := some 6 },
    Vector.replicate 8 0, {}, _, _, _, _, rfl, rfl⟩
  have hundisturbed : limited.Undisturbed clock 6 6 :=
    { limit := by decide +kernel
      passes := by decide +kernel
      poll := fun _ _ _ _ _ => rfl
      stop := fun _ _ _ _ hfails => nomatch hfails.2
      still := by decide +kernel }
  have hleft : 6 - limited.cycles = 5 := by decide +kernel
  obtain ⟨hloop, -, -⟩ := loop_agrees_with_cycles limited clock 6
  obtain ⟨-, hplain⟩ := hloop 6 hundisturbed
  obtain ⟨hresult, hagrees⟩ := hplain _ view shows_scripted fun _ => rfl
  rw [hleft] at hresult hagrees
  exact ⟨hreached, hundisturbed, hresult, hagrees, by decide +kernel, by decide +kernel⟩

end Machine

end Cosmac
