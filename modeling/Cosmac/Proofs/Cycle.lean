import Cosmac.Machine.Cycle
import Cosmac.Proofs.Effect
import Cosmac.Proofs.Encoding

/-!
# The course of a cycle

A cycle takes one of four courses (`cycle_cases`). It steps over an instruction (`cycle_of_skips`),
or it cannot fetch a word (`cycle_of_not_canFetch`), or it fetches a word of no instruction
(`cycle_of_not_encodes`), or it fetches the word of an instruction and grants what that instruction
asks for (`cycle_of_encodes`). Proofs about cycles go by these four equations.

What it means to grant a request is said once as well (`Served`). A request that is granted leaves a
core that it yields (`serve_ok`), and besides the core only the display and the keypad can change
(`serve_frame`).
-/

namespace Cosmac.Machine

variable {D K B : Type} (m : Machine D K B)

/-- The machine in the middle of a cycle, after it has fetched the word at the program counter. -/
def fetched : Machine D K B :=
  { m with cycles := m.cycles + 1 }.note (.fetched m.core.registers.pc m.core.word)

/-- What an instruction asks for on this machine. -/
def request (i : Instruction) : Request := m.core.execute m.config.skipOnKeyUp i

/-- Every cycle takes one of four courses: it steps over an instruction, or finds no word, or finds
a word of no instruction, or the word of an instruction. -/
theorem cycle_cases : 0 < m.core.skips ∨ m.core.skips = 0 ∧ (¬ m.core.CanFetch ∨
    m.core.CanFetch ∧ ((∀ i : Instruction, ¬ i.Encodes m.core.word) ∨
      ∃ i : Instruction, i.Encodes m.core.word)) := by
  rcases Nat.eq_zero_or_pos m.core.skips with hs | hs
  · refine .inr ⟨hs, ?_⟩
    by_cases hf : m.core.CanFetch
    · refine .inr ⟨hf, ?_⟩
      by_cases hw : ∃ i : Instruction, i.Encodes m.core.word
      · exact .inr hw
      · exact .inl fun i hi => hw ⟨i, hi⟩
    · exact .inl hf
  · exact .inl hs

variable [Display D] [Keypad K]

/-! ## Requests -/

/-- How the machine `m` can grant a request or not: the outcome, and the machine after it. -/
inductive Served (m : Machine D K B) : Request → Except Fault Unit → Machine D K B → Prop
  | done (next : Core) : Served m (.done next) (.ok ()) { m with core := next }
  | fault (cause : Fault) : Served m (.fault cause) (.error cause) m
  | cleared {next : Core} {display : D} (h : Display.clear m.display = (.ok (), display)) :
      Served m (.clear next) (.ok ()) { m with core := next, display := display }
  | notCleared {next : Core} {e : DeviceError} {display : D}
      (h : Display.clear m.display = (.error e, display)) :
      Served m (.clear next) (.error (.device e)) { m with display := display }
  | drawn {x y : UInt8} {rows : List Row} {next : Bool → Core} {collided : Bool} {display : D}
      (h : Display.draw x y rows m.display = (.ok collided, display)) :
      Served m (.draw x y rows next) (.ok ()) { m with core := next collided, display := display }
  | notDrawn {x y : UInt8} {rows : List Row} {next : Bool → Core} {e : DeviceError} {display : D}
      (h : Display.draw x y rows m.display = (.error e, display)) :
      Served m (.draw x y rows next) (.error (.device e)) { m with display := display }
  | sensed (key : UInt8) (next : Bool → Core) :
      Served m (.sense key next) (.ok ()) { m with core := next (Keypad.isDown m.keypad key) }
  | awaited {next : UInt8 → Core} {key : UInt8} {keypad : K}
      (h : Keypad.waitForKey m.keypad = (.ok key, keypad)) :
      Served m (.await next) (.ok ()) { m with core := next key, keypad := keypad }
  | notAwaited {next : UInt8 → Core} {e : DeviceError} {keypad : K}
      (h : Keypad.waitForKey m.keypad = (.error e, keypad)) :
      Served m (.await next) (.error (.device e)) { m with keypad := keypad }

/-- A request is served in one of these ways. -/
theorem serve_served (r : Request) : Served m r (m.serve r).1 (m.serve r).2 := by
  cases r with
  | done next => exact .done next
  | fault cause => exact .fault cause
  | clear next =>
    rw [serve]
    split
    · rename_i h
      exact .cleared h
    · rename_i h
      exact .notCleared h
  | draw x y rows next =>
    rw [serve]
    split
    · rename_i h
      exact .drawn h
    · rename_i h
      exact .notDrawn h
  | sense key next => exact .sensed key next
  | await next =>
    rw [serve]
    split
    · rename_i h
      exact .awaited h
    · rename_i h
      exact .notAwaited h

/-- A request that is granted leaves a core that it yields. -/
theorem serve_ok {r : Request} (h : (m.serve r).1 = .ok ()) : r.Yields (m.serve r).2.core := by
  have hserved := m.serve_served r
  rw [h] at hserved
  generalize (m.serve r).2 = after at hserved ⊢
  cases hserved with
  | done | cleared => rfl
  | drawn | sensed | awaited => exact ⟨_, rfl⟩

/-- A request reaches the core, the display and the keypad, and nothing else. -/
theorem serve_frame (r : Request) : ∃ core display keypad,
    (m.serve r).2 = { m with core := core, display := display, keypad := keypad } := by
  have hserved := m.serve_served r
  generalize (m.serve r).1 = result, (m.serve r).2 = after at hserved ⊢
  cases hserved <;> exact ⟨_, _, _, rfl⟩

/-! ## What a cycle does in each course -/

/-- A cycle steps over an instruction that was to be skipped, whatever it is. -/
theorem cycle_of_skips (h : 0 < m.core.skips) :
    m.cycle = (.ok (), { m with cycles := m.cycles + 1, core := m.core.stepOver }.note
      (.skipped m.core.registers.pc)) := by
  rw [cycle]
  exact if_pos h

/-- A cycle that cannot fetch a word only counts. -/
theorem cycle_of_not_canFetch (hs : m.core.skips = 0) (hf : ¬ m.core.CanFetch) :
    m.cycle = (.error (.outsideMemory (Memory.firstOutside m.core.registers.pc)),
      { m with cycles := m.cycles + 1 }) := by
  rw [cycle, hs, m.core.memory.readWord_of_not_spans hf]
  rfl

/-- A word that can be fetched is executed. -/
theorem cycle_of_canFetch (hs : m.core.skips = 0) (hf : m.core.CanFetch) :
    m.cycle = m.fetched.executeWord m.core.word := by
  rw [cycle, hs, Core.readWord_pc hf]
  rfl

/-- A word of no instruction is a fault, and nothing is done about it. -/
theorem cycle_of_not_encodes (hs : m.core.skips = 0) (hf : m.core.CanFetch)
    (hw : ∀ i : Instruction, ¬ i.Encodes m.core.word) :
    m.cycle = (.error (.undefined m.core.word m.core.registers.pc), m.fetched) := by
  rw [m.cycle_of_canFetch hs hf, executeWord, Work.executeWord, Instruction.decode_eq_none_iff.2 hw]
  rfl

/-- The word of an instruction has the instruction executed. What it asks for is granted, and a fault
is placed at the word. -/
theorem cycle_of_encodes {i : Instruction} (hs : m.core.skips = 0) (hf : m.core.CanFetch)
    (hw : i.Encodes m.core.word) :
    m.cycle =
      ((m.fetched.serve (m.request i)).1.mapError fun f =>
          f.during m.core.word m.core.registers.pc,
        (m.fetched.serve (m.request i)).2) := by
  rw [m.cycle_of_canFetch hs hf, executeWord, Work.executeWord, Instruction.decode_eq_some_iff.2 hw,
    Work.perform_on]
  rfl

/-- A cycle counts itself, and otherwise it reaches the core, the display, the keypad and the log. -/
theorem cycle_frame : ∃ core display keypad log, m.cycle.2 = { m with
    core := core, display := display, keypad := keypad, cycles := m.cycles + 1, log := log } := by
  rcases m.cycle_cases with hs | ⟨hs, hf | ⟨hf, hw | ⟨i, hi⟩⟩⟩
  · rw [m.cycle_of_skips hs]
    exact ⟨_, _, _, _, rfl⟩
  · rw [m.cycle_of_not_canFetch hs hf]
    exact ⟨_, _, _, _, rfl⟩
  · rw [m.cycle_of_not_encodes hs hf hw]
    exact ⟨_, _, _, _, rfl⟩
  · obtain ⟨core, display, keypad, hframe⟩ := m.fetched.serve_frame (m.request i)
    rw [m.cycle_of_encodes hs hf hi, hframe]
    exact ⟨_, _, _, _, rfl⟩

/-- A cycle that steps over nothing and succeeds has found the word of an instruction. -/
theorem exists_encodes_of_cycle_ok (hs : m.core.skips = 0) (hok : m.cycle.1 = .ok ()) :
    m.core.CanFetch ∧ ∃ i : Instruction, i.Encodes m.core.word := by
  rcases m.cycle_cases with hpos | ⟨-, hf | ⟨hf, hw | hi⟩⟩
  · omega
  · rw [m.cycle_of_not_canFetch hs hf] at hok
    cases hok
  · rw [m.cycle_of_not_encodes hs hf hw] at hok
    cases hok
  · exact ⟨hf, hi⟩

/-- A cycle that succeeds has had the request of its instruction granted. -/
theorem serve_of_cycle_ok {i : Instruction} (hs : m.core.skips = 0) (hf : m.core.CanFetch)
    (hi : i.Encodes m.core.word) (hok : m.cycle.1 = .ok ()) :
    (m.fetched.serve (m.request i)).1 = .ok () := by
  rw [m.cycle_of_encodes hs hf hi] at hok
  generalize (m.fetched.serve (m.request i)).1 = result at hok ⊢
  rcases result with f | _
  · cases hok
  · rfl

/-- A cycle that succeeds goes on with a core that the request of its instruction yields. -/
theorem cycle_yields {i : Instruction} (hs : m.core.skips = 0) (hf : m.core.CanFetch)
    (hi : i.Encodes m.core.word) (hok : m.cycle.1 = .ok ()) :
    (m.request i).Yields m.cycle.2.core := by
  have hserve := m.serve_of_cycle_ok hs hf hi hok
  rw [m.cycle_of_encodes hs hf hi]
  exact m.fetched.serve_ok hserve

end Cosmac.Machine
