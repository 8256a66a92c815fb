import Cosmac.Proofs.History
import Cosmac.Proofs.Steps

/-!
# Random draws over a history

The generator of a machine is a stream and the number of words taken from it. An instruction `CXNN`
that is executed takes one word, whatever its mask is, and no other cycle takes any (`random_cycle`):
not one that steps over a `CXNN`, nor one that fails. As a machine that is idle does not draw either,
the generator always stands at the word whose number is how many such instructions were executed before
(`Through.random_eq`).

So the instructions executed use the words of the stream one after the other, whichever stream it is
(`draws_in_order`). After a machine was put together with a seed it is the stream of the seed, from its
first word on (`draws_follow_stream`).
-/

namespace Cosmac

/-- Whether an instruction draws. -/
def Instruction.isRandom : Instruction → Bool
  | random _ _ => true
  | _ => false

/-- An instruction takes a word if it draws. -/
theorem Instruction.nextRandom_eq (c : Core) (i : Instruction) : i.nextRandom c =
    { c.random with taken := c.random.taken + i.isRandom.toNat } := by
  cases i <;> rfl

namespace Machine

variable {D K B : Type}

/-- A machine that is put together with a seed stands at the first word of the seed's stream, before
its first cycle. -/
theorem random_of_boot [Display D] {config : Config} {entropy : Random.Key} {display : D}
    {keypad : K} {buzzer : B} {booted : Machine D K B} {seed : UInt64}
    (hseed : config.seed = some seed)
    (hboot : boot config entropy display keypad buzzer = .ok booted) :
    booted.core.random = { words := Random.word (Random.keyOfSeed seed), taken := 0 } ∧
      booted.cycles = 0 := by
  obtain ⟨shown, rfl⟩ := boot_eq_ok hboot
  refine ⟨?_, rfl⟩
  rw [Core.fresh, hseed]
  rfl

variable [Display D] [Keypad K]

/-! ## One cycle -/

/-- Whether the next cycle executes an instruction that draws. -/
def draws (m : Machine D K B) : Bool := m.executed.any Instruction.isRandom

section

variable {m : Machine D K B}

/-- A cycle that comes to an instruction that draws executes it. -/
theorem executed_of_random {x : Reg} {mask : UInt8} (h : m.core.ComesTo (.random x mask)) :
    m.executed = some (.random x mask) := executed_of_comesTo h rfl

/-- A cycle draws when it comes to an instruction that does. -/
theorem draws_iff : m.draws = true ↔ ∃ x mask, m.core.ComesTo (.random x mask) := by
  rw [draws, Option.any_eq_true]
  constructor
  · rintro ⟨i, hi, hrandom⟩
    cases i with
    | random x mask => exact ⟨x, mask, (executed_eq_some_iff.1 hi).1⟩
    | _ => cases hrandom
  · rintro ⟨x, mask, h⟩
    exact ⟨.random x mask, executed_of_random h, rfl⟩

/-- A cycle that draws takes one word, and any other takes none. -/
theorem random_cycle : m.cycle.2.core.random =
    { m.core.random with taken := m.core.random.taken + m.draws.toNat } := by
  rcases h : m.executed with _ | i
  -- Whatever kept the cycle from executing an instruction also kept the core as it was, skips apart.
  · rw [part_cycle_of_executed_eq_none Core.random rfl h, draws, h]
    rfl
  · rw [(effect_of_executed h).random, Instruction.nextRandom_eq, draws, h]
    rfl

/-- A draw puts the low byte of the next word into the register, under the mask. -/
theorem reg_cycle_random {x : Reg} {mask : UInt8} (h : m.core.ComesTo (.random x mask)) :
    m.cycle.1 = .ok () ∧ (m.cycle.2.core.reg x).toNat =
      (m.core.random.words m.core.random.taken).toNat % 256 &&& mask.toNat := by
  have hok : m.cycle.1 = .ok () := outcome_of_comesTo h
  have hcore : m.cycle.2.core =
      ({ m.core with random := m.core.random.next }.setReg x (m.core.random.byte &&& mask)).advance :=
    m.cycle_yields h.skips h.canFetch h.encodes hok
  have hreg : m.cycle.2.core.reg x = m.core.random.byte &&& mask := by
    rw [hcore]
    exact m.core.registers.reg_setReg_self x _
  rw [hreg, UInt8.toNat_and, Random.Generator.byte, UInt32.toNat_toUInt8]
  exact ⟨hok, rfl⟩

end

/-! ## Many cycles -/

namespace Through

variable {m m' m'' : Machine D K B} {history before rest : List (Machine D K B)}

/-- On the way from one machine to another one word is taken for each cycle that draws. -/
theorem random_eq (h : Through m history m') : m'.core.random =
    { m.core.random with taken := m.core.random.taken + history.countP draws } := by
  induction h with
  | idle hidle => exact hidle.random
  | @cycle before m after history hidle _ ih =>
    have hcount : (m :: history).countP draws = m.draws.toNat + history.countP draws := by
      rw [List.countP_cons, Nat.add_comm]
      cases m.draws <;> rfl
    rw [ih, random_cycle, hidle.random, hcount, Nat.add_assoc]

/-- The generator on the way tells how many cycles before have drawn. -/
theorem random_of_append (h : Through m (before ++ m' :: rest) m'') : m'.core.random =
    { m.core.random with taken := m.core.random.taken + before.countP draws } := by
  obtain ⟨last, hlast, hidle⟩ := h.exists_idle
  rw [hidle.random, hlast.random_eq]

end Through

variable [Buzzer B]

/-- Draws take the words of a stream one after the other. Whichever stream the generator of a machine
has, and however far it is in it, the calls of a history find it at the word that comes after those that
were taken before, and only a cycle that comes to an instruction that draws takes that word. -/
theorem draws_in_order (m : Machine D K B) (calls : List (Call D K B)) {words : Nat → UInt32}
    {taken : Nat} (hstream : m.core.random = { words := words, taken := taken }) :
    (m.performAll calls).core.random =
      { words := words, taken := taken + (m.history calls).countP draws } ∧
    ∀ before m' rest, m.history calls = before ++ m' :: rest →
      let k := taken + before.countP draws
      m'.core.random = { words := words, taken := k } ∧
      (∀ x mask, m'.core.ComesTo (.random x mask) →
        m'.cycle.1 = .ok () ∧
        (m'.cycle.2.core.reg x).toNat = (words k).toNat % 256 &&& mask.toNat ∧
        m'.cycle.2.core.random = { words := words, taken := k + 1 }) ∧
      ((∀ x mask, ¬ m'.core.ComesTo (.random x mask)) →
        m'.cycle.2.core.random = { words := words, taken := k }) := by
  have hthrough := m.performAll_through calls
  have hrandom := hthrough.random_eq
  rw [hstream] at hrandom
  refine ⟨hrandom, fun before m' rest hsplit => ?_⟩
  intro k
  have hm' : m'.core.random = { words := words, taken := k } := by
    rw [hsplit] at hthrough
    -- The way to `m'` accounts for the words that were taken before.
    have hat := hthrough.random_of_append
    rw [hstream] at hat
    exact hat
  refine ⟨hm', fun x mask hcomes => ?_, fun hnone => ?_⟩
  · have hdraws : m'.draws = true := draws_iff.2 ⟨x, mask, hcomes⟩
    obtain ⟨hok, hreg⟩ := reg_cycle_random hcomes
    rw [random_cycle, hdraws, hm']
    rw [hm'] at hreg
    exact ⟨hok, hreg, rfl⟩
  · have hdraws : m'.draws = false := by
      rw [← Bool.not_eq_true, draws_iff]
      rintro ⟨x, mask, hcomes⟩
      exact hnone x mask hcomes
    rw [random_cycle, hdraws, hm']
    rfl

/-- Draws follow the stream of the seed. Whatever is asked of a machine since it was put together with
a seed, failures included, the cycles of its history and nothing else lead to where it is, and at each
of them the generator stands at the word whose number `k` is how many instructions have drawn before. If
the cycle comes to such an instruction, the instruction is executed, sets its register to the low byte
of word `k` under its mask, and has taken one word. If the cycle comes to anything else, steps over an
instruction or fails, it takes none, and in the end there are as many words taken as instructions have
drawn. -/
theorem draws_follow_stream {config : Config} {entropy : Random.Key} {display : D} {keypad : K}
    {buzzer : B} {booted : Machine D K B} {seed : UInt64} (hseed : config.seed = some seed)
    (hboot : boot config entropy display keypad buzzer = .ok booted) (calls : List (Call D K B)) :
    let words := Random.word (Random.keyOfSeed seed)
    booted.Through (booted.history calls) (booted.performAll calls) ∧
    (booted.performAll calls).cycles = (booted.history calls).length ∧
    (booted.performAll calls).core.random =
      { words := words, taken := (booted.history calls).countP draws } ∧
    ∀ before m rest, booted.history calls = before ++ m :: rest →
      let k := before.countP draws
      m.core.random = { words := words, taken := k } ∧
      (∀ x mask, m.core.ComesTo (.random x mask) →
        m.cycle.1 = .ok () ∧
        (m.cycle.2.core.reg x).toNat = (words k).toNat % 256 &&& mask.toNat ∧
        m.cycle.2.core.random = { words := words, taken := k + 1 }) ∧
      ((∀ x mask, ¬ m.core.ComesTo (.random x mask)) →
        m.cycle.2.core.random = { words := words, taken := k }) := by
  intro words
  obtain ⟨hfresh, hzero⟩ := random_of_boot hseed hboot
  have hthrough := booted.performAll_through calls
  have hcycles := hthrough.cycles_eq
  rw [hzero, Nat.zero_add] at hcycles
  have hdrawn := booted.draws_in_order calls hfresh
  simp only [Nat.zero_add] at hdrawn
  exact ⟨hthrough, hcycles, hdrawn⟩

/-- Calls in which one instruction that draws is executed under an empty mask, one is stepped over, and
one is executed in a loop that fails after it. The next one is then about to be executed. -/
def errand : List (Call Headless Scripted Silent) :=
  [.load [0xc0, 0x00, 0x30, 0x00, 0xc1, 0xff, 0xc1, 0xff, 0x00, 0xee], .cycle, .cycle,
    .tick 20000000, .cycle, .mainLoop (fun _ => 0) 5,
    .load [0x00, 0x00, 0x00, 0x00, 0x00, 0x00, 0x00, 0x00, 0xc2, 0x0f]]

/-- That one is the third to draw, in the sixth cycle. -/
theorem draws_follow_stream_errand :
    let last := headless.performAll errand
    headless.history (errand ++ [.cycle]) = headless.history errand ++ [last] ∧
      (headless.history errand).length = 5 ∧ (headless.history errand).countP draws = 2 ∧
      last.core.ComesTo (.random 2 0x0f) ∧
      (last.cycle.2.core.reg 2).toNat =
        (Random.word (Random.keyOfSeed 1) 2).toNat % 256 &&& 0x0f := by
  intro last
  have hhistory := headless.history_append errand [.cycle]
  have hbefore : (headless.history errand).length = 5 ∧ (headless.history errand).countP draws = 2 := by
    decide +kernel
  have hlast : last.core.skips = 0 ∧ last.core.CanFetch ∧ last.core.word = 0xc20f := by
    decide +kernel
  obtain ⟨hlength, hcount⟩ := hbefore
  obtain ⟨hskips, hfetch, hword⟩ := hlast
  have hencodes : (Instruction.random 2 0x0f).Encodes last.core.word := by
    rw [hword]
    rfl
  have hcomes : last.core.ComesTo (.random 2 0x0f) := ⟨hskips, hfetch, hencodes⟩
  have hboot : boot { seed := some 1 } (Vector.replicate 8 0) ({} : Headless) ({} : Scripted)
      ({} : Silent) = .ok headless := rfl
  obtain ⟨-, -, -, hdraws⟩ := draws_follow_stream rfl hboot (errand ++ [.cycle])
  obtain ⟨-, hdrawn, -⟩ := hdraws _ last [] hhistory
  obtain ⟨-, hreg, -⟩ := hdrawn 2 0x0f hcomes
  rw [hcount] at hreg
  exact ⟨hhistory, hlength, hcount, hcomes, hreg⟩

end Machine

end Cosmac
