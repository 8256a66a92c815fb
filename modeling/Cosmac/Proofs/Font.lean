import Cosmac.Proofs.History
import Cosmac.Proofs.Sprites

/-!
# The font out of reach

The addresses of the glyphs lie below program memory, one for each glyph. A range of program memory
contains none of them (`not_isGlyph_of_spans`), so a fetch there fails, and so does every instruction
that reads or writes the bytes at `I` (`cycle_of_usesBytes`). What a draw finds there does not depend on
memory at all: it is the rows of the glyph and of those that follow it (`spriteData_of_glyph`).

An instruction `FX29` points `I` at a glyph, and `I` stays there until another instruction sets it
(`index_through`). So a draw that comes later, whatever was stored or loaded meanwhile, is a draw of that
glyph.
-/

namespace Cosmac

/-! ## Glyphs one by one -/

namespace Glyphs

/-- The rows of a digit's glyph. -/
def glyph (digit : Nat) : List UInt8 := (font.drop (height * digit)).take height

/-- The rows of the glyphs from a digit on, up to the end of the font. -/
def glyphsFrom (digit : Nat) : List UInt8 := (List.range' digit (count - digit)).flatMap glyph

/-- Behind a glyph the font goes on with the next one. -/
theorem drop_font (digit : Nat) :
    font.drop (height * digit) = glyph digit ++ font.drop (height * (digit + 1)) := by
  have hnext : font.drop (height * (digit + 1)) = (font.drop (height * digit)).drop height := by
    rw [List.drop_drop, Nat.mul_succ]
  rw [hnext, glyph, List.take_append_drop]

/-- The font is its glyphs one after the other. -/
theorem drop_font_eq_glyphsFrom {digit : Nat} (h : digit ≤ count) :
    font.drop (height * digit) = glyphsFrom digit := by
  unfold glyphsFrom
  generalize hleft : count - digit = left
  -- The induction is on the number of glyphs that are left.
  induction left generalizing digit with
  | zero =>
    obtain rfl : digit = count := by omega
    rfl
  | succ left ih =>
    rw [drop_font, ih (by omega) (by omega), List.range'_succ, List.flatMap_cons]

/-- The first rows from a glyph on are rows of the glyph, if it has as many. -/
theorem take_glyphsFrom {digit n : Nat} (h : digit < count) (hn : n ≤ height) :
    (glyphsFrom digit).take n = (glyph digit).take n := by
  rw [← drop_font_eq_glyphsFrom h.le, glyph, List.take_take, Nat.min_eq_left hn]

/-- An address is a glyph's if it is that of a digit. -/
theorem isGlyph_iff {a : Address} : IsGlyph a ↔ ∃ digit < count, a.toNat = base + digit := by
  constructor
  · rintro ⟨hbase, hcount⟩
    exact ⟨a.toNat - base, by omega, by omega⟩
  · rintro ⟨digit, hdigit, ha⟩
    exact ⟨by omega, by omega⟩

end Glyphs

open Glyphs (IsGlyph glyph glyphsFrom)

namespace Memory

variable {a : Address} {n : Nat}

/-- No byte of a range of program memory has the address of a glyph. -/
theorem not_isGlyph_of_spans (h : Spans a n) {k : Nat} (hk : k < n) :
    ¬ IsGlyph (a + UInt16.ofNat k) := by
  obtain ⟨hbase, htop⟩ := h
  unfold base at hbase
  unfold top at htop
  have hsum : (a + UInt16.ofNat k).toNat = a.toNat + k := by
    rw [UInt16.toNat_add, UInt16.toNat_ofNat']
    omega
  unfold Glyphs.IsGlyph Glyphs.base Glyphs.count
  omega

/-- The first address outside memory, from a glyph on, is the glyph's. -/
theorem firstOutside_of_isGlyph (h : IsGlyph a) : firstOutside a = a := by
  unfold Glyphs.IsGlyph Glyphs.base Glyphs.count at h
  rw [firstOutside, if_neg]
  unfold base
  omega

/-- The rows from a glyph on are there up to the end of the font. -/
theorem hasSprite_iff_of_glyph {digit : Nat} (hdigit : digit < 16) (ha : a.toNat = 0x50 + digit) :
    HasSprite a n ↔ 5 * digit + n ≤ 80 := by
  have hglyph : IsGlyph a := Glyphs.isGlyph_iff.2 ⟨digit, hdigit, ha⟩
  have hplace : a.toNat - 0x50 = digit := by omega
  rw [HasSprite, hplace, and_iff_right hglyph, or_iff_left (not_spans_of_isGlyph hglyph)]

/-- The sprite data from a glyph on are the rows of that glyph and of the ones that follow it, whatever
memory holds. -/
theorem spriteRows_of_glyph (m : Memory) {digit : Nat} (hdigit : digit < 16)
    (ha : a.toNat = 0x50 + digit) : m.spriteRows a n = (glyphsFrom digit).take n := by
  have hglyph : IsGlyph a := Glyphs.isGlyph_iff.2 ⟨digit, hdigit, ha⟩
  have hplace : a.toNat - 0x50 = digit := by omega
  rw [spriteRows, if_pos hglyph, hplace, ← Glyphs.drop_font_eq_glyphsFrom hdigit.le]
  rfl

/-- They are there, or the fault names the address of that glyph. -/
theorem spriteData_of_glyph (m : Memory) {digit : Nat} (hdigit : digit < 16)
    (ha : a.toNat = 0x50 + digit) : m.spriteData a n =
      if 5 * digit + n ≤ 80 then .ok ((glyphsFrom digit).take n) else .error (.outsideMemory a) := by
  have hsprite := hasSprite_iff_of_glyph (n := n) hdigit ha
  split_ifs with hfits
  · rw [m.spriteData_of_hasSprite (hsprite.2 hfits), m.spriteRows_of_glyph hdigit ha]
  · rw [m.spriteData_of_not_hasSprite (mt hsprite.1 hfits),
      firstOutside_of_isGlyph (Glyphs.isGlyph_iff.2 ⟨digit, hdigit, ha⟩)]

/-- A range that contains the address of a glyph can be neither read nor written. -/
theorem access_of_isGlyph (m : Memory) {k : Nat} (hk : k < n) (h : IsGlyph (a + UInt16.ofNat k)) :
    ∃ f, m.read a n = .error (.outsideMemory f) ∧
      ∀ data : List UInt8, data.length = n → m.write a data = .error (.outsideMemory f) := by
  have hspans : ¬ Spans a n := fun hs => not_isGlyph_of_spans hs hk h
  exact ⟨_, m.read_of_not_spans hspans, fun data hn => m.write_of_not_spans (hn ▸ hspans)⟩

end Memory

/-! ## Instructions at the address of a glyph -/

/-- The instructions that set `I`. -/
def Instruction.SetsIndex : Instruction → Prop
  | setIndex _ | addIndex _ | setGlyph _ | storeRegisters _ | loadRegisters _ => True
  | _ => False

/-- The instructions that read or write the bytes at `I`. -/
def Instruction.UsesBytes : Instruction → Prop
  | storeDigits _ | storeRegisters _ | loadRegisters _ => True
  | _ => False

/-- Any other instruction leaves `I` where it is. -/
theorem Instruction.nextIndex_of_not_setsIndex {i : Instruction} (h : ¬ i.SetsIndex) (c : Core) :
    i.nextIndex c = c.registers.i.toNat := by
  cases i with
  | setIndex | addIndex | setGlyph | storeRegisters | loadRegisters => exact absurd trivial h
  | _ => rfl

namespace Machine

variable {D K B : Type}

/-- At the address of a glyph the fault of a range names that address. -/
theorem rangeFault_of_isGlyph {m : Machine D K B} (h : IsGlyph m.core.registers.i) : m.rangeFault =
    .failed m.core.word m.core.registers.pc (.outsideMemory m.core.registers.i) := by
  rw [rangeFault, Memory.firstOutside_of_isGlyph h]

variable [Display D] [Keypad K] {m : Machine D K B} {i : Instruction} {x y z : Reg} {n : Fin 16}

/-- A cycle has the display draw some rows, one byte each, at the coordinates in two registers. It ends as
the display answers, and so it fails only if the display does. -/
structure DrawsRows (m : Machine D K B) (y z : Reg) (rows : List UInt8) : Prop where
  answer : m.cycle.1 = outcomeOf
    (Display.draw (m.core.reg y) (m.core.reg z) (rows.map unpackRow) m.display).1
  display : m.cycle.2.display =
    (Display.draw (m.core.reg y) (m.core.reg z) (rows.map unpackRow) m.display).2
  fault : ∀ f, m.cycle.1 = .error f → ∃ e, f = .device e

/-- A draw whose rows are there has the display draw them. -/
theorem drawsRows_of_hasSprite (hi : m.core.ComesTo (.draw y z n))
    (h : Memory.HasSprite m.core.registers.i n.val) :
    m.DrawsRows y z (m.core.memory.spriteRows m.core.registers.i n.val) := by
  have hanswer : m.cycle.1 = outcomeOf (Display.draw (m.core.reg y) (m.core.reg z)
      ((m.core.memory.spriteRows m.core.registers.i n.val).map unpackRow) m.display).1 := by
    rw [outcome_of_comesTo hi, outcome, if_pos h]
  refine ⟨hanswer, ?_, fun f hf => ?_⟩
  · have hdisplay : m.fetched.display = m.display := rfl
    rw [cycle_of_comesTo hi, request, Core.execute_draw, if_pos h, serve, hdisplay]
    rcases Display.draw _ _ _ m.display with ⟨_ | _, _⟩ <;> rfl
  · rw [hanswer] at hf
    generalize (Display.draw _ _ _ m.display).1 = answer at hf
    rcases answer with e | _
    · exact ⟨e, (Except.error.inj hf).symm⟩
    · cases hf

/-- A draw at the address of a glyph draws that glyph and the ones that follow it. -/
theorem drawsRows_of_glyph (hi : m.core.ComesTo (.draw y z n)) {digit : Nat} (hdigit : digit < 16)
    (hindex : m.core.registers.i.toNat = 0x50 + digit) (hfits : 5 * digit + n.val ≤ 80) :
    m.DrawsRows y z ((glyphsFrom digit).take n.val) := by
  have hdraws := drawsRows_of_hasSprite hi ((Memory.hasSprite_iff_of_glyph hdigit hindex).2 hfits)
  rw [m.core.memory.spriteRows_of_glyph hdigit hindex] at hdraws
  exact hdraws

/-- It fails if there are not enough of them. -/
theorem cycle_of_overrun (hi : m.core.ComesTo (.draw y z n)) {digit : Nat} (hdigit : digit < 16)
    (hindex : m.core.registers.i.toNat = 0x50 + digit) (hover : 80 < 5 * digit + n.val) :
    m.cycle = (.error m.rangeFault, m.fetched) := by
  have hsprite := Memory.hasSprite_iff_of_glyph (n := n.val) hdigit hindex
  exact cycle_of_lacksRows hi (Core.lacksRows_iff.2 fun h => absurd (hsprite.1 h) (by omega))

/-- An instruction `FX29` points `I` at the glyph of the digit in `VX`. -/
theorem cycle_of_setGlyph (hi : m.core.ComesTo (.setGlyph x)) : m.cycle.1 = .ok () ∧
    m.cycle.2.core.registers.i.toNat = 0x50 + (m.core.reg x).toNat % 16 := by
  rw [cycle_of_done hi rfl]
  exact ⟨rfl, Glyphs.toNat_address _⟩

/-- There are no bytes to read or to write at the address of a glyph. -/
theorem cycle_of_usesBytes (hi : m.core.ComesTo i) (hbytes : i.UsesBytes)
    (h : IsGlyph m.core.registers.i) : m.cycle = (.error m.rangeFault, m.fetched) := by
  have hspans : ∀ k, ¬ Memory.Spans m.core.registers.i k := fun _ => Memory.not_spans_of_isGlyph h
  have hrequest : m.request i = .fault (.outsideMemory (Memory.firstOutside m.core.registers.i)) := by
    cases i with
    | storeDigits x => rw [request, Core.execute_storeDigits, if_neg (hspans _)]
    | storeRegisters x => rw [request, Core.execute_storeRegisters, if_neg (hspans _)]
    | loadRegisters x => rw [request, Core.execute_loadRegisters, if_neg (hspans _)]
    | _ => exact hbytes.elim
  rw [cycle_of_comesTo hi, hrequest]
  rfl

/-! ## The index register over time -/

/-- A cycle that executes no instruction which sets `I` leaves it where it is. -/
theorem index_cycle (h : ∀ i, m.executed = some i → ¬ i.SetsIndex) :
    m.cycle.2.core.registers.i = m.core.registers.i := by
  rcases hexecuted : m.executed with _ | i
  · exact part_cycle_of_executed_eq_none (fun c => c.registers.i) rfl hexecuted
  · have hindex := (effect_of_executed hexecuted).index
    rw [Instruction.nextIndex_of_not_setsIndex (h i hexecuted)] at hindex
    exact UInt16.toNat.inj hindex

/-- As long as no instruction is executed that sets `I`, it stays where it is. -/
theorem index_through {m' : Machine D K B} {history : List (Machine D K B)}
    (h : Through m history m')
    (hkept : ∀ c ∈ history, ∀ i, c.executed = some i → ¬ i.SetsIndex) :
    m'.core.registers.i = m.core.registers.i := by
  induction h with
  -- Between two cycles no register changes.
  | idle hidle => rw [hidle.registers]
  | cycle hidle _ ih =>
    obtain ⟨hfirst, hrest⟩ := List.forall_mem_cons.1 hkept
    rw [ih hrest, index_cycle hfirst, hidle.registers]

/-! ## The font -/

variable [Buzzer B]

/-- The font is out of the reach of every program. An instruction `FX29` succeeds, and as long as `I` is
not set again, whatever is loaded, stored or asked for meanwhile, a draw of at most five rows has the
display draw the first rows of the glyph of the digit in `VX`. A draw of more rows goes on with the
glyphs that follow, and fails when it would run past the last one. Nothing can be fetched at the address
of a glyph, and no bytes can be read or written there, nor any range that contains it; the core stays as
it is. So what sprites consist of there is the same at all times. -/
theorem font_out_of_reach (m : Machine D K B) :
    (∀ x, m.core.ComesTo (.setGlyph x) →
      let digit := (m.core.reg x).toNat % 16
      m.cycle.1 = .ok () ∧ m.cycle.2.core.registers.i.toNat = 0x50 + digit ∧
      ∀ calls, (∀ c ∈ m.cycle.2.history calls, ∀ i, c.executed = some i → ¬ i.SetsIndex) →
        let later := m.cycle.2.performAll calls
        ∀ (y z : Reg) (n : Fin 16), n.val ≤ 5 → later.core.ComesTo (.draw y z n) →
          later.DrawsRows y z ((glyph digit).take n.val)) ∧
    (∀ digit < 16, m.core.registers.i.toNat = 0x50 + digit →
      ∀ (y z : Reg) (n : Fin 16), m.core.ComesTo (.draw y z n) →
        (5 * digit + n.val ≤ 80 → m.DrawsRows y z ((glyphsFrom digit).take n.val)) ∧
        (80 < 5 * digit + n.val → m.cycle = (.error (.failed m.core.word m.core.registers.pc
          (.outsideMemory m.core.registers.i)), m.fetched))) ∧
    (IsGlyph m.core.registers.pc → m.core.skips = 0 →
      m.cycle = (.error (.outsideMemory m.core.registers.pc), { m with cycles := m.cycles + 1 })) ∧
    (IsGlyph m.core.registers.i → ∀ i : Instruction, i.UsesBytes → m.core.ComesTo i →
      m.cycle = (.error (.failed m.core.word m.core.registers.pc
        (.outsideMemory m.core.registers.i)), m.fetched)) ∧
    (∀ (a : Address) (n k : Nat), k < n → IsGlyph (a + UInt16.ofNat k) → ∃ f,
      m.core.memory.read a n = .error (.outsideMemory f) ∧
      ∀ data : List UInt8, data.length = n → m.core.memory.write a data = .error (.outsideMemory f)) ∧
    ∀ calls (a : Address) (n digit : Nat), digit < 16 → a.toNat = 0x50 + digit →
      (m.performAll calls).core.memory.spriteData a n =
        if 5 * digit + n ≤ 80 then .ok ((glyphsFrom digit).take n) else .error (.outsideMemory a) := by
  refine ⟨fun x hi => ?_, fun digit hdigit hindex y z n hi => ⟨?_, fun hover => ?_⟩,
    fun hglyph hskips => ?_, fun hglyph i hbytes hi => ?_, fun a n k hk hglyph => ?_,
    fun calls a n digit hdigit ha => ?_⟩
  · obtain ⟨hok, hindex⟩ := cycle_of_setGlyph hi
    have hdigit : (m.core.reg x).toNat % 16 < 16 := Nat.mod_lt _ (by decide)
    refine ⟨hok, hindex, fun calls hkept => ?_⟩
    intro later y z n hn hdraw
    -- The register may have changed since, but `I` has not.
    have hlater : later.core.registers.i = m.cycle.2.core.registers.i :=
      index_through (m.cycle.2.performAll_through calls) hkept
    rw [← hlater] at hindex
    rw [← Glyphs.take_glyphsFrom hdigit hn]
    exact drawsRows_of_glyph hdraw hdigit hindex (by omega)
  · exact drawsRows_of_glyph hi hdigit hindex
  · rw [cycle_of_overrun hi hdigit hindex hover,
      rangeFault_of_isGlyph (Glyphs.isGlyph_iff.2 ⟨digit, hdigit, hindex⟩)]
  · rw [m.cycle_of_not_canFetch hskips (Memory.not_spans_of_isGlyph hglyph),
      Memory.firstOutside_of_isGlyph hglyph]
  · rw [cycle_of_usesBytes hi hbytes hglyph, rangeFault_of_isGlyph hglyph]
  · exact m.core.memory.access_of_isGlyph hk hglyph
  · exact (m.performAll calls).core.memory.spriteData_of_glyph hdigit ha

/-- A machine about to point `I` at the glyph of a digit. It is going to change the register that told
which digit, and to store bytes at `I`. -/
def pointing (digit : UInt8) : Machine Headless Scripted Silent :=
  headless.performAll [.load [0x60, digit, 0xf0, 0x29, 0x60, 0x03, 0xf0, 0x33], .cycle]

/-- What is done with it then: the bytes cannot be stored, and a program that draws is put in place of the
one that stores. -/
def overwriting (height : UInt8) : List (Call Headless Scripted Silent) :=
  [.cycle, .cycle, .load [0x00, 0x00, 0x00, 0x00, 0x00, 0x00, 0xd1, 0x10 + height]]

/-- A machine whose program has jumped to a glyph. -/
def astray : Machine Headless Scripted Silent :=
  headless.performAll [.load [0x10, 0x5f], .cycle]

/-- The glyph of ten is drawn all the same. The glyph of fifteen is the last one, so a sixth row is not
there. -/
theorem font_out_of_reach_pointing :
    let pointed := (pointing 0x1a).cycle.2
    let storing := pointed.cycle.2
    let drawing := pointed.performAll (overwriting 5)
    let passing := (pointing 0x1f).cycle.2.performAll (overwriting 6)
    (pointing 0x1a).core.ComesTo (.setGlyph 0) ∧ pointed.core.registers.i.toNat = 0x5a ∧
      storing.cycle.1 = .error (.failed 0xf033 0x206 (.outsideMemory 0x5a)) ∧
      drawing.core.ComesTo (.draw 1 1 5) ∧ drawing.DrawsRows 1 1 [0xf0, 0x90, 0xf0, 0x90, 0x90] ∧
      passing.core.ComesTo (.draw 1 1 6) ∧
      passing.cycle.1 = .error (.failed 0xd116 0x206 (.outsideMemory 0x5f)) ∧
      astray.cycle.1 = .error (.outsideMemory 0x5f) := by
  intro pointed storing drawing passing
  have hpointing : (pointing 0x1a).core.ComesTo (.setGlyph 0) :=
    Core.comesTo_of_word (w := 0xf029) (by decide +kernel) rfl
  have hstoring : storing.core.ComesTo (.storeDigits 0) :=
    Core.comesTo_of_word (w := 0xf033) (by decide +kernel) rfl
  have hdrawing : drawing.core.ComesTo (.draw 1 1 5) :=
    Core.comesTo_of_word (w := 0xd115) (by decide +kernel) rfl
  have hpassing : passing.core.ComesTo (.draw 1 1 6) :=
    Core.comesTo_of_word (w := 0xd116) (by decide +kernel) rfl
  have hkept : ∀ c ∈ pointed.history (overwriting 5), ∀ i, c.executed = some i → ¬ i.SetsIndex := by
    have hhistory : pointed.history (overwriting 5) = [pointed, storing] := rfl
    have hfirst : pointed.executed = some (.setByte 0 3) := by decide +kernel
    have hsecond : storing.executed = none := by decide +kernel
    rw [hhistory, List.forall_mem_cons, List.forall_mem_singleton, hfirst, hsecond]
    exact ⟨fun i hi => Option.some.inj hi ▸ id, nofun⟩
  have hdigit : ((pointing 0x1a).core.reg 0).toNat % 16 = 10 := by decide +kernel
  have hten : (glyph 10).take (5 : Fin 16).val = [0xf0, 0x90, 0xf0, 0x90, 0x90] := rfl
  have hstored : IsGlyph storing.core.registers.i ∧ storing.core.word = 0xf033 ∧
      storing.core.registers.pc = 0x206 ∧ storing.core.registers.i = 0x5a := by decide +kernel
  have hpassed : passing.core.registers.i.toNat = 0x50 + 15 ∧ passing.core.word = 0xd116 ∧
      passing.core.registers.pc = 0x206 ∧ passing.core.registers.i = 0x5f := by decide +kernel
  have hstray : IsGlyph astray.core.registers.pc ∧ astray.core.skips = 0 ∧
      astray.core.registers.pc = 0x5f := by decide +kernel
  obtain ⟨hfollows, -⟩ := font_out_of_reach (pointing 0x1a)
  obtain ⟨-, -, hlater⟩ := hfollows 0 hpointing
  have hdraws := hlater _ hkept 1 1 5 (by decide) hdrawing
  rw [hdigit, hten] at hdraws
  obtain ⟨-, -, -, hbytes, -⟩ := font_out_of_reach storing
  have hfails := hbytes hstored.1 (.storeDigits 0) trivial hstoring
  rw [hstored.2.1, hstored.2.2.1, hstored.2.2.2] at hfails
  obtain ⟨-, hrows, -⟩ := font_out_of_reach passing
  obtain ⟨-, hoverruns⟩ := hrows 15 (by decide) hpassed.1 1 1 6 hpassing
  have hover := hoverruns (by decide)
  rw [hpassed.2.1, hpassed.2.2.1, hpassed.2.2.2] at hover
  obtain ⟨-, -, hfetch, -⟩ := font_out_of_reach astray
  have hfetched := hfetch hstray.1 hstray.2.1
  rw [hstray.2.2] at hfetched
  exact ⟨hpointing, by decide +kernel, congrArg Prod.fst hfails, hdrawing, hdraws, hpassing,
    congrArg Prod.fst hover, congrArg Prod.fst hfetched⟩

end Machine

end Cosmac
