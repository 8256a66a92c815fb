import Cosmac.Proofs.Drawing
import Cosmac.Proofs.Frames
import Cosmac.Proofs.Steps

/-!
# Sprites on the machine

An instruction `DXYN` reads its rows from the font or from program memory (`Core.spriteByte`), draws
them at `VX` and `VY`, and puts into `VF` whether a lit pixel was put out. Here the rows, the sprite and
the flag are followed from the bytes to the pixels of any display that keeps a frame.

The rows are as many as asked for, or there are none and the cycle fails (`lacksRows_iff`). A cell of
the sprite is a bit of its byte, the most significant one leftmost (`mem_litCells_spriteRows`). As the
picture has room for the largest sprite, no two cells meet, and so the pixels under lit cells are
exactly those that change.
-/

namespace Cosmac

namespace Core

variable (c : Core) (x y : Reg) (n : Nat)

/-- Byte number `r` of the sprite data at `I`. The glyphs follow each other in the font, so more rows
than a glyph has go on into the next one. -/
def spriteByte (r : Nat) : UInt8 :=
  if Glyphs.IsGlyph c.registers.i then Glyphs.font.getD (5 * (c.registers.i.toNat - 0x50) + r) 0
  else c.memory.cell (c.registers.i.toNat - 0x200 + r)

/-- Not all of `n` rows of sprite data at `I` are there. -/
def LacksRows : Prop :=
  let i := c.registers.i.toNat
  if 0x50 ≤ i ∧ i ≤ 0x5f then 80 < 5 * (i - 0x50) + n else i < 0x200 ∨ 0x1000 < i + n

instance : Decidable (c.LacksRows n) := inferInstanceAs (Decidable (ite _ _ _))

/-- A sprite of `n` rows at `VX` and `VY` has a lit cell on the pixel at column `cx` and row `cy`. -/
def Strikes (cx cy : Nat) : Prop :=
  ∃ column < 8, ∃ row < n, (c.spriteByte row).toNat.testBit (7 - column) = true ∧
    ((c.reg x).toNat + column) % 64 = cx ∧ ((c.reg y).toNat + row) % 32 = cy

instance (cx cy : Nat) : Decidable (c.Strikes x y n cx cy) :=
  inferInstanceAs (Decidable (∃ column < 8, ∃ row < n, _))

/-- A sprite strikes a pixel that is lit. -/
def Collides (p : Picture 64 32) : Prop :=
  ∃ cx < 64, ∃ cy < 32, c.Strikes x y n cx cy ∧ p.pixel cx cy = true

instance (p : Picture 64 32) : Decidable (c.Collides x y n p) :=
  inferInstanceAs (Decidable (∃ cx < 64, ∃ cy < 32, _))

variable {c} {x y : Reg} {n : Nat}

theorem lacksRows_iff : c.LacksRows n ↔ ¬ Memory.HasSprite c.registers.i n := by
  unfold LacksRows Memory.HasSprite Memory.Spans Glyphs.IsGlyph Glyphs.base Glyphs.count
    Memory.base Memory.top
  dsimp only
  split <;> omega

/-- The rows of a sprite are its bytes, as many as asked for. -/
theorem spriteRows_eq (h : ¬ c.LacksRows n) :
    c.memory.spriteRows c.registers.i n = (List.range n).map c.spriteByte := by
  rw [lacksRows_iff, Decidable.not_not] at h
  unfold Memory.spriteRows
  by_cases hglyph : Glyphs.IsGlyph c.registers.i
  · obtain ⟨-, hfont⟩ := h.resolve_right (Memory.not_spans_of_isGlyph hglyph)
    have hlength : Glyphs.font.length = 80 := Glyphs.length_font
    rw [if_pos hglyph]
    refine List.ext_getElem (by simp; omega) fun row hrow _ => ?_
    have hinside : 5 * (c.registers.i.toNat - 0x50) + row < Glyphs.font.length := by
      simp only [List.length_take] at hrow
      omega
    simp only [List.getElem_take, List.getElem_drop, List.getElem_map, List.getElem_range, spriteByte,
      if_pos hglyph]
    rw [List.getD_eq_getElem _ _ hinside]
  · rw [if_neg hglyph]
    refine List.map_congr_left fun row _ => ?_
    rw [spriteByte, if_neg hglyph]
    rfl

/-- The lit cells of a sprite are the bits that are set in its bytes. -/
theorem mem_litCells_spriteRows (h : ¬ c.LacksRows n) {column row : Nat} :
    (column, row) ∈ litCells ((c.memory.spriteRows c.registers.i n).map unpackRow) ↔
      column < 8 ∧ row < n ∧ (c.spriteByte row).toNat.testBit (7 - column) = true := by
  rw [mem_litCells]
  simp only [spriteRows_eq h, List.length_map, List.length_range, List.getElem_map,
    List.getElem_range, unpackRow, Vector.getElem_ofFn]
  constructor
  · rintro ⟨hrow, hcolumn, hlit⟩
    rw [bitOf_eq_testBit _ hcolumn] at hlit
    exact ⟨hcolumn, hrow, hlit⟩
  · rintro ⟨hcolumn, hrow, hlit⟩
    rw [← bitOf_eq_testBit _ hcolumn] at hlit
    exact ⟨hrow, hcolumn, hlit⟩

/-- A sprite strikes the pixels under its lit cells. -/
theorem strikes_iff (h : ¬ c.LacksRows n) {cx cy : Nat} : c.Strikes x y n cx cy ↔
    ∃ cell ∈ litCells ((c.memory.spriteRows c.registers.i n).map unpackRow),
      ((c.reg x).toNat + cell.1) % 64 = cx ∧ ((c.reg y).toNat + cell.2) % 32 = cy := by
  constructor
  · rintro ⟨column, hcolumn, row, hrow, hlit, hfalls⟩
    exact ⟨(column, row), (mem_litCells_spriteRows h).2 ⟨hcolumn, hrow, hlit⟩, hfalls⟩
  · rintro ⟨⟨column, row⟩, hcell, hfalls⟩
    obtain ⟨hcolumn, hrow, hlit⟩ := (mem_litCells_spriteRows h).1 hcell
    exact ⟨column, hcolumn, row, hrow, hlit, hfalls⟩

/-- Drawing on a picture of 64 by 32 pixels inverts those that are struck, and tells whether one of
them was lit. -/
theorem draw_spriteRows (p : Picture 64 32) {n : Fin 16} (h : ¬ c.LacksRows n) :
    let drawn := p.draw (c.reg x) (c.reg y)
      ((c.memory.spriteRows c.registers.i n).map unpackRow)
    (∀ cx < 64, ∀ cy < 32, drawn.2.pixel cx cy ≠ p.pixel cx cy ↔ c.Strikes x y n cx cy) ∧
      (drawn.1 = true ↔ c.Collides x y n p) := by
  intro drawn
  have hheight : ((c.memory.spriteRows c.registers.i n).map unpackRow).length ≤ 32 := by
    rw [spriteRows_eq h]
    simp only [List.length_map, List.length_range]
    omega
  refine ⟨fun cx hcx cy hcy => ?_, ?_⟩
  · rw [strikes_iff h]
    exact p.pixel_draw_of_fits _ _ (by decide) (by decide) hheight hcx hcy
  · rw [p.draw_fst_of_fits _ _ (by decide) (by decide) hheight]
    constructor
    · rintro ⟨cell, hcell, hlit⟩
      rw [← p.pixel_mod] at hlit
      exact ⟨_, Nat.mod_lt _ (by decide), _, Nat.mod_lt _ (by decide),
        (strikes_iff h).2 ⟨cell, hcell, rfl, rfl⟩, hlit⟩
    · rintro ⟨cx, -, cy, -, hstrikes, hlit⟩
      obtain ⟨cell, hcell, rfl, rfl⟩ := (strikes_iff h).1 hstrikes
      rw [p.pixel_mod] at hlit
      exact ⟨cell, hcell, hlit⟩

/-- After a sprite the flag register holds the flag. -/
theorem reg_flag_setFlag (collided : Bool) :
    ({ c with registers := c.registers.setFlag collided }.advance).reg Reg.flag =
      Registers.flagOf collided :=
  c.registers.reg_setFlag collided

end Core

namespace Machine

variable {D K B : Type} [Display D] [Keypad K] {m : Machine D K B} {x y : Reg} {n : Fin 16}

/-- A cycle that comes to a sprite without rows reaches neither the core nor the display. -/
theorem cycle_of_lacksRows (hcomes : m.core.ComesTo (.draw x y n)) (hlacks : m.core.LacksRows n) :
    m.cycle = (.error m.rangeFault, m.fetched) := by
  have hrequest : m.request (.draw x y n) =
      .fault (.outsideMemory (Memory.firstOutside m.core.registers.i)) := by
    rw [request, Core.execute_draw, if_neg (Core.lacksRows_iff.1 hlacks)]
  rw [m.cycle_of_encodes hcomes.skips hcomes.canFetch hcomes.encodes, hrequest]
  rfl

/-- A cycle that comes to a sprite with its rows has the display draw it, and sets the flag to what the
display answers. -/
theorem cycle_of_draw_ok (hcomes : m.core.ComesTo (.draw x y n)) (hrows : ¬ m.core.LacksRows n)
    {collided : Bool} {display : D}
    (hdraw : Display.draw (m.core.reg x) (m.core.reg y)
      ((m.core.memory.spriteRows m.core.registers.i n).map unpackRow) m.display =
        (.ok collided, display)) :
    m.cycle = (.ok (), { m.fetched with
      core := { m.core with registers := m.core.registers.setFlag collided }.advance
      display := display }) := by
  have hsprite : Memory.HasSprite m.core.registers.i n :=
    Decidable.not_not.1 (mt Core.lacksRows_iff.2 hrows)
  have hdisplay : m.fetched.display = m.display := rfl
  rw [m.cycle_of_encodes hcomes.skips hcomes.canFetch hcomes.encodes, request, Core.execute_draw,
    if_pos hsprite, serve, hdisplay, hdraw]
  rfl

/-- A sprite on a display that keeps a frame of 64 by 32 pixels. If not all of its rows are there, the
cycle fails, and the core and the display are as they were. If they are, the cycle succeeds: the pixels
that the sprite strikes are inverted and no others, memory is as it was, and the flag register is one or
zero by whether a struck pixel was lit. Where the sprite is drawn and what it consists of is read off
the core before the cycle, so the flag register can give a coordinate and still take the flag. -/
theorem draw_inverts_struck {holds : D → Frame → Prop} (hkeeps : Display.Keeps holds)
    {p : Picture 64 32} (hframe : holds m.display ⟨64, 32, p⟩)
    (hcomes : m.core.ComesTo (.draw x y n)) :
    let after := m.cycle.2
    (m.core.LacksRows n → m.cycle.1 = .error m.rangeFault ∧
      after.core = m.core ∧ after.display = m.display) ∧
    (¬ m.core.LacksRows n → m.cycle.1 = .ok () ∧
      (∃ q : Picture 64 32, holds after.display ⟨64, 32, q⟩ ∧ ∀ cx < 64, ∀ cy < 32,
        (q.pixel cx cy ≠ p.pixel cx cy ↔ m.core.Strikes x y n cx cy)) ∧
      after.core.memory = m.core.memory ∧
      after.core.reg Reg.flag = if m.core.Collides x y n p then 1 else 0) := by
  refine ⟨fun hlacks => ?_, fun hrows => ?_⟩
  · rw [cycle_of_lacksRows hcomes hlacks]
    exact ⟨rfl, rfl, rfl⟩
  · obtain ⟨hstruck, hcollides⟩ := Core.draw_spriteRows (x := x) (y := y) p hrows
    obtain ⟨hanswer, hheld⟩ := hkeeps.draw hframe (m.core.reg x) (m.core.reg y)
      ((m.core.memory.spriteRows m.core.registers.i n).map unpackRow)
    rw [cycle_of_draw_ok hcomes hrows (Prod.ext hanswer rfl)]
    refine ⟨rfl, ⟨_, hheld, hstruck⟩, rfl, ?_⟩
    rw [Core.reg_flag_setFlag]
    exact if_congr hcollides rfl rfl

/-- A machine without hardware whose display is watched. -/
def supervised : Machine (Monitored DisplayCall DeviceError Headless) Scripted Silent where
  config := headless.config
  core := headless.core
  display := { inner := headless.display }
  keypad := {}
  buzzer := {}

/-- It has drawn the glyph of zero around a corner, and is about to do so again, with the flag register
as both coordinates. -/
def redrawing : Machine (Monitored DisplayCall DeviceError Headless) Scripted Silent :=
  supervised.performAll [.load [0x6f, 0x3f, 0xf0, 0x29, 0xdf, 0xf5, 0x6f, 0x3f, 0xdf, 0xf5], .cycle,
    .cycle, .cycle, .cycle]

/-- The second drawing puts out what the first one has lit. -/
theorem draw_inverts_struck_redrawing :
    let before := redrawing.display.inner.picture
    redrawing.core.reg Reg.flag = 63 ∧ before.pixel 0 31 = true ∧ redrawing.cycle.1 = .ok () ∧
      redrawing.cycle.2.core.reg Reg.flag = 1 ∧
      redrawing.cycle.2.display.inner.picture.pixel 0 31 = false := by
  intro before
  obtain ⟨hskips, hfetch, hword⟩ : redrawing.core.skips = 0 ∧ redrawing.core.CanFetch ∧
      redrawing.core.word = 0xdff5 := by decide +kernel
  have hencodes : (Instruction.draw Reg.flag Reg.flag 5).Encodes redrawing.core.word := by
    rw [hword]
    rfl
  have hplan : ∀ name, redrawing.display.plan name = none := by
    intro name
    rw [← Option.isNone_iff_eq_none]
    cases name <;> decide +kernel
  obtain ⟨hwidth, hheight⟩ : redrawing.display.inner.frame.width = 64 ∧
      redrawing.display.inner.frame.height = 32 := by decide +kernel
  obtain ⟨p, hframe⟩ := Frame.exists_picture hwidth hheight
  have hbefore : before.pixel 0 31 = p.pixel 0 31 := Headless.pixel_of_frame hframe 0 31
  have hlit : before.pixel 0 31 = true := by decide +kernel
  have hrows : ¬ redrawing.core.LacksRows (5 : Fin 16) := by decide +kernel
  have hstrikes : redrawing.core.Strikes Reg.flag Reg.flag (5 : Fin 16) 0 31 := by decide +kernel
  have hcollides : redrawing.core.Collides Reg.flag Reg.flag (5 : Fin 16) p :=
    ⟨0, by decide, 31, by decide, hstrikes, hbefore ▸ hlit⟩
  obtain ⟨-, hdraws⟩ := draw_inverts_struck (Monitored.keeps Headless.keeps) ⟨hplan, hframe⟩
    ⟨hskips, hfetch, hencodes⟩
  obtain ⟨hok, ⟨q, ⟨-, hq⟩, hstruck⟩, -, hflag⟩ := hdraws hrows
  have hchanged : q.pixel 0 31 ≠ true := by
    rw [← hlit, hbefore]
    exact (hstruck 0 (by decide) 31 (by decide)).2 hstrikes
  refine ⟨by decide +kernel, hlit, hok, hflag.trans (if_pos hcollides), ?_⟩
  rw [Headless.pixel_of_frame hq]
  exact Bool.eq_false_of_not_eq_true hchanged

end Machine

end Cosmac
