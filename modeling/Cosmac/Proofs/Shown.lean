import Cosmac.Proofs.Bitplanes
import Cosmac.Proofs.Canvas
import Cosmac.Proofs.Frames

/-!
# What a terminal shows

The display in a terminal keeps a frame, and the terminal shows the frame of the last time something
was painted on it. So the terminal is a cache of the frame, and `dirty` says whether it may be stale.

What is painted is right. The scene of a picture that a terminal can hold is to scale and fits it
(`fits_sceneOf`), and its last layer with the point of a pixel is the one of the pixel's colour
(`markAt_sceneOf`). So whoever paints it as is relied on, the terminal has the mark of each pixel where
the pixel is (`painted_shows`). And it is never stale unseen: every request that changes the frame makes
the display dirty (`Coherent.perform`). Together with `Display.Keeps.agree` this gives
`shows_held_frame`, which compares the terminal with the display without hardware.
-/

namespace Cosmac

namespace Terminal

variable {w h : Nat} {size : Size} {painter : Painter}

/-- A terminal can hold a picture of a size, which has two columns and two rows at least, in a box. -/
structure Size.Holds (size : Size) (w h : Nat) : Prop where
  width : 2 ≤ w
  height : 2 ≤ h
  columns : w + 2 ≤ size.columns
  rows : h + 2 ≤ size.rows

/-! ## The scene of a picture -/

/-- The box of a picture that a terminal can hold has the size of the picture and its edges. -/
theorem Size.Holds.area (hholds : size.Holds w h) (p : Picture w h) :
    (sceneOf p).area.width.toNat = w + 2 ∧ (sceneOf p).area.height.toNat = h + 2 := by
  obtain ⟨hw, hh, hcolumns, hrows⟩ := hholds
  have hbounded := size.bounded
  -- Each side is shorter than the number of characters, so sixteen bits hold it.
  have hacross : size.columns ≤ size.columns * size.rows := Nat.le_mul_of_pos_right _ (by omega)
  have hdown : size.rows ≤ size.columns * size.rows := Nat.le_mul_of_pos_left _ (by omega)
  have hside : ∀ n, n + 2 < 0x10000 → (2 + UInt16.ofNat n).toNat = n + 2 := by
    intro n hn
    rw [UInt16.toNat_add, UInt16.toNat_ofNat']
    have htwo : (2 : UInt16).toNat = 2 := rfl
    omega
  exact ⟨hside w (by omega), hside h (by omega)⟩

/-- The horizontal axis runs over the columns. -/
theorem xBounds_eq (hw : 0 < w) : xBounds w = (0, (w : Int) - 1) := by
  refine Prod.ext rfl ?_
  simp only [xBounds]
  omega

/-- The vertical axis runs over the rows, upwards. -/
theorem yBounds_eq (hh : 0 < h) : yBounds h = (1 - (h : Int), 0) := by
  refine Prod.ext ?_ rfl
  simp only [yBounds]
  omega

/-- The scene of a picture fits a terminal that can hold the picture. -/
theorem fits_sceneOf (hholds : size.Holds w h) (p : Picture w h) : (sceneOf p).Fits size := by
  obtain ⟨hwidth, hheight⟩ := hholds.area p
  obtain ⟨hw, hh, hcolumns, hrows⟩ := hholds
  have hx : (sceneOf p).xBounds = (0, (w : Int) - 1) := xBounds_eq (by omega)
  have hy : (sceneOf p).yBounds = (1 - (h : Int), 0) := yBounds_eq (by omega)
  refine ⟨⟨rfl, rfl⟩, by omega, by omega, ?_, ?_, ?_, ?_⟩
  · rw [hx]
    dsimp only
    omega
  · rw [hy]
    dsimp only
    omega
  · rw [hx, hwidth]
    dsimp only
    omega
  · rw [hy, hheight]
    dsimp only
    omega

/-- The scene of a picture has the mark of each pixel for the pixel's point. -/
theorem markAt_sceneOf (p : Picture w h) {x y : Nat} (hx : x < w) (hy : y < h) :
    (sceneOf p).markAt (x, -(y : Int)) = some (if p.pixel x y then litMark else unlitMark) := by
  obtain ⟨hinside, hpixel⟩ := p.pixel_eq_cell hx hy
  have hmem : ∀ lit, (x, -(y : Int)) ∈ p.points lit ↔ p.pixel x y = lit := by
    intro lit
    rw [hpixel, ← Picture.pointOf_number hx, p.pointOf_mem_points hinside]
  have hlayers : (sceneOf p).layers.reverse =
      [⟨litMark, p.points true⟩, ⟨unlitMark, p.points false⟩] := rfl
  rw [Scene.markAt, hlayers]
  cases hlit : p.pixel x y with
  | true => simp [Layer.markAt, hmem, hlit]
  | false => simp [Layer.markAt, hmem, hlit]

/-! ## The box -/

/-- Some rows of characters show a frame: inside an edge there is one character for each pixel, which is
the mark of a lit one exactly where the pixel is lit. -/
structure Shows (rows : List (List Char)) (f : Frame) : Prop where
  height : rows.length = f.height + 2
  width : ∀ row ∈ rows, row.length = f.width + 2
  marks : ∀ x < f.width, ∀ y < f.height, (rows[y + 1]?.bind fun row => row[x + 1]?) =
    some (if f.picture.pixel x y then litMark else unlitMark)

/-- A terminal on which a picture was painted shows the picture. -/
theorem painted_shows (hpainter : painter.Draws size) (hholds : size.Holds w h) (p : Picture w h)
    (before : List (List Char)) : Shows (painter (sceneOf p) before) ⟨w, h, p⟩ where
  height := (hpainter.height _ before (fits_sceneOf hholds p)).trans (hholds.area p).2
  width row hrow := (hpainter.width _ before (fits_sceneOf hholds p) row hrow).trans (hholds.area p).1
  marks := by
    intro x hx y hy
    have hx : x < w := hx
    have hy : y < h := hy
    have hacross : (sceneOf p).xBounds = (0, (w : Int) - 1) := xBounds_eq (by omega)
    have hupward : (sceneOf p).yBounds = (1 - (h : Int), 0) := yBounds_eq (by omega)
    have hspans : (sceneOf p).Spans (x, -(y : Int)) := by
      refine ⟨?_, ?_, ?_, ?_⟩ <;> simp only [hacross, hupward] <;> omega
    have hcolumn : (((x : Nat) : Int) - (sceneOf p).xBounds.1).toNat = x := by
      rw [hacross]
      dsimp only
      omega
    have hrow : ((sceneOf p).yBounds.2 - -((y : Nat) : Int)).toNat = y := by
      rw [hupward]
      dsimp only
      omega
    have hmarks := hpainter.marks _ before (fits_sceneOf hholds p) _ _ hspans (markAt_sceneOf p hx hy)
    rw [hcolumn, hrow] at hmarks
    exact hmarks

end Terminal

namespace Display

/-- What is asked makes sense in a terminal of a size: it can hold the pictures. -/
def Request.Fits (size : Terminal.Size) : Request → Prop
  | setExtents w h => size.Holds w h
  | _ => True

end Display

/-! ## The terminal -/

namespace TerminalScreen

variable {size : Terminal.Size} {d : TerminalScreen}

/-- The terminal is painted as is relied on and can hold the picture, and it shows the picture unless the
display is dirty. -/
structure Coherent (size : Terminal.Size) (d : TerminalScreen) : Prop where
  painter : d.painter.Draws size
  holds : size.Holds d.width d.height
  shown : d.dirty = false → Terminal.Shows d.shown d.frame

/-- A size is set on a blank terminal, so nothing is shown yet. -/
theorem coherent_setExtents {w h : Nat} (hpainter : d.painter.Draws size) (hholds : size.Holds w h) :
    (d.setExtents w h).Coherent size :=
  ⟨hpainter, hholds, nofun⟩

/-- After a refresh the terminal shows the picture, whether there was something to paint or not. -/
theorem Coherent.shows_refresh (h : d.Coherent size) :
    d.refresh.dirty = false ∧ Terminal.Shows d.refresh.shown d.refresh.frame := by
  rw [frame_refresh, refresh]
  cases hdirty : d.dirty with
  | true =>
    rw [if_pos rfl]
    exact ⟨rfl, Terminal.painted_shows h.painter h.holds d.picture d.shown⟩
  | false =>
    rw [if_neg Bool.false_ne_true]
    exact ⟨hdirty, h.shown hdirty⟩

/-- No request leaves a stale picture on the terminal unseen. -/
theorem Coherent.perform (h : d.Coherent size) {r : Display.Request} (hfits : r.Fits size) :
    (Display.perform d r).2.Coherent size := by
  cases r with
  | setExtents w hgt => exact coherent_setExtents h.painter hfits
  | clear => exact ⟨h.painter, h.holds, nofun⟩
  | draw x y rows => exact ⟨h.painter, h.holds, nofun⟩
  | refresh =>
    have hkept : d.refresh.painter = d.painter ∧ d.refresh.width = d.width ∧
        d.refresh.height = d.height := by
      unfold TerminalScreen.refresh
      split <;> exact ⟨rfl, rfl, rfl⟩
    obtain ⟨hpainter, hw, hh⟩ := hkept
    exact ⟨hpainter ▸ h.painter, hw ▸ hh ▸ h.holds, fun _ => h.shows_refresh.2⟩

/-- Neither do any number of requests. -/
theorem Coherent.after (h : d.Coherent size) {requests : List Display.Request}
    (hfits : ∀ r ∈ requests, r.Fits size) : (Display.after d requests).Coherent size := by
  induction requests generalizing d with
  | nil => exact h
  | cons r requests ih =>
    have hfirst : (Display.perform d r).2.Coherent size := h.perform (hfits r List.mem_cons_self)
    exact ih hfirst fun r hr => hfits r (List.mem_cons_of_mem _ hr)

/-- A display in a terminal and one without hardware that are asked for the same, first of all for a
size, give the same answers, if the terminal can hold all pictures and is painted as is relied on. As long
as the first one is not dirty, its terminal shows the picture that the second one holds, and each time
after it was asked to refresh, the terminal shows it too. -/
theorem shows_held_frame (size : Terminal.Size) (painter : Terminal.Painter)
    (hpainter : painter.Draws size) (width height : Nat) (other : Headless) (w h : Nat)
    (requests : List Display.Request) (hsize : size.Holds w h)
    (hfits : ∀ r ∈ requests, r.Fits size) :
    let all := .setExtents w h :: requests
    let screen := Display.after (openWith painter width height) all
    let headless := Display.after other all
    Display.answers (openWith painter width height) all = Display.answers other all ∧
      (screen.dirty = false → Terminal.Shows screen.shown headless.frame) ∧
      screen.refresh.dirty = false ∧ Terminal.Shows screen.refresh.shown headless.frame := by
  intro all screen headless
  obtain ⟨hanswers, f, hscreen, hheadless⟩ :=
    keeps.agree_of_setExtents Headless.keeps (d := openWith painter width height) (e := other) rfl rfl w
      h requests
  have hcoherent : screen.Coherent size := (coherent_setExtents hpainter hsize).after hfits
  have hframe : headless.frame = screen.frame := hheadless.trans hscreen.symm
  obtain ⟨hclean, hshows⟩ := hcoherent.shows_refresh
  rw [frame_refresh] at hshows
  rw [hframe]
  exact ⟨hanswers, hcoherent.shown, hclean, hshows⟩

/-- A terminal of a hundred columns and forty rows. -/
def hundredByForty : Terminal.Size := ⟨100, 40, by decide⟩

/-- Two cells in a row, the second of which wraps around, stand on the terminal when a refresh was asked
for, and still do after one more. -/
theorem shows_held_frame_wrapping :
    let requests : List Display.Request := [.draw 2 1 [unpackRow 0xc0], .refresh, .refresh]
    let screen := Display.after (openWith Terminal.paint 64 32) (.setExtents 3 2 :: requests)
    let headless := Display.after ({} : Headless) (.setExtents 3 2 :: requests)
    Terminal.Painter.Draws Terminal.paint hundredByForty ∧ hundredByForty.Holds 3 2 ∧
      screen.dirty = false ∧ screen.writes = 2 ∧
      screen.shown = ["┌CHI┐".toList, "│...│".toList, "│#.#│".toList, "└───┘".toList] ∧
      Terminal.Shows screen.shown headless.frame := by
  intro requests screen headless
  have hpainter := Terminal.paint_draws hundredByForty
  have hsize : hundredByForty.Holds 3 2 := ⟨by decide, by decide, by decide, by decide⟩
  have hfits : ∀ r ∈ requests, r.Fits hundredByForty := by
    simp only [requests, List.forall_mem_cons]
    exact ⟨trivial, trivial, trivial, nofun⟩
  obtain ⟨-, hshows, -⟩ := shows_held_frame hundredByForty Terminal.paint hpainter 64 32 {} 3 2 requests
    hsize hfits
  have hclean : screen.dirty = false := rfl
  exact ⟨hpainter, hsize, hclean, rfl, by decide, hshows hclean⟩

end TerminalScreen

end Cosmac
