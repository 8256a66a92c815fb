import Cosmac.Device.Headless
import Cosmac.Device.Monitored
import Cosmac.Terminal.Screen

/-!
# Displays that keep a frame

A frame is a picture together with its size. `Frame.perform` says what each of the four requests to a
display does to a frame and what the answer is, and a display keeps a frame if it does just that and
never fails (`Display.Keeps`). The display without hardware, the display in a terminal and a display
under watch for which no failure is planned all do.

Displays that keep a frame cannot be told apart by their answers: after the same requests they have
given the same answers and hold the same frame (`Display.Keeps.agree`). Each has its own way to hold
one, so what a display shows, counts or records besides is left open.
-/

namespace Cosmac

/-- What can be asked of a display. -/
inductive Display.Request
  | setExtents (w h : Nat)
  | clear
  | draw (x y : UInt8) (rows : List Row)
  | refresh

/-- A picture and its size. -/
structure Frame where
  width : Nat
  height : Nat
  picture : Picture width height

namespace Frame

/-- A frame of a given size has a picture of this size. -/
theorem exists_picture {f : Frame} {w h : Nat} (hw : f.width = w) (hh : f.height = h) :
    ∃ p : Picture w h, f = ⟨w, h, p⟩ := by
  subst hw hh
  exact ⟨f.picture, rfl⟩

/-- A frame with no pixel lit. -/
def blank (w h : Nat) : Frame := ⟨w, h, Picture.blank w h⟩

/-- Draws a sprite. Gives whether a lit pixel was put out. -/
def draw (f : Frame) (x y : UInt8) (rows : List Row) : Bool × Frame :=
  ((f.picture.draw x y rows).1, ⟨f.width, f.height, (f.picture.draw x y rows).2⟩)

/-- Does what is asked of a display. Only a sprite has an answer. -/
def perform (f : Frame) : Display.Request → Option Bool × Frame
  | .setExtents w h => (none, blank w h)
  | .clear => (none, blank f.width f.height)
  | .draw x y rows => ((f.draw x y rows).1, (f.draw x y rows).2)
  | .refresh => (none, f)

end Frame

namespace Display

variable {D : Type} [Display D]

/-- Asks something of a display. -/
def perform (d : D) : Request → Reply DeviceError (Option Bool) D
  | .setExtents w h => (setExtents w h d).map (Except.map fun _ => none) id
  | .clear => (clear d).map (Except.map fun _ => none) id
  | .draw x y rows => (draw x y rows d).map (Except.map some) id
  | .refresh => (refresh d).map (Except.map fun _ => none) id

/-- The display after some requests. -/
def after (d : D) (requests : List Request) : D := requests.foldl (fun d r => (perform d r).2) d

/-- The answers to some requests, the first one first. -/
def answers (d : D) : List Request → List (Except DeviceError (Option Bool))
  | [] => []
  | r :: requests => (perform d r).1 :: answers (perform d r).2 requests

/-- What is asked of a display that keeps a frame: as long as it `holds` one, it does every request on
it and succeeds, and the answer to a sprite is the frame's. -/
structure Keeps (holds : D → Frame → Prop) : Prop where
  setExtents : ∀ {d f}, holds d f → ∀ w h,
    (setExtents w h d).1 = .ok () ∧ holds (setExtents w h d).2 (.blank w h)
  clear : ∀ {d f}, holds d f →
    (clear d).1 = .ok () ∧ holds (clear d).2 (.blank f.width f.height)
  draw : ∀ {d f}, holds d f → ∀ x y rows,
    (draw x y rows d).1 = .ok (f.draw x y rows).1 ∧ holds (draw x y rows d).2 (f.draw x y rows).2
  refresh : ∀ {d f}, holds d f → (refresh d).1 = .ok () ∧ holds (refresh d).2 f

namespace Keeps

variable {holds : D → Frame → Prop} {d : D} {f : Frame}

/-- A display that keeps a frame does what is asked of it on the frame. -/
theorem perform (hkeeps : Keeps holds) (h : holds d f) (r : Request) :
    (perform d r).1 = .ok (f.perform r).1 ∧ holds (Display.perform d r).2 (f.perform r).2 := by
  cases r with
  | setExtents w hgt =>
    obtain ⟨hok, hheld⟩ := hkeeps.setExtents h w hgt
    exact ⟨congrArg (Except.map fun _ => none) hok, hheld⟩
  | clear =>
    obtain ⟨hok, hheld⟩ := hkeeps.clear h
    exact ⟨congrArg (Except.map fun _ => none) hok, hheld⟩
  | draw x y rows =>
    obtain ⟨hok, hheld⟩ := hkeeps.draw h x y rows
    exact ⟨congrArg (Except.map some) hok, hheld⟩
  | refresh =>
    obtain ⟨hok, hheld⟩ := hkeeps.refresh h
    exact ⟨congrArg (Except.map fun _ => none) hok, hheld⟩

/-- Displays that hold the same frame give the same answers, and hold the same frame afterwards. -/
theorem agree {E : Type} [Display E] {holdsToo : E → Frame → Prop} (hkeeps : Keeps holds)
    (hkeepsToo : Keeps holdsToo) {e : E} (h : holds d f) (htoo : holdsToo e f)
    (requests : List Request) : answers d requests = answers e requests ∧
      ∃ f', holds (after d requests) f' ∧ holdsToo (after e requests) f' := by
  induction requests generalizing d e f with
  | nil => exact ⟨rfl, f, h, htoo⟩
  | cons r requests ih =>
    obtain ⟨hanswer, hheld⟩ := hkeeps.perform h r
    obtain ⟨hanswerToo, hheldToo⟩ := hkeepsToo.perform htoo r
    obtain ⟨hanswers, hframe⟩ := ih hheld hheldToo
    refine ⟨?_, hframe⟩
    rw [answers, answers, hanswer, hanswerToo, hanswers]

/-- A display that is told a size holds a blank frame of this size, whatever it held before. -/
theorem agree_of_setExtents {E : Type} [Display E] {holdsToo : E → Frame → Prop}
    (hkeeps : Keeps holds) (hkeepsToo : Keeps holdsToo) {e : E} {g : Frame} (h : holds d f)
    (htoo : holdsToo e g) (width height : Nat) (requests : List Request) :
    answers d (.setExtents width height :: requests) =
        answers e (.setExtents width height :: requests) ∧
      ∃ f', holds (after d (.setExtents width height :: requests)) f' ∧
        holdsToo (after e (.setExtents width height :: requests)) f' := by
  obtain ⟨hanswer, hheld⟩ := hkeeps.perform h (.setExtents width height)
  obtain ⟨hanswerToo, hheldToo⟩ := hkeepsToo.perform htoo (.setExtents width height)
  obtain ⟨hanswers, hframe⟩ := agree hkeeps hkeepsToo hheld hheldToo requests
  refine ⟨?_, hframe⟩
  rw [answers, answers, hanswer, hanswerToo, hanswers]
  rfl

end Keeps

end Display

/-! ## The displays at hand -/

/-- The frame of the display without hardware. -/
def Headless.frame (d : Headless) : Frame := ⟨d.width, d.height, d.picture⟩

/-- The pixels of a frame are those of the picture in it. -/
theorem Headless.pixel_of_frame {d : Headless} {w h : Nat} {p : Picture w h}
    (hframe : d.frame = ⟨w, h, p⟩) (x y : Nat) : d.picture.pixel x y = p.pixel x y :=
  congrArg (fun f : Frame => f.picture.pixel x y) hframe

theorem Headless.keeps : Display.Keeps fun (d : Headless) f => d.frame = f where
  setExtents h _ _ := by subst h; exact ⟨rfl, rfl⟩
  clear h := by subst h; exact ⟨rfl, rfl⟩
  draw h _ _ _ := by subst h; exact ⟨rfl, rfl⟩
  refresh h := ⟨rfl, h⟩

/-- The frame of the display in a terminal. -/
def TerminalScreen.frame (d : TerminalScreen) : Frame := ⟨d.width, d.height, d.picture⟩

/-- What is to be shown does not depend on what is shown. -/
theorem TerminalScreen.frame_refresh (d : TerminalScreen) : d.refresh.frame = d.frame := by
  unfold refresh
  split <;> rfl

theorem TerminalScreen.keeps : Display.Keeps fun (d : TerminalScreen) f => d.frame = f where
  setExtents h _ _ := by subst h; exact ⟨rfl, rfl⟩
  clear h := by subst h; exact ⟨rfl, rfl⟩
  draw h _ _ _ := by subst h; exact ⟨rfl, rfl⟩
  refresh h := by subst h; exact ⟨rfl, frame_refresh _⟩

/-- If no failure is planned, a call that is passed on succeeds as it does on the watched device, which
it leaves in the same state. -/
theorem Monitored.attempt_of_noPlan {ι ε σ α : Type} [DecidableEq ι] {d : Monitored ι ε σ}
    (hplan : ∀ n, d.plan n = none) {call : σ → Reply ε α σ} {answer : α} {P : σ → Prop}
    (hcall : (call d.inner).1 = .ok answer ∧ P (call d.inner).2) (name : ι) :
    (d.attempt name call).1 = .ok answer ∧
      (∀ n, (d.attempt name call).2.plan n = none) ∧ P (d.attempt name call).2.inner := by
  have hplanned : d.planned name = none := by rw [planned, hplan name]
  rw [attempt, hplanned]
  exact ⟨hcall.1, hplan, hcall.2⟩

/-- A display under watch keeps the frame of the watched one as long as no failure is planned. -/
theorem Monitored.keeps {σ : Type} [Display σ] {holds : σ → Frame → Prop}
    (hkeeps : Display.Keeps holds) : Display.Keeps
      fun (d : Monitored DisplayCall DeviceError σ) f =>
        (∀ name, d.plan name = none) ∧ holds d.inner f where
  setExtents h w hgt :=
    attempt_of_noPlan h.1 (P := (holds · _)) (hkeeps.setExtents h.2 w hgt) .setExtents
  clear h := attempt_of_noPlan h.1 (P := (holds · _)) (hkeeps.clear h.2) .clear
  draw h x y rows :=
    attempt_of_noPlan h.1 (P := (holds · _)) (hkeeps.draw h.2 x y rows) .draw
  refresh h := attempt_of_noPlan h.1 (P := (holds · _)) (hkeeps.refresh h.2) .refresh

end Cosmac
