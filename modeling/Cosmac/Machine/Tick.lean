import Cosmac.Machine

/-!
# The passing of time

Time reaches the machine through `tick`, which lets the timers count down, has the display refreshed
if they ticked at all, and then starts or ends the tone of the buzzer. A display that fails ends the
tick before the buzzer's turn.

A buzzer that fails is given up: a notice is given and it is never used again. So the buzzer decides
nothing but its own fate.
-/

namespace Cosmac.Machine

variable {D K B : Type}

/-- Makes a call of the buzzer, and gives the buzzer up if it fails. -/
def callBuzzer (m : Machine D K B) (call : B → Reply String Unit B) : Machine D K B :=
  match call m.buzzer with
  | (.ok _, buzzer) => { m with buzzer := buzzer }
  | (.error text, buzzer) =>
    { m with buzzer := buzzer, buzzerOn := false }.note (.buzzerLost text)

/-- Has the buzzer sound exactly while the sound timer runs. -/
def updateBuzzer [Buzzer B] (m : Machine D K B) : Machine D K B :=
  if m.buzzerOn then
    match m.core.timers.isSounding, Buzzer.isBeeping m.buzzer with
    | true, false => m.callBuzzer Buzzer.beep
    | false, true => m.callBuzzer Buzzer.stop
    | _, _ => m
  else m

/-- Lets `elapsed` nanoseconds go by for the timers. Gives the number of ticks. -/
def advanceTimers (m : Machine D K B) (elapsed : Nat) : Nat × Machine D K B :=
  let (ticks, timers) := m.core.timers.advance elapsed
  let after := { m with core := { m.core with timers := timers } }
  (ticks, after.noteAll (timers.tickNotices ticks))

/-- Lets `elapsed` nanoseconds go by. Gives the number of ticks of the timers. -/
def tick [Display D] [Buzzer B] (m : Machine D K B) (elapsed : Nat) :
    Except Fault Nat × Machine D K B :=
  let (ticks, m) := m.advanceTimers elapsed
  if 0 < ticks then
    match Display.refresh m.display with
    | (.ok _, display) => (.ok ticks, { m with display := display }.updateBuzzer)
    | (.error e, display) => (.error (.device e), { m with display := display })
  else (.ok ticks, m.updateBuzzer)

end Cosmac.Machine
