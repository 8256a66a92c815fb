import Cosmac.Machine.Loop

/-!
# Passes and what surrounds them

A loop reads clocks, waits for events and sleeps by way of its surroundings, which may be the real world
or a simulation. `Surroundings` is all that a pass needs of them, in whatever monad they act. What a pass
does besides is what `Loop.begin` and `Loop.rest` do.
-/

namespace Cosmac

/-- What surrounds a loop. -/
structure Surroundings (μ : Type → Type) (D K B : Type) where
  /-- Lets the devices catch up with the time at the top of a pass, and reads the clock. -/
  wake : Machine D K B → μ (Nat × Machine D K B)
  /-- Attends to what a pass did. The machine is the one that the pass began with. -/
  attend : Machine D K B → Loop D K B → μ (Loop D K B)
  /-- Reads the clock after a wait for a key, and once more at the end of the pass. -/
  read : Machine D K B → μ (Nat × Nat)
  /-- Sleeps as long as the pass asks for. -/
  sleep : Loop D K B → μ (Loop D K B)

namespace Loop

variable {μ : Type → Type} [Monad μ] {D K B : Type} [Display D] [Keypad K] [Buzzer B]

/-- Runs one pass. The result is missing if the loop goes on. -/
def pass (around : Surroundings μ D K B) (l : Loop D K B) :
    μ (Option (Except Fault Unit) × Loop D K B) :=
  if l.isOver then return (some (.ok ()), l)
  else do
    let (now, woken) ← around.wake l.machine
    match { l with machine := woken }.begin now with
    | (.error f, l) => return (some (.error f), ← around.attend woken l)
    | (.ok _, l) =>
      let l ← around.attend woken l
      let (resumed, ended) ← around.read l.machine
      return (none, ← around.sleep (l.rest resumed ended))

end Loop

end Cosmac
