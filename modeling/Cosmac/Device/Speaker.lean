import Cosmac.Device

/-!
# A buzzer on the speaker of the computer

The computer has one speaker, which is told the pitch of the tone to sound. Telling it may fail, since
not everybody may use the console that it belongs to. A `Beeper` has a single tone, remembers whether it
sounds, and tells the speaker only what is news to it. When the speaker fails, the beeper takes the tone
to be as it was.

A program that may do without the speaker has one of two buzzers, chosen when it starts.
-/

namespace Cosmac

/-- Speakers. -/
class Speaker (σ : Type) where
  /-- Sounds a tone of a pitch in hertz, or none at pitch zero. -/
  sound : Nat → σ → Reply String Unit σ

/-- A buzzer that sounds its tone on a speaker. -/
structure Beeper (σ : Type) where
  speaker : σ
  isBeeping : Bool := false

namespace Beeper

variable {σ : Type} [Speaker σ]

/-- The pitch of the tone in hertz, a C. -/
def pitch : Nat := 2093

/-- Starts the tone, unless it is on. -/
def beep (b : Beeper σ) : Reply String Unit (Beeper σ) :=
  if b.isBeeping then (.ok (), b)
  else
    match Speaker.sound pitch b.speaker with
    | (.ok _, speaker) => (.ok (), { speaker, isBeeping := true })
    | (.error text, speaker) => (.error text, { b with speaker := speaker })

/-- Ends the tone, if it is on. -/
def stop (b : Beeper σ) : Reply String Unit (Beeper σ) :=
  if b.isBeeping then
    match Speaker.sound 0 b.speaker with
    | (.ok _, speaker) => (.ok (), { speaker, isBeeping := false })
    | (.error text, speaker) => (.error text, { b with speaker := speaker })
  else (.ok (), b)

instance : Buzzer (Beeper σ) where
  beep := beep
  stop := stop
  isBeeping b := b.isBeeping

end Beeper

/-- One of two buzzers is a buzzer. -/
instance {A B : Type} [Buzzer A] [Buzzer B] : Buzzer (A ⊕ B) where
  beep
    | .inl a => (Buzzer.beep a).map id .inl
    | .inr b => (Buzzer.beep b).map id .inr
  stop
    | .inl a => (Buzzer.stop a).map id .inl
    | .inr b => (Buzzer.stop b).map id .inr
  isBeeping
    | .inl a => Buzzer.isBeeping a
    | .inr b => Buzzer.isBeeping b

/-- A speaker that never fails and knows what it was told last. -/
structure Bell where
  pitch : Nat := 0
  deriving DecidableEq, Repr

instance : Speaker Bell where
  sound pitch _ := (.ok (), ⟨pitch⟩)

end Cosmac
