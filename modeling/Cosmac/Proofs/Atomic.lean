import Cosmac.Proofs.Request

/-!
# Instructions that fail have changed nothing

The steps of an instruction are not undone when a later one fails, so an instruction that fails leaves
the core alone only because of the order of its steps. Each instruction starts with steps that look at
the core and leave it alone (`Work.Looks`); at most one step then changes the core or fails; and all
steps after it are sure to succeed (`Work.Sure`). Work of this form is atomic (`Looks.bind`,
`Atomic.bind`), and so is every instruction (`atomic_execute`).

The steps that write more than once rely on the numbers of the registers that they write: an
instruction names one of sixteen, and a load sets at most sixteen of them (`sure_setFrom`).
-/

namespace Cosmac.Work

variable {D K B α β : Type}

/-- Work that leaves the core alone, whether it succeeds or not. -/
def Looks (w : Work D K B α) : Prop := ∀ m, (w.on m).2.core = m.core

/-- Work that succeeds on every machine. -/
def Sure (w : Work D K B α) : Prop := ∀ m, ∃ a, (w.on m).1 = .ok a

/-- Work that leaves the core alone when it fails. -/
def Atomic (w : Work D K B α) : Prop := ∀ m f, (w.on m).1 = .error f → (w.on m).2.core = m.core

/-! ## Work in a row -/

section Rows

variable {w : Work D K B α} {next : α → Work D K B β}

theorem Sure.atomic (h : w.Sure) : w.Atomic := by
  intro m f hf
  obtain ⟨a, ha⟩ := h m
  rw [ha] at hf
  cases hf

/-- A look can come before anything that is atomic after what the look can give. -/
theorem Looks.bind (h : w.Looks) (hnext : ∀ m a, (w.on m).1 = .ok a → (next a).Atomic) :
    (w >>= next).Atomic := by
  intro m f
  have hcore := h m
  have hatomic := hnext m
  rw [on_bind]
  generalize w.on m = reached at hcore hatomic ⊢
  rcases reached with ⟨cause | a, after⟩
  · intro _
    exact hcore
  · intro hf
    exact (hatomic a rfl after f hf).trans hcore

/-- Sure work can come after anything that is atomic. -/
theorem Atomic.bind (h : w.Atomic) (hnext : ∀ a, (next a).Sure) : (w >>= next).Atomic := by
  intro m f
  have hatomic := h m
  rw [on_bind]
  generalize w.on m = reached at hatomic ⊢
  rcases reached with ⟨cause | a, after⟩
  · intro _
    exact hatomic cause rfl
  · intro hf
    obtain ⟨b, hb⟩ := hnext a after
    have hf : ((next a).on after).1 = .error f := hf
    rw [hb] at hf
    cases hf

theorem Sure.bind (h : w.Sure) (hnext : ∀ a, (next a).Sure) : (w >>= next).Sure := by
  intro m
  obtain ⟨a, ha⟩ := h m
  rw [on_bind]
  generalize w.on m = reached at ha ⊢
  obtain ⟨result, after⟩ := reached
  cases ha
  exact hnext a after

end Rows

/-! ## Single steps -/

theorem looks_core : (core : Work D K B Core).Looks := fun _ => rfl

theorem looks_look (read : Core → Except Fault α) : (look read : Work D K B α).Looks := by
  intro m
  rw [on_look]

theorem looks_reg (x : Reg) : (reg x : Work D K B UInt8).Looks := looks_look _

theorem looks_askDisplay (call : D → Reply DeviceError α D) :
    (askDisplay call : Work D K B α).Looks := by
  intro m
  rw [on_askDisplay]

theorem looks_askKeypad (call : K → Reply DeviceError α K) :
    (askKeypad call : Work D K B α).Looks := by
  intro m
  rw [on_askKeypad]

theorem sure_pure (a : α) : (pure a : Work D K B α).Sure := fun _ => ⟨a, rfl⟩

theorem sure_core : (core : Work D K B Core).Sure := fun m => ⟨m.core, rfl⟩

theorem sure_get : (get : Work D K B (Machine D K B)).Sure := fun m => ⟨m, rfl⟩

theorem sure_change (f : Core → Core) : (change f : Work D K B Unit).Sure := fun _ => ⟨(), rfl⟩

theorem sure_reg (x : Reg) : (reg x : Work D K B UInt8).Sure := by
  intro m
  rw [on_reg]
  exact ⟨_, rfl⟩

theorem sure_setReg (x : Reg) (value : UInt8) : (setReg x value : Work D K B Unit).Sure := by
  intro m
  rw [on_setReg]
  exact ⟨(), rfl⟩

/-- Setting registers one after the other succeeds as long as there are so many. -/
theorem sure_setFrom {values : List UInt8} (h : values.length ≤ 16) :
    (setFrom 0 values : Work D K B Unit).Sure := by
  intro m
  rw [on_setFrom_zero m h]
  exact ⟨(), rfl⟩

theorem sure_randomByte : (randomByte : Work D K B UInt8).Sure := fun m => ⟨m.core.random.byte, rfl⟩

theorem sure_isDown [Keypad K] (key : UInt8) : (isDown key : Work D K B Bool).Sure :=
  fun m => ⟨Keypad.isDown m.keypad key, rfl⟩

theorem sure_jump (address : Address) : (jump address : Work D K B Bool).Sure :=
  fun _ => ⟨true, rfl⟩

theorem sure_skipIf (condition : Bool) : (skipIf condition : Work D K B Bool).Sure :=
  fun _ => ⟨false, rfl⟩

theorem atomic_tryChange (f : Core → Except Fault Core) :
    (tryChange f : Work D K B Unit).Atomic :=
  (looks_look f).bind fun _ _ _ => (sure_change _).atomic

theorem sure_calculate (op : AluOp) (x y : Reg) : (calculate op x y : Work D K B Unit).Sure := by
  intro m
  rw [on_calculate]
  exact ⟨(), rfl⟩

/-! ## Instructions -/

variable [Display D] [Keypad K]

/-- An instruction that fails has left the core alone. -/
theorem atomic_execute (i : Instruction) : (execute i : Work D K B Bool).Atomic := by
  cases i with
  -- Instructions on registers have no step that fails.
  | jump target => exact (sure_jump target).atomic
  | setIndex address => exact ((sure_change _).bind fun _ => sure_pure false).atomic
  | setByte x byte => exact ((sure_setReg x byte).bind fun _ => sure_pure false).atomic
  | alu op x y => exact ((sure_calculate op x y).bind fun _ => sure_pure false).atomic
  | skipIfByte x | skipUnlessByte x => exact ((sure_reg x).bind fun _ => sure_skipIf _).atomic
  | skipIfSame x y | skipUnlessSame x y =>
    exact ((sure_reg x).bind fun _ => (sure_reg y).bind fun _ => sure_skipIf _).atomic
  | jumpOffset base => exact ((sure_reg _).bind fun _ => sure_jump _).atomic
  | addByte x byte =>
    exact ((sure_reg x).bind fun _ => (sure_setReg x _).bind fun _ => sure_pure false).atomic
  | random x mask =>
    -- The generator moves on before the register is set, so the register has to be there.
    exact (sure_randomByte.bind fun _ => (sure_setReg x _).bind fun _ => sure_pure false).atomic
  | readDelay x =>
    exact (sure_core.bind fun _ => (sure_setReg x _).bind fun _ => sure_pure false).atomic
  | setDelay x | setSound x | setGlyph x =>
    exact ((sure_reg x).bind fun _ => (sure_change _).bind fun _ => sure_pure false).atomic
  | addIndex x =>
    exact ((sure_reg x).bind fun _ => sure_core.bind fun _ => (sure_change _).bind fun _ =>
      sure_pure false).atomic
  | skipIfKey x =>
    exact ((sure_reg x).bind fun key => (sure_isDown key).bind fun _ => sure_skipIf _).atomic
  | skipByKey x =>
    refine ((sure_reg x).bind fun key => (sure_isDown key).bind fun down =>
      sure_get.bind fun m => ?_).atomic
    split
    · exact sure_skipIf _
    · exact sure_skipIf _
  -- A device is asked before anything is written, and what it gives is then written for certain.
  | clear => exact (looks_askDisplay _).bind fun _ _ _ => (sure_pure false).atomic
  | draw x y height =>
    refine (looks_reg x).bind fun _ column _ => (looks_reg y).bind fun _ row _ =>
      (looks_look _).bind fun _ data _ => (looks_askDisplay _).bind fun _ collided _ => ?_
    exact ((sure_change _).bind fun _ => sure_pure false).atomic
  | awaitKey x =>
    refine (looks_askKeypad _).bind fun _ key _ => ?_
    exact ((sure_setReg x key).bind fun _ => (sure_change _).bind fun _ => sure_pure false).atomic
  -- The check of the stack or of memory is made by the first step that writes.
  | ret => exact (atomic_tryChange _).bind fun _ => sure_pure false
  | call target => exact (atomic_tryChange _).bind fun _ => sure_jump target
  | storeDigits x =>
    refine (looks_reg x).bind fun _ vx _ => looks_core.bind fun _ c _ => ?_
    exact (atomic_tryChange _).bind fun _ => sure_pure false
  | storeRegisters x =>
    -- The bytes are written before `I` moves, and `I` can always be moved.
    refine looks_core.bind fun _ c _ => looks_core.bind fun _ c' _ => ?_
    exact (atomic_tryChange _).bind fun _ => (sure_change _).bind fun _ => sure_pure false
  | loadRegisters x =>
    refine looks_core.bind fun _ c _ => (looks_look _).bind fun m bytes hbytes => ?_
    -- The registers are set one by one, and as many bytes were read as there are registers to set.
    have hlen : bytes.length ≤ 16 := by
      have hx := x.isLt
      rw [on_look] at hbytes
      rw [Memory.length_of_read hbytes]
      omega
    exact ((sure_setFrom hlen).bind fun _ => (sure_change _).bind fun _ => sure_pure false).atomic

/-- A word that fails has left the core alone. -/
theorem atomic_executeWord (w : Word) : (executeWord w : Work D K B Unit).Atomic := by
  unfold executeWord
  split
  · exact looks_core.bind fun _ c _ m _ _ => rfl
  · refine (atomic_execute _).bind fun jumped => ?_
    cases jumped
    · exact sure_change _
    · exact sure_pure _

end Cosmac.Work
