import Cosmac.Machine.Execute

/-!
# What work comes to

Work in a row is done one after the other (`on_bind`), and each step has an equation that says what
it gives and which machine it leaves. Registers that an instruction names are always there, so the
checked look at a register and the checked change of it succeed (`on_reg`, `on_setReg`), and so does
a run of changes that ends at `VF` (`on_setFrom`).
-/

namespace Cosmac

namespace Registers

/-- The number of a register names it. -/
theorem toNat_index (x : Reg) : x.index.toNat = x.val := by
  have := x.isLt
  rw [Reg.index, UInt8.toNat_ofNat']
  omega

theorem get_index (r : Registers) (x : Reg) : r.get x.index = .ok (r.reg x) := by
  have hx : x.index.toNat < 16 := by
    rw [toNat_index]
    exact x.isLt
  rw [get, dif_pos hx]
  simp only [toNat_index, reg, Fin.getElem_fin]

theorem set_index (r : Registers) (x : Reg) (value : UInt8) :
    r.set x.index value = .ok (r.setReg x value) := by
  have hx : x.index.toNat < 16 := by
    rw [toNat_index]
    exact x.isLt
  rw [set, dif_pos hx]
  simp only [toNat_index, setReg]

/-- A register that is set has what it was set to. -/
theorem reg_setReg_self (r : Registers) (x : Reg) (value : UInt8) :
    (r.setReg x value).reg x = value :=
  Vector.getElem_set_self x.isLt

/-- Setting a register leaves the others alone. -/
theorem reg_setReg_of_ne (r : Registers) {x k : Reg} (value : UInt8) (h : k ≠ x) :
    (r.setReg x value).reg k = r.reg k := by
  have hne : x.val ≠ k.val := fun e => h (Fin.ext e.symm)
  exact Vector.getElem_set_ne x.isLt k.isLt hne

end Registers

namespace Work

variable {D K B α β : Type} (m : Machine D K B)

@[simp] theorem on_pure (a : α) : (pure a : Work D K B α).on m = (.ok a, m) := rfl

/-- What comes after a step is done on the machine that the step leaves, if the step succeeds. -/
theorem on_bind (w : Work D K B α) (next : α → Work D K B β) :
    (w >>= next).on m =
      match w.on m with
      | (.ok a, after) => (next a).on after
      | (.error f, after) => (.error f, after) := by
  simp only [on, ExceptT.run_bind, StateT.run_bind]
  rcases (w.run.run m) with ⟨_ | _, _⟩ <;> rfl

@[simp] theorem on_liftExcept (outcome : Except Fault α) :
    (liftExcept outcome : Work D K B α).on m = (outcome, m) := by
  cases outcome <;> rfl

@[simp] theorem on_get : (get : Work D K B (Machine D K B)).on m = (.ok m, m) := rfl

@[simp] theorem on_modify (f : Machine D K B → Machine D K B) :
    (modify f : Work D K B PUnit).on m = (.ok (), f m) := rfl

@[simp] theorem on_core : core.on m = (.ok m.core, m) := rfl

@[simp] theorem on_change (f : Core → Core) :
    (change f).on m = (.ok (), { m with core := f m.core }) := rfl

@[simp] theorem on_look (read : Core → Except Fault α) :
    (look read).on m = (read m.core, m) := by
  rw [look, on_bind, on_core]
  exact on_liftExcept m _

theorem on_tryChange (f : Core → Except Fault Core) :
    (tryChange f).on m =
      match f m.core with
      | .ok next => (.ok (), { m with core := next })
      | .error e => (.error e, m) := by
  rw [tryChange, on_bind, on_look]
  cases f m.core <;> rfl

@[simp] theorem on_reg (x : Reg) : (reg x).on m = (.ok (m.core.reg x), m) := by
  rw [reg, on_look, Registers.get_index]
  rfl

@[simp] theorem on_setReg (x : Reg) (value : UInt8) :
    (setReg x value).on m = (.ok (), { m with core := m.core.setReg x value }) := by
  rw [setReg, tryRegisters, on_tryChange, Registers.set_index]
  rfl

/-- Setting registers one after the other, as long as there are so many, sets a stretch of them. -/
theorem on_setFrom {k : Nat} {values : List UInt8} (h : k + values.length ≤ 16) :
    ∃ r : Registers, r = { m.core.registers with v := r.v } ∧
      (setFrom k values).on m = (.ok (), { m with core := { m.core with registers := r } }) ∧
      ∀ j : Reg, r.reg j =
        if k ≤ j.val then values.getD (j.val - k) (m.core.reg j) else m.core.reg j := by
  induction values generalizing k m with
  | nil =>
    refine ⟨m.core.registers, rfl, rfl, fun j => ?_⟩
    rw [List.getD_nil]
    exact (ite_self _).symm
  | cons value rest ih =>
    rw [List.length_cons] at h
    obtain ⟨x, rfl⟩ : ∃ x : Reg, x.val = k := ⟨⟨k, by omega⟩, rfl⟩
    -- The first of them has a register, so it is set, and the others follow it.
    have hfirst : (tryRegisters fun r => r.set (UInt8.ofNat x.val) value).on m =
        (.ok (), { m with core := m.core.setReg x value }) := on_setReg m x value
    obtain ⟨r, hr, hrest, hreg⟩ :=
      ih { m with core := m.core.setReg x value } (k := x.val + 1) (by omega)
    refine ⟨r, hr, ?_, fun j => ?_⟩
    · rw [setFrom, on_bind, hfirst]
      exact hrest
    · rw [hreg]
      rcases Nat.lt_trichotomy x.val j.val with hlt | heq | hgt
      · rw [if_pos (by omega), if_pos (by omega),
          show j.val - x.val = j.val - (x.val + 1) + 1 by omega, List.getD_cons_succ]
        exact congrArg _ (m.core.registers.reg_setReg_of_ne value (Fin.ne_of_val_ne (by omega)))
      · rw [if_neg (by omega), if_pos (by omega), heq, Nat.sub_self, List.getD_cons_zero,
          ← Fin.ext heq]
        exact m.core.registers.reg_setReg_self x value
      · rw [if_neg (by omega), if_neg (by omega)]
        exact m.core.registers.reg_setReg_of_ne value (Fin.ne_of_val_ne (by omega))

@[simp] theorem on_setFlag (on : Bool) :
    (setFlag on).on m =
      (.ok (), { m with core := { m.core with registers := m.core.registers.setFlag on } }) := rfl

@[simp] theorem on_randomByte :
    (randomByte).on m =
      (.ok m.core.random.byte, { m with core := { m.core with random := m.core.random.next } }) :=
  rfl

theorem on_askDisplay (call : D → Reply DeviceError α D) :
    (askDisplay call).on m =
      ((call m.display).1.mapError Fault.device, { m with display := (call m.display).2 }) := by
  simp only [askDisplay, on_bind, on_get, on_modify, on_liftExcept]

theorem on_askKeypad (call : K → Reply DeviceError α K) :
    (askKeypad call).on m =
      ((call m.keypad).1.mapError Fault.device, { m with keypad := (call m.keypad).2 }) := by
  simp only [askKeypad, on_bind, on_get, on_modify, on_liftExcept]

@[simp] theorem on_isDown [Keypad K] (key : UInt8) :
    (isDown key).on m = (.ok (Keypad.isDown m.keypad key), m) := rfl

@[simp] theorem on_jump (address : Address) :
    (jump address).on m = (.ok true, { m with core := m.core.jump address }) := rfl

@[simp] theorem on_skipIf (condition : Bool) :
    (skipIf condition).on m = (.ok false, { m with core := m.core.skipIf condition }) := rfl

@[simp] theorem on_setIndex (address : Address) :
    (setIndex address).on m = (.ok (), { m with core := m.core.setIndex address }) := rfl

end Work

end Cosmac
