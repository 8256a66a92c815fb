import Cosmac.Proofs.Work

/-!
# What an instruction asks for

All that an instruction does to the core, it does after its last check, and it asks at most one device
for one thing. So it comes to a `Request`: the core that it leaves, or a fault, or a question to a
device together with how the core goes on with the answer. A request carries whole cores, and proofs
about instructions go by what `Core.execute` says that they ask for, instead of by their steps.

Doing the steps is granting the request (`Work.perform_on`).
-/

namespace Cosmac

/-- The outcome of an instruction before any device has acted. -/
inductive Request
  /-- The instruction is done, with this core after it. -/
  | done (next : Core)
  /-- The instruction fails. -/
  | fault (cause : Fault)
  /-- Blank the picture. -/
  | clear (next : Core)
  /-- Draw a sprite, and go on by whether a lit pixel was put out. -/
  | draw (x y : UInt8) (rows : List Row) (next : Bool → Core)
  /-- Go on by whether a key is down. -/
  | sense (key : UInt8) (next : Bool → Core)
  /-- Wait for a key to be pressed. -/
  | await (next : UInt8 → Core)

/-- Sets the registers from `V0` on to the given bytes, as many as there are. -/
def Registers.setFirst (r : Registers) (bytes : List UInt8) : Registers :=
  { r with v := Vector.ofFn fun k => bytes.getD k.val (r.reg k) }

/-- Carries out an operation on `VX` and `VY`. The flag is written after the result, except by the
shifts, which write it first and then shift the register as it stands. -/
def AluOp.apply (op : AluOp) (x y : Reg) (r : Registers) : Registers :=
  let vx := r.reg x
  let vy := r.reg y
  match op with
  | copy => r.setReg x vy
  | or => r.setReg x (vx ||| vy)
  | and => r.setReg x (vx &&& vy)
  | xor => r.setReg x (vx ^^^ vy)
  | add => (r.setReg x (vx + vy)).setFlag (255 < vx.toNat + vy.toNat)
  | sub => (r.setReg x (vx - vy)).setFlag (vy < vx)
  | subFrom => (r.setReg x (vy - vx)).setFlag (vx < vy)
  | shiftRight =>
    let flagged := r.setFlag (vx &&& 1 != 0)
    flagged.setReg x (flagged.reg x >>> 1)
  | shiftLeft =>
    let flagged := r.setFlag (vx &&& 0x80 != 0)
    flagged.setReg x (flagged.reg x <<< 1)

namespace Core

/-- Goes on with the core that a step gave, or fails as it did. -/
def finish (step : Except Fault Core) : Request :=
  match step with
  | .ok next => .done next
  | .error f => .fault f

/-- Moves `I` past the bytes of `V0` to `VX`. -/
def passRegisters (c : Core) (x : Reg) : Core :=
  c.setIndex (c.registers.i + UInt16.ofNat (x.val + 1))

/-- Executes an instruction. `skipOnKeyUp` says how `EXA1` reads the keypad. -/
def execute (c : Core) (skipOnKeyUp : Bool) : Instruction → Request
  | .clear => .clear c.advance
  | .ret => finish <| c.registers.pop.map fun r => { c with registers := r.advance }
  | .jump target => .done (c.jump target)
  | .call target => finish <| c.registers.push.map fun r => { c with registers := r }.jump target
  | .skipIfByte x byte => .done (c.skipIf (c.reg x == byte)).advance
  | .skipUnlessByte x byte => .done (c.skipIf (c.reg x != byte)).advance
  | .skipIfSame x y => .done (c.skipIf (c.reg x == c.reg y)).advance
  | .skipUnlessSame x y => .done (c.skipIf (c.reg x != c.reg y)).advance
  | .setByte x byte => .done (c.setReg x byte).advance
  | .addByte x byte => .done (c.setReg x (c.reg x + byte)).advance
  | .alu op x y => .done { c with registers := op.apply x y c.registers }.advance
  | .setIndex address => .done (c.setIndex address).advance
  | .jumpOffset base => .done (c.jump ((base + (c.reg Reg.zero).toUInt16) % 0x1000))
  | .random x mask =>
    .done ({ c with random := c.random.next }.setReg x (c.random.byte &&& mask)).advance
  | .draw x y height =>
    match c.memory.spriteData c.registers.i height.val with
    | .error f => .fault f
    | .ok data =>
      .draw (c.reg x) (c.reg y) (data.map unpackRow) fun collided =>
        { c with registers := c.registers.setFlag collided }.advance
  | .skipIfKey x => .sense (c.reg x) fun down => (c.skipIf down).advance
  | .skipByKey x => .sense (c.reg x) fun down => (c.skipIf (down != skipOnKeyUp)).advance
  | .readDelay x => .done (c.setReg x c.timers.delay).advance
  | .awaitKey x => .await fun key => ({ c with suspended := true }.setReg x key).advance
  | .setDelay x => .done { c with timers := { c.timers with delay := c.reg x } }.advance
  | .setSound x => .done { c with timers := { c.timers with sound := c.reg x } }.advance
  | .addIndex x => .done (c.setIndex (c.registers.i + (c.reg x).toUInt16)).advance
  | .setGlyph x => .done (c.setIndex (Glyphs.address (c.reg x))).advance
  | .storeDigits x =>
    finish <| (c.memory.write c.registers.i (decimalDigits (c.reg x))).map fun memory =>
      { c with memory := memory }.advance
  | .storeRegisters x =>
    finish <| (c.memory.write c.registers.i (c.registers.upTo x)).map fun memory =>
      ({ c with memory := memory }.passRegisters x).advance
  | .loadRegisters x =>
    finish <| (c.memory.read c.registers.i (x.val + 1)).map fun bytes =>
      ({ c with registers := c.registers.setFirst bytes }.passRegisters x).advance

end Core

namespace Machine

variable {D K B : Type}

/-- Grants the request that an instruction made. -/
def serve [Display D] [Keypad K] (m : Machine D K B) :
    Request → Except Fault Unit × Machine D K B
  | .done next => (.ok (), { m with core := next })
  | .fault cause => (.error cause, m)
  | .clear next =>
    match Display.clear m.display with
    | (.ok _, display) => (.ok (), { m with core := next, display := display })
    | (.error e, display) => (.error (.device e), { m with display := display })
  | .draw x y rows next =>
    match Display.draw x y rows m.display with
    | (.ok collided, display) => (.ok (), { m with core := next collided, display := display })
    | (.error e, display) => (.error (.device e), { m with display := display })
  | .sense key next => (.ok (), { m with core := next (Keypad.isDown m.keypad key) })
  | .await next =>
    match Keypad.waitForKey m.keypad with
    | (.ok key, keypad) => (.ok (), { m with core := next key, keypad := keypad })
    | (.error e, keypad) => (.error (.device e), { m with keypad := keypad })

end Machine

namespace Work

variable {D K B : Type} (m : Machine D K B)

/-! ## Steps and requests -/

/-- Setting registers from `V0` on sets the first ones. -/
theorem on_setFrom_zero {values : List UInt8} (h : values.length ≤ 16) :
    (setFrom 0 values).on m =
      (.ok (), { m with core := { m.core with registers := m.core.registers.setFirst values } }) := by
  have hroom : 0 + values.length ≤ 16 := by omega
  obtain ⟨r, hr, hon, hreg⟩ := on_setFrom m hroom
  have hv : r.v = (m.core.registers.setFirst values).v := by
    refine Vector.ext fun j hj => ?_
    rw [Registers.setFirst, Vector.getElem_ofFn]
    exact hreg ⟨j, hj⟩
  rw [hon, hr, hv]
  rfl

/-- An operation between registers, done step by step. -/
@[simp] theorem on_calculate (op : AluOp) (x y : Reg) :
    (calculate op x y).on m =
      (.ok (), { m with core := { m.core with registers := op.apply x y m.core.registers } }) := by
  cases op <;> simp [calculate, on_bind, AluOp.apply, Core.setReg, Core.reg]

variable [Display D] [Keypad K]

/-- Granting a change of the core that can fail. -/
theorem serve_finish (step : Except Fault Core) :
    m.serve (Core.finish step) =
      match step with
      | .ok next => (.ok (), { m with core := next })
      | .error f => (.error f, m) := by
  cases step <;> rfl

/-- Doing the steps of an instruction is granting what it asks for. -/
theorem perform_on (i : Instruction) :
    (perform i).on m = m.serve (m.core.execute m.config.skipOnKeyUp i) := by
  cases i with
  -- These cannot fail and ask no device for anything that can, so their steps come to one core.
  | jump | skipIfByte | skipUnlessByte | skipIfSame | skipUnlessSame | setByte | addByte | alu
  | setIndex | jumpOffset | random | skipIfKey | readDelay | setDelay | setSound | addIndex
  | setGlyph =>
    simp [perform, execute, Core.execute, Machine.serve, on_bind]
  | skipByKey x =>
    cases hup : m.config.skipOnKeyUp <;>
      simp [perform, execute, Core.execute, Machine.serve, on_bind, hup, apply_ite]
  | clear =>
    rw [Core.execute, Machine.serve]
    simp only [perform, execute, on_bind, on_askDisplay]
    rcases Display.clear m.display with ⟨_ | _, display⟩ <;> rfl
  | draw x y height =>
    rw [Core.execute]
    simp only [perform, execute, on_bind, on_reg, on_look, on_askDisplay]
    rcases m.core.memory.spriteData m.core.registers.i height.val with f | data
    · rfl
    · simp only [Machine.serve]
      rcases Display.draw _ _ _ m.display with ⟨_ | _, display⟩ <;> rfl
  | awaitKey x =>
    rw [Core.execute, Machine.serve]
    simp only [perform, execute, on_bind, on_askKeypad]
    rcases Keypad.waitForKey m.keypad with ⟨_ | key, keypad⟩
    · rfl
    · have hanswer : (Except.ok key : Except DeviceError UInt8).mapError Fault.device = .ok key := rfl
      simp only [hanswer, on_setReg, on_change]
      rfl
  -- The others have one step that can fail, and everything after it is done if it does not.
  | ret =>
    rw [Core.execute, serve_finish]
    simp only [perform, execute, on_bind, tryRegisters, on_tryChange]
    rcases m.core.registers.pop with f | r <;> rfl
  | call target =>
    rw [Core.execute, serve_finish]
    simp only [perform, execute, on_bind, tryRegisters, on_tryChange]
    rcases m.core.registers.push with f | r <;> rfl
  | storeDigits x =>
    rw [Core.execute, serve_finish]
    simp only [perform, execute, on_bind, on_reg, on_core, write, on_tryChange]
    rcases m.core.memory.write _ _ with f | memory <;> rfl
  | storeRegisters x =>
    rw [Core.execute, serve_finish]
    simp only [perform, execute, on_bind, on_core, write, on_tryChange]
    rcases m.core.memory.write _ _ with f | memory <;> rfl
  | loadRegisters x =>
    rw [Core.execute, serve_finish]
    simp only [perform, execute, on_bind, on_core, on_look]
    rcases hread : m.core.memory.read m.core.registers.i (x.val + 1) with f | bytes
    · rfl
    · have hlen : bytes.length ≤ 16 := by
        have hx := x.isLt
        rw [Memory.length_of_read hread]
        omega
      simp only [on_setFrom_zero _ hlen]
      rfl

end Work

end Cosmac
