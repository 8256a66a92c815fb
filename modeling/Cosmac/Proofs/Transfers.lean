import Cosmac.Proofs.Bytes
import Cosmac.Proofs.Steps

/-!
# Registers and digits in memory

Three instructions move several bytes at once between the registers and memory at `I`. Each of them needs
all its bytes in memory, and succeeds if they are there.

What the two storing ones leave is `Core.StoresBytes`, for the bytes of `V0` to `VX` in one case and the
digits of `VX` in the other (`cycle_storeRegisters`, `cycle_storeDigits`). Words are fetched as they were
stored, so this holds of an instruction that overwrites itself too. What the loading one leaves is
`Core.LoadsRegisters`. As both are told by what is read at each address, what is stored is what is loaded,
and what is stored back is what was there (`cycle_transfers`).
-/

namespace Cosmac

/-! ## Bytes of registers -/

namespace Registers

variable (r : Registers) {x k : Reg}

/-- The bytes of `V0` to `VX` are those of the registers in order. -/
theorem getElem?_upTo (h : k ≤ x) : (r.upTo x)[k.val]? = some (r.reg k) := by
  have hlt : k.val < x.val + 1 := Nat.lt_succ_of_le h
  rw [upTo, List.getElem?_take_of_lt hlt, Vector.getElem?_toList, Vector.getElem?_eq_getElem k.isLt]
  rfl

/-- The first registers have the bytes that they were set to. -/
theorem reg_setFirst_of_lt {bytes : List UInt8} (h : k.val < bytes.length) :
    (r.setFirst bytes).reg k = bytes[k.val] := by
  simp only [setFirst, reg, Fin.getElem_fin, Vector.getElem_ofFn]
  exact List.getD_eq_getElem _ _ h

end Registers

/-- A byte has three decimal digits. -/
theorem decimalDigits_eq (b : UInt8) : ∃ d0 d1 d2 : UInt8, decimalDigits b = [d0, d1, d2] ∧
    d0.toNat ≤ 9 ∧ d1.toNat ≤ 9 ∧ d2.toNat ≤ 9 ∧
    100 * d0.toNat + 10 * d1.toNat + d2.toNat = b.toNat := by
  have hlt := b.toNat_lt
  have h0 : (b / 100).toNat = b.toNat / 100 := UInt8.toNat_div b 100
  have h1 : (b / 10 % 10).toNat = b.toNat / 10 % 10 := by
    rw [UInt8.toNat_mod, UInt8.toNat_div]
    rfl
  have h2 : (b % 10).toNat = b.toNat % 10 := UInt8.toNat_mod b 10
  refine ⟨b / 100, b / 10 % 10, b % 10, rfl, ?_⟩
  rw [h0, h1, h2]
  omega

/-! ## What the instructions leave -/

namespace Core

/-- Bytes have been stored at `I`. Memory has them there and is otherwise as it was, words are fetched as
they were stored, and `V0` to `VF` are the same. -/
structure StoresBytes (data : List UInt8) (before after : Core) : Prop where
  memory : before.memory.Written before.registers.i data after.memory
  fetched : after.memory.FetchedAs before.registers.i data
  registers : ∀ k, after.reg k = before.reg k
  pc : after.registers.pc = before.registers.pc + 2

/-- `V0` to `VX` have been loaded from `I` on, which is then after them. The other registers and memory are
the same. -/
structure LoadsRegisters (x : Reg) (before after : Core) : Prop where
  loaded : ∀ k ≤ x, ∀ a : Address, a.toNat = before.registers.i.toNat + k.val →
    before.memory.readByte a = .ok (after.reg k)
  others : ∀ k, x < k → after.reg k = before.reg k
  memory : after.memory = before.memory
  index : after.registers.i.toNat = before.registers.i.toNat + x.val + 1
  pc : after.registers.pc = before.registers.pc + 2

variable {c : Core} {x : Reg}

/-- Putting bytes in memory at `I` and going on stores them. -/
theorem storesBytes_put {data : List UInt8} (hs : Memory.Spans c.registers.i data.length)
    (i : Address) :
    c.StoresBytes data ({ c with
      memory := c.memory.put (c.registers.i.toNat - Memory.base) data }.setIndex i).advance where
  memory := Memory.written_put hs
  fetched := (Memory.written_put hs).fetched
  registers _ := rfl
  pc := rfl

section

-- A part that stays the same is compared by unfolding, which must not go on into the registers.
attribute [local irreducible] Vector.ofFn

/-- Setting the first registers to the bytes at `I` and going on after them loads the registers. -/
theorem loadsRegisters_setFirst (hs : Memory.Spans c.registers.i (x.val + 1)) :
    c.LoadsRegisters x ({ c with
      registers := c.registers.setFirst
        (c.memory.window (c.registers.i.toNat - Memory.base) (x.val + 1)) }.passRegisters
          x).advance where
  loaded k hk a ha := by
    have hlt : k.val < (c.memory.window (c.registers.i.toNat - Memory.base) (x.val + 1)).length := by
      rw [c.memory.length_window]
      exact Nat.lt_succ_of_le hk
    rw [Memory.readByte_window hs hlt ha]
    exact congrArg Except.ok (c.registers.reg_setFirst_of_lt hlt).symm
  others k hk := c.registers.reg_setFirst_of_le (by
    rw [c.memory.length_window]
    exact hk)
  memory := rfl
  index := toNat_passRegisters hs
  pc := rfl

end

end Core

namespace Machine

variable {D K B : Type} [Display D] [Keypad K] {m : Machine D K B} {x : Reg}

/-! ## One cycle -/

/-- Registers are stored if there is a byte in memory for each, and `I` is then after them. -/
theorem cycle_storeRegisters (h : m.core.ComesTo (.storeRegisters x)) :
    (m.cycle.1 = .ok () ↔ Memory.Spans m.core.registers.i (x.val + 1)) ∧
    (m.cycle.1 = .ok () → m.core.StoresBytes (m.core.registers.upTo x) m.cycle.2.core ∧
      m.cycle.2.core.registers.i.toNat = m.core.registers.i.toNat + x.val + 1) := by
  have hends := cycle_ok_iff_of_require h rfl
  refine ⟨hends, fun hok => ?_⟩
  have hs := hends.1 hok
  have hdata : Memory.Spans m.core.registers.i (m.core.registers.upTo x).length := by
    rw [m.core.registers.length_upTo]
    exact hs
  rw [cycle_of_done h ((m.core.execute_storeRegisters _ x).trans (if_pos hs))]
  exact ⟨Core.storesBytes_put hdata _, Core.toNat_passRegisters hs⟩

/-- Registers are loaded if there is a byte in memory for each. -/
theorem cycle_loadRegisters (h : m.core.ComesTo (.loadRegisters x)) :
    (m.cycle.1 = .ok () ↔ Memory.Spans m.core.registers.i (x.val + 1)) ∧
    (m.cycle.1 = .ok () → m.core.LoadsRegisters x m.cycle.2.core) := by
  have hends := cycle_ok_iff_of_require h rfl
  refine ⟨hends, fun hok => ?_⟩
  have hs := hends.1 hok
  rw [cycle_of_done h ((m.core.execute_loadRegisters _ x).trans (if_pos hs))]
  exact Core.loadsRegisters_setFirst hs

/-- Digits are stored if there are three bytes in memory for them. -/
theorem cycle_storeDigits (h : m.core.ComesTo (.storeDigits x)) :
    (m.cycle.1 = .ok () ↔ Memory.Spans m.core.registers.i 3) ∧
    (m.cycle.1 = .ok () → m.core.StoresBytes (decimalDigits (m.core.reg x)) m.cycle.2.core ∧
      m.cycle.2.core.registers.i = m.core.registers.i) := by
  have hends := cycle_ok_iff_of_require h rfl
  refine ⟨hends, fun hok => ?_⟩
  have hs := hends.1 hok
  rw [cycle_of_done h ((m.core.execute_storeDigits _ x).trans (if_pos hs))]
  exact ⟨Core.storesBytes_put hs m.core.registers.i, rfl⟩

/-! ## One cycle after another -/

/-- What was stored is loaded, if nothing else was done to memory and `I` is set back. -/
theorem reg_of_stored_of_loaded {c c' after after' : Core}
    (hstored : c.StoresBytes (c.registers.upTo x) after) (hloaded : c'.LoadsRegisters x after')
    (hs : Memory.Spans c.registers.i (x.val + 1)) (hmemory : c'.memory = after.memory)
    (hindex : c'.registers.i = c.registers.i) {k : Reg} (hk : k ≤ x) : after'.reg k = c.reg k := by
  obtain ⟨a, ha⟩ := hs.exists_address (Nat.lt_succ_of_le hk)
  obtain ⟨hlt, hbyte⟩ := List.getElem?_eq_some_iff.1 (c.registers.getElem?_upTo hk)
  have hthere := hstored.memory.bytes k.val hlt a ha
  have hread := hloaded.loaded k hk a (by rw [hindex, ha])
  rw [hmemory, hthere, hbyte] at hread
  exact (Except.ok.inj hread).symm

/-- What was loaded is stored where it is already. -/
theorem memory_of_loaded_of_stored {c c' after after' : Core} (hloaded : c.LoadsRegisters x after)
    (hstored : c'.StoresBytes (c'.registers.upTo x) after') (hmemory : c'.memory = after.memory)
    (hindex : c'.registers.i = c.registers.i) (hregisters : ∀ k ≤ x, c'.reg k = after.reg k) :
    after'.memory = c.memory := by
  have hbefore : c'.memory = c.memory := hmemory.trans hloaded.memory
  have hthere : c'.memory.Written c'.registers.i (c'.registers.upTo x) c'.memory := by
    refine ⟨fun j hj a ha => ?_, fun _ _ => rfl⟩
    have hlt : j < x.val + 1 := by rwa [c'.registers.length_upTo] at hj
    have hj16 : j < 16 := Nat.lt_of_lt_of_le hlt x.isLt
    have hk : (⟨j, hj16⟩ : Reg) ≤ x := Nat.le_of_lt_succ hlt
    obtain ⟨_, hbyte⟩ := List.getElem?_eq_some_iff.1 (c'.registers.getElem?_upTo hk)
    rw [hbefore, hloaded.loaded ⟨j, hj16⟩ hk a (by rw [ha, hindex]), ← hregisters _ hk]
    exact congrArg Except.ok hbyte.symm
  exact (hstored.memory.unique hthere).trans hbefore

/-- The three instructions that move bytes between the registers and memory at `I`.

`V0` to `VX` are stored exactly if their bytes lie in program memory, and loaded under the same condition.
Storing leaves the registers as they are, loading leaves memory and the other registers as they are, and
both leave `I` after the bytes. Digits are stored exactly if three bytes lie in memory, and `I` stays.
What is stored is fetched as it was stored.

Loading from where registers were stored restores them, and storing where they were loaded from leaves
memory as it was, whatever has become of the rest of the machine. -/
theorem cycle_transfers (m : Machine D K B) (x : Reg) :
    (m.core.ComesTo (.storeRegisters x) →
      (m.cycle.1 = .ok () ↔ 0x200 ≤ m.core.registers.i.toNat ∧
        m.core.registers.i.toNat + x.val + 1 ≤ 0x1000) ∧
      (m.cycle.1 = .ok () → ∃ data : List UInt8, data.length = x.val + 1 ∧
        (∀ k ≤ x, data[k.val]? = some (m.core.reg k)) ∧
        m.core.StoresBytes data m.cycle.2.core ∧
        m.cycle.2.core.registers.i.toNat = m.core.registers.i.toNat + x.val + 1)) ∧
    (m.core.ComesTo (.loadRegisters x) →
      (m.cycle.1 = .ok () ↔ 0x200 ≤ m.core.registers.i.toNat ∧
        m.core.registers.i.toNat + x.val + 1 ≤ 0x1000) ∧
      (m.cycle.1 = .ok () → m.core.LoadsRegisters x m.cycle.2.core)) ∧
    (m.core.ComesTo (.storeDigits x) →
      (m.cycle.1 = .ok () ↔ 0x200 ≤ m.core.registers.i.toNat ∧
        m.core.registers.i.toNat + 3 ≤ 0x1000) ∧
      (m.cycle.1 = .ok () → ∃ d0 d1 d2 : UInt8, d0.toNat ≤ 9 ∧ d1.toNat ≤ 9 ∧ d2.toNat ≤ 9 ∧
        100 * d0.toNat + 10 * d1.toNat + d2.toNat = (m.core.reg x).toNat ∧
        m.core.StoresBytes [d0, d1, d2] m.cycle.2.core ∧
        m.cycle.2.core.registers.i = m.core.registers.i)) ∧
    (∀ m' : Machine D K B, m.core.ComesTo (.storeRegisters x) → m.cycle.1 = .ok () →
      m'.core.ComesTo (.loadRegisters x) → m'.core.memory = m.cycle.2.core.memory →
      m'.core.registers.i = m.core.registers.i →
      m'.cycle.1 = .ok () ∧ ∀ k ≤ x, m'.cycle.2.core.reg k = m.core.reg k) ∧
    (∀ m' : Machine D K B, m.core.ComesTo (.loadRegisters x) → m.cycle.1 = .ok () →
      m'.core.ComesTo (.storeRegisters x) → m'.core.memory = m.cycle.2.core.memory →
      m'.core.registers.i = m.core.registers.i →
      (∀ k ≤ x, m'.core.reg k = m.cycle.2.core.reg k) →
      m'.cycle.1 = .ok () ∧ m'.cycle.2.core.memory = m.core.memory) := by
  refine ⟨fun hstore => ?_, fun hload => ?_, fun hdigits => ?_,
    fun m' hstore hok hload hmemory hindex => ?_,
    fun m' hload hok hstore hmemory hindex hregisters => ?_⟩
  · obtain ⟨hends, hleaves⟩ := cycle_storeRegisters hstore
    refine ⟨hends, fun hok => ?_⟩
    exact ⟨m.core.registers.upTo x, m.core.registers.length_upTo x,
      fun k hk => m.core.registers.getElem?_upTo hk, hleaves hok⟩
  · exact cycle_loadRegisters hload
  · obtain ⟨hends, hleaves⟩ := cycle_storeDigits hdigits
    refine ⟨hends, fun hok => ?_⟩
    obtain ⟨d0, d1, d2, hdata, h0, h1, h2, hsum⟩ := decimalDigits_eq (m.core.reg x)
    exact ⟨d0, d1, d2, h0, h1, h2, hsum, hdata ▸ hleaves hok⟩
  · obtain ⟨hends, hleaves⟩ := cycle_storeRegisters hstore
    obtain ⟨hends', hleaves'⟩ := cycle_loadRegisters hload
    have hs := hends.1 hok
    have hok' := hends'.2 (hindex ▸ hs)
    exact ⟨hok', fun k hk =>
      reg_of_stored_of_loaded (hleaves hok).1 (hleaves' hok') hs hmemory hindex hk⟩
  · obtain ⟨hends, hleaves⟩ := cycle_loadRegisters hload
    obtain ⟨hends', hleaves'⟩ := cycle_storeRegisters hstore
    have hok' := hends'.2 (hindex ▸ hends.1 hok)
    exact ⟨hok',
      memory_of_loaded_of_stored (hleaves hok) (hleaves' hok').1 hmemory hindex hregisters⟩

/-- A machine that is about to store `V0` and `V1` over the instruction after the one that stores them. -/
def saving : Machine Headless Scripted Silent :=
  headless.performAll [.load [0x60, 0xf1, 0x61, 0x65, 0xa2, 0x08, 0xf1, 0x55, 0x00, 0x00, 0xf0, 0x33],
    .cycle, .cycle, .cycle]

/-- The machine after that, with another `V0` and with `I` set back. -/
def reloading : Machine Headless Scripted Silent :=
  { saving.cycle.2 with core := (saving.cycle.2.core.setReg Reg.zero 7).setIndex 0x208 }

/-- The machine after `V0` and `V1` were loaded again, back at the instruction that stores them. -/
def resaving : Machine Headless Scripted Silent :=
  { reloading.cycle.2 with core := (reloading.cycle.2.core.jump 0x206).setIndex 0x208 }

/-- The two bytes that are stored are the word of the instruction that loads them. What comes next stores
the digits of 241 over itself. -/
theorem cycle_transfers_overwriting :
    saving.core.ComesTo (.storeRegisters 1) ∧ saving.cycle.1 = .ok () ∧
    reloading.core.ComesTo (.loadRegisters 1) ∧ reloading.core.reg Reg.zero = 7 ∧
    reloading.cycle.1 = .ok () ∧ reloading.cycle.2.core.reg Reg.zero = 0xf1 ∧
    resaving.core.ComesTo (.storeRegisters 1) ∧ resaving.cycle.1 = .ok () ∧
    resaving.cycle.2.core.memory = reloading.core.memory ∧
    reloading.cycle.2.core.ComesTo (.storeDigits Reg.zero) ∧ reloading.cycle.2.cycle.1 = .ok () ∧
    ∃ d0 d1 d2 : UInt8, 100 * d0.toNat + 10 * d1.toNat + d2.toNat = 241 ∧
      reloading.cycle.2.core.memory.Written 0x20a [d0, d1, d2]
        reloading.cycle.2.cycle.2.core.memory := by
  have hstore : saving.core.ComesTo (.storeRegisters 1) :=
    Core.comesTo_of_word (w := 0xf155) (by decide +kernel) rfl
  have hload : reloading.core.ComesTo (.loadRegisters 1) :=
    Core.comesTo_of_word (w := 0xf165) (by decide +kernel) rfl
  have hrestore : resaving.core.ComesTo (.storeRegisters 1) :=
    Core.comesTo_of_word (w := 0xf155) (by decide +kernel) rfl
  have hdigits : reloading.cycle.2.core.ComesTo (.storeDigits Reg.zero) :=
    Core.comesTo_of_word (w := 0xf033) (by decide +kernel) rfl
  obtain ⟨hindex, hv0⟩ : saving.core.registers.i = 0x208 ∧ saving.core.reg Reg.zero = 0xf1 := by
    decide +kernel
  obtain ⟨hpassed, hv0'⟩ : reloading.cycle.2.core.registers.i = 0x20a ∧
      reloading.cycle.2.core.reg Reg.zero = 0xf1 := by decide +kernel
  obtain ⟨hstores, -, -, hagain, -⟩ := cycle_transfers saving 1
  have hok := (hstores hstore).1.2 (by rw [hindex]; decide)
  have hkept : reloading.core.memory = saving.cycle.2.core.memory := by
    simp only [reloading, Core.setIndex, Core.setReg]
  obtain ⟨hreloaded, hback⟩ := hagain reloading hstore hok hload hkept hindex.symm
  obtain ⟨-, -, -, -, hsame⟩ := cycle_transfers reloading 1
  have hkept' : resaving.core.memory = reloading.cycle.2.core.memory := by
    simp only [resaving, Core.setIndex, Core.jump]
  have hregisters : ∀ k, resaving.core.reg k = reloading.cycle.2.core.reg k := fun k => by
    simp only [resaving, Core.setIndex, Core.jump, Core.reg, Registers.reg]
  obtain ⟨hrestored, hmemory⟩ :=
    hsame resaving hload hreloaded hrestore hkept' (by decide +kernel) fun k _ => hregisters k
  obtain ⟨-, -, hwrites, -, -⟩ := cycle_transfers reloading.cycle.2 Reg.zero
  obtain ⟨hends, hleaves⟩ := hwrites hdigits
  have hoverwritten := hends.2 (by rw [hpassed]; decide)
  obtain ⟨d0, d1, d2, -, -, -, hsum, hstored, -⟩ := hleaves hoverwritten
  have hwritten := hstored.memory
  rw [hv0'] at hsum
  rw [hpassed] at hwritten
  have hother : reloading.core.reg Reg.zero = 7 := by decide +kernel
  exact ⟨hstore, hok, hload, hother, hreloaded, (hback Reg.zero (by decide)).trans hv0, hrestore, hrestored,
    hmemory, hdigits, hoverwritten, d0, d1, d2, hsum, hwritten⟩

end Machine

end Cosmac
