import Cosmac.Memory.Program
import Cosmac.Proofs.Bytes
import Mathlib.Data.List.Induction
import Mathlib.Order.Bounds.Defs

/-!
# Any sequence of stores

Memory is changed from outside in four ways: bytes are written at an address, one byte is set, a range is
filled with one value, and a program is loaded. Each comes down to a write (`Memory.store_eq`), so one
law says what all of them leave: `readByte_afterStore`, where `Store.byteFor` is what a store has for an
address.

From there it is one induction over the stores (`readByte_afterStores`): a byte is what the last store
that had one for its address gave it. `last_store_wins` says so of memory that was zero at first, and
adds how the other ways to read agree with reading byte by byte, and which accesses are refused.
-/

namespace Cosmac

/-- A request to change memory. -/
inductive Store
  | write (address : Address) (data : List UInt8)
  | writeByte (address : Address) (value : UInt8)
  | fill (address : Address) (n : Nat) (value : UInt8)
  | load (image : List UInt8)

namespace Store

/-- The address from which on a store writes. -/
def start : Store → Address
  | write address _ | writeByte address _ | fill address _ _ => address
  | load _ => 0x200

/-- The bytes that a store writes. A program is cut off where memory ends. -/
def data : Store → List UInt8
  | write _ data => data
  | writeByte _ value => [value]
  | fill _ n value => List.replicate n value
  | load image => image.take 0xe00

/-- The byte that a store has for an address. There is none if the address is not among those that it
writes to, and none at all if these do not all lie in memory. -/
def byteFor (s : Store) (a : Address) : Option UInt8 :=
  if Memory.Spans s.start s.data.length ∧ s.start.toNat ≤ a.toNat then
    s.data[a.toNat - s.start.toNat]?
  else none

end Store

/-- The byte that the last of some stores has for an address, among those that have one. -/
def lastByteFor (stores : List Store) (a : Address) : Option UInt8 :=
  stores.reverse.findSome? (·.byteFor a)

/-- A later store comes first. -/
theorem lastByteFor_concat (stores : List Store) (s : Store) (a : Address) :
    lastByteFor (stores ++ [s]) a = (s.byteFor a).or (lastByteFor stores a) := by
  rw [lastByteFor, List.reverse_append, List.findSome?_append, lastByteFor]
  cases h : s.byteFor a <;> simp [h]

namespace Memory

/-- What a store comes to. -/
def store (m : Memory) : Store → Except Fault Memory
  | .write address data => m.write address data
  | .writeByte address value => m.writeByte address value
  | .fill address n value => m.fill address n value
  | .load image => .ok (m.load image)

/-- The memory after a store. A store that fails changes nothing. -/
def afterStore (m : Memory) (s : Store) : Memory := (m.store s).toOption.getD m

/-- The memory after some stores, whether they succeeded or not. -/
def afterStores (m : Memory) (stores : List Store) : Memory := stores.foldl afterStore m

variable (m : Memory)

/-! ## One store -/

/-- What is loaded lies in memory. -/
theorem spans_load (image : List UInt8) : Spans 0x200 (image.take 0xe00).length := by
  have hstart : (0x200 : Address).toNat = 0x200 := rfl
  unfold Spans base top
  rw [hstart, List.length_take]
  omega

/-- Loading is writing at the start of memory what fits. -/
theorem written_load (image : List UInt8) :
    m.Written 0x200 (image.take 0xe00) (m.load image) :=
  written_put (spans_load image)

/-- Every store is a write. -/
theorem store_eq (s : Store) : m.store s = m.write s.start s.data := by
  cases s with
  | write address data => rfl
  | writeByte address value => rfl
  | fill address n value =>
    rw [store, fill, Store.start, Store.data, write, List.length_replicate]
  | load image => exact (m.write_of_spans (spans_load image)).symm

/-- What an address is read as after a store: what the store has for it, if it has something. -/
theorem readByte_afterStore (s : Store) (a : Address) :
    (m.afterStore s).readByte a = (s.byteFor a).elim (m.readByte a) .ok := by
  rw [afterStore, store_eq, Store.byteFor]
  by_cases hs : Spans s.start s.data.length
  · have hwritten := written_put (m := m) hs
    rw [m.write_of_spans hs]
    by_cases ha : s.start.toNat ≤ a.toNat ∧ a.toNat < s.start.toNat + s.data.length
    · have hj : a.toNat - s.start.toNat < s.data.length := by omega
      rw [if_pos ⟨hs, ha.1⟩, List.getElem?_eq_getElem hj]
      exact hwritten.bytes _ hj a (by omega)
    · have hnone : (if Spans s.start s.data.length ∧ s.start.toNat ≤ a.toNat then
          s.data[a.toNat - s.start.toNat]? else none) = none := by
        split
        · exact List.getElem?_eq_none (by omega)
        · rfl
      rw [hnone]
      exact hwritten.others a ha
  · rw [m.write_of_not_spans hs, if_neg fun h => hs h.1]
    rfl

/-! ## Any number of stores -/

/-- The last store comes after the others. -/
theorem afterStores_concat (stores : List Store) (s : Store) :
    m.afterStores (stores ++ [s]) = (m.afterStores stores).afterStore s := by
  rw [afterStores, List.foldl_append]
  rfl

/-- What an address is read as after any stores: what the last of them had for it, or what it was read
as before. -/
theorem readByte_afterStores (stores : List Store) (a : Address) :
    (m.afterStores stores).readByte a = (lastByteFor stores a).elim (m.readByte a) .ok := by
  induction stores using List.reverseRecOn with
  | nil => rfl
  | append_singleton stores s ih =>
    rw [afterStores_concat, readByte_afterStore, lastByteFor_concat, ih]
    cases s.byteFor a <;> rfl

/-- A byte of zeroed memory is zero. -/
theorem readByte_zeroed {a : Address} (h : Spans a 1) : zeroed.readByte a = .ok 0 := by
  have hcell : zeroed.cell (a.toNat - base) = 0 := by
    unfold cell zeroed
    rw [Vector.getElem?_replicate]
    split <;> rfl
  rw [zeroed.readByte_of_spans h, hcell]

/-! ## Accesses -/

/-- The addresses of `n` bytes that lie outside program memory. -/
def outside (address : Address) (n : Nat) : Set Nat :=
  {k | address.toNat ≤ k ∧ k < address.toNat + n ∧ ¬ (0x200 ≤ k ∧ k ≤ 0xfff)}

/-- An access to `n` bytes at an address ends as it should: it succeeds if they all lie in program memory,
and otherwise it fails. If there are bytes at all, the fault then names the first address among theirs
that is outside. -/
structure Granted {α : Type} (address : Address) (n : Nat) (result : Except Fault α) : Prop where
  ok_iff : (∃ v, result = .ok v) ↔ 0x200 ≤ address.toNat ∧ address.toNat + n ≤ 0x1000
  fault : ∀ f, result = .error f → ∃ a : Address, f = .outsideMemory a ∧
    (1 ≤ n → IsLeast (outside address n) a.toNat)

/-- The address that a fault names is the first one outside. -/
theorem isLeast_firstOutside {address : Address} {n : Nat} (h : ¬ Spans address n) (hn : 1 ≤ n) :
    IsLeast (outside address n) (firstOutside address).toNat := by
  have htop : (0x1000 : Address).toNat = 0x1000 := rfl
  unfold Spans at h
  unfold firstOutside
  unfold base top at *
  split
  · rw [htop]
    exact ⟨⟨by omega, by omega, by omega⟩, fun k hk => by have := hk.1; have := hk.2.2; omega⟩
  · exact ⟨⟨by omega, by omega, by omega⟩, fun k hk => hk.1⟩

/-- Whatever is done with the offset of a range, the range decides. -/
theorem granted_map {α : Type} (address : Address) (n : Nat) (f : Nat → α) :
    Granted address n ((offset address n).map f) := by
  by_cases hs : Spans address n
  · rw [offset_of_spans hs]
    exact { ok_iff := ⟨fun _ => hs, fun _ => ⟨_, rfl⟩⟩, fault := fun f hf => (nomatch hf) }
  · rw [offset_of_not_spans hs]
    refine { ok_iff := ⟨fun ⟨v, hv⟩ => (nomatch hv), fun h => absurd h hs⟩, fault := fun f hf => ?_ }
    exact ⟨firstOutside address, (Except.error.inj hf).symm, isLeast_firstOutside hs⟩

/-- All accesses to a memory end as they should. -/
structure Guarded (m : Memory) : Prop where
  read : ∀ address n, Granted address n (m.read address n)
  readByte : ∀ address, Granted address 1 (m.readByte address)
  readWord : ∀ address, Granted address 2 (m.readWord address)
  store : ∀ s : Store, Granted s.start s.data.length (m.store s)

/-- Every memory is guarded. -/
theorem guarded : m.Guarded where
  read address n := granted_map address n _
  readByte address := granted_map address 1 _
  readWord address := granted_map address 2 _
  store s := by
    rw [store_eq]
    exact granted_map s.start s.data.length _

/-! ## The law -/

/-- The ways to read agree: several bytes are read at once as they are read one by one, and a word is
the two bytes from its address on, the high one first. -/
structure ReadsAgree (m : Memory) : Prop where
  read : ∀ (address : Address) (n : Nat) (data : List UInt8), m.read address n = .ok data ↔
    Spans address n ∧ data.length = n ∧
      ∀ (j : Nat) (h : j < data.length) (a : Address), a.toNat = address.toNat + j →
        m.readByte a = .ok data[j]
  readWord : ∀ (address : Address) (w : Word), m.readWord address = .ok w ↔
    ∃ high low : UInt8, m.readByte address = .ok high ∧ m.readByte (address + 1) = .ok low ∧
      w.toNat = 256 * high.toNat + low.toNat

/-- A single byte lies in memory if its address does. -/
theorem spans_one_iff {a : Address} : Spans a 1 ↔ 0x200 ≤ a.toNat ∧ a.toNat ≤ 0xfff := by
  unfold Spans base top
  omega

/-- After any stores to zeroed memory, failed ones included, the addresses of program memory and no
others can be read. An address holds the byte that the last store that covers it gave, or zero if no
store has covered it. All ways to read agree on that, all accesses succeed or fail by their range alone,
and a store that fails changes nothing. -/
theorem last_store_wins (stores : List Store) :
    (∀ a : Address, (∃ f, (zeroed.afterStores stores).readByte a = .error f) ↔
      ¬ (0x200 ≤ a.toNat ∧ a.toNat ≤ 0xfff)) ∧
    (∀ a : Address, 0x200 ≤ a.toNat ∧ a.toNat ≤ 0xfff →
      (zeroed.afterStores stores).readByte a = .ok ((lastByteFor stores a).getD 0)) ∧
    (zeroed.afterStores stores).ReadsAgree ∧
    (zeroed.afterStores stores).Guarded ∧
    ∀ (s : Store) (f : Fault), (zeroed.afterStores stores).store s = .error f →
      zeroed.afterStores (stores ++ [s]) = zeroed.afterStores stores := by
  refine ⟨fun a => ?_, fun a ha => ?_, ⟨fun _ _ _ => read_eq_ok_iff, fun _ _ => readWord_eq_ok_iff⟩,
    guarded _, fun s f hf => ?_⟩
  · rw [← spans_one_iff]
    by_cases hs : Spans a 1
    · rw [readByte_of_spans _ hs]
      exact ⟨fun ⟨f, hf⟩ => (nomatch hf), fun h => absurd hs h⟩
    · rw [readByte_of_not_spans _ hs]
      exact ⟨fun _ => hs, fun _ => ⟨_, rfl⟩⟩
  · rw [readByte_afterStores, readByte_zeroed (spans_one_iff.2 ha)]
    cases lastByteFor stores a <;> rfl
  · rw [afterStores_concat, afterStore, hf]
    rfl

/-- A write over a part of a program, and a write and a fill of which one byte lies outside memory. -/
theorem last_store_wins_overlapping :
    let stores : List Store :=
      [.load [1, 2, 3, 4], .write 0x201 [7, 8], .write 0xfff [5, 6], .fill 0x1ff 2 9]
    let m := zeroed.afterStores stores
    (0x200 ≤ (0x201 : Address).toNat ∧ (0x201 : Address).toNat ≤ 0xfff) ∧
    m.readByte 0x200 = .ok 1 ∧ m.readByte 0x201 = .ok 7 ∧ m.readByte 0x203 = .ok 4 ∧
    m.readByte 0xfff = .ok 0 ∧ (∃ f, m.readByte 0x1ff = .error f) ∧
    m.store (.write 0xfff [5, 6]) = .error (.outsideMemory 0x1000) ∧
    zeroed.afterStores (stores ++ [.write 0xfff [5, 6]]) = m := by
  intro stores m
  obtain ⟨houtside, hinside, -, -, hfailed⟩ := last_store_wins stores
  have hstore : m.store (.write 0xfff [5, 6]) = .error (.outsideMemory 0x1000) :=
    m.write_of_not_spans (by decide)
  exact ⟨by decide, hinside 0x200 (by decide), hinside 0x201 (by decide), hinside 0x203 (by decide),
    hinside 0xfff (by decide), (houtside 0x1ff).2 (by decide), hstore, hfailed _ _ hstore⟩

end Memory

end Cosmac
