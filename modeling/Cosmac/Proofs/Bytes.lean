import Cosmac.Proofs.Effect

/-!
# Memory byte by byte

A program sees memory through `readByte`, which fails outside program memory and otherwise gives a byte
for each address. Several bytes read at once are those read one by one (`read_eq_ok_iff`), a word is the
two bytes at its address (`readWord_eq_ok_iff`), and two memories that are read the same way are the same
(`ext_readByte`).

`Memory.Written` says what a write leaves: the bytes written from its first address on, and otherwise
what was there. It determines the memory after the write (`Written.unique`), and words are fetched as
they were written (`Written.fetched`).
-/

namespace Cosmac

/-- The next address, unless there is none. -/
theorem toNat_next {a : Address} (h : a.toNat < 0xffff) : (a + 1).toNat = a.toNat + 1 := by
  have hadd : (a + 1).toNat = (a.toNat + 1) % 0x10000 := UInt16.toNat_add a 1
  rw [hadd, Nat.mod_eq_of_lt (by omega)]

namespace Memory

/-! ## Reading -/

section Reading

variable {m m' : Memory} {address : Address}

theorem readByte_of_spans (m : Memory) (h : Spans address 1) :
    m.readByte address = .ok (m.cell (address.toNat - base)) := by
  rw [readByte, offset_of_spans h]
  rfl

theorem readByte_of_not_spans (m : Memory) (h : ¬ Spans address 1) :
    m.readByte address = .error (.outsideMemory (firstOutside address)) := by
  rw [readByte, offset_of_not_spans h]
  rfl

/-- A byte that is read lies in memory. -/
theorem spans_of_readByte {b : UInt8} (h : m.readByte address = .ok b) : Spans address 1 := by
  by_cases hspans : Spans address 1
  · exact hspans
  · rw [m.readByte_of_not_spans hspans] at h
    cases h

/-- A byte can be read differently only if it lies in memory and differs there. -/
theorem readByte_congr
    (h : Spans address 1 → m.cell (address.toNat - base) = m'.cell (address.toNat - base)) :
    m.readByte address = m'.readByte address := by
  by_cases hspans : Spans address 1
  · rw [m.readByte_of_spans hspans, m'.readByte_of_spans hspans, h hspans]
  · rw [m.readByte_of_not_spans hspans, m'.readByte_of_not_spans hspans]

/-- The bytes of a range in memory lie in memory. -/
theorem Spans.byte {a : Address} {n j : Nat} (h : Spans address n) (hj : j < n)
    (ha : a.toNat = address.toNat + j) : Spans a 1 := by
  obtain ⟨hbase, htop⟩ := h
  unfold Spans
  omega

/-- The bytes of a range in memory have addresses. -/
theorem Spans.exists_address {n j : Nat} (h : Spans address n) (hj : j < n) :
    ∃ a : Address, a.toNat = address.toNat + j := by
  obtain ⟨-, htop⟩ := h
  unfold top at htop
  exact ⟨UInt16.ofNat (address.toNat + j), by rw [UInt16.toNat_ofNat']; omega⟩

/-- Memory is what is read from it. -/
theorem ext_readByte (h : ∀ a, m.readByte a = m'.readByte a) : m = m' := by
  refine ext_cell fun k hk => ?_
  have hall : Spans 0x200 0xe00 := by decide
  obtain ⟨a, ha⟩ := hall.exists_address hk
  have hcell : a.toNat - base = k := by
    rw [ha]
    exact Nat.add_sub_cancel_left base k
  have hread := h a
  rw [m.readByte_of_spans (hall.byte hk ha), m'.readByte_of_spans (hall.byte hk ha), hcell] at hread
  exact Except.ok.inj hread

/-- A window shows the bytes that are read one by one. -/
theorem readByte_window {a : Address} {n j : Nat} (h : Spans address n)
    (hj : j < (m.window (address.toNat - base) n).length) (ha : a.toNat = address.toNat + j) :
    m.readByte a = .ok (m.window (address.toNat - base) n)[j] := by
  have hlt : j < n := by rwa [length_window] at hj
  have hbase := h.1
  have hcell : a.toNat - base = address.toNat - base + j := by omega
  rw [m.readByte_of_spans (h.byte hlt ha), hcell]
  simp only [window, List.getElem_map, List.getElem_range]

/-- Bytes read at once are those read one by one. -/
theorem read_eq_ok_iff {n : Nat} {data : List UInt8} : m.read address n = .ok data ↔
    Spans address n ∧ data.length = n ∧
      ∀ (j : Nat) (h : j < data.length) (a : Address), a.toNat = address.toNat + j →
        m.readByte a = .ok data[j] := by
  by_cases hs : Spans address n
  · rw [m.read_of_spans hs]
    constructor
    · intro h
      cases h
      exact ⟨hs, m.length_window _ n, fun j hj a ha => readByte_window hs hj ha⟩
    · rintro ⟨-, hlength, hbytes⟩
      refine congrArg Except.ok (List.ext_getElem ?_ fun j hj hj' => ?_)
      · rw [length_window, hlength]
      · obtain ⟨a, ha⟩ := hs.exists_address (hlength ▸ hj')
        have hread := hbytes j hj' a ha
        rw [readByte_window hs hj ha] at hread
        exact Except.ok.inj hread
  · rw [m.read_of_not_spans hs]
    exact ⟨fun h => (nomatch h), fun h => absurd h.1 hs⟩

/-- A word is the two bytes at its address, the high one first. -/
theorem readWord_eq_ok_iff {w : Word} : m.readWord address = .ok w ↔
    ∃ high low : UInt8, m.readByte address = .ok high ∧ m.readByte (address + 1) = .ok low ∧
      w.toNat = 256 * high.toNat + low.toNat := by
  by_cases hs : Spans address 2
  · have htop : address.toNat + 2 ≤ 0x1000 := hs.2
    have hbase := hs.1
    have hnext : (address + 1).toNat = address.toNat + 1 := toNat_next (by omega)
    have hcell : (address + 1).toNat - base = address.toNat - base + 1 := by omega
    rw [m.readWord_of_spans hs, m.readByte_of_spans (hs.byte Nat.zero_lt_two rfl),
      m.readByte_of_spans (hs.byte Nat.one_lt_two hnext), hcell]
    generalize m.cell (address.toNat - base) = high, m.cell (address.toNat - base + 1) = low
    constructor
    · intro h
      cases h
      exact ⟨high, low, rfl, rfl, by rw [Word.toNat_ofBytes, Nat.mul_comm]⟩
    · rintro ⟨_, _, hhigh, hlow, hw⟩
      cases hhigh
      cases hlow
      refine congrArg Except.ok (UInt16.toNat.inj ?_)
      rw [Word.toNat_ofBytes, hw, Nat.mul_comm]
  · rw [m.readWord_of_not_spans hs]
    refine ⟨fun h => (nomatch h), fun ⟨high, low, hhigh, hlow, _⟩ => absurd ?_ hs⟩
    obtain ⟨hbase, hfirst⟩ := spans_of_readByte hhigh
    have hsecond := (spans_of_readByte hlow).2
    unfold top at hfirst hsecond
    rw [toNat_next (by omega)] at hsecond
    exact ⟨hbase, hsecond⟩

end Reading

/-! ## Writing -/

/-- The memory `after` has the given bytes from an address on and otherwise what `before` has. -/
structure Written (before : Memory) (start : Address) (data : List UInt8) (after : Memory) : Prop where
  bytes : ∀ (j : Nat) (h : j < data.length) (a : Address), a.toNat = start.toNat + j →
    after.readByte a = .ok data[j]
  others : ∀ a : Address, ¬ (start.toNat ≤ a.toNat ∧ a.toNat < start.toNat + data.length) →
    after.readByte a = before.readByte a

variable {m m' m'' : Memory} {start : Address} {data : List UInt8}

/-- Bytes that are put in memory are written. -/
theorem written_put (hs : Spans start data.length) :
    m.Written start data (m.put (start.toNat - base) data) where
  bytes j hj a ha := by
    have hspans := hs.byte hj ha
    have hbase := hs.1
    have htop := hspans.2
    have hj' : a.toNat - base - (start.toNat - base) = j := by omega
    have hinside : start.toNat - base ≤ a.toNat - base ∧
        a.toNat - base < start.toNat - base + data.length ∧ a.toNat - base < 0xe00 := by
      unfold base top at *
      omega
    rw [readByte_of_spans _ hspans, cell_put, if_pos hinside, hj', List.getD_eq_getElem _ _ hj]
  others a ha := by
    refine readByte_congr fun hspans => ?_
    have hbase := hspans.1
    exact m.cell_put_of_outside hs (by omega)

/-- A write leaves one memory only. -/
theorem Written.unique (h : m.Written start data m') (h' : m.Written start data m'') : m' = m'' := by
  refine ext_readByte fun a => ?_
  by_cases ha : start.toNat ≤ a.toNat ∧ a.toNat < start.toNat + data.length
  · have hj : a.toNat - start.toNat < data.length := by omega
    rw [h.bytes _ hj a (by omega), h'.bytes _ hj a (by omega)]
  · rw [h.others a ha, h'.others a ha]

/-- Words are fetched from memory with the given bytes from an address on, be it that both bytes of a word
are among them or only one is. -/
def FetchedAs (m : Memory) (start : Address) (data : List UInt8) : Prop :=
  ∀ (pc : Address) (w : Word), m.readWord pc = .ok w → ∀ (j : Nat) (h : j < data.length),
    (pc.toNat = start.toNat + j → Word.high w = data[j]) ∧
    (pc.toNat + 1 = start.toNat + j → Word.low w = data[j])

/-- Words are fetched as they were written. -/
theorem Written.fetched (h : m.Written start data m') : m'.FetchedAs start data := by
  intro pc w hw j hj
  obtain ⟨high, low, hhigh, hlow, hnumber⟩ := readWord_eq_ok_iff.1 hw
  have hbytes : w = Word.ofBytes high low := by
    refine UInt16.toNat.inj ?_
    rw [Word.toNat_ofBytes, hnumber, Nat.mul_comm]
  rw [hbytes]
  refine ⟨fun hpc => ?_, fun hpc => ?_⟩
  · rw [h.bytes j hj pc hpc] at hhigh
    rw [Word.high_ofBytes]
    exact (Except.ok.inj hhigh).symm
  · have htop := (spans_of_readByte hhigh).2
    unfold top at htop
    rw [h.bytes j hj (pc + 1) ((toNat_next (by omega)).trans hpc)] at hlow
    rw [Word.low_ofBytes]
    exact (Except.ok.inj hlow).symm

end Memory

end Cosmac
