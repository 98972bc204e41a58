import Gdbserver.Utils.ElfSymtab

/-!
# Looking up symbols

`CompareSymbol` returns the difference of two 64-bit addresses as an `int`. Sorting is
right exactly where the differences keep their signs, and searching for an address where
the comparisons with it are in order.
-/

set_option autoImplicit false

namespace Gdbserver

namespace Elf

open Util Logic

/-- The difference of the two addresses has its sign as an `int`, either way. -/
def SignKept (low high : UInt64) : Prop :=
  0 < (high - low).toNat % 2 ^ 32 ∧ (high - low).toNat % 2 ^ 32 < 2 ^ 31

instance (low high : UInt64) : Decidable (SignKept low high) := inferInstanceAs (Decidable (_ ∧ _))

theorem toInt_toInt32_of_lt {value : UInt32} (small : value.toNat < 2 ^ 31) :
    value.toInt32.toInt = value.toNat := by
  have bits : value.toInt32.toInt = value.toBitVec.toInt := rfl
  rw [bits, BitVec.toInt_eq_toNat_of_lt]
  · rfl
  · change 2 * value.toNat < 2 ^ 32
    omega

theorem toInt_toInt32_of_ge {value : UInt32} (large : 2 ^ 31 ≤ value.toNat) :
    value.toInt32.toInt = value.toNat - 2 ^ 32 := by
  have bits : value.toInt32.toInt = value.toBitVec.toInt := rfl
  have size := value.toNat_lt
  rw [bits, BitVec.toInt_eq_toNat_cond, if_neg (by change ¬ 2 * value.toNat < 2 ^ 32; omega)]
  rfl

theorem difference_pos {low high : UInt64} (kept : SignKept low high) :
    0 < (high - low).toUInt32.toInt32.toInt := by
  rw [SignKept, ← UInt64.toNat_toUInt32] at kept
  rw [toInt_toInt32_of_lt kept.2]
  exact Int.natCast_pos.mpr kept.1

theorem difference_neg {low high : UInt64} (kept : SignKept low high) :
    (low - high).toUInt32.toInt32.toInt < 0 := by
  have negated : (low - high).toUInt32 = -(high - low).toUInt32 := by
    rw [← UInt64.neg_sub, UInt64.toUInt32_neg]
  rw [SignKept, ← UInt64.toNat_toUInt32] at kept
  have value : (low - high).toUInt32.toNat = 2 ^ 32 - (high - low).toUInt32.toNat := by
    have size : UInt32.size = 2 ^ 32 := rfl
    rw [negated, UInt32.toNat_neg, size]
    exact Nat.mod_eq_of_lt (by omega)
  rw [toInt_toInt32_of_ge (by omega), value]
  omega

/-- Otherwise the higher address does not compare above the lower one. -/
theorem difference_nonpos {low high : UInt64} (lost : ¬ SignKept low high) :
    (high - low).toUInt32.toInt32.toInt ≤ 0 := by
  rw [SignKept, ← UInt64.toNat_toUInt32] at lost
  have size := (high - low).toUInt32.toNat_lt
  by_cases small : (high - low).toUInt32.toNat < 2 ^ 31
  · rw [toInt_toInt32_of_lt small]
    omega
  · rw [toInt_toInt32_of_ge (by omega)]
    omega

namespace Symbol

def Contains (symbol : Symbol) (addr : UInt64) : Prop :=
  symbol.addr.toNat ≤ addr.toNat ∧ addr.toNat < symbol.addr.toNat + symbol.size.toNat

instance (symbol : Symbol) (addr : UInt64) : Decidable (symbol.Contains addr) :=
  inferInstanceAs (Decidable (_ ∧ _))

end Symbol

/-- Symbols of some size, none of which wraps around, in disjoint ranges. -/
structure Apart (symbols : List Symbol) : Prop where
  sized : ∀ symbol ∈ symbols, symbol.size ≠ 0
  noWrap : ∀ symbol ∈ symbols, symbol.addr.toNat + symbol.size.toNat ≤ 2 ^ 64
  disjoint : symbols.Pairwise fun first second =>
    first.addr.toNat + first.size.toNat ≤ second.addr.toNat ∨
      second.addr.toNat + second.size.toNat ≤ first.addr.toNat

/-- Every two symbols are compared with the right sign. -/
def SymbolsNear (symbols : List Symbol) : Prop :=
  ∀ first ∈ symbols, ∀ second ∈ symbols, first.addr < second.addr →
    SignKept first.addr second.addr

/-- Where the address compares above the higher symbol it does so with the lower one, and
where it compares below the lower symbol, with the higher one. -/
def Descends (addr : UInt64) (low high : Symbol) : Prop :=
  (0 < compareSymbol { addr := addr } high → 0 < compareSymbol { addr := addr } low) ∧
    (compareSymbol { addr := addr } low < 0 → compareSymbol { addr := addr } high < 0)

instance (addr : UInt64) (low high : Symbol) : Decidable (Descends addr low high) :=
  inferInstanceAs (Decidable (_ ∧ _))

/-- The address compares equal to the symbol that contains it and to no other, and first
above and then below the symbols in the order of their addresses. -/
structure AddressNear (symbols : List Symbol) (addr : UInt64) : Prop where
  equal : ∀ symbol ∈ symbols, compareSymbol { addr := addr } symbol = 0 ↔ symbol.Contains addr
  ordered : ∀ low ∈ symbols, ∀ high ∈ symbols, low.addr < high.addr → Descends addr low high

section Compare

variable {symbols : List Symbol} {symbol first second : Symbol} {addr : UInt64}

/-- The test misses symbols that end where the address space does. -/
theorem contains_of_test (test : addr ≥ symbol.addr ∧ addr < symbol.addr + symbol.size) :
    symbol.Contains addr := by
  obtain ⟨low, high⟩ := test
  rw [UInt64.lt_iff_toNat_lt, UInt64.toNat_add] at high
  exact ⟨UInt64.le_iff_toNat_le.mp low, high.trans_le (Nat.mod_le _ _)⟩

theorem Apart.disjoint_of_ne (apart : Apart symbols) (one : first ∈ symbols)
    (other : second ∈ symbols) (different : first ≠ second) :
    first.addr.toNat + first.size.toNat ≤ second.addr.toNat ∨
      second.addr.toNat + second.size.toNat ≤ first.addr.toNat := by
  have : Std.Symm fun first second : Symbol =>
      first.addr.toNat + first.size.toNat ≤ second.addr.toNat ∨
        second.addr.toNat + second.size.toNat ≤ first.addr.toNat := ⟨fun _ _ => Or.symm⟩
  exact apart.disjoint.forall one other different

theorem Apart.size_pos (apart : Apart symbols) (member : symbol ∈ symbols) :
    0 < symbol.size.toNat :=
  Nat.pos_of_ne_zero fun zero => apart.sized symbol member (UInt64.toNat_inj.mp zero)

theorem compareSymbol_self (symbol : Symbol) : compareSymbol symbol symbol = 0 := by
  simp [compareSymbol]

theorem compareSymbol_of_ne (apart : Apart symbols) (one : first ∈ symbols)
    (other : second ∈ symbols) (different : first ≠ second) :
    compareSymbol first second = (first.addr - second.addr).toUInt32.toInt32.toInt := by
  have disjoint := apart.disjoint_of_ne one other different
  have sizeOne := apart.size_pos one
  have sizeOther := apart.size_pos other
  have outside : ¬ second.Contains first.addr := by
    rw [Symbol.Contains]
    omega
  have outside' : ¬ first.Contains second.addr := by
    rw [Symbol.Contains]
    omega
  rw [compareSymbol, if_neg (mt contains_of_test outside), if_neg (mt contains_of_test outside')]

/-- The comparison is the order of the addresses. -/
theorem comparesBy_addr (apart : Apart symbols) (near : SymbolsNear symbols) :
    ComparesBy (fun symbol => symbol.addr.toNat) compareSymbol symbols := by
  intro first one second other
  by_cases same : first = second
  · subst same
    rw [compareSymbol_self]
    simp
  · have sizeOne := apart.size_pos one
    have sizeOther := apart.size_pos other
    rw [compareSymbol_of_ne apart one other same]
    cases apart.disjoint_of_ne one other same with
    | inl below =>
        have less : first.addr.toNat < second.addr.toNat := by omega
        have negative := difference_neg (near first one second other (UInt64.lt_iff_toNat_lt.mpr less))
        exact ⟨iff_of_true negative less, iff_of_false (by omega) (Nat.lt_asymm less)⟩
    | inr above =>
        have less : second.addr.toNat < first.addr.toNat := by omega
        have positive := difference_pos (near second other first one (UInt64.lt_iff_toNat_lt.mpr less))
        exact ⟨iff_of_false (by omega) (Nat.lt_asymm less), iff_of_true positive less⟩

theorem Apart.perm {others : List Symbol} (apart : Apart symbols) (perm : others.Perm symbols) :
    Apart others where
  sized symbol member := apart.sized symbol (perm.mem_iff.mp member)
  noWrap symbol member := apart.noWrap symbol (perm.mem_iff.mp member)
  disjoint := (perm.pairwise_iff fun either => either.symm).mpr apart.disjoint

theorem AddressNear.perm {others : List Symbol} (near : AddressNear symbols addr)
    (perm : others.Perm symbols) : AddressNear others addr where
  equal symbol member := near.equal symbol (perm.mem_iff.mp member)
  ordered low one high other :=
    near.ordered low (perm.mem_iff.mp one) high (perm.mem_iff.mp other)

/-- In a table that is sorted the symbols below the address come first, then the
one that contains it, then those above. -/
theorem split_of_sorted (apart : Apart symbols) (near : AddressNear symbols addr)
    (sorted : symbols.Pairwise fun before behind => before.addr.toNat ≤ behind.addr.toNat) :
    Split compareSymbol { addr := addr } symbols := by
  apply (sorted.and apart.disjoint).imp_of_mem
  intro before behind one other both
  have sizeOne := apart.size_pos one
  have sizeOther := apart.size_pos other
  exact near.ordered before one behind other (UInt64.lt_iff_toNat_lt.mpr (by omega))

/-- Of two symbols of a sorted table the lower one comes first. -/
theorem descends_of_split
    (sorted : symbols.Pairwise fun before behind => before.addr.toNat ≤ behind.addr.toNat)
    (split : symbols.Pairwise (Descends addr)) (one : first ∈ symbols) (other : second ∈ symbols)
    (below : first.addr < second.addr) : Descends addr first second := by
  have : Std.Symm fun low high : Symbol => (low.addr < high.addr → Descends addr low high) ∧
      (high.addr < low.addr → Descends addr high low) := ⟨fun _ _ => And.symm⟩
  have either := (sorted.and split).imp fun {low high} (both : _ ∧ Descends addr low high) =>
    (⟨fun _ => both.2, fun less => absurd (UInt64.lt_iff_toNat_lt.mp less) (Nat.not_lt.mpr both.1)⟩ :
      (low.addr < high.addr → Descends addr low high) ∧
        (high.addr < low.addr → Descends addr high low))
  have different : first ≠ second := by
    rintro rfl
    exact absurd below (UInt64.lt_irrefl _)
  exact (either.forall one other different).1 below

end Compare

namespace SymbolTable

/-- In the table the symbol that contains the address is found, if there is one. -/
def Finds (library : SortSearch) (symbols table : List Symbol) (addr : UInt64) : Prop :=
  (∀ symbol ∈ symbols, symbol.Contains addr → findSymbol library table addr = some symbol) ∧
    ((∀ symbol ∈ symbols, ¬ symbol.Contains addr) → findSymbol library table addr = none)

variable {library : SortSearch} {symbols : List Symbol} {addr : UInt64}

theorem Finds.perm {others table : List Symbol} (finds : Finds library symbols table addr)
    (perm : others.Perm symbols) : Finds library others table addr := by
  simpa only [Finds, perm.mem_iff] using finds

theorem Finds.contains {table : List Symbol} {symbol : Symbol}
    (finds : Finds library symbols table addr)
    (found : findSymbol library table addr = some symbol) : symbol.Contains addr := by
  by_contra outside
  by_cases inside : ∃ other ∈ symbols, other.Contains addr
  · obtain ⟨other, member, contains⟩ := inside
    cases found.symm.trans (finds.1 other member contains)
    exact outside contains
  · have none := finds.2 fun other member contains => inside ⟨other, member, contains⟩
    cases found.symm.trans none

theorem findSymbol_sorted (library : SortSearch) (apart : Apart symbols)
    (near : AddressNear symbols addr)
    (sorted : symbols.Pairwise fun before behind => before.addr.toNat ≤ behind.addr.toNat) :
    Finds library symbols symbols addr := by
  have split := split_of_sorted apart near sorted
  cases outcome : findSymbol library symbols addr with
  | none =>
      have missed := library.bsearch_missed _ _ _ split outcome
      refine ⟨fun symbol member inside => ?_, fun _ => outcome⟩
      exact absurd ((near.equal symbol member).mpr inside) (missed symbol member)
  | some found =>
      obtain ⟨listed, equal⟩ := library.bsearch_found _ _ _ _ split outcome
      have here := (near.equal found listed).mp equal
      refine ⟨fun symbol member inside => ?_, fun nowhere => absurd here (nowhere found listed)⟩
      by_contra different
      have other : found ≠ symbol := fun same => different (outcome.trans (congrArg some same))
      have disjoint := apart.disjoint_of_ne listed member other
      rw [Symbol.Contains] at here inside
      omega

/-- In a sorted table where the address is not near, some library goes wrong. -/
theorem near_of_finds
    (finds : ∀ library : SortSearch, (∀ list : List Symbol,
      library.qsort compareSymbol list = SortSearch.simple.qsort compareSymbol list) →
        Finds library symbols symbols addr)
    (sorted : symbols.Pairwise fun before behind => before.addr.toNat ≤ behind.addr.toNat) :
    AddressNear symbols addr := by
  have answers (answer : Symbol) (allowed : Split compareSymbol { addr := addr } symbols →
      answer ∈ symbols ∧ compareSymbol { addr := addr } answer = 0) : answer.Contains addr := by
    obtain ⟨library, answered, same⟩ : ∃ library : SortSearch,
        library.bsearch compareSymbol { addr := addr } symbols = some answer ∧
          ∀ list : List Symbol, library.qsort compareSymbol list =
            SortSearch.simple.qsort compareSymbol list := by
      apply SortSearch.exists_bsearch
      · rintro item split ⟨⟩
        exact allowed split
      · rintro split ⟨⟩
    exact (finds library same).contains answered
  have split : Split compareSymbol { addr := addr } symbols := by
    by_contra free
    -- nothing binds the library, not even to the table
    have empty := answers { addr := addr } fun split => absurd split free
    exact Nat.lt_irrefl _ empty.2
  refine ⟨fun symbol member => ⟨fun zero => answers symbol fun _ => ⟨member, zero⟩, fun inside => ?_⟩,
    fun low one high other below => descends_of_split sorted split one other below⟩
  have found := (finds .simple fun _ => rfl).1 symbol member inside
  exact (SortSearch.simple.bsearch_found _ _ _ _ split found).2

/-- For every library `Finalize` sorts by address, exactly if every difference of two
addresses keeps its sign as an `int`. Then for every library `FindSymbol` finds the symbol
that contains the address, or nothing, exactly if the comparisons with the address are in
order. -/
theorem findSymbol_right_iff (symbols : List Symbol) (apart : Apart symbols) :
    ((∀ library : SortSearch, (finalize library symbols).Perm symbols ∧
        (finalize library symbols).Pairwise fun before behind => before.addr ≤ behind.addr) ↔
      SymbolsNear symbols) ∧
    (SymbolsNear symbols → ∀ addr,
      ((∀ library : SortSearch, Finds library symbols (finalize library symbols) addr) ↔
        AddressNear symbols addr)) := by
  refine ⟨⟨fun sorts first one second other below => ?_, fun near library => ?_⟩,
    fun near addr => ⟨fun finds => ?_, fun nearby library => ?_⟩⟩
  · by_contra lost
    have different : second ≠ first := by
      rintro rfl
      exact absurd below (UInt64.lt_irrefl _)
    have nonpos : compareSymbol second first ≤ 0 := by
      rw [compareSymbol_of_ne apart other one different]
      exact difference_nonpos lost
    obtain ⟨library, before⟩ := SortSearch.exists_qsort_before other one different nonpos
    obtain ⟨perm, sorted⟩ := sorts library
    have order := List.rel_of_pairwise_cons (sorted.sublist (before perm)) List.mem_cons_self
    exact absurd below (UInt64.not_lt.mpr order)
  · obtain ⟨perm, sorted⟩ := (comparesBy_addr apart near).sorted library
    exact ⟨perm, sorted.imp fun order => UInt64.le_iff_toNat_le.mpr order⟩
  · obtain ⟨perm, sorted⟩ := (comparesBy_addr apart near).sorted .simple
    refine (near_of_finds (fun library same => ?_) sorted).perm perm.symm
    have right := finds library
    rw [finalize, same symbols] at right
    exact right.perm perm
  · obtain ⟨perm, sorted⟩ := (comparesBy_addr apart near).sorted library
    exact (findSymbol_sorted library (apart.perm perm) (nearby.perm perm) sorted).perm perm.symm

/-- Two functions of sixteen bytes, not in the order of their addresses. -/
def nearSymbols : List Symbol := [⟨some 0, 0x2000, 16⟩, ⟨some 5, 0x1000, 16⟩]

theorem findSymbol_nearSymbols :
    findSymbol .simple (finalize .simple nearSymbols) 0x1008 = some ⟨some 5, 0x1000, 16⟩ := by
  have apart : Apart nearSymbols := ⟨by decide, by decide, by decide⟩
  have near : SymbolsNear nearSymbols := by
    unfold SymbolsNear
    decide
  have nearby : AddressNear nearSymbols 0x1008 := ⟨by decide, by decide⟩
  have finds := ((findSymbol_right_iff nearSymbols apart).2 near 0x1008).mpr nearby .simple
  exact finds.1 _ (by decide) (by decide)

/-- All libraries agree on a table with one symbol. -/
theorem findSymbol_singleton (library : SortSearch) (symbol : Symbol) (addr : UInt64) :
    findSymbol library (finalize library [symbol]) addr =
      if compareSymbol { addr := addr } symbol = 0 then some symbol else none := by
  have self := compareSymbol_self symbol
  have consistent : Consistent compareSymbol [symbol] := by
    constructor <;> simp [self]
  have same : finalize library [symbol] = [symbol] :=
    List.perm_singleton.mp (library.qsort_sorts _ _ consistent).1
  rw [same]
  cases outcome : findSymbol library [symbol] addr with
  | none =>
      have missed := library.bsearch_missed _ _ _ (split_singleton _ _ _) outcome
      rw [if_neg (missed symbol List.mem_cons_self)]
  | some found =>
      obtain ⟨listed, equal⟩ := library.bsearch_found _ _ _ _ (split_singleton _ _ _) outcome
      rw [List.mem_singleton.mp listed] at equal ⊢
      rw [if_pos equal]

def farSymbol : Symbol := ⟨some 0, 0x100000000, 16⟩

/-- A symbol that ends where the address space does. -/
def lastSymbol : Symbol := ⟨some 0, 0xfffffffffffffff0, 16⟩

def lowSymbol : Symbol := ⟨some 0, 0x1000, 16⟩

/-- A symbol a little more than `2 ^ 31` behind the low one. -/
def highSymbol : Symbol := ⟨some 5, 0x80001001, 16⟩

/-- Whatever the library: address 0 is looked up as the far symbol, which does not
contain it, an address in the last symbol is not found, and the low and the high symbol are
not sorted by address. -/
theorem findSymbol_far :
    (Apart [farSymbol] ∧ ¬ farSymbol.Contains 0 ∧ ∀ library,
      findSymbol library (finalize library [farSymbol]) 0 = some farSymbol) ∧
    (Apart [lastSymbol] ∧ lastSymbol.Contains 0xfffffffffffffff8 ∧ ∀ library,
      findSymbol library (finalize library [lastSymbol]) 0xfffffffffffffff8 = none) ∧
    Apart [lowSymbol, highSymbol] ∧ ∀ library,
      ¬ (finalize library [lowSymbol, highSymbol]).Pairwise
        fun before behind => before.addr ≤ behind.addr := by
  refine ⟨⟨⟨by decide, by decide, by decide⟩, by decide, fun library => ?_⟩,
    ⟨⟨by decide, by decide, by decide⟩, by decide, fun library => ?_⟩,
    ⟨by decide, by decide, by decide⟩, fun library sorted => ?_⟩
  · rw [findSymbol_singleton, if_pos (by decide)]
  · rw [findSymbol_singleton, if_neg (by decide)]
  · have consistent : Consistent compareSymbol [lowSymbol, highSymbol] := ⟨by decide, by decide⟩
    obtain ⟨perm, ordered⟩ := library.qsort_sorts _ _ consistent
    -- either order of the two contradicts one of the two sortings
    have both : (finalize library [lowSymbol, highSymbol]).Pairwise fun before behind =>
        (compareSymbol before behind ≤ 0 ∧ before.addr ≤ behind.addr) ∨
          (compareSymbol behind before ≤ 0 ∧ behind.addr ≤ before.addr) :=
      (ordered.and sorted).imp Or.inl
    have pair := (perm.pairwise_iff fun either => either.symm).mp both
    rcases List.rel_of_pairwise_cons pair List.mem_cons_self with ⟨wrong, -⟩ | ⟨-, wrong⟩
    · exact absurd wrong (by decide)
    · exact absurd wrong (by decide)

end SymbolTable

end Elf

end Gdbserver
