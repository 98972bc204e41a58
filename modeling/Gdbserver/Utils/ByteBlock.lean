import Mathlib.Data.Nat.Find
import Gdbserver.Foundation.Bytes

/-!
# Byte blocks and the strings in them

`lib/debugger-utils/byte-block.h` and `ReadString` of `util-mx.cc`. A byte block
is process memory or a file. Which reads succeed is up to the block: it may
refuse any address and any length. A read that succeeds gives the bytes at
consecutive addresses, which wrap around at `2 ^ 64`.
-/

set_option autoImplicit false

namespace Gdbserver

namespace Util

structure ByteBlock where
  byte : UInt64 → UInt8
  readable : UInt64 → Nat → Bool

namespace ByteBlock

variable (block : ByteBlock)

def bytes : UInt64 → Nat → Bytes
  | _, 0 => []
  | address, length + 1 => block.byte address :: bytes (address + 1) length

/-- `Read`: the bytes it stores in the buffer, or `none` for `false`. -/
def read (address : UInt64) (length : Nat) : Option Bytes :=
  if block.readable address length then some (block.bytes address length) else none

variable {block} {address : UInt64} {length : Nat}

theorem read_of_readable (readable : block.readable address length = true) :
    block.read address length = some (block.bytes address length) := by
  simp [read, readable]

theorem read_eq_some_iff {read : Bytes} : block.read address length = some read ↔
    block.readable address length = true ∧ read = block.bytes address length := by
  cases readable : block.readable address length with
  | false => simp [ByteBlock.read, readable]
  | true => simp [ByteBlock.read, readable, eq_comm]

@[simp]
theorem bytes_length (address : UInt64) (length : Nat) :
    (block.bytes address length).length = length := by
  induction length generalizing address with
  | zero => rfl
  | succ length ih => simp [bytes, ih]

theorem add_succ_toUInt64 (address : UInt64) (count : Nat) :
    address + (count + 1).toUInt64 = address + 1 + count.toUInt64 := by
  simp only [Nat.toUInt64_eq, UInt64.ofNat_add]
  rw [UInt64.add_comm (UInt64.ofNat count), UInt64.add_assoc]
  rfl

theorem add_zero_toUInt64 (address : UInt64) : address + (0 : Nat).toUInt64 = address :=
  UInt64.add_zero address

theorem bytes_add (address : UInt64) (first rest : Nat) : block.bytes address (first + rest) =
    block.bytes address first ++ block.bytes (address + first.toUInt64) rest := by
  induction first generalizing address with
  | zero => simp [bytes]
  | succ first ih =>
      rw [Nat.add_right_comm, bytes, bytes, ih, add_succ_toUInt64, List.cons_append]

end ByteBlock

/-- What a call of `ReadString` does: its result, the bytes it leaves from `ptr`
on, and the addresses it asks for. -/
structure StringRead where
  success : Bool
  stored : Bytes
  asked : List UInt64
deriving DecidableEq, Repr

def readString (m : ByteBlock) (vaddr : UInt64) : Nat → StringRead
  | max + 2 =>
      match m.read vaddr 1 with
      | none => { success := false, stored := [0], asked := [vaddr] }
      | some byte =>
          let later := readString m (vaddr + 1) (max + 1)
          { success := later.success, stored := byte ++ later.stored,
            asked := vaddr :: later.asked }
  | _ => { success := true, stored := [0], asked := [] }

section ReadString

variable {m : ByteBlock} {vaddr : UInt64}

def Readable (m : ByteBlock) (vaddr : UInt64) (count : Nat) : Prop :=
  ∀ index < count, m.readable (vaddr + index.toUInt64) 1 = true

instance (m : ByteBlock) (vaddr : UInt64) (count : Nat) : Decidable (Readable m vaddr count) :=
  inferInstanceAs (Decidable (∀ index < count, _))

def addresses : UInt64 → Nat → List UInt64
  | _, 0 => []
  | vaddr, count + 1 => vaddr :: addresses (vaddr + 1) count

theorem mem_addresses {count : Nat} {address : UInt64} : address ∈ addresses vaddr count ↔
    ∃ index < count, address = vaddr + index.toUInt64 := by
  induction count generalizing vaddr with
  | zero => simp [addresses]
  | succ count ih =>
      rw [addresses, List.mem_cons, ih]
      constructor
      · intro found
        cases found with
        | inl first =>
            exact ⟨0, Nat.succ_pos count, by rw [first, ByteBlock.add_zero_toUInt64]⟩
        | inr later =>
            obtain ⟨index, inside, same⟩ := later
            exact ⟨index + 1, Nat.succ_lt_succ inside,
              by rw [same, ByteBlock.add_succ_toUInt64]⟩
      · intro found
        obtain ⟨index, inside, same⟩ := found
        cases index with
        | zero => exact Or.inl (by rw [same, ByteBlock.add_zero_toUInt64])
        | succ index =>
            exact Or.inr ⟨index, Nat.lt_of_succ_lt_succ inside,
              by rw [same, ByteBlock.add_succ_toUInt64]⟩

theorem readable_succ_iff {count : Nat} : Readable m vaddr (count + 1) ↔
    m.readable vaddr 1 = true ∧ Readable m (vaddr + 1) count := by
  constructor
  · intro readable
    refine ⟨by simpa using readable 0 (Nat.succ_pos count), fun index inside => ?_⟩
    rw [← ByteBlock.add_succ_toUInt64]
    exact readable (index + 1) (Nat.succ_lt_succ inside)
  · intro readable index inside
    cases index with
    | zero => simpa using readable.1
    | succ index =>
        rw [ByteBlock.add_succ_toUInt64]
        exact readable.2 index (Nat.lt_of_succ_lt_succ inside)

theorem read_one (readable : m.readable vaddr 1 = true) :
    m.read vaddr 1 = some [m.byte vaddr] := by
  simp [ByteBlock.read, readable, ByteBlock.bytes]

/-- All that `ReadString` looks at is whether the next byte can be read. -/
theorem readString_of_readable {count : Nat} (readable : Readable m vaddr count) :
    readString m vaddr (count + 1) =
      { success := true, stored := m.bytes vaddr count ++ [0],
        asked := addresses vaddr count } := by
  induction count generalizing vaddr with
  | zero => rfl
  | succ count ih =>
      obtain ⟨first, later⟩ := readable_succ_iff.mp readable
      simp [readString, read_one first, ih later, ByteBlock.bytes, addresses]

theorem readString_of_unreadable {count more : Nat} (readable : Readable m vaddr count)
    (unreadable : m.readable (vaddr + count.toUInt64) 1 = false) :
    readString m vaddr (count + more + 2) =
      { success := false, stored := m.bytes vaddr count ++ [0],
        asked := addresses vaddr (count + 1) } := by
  induction count generalizing vaddr with
  | zero =>
      rw [ByteBlock.add_zero_toUInt64] at unreadable
      simp [readString, ByteBlock.read, unreadable, ByteBlock.bytes, addresses]
  | succ count ih =>
      obtain ⟨first, later⟩ := readable_succ_iff.mp readable
      rw [ByteBlock.add_succ_toUInt64] at unreadable
      rw [show count + 1 + more + 2 = count + more + 1 + 2 by omega, readString, read_one first]
      simp [ih later unreadable, ByteBlock.bytes, addresses]

/-- A block of bytes that cannot be read whole has a first byte that cannot be read. -/
theorem exists_unreadable {count : Nat} (unreadable : ¬ Readable m vaddr count) :
    ∃ index < count, Readable m vaddr index ∧ m.readable (vaddr + index.toUInt64) 1 = false := by
  induction count with
  | zero => exact absurd (fun index inside => absurd inside (Nat.not_lt_zero index)) unreadable
  | succ count ih =>
      by_cases shorter : Readable m vaddr count
      · refine ⟨count, Nat.lt_succ_self count, shorter, ?_⟩
        cases last : m.readable (vaddr + count.toUInt64) 1 with
        | false => rfl
        | true =>
            apply absurd _ unreadable
            intro index inside
            cases Nat.lt_or_eq_of_le (Nat.le_of_lt_succ inside) with
            | inl before => exact shorter index before
            | inr same => rw [same, last]
      · obtain ⟨index, inside, before, fails⟩ := ih shorter
        exact ⟨index, Nat.lt_succ_of_lt inside, before, fails⟩

/-- A readable string of `k` bytes with its NUL stands at `vaddr`. -/
structure StringAt (m : ByteBlock) (vaddr : UInt64) (k : Nat) : Prop where
  readable : Readable m vaddr (k + 1)
  nul : m.byte (vaddr + k.toUInt64) = 0
  first : ∀ index < k, m.byte (vaddr + index.toUInt64) ≠ 0

/-- The first bytes can be read and none of them ends a string. -/
def LongerThan (m : ByteBlock) (vaddr : UInt64) (count : Nat) : Prop :=
  Readable m vaddr count ∧ ∀ index < count, m.byte (vaddr + index.toUInt64) ≠ 0

/-- A call that reads a string and not a block. -/
structure ReadsString (m : ByteBlock) (vaddr : UInt64) (max : Nat) : Prop where
  terminated : ∀ k < max, StringAt m vaddr k →
    (readString m vaddr max).success = true ∧
      (m.bytes vaddr k ++ [0]) <+: (readString m vaddr max).stored ∧
      ∀ address ∈ (readString m vaddr max).asked, ∃ index ≤ k, address = vaddr + index.toUInt64
  truncated : LongerThan m vaddr (max - 1) →
    (readString m vaddr max).success = true ∧
      (readString m vaddr max).stored = m.bytes vaddr (max - 1) ++ [0]
  failed : (∀ k < max, ¬ StringAt m vaddr k) → ¬ LongerThan m vaddr (max - 1) →
    (readString m vaddr max).success = false ∧
      ∃ text, (readString m vaddr max).stored = text ++ [0] ∧ text.length < max

theorem exists_stringAt {count : Nat} (readable : Readable m vaddr count)
    (ends : ¬ LongerThan m vaddr count) : ∃ k < count, StringAt m vaddr k := by
  have nul : ∃ index, index < count ∧ m.byte (vaddr + index.toUInt64) = 0 := by
    by_contra none
    exact ends ⟨readable, fun index inside zero => none ⟨index, inside, zero⟩⟩
  classical
  refine ⟨Nat.find nul, (Nat.find_spec nul).1, ?_, (Nat.find_spec nul).2, ?_⟩
  · intro index inside
    exact readable index (Nat.lt_of_le_of_lt (Nat.le_of_lt_succ inside) (Nat.find_spec nul).1)
  · intro index before zero
    exact Nat.find_min nul before ⟨Nat.lt_trans before (Nat.find_spec nul).1, zero⟩

/-- With room for the string, its NUL and at most one byte more, the call stops in time. -/
theorem readString_stringAt {k max : Nat} (string : StringAt m vaddr k) (inside : k < max)
    (tight : max ≤ k + 2) :
    (readString m vaddr max).success = true ∧
      (m.bytes vaddr k ++ [0]) <+: (readString m vaddr max).stored ∧
      ∀ address ∈ (readString m vaddr max).asked,
        ∃ index ≤ k, address = vaddr + index.toUInt64 := by
  have size : max = k + 1 ∨ max = k + 1 + 1 := by omega
  cases size with
  | inl exactly =>
      subst exactly
      have shorter : Readable m vaddr k := fun index before =>
        string.readable index (Nat.lt_succ_of_lt before)
      rw [readString_of_readable shorter]
      refine ⟨rfl, List.prefix_rfl, fun address asked => ?_⟩
      obtain ⟨index, before, same⟩ := mem_addresses.mp asked
      exact ⟨index, Nat.le_of_lt before, same⟩
  | inr one =>
      subst one
      rw [readString_of_readable string.readable]
      refine ⟨rfl, ⟨[0], ?_⟩, fun address asked => ?_⟩
      · rw [ByteBlock.bytes_add, ByteBlock.bytes, string.nul, ByteBlock.bytes]
      · obtain ⟨index, before, same⟩ := mem_addresses.mp asked
        exact ⟨index, Nat.le_of_lt_succ before, same⟩

/-- The byte behind the NUL is asked for as soon as there is room for it. -/
theorem asked_behind {k max : Nat} (string : StringAt m vaddr k) (room : k + 2 < max) :
    vaddr + (k + 1).toUInt64 ∈ (readString m vaddr max).asked := by
  obtain ⟨count, rfl⟩ : ∃ count, max = count + 1 := ⟨max - 1, by omega⟩
  by_cases readable : Readable m vaddr count
  · rw [readString_of_readable readable]
    exact mem_addresses.mpr ⟨k + 1, by omega, rfl⟩
  · obtain ⟨index, inside, before, fails⟩ := exists_unreadable readable
    have behind : k < index := by
      by_contra within
      have granted := string.readable index (by omega)
      rw [fails] at granted
      cases granted
    obtain ⟨more, same⟩ : ∃ more, count + 1 = index + more + 2 := ⟨count - 1 - index, by omega⟩
    rw [same, readString_of_unreadable before fails]
    exact mem_addresses.mpr ⟨k + 1, by omega, rfl⟩

theorem add_toUInt64_inj {first second : Nat} (small : first < 2 ^ 64) (small' : second < 2 ^ 64)
    (same : vaddr + first.toUInt64 = vaddr + second.toUInt64) : first = second := by
  have cancelled := (UInt64.add_right_inj vaddr).mp same
  have values := congrArg UInt64.toNat cancelled
  rwa [Nat.toUInt64_eq, Nat.toUInt64_eq, UInt64.toNat_ofNat_of_lt' small,
    UInt64.toNat_ofNat_of_lt' small'] at values

theorem readString_fails {max : Nat} (positive : 1 ≤ max)
    (unreadable : ¬ Readable m vaddr (max - 1)) :
    (readString m vaddr max).success = false ∧
      ∃ text, (readString m vaddr max).stored = text ++ [0] ∧ text.length < max := by
  obtain ⟨index, inside, before, fails⟩ := exists_unreadable unreadable
  obtain ⟨more, same⟩ : ∃ more, max = index + more + 2 := ⟨max - 2 - index, by omega⟩
  rw [same, readString_of_unreadable before fails]
  exact ⟨rfl, m.bytes vaddr index, rfl, by rw [ByteBlock.bytes_length]; omega⟩

/-- `ReadString` never looks at the bytes it has read. It behaves as a reader of
strings exactly when no readable string ends more than two bytes before the end
of the buffer. -/
theorem readsString_iff_noShortString (m : ByteBlock) (vaddr : UInt64) (max : Nat)
    (positive : 1 ≤ max) (fits : max < 2 ^ 64) :
    ReadsString m vaddr max ↔ ∀ k, k + 2 < max → ¬ StringAt m vaddr k := by
  constructor
  · intro reads k room string
    obtain ⟨-, -, within⟩ := reads.terminated k (by omega) string
    obtain ⟨index, inside, same⟩ := within _ (asked_behind string room)
    have equal := add_toUInt64_inj (by omega) (by omega) same
    omega
  · intro noShort
    refine ⟨fun k inside string => ?_, fun longer => ?_, fun noString notLonger => ?_⟩
    · have tight : max ≤ k + 2 := by
        by_contra room
        exact noShort k (by omega) string
      exact readString_stringAt string inside tight
    · have whole : max = max - 1 + 1 := by omega
      have read := readString_of_readable longer.1
      rw [← whole] at read
      rw [read]
      exact ⟨rfl, rfl⟩
    · apply readString_fails positive
      intro readable
      obtain ⟨k, inside, string⟩ := exists_stringAt readable notLonger
      exact noString k (by omega) string

/-- The two bytes of a short string at the end of what can be read. -/
def lastString : ByteBlock where
  byte address := if address = 0 then chr 'a' else 0
  readable address length := decide (address.toNat + length ≤ 2)

theorem readsString_exactRoom : ReadsString lastString 0 3 := by
  apply (readsString_iff_noShortString lastString 0 3 (by decide) (by decide)).mpr
  intro k room string
  obtain rfl : k = 0 := by omega
  exact absurd string.nul (by decide)

/-- The string with its NUL can be read, yet reading it into a buffer of 64 bytes
fails, for the byte behind it. -/
theorem readString_lastString : StringAt lastString 0 1 ∧
    readString lastString 0 64 =
      { success := false, stored := [chr 'a', 0, 0], asked := [0, 1, 2] } ∧
    ¬ ReadsString lastString 0 64 := by
  have string : StringAt lastString 0 1 := ⟨by decide, by decide, by decide⟩
  refine ⟨string, by decide, fun reads => ?_⟩
  exact absurd (reads.terminated 1 (by decide) string).1 (by decide)

end ReadString

end Util

end Gdbserver
