import Gdbserver.Foundation.Ftl
import Gdbserver.Foundation.Hex

/-!
# Hexadecimal numbers in packets

What the number conversions of `lib/ftl` are taken to do in base 16, as laws a
proof can assume, and that `Ftl.standard` has them.
-/

set_option autoImplicit false

namespace Gdbserver

namespace Ftl

/-- At least one hexadecimal digit, of either case; together they write `value`. -/
structure Digits (string : Bytes) (value : Nat) : Prop where
  ne_nil : string ≠ []
  read : readDigits .k16 0 string = some value

/-- A hexadecimal number of type `int64_t`, with an optional minus sign. -/
inductive Numeral : Bytes → Int64 → Prop
  | unsigned {digits : Bytes} {magnitude : Nat} {value : Int64} : Digits digits magnitude →
      value.toInt = magnitude → Numeral digits value
  | negative {digits : Bytes} {magnitude : Nat} {value : Int64} : Digits digits magnitude →
      value.toInt = -magnitude → Numeral (chr '-' :: digits) value

/-- `StringToNumberWithError<int64_t>` reads exactly the numbers that fit. -/
def ReadsSigned (ftl : Ftl) : Prop :=
  ∀ string value, ftl.stringToInt64 string = some value ↔ Numeral string value

/-- `StringToNumberWithError` for the unsigned types: digits only, no overflow. -/
def ReadsUnsigned (ftl : Ftl) : Prop :=
  ∀ string value, ftl.stringToUInt64 string = some value ↔ Digits string value.toNat

/-- `NumberToString` writes digits only. -/
def PrintsHex (ftl : Ftl) : Prop := ∀ value, Digits (ftl.uint64ToHex value) value.toNat

/-- `NumberToString` in base 10. -/
def PrintsDecimal (ftl : Ftl) : Prop :=
  ∀ value, readDigits .k10 0 (ftl.uintToDecimal value) = some value.toNat

theorem isHexDigit_of_digitValue {char : UInt8} {value : Nat}
    (digit : digitValue .k16 char = some value) : Util.IsHexDigit char := by
  rw [digitValue] at digit
  rw [Util.IsHexDigit]
  cases read : Util.hexCharToByte char with
  | none => simp [read] at digit
  | some half => rfl

theorem isHexDigit_of_readDigits {start value : Nat} {string : Bytes}
    (read : readDigits .k16 start string = some value) : ∀ char ∈ string, Util.IsHexDigit char := by
  induction string generalizing start with
  | nil => simp
  | cons char rest ih =>
      rw [readDigits] at read
      cases digit : digitValue .k16 char with
      | none => simp [digit] at read
      | some next =>
          simp only [digit] at read
          exact List.forall_mem_cons.mpr ⟨isHexDigit_of_digitValue digit, ih read⟩

namespace Digits

variable {string : Bytes} {value : Nat}

theorem isHexDigit (digits : Digits string value) : ∀ char ∈ string, Util.IsHexDigit char :=
  isHexDigit_of_readDigits digits.read

/-- No separator of a packet stands in a number. -/
theorem clear (digits : Digits string value) {char : UInt8} (other : ¬ Util.IsHexDigit char) :
    char ∉ string := fun member => other (digits.isHexDigit char member)

theorem unique {other : Nat} (digits : Digits string value) (more : Digits string other) :
    value = other := by
  have same := digits.read.symm.trans more.read
  exact Option.some.inj same

end Digits

namespace Numeral

variable {string : Bytes} {value : Int64}

theorem clear (numeral : Numeral string value) {char : UInt8} (digit : ¬ Util.IsHexDigit char)
    (sign : char ≠ chr '-') : char ∉ string := by
  cases numeral with
  | unsigned digits => exact digits.clear digit
  | negative digits =>
      rw [List.mem_cons, not_or]
      exact ⟨sign, digits.clear digit⟩

theorem ne_nil (numeral : Numeral string value) : string ≠ [] := by
  cases numeral with
  | unsigned digits => exact digits.ne_nil
  | negative => exact List.cons_ne_nil _ _

theorem not_digits_sign (digits : Bytes) (value : Nat) : ¬ Digits (chr '-' :: digits) value := by
  intro read
  have sign := read.isHexDigit _ List.mem_cons_self
  revert sign
  decide

end Numeral

theorem toInt_toInt64 {value : UInt64} (small : value.toNat < 2 ^ 63) :
    value.toInt64.toInt = value.toNat := by
  change value.toBitVec.toInt = value.toBitVec.toNat
  exact BitVec.toInt_eq_toNat_of_lt (by simpa using (by omega : 2 * value.toNat < 2 ^ 64))

section Laws

variable {ftl : Ftl}

/-- Printed numbers are read as signed ones up to the sign bit, and not at all beyond. -/
theorem stringToInt64_uint64ToHex (reads : ftl.ReadsSigned) (prints : ftl.PrintsHex)
    (value : UInt64) : ftl.stringToInt64 (ftl.uint64ToHex value) =
      if value.toNat < 2 ^ 63 then some value.toInt64 else none := by
  have printed := prints value
  split
  · rename_i small
    exact (reads _ _).mpr (.unsigned printed (toInt_toInt64 small))
  · rename_i large
    cases read : ftl.stringToInt64 (ftl.uint64ToHex value) with
    | none => rfl
    | some number =>
        exfalso
        generalize ftl.uint64ToHex value = text at printed read
        cases (reads _ _).mp read with
        | unsigned digits same =>
            have bound := number.toInt_lt
            rw [same, digits.unique printed] at bound
            omega
        | negative => exact Numeral.not_digits_sign _ _ printed

theorem PrintsHex.injective (prints : ftl.PrintsHex) : Function.Injective ftl.uint64ToHex := by
  intro value other same
  have printed := prints value
  rw [same] at printed
  exact UInt64.toNat_inj.mp (printed.unique (prints other))

end Laws

theorem readUnsigned_eq_some_iff {limit value : Nat} {string : Bytes} :
    readUnsigned .k16 limit string = some value ↔ Digits string value ∧ value < limit := by
  rw [readUnsigned]
  split
  · rename_i none
    exact ⟨fun read => absurd read (by simp), fun held => absurd none held.1.ne_nil⟩
  · rename_i some
    rw [Option.filter_eq_some_iff, decide_eq_true_eq]
    exact ⟨fun held => ⟨⟨some, held.1⟩, held.2⟩, fun held => ⟨held.1.read, held.2⟩⟩

theorem readSigned_cons (limit : Nat) (sign : UInt8) (rest : Bytes) :
    readSigned .k16 limit (sign :: rest) =
      if sign = chr '-' then
        (readUnsigned .k16 (limit + 1) rest).map fun magnitude : Nat => -(magnitude : Int)
      else (readUnsigned .k16 limit (sign :: rest)).map fun magnitude : Nat => (magnitude : Int) := by
  rw [readSigned]
  split
  · cases readUnsigned .k16 (limit + 1) rest <;> rfl
  · cases readUnsigned .k16 limit (sign :: rest) <;> rfl

theorem standard_readsUnsigned : standard.ReadsUnsigned := by
  intro string value
  change (readUnsigned .k16 (2 ^ 64) string).map UInt64.ofNat = some value ↔ _
  rw [Option.map_eq_some_iff]
  constructor
  · rintro ⟨number, read, rfl⟩
    obtain ⟨digits, small⟩ := readUnsigned_eq_some_iff.mp read
    rwa [UInt64.toNat_ofNat_of_lt' small]
  · intro digits
    exact ⟨value.toNat, readUnsigned_eq_some_iff.mpr ⟨digits, value.toNat_lt⟩, UInt64.ofNat_toNat⟩

theorem standard_readsSigned : standard.ReadsSigned := by
  intro string value
  change (readSigned .k16 (2 ^ 63) string).map Int64.ofInt = some value ↔ _
  rw [Option.map_eq_some_iff]
  constructor
  · rintro ⟨number, read, rfl⟩
    cases string with
    | nil => simp [readSigned] at read
    | cons sign rest =>
        rw [readSigned_cons] at read
        split at read
        · rename_i minus
          obtain ⟨magnitude, digits, rfl⟩ := Option.map_eq_some_iff.mp read
          obtain ⟨digits, small⟩ := readUnsigned_eq_some_iff.mp digits
          rw [minus]
          exact .negative digits (Int64.toInt_ofInt_of_le (by omega) (by omega))
        · obtain ⟨magnitude, digits, rfl⟩ := Option.map_eq_some_iff.mp read
          obtain ⟨digits, small⟩ := readUnsigned_eq_some_iff.mp digits
          exact .unsigned digits (Int64.toInt_ofInt_of_le (by omega) (by omega))
  · intro numeral
    refine ⟨value.toInt, ?_, value.ofInt_toInt⟩
    cases numeral with
    | @unsigned _ magnitude _ digits number =>
        have small := value.toInt_lt
        cases string with
        | nil => exact absurd rfl digits.ne_nil
        | cons first rest =>
            have plain : first ≠ chr '-' := by
              rintro rfl
              exact Numeral.not_digits_sign _ _ digits
            rw [readSigned_cons, if_neg plain,
              readUnsigned_eq_some_iff.mpr ⟨digits, by omega⟩, Option.map_some, number]
    | @negative digits magnitude _ read number =>
        have small := value.le_toInt
        rw [readSigned_cons, if_pos rfl, readUnsigned_eq_some_iff.mpr ⟨read, by omega⟩, Option.map_some,
          number]

theorem standard_printsHex : standard.PrintsHex :=
  fun value => (standard_readsUnsigned _ value).mp (standard_readsBack value)

theorem standard_printsDecimal : standard.PrintsDecimal := by
  intro value
  have small : value.toNat < 10 ^ 10 := Nat.lt_trans value.toNat_lt (by decide)
  exact readDigits_writeDigits .k10 small

end Ftl

end Gdbserver
