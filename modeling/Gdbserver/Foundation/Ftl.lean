import Gdbserver.Foundation.Bytes

/-!
# The string library the server is linked against

`lib/ftl` is not part of the repository. Its number conversions and
`SplitString` are parameters of the model, with the documented bounds on the
length of printed numbers. `Ftl.standard` is one implementation.
-/

set_option autoImplicit false

namespace Gdbserver

inductive WhitespaceHandling where
  | keepWhitespace
  | trimWhitespace
  deriving DecidableEq

inductive SplitResult where
  | splitWantAll
  | splitWantNonEmpty
  deriving DecidableEq

inductive Base where
  | k10
  | k16
  deriving DecidableEq

/-- The conversions the server calls, one field for each instantiation. Every
unsigned 64-bit type of the source (`mx_koid_t`, `uintptr_t`, `size_t`) is read
in base 16 by the same function. -/
structure Ftl where
  stringToUInt64 : Bytes → Option UInt64
  stringToInt64 : Bytes → Option Int64
  stringToInt : Base → Bytes → Option Int32
  uint64ToHex : UInt64 → Bytes
  uintToDecimal : UInt32 → Bytes
  intToDecimal : Int32 → Bytes
  splitString : UInt8 → WhitespaceHandling → SplitResult → Bytes → List Bytes
  uint64ToHex_length : ∀ value, (uint64ToHex value).length ≤ 16
  uintToDecimal_length : ∀ value, (uintToDecimal value).length ≤ 10
  intToDecimal_length : ∀ value, (intToDecimal value).length ≤ 11

namespace Ftl

def Base.radix : Base → Nat
  | .k10 => 10
  | .k16 => 16

def digitValue (base : Base) (digit : UInt8) : Option Nat :=
  match Util.hexCharToByte digit with
  | some value => if value.toNat < Base.radix base then some value.toNat else none
  | none => none

def readDigits (base : Base) : Nat → Bytes → Option Nat
  | value, [] => some value
  | value, digit :: rest =>
      match digitValue base digit with
      | some next => readDigits base (value * Base.radix base + next) rest
      | none => none

def readUnsigned (base : Base) (limit : Nat) (string : Bytes) : Option Nat :=
  if string = [] then none
  else (readDigits base 0 string).filter (· < limit)

def readSigned (base : Base) (limit : Nat) : Bytes → Option Int
  | [] => none
  | sign :: rest =>
      if sign = chr '-' then (readUnsigned base (limit + 1) rest).map fun value => -(value : Int)
      else (readUnsigned base limit (sign :: rest)).map fun value => (value : Int)

/-- Most significant digit first; the first argument bounds the digits written. -/
def writeDigits (radix : Nat) : Nat → Nat → Bytes
  | 0, _ => []
  | width + 1, value =>
      let digit := value % radix
      let last := if digit < 10 then chr '0' + digit.toUInt8 else chr 'A' + (digit - 10).toUInt8
      if value < radix then [last] else writeDigits radix width (value / radix) ++ [last]

theorem writeDigits_length (radix width value : Nat) :
    (writeDigits radix width value).length ≤ width := by
  induction width generalizing value with
  | zero => simp [writeDigits]
  | succ width ih =>
      simp only [writeDigits]
      split
      · simp
      · have shorter := ih (value / radix)
        simp only [List.length_append, List.length_singleton]
        omega

/-- Numbers that are not negative are printed as digits and nothing else. -/
structure PrintsDigits (ftl : Ftl) : Prop where
  hex : ∀ value, ∀ digit ∈ ftl.uint64ToHex value, (Util.hexCharToByte digit).isSome
  decimal : ∀ value, ∀ digit ∈ ftl.uintToDecimal value, (Util.hexCharToByte digit).isSome

theorem writeDigits_digits {radix : Nat} (positive : 0 < radix) (small : radix ≤ 16)
    (width value : Nat) :
    ∀ digit ∈ writeDigits radix width value, (Util.hexCharToByte digit).isSome := by
  have every : ∀ digit : Fin 16, (Util.hexCharToByte (if digit.val < 10 then
      chr '0' + digit.val.toUInt8 else chr 'A' + (digit.val - 10).toUInt8)).isSome := by
    decide +kernel
  have last (value : Nat) := every ⟨value % radix, Nat.lt_of_lt_of_le (Nat.mod_lt _ positive) small⟩
  induction width generalizing value with
  | zero => simp [writeDigits]
  | succ width ih =>
      intro digit member
      simp only [writeDigits] at member
      split at member
      · rw [List.mem_singleton] at member
        exact member ▸ last value
      · rcases List.mem_append.mp member with earlier | final
        · exact ih (value / radix) digit earlier
        · rw [List.mem_singleton] at final
          exact final ▸ last value

/-- A number that has been printed in base 16 is read as the same number. -/
def ReadsBack (ftl : Ftl) : Prop :=
  ∀ value, ftl.stringToUInt64 (ftl.uint64ToHex value) = some value

theorem ReadsBack.injective {ftl : Ftl} (reads : ftl.ReadsBack) :
    Function.Injective ftl.uint64ToHex := by
  intro value other same
  have read := reads value
  rw [same, reads other] at read
  exact (Option.some.inj read).symm

theorem readDigits_append (base : Base) (value : Nat) (digits more : Bytes) :
    readDigits base value (digits ++ more) =
      (readDigits base value digits).bind fun reached => readDigits base reached more := by
  induction digits generalizing value with
  | nil => rfl
  | cons digit rest ih =>
      rw [List.cons_append, readDigits, readDigits]
      cases digitValue base digit with
      | none => rfl
      | some next => exact ih _

theorem digitValue_written (base : Base) (value : Nat) :
    digitValue base (if value % Base.radix base < 10 then
      chr '0' + (value % Base.radix base).toUInt8
      else chr 'A' + (value % Base.radix base - 10).toUInt8) = some (value % Base.radix base) := by
  cases base with
  | k10 =>
      have every : ∀ digit : Fin 10, digitValue .k10 (if digit.val < 10 then
          chr '0' + digit.val.toUInt8 else chr 'A' + (digit.val - 10).toUInt8) =
            some digit.val := by
        decide +kernel
      exact every ⟨value % 10, Nat.mod_lt _ (by decide)⟩
  | k16 =>
      have every : ∀ digit : Fin 16, digitValue .k16 (if digit.val < 10 then
          chr '0' + digit.val.toUInt8 else chr 'A' + (digit.val - 10).toUInt8) =
            some digit.val := by
        decide +kernel
      exact every ⟨value % 16, Nat.mod_lt _ (by decide)⟩

theorem readDigits_writeDigits (base : Base) {width value : Nat}
    (small : value < Base.radix base ^ width) :
    readDigits base 0 (writeDigits (Base.radix base) width value) = some value := by
  have positive : 0 < Base.radix base := by cases base <;> decide
  have last (before value : Nat) :
      readDigits base before [if value % Base.radix base < 10 then
        chr '0' + (value % Base.radix base).toUInt8
        else chr 'A' + (value % Base.radix base - 10).toUInt8] =
          some (before * Base.radix base + value % Base.radix base) := by
    rw [readDigits, digitValue_written]
    rfl
  induction width generalizing value with
  | zero =>
      obtain rfl := Nat.lt_one_iff.mp small
      rfl
  | succ width ih =>
      rw [writeDigits]
      split
      · rename_i digit
        rw [last, Nat.mod_eq_of_lt digit, Nat.zero_mul, Nat.zero_add]
      · have shorter : value / Base.radix base < Base.radix base ^ width := by
          rw [Nat.div_lt_iff_lt_mul positive, ← Nat.pow_succ]
          exact small
        rw [readDigits_append, ih shorter, Option.bind_some, last, Nat.mul_comm,
          Nat.div_add_mod]

/-- Split at every separator; an empty string has one empty piece. -/
def pieces (separator : UInt8) : Bytes → List Bytes
  | [] => [[]]
  | byte :: rest =>
      if byte = separator then [] :: pieces separator rest
      else match pieces separator rest with
        | [] => [[byte]]
        | piece :: others => (byte :: piece) :: others

theorem pieces_ne_nil (separator : UInt8) (string : Bytes) : pieces separator string ≠ [] := by
  cases string with
  | nil => simp [pieces]
  | cons byte rest =>
      rw [pieces]
      split
      · simp
      · split <;> simp

theorem pieces_of_clear {separator : UInt8} {string : Bytes} (clear : separator ∉ string) :
    pieces separator string = [string] := by
  induction string with
  | nil => rfl
  | cons byte rest ih =>
      rw [List.mem_cons, not_or] at clear
      rw [pieces, if_neg (Ne.symm clear.1), ih clear.2]

theorem pieces_append {separator : UInt8} {string : Bytes} (clear : separator ∉ string)
    (rest : Bytes) :
    pieces separator (string ++ separator :: rest) = string :: pieces separator rest := by
  induction string with
  | nil => rw [List.nil_append, pieces, if_pos rfl]
  | cons byte string ih =>
      rw [List.mem_cons, not_or] at clear
      rw [List.cons_append, pieces, if_neg (Ne.symm clear.1), ih clear.2]

theorem pieces_joinStrings {separator : UInt8} {strings : List Bytes} (some : strings ≠ [])
    (clear : ∀ string ∈ strings, separator ∉ string) :
    pieces separator (Util.joinStrings separator strings) = strings := by
  induction strings with
  | nil => exact absurd rfl some
  | cons first rest ih =>
      have firstClear := clear first List.mem_cons_self
      cases rest with
      | nil => exact pieces_of_clear firstClear
      | cons second others =>
          have later := ih (List.cons_ne_nil second others) fun string member =>
            clear string (List.mem_cons_of_mem first member)
          rw [Util.joinStrings, pieces_append firstClear, later]
          exact List.cons_ne_nil second others

def trim (string : Bytes) : Bytes :=
  ((string.dropWhile isSpace).reverse.dropWhile isSpace).reverse

def split (separator : UInt8) (whitespace : WhitespaceHandling) (want : SplitResult)
    (string : Bytes) : List Bytes :=
  let trimmed := match whitespace with
    | .keepWhitespace => pieces separator string
    | .trimWhitespace => (pieces separator string).map trim
  match want with
  | .splitWantAll => if string = [] then [] else trimmed
  | .splitWantNonEmpty => trimmed.filter (· ≠ [])

/-- Digits of either case, an optional sign for signed types, no overflow. -/
def standard : Ftl where
  stringToUInt64 string := (readUnsigned .k16 (2 ^ 64) string).map UInt64.ofNat
  stringToInt64 string := (readSigned .k16 (2 ^ 63) string).map Int64.ofInt
  stringToInt base string := (readSigned base (2 ^ 31) string).map Int32.ofInt
  uint64ToHex value := writeDigits 16 16 value.toNat
  uintToDecimal value := writeDigits 10 10 value.toNat
  intToDecimal value :=
    if value.toInt < 0 then chr '-' :: writeDigits 10 10 value.toInt.natAbs
    else writeDigits 10 10 value.toInt.natAbs
  splitString := split
  uint64ToHex_length value := writeDigits_length 16 16 value.toNat
  uintToDecimal_length value := writeDigits_length 10 10 value.toNat
  intToDecimal_length value := by
    have digits := writeDigits_length 10 10 value.toInt.natAbs
    split
    · simp only [List.length_cons]; omega
    · omega

theorem standard_printsDigits : standard.PrintsDigits :=
  ⟨fun value => writeDigits_digits (by decide) (by decide) 16 value.toNat,
    fun value => writeDigits_digits (by decide) (by decide) 10 value.toNat⟩

theorem standard_readsBack : standard.ReadsBack := by
  intro value
  have written : writeDigits 16 16 value.toNat ≠ [] := by
    rw [writeDigits]
    split
    · exact List.cons_ne_nil _ _
    · exact List.append_ne_nil_of_right_ne_nil _ (List.cons_ne_nil _ _)
  have small : value.toNat < 16 ^ 16 := value.toNat_lt
  change (readUnsigned .k16 (2 ^ 64) (writeDigits 16 16 value.toNat)).map UInt64.ofNat = some value
  have read : readDigits .k16 0 (writeDigits 16 16 value.toNat) = some value.toNat :=
    readDigits_writeDigits .k16 small
  rw [readUnsigned, if_neg written, read, Option.filter_some_pos, Option.map_some,
    UInt64.ofNat_toNat]
  exact decide_eq_true value.toNat_lt

end Ftl

end Gdbserver
