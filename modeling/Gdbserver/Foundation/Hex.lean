import Gdbserver.Foundation.Bytes
import Mathlib.Data.List.Induction

/-!
# The hexadecimal codec as a round trip

Encoding writes lower case, decoding reads either case. Malformed text is
decoded to no bytes at all.
-/

set_option autoImplicit false

namespace Gdbserver

namespace Util

def lowerChar (char : UInt8) : UInt8 :=
  if chr 'A' ≤ char ∧ char ≤ chr 'Z' then char + 32 else char

/-- `string` in ASCII lower case. -/
def lowerCase (string : Bytes) : Bytes := string.map lowerChar

def IsHexDigit (char : UInt8) : Prop := (hexCharToByte char).isSome = true

instance (char : UInt8) : Decidable (IsHexDigit char) := inferInstanceAs (Decidable (_ = true))

/-- The text of some bytes: an even number of digits. -/
def HexPairs (string : Bytes) : Prop := string.length % 2 = 0 ∧ ∀ char ∈ string, IsHexDigit char

theorem halfByteToHexChar_digit {half : UInt8} (small : half < 16) :
    hexCharToByte (halfByteToHexChar half) = some half := by
  have every : ∀ half : Fin 16, hexCharToByte (halfByteToHexChar half.val.toUInt8) =
      some half.val.toUInt8 := by decide +kernel
  have bound : half.toNat < 16 := UInt8.lt_iff_toNat_lt.mp small
  simpa using every ⟨half.toNat, bound⟩

/-- A digit that is read and written again is in lower case. -/
theorem lowerChar_eq {char half : UInt8} (digit : hexCharToByte char = some half) :
    half < 16 ∧ halfByteToHexChar half = lowerChar char := by
  have every : ∀ char : Fin 256, ((hexCharToByte char.val.toUInt8).all fun half =>
      half < 16 ∧ halfByteToHexChar half = lowerChar char.val.toUInt8) = true := by decide +kernel
  have this := every ⟨char.toNat, char.toNat_lt⟩
  simp only [Nat.toUInt8_eq, UInt8.ofNat_toNat, digit, Option.all_some, decide_eq_true_eq] at this
  exact this

theorem byte_of_halves {high low : UInt8} (highSmall : high < 16) (lowSmall : low < 16) :
    (low ||| high <<< 4) >>> 4 = high ∧ (low ||| high <<< 4) &&& 0x0f = low := by
  have every : ∀ high low : Fin 16,
      (low.val.toUInt8 ||| high.val.toUInt8 <<< 4) >>> 4 = high.val.toUInt8 ∧
        (low.val.toUInt8 ||| high.val.toUInt8 <<< 4) &&& 0x0f = low.val.toUInt8 := by
    decide +kernel
  have this := every ⟨high.toNat, UInt8.lt_iff_toNat_lt.mp highSmall⟩
    ⟨low.toNat, UInt8.lt_iff_toNat_lt.mp lowSmall⟩
  simpa using this

theorem halves_of_byte (byte : UInt8) :
    byte >>> 4 < 16 ∧ (byte &&& 0x0f) < (16 : UInt8) ∧ (byte &&& (0x0f : UInt8)) ||| (byte >>> 4) <<< 4 = byte := by
  have every : ∀ byte : Fin 256, byte.val.toUInt8 >>> 4 < 16 ∧ (byte.val.toUInt8 &&& 0x0f) < (16 : UInt8) ∧
      (byte.val.toUInt8 &&& (0x0f : UInt8)) ||| (byte.val.toUInt8 >>> 4) <<< 4 =
        byte.val.toUInt8 := by
    decide +kernel
  have this := every ⟨byte.toNat, byte.toNat_lt⟩
  simpa using this

theorem decodeByteString_encode (byte : UInt8) :
    decodeByteString (halfByteToHexChar (byte >>> 4)) (halfByteToHexChar (byte &&& 0x0f)) =
      some byte := by
  obtain ⟨high, low, whole⟩ := halves_of_byte byte
  rw [decodeByteString, halfByteToHexChar_digit high, halfByteToHexChar_digit low]
  exact congrArg some whole

theorem encodeByteString_decode {first second byte : UInt8}
    (decoded : decodeByteString first second = some byte) :
    encodeByteString byte = [lowerChar first, lowerChar second] := by
  rw [decodeByteString] at decoded
  split at decoded
  · rename_i high low firstDigit secondDigit
    obtain ⟨highSmall, highChar⟩ := lowerChar_eq firstDigit
    obtain ⟨lowSmall, lowChar⟩ := lowerChar_eq secondDigit
    obtain ⟨highHalf, lowHalf⟩ := byte_of_halves highSmall lowSmall
    cases decoded
    rw [encodeByteString, highHalf, lowHalf, highChar, lowChar]
  · cases decoded

theorem decodeByteString_isSome_iff {first second : UInt8} :
    (decodeByteString first second).isSome = true ↔ IsHexDigit first ∧ IsHexDigit second := by
  rw [decodeByteString, IsHexDigit, IsHexDigit]
  cases hexCharToByte first <;> cases hexCharToByte second <;> simp

theorem encodeByteArrayString_cons (byte : UInt8) (bytes : Bytes) :
    encodeByteArrayString (byte :: bytes) =
      halfByteToHexChar (byte >>> 4) :: halfByteToHexChar (byte &&& 0x0f) ::
        encodeByteArrayString bytes := rfl

theorem encodeByteArrayString_append (bytes more : Bytes) :
    encodeByteArrayString (bytes ++ more) =
      encodeByteArrayString bytes ++ encodeByteArrayString more := List.flatMap_append

theorem isHexDigit_encodeByteArrayString (bytes : Bytes) :
    ∀ char ∈ encodeByteArrayString bytes, IsHexDigit char := by
  have digit : ∀ {half : UInt8}, half < 16 → IsHexDigit (halfByteToHexChar half) := by
    intro half small
    rw [IsHexDigit, halfByteToHexChar_digit small]
    rfl
  induction bytes with
  | nil => simp [encodeByteArrayString]
  | cons byte rest ih =>
      obtain ⟨high, low, -⟩ := halves_of_byte byte
      rw [encodeByteArrayString_cons, List.forall_mem_cons, List.forall_mem_cons]
      exact ⟨digit high, digit low, ih⟩

theorem not_mem_encodeByteString {char : UInt8} (other : ¬ IsHexDigit char) (byte : UInt8) :
    char ∉ encodeByteString byte := by
  intro member
  apply other
  apply isHexDigit_encodeByteArrayString [byte] char
  simpa [encodeByteArrayString] using member

theorem decodePairs_encode (bytes : Bytes) : decodePairs (encodeByteArrayString bytes) = some bytes := by
  induction bytes with
  | nil => rfl
  | cons byte rest ih =>
      rw [encodeByteArrayString_cons, decodePairs, decodeByteString_encode, ih]

theorem encode_decodePairs {string bytes : Bytes} (decoded : decodePairs string = some bytes) :
    encodeByteArrayString bytes = lowerCase string := by
  induction string using List.twoStepInduction generalizing bytes with
  | nil =>
      cases decoded
      rfl
  | singleton => cases decoded
  | cons_cons first second rest ih =>
      rw [decodePairs] at decoded
      split at decoded
      · rename_i byte later here there
        cases decoded
        have pair := encodeByteString_decode here
        rw [encodeByteString] at pair
        rw [encodeByteArrayString_cons, ih there, lowerCase, lowerCase, List.map_cons, List.map_cons]
        injection pair with high low
        injection low with low
        rw [high, low]
      · cases decoded

theorem decodePairs_isSome_iff (string : Bytes) :
    (decodePairs string).isSome = true ↔ HexPairs string := by
  induction string using List.twoStepInduction with
  | nil => simp [decodePairs, HexPairs]
  | singleton => simp [decodePairs, HexPairs]
  | cons_cons first second rest ih =>
      have parity : (rest.length + 1 + 1) % 2 = rest.length % 2 := by omega
      have here : (decodeByteString first second).isSome = true ↔ _ := decodeByteString_isSome_iff
      rw [decodePairs, HexPairs, List.length_cons, List.length_cons, parity, List.forall_mem_cons,
        List.forall_mem_cons]
      rw [HexPairs] at ih
      cases pair : decodeByteString first second with
      | none =>
          rw [pair] at here
          simp only [Option.isSome_none, Bool.false_eq_true, false_iff] at here ⊢
          rintro ⟨_, firstDigit, secondDigit, _⟩
          exact here ⟨firstDigit, secondDigit⟩
      | some byte =>
          rw [pair] at here
          obtain ⟨firstDigit, secondDigit⟩ := here.mp rfl
          cases later : decodePairs rest with
          | none =>
              rw [later] at ih
              simp only [Option.isSome_none, Bool.false_eq_true, false_iff] at ih ⊢
              rintro ⟨even, _, _, digits⟩
              exact ih ⟨even, digits⟩
          | some bytes =>
              rw [later] at ih
              obtain ⟨even, digits⟩ := ih.mp rfl
              exact ⟨fun _ => ⟨even, firstDigit, secondDigit, digits⟩, fun _ => rfl⟩

theorem decodeByteArrayString_encode (bytes : Bytes) :
    decodeByteArrayString (encodeByteArrayString bytes) = bytes := by
  rw [decodeByteArrayString, encodeByteArrayString_length, if_neg (by omega), decodePairs_encode,
    Option.getD_some]

theorem encodeByteArrayString_injective {bytes others : Bytes}
    (same : encodeByteArrayString bytes = encodeByteArrayString others) : bytes = others := by
  have decoded := decodeByteArrayString_encode bytes
  rw [same, decodeByteArrayString_encode] at decoded
  exact decoded.symm

theorem encodeByteString_injective {byte other : UInt8}
    (same : encodeByteString byte = encodeByteString other) : byte = other := by
  have both : encodeByteArrayString [byte] = encodeByteArrayString [other] := by
    simpa [encodeByteArrayString] using same
  exact (List.cons.inj (encodeByteArrayString_injective both)).1

/-- Well-formed text is the text of the bytes it is decoded to, up to case. -/
theorem encode_decodeByteArrayString {string : Bytes} (pairs : HexPairs string) :
    encodeByteArrayString (decodeByteArrayString string) = lowerCase string := by
  obtain ⟨bytes, decoded⟩ := Option.isSome_iff_exists.mp ((decodePairs_isSome_iff string).mpr pairs)
  rw [decodeByteArrayString, if_neg (by have even := pairs.1; omega), decoded, Option.getD_some]
  exact encode_decodePairs decoded

theorem decodeByteArrayString_length {string : Bytes} (pairs : HexPairs string) :
    2 * (decodeByteArrayString string).length = string.length := by
  have same := congrArg List.length (encode_decodeByteArrayString pairs)
  rwa [encodeByteArrayString_length, lowerCase, List.length_map] at same

theorem decodeByteArrayString_malformed {string : Bytes} (malformed : ¬ HexPairs string) :
    decodeByteArrayString string = [] := by
  rw [← decodePairs_isSome_iff, Option.not_isSome_iff_eq_none] at malformed
  rw [decodeByteArrayString, malformed, Option.getD_none, ite_self]

theorem isHexDigit_iff (char : UInt8) :
    IsHexDigit char ↔ char ∈ ascii "0123456789abcdefABCDEF" := by
  constructor
  · have every : ∀ char : Fin 256, IsHexDigit char.val.toUInt8 →
        char.val.toUInt8 ∈ ascii "0123456789abcdefABCDEF" := by
      decide +kernel
    simpa using every ⟨char.toNat, char.toNat_lt⟩
  · have every : ((ascii "0123456789abcdefABCDEF").all fun digit => IsHexDigit digit) = true := by
      decide +kernel
    intro member
    simpa using List.all_eq_true.mp every char member

/-- Nothing but the text of some bytes is decoded to any. -/
theorem decodeByteArrayString_ne_nil_iff (string : Bytes) :
    decodeByteArrayString string ≠ [] ↔ string ≠ [] ∧ HexPairs string := by
  constructor
  · intro decoded
    have pairs : HexPairs string := by
      apply Classical.byContradiction
      intro malformed
      exact decoded (decodeByteArrayString_malformed malformed)
    refine ⟨?_, pairs⟩
    rintro rfl
    exact decoded rfl
  · rintro ⟨nonempty, pairs⟩ empty
    have length := decodeByteArrayString_length pairs
    rw [empty] at length
    exact nonempty (List.eq_nil_of_length_eq_zero length.symm)

/-- Encoding is undone by decoding, and decoding accepts exactly the text of some
bytes, of either case. Everything else is decoded to nothing. -/
theorem hexCodec_bijective (bytes string : Bytes) :
    decodeByteArrayString (encodeByteArrayString bytes) = bytes ∧
      (decodeByteArrayString string ≠ [] ↔
        string ≠ [] ∧ string.length % 2 = 0 ∧
          ∀ char ∈ string, char ∈ ascii "0123456789abcdefABCDEF") ∧
      (decodeByteArrayString string ≠ [] →
        encodeByteArrayString (decodeByteArrayString string) = lowerCase string) := by
  have digits : (∀ char ∈ string, IsHexDigit char) ↔
      ∀ char ∈ string, char ∈ ascii "0123456789abcdefABCDEF" :=
    forall₂_congr fun char _ => isHexDigit_iff char
  refine ⟨decodeByteArrayString_encode bytes, ?_, ?_⟩
  · rw [decodeByteArrayString_ne_nil_iff, HexPairs, digits]
  · intro decoded
    exact encode_decodeByteArrayString ((decodeByteArrayString_ne_nil_iff string).mp decoded).2

/-- Both cases of a letter, and the two ways to be malformed. -/
theorem hexCodec_bijective_upperCase :
    decodeByteArrayString (ascii "7F") ≠ [] ∧
      encodeByteArrayString (decodeByteArrayString (ascii "7F")) = ascii "7f" ∧
      decodeByteArrayString (ascii "7F0") = [] ∧ decodeByteArrayString (ascii "7F0g") = [] := by
  have accepted : decodeByteArrayString (ascii "7F") ≠ [] := by decide
  exact ⟨accepted, (hexCodec_bijective [] (ascii "7F")).2.2 accepted, by decide, by decide⟩

end Util

end Gdbserver
