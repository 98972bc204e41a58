import Mathlib.Algebra.Ring.Nat
import Mathlib.Data.List.Basic

/-!
# Bytes and the hexadecimal codec

The byte-level helpers of `lib/debugger-utils/util.cc`. A `StringView` is the
list of its bytes; views never outlive the buffer they point into.
-/

set_option autoImplicit false

namespace Gdbserver

abbrev Bytes := List UInt8

/-- The bytes of a source literal. -/
def ascii (text : String) : Bytes := text.toList.map fun char => char.toNat.toUInt8

def chr (char : Char) : UInt8 := char.toNat.toUInt8

/-- `isspace`. -/
def isSpace (char : UInt8) : Bool := [9, 10, 11, 12, 13, chr ' '].contains char

namespace Util

def hexCharToByte (hexChar : UInt8) : Option UInt8 :=
  if chr 'a' ≤ hexChar ∧ hexChar ≤ chr 'f' then some (hexChar - chr 'a' + 10)
  else if chr '0' ≤ hexChar ∧ hexChar ≤ chr '9' then some (hexChar - chr '0')
  else if chr 'A' ≤ hexChar ∧ hexChar ≤ chr 'F' then some (hexChar - chr 'A' + 10)
  else none

def halfByteToHexChar (byte : UInt8) : UInt8 :=
  if byte < 10 then chr '0' + byte else chr 'a' + byte % 10

/-- The two characters `hex[0]` and `hex[1]` of the source. -/
def decodeByteString (first second : UInt8) : Option UInt8 :=
  match hexCharToByte first, hexCharToByte second with
  | some msb, some lsb => some (lsb ||| (msb <<< 4))
  | _, _ => none

def encodeByteString (byte : UInt8) : Bytes :=
  [halfByteToHexChar (byte >>> 4), halfByteToHexChar (byte &&& 0x0f)]

def encodeByteArrayString (bytes : Bytes) : Bytes := bytes.flatMap encodeByteString

def encodeString (string : Bytes) : Bytes := encodeByteArrayString string

def decodePairs : Bytes → Option Bytes
  | [] => some []
  | [_] => none
  | first :: second :: rest =>
      match decodeByteString first second, decodePairs rest with
      | some byte, some bytes => some (byte :: bytes)
      | _, _ => none

def decodeByteArrayString (string : Bytes) : Bytes :=
  if string.length % 2 = 1 then [] else (decodePairs string).getD []

def decodeString (string : Bytes) : Bytes := decodeByteArrayString string

/-- `JoinStrings` into a buffer that is exactly large enough. -/
def joinStrings (delimiter : UInt8) : List Bytes → Bytes
  | [] => []
  | [last] => last
  | first :: rest => first ++ delimiter :: joinStrings delimiter rest

@[simp] theorem encodeByteString_length (byte : UInt8) : (encodeByteString byte).length = 2 := rfl

@[simp] theorem encodeByteArrayString_length (bytes : Bytes) :
    (encodeByteArrayString bytes).length = 2 * bytes.length := by
  induction bytes with
  | nil => rfl
  | cons byte rest ih =>
      have step : encodeByteArrayString (byte :: rest) =
          encodeByteString byte ++ encodeByteArrayString rest := rfl
      rw [step, List.length_append, ih, encodeByteString_length, List.length_cons]
      omega

theorem joinStrings_length (delimiter : UInt8) (strings : List Bytes) (some : strings ≠ []) :
    (joinStrings delimiter strings).length + 1 =
      (strings.map fun string => string.length + 1).sum := by
  induction strings with
  | nil => exact absurd rfl some
  | cons first rest ih =>
      cases rest with
      | nil => rfl
      | cons second others =>
          have later := ih (List.cons_ne_nil second others)
          rw [joinStrings, List.length_append, List.length_cons, List.map_cons, List.sum_cons]
          · omega
          · exact fun empty => nomatch empty

theorem joinStrings_eq (delimiter : UInt8) (strings : List Bytes) :
    joinStrings delimiter strings = [delimiter].intercalate strings := by
  induction strings with
  | nil => rfl
  | cons first rest ih =>
      cases rest with
      | nil => simp [joinStrings]
      | cons second others =>
          rw [joinStrings, ih, List.intercalate_cons_cons, List.append_assoc, List.singleton_append]
          exact List.cons_ne_nil second others

@[simp] theorem encodeString_length (string : Bytes) :
    (encodeString string).length = 2 * string.length := encodeByteArrayString_length string

end Util

end Gdbserver
