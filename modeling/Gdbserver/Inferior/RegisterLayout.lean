import Gdbserver.Foundation.Hex
import Gdbserver.Inferior.Arch
import Mathlib.Data.Nat.Digits.Defs

/-!
# The layout of a register set

Words as eight little-endian bytes, and the two layouts of the arm64 registers:
the kernel's, and the one on the wire with a `cpsr` of 32 bits.
-/

set_option autoImplicit false

namespace Gdbserver

namespace Registers

section Words

/-- The number that bytes write, least significant first. -/
def bytesValue (bytes : Bytes) : Nat := Nat.ofDigits 256 (bytes.map UInt8.toNat)

theorem bytesValue_cons (byte : UInt8) (bytes : Bytes) :
    bytesValue (byte :: bytes) = byte.toNat + 256 * bytesValue bytes := by
  simp [bytesValue, Nat.ofDigits_cons]

theorem bytesValue_lt (bytes : Bytes) : bytesValue bytes < 256 ^ bytes.length := by
  induction bytes with
  | nil => simp [bytesValue]
  | cons byte bytes ih =>
      have small := byte.toNat_lt
      rw [bytesValue_cons, List.length_cons, Nat.pow_succ]
      omega

theorem bytesWord_cons (byte : UInt8) (bytes : Bytes) :
    bytesWord (byte :: bytes) = (bytesWord bytes <<< 8) ||| byte.toUInt64 := rfl

theorem toNat_bytesWord {bytes : Bytes} (fits : bytes.length ≤ 8) :
    (bytesWord bytes).toNat = bytesValue bytes := by
  induction bytes with
  | nil => rfl
  | cons byte bytes ih =>
      have short : bytes.length ≤ 7 := Nat.le_of_succ_le_succ fits
      have value := ih (by omega)
      have bound : bytesValue bytes * 2 ^ 8 < 2 ^ 64 := by
        have small := bytesValue_lt bytes
        have most : 256 ^ bytes.length ≤ 256 ^ 7 := Nat.pow_le_pow_right (by decide) short
        omega
      have low : byte.toNat < 2 ^ 8 := byte.toNat_lt
      rw [bytesWord_cons, UInt64.toNat_or, UInt64.toNat_shiftLeft, value, bytesValue_cons]
      simp only [UInt8.toNat_toUInt64, Nat.shiftLeft_eq, UInt64.reduceToNat, Nat.reduceMod]
      rw [Nat.mod_eq_of_lt bound, Nat.mul_comm, ← Nat.two_pow_add_eq_or_of_lt low, Nat.add_comm]

theorem bytesValue_concat (bytes : Bytes) (byte : UInt8) :
    bytesValue (bytes ++ [byte]) = bytesValue bytes + 256 ^ bytes.length * byte.toNat := by
  simp [bytesValue, Nat.ofDigits_append]

/-- The first bytes of a word are its value modulo what they can hold. -/
theorem bytesValue_take_wordBytes (word : UInt64) {count : Nat} (fits : count ≤ 8) :
    bytesValue ((wordBytes word).take count) = word.toNat % 256 ^ count := by
  rw [wordBytes, ← List.map_take, List.take_range, Nat.min_eq_left fits]
  induction count with
  | zero => simp [bytesValue, Nat.mod_one]
  | succ count ih =>
      have shift : (8 * count.toUInt64).toNat = 8 * count := by
        rw [UInt64.toNat_mul]
        simp
        omega
      have amount : 8 * count % 64 = 8 * count := Nat.mod_eq_of_lt (by omega)
      rw [List.range_succ, List.map_append, List.map_singleton, bytesValue_concat,
        ih (by omega), List.length_map, List.length_range, Nat.mod_pow_succ, UInt64.toNat_toUInt8,
        UInt64.toNat_shiftRight, shift, amount, Nat.shiftRight_eq_div_pow, Nat.pow_mul]

theorem bytesWord_take_wordBytes (word : UInt64) {count : Nat} (fits : count ≤ 8)
    (small : word.toNat < 256 ^ count) : bytesWord ((wordBytes word).take count) = word := by
  apply UInt64.toNat_inj.mp
  rw [toNat_bytesWord (by simp), bytesValue_take_wordBytes word fits, Nat.mod_eq_of_lt small]

theorem bytesWord_wordBytes (word : UInt64) : bytesWord (wordBytes word) = word := by
  have whole := bytesWord_take_wordBytes word (Nat.le_refl 8) word.toNat_lt
  rwa [List.take_of_length_le (by simp)] at whole

theorem bytesValue_injective {bytes others : Bytes} (length : bytes.length = others.length)
    (same : bytesValue bytes = bytesValue others) : bytes = others := by
  induction bytes generalizing others with
  | nil => exact (List.length_eq_zero_iff.mp length.symm).symm
  | cons byte bytes ih =>
      cases others with
      | nil => cases length
      | cons other others =>
          have low := byte.toNat_lt
          have otherLow := other.toNat_lt
          rw [bytesValue_cons, bytesValue_cons] at same
          rw [UInt8.toNat_inj.mp (by omega : byte.toNat = other.toNat),
            ih (Nat.succ.inj length) (by omega)]

/-- Bytes that have been read as a word are written back as they were. -/
theorem take_wordBytes_bytesWord {bytes : Bytes} (fits : bytes.length ≤ 8) :
    (wordBytes (bytesWord bytes)).take bytes.length = bytes := by
  apply bytesValue_injective
  · simp [fits]
  · rw [bytesValue_take_wordBytes _ fits, toNat_bytesWord fits, Nat.mod_eq_of_lt (bytesValue_lt bytes)]

end Words

section Sets

variable (gregs : RegisterSet)

theorem getElem?_regsetBytes (first : Nat) {count index : Nat} (inside : index < 8 * count) :
    (regsetBytes gregs first count)[index]? = (wordBytes (gregs (first + index / 8)))[index % 8]? := by
  induction count with
  | zero => omega
  | succ count ih =>
      have split : regsetBytes gregs first (count + 1) =
          regsetBytes gregs first count ++ wordBytes (gregs (first + count)) := by
        simp [regsetBytes, List.range_succ]
      rw [split, List.getElem?_append, regsetBytes_length]
      by_cases earlier : index < 8 * count
      · rw [if_pos earlier, ih earlier]
      · have word : index / 8 = count := by omega
        have byte : index % 8 = index - 8 * count := by omega
        rw [if_neg earlier, word, byte]

/-- The bytes of one register of the set. -/
theorem take_drop_regsetBytes (first : Nat) {count regno : Nat} (inside : regno < count) :
    ((regsetBytes gregs first count).drop (8 * regno)).take 8 = wordBytes (gregs (first + regno)) := by
  apply List.ext_getElem?
  intro index
  by_cases within : index < 8
  · have word : (8 * regno + index) / 8 = regno := by omega
    have byte : (8 * regno + index) % 8 = index := by omega
    rw [List.getElem?_take_of_lt within, List.getElem?_drop,
      getElem?_regsetBytes gregs first (by omega), word, byte]
  · rw [List.getElem?_eq_none (by simp; omega), List.getElem?_eq_none (by simp; omega)]

theorem regsetBytes_append (first count more : Nat) :
    regsetBytes gregs first count ++ regsetBytes gregs (first + count) more =
      regsetBytes gregs first (count + more) := by
  simp only [regsetBytes, List.range_add, List.flatMap_append, List.flatMap_map, Nat.add_assoc]

theorem wordBytes_overwrite (bytes : Bytes) (regno : Nat) :
    wordBytes (overwrite gregs bytes regno) = (bytes.drop (8 * regno)).take 8 ++
      (wordBytes (gregs regno)).drop (bytes.length - 8 * regno) := by
  have length : ((bytes.drop (8 * regno)).take 8 ++
      (wordBytes (gregs regno)).drop (bytes.length - 8 * regno)).length = 8 := by
    simp
    omega
  have whole := take_wordBytes_bytesWord (Nat.le_of_eq length)
  rwa [length, List.take_of_length_le (by simp)] at whole

/-- The bytes copied over a register set are the first ones of the result. -/
theorem take_regsetBytes_overwrite {bytes : Bytes} {count : Nat} (fits : bytes.length ≤ 8 * count) :
    (regsetBytes (overwrite gregs bytes) 0 count).take bytes.length = bytes := by
  apply List.ext_getElem?
  intro index
  by_cases within : index < bytes.length
  · rw [List.getElem?_take_of_lt within, getElem?_regsetBytes _ 0 (by omega), Nat.zero_add,
      wordBytes_overwrite, List.getElem?_append_left (by simp; omega),
      List.getElem?_take_of_lt (Nat.mod_lt _ (by decide)), List.getElem?_drop, Nat.div_add_mod]
  · rw [List.getElem?_eq_none (by simp; omega), List.getElem?_eq_none (by omega)]

/-- Copying a register set's own first bytes over it changes nothing. -/
theorem overwrite_own {count limit regno : Nat} (fits : limit ≤ 8 * count) (inside : regno < count) :
    overwrite gregs ((regsetBytes gregs 0 count).take limit) regno = gregs regno := by
  have own := take_drop_regsetBytes gregs 0 inside
  rw [Nat.zero_add] at own
  have bytes : (((regsetBytes gregs 0 count).take limit).drop (8 * regno)).take 8 =
      (wordBytes (gregs regno)).take (limit - 8 * regno) := by
    rw [List.drop_take, List.take_take, Nat.min_comm, ← List.take_take, own]
  rw [overwrite, bytes, List.length_take, regsetBytes_length, Nat.min_eq_left fits,
    List.take_append_drop, bytesWord_wordBytes]

end Sets

section Arm64

variable (gregs : RegisterSet) (stack : Nat → UInt64)

/-- The registers one after the other, `cpsr` as four bytes. -/
def arm64Wire : Bytes := regsetBytes gregs 0 33 ++ (wordBytes (gregs 33)).take 4

theorem flatMap_getRegisterAsString :
    (List.range 34).flatMap (fun regno : Nat => getRegisterAsString .arm64 gregs regno) =
      Util.encodeByteArrayString (arm64Wire gregs) := by
  have words : (List.range 33).flatMap (fun regno : Nat => getRegisterAsString .arm64 gregs regno) =
      Util.encodeByteArrayString (regsetBytes gregs 0 33) := by
    rw [regsetBytes, Util.encodeByteArrayString, List.flatMap_assoc]
    apply List.flatMap_congr
    intro regno member
    have inside := List.mem_range.mp member
    have known : ¬ ((regno : Int) < 0 ∨ (regno : Int) ≥ Arch.numRegisters .arm64) := by
      simp only [Arch.numRegisters]
      omega
    rw [getRegisterAsString, if_neg known, if_neg (by omega), Int.toNat_natCast, Nat.zero_add]
    rfl
  rw [List.range_succ, List.flatMap_append, words, arm64Wire, Util.encodeByteArrayString_append]
  rfl

theorem arm64Wire_eq :
    arm64Wire gregs = regsetBytes gregs 0 30 ++ regsetBytes gregs 30 3 ++ (wordBytes (gregs 33)).take 4 := by
  rw [arm64Wire, regsetBytes_append gregs 0 30 3]

/-- The copy reaches byte 30 of 240; what follows is the local variable's. -/
theorem translateToRsp_eq_iff :
    translateToRsp gregs stack = arm64Wire gregs ↔
      (regsetBytes stack 0 30).drop arm64CopiedBytes = (regsetBytes gregs 0 30).drop arm64CopiedBytes := by
  have whole := List.take_append_drop arm64CopiedBytes (regsetBytes gregs 0 30)
  rw [translateToRsp, arm64Wire_eq, List.append_left_inj, List.append_left_inj]
  constructor
  · intro same
    rw [← whole] at same
    exact List.append_cancel_left same
  · intro same
    rw [same, whole]

/-- What a set writes into the cache: the copied bytes, and the four words after the array. -/
theorem translateFromRsp_eq {rsp : Bytes}
    (copied : rsp.take arm64CopiedBytes = (regsetBytes gregs 0 30).take arm64CopiedBytes)
    (later : rsp.drop 240 = regsetBytes gregs 30 3 ++ (wordBytes (gregs 33)).take 4)
    (cpsr : (gregs 33).toNat < 2 ^ 32) :
    ∀ regno < 34, translateFromRsp gregs rsp regno = gregs regno := by
  intro regno inside
  rw [translateFromRsp]
  by_cases general : regno < 30
  · rw [if_pos general, copied]
    exact overwrite_own gregs (by decide) general
  · have moved : rsp.drop (8 * regno) = (rsp.drop 240).drop (8 * (regno - 30)) := by
      rw [List.drop_drop]
      congr 1
      omega
    rw [if_neg general, moved, later]
    by_cases special : regno = 33
    · subst special
      have words : (regsetBytes gregs 30 3).length = 8 * (33 - 30) := by simp
      rw [List.drop_left' words, List.take_of_length_le (by simp)]
      exact bytesWord_take_wordBytes _ (by decide) cpsr
    · have word := take_drop_regsetBytes gregs 30 (by omega : regno - 30 < 3)
      have index : 30 + (regno - 30) = regno := by omega
      rw [index] at word
      rw [List.drop_append_of_le_length (by simp; omega), List.take_append_of_le_length (by simp; omega),
        word, bytesWord_wordBytes]

theorem length_arm64Wire : (arm64Wire gregs).length = rspArm64Size := by
  simp [arm64Wire, rspArm64Size]

theorem setGeneralRegisters_encode {rsp : Bytes} (length : rsp.length = rspArm64Size) :
    setGeneralRegistersFromString .arm64 gregs (Util.encodeByteArrayString rsp) =
      some (translateFromRsp gregs rsp) := by
  rw [setGeneralRegistersFromString, Util.decodeByteArrayString_encode, if_neg (not_not.mpr length)]

theorem take_translateToRsp :
    (translateToRsp gregs stack).take arm64CopiedBytes =
      (regsetBytes gregs 0 30).take arm64CopiedBytes := by
  rw [translateToRsp, List.append_assoc, List.append_assoc]
  exact List.take_left' (by simp [arm64CopiedBytes])

theorem drop_translateToRsp :
    (translateToRsp gregs stack).drop 240 =
      regsetBytes gregs 30 3 ++ (wordBytes (gregs 33)).take 4 := by
  rw [translateToRsp, List.append_assoc]
  exact List.drop_left' (by simp [arm64CopiedBytes])

theorem take_arm64Wire :
    (arm64Wire gregs).take arm64CopiedBytes = (regsetBytes gregs 0 30).take arm64CopiedBytes := by
  rw [arm64Wire_eq, List.append_assoc]
  exact List.take_append_of_le_length (by simp [arm64CopiedBytes])

theorem drop_arm64Wire :
    (arm64Wire gregs).drop 240 = regsetBytes gregs 30 3 ++ (wordBytes (gregs 33)).take 4 := by
  rw [arm64Wire_eq, List.append_assoc]
  exact List.drop_left' (by simp)

section SetThenGet

variable {rsp : Bytes} (length : rsp.length = rspArm64Size)
include length

theorem regsetBytes_translateFromRsp :
    regsetBytes (translateFromRsp gregs rsp) 30 3 = (rsp.drop 240).take 24 := by
  rw [rspArm64Size] at length
  apply List.ext_getElem?
  intro index
  by_cases within : index < 24
  · have general : ¬ 30 + index / 8 < 30 := by omega
    have chunk : ((rsp.drop (8 * (30 + index / 8))).take 8).length = 8 := by
      simp
      omega
    have whole := take_wordBytes_bytesWord (Nat.le_of_eq chunk)
    rw [chunk, List.take_of_length_le (by simp)] at whole
    have position : 8 * (30 + index / 8) + index % 8 = 240 + index := by omega
    rw [getElem?_regsetBytes _ 30 (by omega), translateFromRsp, if_neg general, whole,
      List.getElem?_take_of_lt (Nat.mod_lt _ (by decide)), List.getElem?_drop, position,
      List.getElem?_take_of_lt within, List.getElem?_drop]
  · rw [List.getElem?_eq_none (by simp; omega), List.getElem?_eq_none (by simp; omega)]

theorem translateToRsp_translateFromRsp :
    translateToRsp (translateFromRsp gregs rsp) stack =
      rsp.take arm64CopiedBytes ++ (regsetBytes stack 0 30).drop arm64CopiedBytes ++
        (rsp.drop 240).take 24 ++ rsp.drop 264 := by
  have total := length
  rw [rspArm64Size] at total
  have general : (regsetBytes (translateFromRsp gregs rsp) 0 30).take arm64CopiedBytes =
      rsp.take arm64CopiedBytes := by
    have same : regsetBytes (translateFromRsp gregs rsp) 0 30 =
        regsetBytes (overwrite gregs (rsp.take arm64CopiedBytes)) 0 30 := by
      apply List.flatMap_congr
      intro regno member
      rw [translateFromRsp, if_pos (by simpa using List.mem_range.mp member)]
    have count : (rsp.take arm64CopiedBytes).length = arm64CopiedBytes := by
      simp [arm64CopiedBytes]
      omega
    have copied := take_regsetBytes_overwrite gregs (count.trans_le (by decide) : _ ≤ 8 * 30)
    rwa [count, ← same] at copied
  have last : (wordBytes (translateFromRsp gregs rsp 33)).take 4 = rsp.drop 264 := by
    have four : (rsp.drop 264).length = 4 := by
      simp
      omega
    have short : (rsp.drop 264).length ≤ 8 := by omega
    have whole := take_wordBytes_bytesWord short
    rw [four] at whole
    have word : translateFromRsp gregs rsp 33 = bytesWord (rsp.drop 264) := by
      rw [translateFromRsp, if_neg (by decide), List.take_of_length_le short]
    rw [word, whole]
  rw [translateToRsp, general, regsetBytes_translateFromRsp gregs length, last]

/-- What has been set is read back exactly when the stack holds the bytes not copied. -/
theorem translateToRsp_translateFromRsp_eq_iff :
    translateToRsp (translateFromRsp gregs rsp) stack = rsp ↔
      (regsetBytes stack 0 30).drop 30 = (rsp.take 240).drop 30 := by
  have whole : rsp = rsp.take arm64CopiedBytes ++ (rsp.take 240).drop arm64CopiedBytes ++
      (rsp.drop 240).take 24 ++ rsp.drop 264 := by
    have general : rsp.take arm64CopiedBytes ++ (rsp.take 240).drop arm64CopiedBytes = rsp.take 240 := by
      have first : rsp.take arm64CopiedBytes = (rsp.take 240).take arm64CopiedBytes := by
        rw [List.take_take]
        rfl
      rw [first, List.take_append_drop]
    have special : (rsp.drop 240).take 24 ++ rsp.drop 264 = rsp.drop 240 := by
      have rest : rsp.drop 264 = (rsp.drop 240).drop 24 := by rw [List.drop_drop]
      rw [rest, List.take_append_drop]
    rw [general, List.append_assoc, special, List.take_append_drop]
  rw [translateToRsp_translateFromRsp gregs stack length]
  constructor
  · intro same
    have both := same.trans whole
    rw [List.append_left_inj, List.append_left_inj] at both
    exact List.append_cancel_left both
  · intro same
    have middle : (regsetBytes stack 0 30).drop arm64CopiedBytes =
      (rsp.take 240).drop arm64CopiedBytes := same
    rw [middle]
    exact whole.symm

end SetThenGet

/-- The two views of the arm64 registers agree exactly where the bytes the
copies leave out happen to be right; what is read back into the cache it came
from changes nothing. -/
theorem arm64_registers_agree_iff (cpsr : (gregs 33).toNat < 2 ^ 32) :
    (getGeneralRegistersAsString .arm64 gregs stack =
        (List.range 34).flatMap (fun regno : Nat => getRegisterAsString .arm64 gregs regno) ↔
      (regsetBytes stack 0 30).drop 30 = (regsetBytes gregs 0 30).drop 30) ∧
    (∀ string ∈ [getGeneralRegistersAsString .arm64 gregs stack,
        (List.range 34).flatMap (fun regno : Nat => getRegisterAsString .arm64 gregs regno)],
      ∃ after, setGeneralRegistersFromString .arm64 gregs string = some after ∧
        ∀ regno < 34, after regno = gregs regno) ∧
    ∀ value : Bytes, value.length = 2 * rspArm64Size → (∀ char ∈ value, Util.IsHexDigit char) →
      ∃ after, setGeneralRegistersFromString .arm64 gregs value = some after ∧
        (getGeneralRegistersAsString .arm64 after stack = Util.lowerCase value ↔
          (regsetBytes stack 0 30).drop 30 =
            ((Util.decodeByteArrayString value).take 240).drop 30) := by
  have set := fun {rsp : Bytes} => @setGeneralRegisters_encode gregs rsp
  refine ⟨?_, ?_, ?_⟩
  · rw [flatMap_getRegisterAsString, getGeneralRegistersAsString]
    refine Iff.trans ?_ (translateToRsp_eq_iff gregs stack)
    exact ⟨Util.encodeByteArrayString_injective, congrArg _⟩
  · rw [flatMap_getRegisterAsString, getGeneralRegistersAsString, List.forall_mem_cons,
      List.forall_mem_singleton]
    refine ⟨⟨_, set (translateToRsp_length gregs stack), ?_⟩, ⟨_, set (length_arm64Wire gregs), ?_⟩⟩
    · exact translateFromRsp_eq gregs (take_translateToRsp gregs stack)
        (drop_translateToRsp gregs stack) cpsr
    · exact translateFromRsp_eq gregs (take_arm64Wire gregs) (drop_arm64Wire gregs) cpsr
  · intro value length digits
    have pairs : Util.HexPairs value := ⟨by omega, digits⟩
    have decoded := Util.decodeByteArrayString_length pairs
    have size : (Util.decodeByteArrayString value).length = rspArm64Size := by omega
    refine ⟨translateFromRsp gregs (Util.decodeByteArrayString value), ?_, ?_⟩
    · rw [setGeneralRegistersFromString, if_neg (not_not.mpr size)]
    · rw [getGeneralRegistersAsString, ← Util.encode_decodeByteArrayString pairs,
        ← translateToRsp_translateFromRsp_eq_iff gregs stack size]
      exact ⟨Util.encodeByteArrayString_injective, congrArg _⟩

/-- A stack that has all of the general registers but the first two. -/
theorem leftover_registers_agree :
    let gregs : RegisterSet := fun regno => UInt64.ofNat (regno + 1)
    let stack : Nat → UInt64 := fun regno => if regno < 2 then 0xff else gregs regno
    getGeneralRegistersAsString .arm64 gregs stack =
      (List.range 34).flatMap (fun regno : Nat => getRegisterAsString .arm64 gregs regno) :=
  (arm64_registers_agree_iff _ _ (by decide)).1.mpr (by decide +kernel)

/-- Registers that all hold 1, on a stack of zeros: register 4 is reported as 0,
and a value that has been set is not read back. -/
theorem general_registers_lost :
    let ones : RegisterSet := fun _ => 1
    let zeros : RegisterSet := fun _ => 0
    let value := Util.encodeByteArrayString (arm64Wire ones)
    getGeneralRegistersAsString .arm64 ones zeros ≠
        (List.range 34).flatMap (fun regno : Nat => getRegisterAsString .arm64 ones regno) ∧
      (setGeneralRegistersFromString .arm64 zeros value).map
        (fun after => decide (getGeneralRegistersAsString .arm64 after zeros = value)) = some false := by
  decide +kernel

end Arm64

end Registers

end Gdbserver
