import Gdbserver.Foundation.Numerals
import Gdbserver.Logic.Delimited
import Gdbserver.Rsp.ThreadActionList

/-!
# Thread ids

What the texts of thread ids stand for, which of them `ParseThreadId` reads,
and that it reads what `EncodeThreadId` writes.
-/

set_option autoImplicit false

namespace Gdbserver

open Logic

namespace Util

/-- A thread, a thread of a process, or all threads of a process. The process
is not set by an id that does not name one. -/
inductive Denotes : Bytes → ThreadId → Prop
  | thread {text : Bytes} {tid : Int64} : Ftl.Numeral text tid → Denotes text ⟨false, 0, tid⟩
  | threadOf {process thread : Bytes} {pid tid : Int64} : Ftl.Numeral process pid →
      Ftl.Numeral thread tid →
      Denotes (chr 'p' :: (process ++ chr '.' :: thread)) ⟨true, pid, tid⟩
  | process {process : Bytes} {pid : Int64} : Ftl.Numeral process pid →
      Denotes (chr 'p' :: process) ⟨true, pid, -1⟩

theorem numeral_clear {text : Bytes} {value : Int64} (numeral : Ftl.Numeral text value) :
    chr '.' ∉ text := numeral.clear (by decide) (by decide)

theorem numeral_ne_p {first : UInt8} {rest : Bytes} {value : Int64}
    (numeral : Ftl.Numeral (first :: rest) value) : first ≠ chr 'p' := by
  rintro rfl
  exact numeral.clear (by decide) (by decide) List.mem_cons_self

section Parsing

variable {ftl : Ftl} (reads : ftl.ReadsSigned) (garbage : UInt64)
include reads

theorem parseThreadId_thread_iff {first : UInt8} {rest : Bytes} (plain : first ≠ chr 'p')
    (id : ThreadId) :
    parseThreadId ftl garbage (first :: rest) = some id ↔ Denotes (first :: rest) id := by
  rw [parseThreadId, if_pos plain, Option.map_eq_some_iff]
  constructor
  · rintro ⟨tid, read, rfl⟩
    exact .thread ((reads _ _).mp read)
  · intro denotes
    generalize text : first :: rest = bytes at denotes
    cases denotes with
    | thread numeral => exact ⟨_, (reads _ _).mpr (text ▸ numeral), rfl⟩
    | threadOf => exact absurd (List.cons.inj text).1 plain
    | process => exact absurd (List.cons.inj text).1 plain

omit reads in
/-- Both numbers are read when the process ends at the first dot. -/
theorem parseThreadId_dotted {process : Bytes} (clear : chr '.' ∉ process) (thread : Bytes) :
    parseThreadId ftl garbage (chr 'p' :: (process ++ chr '.' :: thread)) =
      (ftl.stringToInt64 process).bind fun pid =>
        (ftl.stringToInt64 thread).map fun tid => ⟨true, pid, tid⟩ := by
  rw [parseThreadId, if_neg (by simp), if_pos (by simp), Delimited.takeWhile_field clear,
    Delimited.dropWhile_field clear, List.drop_one, List.tail_cons]
  cases ftl.stringToInt64 process <;> cases ftl.stringToInt64 thread <;> rfl

theorem parseThreadId_dotted_iff {rest : Bytes} (dotted : chr '.' ∈ rest) (id : ThreadId) :
    parseThreadId ftl garbage (chr 'p' :: rest) = some id ↔ Denotes (chr 'p' :: rest) id := by
  obtain ⟨process, thread, clear, rfl⟩ : ∃ process thread, chr '.' ∉ process ∧
      rest = process ++ chr '.' :: thread :=
    ⟨_, _, Delimited.clear_takeWhile rest, Delimited.eq_field_append dotted⟩
  rw [parseThreadId_dotted garbage clear, Option.bind_eq_some_iff]
  constructor
  · rintro ⟨pid, processRead, threadRead⟩
    obtain ⟨tid, read, rfl⟩ := Option.map_eq_some_iff.mp threadRead
    exact .threadOf ((reads _ _).mp processRead) ((reads _ _).mp read)
  · intro denotes
    generalize text : chr 'p' :: (process ++ chr '.' :: thread) = bytes at denotes
    cases denotes with
    | thread numeral =>
        subst text
        exact absurd rfl (numeral_ne_p numeral)
    | threadOf processNumeral threadNumeral =>
        obtain ⟨rfl, rfl⟩ := Delimited.field_unique clear (numeral_clear processNumeral)
          (List.cons.inj text).2
        exact ⟨_, (reads _ _).mpr processNumeral,
          Option.map_eq_some_iff.mpr ⟨_, (reads _ _).mpr threadNumeral, rfl⟩⟩
    | process numeral =>
        obtain rfl := (List.cons.inj text).2
        exact absurd dotted (numeral_clear numeral)

/-- Without a dot, the id is read up to wherever the index that was never set points. -/
theorem parseThreadId_dotless_iff {rest : Bytes} (dotless : chr '.' ∉ rest) (id : ThreadId) :
    parseThreadId ftl garbage (chr 'p' :: rest) = some id ↔
      ∃ pid, Ftl.Numeral (rest.take (garbage - 1).toNat) pid ∧ id = ⟨true, pid, -1⟩ := by
  rw [parseThreadId, if_neg (by simp), if_neg dotless, Option.map_eq_some_iff]
  constructor
  · rintro ⟨pid, read, rfl⟩
    exact ⟨pid, (reads _ _).mp read, rfl⟩
  · rintro ⟨pid, numeral, rfl⟩
    exact ⟨pid, (reads _ _).mpr numeral, rfl⟩

omit reads in
theorem denotes_dotless_iff {rest : Bytes} (dotless : chr '.' ∉ rest) (id : ThreadId) :
    Denotes (chr 'p' :: rest) id ↔ ∃ pid, Ftl.Numeral rest pid ∧ id = ⟨true, pid, -1⟩ := by
  constructor
  · intro denotes
    generalize text : chr 'p' :: rest = bytes at denotes
    cases denotes with
    | thread numeral =>
        subst text
        exact absurd rfl (numeral_ne_p numeral)
    | threadOf =>
        obtain rfl := (List.cons.inj text).2
        exact absurd (List.mem_append_right _ List.mem_cons_self) dotless
    | process numeral =>
        obtain rfl := (List.cons.inj text).2
        exact ⟨_, numeral, rfl⟩
  · rintro ⟨pid, numeral, rfl⟩
    exact .process numeral

end Parsing

/-- With the memory behind the index given, the texts that are read are those
that are thread ids, exactly when cutting the id there makes no difference. -/
theorem parseThreadId_denotes {ftl : Ftl} (reads : ftl.ReadsSigned) (garbage : UInt64)
    (bytes : Bytes) :
    (∀ id, parseThreadId ftl garbage bytes = some id ↔ Denotes bytes id) ↔
      ∀ rest, bytes = chr 'p' :: rest → chr '.' ∉ rest →
        ∀ pid, Ftl.Numeral (rest.take (garbage - 1).toNat) pid ↔ Ftl.Numeral rest pid := by
  constructor
  · rintro agrees rest rfl dotless pid
    have here := agrees ⟨true, pid, -1⟩
    rw [parseThreadId_dotless_iff reads garbage dotless, denotes_dotless_iff dotless] at here
    simpa using here
  · intro same id
    cases bytes with
    | nil =>
        constructor
        · intro parsed
          simp [parseThreadId] at parsed
        · intro denotes
          cases denotes with
          | thread numeral => exact absurd rfl numeral.ne_nil
    | cons first rest =>
        by_cases plain : first = chr 'p'
        · subst plain
          by_cases dotted : chr '.' ∈ rest
          · exact parseThreadId_dotted_iff reads garbage dotted id
          · rw [parseThreadId_dotless_iff reads garbage dotted, denotes_dotless_iff dotted]
            simp only [same rest rfl dotted]
        · exact parseThreadId_thread_iff reads garbage plain id

section RoundTrip

variable {ftl : Ftl}

theorem uint64ToHex_clear (prints : ftl.PrintsHex) {char : UInt8} (other : ¬ IsHexDigit char)
    (value : UInt64) : char ∉ ftl.uint64ToHex value := (prints value).clear other

theorem encodeThreadId_injective (prints : ftl.PrintsHex) {pid tid otherPid otherTid : UInt64}
    (same : encodeThreadId ftl pid tid = encodeThreadId ftl otherPid otherTid) :
    pid = otherPid ∧ tid = otherTid := by
  have dot : ∀ value, chr '.' ∉ ftl.uint64ToHex value := uint64ToHex_clear prints (by decide)
  obtain ⟨process, thread⟩ := Delimited.field_unique (dot pid) (dot otherPid) (List.cons.inj same).2
  exact ⟨prints.injective process, prints.injective thread⟩

theorem parseThreadId_encode (reads : ftl.ReadsSigned) (prints : ftl.PrintsHex)
    (garbage pid tid : UInt64) :
    parseThreadId ftl garbage (encodeThreadId ftl pid tid) =
      if pid.toNat < 2 ^ 63 ∧ tid.toNat < 2 ^ 63 then some ⟨true, pid.toInt64, tid.toInt64⟩
      else none := by
  have dot := uint64ToHex_clear prints (by decide : ¬ IsHexDigit (chr '.')) pid
  rw [encodeThreadId, List.cons_append, parseThreadId_dotted garbage dot (ftl.uint64ToHex tid),
    Ftl.stringToInt64_uint64ToHex reads prints,
    Ftl.stringToInt64_uint64ToHex reads prints]
  by_cases process : pid.toNat < 2 ^ 63
  · rw [if_pos process, Option.bind_some]
    by_cases thread : tid.toNat < 2 ^ 63
    · rw [if_pos thread, if_pos ⟨process, thread⟩, Option.map_some]
    · rw [if_neg thread, if_neg fun both => thread both.2, Option.map_none]
  · have either : ¬ (pid.toNat < 2 ^ 63 ∧ tid.toNat < 2 ^ 63) := fun both => process both.1
    rw [if_neg process, Option.bind_none, if_neg either]

/-- Ids below the sign bit survive being written and read, others are rejected,
and no two pairs are written alike. -/
theorem threadIds_round_trip (reads : ftl.ReadsSigned) (prints : ftl.PrintsHex) :
    (∀ garbage pid tid : UInt64, pid.toNat < 2 ^ 63 → tid.toNat < 2 ^ 63 →
      ∃ id, parseThreadId ftl garbage (encodeThreadId ftl pid tid) = some id ∧ id.hasPid = true ∧
        id.pid.toInt = pid.toNat ∧ id.tid.toInt = tid.toNat) ∧
    (∀ garbage pid tid : UInt64, 2 ^ 63 ≤ pid.toNat ∨ 2 ^ 63 ≤ tid.toNat →
      parseThreadId ftl garbage (encodeThreadId ftl pid tid) = none) ∧
    ∀ pid tid otherPid otherTid : UInt64,
      encodeThreadId ftl pid tid = encodeThreadId ftl otherPid otherTid →
        pid = otherPid ∧ tid = otherTid := by
  refine ⟨?_, ?_, ?_⟩
  · intro garbage pid tid process thread
    refine ⟨⟨true, pid.toInt64, tid.toInt64⟩, ?_, rfl, Ftl.toInt_toInt64 process,
      Ftl.toInt_toInt64 thread⟩
    rw [parseThreadId_encode reads prints, if_pos ⟨process, thread⟩]
  · intro garbage pid tid large
    rw [parseThreadId_encode reads prints, if_neg (by omega)]
  · intro pid tid otherPid otherTid same
    exact encodeThreadId_injective prints same

theorem standard_threadIds_round_trip :
    (∃ id, parseThreadId Ftl.standard 0 (encodeThreadId Ftl.standard 0x4d 9) = some id ∧
      id.hasPid = true ∧ id.pid.toInt = 0x4d ∧ id.tid.toInt = 9) ∧
    parseThreadId Ftl.standard 0 (encodeThreadId Ftl.standard 0x4d 0xffffffffffffffff) = none := by
  have round := threadIds_round_trip Ftl.standard_readsSigned Ftl.standard_printsHex
  exact ⟨round.1 0 0x4d 9 (by decide) (by decide), round.2.1 0 0x4d _ (by decide)⟩

end RoundTrip

end Util

end Gdbserver
