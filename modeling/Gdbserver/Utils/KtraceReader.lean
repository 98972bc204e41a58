import Gdbserver.Foundation.Buffer
import Gdbserver.Inferior.Arch
import Gdbserver.Logic.Loop
import Gdbserver.Logic.PrefixFree

/-!
# Reading ktrace files

The loop that cuts a trace into its records and hands each of them to a callback
(`ktrace-reader.cc`). The length of a record is part of its tag.
-/

set_option autoImplicit false

namespace Gdbserver.Ktrace

open Logic

/-- `sizeof(ktrace_header_t)` -/
def headerSize : Nat := 16

/-- The size of `KtraceRecord`. -/
def recordSize : Nat := 256

/-- `KTRACE_LEN` -/
def ktraceLen (tag : UInt32) : Nat := 8 * (tag &&& 0xF).toNat

def u32 (raw : Bytes) (offset : Nat) : UInt32 :=
  (Registers.bytesWord ((raw.drop offset).take 4)).toUInt32

def u64 (raw : Bytes) (offset : Nat) : UInt64 :=
  Registers.bytesWord ((raw.drop offset).take 8)

def tag (raw : Bytes) : UInt32 := u32 raw 0

def ts (raw : Bytes) : UInt64 := u64 raw 8

/-- A callback sees the whole record buffer and may write to it. -/
abbrev RecordReader (σ : Type) := Bytes → σ → Int32 × Bytes × σ

/-- The record buffer, what is left of the file and the argument of the callback.
The buffers that the callback has been called with and the places that have been
written are kept for the record. -/
structure ReadState (σ : Type) where
  raw : Bytes
  rest : Bytes
  arg : σ
  calls : List Bytes
  writes : List (Nat × Nat)

namespace ReadState

variable {σ : Type}

/-- `read(fd, rec.raw + offset, count)` -/
def read (state : ReadState σ) (offset count : Nat) : ReadState σ :=
  { state with
    raw := Util.copyInto state.raw offset (state.rest.take count)
    rest := state.rest.drop count
    writes := state.writes ++ [(offset, count)] }

def has (state : ReadState σ) (count : Nat) : Bool := (state.rest.take count).length == count

def call (reader : RecordReader σ) (state : ReadState σ) :
    Turn (ReadState σ) (Int32 × ReadState σ) :=
  let result := reader state.raw state.arg
  let called := { state with
    raw := result.2.1
    arg := result.2.2
    calls := state.calls ++ [state.raw] }
  if result.1 ≠ 0 then .done (result.1, called) else .next called

def turn (reader : RecordReader σ) (state : ReadState σ) :
    Turn (ReadState σ) (Int32 × ReadState σ) :=
  let started := state.read 0 headerSize
  -- the condition of the loop
  if !state.has headerSize then .done (0, started)
  else
    let len := ktraceLen (tag started.raw)
    -- "eof: zero tag", then "eof: short packet"
    if tag started.raw = 0 then .done (0, started)
    else if len < headerSize then .done (0, started)
    else
      let filled := started.read headerSize (len - headerSize)
      -- "eof: incomplete packet"; what there is of it is in the buffer
      if !started.has (len - headerSize) then .done (0, filled)
      else filled.call reader

end ReadState

def ReadState.start {σ : Type} (raw file : Bytes) (arg : σ) : ReadState σ :=
  ⟨raw, file, arg, [], []⟩

def readFile {σ : Type} (reader : RecordReader σ) (fuel : Nat) (raw file : Bytes) (arg : σ) :
    Option (Int32 × ReadState σ) :=
  loop (fun state : ReadState σ => some (state.turn reader)) fuel (.start raw file arg)

/-! ## Records -/

/-- A complete record: a tag, and as many bytes as it says. -/
structure IsRecord (record : Bytes) : Prop where
  tag : tag record ≠ 0
  header : headerSize ≤ record.length
  length : record.length = ktraceLen (Ktrace.tag record)

section Records

variable {record other buffer text : Bytes}

theorem take_of_starts (starts : record <+: buffer) {offset width : Nat}
    (inside : offset + width ≤ record.length) :
    (buffer.drop offset).take width = (record.drop offset).take width := by
  obtain ⟨more, rfl⟩ := starts
  rw [List.drop_append_of_le_length (by omega), List.take_append_of_le_length]
  rw [List.length_drop]
  omega

theorem u32_of_starts (starts : record <+: buffer) {offset : Nat}
    (inside : offset + 4 ≤ record.length) : u32 buffer offset = u32 record offset := by
  rw [u32, take_of_starts starts inside, u32]

theorem u64_of_starts (starts : record <+: buffer) {offset : Nat}
    (inside : offset + 8 ≤ record.length) : u64 buffer offset = u64 record offset := by
  rw [u64, take_of_starts starts inside, u64]

theorem tag_of_starts (starts : record <+: buffer) (header : headerSize ≤ record.length) :
    tag buffer = tag record :=
  u32_of_starts starts (Nat.le_trans (by decide) header)

theorem ktraceLen_le (tag : UInt32) : ktraceLen tag ≤ 120 := by
  have low : (tag &&& 0xF).toNat ≤ 15 := by
    rw [UInt32.toNat_and]
    exact Nat.and_le_right
  exact Nat.mul_le_mul_left 8 low

/-- The tag decides where a record ends. -/
theorem isRecord_prefixFree : PrefixFree IsRecord where
  nonempty := by
    rintro record isRecord rfl
    exact absurd isRecord.header (by decide)
  same := by
    intro record other isRecord isOther starts
    apply starts.eq_of_length
    rw [isRecord.length, isOther.length, tag_of_starts starts isRecord.header]

end Records

/-! ## One turn -/

section Turns

variable {σ : Type} {reader : RecordReader σ} {state final : ReadState σ}

def WritesInside (state : ReadState σ) : Prop :=
  ∀ write ∈ state.writes, write.1 + write.2 ≤ recordSize

theorem WritesInside.read (inside : WritesInside state) {offset count : Nat}
    (fits : offset + count ≤ recordSize) : WritesInside (state.read offset count) := by
  intro write member
  cases List.mem_append.mp member with
  | inl before => exact inside write before
  | inr now => exact List.mem_singleton.mp now ▸ fits

/-- What has not reached the callback: its argument, and what it has been called with. -/
structure Silent (state final : ReadState σ) : Prop where
  arg : final.arg = state.arg
  calls : final.calls = state.calls
  writes : WritesInside state → WritesInside final

theorem has_iff {count : Nat} : state.has count = true ↔ count ≤ state.rest.length := by
  rw [ReadState.has, beq_iff_eq, List.length_take]
  omega

/-- A turn ends the loop where no record starts. Otherwise it calls the callback with
a buffer that starts with the record. -/
inductive Turned (reader : RecordReader σ) (state : ReadState σ) : Prop
  | ends {final : ReadState σ} (outcome : state.turn reader = .done (0, final))
      (silent : Silent state final)
      (none : ∀ record, IsRecord record → ¬ record <+: state.rest)
  | calls {filled : ReadState σ} {record : Bytes} (outcome : state.turn reader = filled.call reader)
      (silent : Silent state filled) (isRecord : IsRecord record)
      (rest : state.rest = record ++ filled.rest) (buffer : record <+: filled.raw)

theorem silent_read {offset count : Nat} (fits : offset + count ≤ recordSize) :
    Silent state (state.read offset count) :=
  ⟨rfl, rfl, fun inside => inside.read fits⟩

theorem silent_header (state : ReadState σ) : Silent state (state.read 0 headerSize) :=
  silent_read (by decide)

theorem Silent.trans {between : ReadState σ} (first : Silent state between)
    (second : Silent between final) : Silent state final :=
  ⟨second.arg.trans first.arg, second.calls.trans first.calls, second.writes ∘ first.writes⟩

theorem take_copyInto (raw data : Bytes) (offset : Nat) (inside : offset ≤ raw.length) :
    (Util.copyInto raw offset data).take (offset + data.length) = raw.take offset ++ data := by
  have length : (raw.take offset ++ data).length = offset + data.length := by
    rw [List.length_append, List.length_take, Nat.min_eq_left inside]
  rw [Util.copyInto, ← length, List.take_left]

theorem take_read_header (present : headerSize ≤ state.rest.length) :
    (state.read 0 headerSize).raw.take headerSize = state.rest.take headerSize := by
  have front := take_copyInto state.raw (state.rest.take headerSize) 0 (Nat.zero_le _)
  rwa [List.length_take, Nat.min_eq_left present, Nat.zero_add, List.take_zero,
    List.nil_append] at front

theorem tag_read_header (present : headerSize ≤ state.rest.length) :
    tag (state.read 0 headerSize).raw = tag state.rest := by
  have length : headerSize ≤ (state.rest.take headerSize).length := by
    rw [List.length_take]
    omega
  have buffer : state.rest.take headerSize <+: (state.read 0 headerSize).raw :=
    take_read_header present ▸ List.take_prefix _ _
  rw [tag_of_starts buffer length, tag_of_starts (List.take_prefix _ _) length]

theorem take_read_record (present : headerSize ≤ state.rest.length) {len : Nat}
    (long : headerSize ≤ len) :
    state.rest.take len <+: ((state.read 0 headerSize).read headerSize (len - headerSize)).raw := by
  have filled := take_copyInto (state.read 0 headerSize).raw
    ((state.rest.drop headerSize).take (len - headerSize)) headerSize (by
      have front := congrArg List.length (take_read_header present)
      simp only [List.length_take] at front
      omega)
  rw [take_read_header present, ← List.take_add, Nat.add_sub_cancel' long] at filled
  rw [← filled]
  exact List.take_prefix _ _

theorem rest_read_record {len : Nat} (long : headerSize ≤ len) :
    state.rest = state.rest.take len ++
      ((state.read 0 headerSize).read headerSize (len - headerSize)).rest := by
  simp only [ReadState.read, List.drop_drop, Nat.add_sub_cancel' long, List.take_append_drop]

theorem isRecord_take {text : Bytes} (nonzero : tag text ≠ 0)
    (long : headerSize ≤ ktraceLen (tag text)) (complete : ktraceLen (tag text) ≤ text.length) :
    IsRecord (text.take (ktraceLen (tag text))) := by
  have length : (text.take (ktraceLen (tag text))).length = ktraceLen (tag text) :=
    List.length_take_of_le complete
  have header := length.symm ▸ long
  have same : tag (text.take (ktraceLen (tag text))) = tag text :=
    (tag_of_starts (List.take_prefix _ _) header).symm
  constructor
  · rw [same]
    exact nonzero
  · exact header
  · rw [length, same]

theorem length_of_front {record text : Bytes} (isRecord : IsRecord record)
    (starts : record <+: text) : record.length = ktraceLen (tag text) := by
  rw [isRecord.length, tag_of_starts starts isRecord.header]

theorem turned_of_short (short : ¬ headerSize ≤ state.rest.length) : Turned reader state := by
  have has : state.has headerSize = false := by
    rw [Bool.eq_false_iff, Ne, has_iff]
    exact short
  apply Turned.ends (by simp [ReadState.turn, has]) (silent_header state)
  intro record isRecord starts
  exact short (Nat.le_trans isRecord.header starts.length_le)

theorem turned_of_badTag (present : headerSize ≤ state.rest.length)
    (bad : tag state.rest = 0 ∨ ktraceLen (tag state.rest) < headerSize) : Turned reader state := by
  have has := has_iff.mpr present
  have label := tag_read_header present
  cases bad with
  | inl zero =>
      apply Turned.ends (by simp [ReadState.turn, has, label, zero]) (silent_header state)
      intro record isRecord starts
      exact isRecord.tag (tag_of_starts starts isRecord.header ▸ zero)
  | inr short =>
      apply Turned.ends (by simp [ReadState.turn, has, label, short]) (silent_header state)
      intro record isRecord starts
      have header := isRecord.header
      have own := length_of_front isRecord starts
      omega

theorem turned_of_goodTag (present : headerSize ≤ state.rest.length) (nonzero : tag state.rest ≠ 0)
    (long : headerSize ≤ ktraceLen (tag state.rest)) : Turned reader state := by
  have has := has_iff.mpr present
  have label := tag_read_header present
  have notShort := Nat.not_lt.mpr long
  have fits : headerSize + (ktraceLen (tag state.rest) - headerSize) ≤ recordSize := by
    have bound := ktraceLen_le (tag state.rest)
    have room : 120 ≤ recordSize := by decide
    omega
  have filled := (silent_header state).trans (silent_read fits)
  have rest : (state.read 0 headerSize).rest.length = state.rest.length - headerSize :=
    List.length_drop
  by_cases complete : ktraceLen (tag state.rest) ≤ state.rest.length
  · have body : (state.read 0 headerSize).has (ktraceLen (tag state.rest) - headerSize) := by
      rw [has_iff]
      omega
    apply Turned.calls (by simp [ReadState.turn, has, label, nonzero, notShort, body]) filled
    · exact isRecord_take nonzero long complete
    · exact rest_read_record long
    · exact take_read_record present long
  · have body : (state.read 0 headerSize).has
        (ktraceLen (tag state.rest) - headerSize) = false := by
      rw [Bool.eq_false_iff, Ne, has_iff]
      omega
    apply Turned.ends (by simp [ReadState.turn, has, label, nonzero, notShort, body]) filled
    intro record isRecord starts
    have own := length_of_front isRecord starts
    have front := starts.length_le
    omega

theorem turned (reader : RecordReader σ) (state : ReadState σ) : Turned reader state := by
  by_cases present : headerSize ≤ state.rest.length
  · by_cases bad : tag state.rest = 0 ∨ ktraceLen (tag state.rest) < headerSize
    · exact turned_of_badTag present bad
    · rw [not_or] at bad
      exact turned_of_goodTag present bad.1 (Nat.le_of_not_lt bad.2)
  · exact turned_of_short present

end Turns

/-! ## The whole file -/

/-- The callback is called for the records in turn, with buffers that start with
them, up to the first result that is not zero. -/
inductive HandedOut {σ : Type} (reader : RecordReader σ) :
    List Bytes → σ → Int32 → List Bytes → σ → Prop
  | all {arg : σ} : HandedOut reader [] arg 0 [] arg
  | stops {record buffer : Bytes} {records : List Bytes} {arg : σ}
      (starts : record <+: buffer) (nonzero : (reader buffer arg).1 ≠ 0) :
      HandedOut reader (record :: records) arg (reader buffer arg).1 [buffer] (reader buffer arg).2.2
  | goesOn {record buffer : Bytes} {records calls : List Bytes} {arg final : σ} {rc : Int32}
      (starts : record <+: buffer) (zero : (reader buffer arg).1 = 0)
      (later : HandedOut reader records (reader buffer arg).2.2 rc calls final) :
      HandedOut reader (record :: records) arg rc (buffer :: calls) final

section Files

variable {σ : Type}

structure LoopEnded (reader : RecordReader σ) (records : List Bytes) (state : ReadState σ)
    (outcome : Int32 × ReadState σ) : Prop where
  handedOut : ∃ calls, outcome.2.calls = state.calls ++ calls ∧
    HandedOut reader records state.arg outcome.1 calls outcome.2.arg
  writes : WritesInside state → WritesInside outcome.2

theorem ended_of_ends {reader : RecordReader σ} {state final : ReadState σ}
    (silent : Silent state final) : LoopEnded reader [] state (0, final) where
  handedOut := ⟨[], by rw [silent.calls, List.append_nil], silent.arg ▸ .all⟩
  writes := silent.writes

theorem ended_of_stops {reader : RecordReader σ} {state filled : ReadState σ} {record : Bytes}
    (records : List Bytes) (silent : Silent state filled) (starts : record <+: filled.raw)
    {outcome : Int32 × ReadState σ} (stops : filled.call reader = .done outcome) :
    LoopEnded reader (record :: records) state outcome := by
  by_cases nonzero : (reader filled.raw filled.arg).1 ≠ 0
  · simp only [ReadState.call, if_pos nonzero, Turn.done.injEq] at stops
    subst stops
    constructor
    · refine ⟨[filled.raw], by rw [silent.calls], ?_⟩
      rw [← silent.arg]
      exact .stops starts nonzero
    · exact silent.writes
  · simp [ReadState.call, nonzero] at stops

theorem ended_of_goesOn {reader : RecordReader σ} {state filled called : ReadState σ}
    {record : Bytes} {records : List Bytes} (silent : Silent state filled)
    (starts : record <+: filled.raw) (goesOn : filled.call reader = .next called)
    {outcome : Int32 × ReadState σ} (ended : LoopEnded reader records called outcome) :
    LoopEnded reader (record :: records) state outcome := by
  by_cases nonzero : (reader filled.raw filled.arg).1 ≠ 0
  · simp [ReadState.call, nonzero] at goesOn
  · simp only [ReadState.call, if_neg nonzero, Turn.next.injEq] at goesOn
    subst goesOn
    obtain ⟨calls, same, later⟩ := ended.handedOut
    constructor
    · refine ⟨filled.raw :: calls, by rw [same, silent.calls]; simp, ?_⟩
      rw [← silent.arg]
      exact .goesOn starts (not_not.mp nonzero) later
    · exact ended.writes ∘ silent.writes

theorem rest_of_next {reader : RecordReader σ} {filled called : ReadState σ}
    (goesOn : filled.call reader = .next called) : called.rest = filled.rest := by
  by_cases nonzero : (reader filled.raw filled.arg).1 ≠ 0
  · simp [ReadState.call, nonzero] at goesOn
  · simp only [ReadState.call, if_neg nonzero, Turn.next.injEq] at goesOn
    rw [← goesOn]

/-- One turn for each record, and one more. -/
theorem loop_ended (reader : RecordReader σ) {text : Bytes} {records : List Bytes}
    (cut : Itemized IsRecord text records) (state : ReadState σ) (rest : state.rest = text) :
    ∃ outcome,
      loop (fun state : ReadState σ => some (state.turn reader)) (records.length + 1) state =
        some outcome ∧ LoopEnded reader records state outcome := by
  -- A turn finds the next record of the cut, since two records at one place are the same.
  induction cut generalizing state with
  | ends none =>
      cases turned reader state with
      | @ends final outcome silent _ =>
          exact ⟨(0, final), loop_done (congrArg some outcome) _, ended_of_ends silent⟩
      | @calls filled record _ _ isRecord split _ =>
          exact absurd (rest ▸ split ▸ List.prefix_append record filled.rest) (none record isRecord)
  | @item record later records isRecord _ ih =>
      have front : record <+: state.rest := rest ▸ List.prefix_append record later
      cases turned reader state with
      | ends _ _ none => exact absurd front (none record isRecord)
      | @calls filled other outcome silent isOther split starts =>
          have otherFront : other <+: state.rest := split ▸ List.prefix_append other filled.rest
          obtain rfl := isRecord_prefixFree.eq_of_starts isRecord isOther front otherFront
          have left : filled.rest = later := List.append_cancel_left (split.symm.trans rest)
          cases called : filled.call reader with
          | done result =>
              have taken := congrArg some (outcome.trans called)
              exact ⟨result, loop_done taken _, ended_of_stops records silent starts called⟩
          | next reached =>
              have taken := congrArg some (outcome.trans called)
              obtain ⟨result, ran, ended⟩ := ih reached ((rest_of_next called).trans left)
              have whole := ended_of_goesOn silent starts called ended
              exact ⟨result, (loop_next taken _).trans ran, whole⟩

/-- The file is read to the end of its records, or to the first result of the
callback that is not zero. -/
theorem readFile_ended (reader : RecordReader σ) (raw : Bytes) {file : Bytes} {records : List Bytes}
    (cut : Itemized IsRecord file records) (arg : σ) :
    ∃ outcome, (∀ fuel > file.length, readFile reader fuel raw file arg = some outcome) ∧
      HandedOut reader records arg outcome.1 outcome.2.calls outcome.2.arg ∧
      WritesInside outcome.2 := by
  obtain ⟨outcome, ran, ended⟩ := loop_ended reader cut (.start raw file arg) rfl
  obtain ⟨calls, same, handedOut⟩ := ended.handedOut
  have own : outcome.2.calls = calls := same
  refine ⟨outcome, ?_, own ▸ handedOut, ?_⟩
  · intro fuel enough
    have turns : records.length < fuel :=
      Nat.lt_of_le_of_lt (cut.length_le isRecord_prefixFree) enough
    exact loop_mono ran turns
  · apply ended.writes
    intro write none
    cases none

end Files

end Gdbserver.Ktrace
