import Gdbserver.Utils.LoadMapRecords

/-!
# Lines of a log that are too long

The fields of a line are copied into buffers of 1024 bytes. A line with more characters
is logged as ignored, and then read like all others.
-/

set_option autoImplicit false

namespace Gdbserver.Util

open Scanf

/-! ## The strings that are stored -/

section Strings

variable (numbers : NumberScanner)

/-- What the formats that are tried on a line copy: the characters in front of `@`, a build
id, and two names. -/
def fields (text : Bytes) : List Bytes :=
  text.takeWhile (· != chr '@') ::
    if (recordA (scan numbers formatA text)).isSome then []
    else
      wordBehind numbers text (traceLoad ++ plain "b ") ::
        if (recordB (scan numbers formatB text)).isSome then []
        else
          [wordBehind numbers text (traceLoad ++ plain "c "),
            wordBehind numbers text (traceLoad ++ plain "c " ++ .word :: plain " ")]

variable {kind : Bytes → Prop} (empty : kind [])

include empty

theorem forall_traceLoad_iff {more : List Directive}
    (quiet : ∀ directive ∈ more, directive.storesText = false) (text : Bytes) :
    (∀ stored ∈ texts (scan numbers (traceLoad ++ more) text), kind stored) ↔
      kind (text.takeWhile (· != chr '@')) := by
  have split : traceLoad = [.excluding (chr '@')] ++ traceLoad.tail := rfl
  rw [texts_scan_append_quiet numbers text _ quiet, split,
    texts_scan_append_quiet numbers text _ (by decide), scan_single, convert,
    forall_storeRun_iff _ empty]

theorem forall_formatA_iff (text : Bytes) :
    (∀ stored ∈ texts (scan numbers formatA text), kind stored) ↔
      kind (text.takeWhile (· != chr '@')) :=
  forall_traceLoad_iff numbers empty (by decide) text

theorem forall_formatB_iff (text : Bytes) :
    (∀ stored ∈ texts (scan numbers formatB text), kind stored) ↔
      kind (text.takeWhile (· != chr '@')) ∧
        kind (wordBehind numbers text (traceLoad ++ plain "b ")) := by
  have split : formatB = traceLoad ++ plain "b " ++ [.word] := rfl
  rw [split, forall_scan_word_iff numbers text empty,
    forall_traceLoad_iff numbers empty (by decide)]

theorem forall_formatC_iff (text : Bytes) :
    (∀ stored ∈ texts (scan numbers formatC text), kind stored) ↔
      (kind (text.takeWhile (· != chr '@')) ∧
        kind (wordBehind numbers text (traceLoad ++ plain "c "))) ∧
        kind (wordBehind numbers text (traceLoad ++ plain "c " ++ .word :: plain " ")) := by
  have split : formatC = traceLoad ++ plain "c " ++ .word :: plain " " ++ [.word] := rfl
  have inner : traceLoad ++ plain "c " ++ .word :: plain " " =
      traceLoad ++ plain "c " ++ [.word] ++ plain " " := rfl
  rw [split, forall_scan_word_iff numbers text empty]
  nth_rewrite 1 [inner]
  rw [texts_scan_append_quiet numbers text _ (by decide), forall_scan_word_iff numbers text empty,
    forall_traceLoad_iff numbers empty (by decide)]

/-- What is stored for a line are its fields. -/
theorem forall_scanRecord_iff (text : Bytes) :
    (∀ stored ∈ (scanRecord numbers text).2, kind stored) ↔
      ∀ field ∈ fields numbers text, kind field := by
  have front := forall_formatA_iff numbers empty text
  have build := forall_formatB_iff numbers empty text
  have names := forall_formatC_iff numbers empty text
  cases first : recordA (scan numbers formatA text) with
  | some record => simp [scanRecord, fields, first, front]
  | none =>
      cases second : recordB (scan numbers formatB text) with
      | some record => simp [scanRecord, fields, first, second, front, build, or_imp, forall_and]
      | none =>
          simp only [scanRecord, fields, first, second, List.forall_mem_append, front, build, names,
            Option.isSome_none, Bool.false_eq_true, if_false, List.forall_mem_cons, List.not_mem_nil,
            false_imp_iff, implies_true, and_true]
          constructor
          · rintro ⟨⟨-, front, build⟩, ⟨-, name⟩, soName⟩
            exact ⟨front, build, name, soName⟩
          · rintro ⟨front, build, name, soName⟩
            exact ⟨⟨front, front, build⟩, ⟨front, name⟩, soName⟩

end Strings

/-- The buffers hold every string that is stored, with the NUL behind it. -/
def FieldsFit (numbers : NumberScanner) (maps : List LoadMap) (file : Bytes) : Prop :=
  ∀ stored ∈ (readLines numbers maps (lines file)).stored, stored.length < kMaxLineLen

section Lines

variable {numbers : NumberScanner}

theorem handleRecord_stored (state : LogState) (record : Record) :
    (state.handleRecord record).stored = state.stored := by
  cases record with
  | a pid seqno baseAddr loadAddr endAddr =>
      simp only [LogState.handleRecord]
      cases state.mapData (entryId pid seqno) <;> rfl
  | b pid seqno buildId =>
      simp only [LogState.handleRecord]
      cases state.mapData (entryId pid seqno) <;> rfl
  | c pid seqno name soName =>
      simp only [LogState.handleRecord]
      cases state.mapData (entryId pid seqno) <;> rfl

theorem forall_handleLine_iff (state : LogState) (line : Bytes) :
    (∀ stored ∈ (state.handleLine numbers line).stored, stored.length < kMaxLineLen) ↔
      (∀ stored ∈ state.stored, stored.length < kMaxLineLen) ∧
        ∀ text, classify line = .scanned text →
          ∀ field ∈ fields numbers text, field.length < kMaxLineLen := by
  cases kind : classify line with
  | skipped => simp [LogState.handleLine, kind]
  | rebooted => simp [LogState.handleLine, kind]
  | scanned text =>
      have stored : (state.handleLine numbers line).stored =
          state.stored ++ (scanRecord numbers text).2 := by
        simp only [LogState.handleLine, kind]
        cases (scanRecord numbers text).1 with
        | none => rfl
        | some record => exact handleRecord_stored _ record
      have small : ([] : Bytes).length < kMaxLineLen := by decide
      rw [stored, List.forall_mem_append, forall_scanRecord_iff numbers small]
      simp

theorem forall_foldl_iff (log : List Bytes) (state : LogState) :
    (∀ stored ∈ (log.foldl (LogState.handleLine numbers) state).stored,
        stored.length < kMaxLineLen) ↔
      (∀ stored ∈ state.stored, stored.length < kMaxLineLen) ∧
        ∀ line ∈ log, ∀ text, classify line = .scanned text →
          ∀ field ∈ fields numbers text, field.length < kMaxLineLen := by
  induction log generalizing state with
  | nil => simp
  | cons line log ih =>
      rw [List.foldl_cons, ih, forall_handleLine_iff, List.forall_mem_cons, and_assoc]

/-! ## The tables -/

/-- The line leaves the tables as they are: it is not read, or has a record for which there
is nothing to do. -/
def Harmless (numbers : NumberScanner) (state : LogState) (line : Bytes) : Prop :=
  match classify line with
  | .skipped => True
  | .rebooted => state.mapData = (fun _ => none) ∧ state.maps = []
  | .scanned text => ∀ record ∈ (scanRecord numbers text).1,
      let slot := state.mapData (pairId record.pair)
      assemble slot record = slot ∧ (record.kind = .c → slot = none)

theorem sameTables_handleRecord_iff (state : LogState) (record : Record) :
    SameTables (state.handleRecord record) state ↔
      assemble (state.mapData (pairId record.pair)) record = state.mapData (pairId record.pair) ∧
        (record.kind = .c → state.mapData (pairId record.pair) = none) := by
  have maps := handleRecord_maps state record
  have mapData := handleRecord_mapData state record
  constructor
  · rintro ⟨sameData, sameMaps⟩
    have slot := mapData.symm.trans sameData
    rw [Logic.Slots.change_eq_self_iff] at slot
    refine ⟨slot, fun last => ?_⟩
    rw [sameMaps, List.self_eq_append_right, emitted, if_pos last, slot] at maps
    exact Option.toList_eq_nil_iff.mp maps
  · rintro ⟨slot, unknown⟩
    refine ⟨mapData.trans (Logic.Slots.change_eq_self_iff.mpr slot), ?_⟩
    rw [maps, emitted, slot]
    split
    · rename_i last
      rw [unknown last]
      exact List.append_nil _
    · exact List.append_nil _

theorem sameTables_handleLine_iff (state : LogState) (line : Bytes) :
    SameTables (state.handleLine numbers line) state ↔ Harmless numbers state line := by
  rw [Harmless, LogState.handleLine]
  cases classify line with
  | skipped => exact iff_of_true ⟨rfl, rfl⟩ trivial
  | rebooted =>
      constructor
      · rintro ⟨sameData, sameMaps⟩
        exact ⟨sameData.symm, sameMaps.symm⟩
      · rintro ⟨noData, noMaps⟩
        exact ⟨noData.symm, noMaps.symm⟩
  | scanned text =>
      dsimp only
      cases (scanRecord numbers text).1 with
      | none => exact iff_of_true ⟨rfl, rfl⟩ fun _ member => absurd member (Option.not_mem_none _)
      | some record =>
          have step := sameTables_handleRecord_iff
            { state with stored := state.stored ++ (scanRecord numbers text).2 } record
          simp only [Option.mem_def, Option.some.injEq, forall_eq']
          rw [← step]
          exact ⟨fun same => ⟨same.mapData, same.maps⟩, fun same => ⟨same.mapData, same.maps⟩⟩

/-- Every line that is too long leaves the tables as it finds them. -/
def LongLinesInert (numbers : NumberScanner) (maps : List LoadMap) (file : Bytes) : Prop :=
  ∀ before line after, lines file = before ++ line :: after → kMaxLineLen < line.length →
    SameTables ((readLines numbers maps before).handleLine numbers line)
      (readLines numbers maps before)

/-- The table is the same without the lines that are too long. -/
def LongLinesIgnored (numbers : NumberScanner) (maps : List LoadMap) (file : Bytes) : Prop :=
  (readLines numbers maps (lines file)).maps =
    (readLines numbers maps ((lines file).filter (·.length ≤ kMaxLineLen))).maps

theorem SameTables.step {state other : LogState} (same : SameTables state other) (line : Bytes) :
    SameTables (state.handleLine numbers line) (other.handleLine numbers line) := by
  rw [LogState.handleLine, LogState.handleLine]
  cases classify line with
  | skipped => exact same
  | rebooted => exact ⟨rfl, rfl⟩
  | scanned text =>
      dsimp only
      cases (scanRecord numbers text).1 with
      | none => exact ⟨same.mapData, same.maps⟩
      | some record =>
          have stored : SameTables { state with stored := state.stored ++ (scanRecord numbers text).2 }
              { other with stored := other.stored ++ (scanRecord numbers text).2 } :=
            ⟨same.mapData, same.maps⟩
          exact stored.handleRecord record

theorem sameTables_filter {maps : List LoadMap} {log : List Bytes}
    (inert : ∀ before line after, log = before ++ line :: after → kMaxLineLen < line.length →
      SameTables ((readLines numbers maps before).handleLine numbers line)
        (readLines numbers maps before)) :
    SameTables (readLines numbers maps log)
      (readLines numbers maps (log.filter (·.length ≤ kMaxLineLen))) := by
  -- the tables at a line are those of the lines before it, so the induction is on the end
  induction log using List.reverseRecOn with
  | nil => exact ⟨rfl, rfl⟩
  | append_singleton log line ih =>
      have earlier := ih fun before other after split => inert before other (after ++ [line]) (by
        rw [split, List.append_assoc, List.cons_append])
      rw [readLines, List.foldl_append, List.filter_append]
      by_cases long : kMaxLineLen < line.length
      · have last : SameTables ((readLines numbers maps log).handleLine numbers line) _ :=
          inert log line [] rfl long
        have dropped : [line].filter (·.length ≤ kMaxLineLen) = [] := by
          simpa using long
        rw [dropped, List.append_nil]
        exact ⟨last.mapData.trans earlier.mapData, last.maps.trans earlier.maps⟩
      · have kept : [line].filter (·.length ≤ kMaxLineLen) = [line] := by
          simpa using long
        rw [kept, readLines, List.foldl_append]
        exact earlier.step line

end Lines

/-- The buffers are safe exactly if, on every line that comes to be scanned, the fields are
short enough. Lines that are too long leave the tables alone exactly if each of them is
harmless where it stands, and then the table is as it would be without them. -/
theorem fieldsFit_iff_short (numbers : NumberScanner) (maps : List LoadMap) (file : Bytes) :
    (FieldsFit numbers maps file ↔ ∀ line ∈ lines file, ∀ text, classify line = .scanned text →
      ∀ field ∈ fields numbers text, field.length < kMaxLineLen) ∧
    (LongLinesInert numbers maps file ↔ ∀ before line after, lines file = before ++ line :: after →
      kMaxLineLen < line.length → Harmless numbers (readLines numbers maps before) line) ∧
    (LongLinesInert numbers maps file → LongLinesIgnored numbers maps file) := by
  refine ⟨?_, ?_, fun inert => (sameTables_filter inert).maps⟩
  · rw [FieldsFit, readLines, forall_foldl_iff]
    exact and_iff_right nofun
  · simp only [LongLinesInert, sameTables_handleLine_iff]

/-- A record of a line of more than 1024 characters, most of them blanks, and the record
that completes it. -/
def longRecord : Bytes :=
  ascii "x@trace_load: 1:1a" ++ List.replicate 1010 (chr ' ') ++
    ascii "0x1000 0x1000 0x2000\nx@trace_load: 1:1c n s"

/-- A line of 1024 characters is too long for the first buffer, as the NUL goes behind it,
and a longer one gets into the table. -/
theorem long_lines_read :
    ¬ FieldsFit .simple [] (List.replicate kMaxLineLen (chr 'x')) ∧
      ¬ LongLinesIgnored .simple [] longRecord := by
  unfold FieldsFit LongLinesIgnored
  decide +kernel

end Gdbserver.Util
