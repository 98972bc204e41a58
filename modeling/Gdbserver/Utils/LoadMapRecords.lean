import Gdbserver.Logic.Slots
import Gdbserver.Utils.LoadMaps
import Mathlib.Data.List.Induction
import Mathlib.Data.List.Infix

/-!
# Load maps from interleaved records

What the records of one object become when those of others stand between them.
Each object has its own slot as far as the numbers of their pairs of process id
and sequence number differ.
-/

set_option autoImplicit false

namespace Gdbserver.Util

open Scanf

/-! ## Records of one pair -/

inductive RecordKind where
  | a
  | b
  | c
  deriving DecidableEq

namespace Record

def kind : Record → RecordKind
  | .a .. => .a
  | .b .. => .b
  | .c .. => .c

def pair : Record → UInt64 × UInt32
  | .a pid seqno .. => (pid, seqno)
  | .b pid seqno _ => (pid, seqno)
  | .c pid seqno .. => (pid, seqno)

end Record

def pairId (pair : UInt64 × UInt32) : UInt64 := entryId pair.1 pair.2

def ofPair (pair : UInt64 × UInt32) (records : List Record) : List Record :=
  records.filter (·.pair = pair)

/-- Each pair has its records at most once each and in order. A log that is cut
off may lack the last ones. -/
def InOrder (records : List Record) : Prop :=
  ∀ pair, (ofPair pair records).map Record.kind <+: [.a, .b, .c]

/-- The object that three records describe. -/
def objectOf : List Record → Option LoadMap
  | [.a pid _ baseAddr loadAddr endAddr, .b _ _ buildId, .c _ _ name soName] =>
      some ⟨pid, baseAddr, loadAddr, endAddr, name, soName, buildId⟩
  | _ => none

/-- The objects all three records of which are there, in the order of their
last ones. -/
def objects (records : List Record) : List LoadMap :=
  (records.filter (·.kind = .c)).filterMap fun record => objectOf (ofPair record.pair records)

/-! ## One record -/

/-- What a record makes of the entry in its slot. -/
def assemble : Option LoadMap → Record → Option LoadMap
  | none, .a pid _ baseAddr loadAddr endAddr => some ⟨pid, baseAddr, loadAddr, endAddr, [], [], []⟩
  | some entry, .a .. => some entry
  | some entry, .b _ _ buildId => some { entry with buildId := buildId }
  | some entry, .c _ _ name soName => some { entry with name := name, soName := soName }
  | none, _ => none

def emitted (slot : Option LoadMap) (record : Record) : List LoadMap :=
  if record.kind = .c then (assemble slot record).toList else []

section Steps

variable (state : LogState) (record : Record)

theorem handleRecord_mapData : (state.handleRecord record).mapData =
    Logic.Slots.change (fun record => pairId record.pair) assemble state.mapData record := by
  cases record with
  | a pid seqno baseAddr loadAddr endAddr =>
      cases slot : state.mapData (entryId pid seqno) with
      | none =>
          simp [LogState.handleRecord, LogState.put, Logic.Slots.change, pairId, Record.pair, slot,
            assemble]
      | some entry =>
          rw [Logic.Slots.change_eq_self_iff.mpr (by simp [pairId, Record.pair, slot, assemble])]
          simp [LogState.handleRecord, slot]
  | b pid seqno buildId =>
      cases slot : state.mapData (entryId pid seqno) with
      | none =>
          rw [Logic.Slots.change_eq_self_iff.mpr (by simp [pairId, Record.pair, slot, assemble])]
          simp [LogState.handleRecord, slot]
      | some entry =>
          simp [LogState.handleRecord, LogState.put, Logic.Slots.change, pairId, Record.pair, slot,
            assemble]
  | c pid seqno name soName =>
      cases slot : state.mapData (entryId pid seqno) with
      | none =>
          rw [Logic.Slots.change_eq_self_iff.mpr (by simp [pairId, Record.pair, slot, assemble])]
          simp [LogState.handleRecord, slot]
      | some entry =>
          simp [LogState.handleRecord, LogState.put, LogState.addLoadMap, Logic.Slots.change, pairId,
            Record.pair, slot, assemble]

theorem handleRecord_maps : (state.handleRecord record).maps =
    state.maps ++ emitted (state.mapData (pairId record.pair)) record := by
  cases record with
  | a pid seqno baseAddr loadAddr endAddr =>
      cases slot : state.mapData (entryId pid seqno) <;>
        simp [LogState.handleRecord, slot, emitted, Record.kind, LogState.put]
  | b pid seqno buildId =>
      cases slot : state.mapData (entryId pid seqno) <;>
        simp [LogState.handleRecord, slot, emitted, Record.kind, LogState.put]
  | c pid seqno name soName =>
      cases slot : state.mapData (entryId pid seqno) <;>
        simp [LogState.handleRecord, slot, emitted, Record.kind, Record.pair, pairId, assemble,
          LogState.put, LogState.addLoadMap]

end Steps

/-! ## All records -/

section Runs

variable {records : List Record} {record : Record} {pair : UInt64 × UInt32}

theorem foldl_mapData (state : LogState) (records : List Record) :
    (records.foldl LogState.handleRecord state).mapData =
      records.foldl (Logic.Slots.change (fun record => pairId record.pair) assemble)
        state.mapData := by
  induction records generalizing state with
  | nil => rfl
  | cons record records ih => rw [List.foldl_cons, List.foldl_cons, ih, handleRecord_mapData]

theorem slot_of_injOn {pairs : Set (UInt64 × UInt32)} (injective : Set.InjOn pairId pairs)
    (within : ∀ record ∈ records, record.pair ∈ pairs) (member : pair ∈ pairs)
    (maps : List LoadMap) :
    (records.foldl LogState.handleRecord (.init maps)).mapData (pairId pair) =
      (ofPair pair records).foldl assemble none := by
  rw [foldl_mapData, Logic.Slots.foldl_change, Logic.Slots.filter_code injective within member]
  rfl

theorem ofPair_append (pair : UInt64 × UInt32) (records later : List Record) :
    ofPair pair (records ++ later) = ofPair pair records ++ ofPair pair later :=
  List.filter_append ..

theorem InOrder.of_append {later : List Record} (order : InOrder (records ++ later)) :
    InOrder records := by
  intro pair
  have whole := order pair
  rw [ofPair_append, List.map_append] at whole
  exact (List.prefix_append _ _).trans whole

theorem ofPair_last (records : List Record) (record : Record) :
    ofPair record.pair (records ++ [record]) = ofPair record.pair records ++ [record] := by
  rw [ofPair_append]
  simp [ofPair]

/-- Where a record of the last kind is, the records of its pair are all there. -/
theorem InOrder.complete (order : InOrder records) (member : record ∈ records)
    (last : record.kind = .c) :
    (ofPair record.pair records).map Record.kind = [.a, .b, .c] := by
  have present : RecordKind.c ∈ (ofPair record.pair records).map Record.kind := by
    apply List.mem_map.mpr
    exact ⟨record, List.mem_filter.mpr ⟨member, by simp⟩, last⟩
  have shown : (ofPair record.pair records).map Record.kind ∈
      ([.a, .b, .c] : List RecordKind).inits := (List.mem_inits _ _).mpr (order record.pair)
  simp only [List.inits, List.map_cons, List.map_nil, List.mem_cons, List.not_mem_nil,
    or_false] at shown
  rcases shown with none | one | two | three
  · rw [none] at present
    cases present
  · rw [one] at present
    exact absurd present (by decide)
  · rw [two] at present
    exact absurd present (by decide)
  · exact three

/-- The last record of a pair finds what the first two have made. -/
theorem emitted_of_complete {own : List Record} (last : record.kind = .c)
    (complete : (own ++ [record]).map Record.kind = [.a, .b, .c]) :
    emitted (own.foldl assemble none) record = (objectOf (own ++ [record])).toList := by
  have two : own.map Record.kind = [.a, .b] := by
    have split : own.map Record.kind ++ [record.kind] = [.a, .b] ++ [.c] := by simpa using complete
    exact (List.append_inj' split rfl).1
  obtain ⟨first, _, rfl, kindA, more⟩ := List.map_eq_cons_iff.mp two
  obtain ⟨second, _, rfl, kindB, none⟩ := List.map_eq_cons_iff.mp more
  cases List.map_eq_nil_iff.mp none
  cases first with
  | b => cases kindA
  | c => cases kindA
  | a =>
      cases second with
      | a => cases kindB
      | c => cases kindB
      | b =>
          cases record with
          | a => cases last
          | b => cases last
          | c => rfl

theorem objects_append (order : InOrder (records ++ [record])) :
    objects (records ++ [record]) = objects records ++
      if record.kind = .c then (objectOf (ofPair record.pair records ++ [record])).toList
      else [] := by
  -- A pair with its last record has all three, so that none can be added to it.
  have earlier : ∀ other ∈ records.filter (·.kind = .c),
      objectOf (ofPair other.pair (records ++ [record])) = objectOf (ofPair other.pair records) := by
    intro other member
    obtain ⟨present, kind⟩ := List.mem_filter.mp member
    have before := order.of_append.complete present (of_decide_eq_true kind)
    have after := order.complete (List.mem_append_left _ present) (of_decide_eq_true kind)
    have lengths : (ofPair other.pair records).length =
        (ofPair other.pair (records ++ [record])).length := by
      calc (ofPair other.pair records).length
          = ((ofPair other.pair records).map Record.kind).length := (List.length_map _).symm
        _ = ((ofPair other.pair (records ++ [record])).map Record.kind).length := by
            rw [before, after]
        _ = (ofPair other.pair (records ++ [record])).length := List.length_map _
    rw [ofPair_append, List.length_append] at lengths
    have none : ofPair other.pair [record] = [] := List.eq_nil_of_length_eq_zero (by omega)
    rw [ofPair_append, none, List.append_nil]
  rw [objects, List.filter_append, List.filterMap_append, List.filterMap_congr earlier]
  congr 1
  by_cases last : record.kind = .c
  · rw [List.filter_cons_of_pos (by simpa using last), if_pos last, ← ofPair_last]
    cases own : objectOf (ofPair record.pair (records ++ [record])) <;> simp [own]
  · rw [List.filter_cons_of_neg (by simpa using last), if_neg last]
    rfl

theorem foldl_maps {pairs : Set (UInt64 × UInt32)} (injective : Set.InjOn pairId pairs)
    (maps : List LoadMap) (within : ∀ record ∈ records, record.pair ∈ pairs)
    (order : InOrder records) :
    (records.foldl LogState.handleRecord (.init maps)).maps = maps ++ objects records := by
  -- The invariant speaks about what has been read, so the induction is on the end.
  induction records using List.reverseRecOn with
  | nil => simp [LogState.init, objects]
  | append_singleton records record ih =>
      have earlier : ∀ other ∈ records, other.pair ∈ pairs := fun other member =>
        within other (List.mem_append_left _ member)
      have own : record.pair ∈ pairs := within record (by simp)
      have slot := slot_of_injOn injective earlier own maps
      rw [List.foldl_append, List.foldl_cons, List.foldl_nil, handleRecord_maps, slot,
        ih earlier order.of_append, objects_append order, List.append_assoc]
      by_cases last : record.kind = .c
      · have complete := order.complete (List.mem_append_right _ List.mem_cons_self) last
        rw [ofPair_last] at complete
        rw [emitted_of_complete last complete, if_pos last]
      · rw [emitted, if_neg last, if_neg last]

end Runs

/-! ## The records of a log -/

section Logs

variable {numbers : NumberScanner}

def lineRecord (numbers : NumberScanner) (line : Bytes) : Option Record :=
  match classify line with
  | .scanned text => (scanRecord numbers text).1
  | _ => none

def logRecords (numbers : NumberScanner) (file : Bytes) : List Record :=
  (lines file).filterMap (lineRecord numbers)

/-- The same entries and the same table, whatever has been stored into the buffers. -/
structure SameTables (state other : LogState) : Prop where
  mapData : state.mapData = other.mapData
  maps : state.maps = other.maps

theorem SameTables.handleRecord {state other : LogState} (same : SameTables state other)
    (record : Record) : SameTables (state.handleRecord record) (other.handleRecord record) where
  mapData := by rw [handleRecord_mapData, handleRecord_mapData, same.mapData]
  maps := by rw [handleRecord_maps, handleRecord_maps, same.mapData, same.maps]

theorem SameTables.handleLine (numbers : NumberScanner) {state other : LogState}
    (same : SameTables state other) {line : Bytes} (noReboot : classify line ≠ .rebooted) :
    SameTables (state.handleLine numbers line)
      ((lineRecord numbers line).toList.foldl LogState.handleRecord other) := by
  cases kind : classify line with
  | skipped => simpa [LogState.handleLine, lineRecord, kind] using same
  | rebooted => exact absurd kind noReboot
  | scanned text =>
      have stored : SameTables { state with stored := state.stored ++ (scanRecord numbers text).2 }
          other := ⟨same.mapData, same.maps⟩
      cases found : (scanRecord numbers text).1 with
      | none => simpa [LogState.handleLine, lineRecord, kind, found] using stored
      | some record =>
          simpa [LogState.handleLine, lineRecord, kind, found] using stored.handleRecord record

/-- Lines without a record leave the tables alone. -/
theorem SameTables.foldl {state other : LogState} (same : SameTables state other)
    {log : List Bytes} (noReboot : ∀ line ∈ log, classify line ≠ .rebooted) :
    SameTables (log.foldl (LogState.handleLine numbers) state)
      ((log.filterMap (lineRecord numbers)).foldl LogState.handleRecord other) := by
  induction log generalizing state other with
  | nil => exact same
  | cons line log ih =>
      have step := same.handleLine numbers (noReboot line List.mem_cons_self)
      have later := ih step fun other member => noReboot other (List.mem_cons_of_mem line member)
      rw [← List.foldl_append] at later
      rw [List.foldl_cons]
      cases found : lineRecord numbers line with
      | none =>
          rw [List.filterMap_cons_none found]
          simpa [found] using later
      | some record =>
          rw [List.filterMap_cons_some found]
          simpa [found] using later

theorem readLines_maps (numbers : NumberScanner) (maps : List LoadMap) {log : List Bytes}
    (noReboot : ∀ line ∈ log, classify line ≠ .rebooted) :
    (readLines numbers maps log).maps =
      ((log.filterMap (lineRecord numbers)).foldl LogState.handleRecord (.init maps)).maps := by
  have start : SameTables (.init maps) (.init maps) := ⟨rfl, rfl⟩
  exact (start.foldl noReboot).maps

/-- Where the numbers of the pairs differ, the objects are added to the table. -/
theorem readLog_of_injOn {pairs : Set (UInt64 × UInt32)} (injective : Set.InjOn pairId pairs)
    (maps : List LoadMap) {file : Bytes} (noReboot : ∀ line ∈ lines file, classify line ≠ .rebooted)
    (within : ∀ record ∈ logRecords numbers file, record.pair ∈ pairs)
    (order : InOrder (logRecords numbers file)) :
    readLogListenerOutput numbers maps (some file) =
      (true, maps ++ objects (logRecords numbers file)) := by
  rw [readLogListenerOutput, readLines_maps numbers maps noReboot]
  exact congrArg (Prod.mk true) (foldl_maps injective maps within order)

/-- Process ids and sequence numbers that fit side by side. -/
def SmallPairs : Set (UInt64 × UInt32) :=
  { pair | pair.1.toNat < 2 ^ 56 ∧ pair.2.toNat < 2 ^ 8 }

theorem pairId_toNat {pair : UInt64 × UInt32} (small : pair ∈ SmallPairs) :
    (pairId pair).toNat = pair.1.toNat * 256 + pair.2.toNat := by
  obtain ⟨pid, seqno⟩ := small
  rw [pairId, entryId, UInt64.toNat_add, UInt64.toNat_shiftLeft, UInt32.toNat_toUInt64]
  simp only [Nat.shiftLeft_eq]
  have eight : (8 : UInt64).toNat % 64 = 8 := by decide
  rw [eight]
  omega

theorem pairId_injOn_smallPairs : Set.InjOn pairId SmallPairs := by
  intro pair small other otherSmall same
  have numbers := congrArg UInt64.toNat same
  rw [pairId_toNat small, pairId_toNat otherSmall] at numbers
  have seqno := small.2
  have otherSeqno := otherSmall.2
  apply Prod.ext
  · exact UInt64.toNat_inj.mp (by omega)
  · exact UInt32.toNat_inj.mp (by omega)

end Logs

/-! ## Printed records -/

/-- What all records start with, behind what the log puts in front of each line. -/
def printHead (stamp : Bytes) (pair : UInt64 × UInt32) (fields : Bytes) : Bytes :=
  stamp ++ (ascii "@trace_load: " ++ (digits .k10 pair.1 ++ (ascii ":" ++
    (digits .k10 pair.2.toUInt64 ++ fields))))

def printFields : Record → Bytes
  | .a _ _ baseAddr loadAddr endAddr =>
      ascii "a 0x" ++ (digits .k16 baseAddr ++ (ascii " 0x" ++ (digits .k16 loadAddr ++
        (ascii " 0x" ++ digits .k16 endAddr))))
  | .b _ _ buildId => ascii "b " ++ buildId
  | .c _ _ name soName => ascii "c " ++ (name ++ (ascii " " ++ soName))

def printRecord (stamp : Bytes) (record : Record) : Bytes :=
  printHead stamp record.pair (printFields record)

def HasWords : Record → Prop
  | .a .. => True
  | .b _ _ buildId => IsWord buildId
  | .c _ _ name soName => IsWord name ∧ IsWord soName

section Printed

variable {numbers : NumberScanner} {stamp : Bytes}

/-- The part in front is read by every format. -/
theorem scan_traceLoad (nonempty : stamp ≠ []) (clear : chr '@' ∉ stamp)
    (pair : UInt64 × UInt32) {format : List Directive} {letter : UInt8}
    (ends : endsNumber .k10 letter = true) (rest : Bytes) :
    scan numbers (traceLoad ++ format) (printHead stamp pair (letter :: rest)) =
      .text stamp :: .number pair.1 :: .number pair.2.toUInt64 ::
        scan numbers format (letter :: rest) := by
  have sign (later : Bytes) :
      ascii "@trace_load: " ++ later = chr '@' :: (ascii "trace_load: " ++ later) := rfl
  have colon : ∀ later char, (ascii ":" ++ later).head? = some char →
      endsNumber .k10 char = true := by
    intro later char first
    rw [← Option.some.inj first]
    decide
  have behind : ∀ char, (letter :: rest).head? = some char → endsNumber .k10 char = true := by
    intro char first
    rw [← Option.some.inj first]
    exact ends
  simp only [traceLoad, printHead, List.cons_append, List.append_assoc, List.nil_append]
  rw [sign, scan_excluding nonempty clear, ← sign,
    scan_plain "@trace_load: " (by decide) (startsVisibly_digits _ _ _),
    scan_number .k10 pair.1 (colon _),
    scan_plain ":" (by decide) (startsVisibly_digits _ _ _),
    scan_number .k10 pair.2.toUInt64 behind]

theorem scan_formatA (nonempty : stamp ≠ []) (clear : chr '@' ∉ stamp) (pid : UInt64)
    (seqno : UInt32) (baseAddr loadAddr endAddr : UInt64) :
    scan numbers formatA (printRecord stamp (.a pid seqno baseAddr loadAddr endAddr)) =
      [.text stamp, .number pid, .number seqno.toUInt64, .number baseAddr, .number loadAddr,
        .number endAddr] := by
  have letter (later : Bytes) : ascii "a 0x" ++ later = chr 'a' :: (ascii " 0x" ++ later) := rfl
  have blank : ∀ later char, (ascii " 0x" ++ later).head? = some char →
      endsNumber .k16 char = true := by
    intro later char first
    rw [← Option.some.inj first]
    decide
  have last := startsVisibly_digits .k16 endAddr []
  have final : scan numbers [.number .k16] (digits .k16 endAddr ++ []) = [.number endAddr] :=
    scan_number .k16 endAddr (by simp)
  rw [List.append_nil] at last final
  rw [formatA, printRecord, printFields, letter, scan_traceLoad nonempty clear _ (by decide),
    ← letter,
    scan_plain "a 0x" (by decide) (startsVisibly_digits _ _ _), scan_number .k16 baseAddr (blank _),
    scan_plain " 0x" (by decide) (startsVisibly_digits _ _ _), scan_number .k16 loadAddr (blank _),
    scan_plain " 0x" (by decide) last, final]
  rfl

/-- The letter behind the numbers decides whether a format goes on. -/
theorem scan_traceLoad_other (nonempty : stamp ≠ []) (clear : chr '@' ∉ stamp)
    (pair : UInt64 × UInt32) {format : List Directive} {letter other : UInt8}
    (ends : endsNumber .k10 other = true) (different : other ≠ letter) (rest : Bytes) :
    scan numbers (traceLoad ++ .literal letter :: format) (printHead stamp pair (other :: rest)) =
      [.text stamp, .number pair.1, .number pair.2.toUInt64] := by
  rw [scan_traceLoad nonempty clear pair ends, scan_literal_of_ne different]

theorem scan_formatB (nonempty : stamp ≠ []) (clear : chr '@' ∉ stamp) (pid : UInt64)
    (seqno : UInt32) {buildId : Bytes} (word : IsWord buildId) :
    scan numbers formatB (printRecord stamp (.b pid seqno buildId)) =
      [.text stamp, .number pid, .number seqno.toUInt64, .text buildId] := by
  have letter (later : Bytes) : ascii "b " ++ later = chr 'b' :: (ascii " " ++ later) := rfl
  have last := startsVisibly_append word.nonempty word.clear []
  have final : scan numbers [.word] (buildId ++ []) = [.text buildId] := scan_word word (by simp)
  rw [List.append_nil] at last final
  rw [formatB, printRecord, printFields, letter, scan_traceLoad nonempty clear _ (by decide),
    ← letter,
    scan_plain "b " (by decide) last, final]
  rfl

theorem scan_formatC (nonempty : stamp ≠ []) (clear : chr '@' ∉ stamp) (pid : UInt64)
    (seqno : UInt32) {name soName : Bytes} (word : IsWord name) (soWord : IsWord soName) :
    scan numbers formatC (printRecord stamp (.c pid seqno name soName)) =
      [.text stamp, .number pid, .number seqno.toUInt64, .text name, .text soName] := by
  have letter (later : Bytes) : ascii "c " ++ later = chr 'c' :: (ascii " " ++ later) := rfl
  have blank : ∀ later char, (ascii " " ++ later).head? = some char → isSpace char = true := by
    intro later char first
    rw [← Option.some.inj first]
    decide
  have last := startsVisibly_append soWord.nonempty soWord.clear []
  have final : scan numbers [.word] (soName ++ []) = [.text soName] := scan_word soWord (by simp)
  rw [List.append_nil] at last final
  rw [formatC, printRecord, printFields, letter, scan_traceLoad nonempty clear _ (by decide),
    ← letter,
    scan_plain "c " (by decide) (startsVisibly_append word.nonempty word.clear _),
    scan_word word (blank _), scan_plain " " (by decide) last, final]
  rfl

/-- What has been printed is read as the same record. -/
theorem scanRecord_printRecord (nonempty : stamp ≠ []) (clear : chr '@' ∉ stamp) {record : Record}
    (words : HasWords record) : (scanRecord numbers (printRecord stamp record)).1 = some record := by
  cases record with
  | a pid seqno baseAddr loadAddr endAddr =>
      simp [scanRecord, scan_formatA nonempty clear, recordA]
  | b pid seqno buildId =>
      have first : scan numbers formatA (printRecord stamp (.b pid seqno buildId)) =
          [.text stamp, .number pid, .number seqno.toUInt64] :=
        scan_traceLoad_other nonempty clear (pid, seqno) (by decide) (by decide) _
      simp [scanRecord, first, scan_formatB nonempty clear pid seqno words, recordA, recordB]
  | c pid seqno name soName =>
      have first : scan numbers formatA (printRecord stamp (.c pid seqno name soName)) =
          [.text stamp, .number pid, .number seqno.toUInt64] :=
        scan_traceLoad_other nonempty clear (pid, seqno) (by decide) (by decide) _
      have second : scan numbers formatB (printRecord stamp (.c pid seqno name soName)) =
          [.text stamp, .number pid, .number seqno.toUInt64] :=
        scan_traceLoad_other nonempty clear (pid, seqno) (by decide) (by decide) _
      simp [scanRecord, first, second, scan_formatC nonempty clear pid seqno words.1 words.2,
        recordA, recordB, recordC]

end Printed

/-! ## A log with two objects -/

section Sample

variable {numbers : NumberScanner} {pair other : UInt64 × UInt32} {address : UInt64}
  {record : Record} {records : List Record}

def sampleRecords (pair : UInt64 × UInt32) (address : UInt64) : List Record :=
  [.a pair.1 pair.2 address address address, .b pair.1 pair.2 (ascii "i"),
    .c pair.1 pair.2 (ascii "n") (ascii "s")]

def sampleLine (record : Record) : Bytes := printRecord (ascii "t") record

def sampleLog (records : List Record) : Bytes :=
  Logic.Delimited.terminated (chr '\n') (records.map sampleLine)

def sampleChar (char : UInt8) : Bool :=
  (Util.hexCharToByte char).isSome || (ascii "t@race_lod: xinsbc").contains char

theorem digits_sampleChar (base : Base) (value : UInt64) :
    ∀ char ∈ digits base value, sampleChar char = true := by
  intro char member
  simp [sampleChar, digits_isSome base value char member]

theorem ascii_sampleChar {part : String} (every : (ascii part).all sampleChar = true) :
    ∀ char ∈ ascii part, sampleChar char = true :=
  List.all_eq_true.mp every

theorem mem_sampleRecords (member : record ∈ sampleRecords pair address) :
    record = .a pair.1 pair.2 address address address ∨ record = .b pair.1 pair.2 (ascii "i") ∨
      record = .c pair.1 pair.2 (ascii "n") (ascii "s") := by
  simpa [sampleRecords] using member

theorem printFields_chars (member : record ∈ sampleRecords pair address) :
    ∀ char ∈ printFields record, sampleChar char = true := by
  have blank := ascii_sampleChar (show (ascii " 0x").all sampleChar = true by decide)
  rcases mem_sampleRecords member with rfl | rfl | rfl
  · simp only [printFields, List.forall_mem_append]
    have number := digits_sampleChar .k16 address
    exact ⟨ascii_sampleChar (by decide), number, blank, number, blank, number⟩
  · exact ascii_sampleChar (show (ascii "b i").all sampleChar = true by decide)
  · exact ascii_sampleChar (show (ascii "c n s").all sampleChar = true by decide)

theorem sampleLine_chars (member : record ∈ sampleRecords pair address) :
    ∀ char ∈ sampleLine record, sampleChar char = true := by
  simp only [sampleLine, printRecord, printHead, List.forall_mem_append]
  exact ⟨ascii_sampleChar (by decide), ascii_sampleChar (by decide), digits_sampleChar _ _,
    ascii_sampleChar (by decide), digits_sampleChar _ _, printFields_chars member⟩

theorem printFields_length (member : record ∈ sampleRecords pair address) :
    (printFields record).length ≤ 70 := by
  rcases mem_sampleRecords member with rfl | rfl | rfl
  · have number := digits_length .k16 address
    have first : (ascii "a 0x").length = 4 := by decide
    have blank : (ascii " 0x").length = 3 := by decide
    simp only [printFields, List.length_append, first, blank]
    omega
  · exact (show (ascii "b i").length ≤ 70 by decide)
  · exact (show (ascii "c n s").length ≤ 70 by decide)

theorem sampleLine_length (member : record ∈ sampleRecords pair address) :
    (sampleLine record).length < 1023 := by
  have fields := printFields_length member
  have pid := digits_length .k10 record.pair.1
  have seqno := digits_length .k10 record.pair.2.toUInt64
  have stamp : (ascii "t").length = 1 := by decide
  have sign : (ascii "@trace_load: ").length = 13 := by decide
  have colon : (ascii ":").length = 1 := by decide
  simp only [sampleLine, printRecord, printHead, List.length_append, stamp, sign, colon]
  omega

theorem sampleLine_isText (member : record ∈ sampleRecords pair address) :
    IsText (sampleLine record) := by
  have absent {char : UInt8} (foreign : sampleChar char = false) : char ∉ sampleLine record := by
    intro present
    rw [sampleLine_chars member char present] at foreign
    cases foreign
  constructor
  · exact absent (by decide)
  · exact absent (by decide)
  · intro hash
    exact absent (by decide) (List.mem_of_head? hash)
  · exact contains_of_absent (absent (by decide))

theorem isWord_letter {char : UInt8} (visible : isSpace char = false) : IsWord [char] where
  nonempty := List.cons_ne_nil char []
  clear _ member := List.mem_singleton.mp member ▸ visible

theorem sampleRecords_hasWords (member : record ∈ sampleRecords pair address) :
    HasWords record := by
  rcases mem_sampleRecords member with rfl | rfl | rfl
  · exact trivial
  · exact isWord_letter (by decide)
  · exact ⟨isWord_letter (by decide), isWord_letter (by decide)⟩

def Sampled (records : List Record) : Prop :=
  ∀ record ∈ records, ∃ pair address, record ∈ sampleRecords pair address

theorem lines_sampleLog (sampled : Sampled records) :
    lines (sampleLog records) = records.map fun record => sampleLine record ++ [chr '\n'] := by
  induction records with
  | nil => rfl
  | cons record records ih =>
      obtain ⟨pair, address, member⟩ := sampled record List.mem_cons_self
      have later := ih fun record member => sampled record (List.mem_cons_of_mem _ member)
      rw [sampleLog, List.map_cons, Logic.Delimited.terminated_cons,
        lines_append (sampleLine_isText member).newline, List.map_cons, ← later]
      rfl

theorem lineRecord_sampleLine (member : record ∈ sampleRecords pair address) :
    lineRecord numbers (sampleLine record ++ [chr '\n']) = some record := by
  rw [lineRecord, (sampleLine_isText member).classify_line]
  exact scanRecord_printRecord (by decide) (by decide) (sampleRecords_hasWords member)

theorem logRecords_sampleLog (sampled : Sampled records) :
    logRecords numbers (sampleLog records) = records := by
  rw [logRecords, lines_sampleLog sampled, List.filterMap_map]
  have found : ∀ record ∈ records,
      (lineRecord numbers ∘ fun record => sampleLine record ++ [chr '\n']) record = some record := by
    intro record present
    obtain ⟨pair, address, member⟩ := sampled record present
    exact lineRecord_sampleLine member
  rw [List.filterMap_congr found, List.filterMap_some]

theorem ofPair_sampleRecords (pair : UInt64 × UInt32) (address : UInt64) :
    ofPair pair (sampleRecords pair address) = sampleRecords pair address := by
  simp [ofPair, sampleRecords, Record.pair]

theorem ofPair_sampleRecords_of_ne (different : other ≠ pair) (address : UInt64) :
    ofPair other (sampleRecords pair address) = [] := by
  simp [ofPair, sampleRecords, Record.pair, Ne.symm different]

def twoSamples (pair other : UInt64 × UInt32) : List Record :=
  sampleRecords pair 0 ++ sampleRecords other 1

theorem twoSamples_sampled (pair other : UInt64 × UInt32) : Sampled (twoSamples pair other) := by
  intro record member
  cases List.mem_append.mp member with
  | inl first => exact ⟨pair, 0, first⟩
  | inr second => exact ⟨other, 1, second⟩

theorem twoSamples_inOrder (different : pair ≠ other) : InOrder (twoSamples pair other) := by
  intro one
  rw [twoSamples, ofPair_append]
  by_cases first : one = pair
  · subst first
    rw [ofPair_sampleRecords, ofPair_sampleRecords_of_ne different, List.append_nil]
    exact List.prefix_rfl
  · rw [ofPair_sampleRecords_of_ne first, List.nil_append]
    by_cases second : one = other
    · subst second
      rw [ofPair_sampleRecords]
      exact List.prefix_rfl
    · rw [ofPair_sampleRecords_of_ne second]
      exact List.nil_prefix

theorem twoSamples_objects (different : pair ≠ other) :
    (objects (twoSamples pair other)).map (·.baseAddr) = [0, 1] := by
  have first : ofPair pair (twoSamples pair other) = sampleRecords pair 0 := by
    rw [twoSamples, ofPair_append, ofPair_sampleRecords, ofPair_sampleRecords_of_ne different,
      List.append_nil]
  have second : ofPair other (twoSamples pair other) = sampleRecords other 1 := by
    rw [twoSamples, ofPair_append, ofPair_sampleRecords,
      ofPair_sampleRecords_of_ne (Ne.symm different), List.nil_append]
  have last : (twoSamples pair other).filter (·.kind = .c) =
      [.c pair.1 pair.2 (ascii "n") (ascii "s"), .c other.1 other.2 (ascii "n") (ascii "s")] := rfl
  rw [objects, last]
  simp [Record.pair, first, second, sampleRecords, objectOf]

/-- With one number for both pairs, the second object gets the addresses of the first. -/
theorem twoSamples_mixed (same : pairId pair = pairId other) :
    ((twoSamples pair other).foldl LogState.handleRecord (.init [])).maps.map (·.baseAddr) =
      [0, 0] := by
  have ids : entryId other.1 other.2 = entryId pair.1 pair.2 := same.symm
  simp [twoSamples, sampleRecords, LogState.handleRecord, LogState.init, LogState.put,
    LogState.addLoadMap, ids]

theorem twoSamples_pair {pairs : Set (UInt64 × UInt32)} (first : pair ∈ pairs)
    (second : other ∈ pairs) : ∀ record ∈ twoSamples pair other, record.pair ∈ pairs := by
  intro record member
  cases List.mem_append.mp member with
  | inl sample => rcases mem_sampleRecords sample with rfl | rfl | rfl <;> exact first
  | inr sample => rcases mem_sampleRecords sample with rfl | rfl | rfl <;> exact second

theorem sampleLog_lines (sampled : Sampled records) :
    ∀ line ∈ lines (sampleLog records), line.length < kMaxLineLen ∧ classify line ≠ .rebooted := by
  intro line present
  rw [lines_sampleLog sampled] at present
  obtain ⟨record, within, rfl⟩ := List.mem_map.mp present
  obtain ⟨pair, address, sample⟩ := sampled record within
  constructor
  · rw [List.length_append]
    exact Nat.succ_lt_succ (sampleLine_length sample)
  · rw [(sampleLine_isText sample).classify_line]
    exact Line.noConfusion

/-- Both objects come out only if their numbers differ. -/
theorem pairId_ne_of_read (different : pair ≠ other)
    (read : readLogListenerOutput numbers [] (some (sampleLog (twoSamples pair other))) =
      (true, objects (twoSamples pair other))) : pairId pair ≠ pairId other := by
  intro same
  have sampled := twoSamples_sampled pair other
  have records := readLines_maps numbers [] fun line member =>
    (sampleLog_lines sampled line member).2
  have found : (lines (sampleLog (twoSamples pair other))).filterMap (lineRecord numbers) =
      twoSamples pair other := logRecords_sampleLog sampled
  rw [found] at records
  rw [readLogListenerOutput, records] at read
  have addresses : ([0, 0] : List UInt64) = [0, 1] := by
    rw [← twoSamples_mixed same, ← twoSamples_objects different, (Prod.mk.inj read).2]
  exact absurd addresses (by decide)

end Sample

/-- Objects are put together from their own records exactly as far as their pairs
have different numbers. -/
theorem readLog_objects_iff_injOn (numbers : NumberScanner) (pairs : Set (UInt64 × UInt32)) :
    (∀ (maps : List LoadMap) (file : Bytes),
      (∀ line ∈ lines file, line.length < kMaxLineLen ∧ classify line ≠ .rebooted) →
      (∀ record ∈ logRecords numbers file, record.pair ∈ pairs) →
      InOrder (logRecords numbers file) →
        readLogListenerOutput numbers maps (some file) =
          (true, maps ++ objects (logRecords numbers file))) ↔
      Set.InjOn pairId pairs := by
  constructor
  · intro correct pair member other otherMember same
    apply Classical.byContradiction
    intro different
    -- two pairs with one number, and the log of an object of each
    have sampled := twoSamples_sampled pair other
    have read := correct [] (sampleLog (twoSamples pair other)) (sampleLog_lines sampled)
    rw [logRecords_sampleLog sampled, List.nil_append] at read
    have both := read (twoSamples_pair member otherMember) (twoSamples_inOrder different)
    exact pairId_ne_of_read different both same
  · intro injective maps file short within order
    exact readLog_of_injOn injective maps (fun line member => (short line member).2) within order

/-- The process ids 1 and 2 share a number for the sequence numbers 256 and 0. -/
def collidingLog : Bytes :=
  ascii "t@trace_load: 1:256a 0x1000 0x1000 0x2000\n" ++
  ascii "t@trace_load: 1:256b 01\n" ++
  ascii "t@trace_load: 1:256c one one.so\n" ++
  ascii "t@trace_load: 2:0a 0x5000 0x5000 0x6000\n" ++
  ascii "t@trace_load: 2:0b 02\n" ++
  ascii "t@trace_load: 2:0c two two.so\n"

theorem readLog_mixes :
    (readLogListenerOutput .simple [] (some collidingLog)).2 =
      [⟨1, 0x1000, 0x1000, 0x2000, ascii "one", ascii "one.so", ascii "01"⟩,
        ⟨1, 0x1000, 0x1000, 0x2000, ascii "two", ascii "two.so", ascii "02"⟩] ∧
    objects (logRecords .simple collidingLog) =
      [⟨1, 0x1000, 0x1000, 0x2000, ascii "one", ascii "one.so", ascii "01"⟩,
        ⟨2, 0x5000, 0x5000, 0x6000, ascii "two", ascii "two.so", ascii "02"⟩] := by
  decide +kernel

end Gdbserver.Util
