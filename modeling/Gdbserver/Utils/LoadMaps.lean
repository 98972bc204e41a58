import Gdbserver.Foundation.Scanf
import Gdbserver.Logic.Delimited

/-!
# Load maps

The table of load maps that is read from a log (`load-maps.cc`). The dynamic
linker writes three records for an object, of the kinds `a`, `b` and `c`, each
on a line of its own. They are put together under a number made of the process
id and the sequence number.
-/

set_option autoImplicit false

namespace Gdbserver.Util

open Scanf

structure LoadMap where
  pid : UInt64
  baseAddr : UInt64
  loadAddr : UInt64
  endAddr : UInt64
  name : Bytes
  soName : Bytes
  buildId : Bytes
  deriving DecidableEq, Repr

def kMaxLineLen : Nat := 1024

/-! ## Lines -/

/-- The lines as `getline` returns them, each with the newline that ends it. -/
def lines : Bytes → List Bytes
  | [] => []
  | char :: rest =>
      if char = chr '\n' then [char] :: lines rest
      else
        match lines rest with
        | [] => [[char]]
        | line :: later => (char :: line) :: later

def strlen (line : Bytes) : Nat := (line.takeWhile (· ≠ 0)).length

def stripNewline (line : Bytes) : Bytes :=
  if line.getLast? = some (chr '\n') then line.dropLast else line

/-- `strstr` finds the text. -/
def contains (text : Bytes) : Bytes → Bool
  | [] => text.isEmpty
  | char :: rest => text.isPrefixOf (char :: rest) || contains text rest

inductive Line where
  | skipped
  | rebooted
  | scanned (text : Bytes)
  deriving DecidableEq

/-- The tests in front of the formats. A line that is too long is only logged. -/
def classify (line : Bytes) : Line :=
  -- embedded NULs
  if strlen line ≠ line.length then .skipped
  else
    let text := stripNewline line
    if text = ascii "\n" then .skipped
    else if text.head? = some (chr '#') then .skipped
    else if contains (ascii "welcome to lk/MP") text then .rebooted
    else .scanned text

/-! ## Records -/

inductive Record where
  | a (pid : UInt64) (seqno : UInt32) (baseAddr loadAddr endAddr : UInt64)
  | b (pid : UInt64) (seqno : UInt32) (buildId : Bytes)
  | c (pid : UInt64) (seqno : UInt32) (name soName : Bytes)
  deriving DecidableEq, Repr

/-- `%[^@]@trace_load: %lu:%u`, which every format starts with. -/
def traceLoad : List Directive :=
  .excluding (chr '@') :: (plain "@trace_load: " ++ (.number .k10 :: (plain ":" ++ [.number .k10])))

/-- `a 0x%lx 0x%lx 0x%lx` -/
def formatA : List Directive :=
  traceLoad ++ (plain "a 0x" ++ (.number .k16 :: (plain " 0x" ++ (.number .k16 ::
    (plain " 0x" ++ [.number .k16])))))

/-- `b %s` -/
def formatB : List Directive := traceLoad ++ (plain "b " ++ [.word])

/-- `c %s %s` -/
def formatC : List Directive := traceLoad ++ (plain "c " ++ (.word :: (plain " " ++ [.word])))

/-- All six items have been stored. The sequence number keeps 32 bits. -/
def recordA : List Stored → Option Record
  | [.text _, .number pid, .number seqno, .number baseAddr, .number loadAddr, .number endAddr] =>
      some (.a pid seqno.toUInt32 baseAddr loadAddr endAddr)
  | _ => none

def recordB : List Stored → Option Record
  | [.text _, .number pid, .number seqno, .text buildId] => some (.b pid seqno.toUInt32 buildId)
  | _ => none

def recordC : List Stored → Option Record
  | [.text _, .number pid, .number seqno, .text name, .text soName] =>
      some (.c pid seqno.toUInt32 name soName)
  | _ => none

/-- The formats are tried in turn. The strings are those that any of them has
stored. -/
def scanRecord (numbers : NumberScanner) (text : Bytes) : Option Record × List Bytes :=
  let first := scan numbers formatA text
  match recordA first with
  | some record => (some record, texts first)
  | none =>
      let second := scan numbers formatB text
      match recordB second with
      | some record => (some record, texts first ++ texts second)
      | none =>
          let third := scan numbers formatC text
          (recordC third, texts first ++ texts second ++ texts third)

/-- `GET_ENTRY_ID` -/
def entryId (pid : UInt64) (seqno : UInt32) : UInt64 := (pid <<< 8) + seqno.toUInt64

/-! ## The table -/

/-- The entries under construction, the table, and the strings that have been
stored into the buffers. -/
structure LogState where
  mapData : UInt64 → Option LoadMap
  maps : List LoadMap
  stored : List Bytes

def LogState.init (maps : List LoadMap) : LogState := ⟨fun _ => none, maps, []⟩

def LogState.put (state : LogState) (id : UInt64) (entry : LoadMap) : LogState :=
  { state with mapData := Function.update state.mapData id (some entry) }

def LogState.addLoadMap (state : LogState) (map : LoadMap) : LogState :=
  { state with maps := state.maps ++ [map] }

def LogState.handleRecord (state : LogState) : Record → LogState
  | .a pid seqno baseAddr loadAddr endAddr =>
      let id := entryId pid seqno
      match state.mapData id with
      -- "Already have map entry"
      | some _ => state
      | none => state.put id ⟨pid, baseAddr, loadAddr, endAddr, [], [], []⟩
  | .b pid seqno buildId =>
      let id := entryId pid seqno
      match state.mapData id with
      -- "Missing entry (A record)", as below
      | none => state
      | some entry => state.put id { entry with buildId := buildId }
  | .c pid seqno name soName =>
      let id := entryId pid seqno
      match state.mapData id with
      | none => state
      | some entry =>
          -- the entry stays where it is, also when it is complete
          let entry := { entry with name := name, soName := soName }
          (state.put id entry).addLoadMap entry

def LogState.handleLine (numbers : NumberScanner) (state : LogState) (line : Bytes) : LogState :=
  match classify line with
  | .skipped => state
  | .rebooted => { state with mapData := fun _ => none, maps := [] }
  | .scanned text =>
      let result := scanRecord numbers text
      -- the buffers keep what a format has stored before it fails
      let state := { state with stored := state.stored ++ result.2 }
      match result.1 with
      | none => state
      | some record => state.handleRecord record

def readLines (numbers : NumberScanner) (maps : List LoadMap) (log : List Bytes) : LogState :=
  log.foldl (LogState.handleLine numbers) (.init maps)

/-- The file is `none` if it cannot be opened. -/
def readLogListenerOutput (numbers : NumberScanner) (maps : List LoadMap) :
    Option Bytes → Bool × List LoadMap
  | none => (false, maps)
  | some file => (true, (readLines numbers maps (lines file)).maps)

def LoadMap.Covers (map : LoadMap) (pid addr : UInt64) : Prop :=
  pid = map.pid ∧ map.loadAddr ≤ addr ∧ addr < map.endAddr

instance (map : LoadMap) (pid addr : UInt64) : Decidable (map.Covers pid addr) :=
  inferInstanceAs (Decidable (_ ∧ _ ∧ _))

def lookupLoadMap (maps : List LoadMap) (pid addr : UInt64) : Option LoadMap :=
  maps.find? (·.Covers pid addr)

/-- The one map that covers the address is found, wherever it is in the table. -/
theorem lookupLoadMap_eq_some {maps : List LoadMap} {pid addr : UInt64} {map : LoadMap}
    (member : map ∈ maps) (covers : map.Covers pid addr)
    (unique : ∀ other ∈ maps, other.Covers pid addr → other = map) :
    lookupLoadMap maps pid addr = some map := by
  cases found : lookupLoadMap maps pid addr with
  | none =>
      have uncovered := List.find?_eq_none.mp found map member
      exact absurd (decide_eq_true covers) uncovered
  | some other =>
      rw [lookupLoadMap] at found
      have covered : other.Covers pid addr := by simpa using List.find?_some found
      rw [unique other (List.mem_of_find?_eq_some found) covered]

/-! ## How lines are cut -/

section Lines

variable {line text : Bytes}

theorem lines_cons_of_ne {char : UInt8} (different : char ≠ chr '\n') (rest : Bytes) :
    lines (char :: rest) =
      (char :: (lines rest).headD []) :: (lines rest).tail := by
  rw [lines, if_neg different]
  cases lines rest <;> rfl

theorem lines_append (clear : chr '\n' ∉ line) (rest : Bytes) :
    lines (line ++ chr '\n' :: rest) = (line ++ [chr '\n']) :: lines rest := by
  induction line with
  | nil => simp [lines]
  | cons char line ih =>
      have different : char ≠ chr '\n' := fun same => clear (same ▸ List.mem_cons_self)
      have later := ih fun member => clear (List.mem_cons_of_mem char member)
      rw [List.cons_append, lines_cons_of_ne different, later]
      rfl

theorem stripNewline_append (line : Bytes) : stripNewline (line ++ [chr '\n']) = line := by
  rw [stripNewline, if_pos (by simp), List.dropLast_concat]

theorem strlen_of_clear (clear : 0 ∉ line) : strlen line = line.length := by
  rw [strlen, Logic.Delimited.takeWhile_of_clear clear]

theorem contains_of_absent {char : UInt8} {pattern : Bytes} (absent : char ∉ text) :
    contains (char :: pattern) text = false := by
  induction text with
  | nil => rfl
  | cons first text ih =>
      have different : char ≠ first := fun same => absent (same ▸ List.mem_cons_self)
      have later := ih fun member => absent (List.mem_cons_of_mem first member)
      simp [contains, List.isPrefixOf, later, different]

structure IsText (text : Bytes) : Prop where
  nul : 0 ∉ text
  newline : chr '\n' ∉ text
  hash : text.head? ≠ some (chr '#')
  welcome : contains (ascii "welcome to lk/MP") text = false

theorem IsText.classify (isText : IsText text) (strlenLine : strlen line = line.length)
    (stripped : stripNewline line = text) : classify line = .scanned text := by
  have notNewline : text ≠ ascii "\n" := by
    intro same
    apply isText.newline
    rw [same]
    decide
  simp [Util.classify, strlenLine, stripped, notNewline, isText.hash, isText.welcome]

theorem IsText.classify_line (isText : IsText text) :
    Util.classify (text ++ [chr '\n']) = .scanned text := by
  apply isText.classify _ (stripNewline_append text)
  apply strlen_of_clear
  intro member
  cases List.mem_append.mp member with
  | inl inText => exact isText.nul inText
  | inr newline => exact absurd (List.mem_singleton.mp newline) (by decide)

end Lines

end Gdbserver.Util
