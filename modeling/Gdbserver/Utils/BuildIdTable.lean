import Gdbserver.Utils.LoadMaps

/-!
# The table of build ids

`build-ids.cc`. The table is read from text files that give a build id and a path
on every line. The loop over the lines is also that of the list of trace files
(`ReadPtListFile` of `sideband.cc`). It lets `getline` keep its buffer from line to
line, and looks at the size of the buffer where it means the length of the line.
-/

set_option autoImplicit false

namespace Gdbserver.Util

open Scanf

/-- `MAX_LINE_LEN` -/
def maxLineLen : Nat := 1024

/-- The size of the buffer behind a call of `getline`, from the number of the line, the
size before, and what the line needs with its NUL. A library may take twice as much,
and some amount to start with. -/
structure LineBuffer where
  grow : Nat → Nat → Nat → Nat
  keeps : ∀ lineno linelen need, linelen ≤ grow lineno linelen need
  fits : ∀ lineno linelen need, need ≤ grow lineno linelen need
  bounded : ∀ lineno linelen need, grow lineno linelen need ≤ max linelen (max 128 (2 * need))

/-- A library that takes as much as it needs. -/
def LineBuffer.simple : LineBuffer where
  grow _ linelen need := max linelen need
  keeps _ linelen need := Nat.le_max_left linelen need
  fits _ linelen need := Nat.le_max_right linelen need
  bounded _ linelen need := by omega

/-- The string in the buffer, without the newline that ends it. -/
def lineText (line : Bytes) : Bytes := stripNewline (line.takeWhile (· ≠ 0))

/-- The tests between the one for the length and the format. An empty line has no
newline any more. -/
def isSkipped (text : Bytes) : Bool := text == ascii "\n" || text.head? == some (chr '#')

/-- The texts that are scanned, each with the size of the buffer at that time, which is
also that of the arrays for the strings. -/
def scannedLines (buffer : LineBuffer) : Nat → Nat → List Bytes → List (Nat × Bytes)
  | _, _, [] => []
  | lineno, linelen, line :: later =>
      let linelen := buffer.grow lineno linelen (line.length + 1)
      let text := lineText line
      let rest := scannedLines buffer (lineno + 1) linelen later
      if linelen > maxLineLen then rest
      else if isSkipped text then rest
      else (linelen, text) :: rest

/-- The loop over the lines of a file. -/
def readList {α : Type} (buffer : LineBuffer) (parse : Bytes → Option α) (file : Bytes) : List α :=
  (scannedLines buffer 1 0 (lines file)).filterMap fun scanned => parse scanned.2

/-- `files` of ftl. -/
structure PathLibrary where
  getDirectoryName : Bytes → Bytes
  absolutePath : Bytes → Bytes

/-- Relative paths are converted to absolute ones. -/
def PathLibrary.resolve (library : PathLibrary) (fileDir path : Bytes) : Bytes :=
  if path.head? ≠ some (chr '/') then library.absolutePath fileDir ++ chr '/' :: path else path

structure BuildId where
  buildId : Bytes
  file : Bytes
  deriving DecidableEq, Repr

/-- `%s %s` -/
def idsFormat : List Directive := .word :: (plain " " ++ [.word])

/-- Both strings have been stored. -/
def parseIds (numbers : NumberScanner) (text : Bytes) : Option (Bytes × Bytes) :=
  match scan numbers idsFormat text with
  | [.text buildId, .text path] => some (buildId, path)
  | _ => none

def addBuildId (library : PathLibrary) (fileDir : Bytes) (entry : Bytes × Bytes) : BuildId :=
  ⟨entry.1, library.resolve fileDir entry.2⟩

/-- The file is `none` if it cannot be opened. -/
def readIdsFile (library : PathLibrary) (buffer : LineBuffer) (numbers : NumberScanner)
    (buildIds : List BuildId) (name : Bytes) : Option Bytes → Bool × List BuildId
  | none => (false, buildIds)
  | some file =>
      (true, buildIds ++ (readList buffer (parseIds numbers) file).map
        (addBuildId library (library.getDirectoryName name)))

def lookupBuildId (buildIds : List BuildId) (bid : Bytes) : Option BuildId :=
  buildIds.find? (·.buildId == bid)

/-! ## Which lines are read -/

/-- A buffer that has grown too large does not shrink. -/
theorem scannedLines_of_large (buffer : LineBuffer) (lines : List Bytes) {lineno linelen : Nat}
    (large : maxLineLen < linelen) : scannedLines buffer lineno linelen lines = [] := by
  induction lines generalizing lineno linelen with
  | nil => rfl
  | cons line later ih =>
      have still := Nat.lt_of_lt_of_le large (buffer.keeps lineno linelen (line.length + 1))
      simp only [scannedLines, still, ↓reduceIte, ih still]

/-- The texts of lines that are all looked at. -/
def listed (lines : List Bytes) : List Bytes :=
  (lines.map lineText).filter fun text => !isSkipped text

theorem listed_cons (line : Bytes) (lines : List Bytes) : listed (line :: lines) =
    if isSkipped (lineText line) then listed lines else lineText line :: listed lines := by
  cases skipped : isSkipped (lineText line) <;> simp [listed, skipped]

/-- How far the lines are looked at. The first line that is not looked at is long. -/
structure ReadTo (lines before after : List Bytes) : Prop where
  whole : lines = before ++ after
  short : ∀ line ∈ before, line.length < maxLineLen
  long : ∀ line, after.head? = some line → maxLineLen ≤ 2 * line.length

theorem scannedLines_readTo (buffer : LineBuffer) (lines : List Bytes) (lineno : Nat)
    {linelen : Nat} (small : linelen ≤ maxLineLen) : ∃ before after, ReadTo lines before after ∧
      (scannedLines buffer lineno linelen lines).map Prod.snd = listed before := by
  induction lines generalizing lineno linelen with
  | nil =>
      refine ⟨[], [], ⟨rfl, ?_, ?_⟩, rfl⟩
      · simp
      · simp
  | cons line later ih =>
      have fits := buffer.fits lineno linelen (line.length + 1)
      have bounded := buffer.bounded lineno linelen (line.length + 1)
      by_cases large : maxLineLen < buffer.grow lineno linelen (line.length + 1)
      · -- from here on nothing is looked at
        refine ⟨[], line :: later, ⟨rfl, ?_, ?_⟩, ?_⟩
        · simp
        · intro first isFirst
          cases isFirst
          simp only [maxLineLen] at large small ⊢
          omega
        · simp only [scannedLines, large, ↓reduceIte,
            scannedLines_of_large buffer later large]
          rfl
      · obtain ⟨before, after, readTo, texts⟩ :=
          ih (lineno + 1) (Nat.le_of_not_lt large)
        refine ⟨line :: before, after, ⟨?_, ?_, readTo.long⟩, ?_⟩
        · rw [readTo.whole, List.cons_append]
        · intro other member
          cases List.mem_cons.mp member with
          | inl same =>
              rw [same]
              omega
          | inr inBefore => exact readTo.short other inBefore
        · cases skipped : isSkipped (lineText line) with
          | true => simp [scannedLines, large, skipped, texts, listed_cons]
          | false => simp [scannedLines, large, skipped, texts, listed_cons]

theorem readList_readTo {α : Type} (buffer : LineBuffer) (parse : Bytes → Option α)
    (file : Bytes) : ∃ before after, ReadTo (lines file) before after ∧
      readList buffer parse file = (listed before).filterMap parse := by
  obtain ⟨before, after, readTo, texts⟩ :=
    scannedLines_readTo buffer (lines file) 1 (Nat.zero_le maxLineLen)
  refine ⟨before, after, readTo, ?_⟩
  rw [← texts, readList, List.filterMap_map]
  rfl

/-- The entries that a file adds are those of its lines up to some line. All these are
shorter than the limit, and the first line that is left out has at least half as many
bytes. What comes behind it is left out, however short. -/
theorem readIdsFile_readTo (library : PathLibrary) (buffer : LineBuffer) (numbers : NumberScanner)
    (buildIds : List BuildId) (name file : Bytes) :
    ∃ before after, ReadTo (lines file) before after ∧
      readIdsFile library buffer numbers buildIds name (some file) =
        (true, buildIds ++ ((listed before).filterMap (parseIds numbers)).map
          (addBuildId library (library.getDirectoryName name))) := by
  obtain ⟨before, after, readTo, entries⟩ := readList_readTo buffer (parseIds numbers) file
  exact ⟨before, after, readTo, by simp only [readIdsFile, entries]⟩

/-! ## The strings fit into the arrays -/

theorem lineText_length (line : Bytes) : (lineText line).length ≤ line.length := by
  have shorter := (List.takeWhile_prefix (fun char : UInt8 => decide (char ≠ 0)) (l := line)).length_le
  unfold lineText stripNewline
  split
  · rw [List.length_dropLast]
    omega
  · exact shorter

theorem scannedLines_fit (buffer : LineBuffer) (lines : List Bytes) (lineno linelen : Nat) :
    ∀ scanned ∈ scannedLines buffer lineno linelen lines,
      scanned.1 ≤ maxLineLen ∧ scanned.2.length < scanned.1 := by
  induction lines generalizing lineno linelen with
  | nil => simp [scannedLines]
  | cons line later ih =>
      intro scanned member
      have fits := buffer.fits lineno linelen (line.length + 1)
      have shorter := lineText_length line
      simp only [scannedLines] at member
      split at member
      · exact ih _ _ scanned member
      · split at member
        · exact ih _ _ scanned member
        · cases List.mem_cons.mp member with
          | inl here =>
              rw [here]
              constructor <;> simp only <;> omega
          | inr inLater => exact ih _ _ scanned inLater

/-- Whatever the file and the format, every string that is stored fits with its NUL into
an array of the size of the line buffer, and that size is below the limit. -/
theorem scannedLines_strings (buffer : LineBuffer) (numbers : NumberScanner)
    (format : List Directive) (file : Bytes) :
    ∀ scanned ∈ scannedLines buffer 1 0 (lines file), scanned.1 ≤ maxLineLen ∧
      ∀ stored ∈ texts (scan numbers format scanned.2), stored.length < scanned.1 := by
  intro scanned member
  obtain ⟨small, fits⟩ := scannedLines_fit buffer (lines file) 1 0 scanned member
  refine ⟨small, fun stored isStored => ?_⟩
  exact Nat.lt_of_le_of_lt (texts_scan_length numbers format scanned.2 stored isStored) fits

/-- A build id of four bytes and a path of three are stored in arrays of ten. -/
theorem scannedLines_strings_ids :
    texts (scan .simple idsFormat (ascii "abcd /xy")) = [ascii "abcd", ascii "/xy"] ∧
      ∀ stored ∈ texts (scan .simple idsFormat (ascii "abcd /xy")), stored.length < 10 := by
  refine ⟨by decide +kernel, ?_⟩
  have bounds := scannedLines_strings .simple .simple idsFormat
    (ascii "# ids\n\nabcd /xy\nabcde f\n") (10, ascii "abcd /xy") (by decide +kernel)
  exact bounds.2

/-! ## Printed lists are read back -/

/-- A line of a list as it is written, without its newline. -/
structure IsListLine (text : Bytes) : Prop where
  nul : 0 ∉ text
  newline : chr '\n' ∉ text
  hash : text.head? ≠ some (chr '#')
  short : 2 * (text.length + 1) < maxLineLen

theorem lines_terminated {fields : List Bytes} (clear : ∀ field ∈ fields, chr '\n' ∉ field) :
    lines (Logic.Delimited.terminated (chr '\n') fields) = fields.map (· ++ [chr '\n']) := by
  induction fields with
  | nil => rfl
  | cons field fields ih =>
      rw [List.forall_mem_cons] at clear
      rw [Logic.Delimited.terminated_cons, lines_append clear.1, ih clear.2, List.map_cons]

theorem IsListLine.lineText {text : Bytes} (line : IsListLine text) :
    lineText (text ++ [chr '\n']) = text := by
  have clear : 0 ∉ text ++ [chr '\n'] := by
    intro member
    cases List.mem_append.mp member with
    | inl inText => exact line.nul inText
    | inr last => exact absurd (List.mem_singleton.mp last) (by decide)
  rw [Util.lineText, Logic.Delimited.takeWhile_of_clear clear, stripNewline_append]

theorem IsListLine.not_skipped {text : Bytes} (line : IsListLine text) :
    isSkipped text = false := by
  have notNewline : text ≠ ascii "\n" := by
    intro same
    apply line.newline
    rw [same]
    decide
  simp [isSkipped, notNewline, line.hash]

theorem listed_terminated {fields : List Bytes} (lines : ∀ field ∈ fields, IsListLine field) :
    listed (fields.map (· ++ [chr '\n'])) = fields := by
  induction fields with
  | nil => rfl
  | cons field fields ih =>
      rw [List.forall_mem_cons] at lines
      simp [listed_cons, lines.1.lineText, lines.1.not_skipped, ih lines.2]

theorem readList_terminated {α : Type} (buffer : LineBuffer) (parse : Bytes → Option α)
    {fields : List Bytes} (isLines : ∀ field ∈ fields, IsListLine field) :
    readList buffer parse (Logic.Delimited.terminated (chr '\n') fields) =
      fields.filterMap parse := by
  obtain ⟨before, after, readTo, entries⟩ :=
    readList_readTo buffer parse (Logic.Delimited.terminated (chr '\n') fields)
  have cut := lines_terminated fun field member => (isLines field member).newline
  rw [cut] at readTo
  cases after with
  | nil =>
      have all := readTo.whole
      rw [List.append_nil] at all
      rw [entries, ← all, listed_terminated isLines]
  | cons line later =>
      -- a line that is left out would be too long
      have member : line ∈ fields.map (· ++ [chr '\n']) := by simp [readTo.whole]
      obtain ⟨field, isField, rfl⟩ := List.mem_map.mp member
      have long := readTo.long _ rfl
      have short := (isLines field isField).short
      rw [List.length_append, List.length_singleton] at long
      exact absurd long (Nat.not_le_of_lt short)

/-- A file with a line for every entry gives the entries, if every line does. -/
theorem readList_printed {α : Type} (buffer : LineBuffer) {parse : Bytes → Option α}
    {print : α → Bytes} {entries : List α} (isLines : ∀ entry ∈ entries, IsListLine (print entry))
    (parses : ∀ entry ∈ entries, parse (print entry) = some entry) :
    readList buffer parse (Logic.Delimited.terminated (chr '\n') (entries.map print)) = entries := by
  rw [readList_terminated buffer parse (List.forall_mem_map.mpr isLines), List.filterMap_map]
  exact (List.filterMap_congr parses).trans List.filterMap_some

/-- `id path` -/
def printIdsLine (entry : Bytes × Bytes) : Bytes := entry.1 ++ chr ' ' :: entry.2

structure IsIdsEntry (entry : Bytes × Bytes) : Prop where
  buildId : IsWord entry.1
  path : IsWord entry.2
  isLine : IsListLine (printIdsLine entry)

theorem parseIds_printed (numbers : NumberScanner) {entry : Bytes × Bytes}
    (isEntry : IsIdsEntry entry) : parseIds numbers (printIdsLine entry) = some entry := by
  have last := startsVisibly_append isEntry.path.nonempty isEntry.path.clear []
  have final : scan numbers [.word] (entry.2 ++ []) = [.text entry.2] :=
    scan_word isEntry.path (by simp)
  rw [List.append_nil] at last final
  have scanned : scan numbers idsFormat (printIdsLine entry) = [.text entry.1, .text entry.2] := by
    have blank : chr ' ' :: entry.2 = ascii " " ++ entry.2 := rfl
    rw [idsFormat, printIdsLine, scan_word isEntry.buildId, blank,
      scan_plain " " (by decide) last, final]
    intro char first
    cases first
    decide
  rw [parseIds, scanned]

/-- A file with a line for every entry adds these entries, in order. -/
theorem readIdsFile_printed (library : PathLibrary) (buffer : LineBuffer)
    (numbers : NumberScanner) (buildIds : List BuildId) (name : Bytes)
    {entries : List (Bytes × Bytes)} (isEntries : ∀ entry ∈ entries, IsIdsEntry entry) :
    readIdsFile library buffer numbers buildIds name
        (some (Logic.Delimited.terminated (chr '\n') (entries.map printIdsLine))) =
      (true, buildIds ++ entries.map (addBuildId library (library.getDirectoryName name))) := by
  rw [readIdsFile, readList_printed buffer (fun entry member => (isEntries entry member).isLine)
    fun entry member => parseIds_printed numbers (isEntries entry member)]

end Gdbserver.Util
