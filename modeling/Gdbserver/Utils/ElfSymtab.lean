import Gdbserver.Logic.Comparator
import Gdbserver.Utils.ElfReader

/-!
# Symbol tables

`lib/debugger-utils/elf-symtab.cc` and the sections with entries of
`elf-reader.cc`. Entry size, linked section and name offsets come from the file.
What a read beyond the end of a section's contents gives is up to the heap.
-/

set_option autoImplicit false

namespace Gdbserver

namespace Elf

open Util Logic

def shtSymtab : UInt32 := 2

def shtDynsym : UInt32 := 11

/-- `Elf64_Sym`, the fields that are used. -/
structure RawSymbol where
  stName : UInt32
  stValue : UInt64
  stSize : UInt64
  deriving DecidableEq, Repr

def RawSymbol.size : Nat := 24

def RawSymbol.decode (bytes : Bytes) : RawSymbol where
  stName := (field bytes 0 4).toUInt32
  stValue := field bytes 8 8
  stSize := field bytes 16 8

namespace SectionContents

def hasEntries (section_ : SectionContents) : Bool :=
  section_.header.shType == shtSymtab || section_.header.shType == shtDynsym

/-- `GetNumEntries`, `none` for a division by zero. -/
def getNumEntries (section_ : SectionContents) : Option Nat :=
  if section_.hasEntries then
    if section_.header.shEntsize = 0 then none
    else some (section_.header.shSize.toNat / section_.header.shEntsize.toNat)
  else some 0

def entryOffset (section_ : SectionContents) (entryNumber : Nat) : Nat :=
  entryNumber * section_.header.shEntsize.toNat

def memory (section_ : SectionContents) (heap : Nat → UInt8) (offset : Nat) : UInt8 :=
  (section_.contents[offset]?).getD (heap offset)

def getSymbolEntry (section_ : SectionContents) (heap : Nat → UInt8) (entryNumber : Nat) :
    RawSymbol :=
  RawSymbol.decode ((List.range RawSymbol.size).map fun index : Nat =>
    section_.memory heap (section_.entryOffset entryNumber + index))

end SectionContents

/-- A symbol. Its name is the offset of a string in the string section. -/
structure Symbol where
  name : Option Nat := none
  addr : UInt64 := 0
  size : UInt64 := 0
  deriving DecidableEq, Repr

structure SymbolTable where
  symbols : Option (List Symbol) := none
  stringSection : Option SectionContents := none

/-- The result is an `int`. -/
def compareSymbol (a b : Symbol) : Int :=
  if a.addr ≥ b.addr ∧ a.addr < b.addr + b.size then 0
  else if b.addr ≥ a.addr ∧ b.addr < a.addr + a.size then 0
  else (a.addr - b.addr).toUInt32.toInt32.toInt

namespace SymbolTable

def finalize (library : SortSearch) (symbols : List Symbol) : List Symbol :=
  library.qsort compareSymbol symbols

def findSymbol (library : SortSearch) (symbols : List Symbol) (addr : UInt64) : Option Symbol :=
  library.bsearch compareSymbol { addr := addr } symbols

/-- The contents of the symbol section, then those of its string section. -/
def readBoth (elf : Reader) (shdr strShdr : SectionHeader) :
    Except Bool (SectionContents × SectionContents) :=
  match elf.getSectionContents shdr with
  | .error _ => .error false
  | .ok contents =>
      match elf.getSectionContents strShdr with
      | .error _ => .error false
      | .ok strings => .ok (contents, strings)

/-- The sections that `Populate` goes on with, or the result with which it
returns before. -/
def symbolSections (elf : Reader) (symtabType : UInt32) :
    Except Bool (SectionContents × SectionContents) :=
  match elf.readSectionHeaders with
  | (.ok, elf) =>
      match elf.getSectionHeaderByType symtabType with
      | none => .error true
      | some shdr =>
          if shdr.shLink.toNat ≥ elf.getNumSections then .error false
          else
            match elf.sections[shdr.shLink.toNat]? with
            | none => .error false
            | some strShdr => readBoth elf shdr strShdr
  | _ => .error false

/-- The loop over the raw symbols. A name that starts behind the strings is dropped. -/
def recordSymbols (contents strings : SectionContents) (heap : Nat → UInt8) (numRawSymbols : Nat) :
    List Symbol :=
  (List.range numRawSymbols).filterMap fun entry : Nat =>
    let sym := contents.getSymbolEntry heap entry
    if sym.stName.toNat ≥ strings.header.shSize.toNat then none
    else some { name := some sym.stName.toNat, addr := sym.stValue, size := sym.stSize }

/-- What `Populate` does: `none` when it divides by zero, and otherwise its
result, where it decodes symbols, what it records, and the new table. -/
structure Populated where
  result : Bool
  decoded : List Nat
  recorded : List Symbol
  table : SymbolTable

/-- What is left to do with the number of raw symbols. -/
def loadSymbols (library : SortSearch) (heap : Nat → UInt8) (contents strings : SectionContents)
    (numRawSymbols : Nat) : Populated :=
  let symbols := recordSymbols contents strings heap numRawSymbols
  { result := true
    decoded := (List.range numRawSymbols).map contents.entryOffset
    recorded := symbols
    table := { symbols := some (finalize library symbols), stringSection := some strings } }

def populate (library : SortSearch) (heap : Nat → UInt8) (table : SymbolTable) (elf : Reader)
    (symtabType : UInt32) : Option Populated :=
  match table.symbols with
  | some _ => some { result := false, decoded := [], recorded := [], table }
  | none =>
      match symbolSections elf symtabType with
      | .error result => some { result, decoded := [], recorded := [], table }
      | .ok (contents, strings) =>
          contents.getNumEntries.map (loadSymbols library heap contents strings)

/-! ## Reads inside the sections -/

/-- Loading the table divides by no zero, decodes symbols inside the contents of
the symbol section only, and records names that end inside the string section. -/
structure ReadsInside (library : SortSearch) (heap : Nat → UInt8) (table : SymbolTable)
    (elf : Reader) (symtabType : UInt32) : Prop where
  noZeroDivision : populate library heap table elf symtabType ≠ none
  inside : ∀ populated contents strings,
    populate library heap table elf symtabType = some populated →
      symbolSections elf symtabType = .ok (contents, strings) →
        (∀ offset ∈ populated.decoded, offset + RawSymbol.size ≤ contents.contents.length) ∧
        ∀ symbol ∈ populated.recorded, ∃ start, symbol.name = some start ∧
          ∃ stop ≥ start, strings.contents[stop]? = some 0

def nameOffset (contents : SectionContents) (entry : Nat) : Nat :=
  (RawSymbol.decode
    ((contents.contents.drop (contents.entryOffset entry)).take RawSymbol.size)).stName.toNat

/-- What the two sections have to be for that: the last entry is not cut off, and
behind every name that is not dropped there is a NUL. -/
def SoundSections (contents strings : SectionContents) : Prop :=
  contents.hasEntries = true → contents.header.shEntsize ≠ 0 ∧
    (∀ last, contents.header.shSize.toNat / contents.header.shEntsize.toNat = last + 1 →
      contents.entryOffset last + RawSymbol.size ≤ contents.header.shSize.toNat) ∧
    ∀ entry < contents.header.shSize.toNat / contents.header.shEntsize.toNat,
      nameOffset contents entry < strings.header.shSize.toNat →
        ∃ stop ≥ nameOffset contents entry, strings.contents[stop]? = some 0

section Bounds

variable {contents strings : SectionContents} {heap : Nat → UInt8}

theorem getSectionContents_length {reader : Reader} {sh : SectionHeader}
    (read : reader.getSectionContents sh = .ok contents) :
    contents.contents.length = contents.header.shSize.toNat := by
  rw [Reader.getSectionContents] at read
  cases got : reader.byteBlock.read (reader.base + sh.shOffset) sh.shSize.toNat with
  | none => simp [got] at read
  | some buffer =>
      simp only [got] at read
      cases read
      rw [(ByteBlock.read_eq_some_iff.mp got).2, ByteBlock.bytes_length]

theorem readBoth_length {elf : Reader} {shdr strShdr : SectionHeader}
    (both : readBoth elf shdr strShdr = .ok (contents, strings)) :
    contents.contents.length = contents.header.shSize.toNat := by
  rw [readBoth] at both
  cases read : elf.getSectionContents shdr with
  | error error => simp [read] at both
  | ok symbols =>
      simp only [read] at both
      cases other : elf.getSectionContents strShdr with
      | error error => simp [other] at both
      | ok names =>
          simp only [other] at both
          cases both
          exact getSectionContents_length read

theorem symbolSections_length {elf : Reader} {symtabType : UInt32}
    (sections : symbolSections elf symtabType = .ok (contents, strings)) :
    contents.contents.length = contents.header.shSize.toNat := by
  rw [symbolSections] at sections
  cases headers : elf.readSectionHeaders with
  | mk error loaded =>
      rw [headers] at sections
      cases error with
      | io | badElf | noMem => cases sections
      | ok =>
          cases found : loaded.getSectionHeaderByType symtabType with
          | none => simp [found] at sections
          | some shdr =>
              simp only [found] at sections
              by_cases bad : shdr.shLink.toNat ≥ loaded.getNumSections
              · rw [if_pos bad] at sections
                cases sections
              · rw [if_neg bad] at sections
                cases linked : loaded.sections[shdr.shLink.toNat]? with
                | none => simp [linked] at sections
                | some strShdr =>
                    simp only [linked] at sections
                    exact readBoth_length sections

/-- An entry inside the contents does not depend on the heap. -/
theorem getSymbolEntry_inside {entry : Nat}
    (inside : contents.entryOffset entry + RawSymbol.size ≤ contents.contents.length) :
    contents.getSymbolEntry heap entry = RawSymbol.decode
      ((contents.contents.drop (contents.entryOffset entry)).take RawSymbol.size) := by
  rw [SectionContents.getSymbolEntry]
  congr 1
  apply List.ext_getElem?
  intro index
  by_cases within : index < RawSymbol.size
  · rw [List.getElem?_map, List.getElem?_range within, List.getElem?_take_of_lt within,
      List.getElem?_drop, Option.map_some, SectionContents.memory,
      List.getElem?_eq_getElem (by omega), Option.getD_some]
  · rw [List.getElem?_eq_none (by simpa using within),
      List.getElem?_eq_none (by rw [List.length_take]; omega)]

theorem entryOffset_le {first second : Nat} (order : first ≤ second) :
    contents.entryOffset first ≤ contents.entryOffset second :=
  Nat.mul_le_mul_right _ order

theorem entries_inside {count size : Nat}
    (last : ∀ last, count = last + 1 → contents.entryOffset last + RawSymbol.size ≤ size)
    {entry : Nat} (listed : entry < count) :
    contents.entryOffset entry + RawSymbol.size ≤ size := by
  obtain ⟨final, rfl⟩ : ∃ final, count = final + 1 := ⟨count - 1, by omega⟩
  have order : contents.entryOffset entry ≤ contents.entryOffset final :=
    entryOffset_le (Nat.le_of_lt_succ listed)
  exact Nat.le_trans (Nat.add_le_add_right order _) (last final rfl)

theorem getNumEntries_eq_none_iff : contents.getNumEntries = none ↔
    contents.hasEntries = true ∧ contents.header.shEntsize = 0 := by
  rw [SectionContents.getNumEntries]
  cases contents.hasEntries with
  | false => simp
  | true => simp

theorem getNumEntries_eq_some (hasEntries : contents.hasEntries = true)
    (nonzero : contents.header.shEntsize ≠ 0) : contents.getNumEntries =
      some (contents.header.shSize.toNat / contents.header.shEntsize.toNat) := by
  simp [SectionContents.getNumEntries, hasEntries, nonzero]

theorem stName_inside {entry : Nat}
    (inside : contents.entryOffset entry + RawSymbol.size ≤ contents.contents.length)
    (heap : Nat → UInt8) :
    (contents.getSymbolEntry heap entry).stName.toNat = nameOffset contents entry := by
  rw [getSymbolEntry_inside inside, nameOffset]

end Bounds

section Populate

variable {library : SortSearch} {heap : Nat → UInt8} {table : SymbolTable} {elf : Reader}
  {symtabType : UInt32} {contents strings : SectionContents}

theorem populate_of_sections (library : SortSearch) (heap : Nat → UInt8)
    (fresh : table.symbols = none)
    (sections : symbolSections elf symtabType = .ok (contents, strings)) :
    populate library heap table elf symtabType =
      contents.getNumEntries.map (loadSymbols library heap contents strings) := by
  simp only [populate, fresh, sections]

/-- A table that is loaded already, or one without its sections, reads nothing. -/
theorem populate_nothing (library : SortSearch) (heap : Nat → UInt8)
    (none : table.symbols = none → ∀ contents strings,
      symbolSections elf symtabType ≠ .ok (contents, strings)) :
    ∃ populated, populate library heap table elf symtabType = some populated ∧
      populated.decoded = [] ∧ populated.recorded = [] := by
  rw [populate]
  cases there : table.symbols with
  | some symbols => exact ⟨_, rfl, rfl, rfl⟩
  | none =>
      cases sections : symbolSections elf symtabType with
      | error result => exact ⟨_, rfl, rfl, rfl⟩
      | ok both => exact absurd sections (none there both.1 both.2)

theorem mem_recordSymbols {numRawSymbols : Nat} {symbol : Symbol} :
    symbol ∈ recordSymbols contents strings heap numRawSymbols ↔ ∃ entry < numRawSymbols,
      (contents.getSymbolEntry heap entry).stName.toNat < strings.header.shSize.toNat ∧
        symbol = { name := some (contents.getSymbolEntry heap entry).stName.toNat
                   addr := (contents.getSymbolEntry heap entry).stValue
                   size := (contents.getSymbolEntry heap entry).stSize } := by
  rw [recordSymbols, List.mem_filterMap]
  constructor
  · intro found
    obtain ⟨entry, listed, recorded⟩ := found
    by_cases behind : (contents.getSymbolEntry heap entry).stName.toNat ≥
        strings.header.shSize.toNat
    · simp [behind] at recorded
    · simp only [if_neg behind, Option.some.injEq] at recorded
      exact ⟨entry, List.mem_range.mp listed, Nat.lt_of_not_le behind, recorded.symm⟩
  · intro found
    obtain ⟨entry, listed, within, rfl⟩ := found
    exact ⟨entry, List.mem_range.mpr listed, by simp [Nat.not_le.mpr within]⟩

theorem ReadsInside.sound (reads : ReadsInside library heap table elf symtabType)
    (fresh : table.symbols = none)
    (sections : symbolSections elf symtabType = .ok (contents, strings)) :
    SoundSections contents strings := by
  intro hasEntries
  have populated := populate_of_sections library heap fresh sections
  have nonzero : contents.header.shEntsize ≠ 0 := by
    intro zero
    rw [getNumEntries_eq_none_iff.mpr ⟨hasEntries, zero⟩] at populated
    exact reads.noZeroDivision populated
  rw [getNumEntries_eq_some hasEntries nonzero, Option.map_some] at populated
  obtain ⟨decoded, recorded⟩ := reads.inside _ contents strings populated sections
  have inside : ∀ entry < contents.header.shSize.toNat / contents.header.shEntsize.toNat,
      contents.entryOffset entry + RawSymbol.size ≤ contents.contents.length := by
    intro entry listed
    exact decoded _ (List.mem_map_of_mem (List.mem_range.mpr listed))
  refine ⟨nonzero, fun last count => ?_, fun entry listed within => ?_⟩
  · rw [← symbolSections_length sections]
    exact inside last (by omega)
  · have same := stName_inside (inside entry listed) heap
    have found := recorded _ (mem_recordSymbols.mpr ⟨entry, listed, by rwa [same], rfl⟩)
    obtain ⟨start, starts, stop, behind, nul⟩ := found
    cases starts
    rw [same] at behind
    exact ⟨stop, behind, nul⟩

theorem SoundSections.entries (sound : SoundSections contents strings)
    (sections : symbolSections elf symtabType = .ok (contents, strings)) :
    ∃ count, contents.getNumEntries = some count ∧
      ∀ entry < count, contents.entryOffset entry + RawSymbol.size ≤ contents.contents.length ∧
        (nameOffset contents entry < strings.header.shSize.toNat →
          ∃ stop ≥ nameOffset contents entry, strings.contents[stop]? = some 0) := by
  cases hasEntries : contents.hasEntries with
  | false =>
      refine ⟨0, by simp [SectionContents.getNumEntries, hasEntries], ?_⟩
      intro entry listed
      exact absurd listed (Nat.not_lt_zero entry)
  | true =>
      obtain ⟨nonzero, last, names⟩ := sound hasEntries
      refine ⟨_, getNumEntries_eq_some hasEntries nonzero, fun entry listed => ⟨?_, ?_⟩⟩
      · rw [symbolSections_length sections]
        exact entries_inside last listed
      · exact names entry listed

theorem readsInside_of_nothing (library : SortSearch) (heap : Nat → UInt8)
    (nothing : table.symbols = none → ∀ contents strings,
      symbolSections elf symtabType ≠ .ok (contents, strings)) :
    ReadsInside library heap table elf symtabType := by
  obtain ⟨populated, result, decoded, recorded⟩ := populate_nothing library heap nothing
  constructor
  · rw [result]
    exact Option.some_ne_none _
  · intro done others names same _
    rw [result] at same
    cases same
    rw [decoded, recorded]
    exact ⟨fun _ member => absurd member List.not_mem_nil,
      fun _ member => absurd member List.not_mem_nil⟩

theorem readsInside_of_sound (library : SortSearch) (heap : Nat → UInt8)
    (sound : table.symbols = none → ∀ contents strings,
      symbolSections elf symtabType = .ok (contents, strings) → SoundSections contents strings) :
    ReadsInside library heap table elf symtabType := by
  by_cases loads : table.symbols = none ∧ ∃ both, symbolSections elf symtabType = .ok both
  · obtain ⟨fresh, ⟨contents, strings⟩, sections⟩ := loads
    have populated := populate_of_sections library heap fresh sections
    obtain ⟨count, number, good⟩ := (sound fresh contents strings sections).entries sections
    rw [number, Option.map_some] at populated
    refine ⟨by rw [populated]; exact Option.some_ne_none _, fun done others names result same => ?_⟩
    rw [populated] at result
    rw [sections] at same
    cases result
    cases same
    refine ⟨fun offset member => ?_, fun symbol member => ?_⟩
    · obtain ⟨entry, listed, rfl⟩ := List.mem_map.mp member
      exact (good entry (List.mem_range.mp listed)).1
    · obtain ⟨entry, listed, within, rfl⟩ := mem_recordSymbols.mp member
      obtain ⟨inside, ends⟩ := good entry listed
      rw [stName_inside inside heap] at within ⊢
      exact ⟨_, rfl, ends within⟩
  · apply readsInside_of_nothing library heap
    intro fresh contents strings sections
    exact loads ⟨fresh, _, sections⟩

/-- `Populate` stays inside its sections exactly when the symbol section has
whole entries and every name in it ends inside the string section. -/
theorem populate_readsInside_iff (library : SortSearch) (heap : Nat → UInt8) (table : SymbolTable)
    (elf : Reader) (symtabType : UInt32) :
    ReadsInside library heap table elf symtabType ↔ (table.symbols = none →
      ∀ contents strings, symbolSections elf symtabType = .ok (contents, strings) →
        SoundSections contents strings) :=
  ⟨fun reads fresh _ _ sections => reads.sound fresh sections, readsInside_of_sound library heap⟩

end Populate

/-- An image with the sections of one symbol at address 4096, whose name is the
first string. -/
def oneSymbol (shEntsize : UInt64) (strings : Bytes) : Bytes :=
  imageHeader 0 64 0 2 ++ sectionBytes shtSymtab 192 24 1 shEntsize ++
    sectionBytes 3 216 strings.length.toUInt64 0 0 ++
    numberBytes 8 0 ++ numberBytes 8 4096 ++ numberBytes 8 16 ++ strings

def oneSymbolSection (shEntsize : UInt64) : SectionContents where
  header := ⟨shtSymtab, 192, 24, 1, shEntsize⟩
  contents := numberBytes 8 0 ++ numberBytes 8 4096 ++ numberBytes 8 16

/-- Three accepted images: with entries of no size `Populate` divides by zero,
with entries of eight bytes it decodes the last one beyond the section, and
without a NUL the name of the symbol does not end inside its section. -/
theorem populate_outside :
    (Reader.verifyHeader (imageReader (oneSymbol 0 [0])).header = true ∧ ∀ library heap,
      populate library heap {} (imageReader (oneSymbol 0 [0])) shtSymtab = none) ∧
    (Reader.verifyHeader (imageReader (oneSymbol 8 [0])).header = true ∧ ∀ library heap,
      ¬ ReadsInside library heap {} (imageReader (oneSymbol 8 [0])) shtSymtab) ∧
    Reader.verifyHeader (imageReader (oneSymbol 24 (ascii "a"))).header = true ∧
      ∀ library heap,
        ¬ ReadsInside library heap {} (imageReader (oneSymbol 24 (ascii "a"))) shtSymtab := by
  have noSize : symbolSections (imageReader (oneSymbol 0 [0])) shtSymtab =
      .ok (oneSymbolSection 0, ⟨⟨3, 216, 1, 0, 0⟩, [0]⟩) := by decide +kernel
  have narrow : symbolSections (imageReader (oneSymbol 8 [0])) shtSymtab =
      .ok (oneSymbolSection 8, ⟨⟨3, 216, 1, 0, 0⟩, [0]⟩) := by decide +kernel
  have noNul : symbolSections (imageReader (oneSymbol 24 (ascii "a"))) shtSymtab =
      .ok (oneSymbolSection 24, ⟨⟨3, 216, 1, 0, 0⟩, ascii "a"⟩) := by decide +kernel
  refine ⟨⟨by decide +kernel, fun library heap => ?_⟩,
    ⟨by decide +kernel, fun library heap reads => ?_⟩, by decide +kernel,
    fun library heap reads => ?_⟩
  · rw [populate_of_sections library heap rfl noSize]
    rfl
  · have cut := (reads.sound rfl narrow (by decide)).2.1 2 (by decide)
    exact absurd cut (by decide)
  · obtain ⟨stop, -, nul⟩ := (reads.sound rfl noNul (by decide)).2.2 0 (by decide) (by decide +kernel)
    cases stop with
    | zero => exact absurd nul (by decide)
    | succ stop => cases nul

end SymbolTable

end Elf

end Gdbserver
