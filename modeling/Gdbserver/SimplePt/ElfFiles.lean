import Gdbserver.SimplePt.SymbolTables

/-!
# Loading ELF files

`third_party/simple-pt/elf.cc`. The symbol tables of a file are read, and its
executable segments are added to the image the decoder reads instructions from.
The image is the library's; what has been added to it is kept in order.
-/

set_option autoImplicit false

namespace Gdbserver.SimplePt

open Logic Util Elf

def etDyn : UInt16 := 3

def pfX : UInt32 := 1

def pteBadImage : Int := 17

/-- How reading a file ends. The reader of the symbols may divide by zero. -/
inductive Loading (α : Type) where
  | crashed
  | failed
  | ok (value : α)

namespace Loading

def bind {α β : Type} : Loading α → (α → Loading β) → Loading β
  | crashed, _ => crashed
  | failed, _ => failed
  | ok value, next => next value

instance : Monad Loading where
  pure := ok
  bind := bind

theorem bind_eq_ok {α β : Type} {loading : Loading α} {next : α → Loading β} {result : β} :
    (loading >>= next) = .ok result ↔ ∃ value, loading = .ok value ∧ next value = .ok result := by
  cases loading with
  | crashed => simp [Bind.bind, Loading.bind]
  | failed => simp [Bind.bind, Loading.bind]
  | ok value => simp [Bind.bind, Loading.bind]

end Loading

/-- A call of `pt_image_add_file`. -/
structure ImageFile where
  fileName : Bytes
  offset : UInt64
  size : UInt64
  cr3 : UInt64
  vaddr : UInt64
  deriving DecidableEq, Repr

/-- What the functions use: the files, the memory behind the buffers, and the libraries. -/
structure ElfEnv where
  library : SortSearch
  heap : Nat → UInt8
  openFile : Bytes → Option ByteBlock
  addFile : List ImageFile → ImageFile → Int

/-- `e_type` -/
def eType (elf : Reader) : UInt16 := (field (elf.byteBlock.bytes elf.base Header.size) 16 2).toUInt16

/-- The tables that have been made from a file. -/
structure Tables where
  symtab : Option SymbolTable := none
  dynsym : Option SymbolTable := none

/-- In the order in which they are added to the decoder's tables. -/
def Tables.toList (tables : Tables) : List SymbolTable :=
  tables.symtab.toList ++ tables.dynsym.toList

/-- The last address used by symbols in the table. -/
def lastAddress (symbols : List Elf.Symbol) : UInt64 :=
  symbols.foldl (fun last sym => if last < sym.addr + sym.size then sym.addr + sym.size else last) 0

/-- Where a file has been loaded, as a new table is told. -/
structure Place where
  fileName : Bytes
  cr3 : UInt64
  base : UInt64
  len : UInt64
  offset : UInt64
  isKernel : Bool

/-- The full range of symbols is assigned to the table, or the length if that is more. -/
def Place.tableEnd (place : Place) (symbols : List Elf.Symbol) : UInt64 :=
  if place.len > lastAddress symbols then place.offset + place.len
  else place.offset + lastAddress symbols

/-- One table of the loop in `ReadSymtabs`. -/
def loadTable (env : ElfEnv) (elf : Reader) (place : Place) (type : UInt32) :
    Loading SymbolTable :=
  match Elf.SymbolTable.populate env.library env.heap {} elf type with
  | none => .crashed
  | some populated =>
      if !populated.result then .failed
      else .ok
        { fileName := place.fileName
          cr3 := place.cr3
          base := place.base
          endAddr := place.tableEnd (populated.table.symbols.getD [])
          offset := place.offset
          isKernel := place.isKernel
          elf := populated.table }

/-- The loop over the sections. A later section of a type replaces the table. -/
def loadTables (env : ElfEnv) (elf : Reader) (place : Place) :
    List SectionHeader → Tables → Loading Tables
  | [], tables => .ok tables
  | shdr :: later, tables =>
      if shdr.shType = shtSymtab then do
        let table ← loadTable env elf place shdr.shType
        loadTables env elf place later { tables with symtab := some table }
      else if shdr.shType = shtDynsym then do
        let table ← loadTable env elf place shdr.shType
        loadTables env elf place later { tables with dynsym := some table }
      else loadTables env elf place later tables

def readSymtabs (env : ElfEnv) (elf : Reader) (place : Place) : Loading Tables :=
  match elf.readSectionHeaders with
  | (.ok, elf) => loadTables env elf place elf.sections {}
  | _ => .failed

/-- Base address, length and file offset of the text segment of a file that is not
position independent. -/
def findBaseLenFileoff (elf : Reader) : UInt64 × UInt64 × UInt64 :=
  match elf.segments.find? fun phdr => phdr.pType == ptLoad && phdr.pFlags &&& pfX != 0 with
  | some phdr => (phdr.pVaddr, phdr.pMemsz, phdr.pOffset)
  | none => (0, 0, 0)

/-- `minaddr` behind the loop. -/
def lowestAddress (segments : List SegmentHeader) : UInt64 :=
  segments.foldl
    (fun minaddr phdr =>
      if phdr.pType = ptLoad ∧ phdr.pVaddr < minaddr then phdr.pVaddr else minaddr)
    0xffffffffffffffff

def findOffset (elf : Reader) (base : UInt64) : UInt64 :=
  if base = 0 then 0
  -- punt if no loadable segments found
  else if lowestAddress elf.segments = 0xffffffffffffffff then 0
  else base - lowestAddress elf.segments

/-- The difference between where the file was loaded and the addresses recorded in it. -/
def loadOffset (elf : Reader) (base : UInt64) : UInt64 :=
  if eType elf = etDyn then findOffset elf base else 0

def addProgbits (env : ElfEnv) (fileName : Bytes) (cr3 offset fileOff mapLen : UInt64) :
    List SegmentHeader → List ImageFile → List ImageFile
  | [], image => image
  | phdr :: later, image =>
      if phdr.pType = ptLoad ∧ phdr.pFlags &&& pfX ≠ 0 ∧ phdr.pOffset ≥ fileOff ∧
          (mapLen = 0 ∨ phdr.pOffset + phdr.pFilesz ≤ fileOff + mapLen) then
        -- the first loadable segment of the kernel is unusable
        if phdr.pVaddr < phdr.pPaddr then
          addProgbits env fileName cr3 offset fileOff mapLen later image
        else
          let file : ImageFile :=
            ⟨fileName, phdr.pOffset, phdr.pFilesz, cr3, phdr.pVaddr + offset⟩
          let err := env.addFile image file
          -- a duplicate
          if err = -pteBadImage then
            addProgbits env fileName cr3 offset fileOff mapLen later image
          else if err < 0 then image
          else addProgbits env fileName cr3 offset fileOff mapLen later (image ++ [file])
      else addProgbits env fileName cr3 offset fileOff mapLen later image

def elfOpen (env : ElfEnv) (fileName : Bytes) : Loading Reader :=
  match env.openFile fileName with
  | none => .failed
  | some bb =>
      match Reader.create bb 0 with
      | .error _ => .failed
      | .ok elf =>
          match elf.readSegmentHeaders with
          | (.ok, elf) => .ok elf
          | _ => .failed

def readElf (env : ElfEnv) (image : List ImageFile) (fileName : Bytes)
    (base cr3 fileOff mapLen : UInt64) : Loading (Tables × List ImageFile) := do
  let elf ← elfOpen env fileName
  -- "PIC/PIE ELF with base 0 is not supported"
  if eType elf = etDyn ∧ base = 0 then .failed
  else
    let offset := loadOffset elf base
    let tables ← readSymtabs env elf ⟨fileName, cr3, base, mapLen, offset, false⟩
    pure (tables, addProgbits env fileName cr3 offset fileOff mapLen elf.segments image)

def readNonPicElf (env : ElfEnv) (image : List ImageFile) (fileName : Bytes) (cr3 : UInt64)
    (isKernel : Bool) : Loading (Tables × List ImageFile) := do
  let elf ← elfOpen env fileName
  let (base, len, fileOff) := findBaseLenFileoff elf
  -- kernel addresses appear with the CR3 of any process
  let tables ← readSymtabs env elf ⟨fileName, ptAsidNoCr3, base, len, 0, isKernel⟩
  let cr3 := if cr3 ≠ 0 then cr3 else ptAsidNoCr3
  pure (tables, addProgbits env fileName cr3 0 fileOff len elf.segments image)

/-- The tables of a file, which do not depend on the image. -/
def elfTables (env : ElfEnv) (fileName : Bytes) (base cr3 mapLen : UInt64) : Loading Tables := do
  let elf ← elfOpen env fileName
  if eType elf = etDyn ∧ base = 0 then .failed
  else readSymtabs env elf ⟨fileName, cr3, base, mapLen, loadOffset elf base, false⟩

/-! ## Tables that have been loaded -/

/-- The symbols of the section of the type, as they stand in the file. -/
def fileSymbols (env : ElfEnv) (elf : Reader) (type : UInt32) : List Elf.Symbol :=
  ((Elf.SymbolTable.populate env.library env.heap {} elf type).map (·.recorded)).getD []

/-- The table is for the place, and has these symbols of the file. -/
structure LoadedAt (library : SortSearch) (place : Place) (symbols : List Elf.Symbol)
    (table : SymbolTable) : Prop where
  fileName : table.fileName = place.fileName
  cr3 : table.cr3 = place.cr3
  base : table.base = place.base
  offset : table.offset = place.offset
  isKernel : table.isKernel = place.isKernel
  endAddr : table.endAddr = place.tableEnd table.symbols
  symbols : table.symbols = Elf.SymbolTable.finalize library symbols

section Loaded

variable {env : ElfEnv} {elf : Reader} {place : Place} {table : SymbolTable}

theorem finalize_nil (library : SortSearch) : Elf.SymbolTable.finalize library [] = [] := by
  have consistent : Consistent compareSymbol [] := ⟨by simp, by simp⟩
  exact (library.qsort_sorts compareSymbol [] consistent).1.eq_nil

theorem loadTable_loadedAt {type : UInt32} (loaded : loadTable env elf place type = .ok table) :
    LoadedAt env.library place (fileSymbols env elf type) table := by
  unfold loadTable at loaded
  cases populated : Elf.SymbolTable.populate env.library env.heap {} elf type with
  | none => simp [populated] at loaded
  | some result =>
      simp only [populated] at loaded
      split at loaded
      · cases loaded
      · cases loaded
        refine ⟨rfl, rfl, rfl, rfl, rfl, rfl, ?_⟩
        simp only [SymbolTable.symbols, fileSymbols, populated, Option.map_some, Option.getD_some]
        -- the symbols of the new table are those recorded, if any were looked for
        simp only [Elf.SymbolTable.populate] at populated
        cases sections : Elf.SymbolTable.symbolSections elf type with
        | error outcome =>
            simp only [sections, Option.some.injEq] at populated
            subst populated
            exact (finalize_nil env.library).symm
        | ok both =>
            simp only [sections, Option.map_eq_some_iff] at populated
            obtain ⟨count, -, rfl⟩ := populated
            rfl

/-- The table is one of the file's. -/
def FromFile (env : ElfEnv) (elf : Reader) (place : Place) (table : SymbolTable) : Prop :=
  ∃ type, LoadedAt env.library place (fileSymbols env elf type) table

theorem Tables.mem_toList {tables : Tables} : table ∈ tables.toList ↔
    tables.symtab = some table ∨ tables.dynsym = some table := by
  simp [Tables.toList]

theorem loadTables_fromFile {sections : List SectionHeader} {tables result : Tables}
    (loaded : loadTables env elf place sections tables = .ok result)
    (before : ∀ table ∈ tables.toList, FromFile env elf place table) :
    ∀ table ∈ result.toList, FromFile env elf place table := by
  induction sections generalizing tables with
  | nil =>
      cases loaded
      exact before
  | cons shdr later ih =>
      simp only [loadTables] at loaded
      split at loaded
      · obtain ⟨table, one, others⟩ := Loading.bind_eq_ok.mp loaded
        apply ih others
        intro other member
        cases Tables.mem_toList.mp member with
        | inl symtab =>
            cases symtab
            exact ⟨_, loadTable_loadedAt one⟩
        | inr dynsym => exact before other (Tables.mem_toList.mpr (.inr dynsym))
      · split at loaded
        · obtain ⟨table, one, others⟩ := Loading.bind_eq_ok.mp loaded
          apply ih others
          intro other member
          cases Tables.mem_toList.mp member with
          | inl symtab => exact before other (Tables.mem_toList.mpr (.inl symtab))
          | inr dynsym =>
              cases dynsym
              exact ⟨_, loadTable_loadedAt one⟩
        · exact ih loaded before

theorem readSymtabs_of_read (env : ElfEnv) (place : Place)
    (read : elf.readSectionHeaders.1 = .ok) : readSymtabs env elf place =
      loadTables env elf.readSectionHeaders.2 place elf.readSectionHeaders.2.sections {} := by
  unfold readSymtabs
  cases headers : elf.readSectionHeaders with
  | mk error after =>
      rw [headers] at read
      cases read
      rfl

theorem readSymtabs_fromFile {tables : Tables} (loaded : readSymtabs env elf place = .ok tables) :
    ∀ table ∈ tables.toList, FromFile env elf.readSectionHeaders.2 place table := by
  by_cases read : elf.readSectionHeaders.1 = .ok
  · rw [readSymtabs_of_read env place read] at loaded
    exact loadTables_fromFile loaded (by simp [Tables.toList])
  · unfold readSymtabs at loaded
    split at loaded
    · next headers => exact absurd (by rw [headers]) read
    · cases loaded

theorem addProgbits_file (env : ElfEnv) (fileName : Bytes) (cr3 offset fileOff mapLen : UInt64)
    (segments : List SegmentHeader) (image : List ImageFile) :
    ∃ added, addProgbits env fileName cr3 offset fileOff mapLen segments image = image ++ added ∧
      ∀ file ∈ added, file.fileName = fileName ∧ file.cr3 = cr3 := by
  induction segments generalizing image with
  | nil => exact ⟨[], by simp [addProgbits], by simp⟩
  | cons phdr later ih =>
      simp only [addProgbits]
      split
      · split
        · exact ih image
        · split
          · exact ih image
          · split
            · exact ⟨[], by simp, by simp⟩
            · obtain ⟨added, whole, every⟩ := ih (image ++
                [⟨fileName, phdr.pOffset, phdr.pFilesz, cr3, phdr.pVaddr + offset⟩])
              refine ⟨_ :: added, by rw [whole, List.append_assoc]; rfl, ?_⟩
              rw [List.forall_mem_cons]
              exact ⟨⟨rfl, rfl⟩, every⟩
      · exact ih image

theorem elfTables_fromFile {fileName : Bytes} {base cr3 mapLen : UInt64} {tables : Tables}
    (loaded : elfTables env fileName base cr3 mapLen = .ok tables) :
    ∃ elf, elfOpen env fileName = .ok elf ∧ ∀ table ∈ tables.toList,
      FromFile env elf.readSectionHeaders.2
        ⟨fileName, cr3, base, mapLen, loadOffset elf base, false⟩ table := by
  obtain ⟨elf, opened, rest⟩ := Loading.bind_eq_ok.mp loaded
  split at rest
  · cases rest
  · exact ⟨elf, opened, readSymtabs_fromFile rest⟩

/-- Reading a file ends as reading its tables does. -/
inductive ElfRead (image : List ImageFile) (fileName : Bytes) (cr3 : UInt64) :
    Loading Tables → Loading (Tables × List ImageFile) → Prop
  | crashed : ElfRead image fileName cr3 .crashed .crashed
  | failed : ElfRead image fileName cr3 .failed .failed
  | ok {tables : Tables} (added : List ImageFile)
      (every : ∀ file ∈ added, file.fileName = fileName ∧ file.cr3 = cr3) :
      ElfRead image fileName cr3 (.ok tables) (.ok (tables, image ++ added))

theorem readElf_read (env : ElfEnv) (image : List ImageFile) (fileName : Bytes)
    (base cr3 fileOff mapLen : UInt64) :
    ElfRead image fileName cr3 (elfTables env fileName base cr3 mapLen)
      (readElf env image fileName base cr3 fileOff mapLen) := by
  simp only [elfTables, readElf]
  cases elfOpen env fileName with
  | crashed => exact .crashed
  | failed => exact .failed
  | ok elf =>
      simp only [bind, Loading.bind]
      split
      · exact .failed
      · cases readSymtabs env elf
            ⟨fileName, cr3, base, mapLen, loadOffset elf base, false⟩ with
        | crashed => exact .crashed
        | failed => exact .failed
        | ok tables =>
            obtain ⟨added, whole, every⟩ := addProgbits_file env fileName cr3
              (loadOffset elf base) fileOff mapLen elf.segments image
            simp only [pure, whole]
            exact .ok added every

end Loaded

/-! ## A file -/

/-- One symbol of 16 bytes at address 4096. -/
def sampleFile : Bytes := Elf.SymbolTable.oneSymbol 24 [0]

def sampleElf : ElfEnv where
  library := .simple
  heap _ := 0
  openFile name := if name = ascii "/f" then some (imageBlock sampleFile) else none
  addFile _ _ := 0

def sampleSymbol : Elf.Symbol := ⟨some 0, 0x1000, 16⟩

def sampleTable : SymbolTable where
  fileName := ascii "/f"
  cr3 := 3
  base := 0x1000
  endAddr := 0x1010
  offset := 0
  isKernel := false
  elf := ⟨some [sampleSymbol], some ⟨⟨3, 216, 1, 0, 0⟩, [0]⟩⟩

/-- The reader of the file, once it has been opened. -/
def sampleReader : Reader where
  byteBlock := imageBlock sampleFile
  base := 0
  header := Header.decode ((imageBlock sampleFile).bytes 0 Header.size)
  segmentHeaders := some []

theorem elfOpen_sampleFile : elfOpen sampleElf (ascii "/f") = .ok sampleReader := by
  have file : sampleElf.openFile (ascii "/f") = some (imageBlock sampleFile) := by
    simp only [sampleElf, ↓reduceIte]
  have created : Reader.create (imageBlock sampleFile) 0 = .ok
      { byteBlock := imageBlock sampleFile, base := 0,
        header := Header.decode ((imageBlock sampleFile).bytes 0 Header.size) } :=
    Reader.create_of_accepted (by decide +kernel) (by decide +kernel)
  have segments : (Header.decode ((imageBlock sampleFile).bytes 0 Header.size)).ePhnum = 0 ∧
      (Header.decode ((imageBlock sampleFile).bytes 0 Header.size)).ePhoff = 0 := by decide +kernel
  have nothing : (imageBlock sampleFile).read (0 + 0) (UInt16.toNat 0 * SegmentHeader.size) =
      some [] := by decide +kernel
  simp only [elfOpen, file, created, Reader.readSegmentHeaders, Reader.getNumSegments, segments,
    nothing]
  rfl

theorem finalize_singleton (symbol : Elf.Symbol) :
    Elf.SymbolTable.finalize .simple [symbol] = [symbol] := by
  simp [Elf.SymbolTable.finalize, SortSearch.simple]

theorem loadTable_sampleReader :
    loadTable sampleElf sampleReader.readSectionHeaders.2
      ⟨ascii "/f", 3, 0x1000, 0x1000, 0, false⟩ shtSymtab = .ok sampleTable := by
  have sections : Elf.SymbolTable.symbolSections sampleReader.readSectionHeaders.2 shtSymtab =
      .ok (Elf.SymbolTable.oneSymbolSection 24, ⟨⟨3, 216, 1, 0, 0⟩, [0]⟩) := by decide +kernel
  have count : (Elf.SymbolTable.oneSymbolSection 24).getNumEntries = some 1 := by decide +kernel
  have recorded : Elf.SymbolTable.recordSymbols (Elf.SymbolTable.oneSymbolSection 24)
      ⟨⟨3, 216, 1, 0, 0⟩, [0]⟩ (fun _ => 0) 1 = [sampleSymbol] := by decide +kernel
  have populated : Elf.SymbolTable.populate sampleElf.library sampleElf.heap {}
      sampleReader.readSectionHeaders.2 shtSymtab = some
        { result := true, decoded := [0], recorded := [sampleSymbol], table := sampleTable.elf } := by
    rw [Elf.SymbolTable.populate_of_sections _ _ rfl sections, count]
    simp only [Option.map_some, Elf.SymbolTable.loadSymbols, sampleElf, recorded,
      finalize_singleton]
    rfl
  rw [loadTable, populated]
  rfl

theorem elfTables_sampleFile :
    elfTables sampleElf (ascii "/f") 0x1000 3 0x1000 = .ok ⟨some sampleTable, none⟩ := by
  have kind : eType sampleReader ≠ etDyn := by decide +kernel
  have offset : loadOffset sampleReader 0x1000 = 0 := if_neg kind
  have read : sampleReader.readSectionHeaders.1 = .ok := by decide +kernel
  have sections : sampleReader.readSectionHeaders.2.sections =
      [⟨shtSymtab, 192, 24, 1, 24⟩, ⟨3, 216, 1, 0, 0⟩] := by decide +kernel
  have strings : (3 : UInt32) ≠ shtSymtab ∧ (3 : UInt32) ≠ shtDynsym := by decide
  simp only [elfTables, elfOpen_sampleFile, bind, Loading.bind, kind, false_and, ↓reduceIte,
    offset, readSymtabs_of_read _ _ read, sections, loadTables, loadTable_sampleReader, strings]

/-! ## The range of a table -/

section Range

variable {library : SortSearch} {place : Place} {symbols : List Elf.Symbol} {table : SymbolTable}

theorem foldl_lastAddress (symbols : List Elf.Symbol) (start : UInt64) :
    let last := symbols.foldl
      (fun last sym => if last < sym.addr + sym.size then sym.addr + sym.size else last) start
    start ≤ last ∧ ∀ symbol ∈ symbols, symbol.addr + symbol.size ≤ last := by
  induction symbols generalizing start with
  | nil => exact ⟨UInt64.le_refl start, by simp⟩
  | cons symbol later ih =>
      simp only [List.foldl_cons, List.forall_mem_cons]
      split
      · next less =>
          obtain ⟨above, every⟩ := ih (symbol.addr + symbol.size)
          exact ⟨UInt64.le_trans (UInt64.le_of_lt less) above, above, every⟩
      · next notLess =>
          obtain ⟨above, every⟩ := ih start
          exact ⟨above, UInt64.le_trans (UInt64.not_lt.mp notLess) above, every⟩

theorem le_lastAddress {symbol : Elf.Symbol} (member : symbol ∈ symbols) :
    symbol.addr + symbol.size ≤ lastAddress symbols :=
  (foldl_lastAddress symbols 0).2 symbol member

/-- How many bytes from the offset on the table is for. -/
def Place.extent (place : Place) (symbols : List Elf.Symbol) : Nat :=
  max place.len.toNat (lastAddress symbols).toNat

theorem Place.tableEnd_toNat (noWrap : place.offset.toNat + place.extent symbols < 2 ^ 64) :
    (place.tableEnd symbols).toNat = place.offset.toNat + place.extent symbols := by
  unfold Place.extent at noWrap ⊢
  unfold Place.tableEnd
  split
  · next longer =>
      have more := UInt64.lt_iff_toNat_lt.mp longer
      rw [UInt64.toNat_add, Nat.mod_eq_of_lt (by omega)]
      omega
  · next shorter =>
      have less := UInt64.le_iff_toNat_le.mp (UInt64.not_lt.mp shorter)
      rw [UInt64.toNat_add, Nat.mod_eq_of_lt (by omega)]
      omega

theorem LoadedAt.covers (loaded : LoadedAt library place symbols table)
    (noWrap : place.offset.toNat + place.extent table.symbols < 2 ^ 64) (pc : UInt64) :
    table.Covers pc ↔ place.base.toNat ≤ pc.toNat ∧
      pc.toNat < place.offset.toNat + place.extent table.symbols := by
  rw [SymbolTable.Covers, loaded.base, loaded.endAddr, UInt64.le_iff_toNat_le,
    UInt64.lt_iff_toNat_lt, Place.tableEnd_toNat noWrap]

/-- The table covers all that has been mapped exactly if its end, counted from the
offset, lies behind what has been mapped. -/
theorem LoadedAt.covers_all_iff (loaded : LoadedAt library place symbols table)
    (below : place.offset ≤ place.base)
    (noWrap : place.offset.toNat + place.extent table.symbols < 2 ^ 64)
    (fits : place.base.toNat + place.len.toNat < 2 ^ 64) :
    (∀ pc : UInt64, place.base.toNat ≤ pc.toNat → pc.toNat < place.base.toNat + place.len.toNat →
      table.Covers pc) ↔
    place.len = 0 ∨ (place.base - place.offset).toNat + place.len.toNat ≤
      place.extent table.symbols := by
  have lower := UInt64.le_iff_toNat_le.mp below
  rw [UInt64.toNat_sub_of_le _ _ below]
  constructor
  · intro all
    by_cases empty : place.len = 0
    · exact .inl empty
    · have positive : 0 < place.len.toNat :=
        Nat.pos_of_ne_zero fun zero => empty (UInt64.toNat_inj.mp zero)
      -- the last address is covered
      have last := all (UInt64.ofNat (place.base.toNat + place.len.toNat - 1))
      rw [UInt64.toNat_ofNat_of_lt' (by change _ < 2 ^ 64; omega),
        loaded.covers noWrap, UInt64.toNat_ofNat_of_lt' (by change _ < 2 ^ 64; omega)] at last
      have covered := last (by omega) (by omega)
      exact .inr (by omega)
  · intro enough pc low high
    rw [loaded.covers noWrap]
    refine ⟨low, ?_⟩
    cases enough with
    | inl empty =>
        rw [empty, UInt64.toNat_zero] at high
        omega
    | inr far => omega

/-- The symbols are apart from one another and end before the address space does, and they
are near one another and the address; nor does the end of the table wrap around. -/
structure Searchable (symbols : List Elf.Symbol) (place : Place) (table : SymbolTable)
    (pc : UInt64) : Prop where
  apart : Apart symbols
  ends : ∀ symbol ∈ symbols, symbol.addr.toNat + symbol.size.toNat < 2 ^ 64
  near : SymbolsNear symbols
  nearby : AddressNear symbols (pc - place.offset)
  inside : place.offset ≤ pc
  noWrap : place.offset.toNat + place.extent table.symbols < 2 ^ 64

/-- An address is looked up to the symbol of the file that contains it once the offset
is taken off. -/
theorem LoadedAt.findSymbol_iff (loaded : LoadedAt library place symbols table) {pc : UInt64}
    (searchable : Searchable symbols place table pc) (behind : place.base ≤ pc)
    (symbol : Elf.Symbol) : table.findSymbol library pc = some symbol ↔
      symbol ∈ symbols ∧ symbol.Contains (pc - place.offset) := by
  obtain ⟨apart, ends, near, nearby, inside, noWrap⟩ := searchable
  obtain ⟨perm, sorted⟩ := (comparesBy_addr apart near).sorted library
  obtain ⟨hits, misses⟩ :=
    Elf.SymbolTable.findSymbol_sorted library (apart.perm perm) (nearby.perm perm) sorted
  have atLeast := UInt64.le_iff_toNat_le.mp behind
  by_cases covered : table.Covers pc
  · have searched : table.findSymbol library pc =
        Elf.SymbolTable.findSymbol library (Elf.SymbolTable.finalize library symbols)
          (pc - place.offset) := by
      have within : ¬ (pc < table.base ∨ pc ≥ table.endAddr) := by
        rintro (low | high)
        · exact absurd covered.1 (UInt64.not_le.mpr low)
        · exact absurd covered.2 (UInt64.not_lt.mpr high)
      rw [SymbolTable.findSymbol, if_neg within, loaded.symbols, loaded.offset]
    rw [searched]
    constructor
    · intro found
      by_contra none
      have nowhere : ∀ other ∈ Elf.SymbolTable.finalize library symbols,
          ¬ other.Contains (pc - place.offset) := by
        intro other member contains
        have same := found.symm.trans (hits other member contains)
        cases same
        exact none ⟨perm.mem_iff.mp member, contains⟩
      cases found.symm.trans (misses nowhere)
    · intro both
      exact hits symbol (perm.mem_iff.mpr both.1) both.2
  · -- a symbol that contains the address would end inside the table's range
    have outside : table.findSymbol library pc = none := by
      rw [SymbolTable.findSymbol, if_pos]
      by_contra within
      rw [not_or, UInt64.not_lt, ge_iff_le, UInt64.not_le] at within
      exact covered within
    rw [outside]
    refine iff_of_false (by simp) fun both => covered ((loaded.covers noWrap pc).mpr ?_)
    have member : symbol ∈ table.symbols := by
      rw [loaded.symbols]
      exact perm.mem_iff.mpr both.1
    have last := UInt64.le_iff_toNat_le.mp (le_lastAddress member)
    have upper := both.2.2
    rw [UInt64.toNat_add, Nat.mod_eq_of_lt (ends symbol both.1)] at last
    rw [UInt64.toNat_sub_of_le _ _ inside] at upper
    have lower := UInt64.le_iff_toNat_le.mp inside
    unfold Place.extent
    omega

/-- The tables of a file that has been read cover all that has been mapped exactly if what
the file says of its symbols, or the length of the mapping, reaches that far from its own
lowest address. For a file with addresses of its own that is where it was loaded, for
one that is position independent it is its lowest segment. -/
theorem readElf_covers_iff {env : ElfEnv} {image after : List ImageFile} {fileName : Bytes}
    {base cr3 fileOff mapLen : UInt64} {tables : Tables}
    (read : readElf env image fileName base cr3 fileOff mapLen = .ok (tables, after))
    (fits : base.toNat + mapLen.toNat < 2 ^ 64) :
    ∃ elf, elfOpen env fileName = .ok elf ∧ ∀ table ∈ tables.toList,
      let extent := max mapLen.toNat (lastAddress table.symbols).toNat
      loadOffset elf base ≤ base → (loadOffset elf base).toNat + extent < 2 ^ 64 →
        ((∀ pc : UInt64, base.toNat ≤ pc.toNat → pc.toNat < base.toNat + mapLen.toNat →
            table.Covers pc) ↔
          mapLen = 0 ∨ (base - loadOffset elf base).toNat + mapLen.toNat ≤ extent) := by
  obtain ⟨outcome, isOutcome⟩ : ∃ outcome, elfTables env fileName base cr3 mapLen = outcome :=
    ⟨_, rfl⟩
  have ended := readElf_read env image fileName base cr3 fileOff mapLen
  rw [read, isOutcome] at ended
  cases ended with
  | ok added every =>
      obtain ⟨elf, opened, fromFile⟩ := elfTables_fromFile isOutcome
      refine ⟨elf, opened, fun table member below noWrap => ?_⟩
      obtain ⟨type, loaded⟩ := fromFile table member
      exact loaded.covers_all_iff below noWrap fits

/-- The table ends with its symbol, not where the mapping does. -/
theorem readElf_covers_sampleFile :
    ¬ ∀ pc : UInt64, 0x1000 ≤ pc.toNat → pc.toNat < 0x2000 → sampleTable.Covers pc := by
  have ended := readElf_read sampleElf [] (ascii "/f") 0x1000 3 0 0x1000
  rw [elfTables_sampleFile] at ended
  obtain ⟨outcome, isOutcome⟩ : ∃ outcome, readElf sampleElf [] (ascii "/f") 0x1000 3 0 0x1000 =
    outcome := ⟨_, rfl⟩
  rw [isOutcome] at ended
  cases ended with
  | ok added every =>
      obtain ⟨elf, opened, range⟩ := readElf_covers_iff isOutcome (by decide)
      cases elfOpen_sampleFile.symm.trans opened
      have offset : loadOffset sampleReader 0x1000 = 0 := if_neg (by decide +kernel)
      have covered := range sampleTable List.mem_cons_self
      rw [offset] at covered
      exact (covered (by decide) (by decide)).not.mpr (by decide)

end Range

end Gdbserver.SimplePt
