import Gdbserver.IntelPt.Sideband
import Gdbserver.SimplePt.ElfFiles
import Gdbserver.Utils.BuildIdTable

/-!
# The trace decoder

`DecoderState` of `decoder.cc` and `sideband.cc` as a whole. It is created from the
side-band files. Afterwards the library calls it back for memory that its image does
not have: from the address space and the address it finds the process, the load map,
the build id and the file, and loads the file.
-/

set_option autoImplicit false

namespace Gdbserver.IntelPt

open Logic Util SimplePt

def pteNomap : Int := 13

structure PtFile where
  id : UInt64
  file : Bytes
  deriving DecidableEq, Repr

def PtFile.kIdUnset : UInt64 := 0xffffffffffffffff

structure DecoderConfig where
  kernelFileName : Bytes
  kernelCr3 : UInt64
  ptFileName : Bytes
  ptListFileName : Bytes
  ktraceFileName : Bytes
  elfFileNames : List Bytes
  idsFileNames : List Bytes
  mapFileNames : List Bytes

/-- What the records of the ktrace file set is kept apart. `unknownCr3s` is a set. -/
structure Decoder where
  state : DecoderState
  loadMaps : List LoadMap := []
  buildIds : List BuildId := []
  ptFiles : List PtFile := []
  unknownCr3s : List UInt64 := []
  symtabs : SymbolTableTable := []
  image : List ImageFile := []

/-- The files and the libraries. -/
structure DecoderEnv where
  elf : ElfEnv
  paths : PathLibrary
  buffer : LineBuffer
  numbers : Scanf.NumberScanner
  tags : Tags
  currentDirectory : Bytes
  readText : Bytes → Option Bytes
  readForCallback : List ImageFile → UInt64 → UInt64 → Int

/-- If tracing just threads, the trace may not tell the CR3. -/
def lookupProcessByCr3 (processes : List Process) (cr3 : UInt64) : Option Process :=
  processes.find? fun process =>
    process.cr3 == cr3 || (cr3 == ptAsidNoCr3 && processes.length == 1)

def lookupFile (file : Bytes) : Bytes := file

namespace Decoder

def new : Decoder := { state := ⟨0, 0, 0, 0, ptAsidNoCr3, []⟩ }

def lookupMapEntry (decoder : Decoder) (pid addr : UInt64) : Option LoadMap :=
  lookupLoadMap decoder.loadMaps pid addr

def lookupBuildId (decoder : Decoder) (bid : Bytes) : Option BuildId :=
  Util.lookupBuildId decoder.buildIds bid

def addUnknownCr3 (decoder : Decoder) (cr3 : UInt64) : Decoder :=
  { decoder with unknownCr3s := decoder.unknownCr3s.insert cr3 }

variable (env : DecoderEnv)

/-- The tables of the file are added, and its segments to the image. -/
def readElf (decoder : Decoder) (fileName : Bytes) (base cr3 fileOff mapLen : UInt64) :
    Loading Decoder := do
  let (tables, image) ←
    SimplePt.readElf env.elf decoder.image fileName base cr3 fileOff mapLen
  pure { decoder with symtabs := decoder.symtabs ++ tables.toList, image }

/-- Of a kernel only the one table is kept. -/
def readKernelElf (decoder : Decoder) (fileName : Bytes) (cr3 : UInt64) : Loading Decoder := do
  let (tables, image) ← readNonPicElf env.elf decoder.image fileName cr3 true
  pure { decoder with symtabs := decoder.symtabs ++ tables.symtab.toList, image }

/-- The status, and the decoder behind the call; `none` if reading the file crashes. -/
def readMemCallback (decoder : Decoder) (cr3 addr : UInt64) : Option (Int × Decoder) :=
  match lookupProcessByCr3 decoder.state.processes cr3 with
  | none => some (-pteNomap, decoder.addUnknownCr3 cr3)
  | some proc =>
      match decoder.lookupMapEntry proc.pid addr with
      | none => some (-pteNomap, decoder)
      | some map =>
          match decoder.lookupBuildId map.buildId with
          | none => some (-pteNomap, decoder)
          | some bid =>
              if (lookupFile bid.file).length = 0 then some (-pteNomap, decoder)
              else
                match decoder.readElf env (lookupFile bid.file) map.baseAddr cr3 0
                    (map.endAddr - map.loadAddr) with
                | .crashed => none
                | .failed => some (-pteNomap, decoder)
                | .ok after => some (env.readForCallback after.image cr3 addr, after)

/-! ## Side-band files -/

/-- A reader of the table of load maps or of build ids, whose result is false if the
file cannot be opened. -/
def readMapFile (decoder : Decoder) (name : Bytes) : Loading Decoder :=
  match readLogListenerOutput env.numbers decoder.loadMaps (env.readText name) with
  | (true, loadMaps) => .ok { decoder with loadMaps }
  | (false, _) => .failed

def readIdsFile (decoder : Decoder) (name : Bytes) : Loading Decoder :=
  match Util.readIdsFile env.paths env.buffer env.numbers decoder.buildIds name
      (env.readText name) with
  | (true, buildIds) => .ok { decoder with buildIds }
  | (false, _) => .failed

def addPtFile (decoder : Decoder) (fileDir : Bytes) (id : UInt64) (path : Bytes) : Decoder :=
  { decoder with ptFiles := decoder.ptFiles ++ [⟨id, env.paths.resolve fileDir path⟩] }

/-- `%llu %s` -/
def ptListFormat : List Scanf.Directive := .number .k10 :: (Scanf.plain " " ++ [.word])

/-- The number and the string have been stored. -/
def parsePtList (text : Bytes) : Option (UInt64 × Bytes) :=
  match Scanf.scan env.numbers ptListFormat text with
  | [.number id, .text path] => some (id, path)
  | _ => none

def readPtListFile (decoder : Decoder) (name : Bytes) : Loading Decoder :=
  match env.readText name with
  | none => .failed
  | some file =>
      .ok ((readList env.buffer (parsePtList env) file).foldl
        (fun decoder entry =>
          decoder.addPtFile env (env.paths.getDirectoryName name) entry.1 entry.2)
        decoder)

/-- A loop over file names that ends at the first one that cannot be read. -/
def readAll (read : Decoder → Bytes → Loading Decoder) : List Bytes → Decoder → Loading Decoder
  | [], decoder => .ok decoder
  | name :: names, decoder => do
      let decoder ← read decoder name
      readAll read names decoder

/-- The one trace file, or those of a list. -/
def addPtFiles (config : DecoderConfig) (decoder : Decoder) : Loading Decoder :=
  if config.ptFileName ≠ [] then
    .ok (decoder.addPtFile env env.currentDirectory PtFile.kIdUnset config.ptFileName)
  else decoder.readPtListFile env config.ptListFileName

def readKernel (config : DecoderConfig) (decoder : Decoder) : Loading Decoder :=
  if config.kernelFileName ≠ [] then
    let decoder := { decoder with state.kernelCr3 := config.kernelCr3 }
    decoder.readKernelElf env config.kernelFileName config.kernelCr3
  else .ok decoder

/-- What `Create` does with a decoder that has read the ktrace file. -/
def readFiles (config : DecoderConfig) (decoder : Decoder) : Loading Decoder := do
  let decoder ← readAll (readMapFile env) config.mapFileNames decoder
  let decoder ← readAll (readIdsFile env) config.idsFileNames decoder
  let decoder ← decoder.addPtFiles env config
  let decoder ←
    readAll (fun decoder name => decoder.readElf env name 0 0 0 0) config.elfFileNames decoder
  decoder.readKernel env config

/-- A decoder, unless a file cannot be read. `none` is for too little fuel for the ktrace
file, the buffer for which starts as `raw`. -/
def create (fuel : Nat) (raw : Bytes) (config : DecoderConfig) : Option (Loading Decoder) :=
  match readKtraceFile env.tags fuel raw (env.readText config.ktraceFileName) new.state with
  | none => none
  | some (false, _) => some .failed
  | some (true, state) => some (readFiles env config { new with state })

/-- The library asks for memory again and again. -/
def callbacks (decoder : Decoder) : List (UInt64 × UInt64) → Option Decoder
  | [] => some decoder
  | (cr3, addr) :: later =>
      match decoder.readMemCallback env cr3 addr with
      | none => none
      | some (_, after) => after.callbacks later

/-! ## One callback -/

/-- The file that is mapped at an address of an address space, and its load map. -/
def mappedFile (decoder : Decoder) (cr3 addr : UInt64) : Option (Bytes × LoadMap) := do
  let proc ← lookupProcessByCr3 decoder.state.processes cr3
  let map ← decoder.lookupMapEntry proc.pid addr
  let bid ← decoder.lookupBuildId map.buildId
  if (lookupFile bid.file).length = 0 then none else some (lookupFile bid.file, map)

/-- How reading the tables of that file ends; nothing is read if there is no such file. -/
def mappedTables (decoder : Decoder) (cr3 addr : UInt64) : Loading (List SymbolTable) :=
  match decoder.mappedFile cr3 addr with
  | none => .ok []
  | some (file, map) =>
      match elfTables env.elf file map.baseAddr cr3 (map.endAddr - map.loadAddr) with
      | .crashed => .crashed
      | .failed => .ok []
      | .ok tables => .ok tables.toList

/-- The tables that a callback adds. -/
def newTables (decoder : Decoder) (cr3 addr : UInt64) : List SymbolTable :=
  match decoder.mappedTables env cr3 addr with
  | .ok tables => tables
  | _ => []

/-- The side-band data of two decoders is the same. -/
structure SameSideband (one other : Decoder) : Prop where
  state : one.state = other.state
  loadMaps : one.loadMaps = other.loadMaps
  buildIds : one.buildIds = other.buildIds
  ptFiles : one.ptFiles = other.ptFiles

/-- What a callback does. -/
structure CalledBack (decoder : Decoder) (cr3 addr : UInt64) (after : Decoder) : Prop where
  sideband : SameSideband after decoder
  symtabs : after.symtabs = decoder.symtabs ++ decoder.newTables env cr3 addr
  unknown : ∀ other, other ∈ after.unknownCr3s ↔ other ∈ decoder.unknownCr3s ∨
    other = cr3 ∧ lookupProcessByCr3 decoder.state.processes cr3 = none
  image : ∃ added, after.image = decoder.image ++ added ∧ ∀ file ∈ added, file.cr3 = cr3 ∧
    ∃ map, decoder.mappedFile cr3 addr = some (file.fileName, map)

section Callback

variable {env} {decoder after other : Decoder} {cr3 addr pc : UInt64}

theorem SameSideband.refl (decoder : Decoder) : SameSideband decoder decoder :=
  ⟨rfl, rfl, rfl, rfl⟩

theorem SameSideband.trans (first : SameSideband after other) (second : SameSideband other decoder) :
    SameSideband after decoder :=
  ⟨first.state.trans second.state, first.loadMaps.trans second.loadMaps,
    first.buildIds.trans second.buildIds, first.ptFiles.trans second.ptFiles⟩

theorem SameSideband.mappedFile (same : SameSideband after decoder) (cr3 addr : UInt64) :
    after.mappedFile cr3 addr = decoder.mappedFile cr3 addr := by
  simp only [Decoder.mappedFile, lookupMapEntry, lookupBuildId, same.state, same.loadMaps,
    same.buildIds]

theorem SameSideband.mappedTables (same : SameSideband after decoder) (cr3 addr : UInt64) :
    after.mappedTables env cr3 addr = decoder.mappedTables env cr3 addr := by
  simp only [Decoder.mappedTables, same.mappedFile]

theorem SameSideband.newTables (same : SameSideband after decoder) (cr3 addr : UInt64) :
    after.newTables env cr3 addr = decoder.newTables env cr3 addr := by
  simp only [Decoder.newTables, same.mappedTables]

/-- A callback that loads nothing, for a process that is known. -/
theorem calledBack_nothing {process : Process}
    (known : lookupProcessByCr3 decoder.state.processes cr3 = some process)
    (none : decoder.mappedTables env cr3 addr = .ok []) :
    CalledBack env decoder cr3 addr decoder where
  sideband := .refl decoder
  symtabs := by simp [newTables, none]
  unknown := by simp [known]
  image := ⟨[], by simp, by simp⟩

theorem calledBack_unknown (unknown : lookupProcessByCr3 decoder.state.processes cr3 = none) :
    CalledBack env decoder cr3 addr (decoder.addUnknownCr3 cr3) where
  sideband := ⟨rfl, rfl, rfl, rfl⟩
  symtabs := by simp [addUnknownCr3, newTables, mappedTables, mappedFile, unknown]
  unknown := by
    intro other
    simp only [addUnknownCr3, List.mem_insert_iff, unknown, and_true]
    exact Or.comm
  image := ⟨[], by simp [addUnknownCr3], by simp⟩

theorem readMemCallback_of_unmapped (unmapped : decoder.mappedFile cr3 addr = none) :
    decoder.readMemCallback env cr3 addr = some (-pteNomap,
      if lookupProcessByCr3 decoder.state.processes cr3 = none then decoder.addUnknownCr3 cr3
      else decoder) := by
  unfold readMemCallback
  cases known : lookupProcessByCr3 decoder.state.processes cr3 with
  | none => rfl
  | some proc =>
      cases entry : decoder.lookupMapEntry proc.pid addr with
      | none => simp [entry]
      | some map =>
          cases listed : decoder.lookupBuildId map.buildId with
          | none => simp [entry, listed]
          | some bid =>
              have empty : (lookupFile bid.file).length = 0 := by
                by_contra nonempty
                simp only [mappedFile, known, entry, listed, bind, Option.bind, if_neg nonempty]
                  at unmapped
                cases unmapped
              simp only [entry, listed, if_pos empty, reduceCtorEq, ↓reduceIte]

theorem readMemCallback_of_mapped (env : DecoderEnv) {file : Bytes} {map : LoadMap}
    (mapped : decoder.mappedFile cr3 addr = some (file, map)) :
    (∃ proc, lookupProcessByCr3 decoder.state.processes cr3 = some proc) ∧
      decoder.readMemCallback env cr3 addr =
        match decoder.readElf env file map.baseAddr cr3 0 (map.endAddr - map.loadAddr) with
        | .crashed => none
        | .failed => some (-pteNomap, decoder)
        | .ok after => some (env.readForCallback after.image cr3 addr, after) := by
  simp only [mappedFile, bind, Option.bind_eq_some_iff] at mapped
  obtain ⟨proc, known, entry, isEntry, bid, listed, rest⟩ := mapped
  split at rest
  · cases rest
  · next nonempty =>
      cases rest
      refine ⟨⟨proc, known⟩, ?_⟩
      simp only [readMemCallback, known, isEntry, listed, if_neg nonempty]

/-- A callback ends as reading the tables of the mapped file does. -/
theorem readMemCallback_cases (env : DecoderEnv) (decoder : Decoder) (cr3 addr : UInt64) :
    decoder.mappedTables env cr3 addr = .crashed ∧ decoder.readMemCallback env cr3 addr = none ∨
      ∃ tables status after, decoder.mappedTables env cr3 addr = .ok tables ∧
        decoder.readMemCallback env cr3 addr = some (status, after) ∧
        CalledBack env decoder cr3 addr after := by
  cases mapped : decoder.mappedFile cr3 addr with
  | none =>
      have nothing : decoder.mappedTables env cr3 addr = .ok [] := by simp [mappedTables, mapped]
      refine .inr ⟨_, _, _, nothing, readMemCallback_of_unmapped mapped, ?_⟩
      cases known : lookupProcessByCr3 decoder.state.processes cr3 with
      | none => simpa using calledBack_unknown known
      | some proc => simpa using calledBack_nothing known nothing
  | some found =>
      obtain ⟨file, map⟩ := found
      obtain ⟨⟨proc, known⟩, called⟩ := readMemCallback_of_mapped env mapped
      have read := readElf_read env.elf decoder.image file map.baseAddr cr3 0
        (map.endAddr - map.loadAddr)
      simp only [readElf] at called
      obtain ⟨loaded, isLoaded⟩ : ∃ loaded, elfTables env.elf file map.baseAddr cr3
          (map.endAddr - map.loadAddr) = loaded := ⟨_, rfl⟩
      obtain ⟨outcome, isOutcome⟩ : ∃ outcome, SimplePt.readElf env.elf decoder.image file
          map.baseAddr cr3 0 (map.endAddr - map.loadAddr) = outcome := ⟨_, rfl⟩
      rw [isOutcome] at called
      rw [isLoaded, isOutcome] at read
      cases read with
      | crashed => exact .inl ⟨by simp [mappedTables, mapped, isLoaded], called⟩
      | failed =>
          have nothing : decoder.mappedTables env cr3 addr = .ok [] := by
            simp [mappedTables, mapped, isLoaded]
          exact .inr ⟨_, _, _, nothing, called, calledBack_nothing known nothing⟩
      | @ok tables added every =>
          have made : decoder.mappedTables env cr3 addr = .ok tables.toList := by
            simp [mappedTables, mapped, isLoaded]
          refine .inr ⟨_, _, _, made, called, ⟨rfl, rfl, rfl, rfl⟩, ?_, ?_, added, rfl, ?_⟩
          · simp [newTables, made]
          · simp [known]
          · intro one member
            obtain ⟨name, space⟩ := every one member
            exact ⟨space, map, name ▸ mapped⟩

end Callback

/-! ## Runs of callbacks -/

/-- What callbacks do one after the other. -/
structure RanTo (decoder : Decoder) (calls : List (UInt64 × UInt64)) (after : Decoder) : Prop where
  sideband : SameSideband after decoder
  symtabs : after.symtabs =
    decoder.symtabs ++ calls.flatMap fun call => decoder.newTables env call.1 call.2
  unknown : ∀ cr3, cr3 ∈ after.unknownCr3s ↔ cr3 ∈ decoder.unknownCr3s ∨
    (∃ addr, (cr3, addr) ∈ calls) ∧ lookupProcessByCr3 decoder.state.processes cr3 = none
  image : ∃ added, after.image = decoder.image ++ added ∧ ∀ file ∈ added, ∃ addr map,
    (file.cr3, addr) ∈ calls ∧ decoder.mappedFile file.cr3 addr = some (file.fileName, map)

section Runs

variable {env} {decoder after : Decoder} {calls : List (UInt64 × UInt64)}

theorem RanTo.cons {cr3 addr : UInt64} {between : Decoder}
    (first : CalledBack env decoder cr3 addr between) (rest : RanTo env between calls after) :
    RanTo env decoder ((cr3, addr) :: calls) after where
  sideband := rest.sideband.trans first.sideband
  symtabs := by
    simp only [rest.symtabs, first.symtabs, first.sideband.newTables, List.flatMap_cons,
      List.append_assoc]
  unknown other := by
    rw [rest.unknown, first.unknown, first.sideband.state]
    constructor
    · rintro ((before | ⟨rfl, unknown⟩) | ⟨⟨later, member⟩, unknown⟩)
      · exact .inl before
      · exact .inr ⟨⟨addr, List.mem_cons_self⟩, unknown⟩
      · exact .inr ⟨⟨later, List.mem_cons_of_mem _ member⟩, unknown⟩
    · rintro (before | ⟨⟨later, member⟩, unknown⟩)
      · exact .inl (.inl before)
      · cases List.mem_cons.mp member with
        | inl same =>
            cases same
            exact .inl (.inr ⟨rfl, unknown⟩)
        | inr inCalls => exact .inr ⟨⟨later, inCalls⟩, unknown⟩
  image := by
    obtain ⟨added, here, own⟩ := first.image
    obtain ⟨further, whole, every⟩ := rest.image
    refine ⟨added ++ further, by rw [whole, here, List.append_assoc], fun file member => ?_⟩
    cases List.mem_append.mp member with
    | inl inAdded =>
        obtain ⟨rfl, map, mapped⟩ := own file inAdded
        exact ⟨addr, map, List.mem_cons_self, mapped⟩
    | inr inFurther =>
        obtain ⟨later, map, inCalls, mapped⟩ := every file inFurther
        rw [first.sideband.mappedFile] at mapped
        exact ⟨later, map, List.mem_cons_of_mem _ inCalls, mapped⟩

/-- A run of callbacks ends unless reading the tables of one of the mapped files crashes. -/
theorem callbacks_cases (env : DecoderEnv) (decoder : Decoder) (calls : List (UInt64 × UInt64)) :
    ((∃ call ∈ calls, decoder.mappedTables env call.1 call.2 = .crashed) ∧
        decoder.callbacks env calls = none) ∨
      ((∀ call ∈ calls, ∃ tables, decoder.mappedTables env call.1 call.2 = .ok tables) ∧
        ∃ after, decoder.callbacks env calls = some after ∧ RanTo env decoder calls after) := by
  induction calls generalizing decoder with
  | nil => exact .inr ⟨by simp, decoder, rfl, .refl decoder, by simp, by simp, [], by simp, by simp⟩
  | cons call calls ih =>
      obtain ⟨cr3, addr⟩ := call
      cases readMemCallback_cases env decoder cr3 addr with
      | inl crashed =>
          obtain ⟨file, called⟩ := crashed
          exact .inl ⟨⟨_, List.mem_cons_self, file⟩, by simp [callbacks, called]⟩
      | inr went =>
          obtain ⟨tables, status, between, made, called, calledBack⟩ := went
          have step : decoder.callbacks env ((cr3, addr) :: calls) = between.callbacks env calls := by
            simp [callbacks, called]
          cases ih between with
          | inl crashed =>
              obtain ⟨⟨later, member, file⟩, none⟩ := crashed
              rw [calledBack.sideband.mappedTables] at file
              exact .inl ⟨⟨later, List.mem_cons_of_mem _ member, file⟩, step.trans none⟩
          | inr ended =>
              obtain ⟨every, after, ran, ranTo⟩ := ended
              refine .inr ⟨?_, after, step.trans ran, ranTo.cons calledBack⟩
              rw [List.forall_mem_cons]
              refine ⟨⟨tables, made⟩, fun later member => ?_⟩
              obtain ⟨others, read⟩ := every later member
              exact ⟨others, by rw [← read, calledBack.sideband.mappedTables]⟩

theorem ranTo_of_callbacks (ran : decoder.callbacks env calls = some after) :
    RanTo env decoder calls after ∧
      ∀ call ∈ calls, ∃ tables, decoder.mappedTables env call.1 call.2 = .ok tables := by
  cases callbacks_cases env decoder calls with
  | inl crashed =>
      rw [crashed.2] at ran
      cases ran
  | inr ended =>
      obtain ⟨every, reached, same, ranTo⟩ := ended
      cases ran.symm.trans same
      exact ⟨ranTo, every⟩

/-- A run of callbacks crashes exactly if reading the tables of one of the mapped files
does. Otherwise the side-band data stays as it is, the tables of the mapped files are
added in the order of the callbacks, the address spaces without a process are exactly
those noted, and what is added to the image are files mapped in the address space. -/
theorem callbacks_outcome (env : DecoderEnv) (decoder : Decoder)
    (calls : List (UInt64 × UInt64)) :
    (decoder.callbacks env calls = none ↔
      ∃ call ∈ calls, decoder.mappedTables env call.1 call.2 = .crashed) ∧
    (decoder.callbacks env calls = none ∨
      ∃ after, decoder.callbacks env calls = some after ∧ RanTo env decoder calls after) := by
  cases callbacks_cases env decoder calls with
  | inl crashed => exact ⟨iff_of_true crashed.2 crashed.1, .inl crashed.2⟩
  | inr ended =>
      obtain ⟨every, after, ran, ranTo⟩ := ended
      refine ⟨iff_of_false (by simp [ran]) ?_, .inr ⟨after, ran, ranTo⟩⟩
      rintro ⟨call, member, crashed⟩
      obtain ⟨tables, read⟩ := every call member
      cases crashed.symm.trans read

end Runs

/-! ## A decoder -/

/-- One file, mapped in one process. -/
def sampleEnv : DecoderEnv where
  elf := sampleElf
  paths := ⟨id, id⟩
  buffer := .simple
  numbers := .simple
  tags := sampleTags
  currentDirectory := []
  readText _ := none
  readForCallback _ _ _ := 0

def sampleDecoder : Decoder where
  state := ⟨0, 0, 0, 0, 0, [⟨7, 3, 0, 0⟩]⟩
  loadMaps := [⟨7, 0x1000, 0x1000, 0x2000, [], [], ascii "b"⟩]
  buildIds := [⟨ascii "b", ascii "/f"⟩]

theorem mappedTables_sampleDecoder :
    sampleDecoder.mappedTables sampleEnv 3 0x1008 = .ok [sampleTable] := by
  have mapped : sampleDecoder.mappedFile 3 0x1008 =
      some (ascii "/f", ⟨7, 0x1000, 0x1000, 0x2000, [], [], ascii "b"⟩) := by decide
  have length : (0x2000 : UInt64) - 0x1000 = 0x1000 := by decide
  simp only [mappedTables, mapped, sampleEnv, length, elfTables_sampleFile]
  rfl

/-- The file has been loaded. -/
theorem callbacks_sampleDecoder : ∃ after,
    sampleDecoder.callbacks sampleEnv [(3, 0x1008)] = some after ∧ after.symtabs = [sampleTable] := by
  cases callbacks_cases sampleEnv sampleDecoder [(3, 0x1008)] with
  | inl crashed =>
      obtain ⟨⟨call, member, file⟩, -⟩ := crashed
      rw [List.mem_singleton.mp member, mappedTables_sampleDecoder] at file
      cases file
  | inr ended =>
      obtain ⟨-, after, ran, ranTo⟩ := ended
      refine ⟨after, ran, ?_⟩
      have none : sampleDecoder.symtabs = [] := rfl
      simp [ranTo.symtabs, none, newTables, mappedTables_sampleDecoder]

section Lookups

variable {env} {decoder after : Decoder} {calls : List (UInt64 × UInt64)}

/-- Callbacks for what has been asked for before change no lookup, though their tables
are added once more. -/
theorem callbacks_again {again : List (UInt64 × UInt64)}
    (ran : decoder.callbacks env calls = some after) (repeated : ∀ call ∈ again, call ∈ calls) :
    ∃ later, decoder.callbacks env (calls ++ again) = some later ∧
      (∀ cr3 pc, findSymbol env.elf.library later.symtabs cr3 pc =
          findSymbol env.elf.library after.symtabs cr3 pc ∧
        findPcFileName later.symtabs cr3 pc = findPcFileName after.symtabs cr3 pc) ∧
      (∀ cr3, cr3 ∈ later.unknownCr3s ↔ cr3 ∈ after.unknownCr3s) ∧
      later.symtabs.length = after.symtabs.length +
        (again.flatMap fun call => decoder.newTables env call.1 call.2).length := by
  obtain ⟨ranTo, every⟩ := ranTo_of_callbacks ran
  have still : ∀ call ∈ calls ++ again, call ∈ calls := by
    intro call member
    exact (List.mem_append.mp member).elim id (repeated call)
  cases callbacks_cases env decoder (calls ++ again) with
  | inl crashed =>
      obtain ⟨⟨call, member, file⟩, -⟩ := crashed
      obtain ⟨tables, read⟩ := every call (still call member)
      cases file.symm.trans read
  | inr ended =>
      obtain ⟨-, later, ranFurther, further⟩ := ended
      have grown : later.symtabs = after.symtabs ++
          again.flatMap fun call => decoder.newTables env call.1 call.2 := by
        rw [further.symtabs, ranTo.symtabs, List.flatMap_append, List.append_assoc]
      have present : ∀ table ∈ again.flatMap fun call => decoder.newTables env call.1 call.2,
          table ∈ after.symtabs := by
        intro table member
        obtain ⟨call, inAgain, isNew⟩ := List.mem_flatMap.mp member
        rw [ranTo.symtabs]
        exact List.mem_append_right _ (List.mem_flatMap.mpr ⟨call, repeated call inAgain, isNew⟩)
      refine ⟨later, ranFurther, fun cr3 pc => ?_, fun cr3 => ?_, by rw [grown, List.length_append]⟩
      · have same : findSymbolTable later.symtabs cr3 pc = findSymbolTable after.symtabs cr3 pc := by
          rw [grown, findSymbolTable_again present]
        exact ⟨by rw [findSymbol, findSymbol, same], by rw [findPcFileName_eq, findPcFileName_eq, same]⟩
      · rw [further.unknown, ranTo.unknown]
        have asked : (∃ addr, (cr3, addr) ∈ calls ++ again) ↔ ∃ addr, (cr3, addr) ∈ calls :=
          ⟨fun ⟨addr, member⟩ => ⟨addr, still _ member⟩,
            fun ⟨addr, member⟩ => ⟨addr, List.mem_append_left _ member⟩⟩
        rw [asked]

/-- Asked a second time, the decoder has the table twice. -/
theorem callbacks_again_sampleDecoder : ∃ later,
    sampleDecoder.callbacks sampleEnv [(3, 0x1008), (3, 0x1008)] = some later ∧
      later.symtabs.length = 2 ∧
      findPcFileName later.symtabs 3 0x1000 = some (ascii "/f") := by
  obtain ⟨after, ran, tables⟩ := callbacks_sampleDecoder
  obtain ⟨later, further, lookups, -, length⟩ := callbacks_again ran fun _ member => member
  refine ⟨later, further, ?_, ?_⟩
  · rw [length, tables]
    simp [newTables, mappedTables_sampleDecoder]
  · rw [(lookups 3 0x1000).2, tables]
    decide

/-- The tables that callbacks add are those of the mapped files. -/
theorem fromFile_of_newTables {cr3 addr : UInt64} {table : SymbolTable}
    (member : table ∈ decoder.newTables env cr3 addr) :
    ∃ file map elf, decoder.mappedFile cr3 addr = some (file, map) ∧
      elfOpen env.elf file = .ok elf ∧ FromFile env.elf elf.readSectionHeaders.2
        ⟨file, cr3, map.baseAddr, map.endAddr - map.loadAddr, loadOffset elf map.baseAddr, false⟩
        table := by
  unfold newTables mappedTables at member
  cases mapped : decoder.mappedFile cr3 addr with
  | none => simp [mapped] at member
  | some found =>
      obtain ⟨file, map⟩ := found
      simp only [mapped] at member
      cases loaded : elfTables env.elf file map.baseAddr cr3 (map.endAddr - map.loadAddr) with
      | crashed => simp [loaded] at member
      | failed => simp [loaded] at member
      | ok tables =>
          simp only [loaded] at member
          obtain ⟨elf, opened, every⟩ := elfTables_fromFile loaded
          exact ⟨file, map, elf, rfl, opened, every table member⟩

/-- Whatever symbol is found for an address that the tables the decoder had at first do not
have: its table is that of a file that is mapped, by the side-band data, at an address
that has been asked for in an address space that matches, and has the symbols of the file.
If these can be searched, then it is the symbol of the file that contains the address, once
the difference is taken off between where the file was loaded and its own addresses. -/
theorem callbacks_findSymbol {cr3 pc : UInt64} {symbol : Elf.Symbol} {table : SymbolTable}
    (ran : decoder.callbacks env calls = some after)
    (outside : findSymbolTable decoder.symtabs cr3 pc = none)
    (found : findSymbol env.elf.library after.symtabs cr3 pc = (some symbol, some table)) :
    ∃ space addr file map elf type, (space, addr) ∈ calls ∧ cr3Matches space cr3 = true ∧
      decoder.mappedFile space addr = some (file, map) ∧ elfOpen env.elf file = .ok elf ∧
      table.fileName = file ∧ table.Covers pc ∧
      let symbols := fileSymbols env.elf elf.readSectionHeaders.2 type
      let place : Place := ⟨file, space, map.baseAddr, map.endAddr - map.loadAddr,
        loadOffset elf map.baseAddr, false⟩
      LoadedAt env.elf.library place symbols table ∧ (Searchable symbols place table pc →
        symbol ∈ symbols ∧ symbol.Contains (pc - loadOffset elf map.baseAddr)) := by
  obtain ⟨ranTo, -⟩ := ranTo_of_callbacks ran
  unfold findSymbol at found
  cases first : findSymbolTable after.symtabs cr3 pc with
  | none => simp [first] at found
  | some other =>
      simp only [first, Prod.mk.injEq, Option.some.injEq] at found
      obtain ⟨inTable, rfl⟩ := found
      rw [ranTo.symtabs, findSymbolTable_eq_find?, List.find?_append,
        ← findSymbolTable_eq_find?, outside, Option.none_or] at first
      obtain ⟨⟨space, addr⟩, asked, isNew⟩ :=
        List.mem_flatMap.mp (List.mem_of_find?_eq_some first)
      have isFor : other.IsFor cr3 pc := by simpa using List.find?_some first
      obtain ⟨file, map, elf, mapped, opened, type, loaded⟩ := fromFile_of_newTables isNew
      have matching : cr3Matches space cr3 = true := by
        have matched := isFor.1
        rwa [loaded.cr3] at matched
      refine ⟨space, addr, file, map, elf, type, asked, matching, mapped, opened, loaded.fileName,
        isFor.2, loaded, fun searchable => ?_⟩
      have behind : map.baseAddr ≤ pc := by
        have low := isFor.2.1
        rwa [loaded.base] at low
      exact (loaded.findSymbol_iff searchable behind symbol).mp inTable

theorem callbacks_findSymbol_sampleDecoder : ∃ space addr file map elf,
    (space, addr) ∈ [((3 : UInt64), (0x1008 : UInt64))] ∧ cr3Matches space 3 = true ∧
      sampleDecoder.mappedFile space addr = some (file, map) ∧
      elfOpen sampleElf file = .ok elf ∧ sampleTable.fileName = file ∧
      sampleTable.Covers 0x100c ∧
      sampleSymbol.Contains (0x100c - loadOffset elf map.baseAddr) := by
  obtain ⟨after, ran, tables⟩ := callbacks_sampleDecoder
  have found : findSymbol sampleEnv.elf.library after.symtabs 3 0x100c =
      (some sampleSymbol, some sampleTable) := by
    rw [tables]
    rfl
  obtain ⟨space, addr, file, map, elf, type, asked, matching, mapped, opened, name, covers, loaded,
    contains⟩ := callbacks_findSymbol ran (by decide) found
  refine ⟨space, addr, file, map, elf, asked, matching, mapped, opened, name, covers,
    (contains ?_).2⟩
  -- the symbols of the file are those of the table
  have symbols : fileSymbols sampleElf elf.readSectionHeaders.2 type = [sampleSymbol] := by
    have sorted : [sampleSymbol] = _ := loaded.symbols
    refine List.perm_singleton.mp (List.Perm.symm ?_)
    rw [sorted]
    exact merged_perm Elf.compareSymbol _
  have offset : (0 : UInt64) = loadOffset elf map.baseAddr := loaded.offset
  have near : Elf.SymbolsNear [sampleSymbol] := by
    unfold Elf.SymbolsNear
    decide
  have nearby : Elf.AddressNear [sampleSymbol] (0x100c - 0) := ⟨by decide, by decide⟩
  have inside : (0 : UInt64) ≤ 0x100c := by decide
  change Searchable (fileSymbols sampleElf elf.readSectionHeaders.2 type) _ _ _
  rw [← offset, symbols]
  refine ⟨⟨by decide, by decide, by decide⟩, by decide, near, nearby, inside, ?_⟩
  rw [UInt64.toNat_zero, Nat.zero_add]
  exact Nat.max_lt.mpr ⟨UInt64.toNat_lt _, UInt64.toNat_lt _⟩

end Lookups

end Decoder

end Gdbserver.IntelPt
