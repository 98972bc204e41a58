import Gdbserver.IntelPt.Decoder
import Gdbserver.Utils.LoadMapRecords

/-!
# From the side-band files to a mapped file

What the kernel, the dynamic linker and the build have written comes together in a
callback: the ktrace records give the process of an address space, the log gives the
load map of an address, and the list of build ids gives the file.
-/

set_option autoImplicit false

namespace Gdbserver.IntelPt

open Logic Util SimplePt Ktrace

/-! ## Processes by their address spaces -/

/-- The process id and the address space of every process that is created. -/
def createdSpaces (tags : Tags) (records : List Bytes) : List (UInt64 × UInt64) :=
  (records.filter fun record => tag record = tags.iptProcessCreate).map fun record =>
    (recPid record, recCr3 record)

theorem processTable_spaces (tags : Tags) (records : List Bytes) :
    (processTable tags records).map (fun process => (process.pid, process.cr3)) =
      createdSpaces tags records := by
  induction records with
  | nil => rfl
  | cons record records ih =>
      by_cases create : tag record = tags.iptProcessCreate
      · simp [processTable, createdSpaces, create, ih]
      · simp [processTable, createdSpaces, create, ih]

/-- An address space is that of the process that had it first. -/
theorem lookupProcessByCr3_first {processes : List Process} {pid cr3 : UInt64}
    {before after : List (UInt64 × UInt64)}
    (spaces : processes.map (fun process => (process.pid, process.cr3)) =
      before ++ (pid, cr3) :: after)
    (first : ∀ space ∈ before, space.2 ≠ cr3) :
    ∃ process, lookupProcessByCr3 processes cr3 = some process ∧ process.pid = pid := by
  obtain ⟨earlier, rest, rfl, isBefore, isRest⟩ := List.map_eq_append_iff.mp spaces
  obtain ⟨process, later, rfl, own, isAfter⟩ := List.map_eq_cons_iff.mp isRest
  simp only [Prod.mk.injEq] at own
  refine ⟨process, ?_, own.1⟩
  rw [lookupProcessByCr3, List.find?_append]
  have none : earlier.find? (fun other => other.cr3 == cr3 ||
      (cr3 == ptAsidNoCr3 && (earlier ++ process :: later).length == 1)) = none := by
    rw [List.find?_eq_none]
    intro other member
    have different : other.cr3 ≠ cr3 := by
      apply first (other.pid, other.cr3)
      rw [← isBefore]
      exact List.mem_map.mpr ⟨other, member, rfl⟩
    have positive := List.length_pos_of_mem member
    have several : earlier.length + (later.length + 1) ≠ 1 := by omega
    simp [different, several]
  rw [none, Option.none_or, List.find?_cons_of_pos (by simp [own.2])]

/-! ## Logs that have been printed -/

/-- A line of the log: what stands in front, and the record. -/
structure IsLogLine (line : Bytes × Record) : Prop where
  stamp : line.1 ≠ []
  clear : chr '@' ∉ line.1
  words : HasWords line.2
  text : IsText (printRecord line.1 line.2)

def printLog (log : List (Bytes × Record)) : Bytes :=
  Logic.Delimited.terminated (chr '\n') (log.map fun line => printRecord line.1 line.2)

structure IsLog (log : List (Bytes × Record)) : Prop where
  isLine : ∀ line ∈ log, IsLogLine line
  small : ∀ line ∈ log, line.2.pair ∈ SmallPairs
  order : InOrder (log.map Prod.snd)

section Logs

variable {numbers : Scanf.NumberScanner} {log : List (Bytes × Record)}

theorem lines_printLog (isLine : ∀ line ∈ log, IsLogLine line) : lines (printLog log) =
    log.map fun line => printRecord line.1 line.2 ++ [chr '\n'] := by
  have clear : ∀ field ∈ log.map (fun line => printRecord line.1 line.2), chr '\n' ∉ field := by
    intro field member
    obtain ⟨line, inLog, rfl⟩ := List.mem_map.mp member
    exact (isLine line inLog).text.newline
  rw [printLog, lines_terminated clear, List.map_map]
  rfl

theorem logRecords_printLog (isLine : ∀ line ∈ log, IsLogLine line) :
    logRecords numbers (printLog log) = log.map Prod.snd := by
  rw [logRecords, lines_printLog isLine, List.filterMap_map, ← List.filterMap_eq_map]
  apply List.filterMap_congr
  intro line member
  obtain ⟨stamp, clear, words, text⟩ := isLine line member
  simp only [Function.comp_apply, lineRecord, text.classify_line,
    scanRecord_printRecord stamp clear words]

/-- The objects that the records describe are added to the table. -/
theorem readLog_printLog (isLog : IsLog log) (maps : List LoadMap) :
    readLogListenerOutput numbers maps (some (printLog log)) =
      (true, maps ++ objects (log.map Prod.snd)) := by
  have records : logRecords numbers (printLog log) = log.map Prod.snd :=
    logRecords_printLog isLog.isLine
  have noReboot : ∀ line ∈ lines (printLog log), classify line ≠ .rebooted := by
    intro line member
    rw [lines_printLog isLog.isLine] at member
    obtain ⟨one, inLog, rfl⟩ := List.mem_map.mp member
    rw [(isLog.isLine one inLog).text.classify_line]
    simp
  have within : ∀ record ∈ logRecords numbers (printLog log), record.pair ∈ SmallPairs := by
    intro record member
    rw [records] at member
    obtain ⟨line, inLog, rfl⟩ := List.mem_map.mp member
    exact isLog.small line inLog
  rw [readLog_of_injOn pairId_injOn_smallPairs maps noReboot within (records ▸ isLog.order),
    records]

end Logs

/-! ## A decoder that has been created -/

/-- What has been written: the ktrace records, and what the log and the list of build ids
with a name say. -/
structure SidebandFiles where
  records : List Bytes
  log : Bytes → List (Bytes × Record)
  ids : Bytes → List (Bytes × Bytes)

structure Written (env : DecoderEnv) (config : DecoderConfig) (files : SidebandFiles) : Prop where
  ktrace : ∃ file, env.readText config.ktraceFileName = some file ∧
    Itemized IsRecord file files.records
  once : (created env.tags files.records).Nodup
  logs : ∀ name ∈ config.mapFileNames,
    env.readText name = some (printLog (files.log name)) ∧ IsLog (files.log name)
  ids : ∀ name ∈ config.idsFileNames,
    env.readText name =
        some (Logic.Delimited.terminated (chr '\n') ((files.ids name).map printIdsLine)) ∧
      ∀ entry ∈ files.ids name, IsIdsEntry entry

namespace SidebandFiles

def maps (files : SidebandFiles) (config : DecoderConfig) : List LoadMap :=
  config.mapFileNames.flatMap fun name => objects ((files.log name).map Prod.snd)

def buildIds (files : SidebandFiles) (paths : PathLibrary) (config : DecoderConfig) :
    List BuildId :=
  config.idsFileNames.flatMap fun name =>
    (files.ids name).map (addBuildId paths (paths.getDirectoryName name))

end SidebandFiles

theorem readKtraceFile_processes {tags : Tags} {file : Bytes} {records : List Bytes}
    (cut : Itemized IsRecord file records) (once : (created tags records).Nodup)
    {state : DecoderState} (empty : state.processes = []) {fuel : Nat} (enough : file.length < fuel)
    (raw : Bytes) : ∃ final, readKtraceFile tags fuel raw (some file) state = some (true, final) ∧
      final.processes = processTable tags records := by
  obtain ⟨outcome, ran, handedOut, -⟩ := readFile_ended (processKtraceRecord tags) raw cut state
  have every : ∀ record ∈ records, IsRecord record :=
    ((cut.longest_iff isRecord_prefixFree records).mpr rfl).starts.every
  obtain ⟨zero, folded⟩ := apply_of_handedOut handedOut every
  refine ⟨outcome.2.arg, by simp [readKtraceFile, ran fuel enough, zero], ?_⟩
  have fresh : (pids tags state records).Nodup := by
    rw [pids, empty]
    exact once
  rw [folded, foldl_processes fresh, empty]
  rfl

namespace Decoder

/-- What the lookups of a callback use is the same. -/
structure SameLookups (one other : Decoder) : Prop where
  processes : one.state.processes = other.state.processes
  loadMaps : one.loadMaps = other.loadMaps
  buildIds : one.buildIds = other.buildIds

section Created

variable {env : DecoderEnv} {config : DecoderConfig} {files : SidebandFiles}
  {decoder after other : Decoder}

theorem SameLookups.refl (decoder : Decoder) : SameLookups decoder decoder := ⟨rfl, rfl, rfl⟩

theorem SameLookups.trans (first : SameLookups after other) (second : SameLookups other decoder) :
    SameLookups after decoder :=
  ⟨first.processes.trans second.processes, first.loadMaps.trans second.loadMaps,
    first.buildIds.trans second.buildIds⟩

theorem readAll_mapFiles {names : List Bytes}
    (logs : ∀ name ∈ names,
      env.readText name = some (printLog (files.log name)) ∧ IsLog (files.log name))
    (decoder : Decoder) : readAll (readMapFile env) names decoder = .ok
      { decoder with loadMaps := decoder.loadMaps ++
          names.flatMap fun name => objects ((files.log name).map Prod.snd) } := by
  induction names generalizing decoder with
  | nil => simp [readAll]
  | cons name names ih =>
      rw [List.forall_mem_cons] at logs
      have read : readMapFile env decoder name = .ok { decoder with
          loadMaps := decoder.loadMaps ++ objects ((files.log name).map Prod.snd) } := by
        rw [readMapFile, logs.1.1, readLog_printLog logs.1.2]
      simp only [readAll, read, bind, Loading.bind, ih logs.2, List.flatMap_cons,
        List.append_assoc]

theorem readAll_idsFiles {names : List Bytes}
    (ids : ∀ name ∈ names,
      env.readText name =
          some (Logic.Delimited.terminated (chr '\n') ((files.ids name).map printIdsLine)) ∧
        ∀ entry ∈ files.ids name, IsIdsEntry entry)
    (decoder : Decoder) : readAll (readIdsFile env) names decoder = .ok
      { decoder with buildIds := decoder.buildIds ++ names.flatMap fun name =>
          (files.ids name).map (addBuildId env.paths (env.paths.getDirectoryName name)) } := by
  induction names generalizing decoder with
  | nil => simp [readAll]
  | cons name names ih =>
      rw [List.forall_mem_cons] at ids
      have read : readIdsFile env decoder name = .ok { decoder with
          buildIds := decoder.buildIds ++ (files.ids name).map
            (addBuildId env.paths (env.paths.getDirectoryName name)) } := by
        rw [readIdsFile, ids.1.1, readIdsFile_printed _ _ _ _ _ ids.1.2]
      simp only [readAll, read, bind, Loading.bind, ih ids.2, List.flatMap_cons,
        List.append_assoc]

theorem sameLookups_addPtFiles (added : decoder.addPtFiles env config = .ok after) :
    SameLookups after decoder := by
  unfold addPtFiles at added
  split at added
  · cases added
    exact ⟨rfl, rfl, rfl⟩
  · unfold readPtListFile at added
    cases text : env.readText config.ptListFileName with
    | none => simp [text] at added
    | some file =>
        simp only [text, Loading.ok.injEq] at added
        subst added
        generalize readList env.buffer (parsePtList env) file = entries
        induction entries generalizing decoder with
        | nil => exact .refl decoder
        | cons entry entries ih => exact ih.trans ⟨rfl, rfl, rfl⟩

/-- Reading a file adds to the tables and to the image. -/
theorem readElf_added {name : Bytes} {base cr3 fileOff mapLen : UInt64}
    (read : decoder.readElf env name base cr3 fileOff mapLen = .ok after) :
    ∃ symtabs image, after = { decoder with symtabs, image } := by
  obtain ⟨loaded, -, rest⟩ := Loading.bind_eq_ok.mp read
  cases rest
  exact ⟨_, _, rfl⟩

theorem readKernel_added (read : decoder.readKernel env config = .ok after) :
    ∃ kernelCr3 symtabs image,
      after = { decoder with state.kernelCr3 := kernelCr3, symtabs := symtabs, image := image } := by
  unfold readKernel at read
  split at read
  · obtain ⟨loaded, -, rest⟩ := Loading.bind_eq_ok.mp read
    cases rest
    exact ⟨_, _, _, rfl⟩
  · cases read
    exact ⟨_, _, _, rfl⟩

theorem sameLookups_readElf {name : Bytes} {base cr3 fileOff mapLen : UInt64}
    (read : decoder.readElf env name base cr3 fileOff mapLen = .ok after) :
    SameLookups after decoder := by
  obtain ⟨symtabs, image, rfl⟩ := readElf_added read
  exact ⟨rfl, rfl, rfl⟩

theorem sameLookups_readKernel (read : decoder.readKernel env config = .ok after) :
    SameLookups after decoder := by
  obtain ⟨kernelCr3, symtabs, image, rfl⟩ := readKernel_added read
  exact ⟨rfl, rfl, rfl⟩

/-- What every file leaves, all of them leave. -/
theorem readAll_frame (same : Decoder → Decoder → Prop) (refl : ∀ decoder, same decoder decoder)
    (trans : ∀ {one other last}, same one other → same other last → same one last)
    {read : Decoder → Bytes → Loading Decoder}
    (keeps : ∀ decoder name after, read decoder name = .ok after → same after decoder)
    {decoder : Decoder} {names : List Bytes} (ran : readAll read names decoder = .ok after) :
    same after decoder := by
  induction names generalizing decoder with
  | nil =>
      cases ran
      exact refl _
  | cons name names ih =>
      obtain ⟨between, first, rest⟩ := Loading.bind_eq_ok.mp ran
      exact trans (ih rest) (keeps decoder name between first)

theorem new_processes : new.state.processes = [] := rfl

/-- The tables that a decoder is created with are what has been written. -/
theorem create_lookups (written : Written env config files) {fuel : Nat} {raw : Bytes}
    (enough : ∀ file, env.readText config.ktraceFileName = some file → file.length < fuel)
    (made : create env fuel raw config = some (.ok decoder)) :
    decoder.state.processes = processTable env.tags files.records ∧
      decoder.loadMaps = files.maps config ∧
      decoder.buildIds = files.buildIds env.paths config := by
  obtain ⟨file, text, cut⟩ := written.ktrace
  obtain ⟨state, read, processes⟩ :=
    readKtraceFile_processes cut written.once new_processes (enough file text) raw
  simp only [create, text, read, Option.some.injEq] at made
  -- the maps and the ids are read first, and nothing behind them changes the lookups
  obtain ⟨mapped, maps, rest⟩ := Loading.bind_eq_ok.mp made
  obtain ⟨listed, ids, rest⟩ := Loading.bind_eq_ok.mp rest
  obtain ⟨traced, traces, rest⟩ := Loading.bind_eq_ok.mp rest
  obtain ⟨loaded, elfs, kernel⟩ := Loading.bind_eq_ok.mp rest
  cases (readAll_mapFiles written.logs _).symm.trans maps
  cases (readAll_idsFiles written.ids _).symm.trans ids
  have same := ((sameLookups_readKernel kernel).trans
    (readAll_frame SameLookups .refl .trans (fun _ _ _ => sameLookups_readElf) elfs)).trans
    (sameLookups_addPtFiles traces)
  exact ⟨same.processes.trans processes, same.loadMaps, same.buildIds⟩

end Created

/-! ## A callback -/

/-- What the side-band files say of an address. The process was the first one with its
address space, and no other load map of it has the address. -/
structure MapsTo (env : DecoderEnv) (config : DecoderConfig) (files : SidebandFiles)
    (cr3 addr : UInt64) (map : LoadMap) (bid : BuildId) : Prop where
  process : ∃ before after, createdSpaces env.tags files.records =
    before ++ (map.pid, cr3) :: after ∧ ∀ space ∈ before, space.2 ≠ cr3
  known : map ∈ files.maps config
  covers : map.loadAddr ≤ addr ∧ addr < map.endAddr
  unique : ∀ other ∈ files.maps config, other.Covers map.pid addr → other = map
  listed : (files.buildIds env.paths config).find? (·.buildId == map.buildId) = some bid

section Callback

variable {env : DecoderEnv} {config : DecoderConfig} {files : SidebandFiles} {decoder : Decoder}

theorem resolve_ne_nil (paths : PathLibrary) (fileDir : Bytes) {path : Bytes} (some : path ≠ []) :
    paths.resolve fileDir path ≠ [] := by
  unfold PathLibrary.resolve
  split
  · simp
  · exact some

theorem MapsTo.mappedFile {cr3 addr : UInt64} {map : LoadMap} {bid : BuildId}
    (mapsTo : MapsTo env config files cr3 addr map bid) (written : Written env config files)
    (processes : decoder.state.processes = processTable env.tags files.records)
    (loadMaps : decoder.loadMaps = files.maps config)
    (buildIds : decoder.buildIds = files.buildIds env.paths config) :
    decoder.mappedFile cr3 addr = some (bid.file, map) := by
  obtain ⟨before, after, spaces, first⟩ := mapsTo.process
  rw [← processTable_spaces, ← processes] at spaces
  obtain ⟨process, known, pid⟩ := lookupProcessByCr3_first spaces first
  have entry : decoder.lookupMapEntry process.pid addr = some map := by
    rw [lookupMapEntry, loadMaps, pid]
    exact lookupLoadMap_eq_some mapsTo.known ⟨rfl, mapsTo.covers⟩ mapsTo.unique
  have listed : decoder.lookupBuildId map.buildId = some bid := by
    rw [lookupBuildId, Util.lookupBuildId, buildIds, mapsTo.listed]
  -- the path in the list is a word, and so there is a file
  have nonempty : (lookupFile bid.file).length ≠ 0 := by
    obtain ⟨name, isName, member⟩ :=
      List.mem_flatMap.mp (List.mem_of_find?_eq_some mapsTo.listed)
    obtain ⟨line, inIds, rfl⟩ := List.mem_map.mp member
    have word := ((written.ids name isName).2 line inIds).path
    simpa [lookupFile, addBuildId] using resolve_ne_nil env.paths _ word.nonempty
  simp only [Decoder.mappedFile, bind, Option.bind, known, entry, listed, if_neg nonempty]
  rfl

end Callback

/-- Process 7 with address space 3, and one object. -/
def sampleFiles : SidebandFiles where
  records := [sampleRecord 0x44 5 7 3, sampleRecord 0x54 9 7 0]
  log _ :=
    [(ascii "t", .a 7 0 0x1000 0x1000 0x2000), (ascii "t", .b 7 0 (ascii "b")),
      (ascii "t", .c 7 0 (ascii "n") (ascii "s"))]
  ids _ := [(ascii "b", ascii "/f")]

def sampleConfig : DecoderConfig where
  kernelFileName := []
  kernelCr3 := 0
  ptFileName := ascii "p"
  ptListFileName := []
  ktraceFileName := ascii "k"
  elfFileNames := []
  idsFileNames := [ascii "i"]
  mapFileNames := [ascii "m"]

def sampleTextEnv : DecoderEnv :=
  { sampleEnv with
    readText := fun name =>
      if name = ascii "k" then some sampleTrace
      else if name = ascii "m" then some (printLog (sampleFiles.log name))
      else some (Logic.Delimited.terminated (chr '\n') ((sampleFiles.ids name).map printIdsLine)) }

theorem sampleFiles_isLog (name : Bytes) : IsLog (sampleFiles.log name) := by
  have first : IsText (printRecord (ascii "t") (.a 7 0 0x1000 0x1000 0x2000)) :=
    ⟨by decide +kernel, by decide +kernel, by decide +kernel, by decide +kernel⟩
  have second : IsText (printRecord (ascii "t") (.b 7 0 (ascii "b"))) :=
    ⟨by decide +kernel, by decide +kernel, by decide +kernel, by decide +kernel⟩
  have third : IsText (printRecord (ascii "t") (.c 7 0 (ascii "n") (ascii "s"))) :=
    ⟨by decide +kernel, by decide +kernel, by decide +kernel, by decide +kernel⟩
  have small : ((7 : UInt64), (0 : UInt32)) ∈ SmallPairs := ⟨by decide, by decide⟩
  refine ⟨?_, ?_, fun pair => ?_⟩
  · simp only [sampleFiles, List.forall_mem_cons]
    exact ⟨⟨by decide, by decide, trivial, first⟩,
      ⟨by decide, by decide, isWord_letter (by decide), second⟩,
      ⟨by decide, by decide, ⟨isWord_letter (by decide), isWord_letter (by decide)⟩, third⟩,
      by simp⟩
  · simp only [sampleFiles, List.forall_mem_cons]
    exact ⟨small, small, small, by simp⟩
  · by_cases own : ((7 : UInt64), (0 : UInt32)) = pair
    · subst own
      simp only [sampleFiles]
      decide
    · simp [sampleFiles, ofPair, Record.pair, own]

theorem sampleFiles_written : Written sampleTextEnv sampleConfig sampleFiles where
  ktrace := ⟨sampleTrace, by decide, sampleTrace_itemized⟩
  once := by decide
  logs name member := by
    rw [List.mem_singleton.mp member]
    exact ⟨by decide, sampleFiles_isLog _⟩
  ids name member := by
    rw [List.mem_singleton.mp member]
    refine ⟨by decide, fun entry isEntry => ?_⟩
    rw [List.mem_singleton.mp isEntry]
    have path : Scanf.IsWord (ascii "/f") := ⟨by decide +kernel, by decide +kernel⟩
    exact ⟨isWord_letter (by decide), path,
      ⟨by decide +kernel, by decide +kernel, by decide +kernel, by decide +kernel⟩⟩

end Decoder

end Gdbserver.IntelPt
