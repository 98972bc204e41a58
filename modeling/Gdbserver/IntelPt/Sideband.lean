import Gdbserver.Utils.KtraceReader

/-!
# Side-band data of the trace decoder

The records of a ktrace file that the decoder keeps (`sideband.cc`), and its table
of processes (`decoder.cc`).
-/

set_option autoImplicit false

namespace Gdbserver.IntelPt

open Logic Ktrace

structure Process where
  pid : UInt64
  cr3 : UInt64
  startTime : UInt64
  endTime : UInt64
  deriving DecidableEq, Repr

/-- What the records set. The processor is kept as it is passed to the setters. -/
structure DecoderState where
  nomFreq : UInt8
  family : UInt32
  model : UInt32
  stepping : UInt32
  kernelCr3 : UInt64
  processes : List Process
  deriving DecidableEq, Repr

namespace DecoderState

def addProcess (state : DecoderState) (pid cr3 startTime : UInt64) : DecoderState :=
  { state with processes := state.processes ++ [⟨pid, cr3, startTime, 0⟩] }

end DecoderState

/-- The first process with the id gets the end time. -/
def markExited (pid endTime : UInt64) : List Process → List Process
  | [] => []
  | process :: processes =>
      if process.pid = pid then { process with endTime := endTime } :: processes
      else process :: markExited pid endTime processes

def DecoderState.markProcessExited (state : DecoderState) (pid endTime : UInt64) : DecoderState :=
  { state with processes := markExited pid endTime state.processes }

/-- The tags of the records that are looked at. Those whose words are used are
records of 32 bytes. -/
structure Tags where
  iptStart : UInt32
  iptCpuInfo : UInt32
  iptStop : UInt32
  iptProcessCreate : UInt32
  procExit : UInt32
  length : ∀ tag ∈ [iptStart, iptCpuInfo, iptProcessCreate, procExit], ktraceLen tag = 32
  distinct : [iptStart, iptCpuInfo, iptStop, iptProcessCreate, procExit].Nodup

/-! The words `a` to `d` of `ktrace_rec_32b_t`. -/

def recA (raw : Bytes) : UInt32 := u32 raw 16

def recB (raw : Bytes) : UInt32 := u32 raw 20

def recC (raw : Bytes) : UInt32 := u32 raw 24

def recD (raw : Bytes) : UInt32 := u32 raw 28

/-- `low | ((uint64_t)high << 32)` -/
def wide (low high : UInt32) : UInt64 := low.toUInt64 ||| (high.toUInt64 <<< 32)

def recPid (raw : Bytes) : UInt64 := wide (recA raw) (recB raw)

def recCr3 (raw : Bytes) : UInt64 := wide (recC raw) (recD raw)

def Tags.apply (tags : Tags) (raw : Bytes) (state : DecoderState) : DecoderState :=
  if tag raw = tags.iptStart then
    { state with nomFreq := (recA raw).toUInt8, kernelCr3 := wide (recC raw) (recD raw) }
  else if tag raw = tags.iptCpuInfo then
    { state with family := recB raw, model := recC raw, stepping := recD raw }
  else if tag raw = tags.iptStop then state
  else if tag raw = tags.iptProcessCreate then
    state.addProcess (recPid raw) (recCr3 raw) (ts raw)
  else if tag raw = tags.procExit then state.markProcessExited (recPid raw) (ts raw)
  else state

def processKtraceRecord (tags : Tags) : RecordReader DecoderState := fun raw state =>
  (0, raw, tags.apply raw state)

/-- The file is `none` if it cannot be opened. -/
def readKtraceFile (tags : Tags) (fuel : Nat) (raw : Bytes) (file : Option Bytes)
    (state : DecoderState) : Option (Bool × DecoderState) :=
  match file with
  | none => some (false, state)
  | some file =>
      (readFile (processKtraceRecord tags) fuel raw file state).map fun outcome =>
        (outcome.1 == 0, outcome.2.arg)

/-! ## Records are all that is looked at -/

section Records

variable {tags : Tags} {record buffer : Bytes} {records calls : List Bytes}
  {state final : DecoderState} {rc : Int32}

theorem length_of_tag (isRecord : IsRecord record)
    (known : tag record ∈ [tags.iptStart, tags.iptCpuInfo, tags.iptProcessCreate,
      tags.procExit]) : record.length = 32 :=
  isRecord.length.trans (tags.length _ known)

/-- What stands behind a record in the buffer does not matter. -/
theorem apply_of_starts (isRecord : IsRecord record) (starts : record <+: buffer) :
    tags.apply buffer state = tags.apply record state := by
  have sameTag := tag_of_starts starts isRecord.header
  have sameTs : ts buffer = ts record :=
    u64_of_starts starts (Nat.le_trans (by decide) isRecord.header)
  by_cases known : tag record ∈ [tags.iptStart, tags.iptCpuInfo, tags.iptProcessCreate,
      tags.procExit]
  · -- all the words lie inside the record
    have length := length_of_tag isRecord known
    have sameA : recA buffer = recA record := u32_of_starts starts (by omega)
    have sameB : recB buffer = recB record := u32_of_starts starts (by omega)
    have sameC : recC buffer = recC record := u32_of_starts starts (by omega)
    have sameD : recD buffer = recD record := u32_of_starts starts (by omega)
    simp only [Tags.apply, recPid, recCr3, sameTag, sameTs, sameA, sameB, sameC, sameD]
  · simp only [List.mem_cons, List.not_mem_nil, or_false, not_or] at known
    obtain ⟨start, cpuInfo, create, exit⟩ := known
    simp only [Tags.apply, sameTag, if_neg start, if_neg cpuInfo, if_neg create, if_neg exit]

/-- The decoder never stops the reader. -/
theorem apply_of_handedOut
    (handedOut : HandedOut (processKtraceRecord tags) records state rc calls final)
    (every : ∀ record ∈ records, IsRecord record) :
    rc = 0 ∧ final = records.foldl (fun state record => tags.apply record state) state := by
  induction handedOut with
  | all => exact ⟨rfl, rfl⟩
  | stops _ nonzero => exact absurd rfl nonzero
  | @goesOn record buffer records calls state final rc starts _ _ ih =>
      rw [List.forall_mem_cons] at every
      have same : (processKtraceRecord tags buffer state).2.2 = tags.apply record state :=
        apply_of_starts every.1 starts
      rw [List.foldl_cons, ← same]
      exact ih every.2

end Records

/-! ## The table of processes -/

/-- The time of the last exit of the process among the records, if there is one. -/
def lastExit (tags : Tags) (pid : UInt64) (records : List Bytes) : Option UInt64 :=
  (records.filter fun record => tag record = tags.procExit ∧ recPid record = pid).getLast?.map ts

def created (tags : Tags) (records : List Bytes) : List UInt64 :=
  (records.filter fun record => tag record = tags.iptProcessCreate).map recPid

/-- One process for each record that creates one, with the last exit behind it. -/
def processTable (tags : Tags) : List Bytes → List Process
  | [] => []
  | record :: records =>
      if tag record = tags.iptProcessCreate then
        ⟨recPid record, recCr3 record, ts record, (lastExit tags (recPid record) records).getD 0⟩ ::
          processTable tags records
      else processTable tags records

def settle (tags : Tags) (records : List Bytes) (process : Process) : Process :=
  { process with endTime := (lastExit tags process.pid records).getD process.endTime }

section Table

variable {tags : Tags} {record : Bytes} {records : List Bytes} {state : DecoderState}
  {process : Process} {processes : List Process}

theorem Tags.procExit_ne_iptProcessCreate (tags : Tags) : tags.procExit ≠ tags.iptProcessCreate := by
  have distinct := tags.distinct
  simp only [List.nodup_cons, List.mem_cons] at distinct
  intro same
  exact distinct.2.2.2.1 (.inl same.symm)

theorem apply_processes : (tags.apply record state).processes =
    if tag record = tags.iptProcessCreate then
      state.processes ++ [⟨recPid record, recCr3 record, ts record, 0⟩]
    else if tag record = tags.procExit then
      markExited (recPid record) (ts record) state.processes
    else state.processes := by
  have distinct := tags.distinct
  simp only [List.nodup_cons, List.mem_cons, List.not_mem_nil, or_false, not_or] at distinct
  obtain ⟨⟨_, _, startCreate, startExit⟩, ⟨_, cpuCreate, cpuExit⟩, ⟨stopCreate, stopExit⟩, _⟩ :=
    distinct
  rw [Tags.apply]
  split
  · rename_i start
    rw [start, if_neg startCreate, if_neg startExit]
  · split
    · rename_i cpuInfo
      rw [cpuInfo, if_neg cpuCreate, if_neg cpuExit]
    · split
      · rename_i stop
        rw [stop, if_neg stopCreate, if_neg stopExit]
      · split
        · rfl
        · split
          · rfl
          · rfl

theorem settle_nil : settle tags [] process = process := rfl

theorem settle_cons_of_other (other : ¬ (tag record = tags.procExit ∧ recPid record = process.pid)) :
    settle tags (record :: records) process = settle tags records process := by
  rw [settle, lastExit, List.filter_cons_of_neg (by simpa using other)]
  rfl

theorem settle_cons_of_exit (exit : tag record = tags.procExit) (own : recPid record = process.pid) :
    settle tags (record :: records) process =
      settle tags records { process with endTime := ts record } := by
  rw [settle, lastExit, List.filter_cons_of_pos (by simp [exit, own]), List.getLast?_cons]
  rw [settle, lastExit]
  cases List.getLast? (List.filter
    (fun record => decide (tag record = tags.procExit ∧ recPid record = process.pid)) records) with
  | none => rfl
  | some last => rfl

theorem markExited_pids (pid endTime : UInt64) (processes : List Process) :
    (markExited pid endTime processes).map (·.pid) = processes.map (·.pid) := by
  induction processes with
  | nil => rfl
  | cons process processes ih =>
      by_cases own : process.pid = pid
      · simp [markExited, own]
      · simp [markExited, own, ih]

/-- Marking the first process with the id is marking all of them. -/
theorem map_settle_markExited (exit : tag record = tags.procExit)
    (unique : (processes.map (·.pid)).Nodup) :
    (markExited (recPid record) (ts record) processes).map (settle tags records) =
      processes.map (settle tags (record :: records)) := by
  induction processes with
  | nil => rfl
  | cons process processes ih =>
      rw [List.map_cons, List.nodup_cons] at unique
      by_cases own : process.pid = recPid record
      · -- the ids behind it are different ones
        have others : ∀ other ∈ processes,
            settle tags records other = settle tags (record :: records) other := by
          intro other member
          symm
          apply settle_cons_of_other
          rintro ⟨_, same⟩
          exact unique.1 (own.trans same ▸ List.mem_map_of_mem member)
        rw [markExited, if_pos own, List.map_cons, List.map_cons, List.map_congr_left others,
          settle_cons_of_exit exit own.symm]
      · rw [markExited, if_neg own, List.map_cons, List.map_cons, ih unique.2,
          settle_cons_of_other fun both => own both.2.symm]

theorem map_settle_of_other (other : tag record ≠ tags.procExit) (processes : List Process) :
    processes.map (settle tags (record :: records)) = processes.map (settle tags records) := by
  apply List.map_congr_left
  intro process _
  exact settle_cons_of_other fun both => other both.1

theorem created_cons_of_create (create : tag record = tags.iptProcessCreate)
    (records : List Bytes) :
    created tags (record :: records) = recPid record :: created tags records := by
  rw [created, List.filter_cons_of_pos (by simpa using create)]
  rfl

theorem created_cons_of_other (other : tag record ≠ tags.iptProcessCreate) (records : List Bytes) :
    created tags (record :: records) = created tags records := by
  rw [created, List.filter_cons_of_neg (by simpa using other)]
  rfl

def pids (tags : Tags) (state : DecoderState) (records : List Bytes) : List UInt64 :=
  state.processes.map (·.pid) ++ created tags records

/-- A record takes its id from the one to the other. -/
theorem pids_apply (tags : Tags) (record : Bytes) (state : DecoderState) (records : List Bytes) :
    pids tags (tags.apply record state) records = pids tags state (record :: records) := by
  rw [pids, pids, apply_processes]
  by_cases create : tag record = tags.iptProcessCreate
  · rw [if_pos create, created_cons_of_create create]
    simp
  · rw [if_neg create, created_cons_of_other create]
    by_cases exit : tag record = tags.procExit
    · rw [if_pos exit, markExited_pids]
    · rw [if_neg exit]

theorem settle_apply (unique : (state.processes.map (·.pid)).Nodup) :
    (tags.apply record state).processes.map (settle tags records) ++ processTable tags records =
      state.processes.map (settle tags (record :: records)) ++
        processTable tags (record :: records) := by
  rw [apply_processes, processTable]
  by_cases create : tag record = tags.iptProcessCreate
  · have notExit : tag record ≠ tags.procExit := by
      rw [create]
      exact tags.procExit_ne_iptProcessCreate.symm
    rw [if_pos create, if_pos create, List.map_append, List.append_assoc,
      map_settle_of_other notExit]
    rfl
  · rw [if_neg create, if_neg create]
    by_cases exit : tag record = tags.procExit
    · rw [if_pos exit, map_settle_markExited exit unique]
    · rw [if_neg exit, map_settle_of_other exit]

theorem foldl_processes (fresh : (pids tags state records).Nodup) :
    (records.foldl (fun state record => tags.apply record state) state).processes =
      state.processes.map (settle tags records) ++ processTable tags records := by
  -- What the later records do to a process is kept in `settle`, so that a step can
  -- leave the table as it is now.
  induction records generalizing state with
  | nil =>
      rw [List.map_congr_left fun process _ => settle_nil]
      simp [processTable]
  | cons record records ih =>
      rw [List.foldl_cons, ih (by rwa [pids_apply]), settle_apply fresh.of_append_left]

end Table

/-- The reader cuts every file into exactly its records, stays inside its buffer and
ends. The decoder has a process for each one that the records create, with the
time of its last exit. -/
theorem readFile_records_processes (raw file : Bytes) :
    ∃ records, (∀ others, Longest IsRecord file others ↔ others = records) ∧
      (∀ (σ : Type) (reader : RecordReader σ) (arg : σ), ∃ outcome,
        (∀ fuel > file.length, readFile reader fuel raw file arg = some outcome) ∧
        HandedOut reader records arg outcome.1 outcome.2.calls outcome.2.arg ∧
        WritesInside outcome.2) ∧
      ∀ (tags : Tags) (state : DecoderState), state.processes = [] → (created tags records).Nodup →
        ∃ final, (∀ fuel > file.length,
          readKtraceFile tags fuel raw (some file) state = some (true, final)) ∧
          final.processes = processTable tags records := by
  obtain ⟨records, cut⟩ := isRecord_prefixFree.exists_itemized file
  have only := cut.longest_iff isRecord_prefixFree
  refine ⟨records, only, ?_, ?_⟩
  · intro σ reader arg
    exact readFile_ended reader raw cut arg
  · intro tags state empty once
    have every : ∀ record ∈ records, IsRecord record := ((only records).mpr rfl).starts.every
    obtain ⟨outcome, ran, handedOut, _⟩ := readFile_ended (processKtraceRecord tags) raw cut state
    obtain ⟨zero, folded⟩ := apply_of_handedOut handedOut every
    refine ⟨outcome.2.arg, ?_, ?_⟩
    · intro fuel enough
      simp [readKtraceFile, ran fuel enough, zero]
    · have fresh : (pids tags state records).Nodup := by
        rw [pids, empty]
        exact once
      rw [folded, foldl_processes fresh, empty]
      rfl

def sampleTags : Tags where
  iptStart := 0x14
  iptCpuInfo := 0x24
  iptStop := 0x34
  iptProcessCreate := 0x44
  procExit := 0x54
  length := by
    intro tag member
    simp only [List.mem_cons, List.not_mem_nil, or_false] at member
    rcases member with rfl | rfl | rfl | rfl <;> rfl
  distinct := by decide

def sampleRecord (tag ts a c : UInt8) : Bytes :=
  [tag, 0, 0, 0, 0, 0, 0, 0, ts, 0, 0, 0, 0, 0, 0, 0, a, 0, 0, 0, 0, 0, 0, 0, c, 0, 0, 0, 0, 0, 0, 0]

/-- Process 7 is created at time 5 and exits at time 9. The last record is cut off. -/
def sampleTrace : Bytes :=
  sampleRecord 0x44 5 7 3 ++ (sampleRecord 0x54 9 7 0 ++ (sampleRecord 0x54 11 7 0).take 20)

theorem sampleTrace_itemized : Itemized IsRecord sampleTrace
    [sampleRecord 0x44 5 7 3, sampleRecord 0x54 9 7 0] := by
  apply Itemized.item ⟨by decide, by decide, by decide⟩
  apply Itemized.item ⟨by decide, by decide, by decide⟩
  apply Itemized.ends
  intro record isRecord starts
  have whole : tag record = 0x54 := (tag_of_starts starts isRecord.header).symm
  have long := starts.length_le
  rw [isRecord.length, whole] at long
  exact absurd long (by decide)

theorem sampleTrace_processes :
    ∃ final, readKtraceFile sampleTags 100 [] (some sampleTrace) ⟨0, 0, 0, 0, 0, []⟩ =
      some (true, final) ∧ final.processes = [⟨7, 3, 5, 9⟩] := by
  obtain ⟨records, only, _, table⟩ := readFile_records_processes [] sampleTrace
  obtain rfl : [sampleRecord 0x44 5 7 3, sampleRecord 0x54 9 7 0] = records :=
    (only _).mp ((sampleTrace_itemized.longest_iff isRecord_prefixFree _).mpr rfl)
  obtain ⟨final, ran, processes⟩ := table sampleTags ⟨0, 0, 0, 0, 0, []⟩ rfl (by decide)
  exact ⟨final, ran 100 (by decide), processes.trans (by decide)⟩

end Gdbserver.IntelPt
