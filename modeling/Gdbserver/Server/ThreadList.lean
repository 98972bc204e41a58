import Gdbserver.Foundation.Buffer
import Gdbserver.Foundation.Numerals
import Gdbserver.Server.ThreadLiveness

/-!
# The list of threads and its buffer

`HandleQueryThreadInfo` adds up the size of its response while it visits the
threads, and `JoinStrings` then writes into a buffer of that size.
-/

set_option autoImplicit false

namespace Gdbserver

open Logic Prog

namespace Util

/-- The loop of `JoinStrings` over the strings that are left. A failed `FTL_DCHECK`
is `none`. -/
def joinStringsLoop (delimiter : UInt8) (size bufferSize : Nat) :
    List Bytes → Nat → Nat → Bytes → Option (Nat × Bytes)
  | [], _, index, buffer => some (index, buffer)
  | string :: rest, count, index, buffer =>
      if index + string.length ≤ bufferSize then
        let copied := copyInto buffer index string
        if count + 1 = size then some (index + string.length, copied)
        else if index + string.length < bufferSize then
          joinStringsLoop delimiter size bufferSize rest (count + 1) (index + string.length + 1)
            (copyInto copied (index + string.length) [delimiter])
        else none
      else none

/-- `JoinStrings` as it is called: the index it returns and what the buffer then holds. -/
def joinStringsInto (strings : List Bytes) (delimiter : UInt8) (buffer : Bytes)
    (bufferSize : Nat) : Option (Nat × Bytes) :=
  joinStringsLoop delimiter strings.length bufferSize strings 0 0 buffer

/-- With room for what is left neither assertion fails. -/
theorem joinStringsLoop_fits (delimiter : UInt8) {size bufferSize : Nat} {strings : List Bytes} :
    ∀ {count index : Nat} {buffer : Bytes}, count + strings.length = size → strings ≠ [] →
      index + (joinStrings delimiter strings).length ≤ bufferSize → bufferSize ≤ buffer.length →
      joinStringsLoop delimiter size bufferSize strings count index buffer =
        some (index + (joinStrings delimiter strings).length,
          copyInto buffer index (joinStrings delimiter strings)) := by
  induction strings with
  | nil =>
      intro count index buffer total some
      exact absurd rfl some
  | cons first rest ih =>
      intro count index buffer total some fits room
      cases rest with
      | nil =>
          have last : count + 1 = size := total
          have written : index + first.length ≤ bufferSize := fits
          rw [joinStringsLoop, if_pos written, if_pos last]
          rfl
      | cons second others =>
          have joined : joinStrings delimiter (first :: second :: others) =
              first ++ [delimiter] ++ joinStrings delimiter (second :: others) := by
            rw [joinStrings, List.append_assoc, List.singleton_append]
            exact List.cons_ne_nil second others
          have length : (joinStrings delimiter (first :: second :: others)).length =
              first.length + 1 + (joinStrings delimiter (second :: others)).length := by
            rw [joined, List.length_append, List.length_append, List.length_singleton]
          rw [List.length_cons, List.length_cons] at total
          have within : index + first.length ≤ buffer.length := by omega
          have copied := copyInto_length within
          have separated : copyInto (copyInto buffer index first) (index + first.length)
              [delimiter] = copyInto buffer index (first ++ [delimiter]) :=
            copyInto_copyInto [delimiter] within
          have next : index + (first ++ [delimiter]).length = index + first.length + 1 := by
            rw [List.length_append, List.length_singleton, Nat.add_assoc]
          have both : index + (first ++ [delimiter]).length ≤ buffer.length := by omega
          rw [joinStringsLoop, if_pos (by omega), if_neg (by omega), if_pos (by omega), separated,
            ih (by rw [List.length_cons]; omega) (List.cons_ne_nil second others) (by omega)
              (by rw [copyInto_length both]; exact room), ← next,
            copyInto_copyInto _ both, ← joined, next, length]
          congr 2
          omega

/-- A buffer of exactly the size is filled from one end to the other. -/
theorem joinStringsInto_exact (delimiter : UInt8) {strings : List Bytes} {buffer : Bytes}
    (some : strings ≠ []) (exact : buffer.length = (joinStrings delimiter strings).length) :
    joinStringsInto strings delimiter buffer buffer.length =
      Option.some (buffer.length, joinStrings delimiter strings) := by
  rw [joinStringsInto, joinStringsLoop_fits delimiter (Nat.zero_add _) some (by omega) le_rfl,
    copyInto_full exact.symm, Nat.zero_add, exact]

end Util

namespace CommandHandler

/-- What the callback given to `ForEachLiveThread` leaves: the ids in hexadecimal and the
sum of their lengths. -/
def collectThreadIds (env : Env) (ids : List Koid) : List Bytes × Nat :=
  ids.foldl (fun collected tid =>
    let threadId := env.ftl.uint64ToHex tid
    (collected.1 ++ [threadId], collected.2 + threadId.length)) ([], 0)

/-- Room for the ids, for the commas between them and for the `m`. -/
def threadInfoSize (env : Env) (ids : List Koid) : Nat :=
  (collectThreadIds env ids).2 + (collectThreadIds env ids).1.length

/-- The buffer of `HandleQueryThreadInfo`, which is new and may hold anything: what
`JoinStrings` returns and the text that is sent. -/
def fillThreadInfo (env : Env) (ids : List Koid) (buffer : Bytes) : Option (Nat × Bytes) := do
  let (returned, joined) ← Util.joinStringsInto (collectThreadIds env ids).1 (chr ',')
    (buffer.drop 1) (threadInfoSize env ids - 1)
  some (returned, (chr 'm' :: joined).take (threadInfoSize env ids))

section Buffer

variable {env : Env}

theorem foldl_collect (ids : List Koid) (collected : List Bytes × Nat) :
    ids.foldl (fun collected tid =>
        (collected.1 ++ [env.ftl.uint64ToHex tid],
          collected.2 + (env.ftl.uint64ToHex tid).length)) collected =
      (collected.1 ++ ids.map env.ftl.uint64ToHex,
        collected.2 + (ids.map fun tid => (env.ftl.uint64ToHex tid).length).sum) := by
  induction ids generalizing collected with
  | nil => simp
  | cons tid rest ih =>
      rw [List.foldl_cons, ih]
      simp [Nat.add_assoc]

theorem collectThreadIds_eq (ids : List Koid) : collectThreadIds env ids =
    (ids.map env.ftl.uint64ToHex, (ids.map fun tid => (env.ftl.uint64ToHex tid).length).sum) := by
  rw [collectThreadIds, foldl_collect]
  simp

/-- The size that is added up is the length of the response. -/
theorem threadInfoSize_eq {ids : List Koid} (some : ids ≠ []) :
    threadInfoSize env ids = (threadInfo env ids).length := by
  have joined := Util.joinStrings_length (chr ',') (ids.map env.ftl.uint64ToHex)
    fun none => some (List.map_eq_nil_iff.mp none)
  have sum : (ids.map fun tid => (env.ftl.uint64ToHex tid).length + 1).sum =
      (ids.map fun tid => (env.ftl.uint64ToHex tid).length).sum + ids.length := by
    rw [List.sum_map_add, List.map_const', List.sum_replicate_nat, Nat.mul_one]
  rw [List.map_map] at joined
  rw [threadInfoSize, collectThreadIds_eq, threadInfo, List.length_cons, joined, List.length_map,
    ← sum]
  rfl

theorem fillThreadInfo_exact {ids : List Koid} (some : ids ≠ []) {buffer : Bytes}
    (size : buffer.length = threadInfoSize env ids) :
    fillThreadInfo env ids buffer =
      Option.some (threadInfoSize env ids - 1, threadInfo env ids) := by
  have names : (collectThreadIds env ids).1 = ids.map env.ftl.uint64ToHex := by
    rw [collectThreadIds_eq]
  have length : threadInfoSize env ids = (threadInfo env ids).length := threadInfoSize_eq some
  have rest : (buffer.drop 1).length = threadInfoSize env ids - 1 := by
    rw [List.length_drop, size]
  have exact : (buffer.drop 1).length =
      (Util.joinStrings (chr ',') (ids.map env.ftl.uint64ToHex)).length := by
    rw [rest, length, threadInfo, List.length_cons, Nat.add_sub_cancel]
  have filled := Util.joinStringsInto_exact (chr ',')
    (fun none => some (List.map_eq_nil_iff.mp none)) exact
  rw [fillThreadInfo, names, ← rest, filled]
  change Option.some (_, (threadInfo env ids).take (threadInfoSize env ids)) = _
  rw [length, List.take_length]

end Buffer

section Sequence

variable {env : Env} {server : Server}

/-- A client that reads the response finds the digits of each id once. -/
structure Enumerates (ftl : Ftl) (response : Bytes) (ids : List Koid) : Prop where
  joined : response = chr 'm' :: [chr ','].intercalate (ids.map ftl.uint64ToHex)
  digits : ∀ tid ∈ ids, Ftl.Digits (ftl.uint64ToHex tid) tid.toNat
  clear : ∀ tid ∈ ids, chr ',' ∉ ftl.uint64ToHex tid
  once : (ids.map ftl.uint64ToHex).Nodup

theorem enumerates_threadInfo (prints : env.ftl.PrintsHex) {ids : List Koid}
    (distinct : ids.Nodup) : Enumerates env.ftl (threadInfo env ids) ids where
  joined := by rw [threadInfo, Util.joinStrings_eq]
  digits tid _ := prints tid
  clear tid _ := (prints tid).clear (by decide)
  once := distinct.map prints.injective

/-- The two queries of a sequence. -/
def queryThreads (env : Env) (server : Server) : Server :=
  (handleCommand env (ascii "qsThreadInfo") (handleCommand env (ascii "qfThreadInfo") server).2).2

theorem handle_qsThreadInfo_of_open (process : server.hasProcess = true)
    (opened : server.inThreadInfoSequence = true) :
    handleCommand env (ascii "qsThreadInfo") server = (some true, { server with
      inThreadInfoSequence := false
      posted := server.posted ++ [.write false (ascii "l")] }) := by
  have reduced : handleQueryThreadInfo env false server = (do
      setThreadInfoSequence false
      reply (ascii "l")) server := by
    rw [handleQueryThreadInfo, read_bind, process, if_not_true, if_not_false, read_bind, opened,
      if_not_true]
  exact reduced

section Closed

variable (process : server.hasProcess = true) (fresh : server.process.threadMapStale = false)
  (closed : server.inThreadInfoSequence = false)
include process fresh closed

theorem handle_qfThreadInfo_none (none : liveThreadIds server = []) :
    handleCommand env (ascii "qfThreadInfo") server = (some true, { server with
      posted := server.posted ++ [.write false (ascii "l")] }) := by
  rw [handle_qfThreadInfo_of_closed fresh process closed, if_pos none]
  rfl

theorem handle_qfThreadInfo_some (some : liveThreadIds server ≠ []) :
    handleCommand env (ascii "qfThreadInfo") server = (Option.some true, { server with
      inThreadInfoSequence := true
      posted := server.posted ++ [.write false (threadInfo env (liveThreadIds server))] }) := by
  rw [handle_qfThreadInfo_of_closed fresh process closed, if_neg some]
  rfl

theorem queryThreads_some (some : liveThreadIds server ≠ []) :
    queryThreads env server = { server with
      posted := server.posted ++ [.write false (threadInfo env (liveThreadIds server)),
        .write false (ascii "l")] } := by
  rw [queryThreads, handle_qfThreadInfo_some process fresh closed some,
    handle_qsThreadInfo_of_open]
  · simp [closed]
  · exact process
  · rfl

/-- Each sequence leaves the server as it found it, but for the two responses. -/
theorem queryThreads_iterate (some : liveThreadIds server ≠ []) (count : Nat) :
    (queryThreads env)^[count] server = { server with
      posted := server.posted ++ (List.replicate count
        [.write false (threadInfo env (liveThreadIds server)),
          .write false (ascii "l")]).flatten } := by
  induction count with
  | zero => simp
  | succ count ih =>
      rw [Function.iterate_succ_apply', ih, queryThreads_some,
        List.replicate_succ', List.flatten_concat, ← List.append_assoc]
      · rfl
      · exact process
      · exact fresh
      · exact closed
      · exact some

end Closed

/-- The query lists the live threads once each, in a buffer that is filled exactly. -/
theorem thread_list_query (prints : env.ftl.PrintsHex) (process : server.hasProcess = true)
    (fresh : server.process.threadMapStale = false)
    (closed : server.inThreadInfoSequence = false) :
    let ids := liveThreadIds server
    let size := threadInfoSize env ids
    ids.Nodup ∧
      (∀ tid, tid ∈ ids ↔
        tid ∈ server.process.threads.keys ∧ (server.thread tid).state ≠ .gone) ∧
      (ids = [] → handleCommand env (ascii "qfThreadInfo") server = (some true, { server with
        posted := server.posted ++ [.write false (ascii "l")] })) ∧
      (ids ≠ [] → ∃ response, Enumerates env.ftl response ids ∧
        handleCommand env (ascii "qfThreadInfo") server = (some true, { server with
          inThreadInfoSequence := true
          posted := server.posted ++ [.write false response] }) ∧
        size = response.length ∧
        (∀ buffer : Bytes, buffer.length = size →
          fillThreadInfo env ids buffer = some (size - 1, response)) ∧
        (∀ later : Server, later.hasProcess = true → later.inThreadInfoSequence = true →
          handleCommand env (ascii "qsThreadInfo") later = (some true, { later with
            inThreadInfoSequence := false
            posted := later.posted ++ [.write false (ascii "l")] })) ∧
        ∀ count, (queryThreads env)^[count] server = { server with
          posted := server.posted ++ (List.replicate count
            [.write false response, .write false (ascii "l")]).flatten }) := by
  intro ids size
  have distinct : ids.Nodup := server.process.threads.nodup.filter _
  refine ⟨distinct, fun tid => mem_liveThreadIds, handle_qfThreadInfo_none process fresh closed, ?_⟩
  intro some
  refine ⟨threadInfo env ids, enumerates_threadInfo prints distinct,
    handle_qfThreadInfo_some process fresh closed some, threadInfoSize_eq some, ?_, ?_, ?_⟩
  · intro buffer exact
    exact fillThreadInfo_exact some exact
  · intro later there opened
    exact handle_qsThreadInfo_of_open there opened
  · intro count
    exact queryThreads_iterate process fresh closed some count

end Sequence

end CommandHandler

namespace Debugserver

open CommandHandler RspServer

/-- Threads 9 and 10 are alive. -/
def twoThreads : Server :=
  (run (handle obliging) (untilFirstThread ++ [.bytesRead (ascii "$vCont;c#a8"),
    .exception 1 .threadStarting ⟨10, 0, 0⟩]) (started obliging program)).2.core

/-- Two threads are listed, and a second time. -/
theorem twoThreads_listed :
    threadInfoSize obliging [9, 10] = 4 ∧
      ∃ response, Enumerates obliging.ftl response [9, 10] ∧
        fillThreadInfo obliging [9, 10] (ascii "    ") = some (3, response) ∧
        ((queryThreads obliging)^[2] twoThreads).posted = twoThreads.posted ++
          [.write false response, .write false (ascii "l"), .write false response,
            .write false (ascii "l")] := by
  have live : liveThreadIds twoThreads = [9, 10] := by decide +kernel
  have size : threadInfoSize obliging [9, 10] = 4 := by decide +kernel
  have process : twoThreads.hasProcess = true := by decide +kernel
  have prints : obliging.ftl.PrintsHex := Ftl.standard_printsHex
  obtain ⟨-, -, -, listed⟩ :=
    thread_list_query prints process (by decide +kernel) (by decide +kernel)
  rw [live] at listed
  obtain ⟨response, enumerates, -, -, filled, -, again⟩ := listed (List.cons_ne_nil 9 [10])
  rw [size] at filled
  refine ⟨size, response, enumerates, filled (ascii "    ") rfl, ?_⟩
  rw [again 2]
  rfl

end Debugserver

end Gdbserver
