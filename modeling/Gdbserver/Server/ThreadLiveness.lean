import Gdbserver.Server.CurrentThread
import Gdbserver.Server.Tenancy

/-!
# Which threads are alive

A thread that has exited stays in the map as a thread that is gone. `T`,
`qfThreadInfo` and `Hg` each have a test of their own for it, and they agree
because no thread is ever `kExiting`. Picking a thread has no such test.
-/

set_option autoImplicit false

namespace Gdbserver

open Logic Prog Frame

/-! ## The states a thread can be in -/

def Server.NoneExiting (server : Server) : Prop :=
  ∀ tid ∈ server.process.threads.keys, (server.thread tid).state ≠ .exiting

theorem Server.noneExiting_congr {before after : Server} (same : after.process = before.process) :
    after.NoneExiting ↔ before.NoneExiting := by
  unfold Server.NoneExiting Server.thread
  rw [same]

section States

variable {env : Env} {allowed : Permits} {tid : Koid}

theorem Server.NoneExiting.set {server : Server} (held : server.NoneExiting) {update : Thread}
    (state : tid ∈ server.process.threads.keys → update.state ≠ .exiting) :
    (server.setThread tid update).NoneExiting := by
  intro key member
  by_cases same : key = tid
  · subst same
    rw [Server.thread_setThread]
    exact state member
  · have other : (server.setThread tid update).thread key = server.thread key :=
      Function.update_of_ne same ..
    rw [other]
    exact held key member

theorem Touch.noneExiting {before after : Server} (touch : Touch env allowed tid before after)
    (held : before.NoneExiting) : after.NoneExiting := by
  cases touch with
  | unread | unresumed => exact held
  | zeroed | refreshed | unstored | stored | marked => exact held.set (held tid)
  | halted | left => exact held.set fun _ => nofun
  | resumed may state granted ready =>
      -- `kExiting` is in the enumeration, but no one sets it
      refine held.set fun _ => ?_
      rcases ready with ⟨running, -⟩ | ⟨stepping, -⟩
      · exact running ▸ nofun
      · exact stepping ▸ nofun

theorem Act.noneExiting {before after : Server} (act : Act env allowed before after)
    (held : before.NoneExiting) : after.NoneExiting := by
  cases act with
  | posted post may => exact held
  | touched touch => exact touch.noneExiting held
  | aside kept =>
      intro tid member
      rcases kept.threads tid member with ⟨there, same⟩ | fresh
      · exact same ▸ held tid there
      · exact fresh.state ▸ nofun

theorem noneExiting_of_acting {before after : Server}
    (acted : (acting env allowed).rel before after) :
    (preserving Server.NoneExiting).rel before after :=
  steps_within (fun act => act.noneExiting) acted

end States

theorem Thread.isLive_iff {thread : Thread} (staying : thread.state ≠ .exiting) :
    thread.isLive = true ↔ thread.state ≠ .gone := by
  unfold Thread.isLive
  cases state : thread.state with
  | exiting => exact absurd state staying
  | gone => decide
  | new | stopped | running | stepping => decide

theorem Thread.ne_gone_of_isLive {thread : Thread} (alive : thread.isLive = true) :
    thread.state ≠ .gone := by
  intro gone
  rw [Thread.isLive, gone] at alive
  exact absurd alive Bool.false_ne_true

theorem Debugserver.run_noneExiting (env : Env) (config : Config) (inputs : List Input) :
    (run (RspServer.handle env) inputs (started env config)).2.core.NoneExiting :=
  run_keeps config inputs Act.noneExiting (fun _ _ held => held) fun _ member =>
    absurd member List.not_mem_nil

/-! ## `T` and `qfThreadInfo` -/

/-- What `qfThreadInfo` goes by besides the threads. The map does not become stale. -/
structure Steady (before after : Server) : Prop where
  process : after.hasProcess = before.hasProcess
  sequence : after.inThreadInfoSequence = before.inThreadInfoSequence
  fresh : before.process.threadMapStale = false → after.process.threadMapStale = false

def steady : Frame Server where
  rel := Steady
  refl _ := ⟨rfl, rfl, id⟩
  trans first second := ⟨second.process.trans first.process, second.sequence.trans first.sequence,
    fun fresh => second.fresh (first.fresh fresh)⟩

namespace Process

variable {env : Env} {server : Server} {tid : Koid}

theorem findThreadById_steady (fresh : server.process.threadMapStale = false) :
    steady.rel server (findThreadById env tid server).2 := by
  rw [findThreadById]
  split
  · exact steady.refl server
  · rw [bind_of_some (ensureThreadMapFresh_of_fresh fresh), read_bind]
    cases server.process.threads.find tid with
    | some thread =>
        dsimp only
        split <;> exact steady.refl server
    | none =>
      have asked : steady.Keeps (ask env (.threadHandle tid)) :=
        fun _ => ⟨rfl, rfl, fun fresh => fresh⟩
      have created : steady.Keeps createThread := fun _ => ⟨rfl, rfl, fun fresh => fresh⟩
      have inserted (thread : Thread) : steady.Keeps (modifyProcess fun process =>
          { process with threads := process.threads.insert tid thread }) :=
        fun _ => ⟨rfl, rfl, fun fresh => fresh⟩
      exact Keeps.bind asked (fun _ => Keeps.ite (fun _ => Keeps.pure) fun _ =>
        Keeps.bind created fun thread => Keeps.bind (inserted thread) fun _ => Keeps.pure) server

/-- A thread of the map is found unless it is gone. -/
theorem findThreadById_of_mem (fresh : server.process.threadMapStale = false) (valid : tid ≠ 0)
    (member : tid ∈ server.process.threads.keys) :
    findThreadById env tid server =
      (some (if (server.thread tid).state = .gone then none else some tid), server) := by
  have found : server.process.threads.find tid = some (server.thread tid) := if_pos member
  rw [findThreadById, if_neg valid, bind_of_some (ensureThreadMapFresh_of_fresh fresh), read_bind,
    found]
  dsimp only
  split <;> rfl

end Process

namespace CommandHandler

section Liveness

variable {env : Env} {server : Server} {tid : Koid} {field : Bytes}

/-- `T` once the thread has been looked for. -/
theorem handle_T_of_found (number : env.ftl.stringToUInt64 field = some tid)
    (inferior : hasInferior server = true) {found : Option Koid} {reached : Server}
    (ran : Process.findThreadById env tid server = (some found, reached)) :
    handleCommand env (chr 'T' :: field) server =
      (found.elim (replyWithError env .noent) fun key =>
        if (reached.thread key).isLive then replyOK else replyWithError env .noent) reached := by
  change handle_T env field server = _
  rw [handle_T, read_bind, inferior, if_not_true, number]
  dsimp only
  rw [bind_of_some ran]
  cases found with
  | none => rfl
  | some key =>
      dsimp only [Option.elim]
      rw [read_bind]
      cases (reached.thread key).isLive <;> rfl

theorem handle_T_of_no_inferior (inferior : hasInferior server = false) :
    handleCommand env (chr 'T' :: field) server = replyWithError env .noent server := by
  change handle_T env field server = _
  rw [handle_T, read_bind, inferior]
  rfl

/-- After `OK` the thread is in the map and alive. -/
theorem handle_T_accepted (number : env.ftl.stringToUInt64 field = some tid)
    (fresh : server.process.threadMapStale = false)
    (accepted : Answers (ascii "OK") server (handleCommand env (chr 'T' :: field) server).2) :
    hasInferior server = true ∧
      steady.rel server (handleCommand env (chr 'T' :: field) server).2 ∧
      tid ∈ (handleCommand env (chr 'T' :: field) server).2.process.threads.keys ∧
      ((handleCommand env (chr 'T' :: field) server).2.thread tid).isLive = true := by
  cases inferior : hasInferior server with
  | false =>
      rw [handle_T_of_no_inferior inferior] at accepted
      exact absurd accepted (replyWithError_not_ok env .noent rfl)
  | true =>
      obtain ⟨found, reached, ran, kept⟩ := Process.findThreadById_quiet env tid server
      have still : steady.rel server (Process.findThreadById env tid server).2 :=
        Process.findThreadById_steady fresh
      rw [ran] at still
      have refused := replyWithError_not_ok env .noent kept.posted
      rw [handle_T_of_found number inferior ran] at accepted ⊢
      cases found with
      | none => exact absurd accepted refused
      | some key =>
          obtain ⟨rfl, member⟩ := Process.findThreadById_found ran
          by_cases alive : (reached.thread key).isLive = true
          · rw [Option.elim_some, if_pos alive]
            exact ⟨rfl, ⟨still.process, still.sequence, still.fresh⟩, member, alive⟩
          · rw [Option.elim_some, if_neg alive] at accepted
            exact absurd accepted refused

theorem handle_T_of_mem (number : env.ftl.stringToUInt64 field = some tid) (valid : tid ≠ 0)
    (fresh : server.process.threadMapStale = false) (staying : server.NoneExiting)
    (inferior : hasInferior server = true) (member : tid ∈ server.process.threads.keys) :
    handleCommand env (chr 'T' :: field) server =
      (if (server.thread tid).state = .gone then replyWithError env .noent else replyOK) server := by
  rw [handle_T_of_found number inferior (Process.findThreadById_of_mem fresh valid member)]
  by_cases gone : (server.thread tid).state = .gone
  · rw [if_pos gone, if_pos gone]
    rfl
  · rw [if_neg gone, if_neg gone]
    exact congrFun (if_pos ((Thread.isLive_iff (staying tid member)).mpr gone)) server

/-- The client splits the text after the `m` at the commas. -/
def Lists (ftl : Ftl) (response : Bytes) (tid : Koid) : Prop :=
  ∃ names, response = chr 'm' :: names ∧ ftl.uint64ToHex tid ∈ Ftl.pieces (chr ',') names

theorem lists_threadInfo_iff (prints : env.ftl.PrintsDigits) (reads : env.ftl.ReadsBack)
    {ids : List Koid} (some : ids ≠ []) : Lists env.ftl (threadInfo env ids) tid ↔ tid ∈ ids := by
  have clear : ∀ name ∈ ids.map env.ftl.uint64ToHex, chr ',' ∉ name := by
    intro name listed comma
    obtain ⟨id, -, rfl⟩ := List.mem_map.mp listed
    exact absurd (prints.hex id _ comma) (by decide)
  have names : Ftl.pieces (chr ',') (Util.joinStrings (chr ',') (ids.map env.ftl.uint64ToHex)) =
      ids.map env.ftl.uint64ToHex :=
    Ftl.pieces_joinStrings (fun empty => some (List.map_eq_nil_iff.mp empty)) clear
  constructor
  · rintro ⟨listed, same, member⟩
    obtain rfl := (List.cons.inj same).2
    rw [names] at member
    exact (List.mem_map_of_injective reads.injective).mp member
  · intro member
    refine ⟨_, rfl, ?_⟩
    rw [names]
    exact List.mem_map_of_mem member

theorem not_lists_buildErrorPacket (ftl : Ftl) (code : Util.ErrorCode) :
    ¬ Lists ftl (Util.buildErrorPacket ftl code) tid := by
  rintro ⟨names, same, -⟩
  exact absurd (List.cons.inj same).1 (by decide)

/-- The live threads of a map that is not stale, unless a sequence is open. -/
theorem handle_qfThreadInfo_of_closed (fresh : server.process.threadMapStale = false)
    (process : server.hasProcess = true) (closed : server.inThreadInfoSequence = false) :
    handleCommand env (ascii "qfThreadInfo") server =
      (if liveThreadIds server = [] then reply (ascii "l")
        else do
          setThreadInfoSequence true
          reply (threadInfo env (liveThreadIds server))) server := by
  change handleQueryThreadInfo env true server = _
  have looked : inspectLiveThreads env liveThreadIds server =
      (some (liveThreadIds server), server) := by
    rw [inspectLiveThreads, bind_of_some (Process.ensureThreadMapFresh_of_fresh fresh)]
    rfl
  rw [handleQueryThreadInfo, read_bind, process, if_not_true, if_not_true, read_bind, closed,
    if_neg Bool.false_ne_true, replyThreadInfo,
    bind_of_some (Process.ensureThreadMapFresh_of_fresh fresh), bind_of_some looked]

theorem mem_liveThreadIds : tid ∈ liveThreadIds server ↔
    tid ∈ server.process.threads.keys ∧ (server.thread tid).state ≠ .gone := by
  rw [liveThreadIds, List.mem_filter, decide_eq_true_iff]

/-- What `qfThreadInfo` lists are live threads, and nothing is done to the process. -/
theorem handle_qfThreadInfo_lists (prints : env.ftl.PrintsDigits) (reads : env.ftl.ReadsBack)
    (fresh : server.process.threadMapStale = false) {response : Bytes}
    (answered : Answers response server (handleCommand env (ascii "qfThreadInfo") server).2)
    (listed : Lists env.ftl response tid) :
    tid ∈ liveThreadIds server ∧ server.hasProcess = true ∧
      (handleCommand env (ascii "qfThreadInfo") server).2.process = server.process ∧
      (handleCommand env (ascii "qfThreadInfo") server).2.hasProcess = true := by
  have refuses (refused : handleCommand env (ascii "qfThreadInfo") server =
      replyWithError env .perm server) : False := by
    rw [refused] at answered
    have error : Answers (Util.buildErrorPacket env.ftl .perm) server
      (replyWithError env .perm server).2 := rfl
    exact not_lists_buildErrorPacket env.ftl .perm (error.unique answered ▸ listed)
  cases process : server.hasProcess with
  | false =>
      refine (refuses ?_).elim
      change handleQueryThreadInfo env true server = _
      rw [handleQueryThreadInfo, read_bind, process, if_not_false]
  | true =>
      cases closed : server.inThreadInfoSequence with
      | true =>
          refine (refuses ?_).elim
          change handleQueryThreadInfo env true server = _
          rw [handleQueryThreadInfo, read_bind, process, if_not_true, if_not_true, read_bind,
            closed, if_pos rfl]
      | false =>
          rw [handle_qfThreadInfo_of_closed fresh process closed] at answered ⊢
          by_cases none : liveThreadIds server = []
          · rw [if_pos none] at answered
            have last : Answers (ascii "l") server (reply (ascii "l") server).2 := rfl
            obtain ⟨names, same, -⟩ := last.unique answered ▸ listed
            exact absurd (List.cons.inj same).1 (by decide)
          · rw [if_neg none] at answered ⊢
            have ids : threadInfo env (liveThreadIds server) = response :=
              Answers.unique (show Answers _ server { server with
                inThreadInfoSequence := true
                posted := server.posted ++ [.write false (threadInfo env (liveThreadIds server))] }
                from rfl) answered
            exact ⟨(lists_threadInfo_iff prints reads none).mp (ids ▸ listed), rfl, rfl, process⟩

section Agreement

variable (prints : env.ftl.PrintsDigits) (reads : env.ftl.ReadsBack)
  (number : env.ftl.stringToUInt64 field = some tid)
  (fresh : server.process.threadMapStale = false)
include prints reads number fresh

/-- `T` and then `qfThreadInfo`. -/
theorem listed_of_alive (closed : server.inThreadInfoSequence = false)
    (accepted : Answers (ascii "OK") server (handleCommand env (chr 'T' :: field) server).2) :
    let after := (handleCommand env (chr 'T' :: field) server).2
    ∃ response, Answers response after (handleCommand env (ascii "qfThreadInfo") after).2 ∧
      Lists env.ftl response tid := by
  intro after
  obtain ⟨inferior, steady, member, alive⟩ := handle_T_accepted number fresh accepted
  have process : server.hasProcess = true := (Bool.and_eq_true_iff.mp inferior).1
  have listed : tid ∈ liveThreadIds after :=
    mem_liveThreadIds.mpr ⟨member, Thread.ne_gone_of_isLive alive⟩
  have some : liveThreadIds after ≠ [] := List.ne_nil_of_mem listed
  refine ⟨threadInfo env (liveThreadIds after), ?_,
    (lists_threadInfo_iff prints reads some).mpr listed⟩
  rw [handle_qfThreadInfo_of_closed (steady.fresh fresh) (steady.process.trans process)
    (steady.sequence.trans closed), if_neg some]
  rfl

/-- `qfThreadInfo` and then `T`. -/
theorem alive_of_listed (valid : tid ≠ 0) (staying : server.NoneExiting) (held : server.Tenancy)
    {response : Bytes}
    (answered : Answers response server (handleCommand env (ascii "qfThreadInfo") server).2)
    (listed : Lists env.ftl response tid) :
    let after := (handleCommand env (ascii "qfThreadInfo") server).2
    Answers (ascii "OK") after (handleCommand env (chr 'T' :: field) after).2 := by
  intro after
  obtain ⟨live, process, same, processThere⟩ :=
    handle_qfThreadInfo_lists prints reads fresh answered listed
  obtain ⟨member, there⟩ := mem_liveThreadIds.mp live
  -- `T` asks for an attached process, `qfThreadInfo` only for a process
  have inferior : hasInferior after = true := by
    rw [hasInferior, processThere, same, (held.occupied_of_mem member).attached]
    rfl
  have stayingThere : after.NoneExiting := (Server.noneExiting_congr same).mpr staying
  have alive : (after.thread tid).state ≠ .gone := by
    rw [Server.thread, same]
    exact there
  rw [handle_T_of_mem number valid (same ▸ fresh) stayingThere inferior (same ▸ member),
    if_neg alive]
  rfl

end Agreement

theorem not_alive_of_gone (number : env.ftl.stringToUInt64 field = some tid) (valid : tid ≠ 0)
    (fresh : server.process.threadMapStale = false) (staying : server.NoneExiting)
    (member : tid ∈ server.process.threads.keys) (gone : (server.thread tid).state = .gone) :
    ¬ Answers (ascii "OK") server (handleCommand env (chr 'T' :: field) server).2 := by
  intro accepted
  obtain ⟨inferior, -⟩ := handle_T_accepted number fresh accepted
  rw [handle_T_of_mem number valid fresh staying inferior member, if_pos gone] at accepted
  exact replyWithError_not_ok env .noent rfl accepted

/-- Without a live process the weak pointer is reset. -/
theorem setCurrentThread_of_dead {id : Int64} (nonzero : id ≠ 0)
    (dead : (server.hasProcess && server.process.isLive) = false) :
    setCurrentThread env id server = (do
      Server.setCurrentThread none
      replyOK : Prog Server Bool) server := by
  rw [setCurrentThread, read_bind]
  cases process : server.hasProcess with
  | false => rw [if_not_false, if_neg nonzero]
  | true =>
      rw [process, Bool.true_and] at dead
      rw [if_not_true, read_bind, dead, if_not_false]

/-- A thread that is gone does not become the current one. -/
theorem handle_H_gone {operation : UInt8} {threadId : Bytes} {id : Util.ThreadId}
    (fresh : server.process.threadMapStale = false) (member : tid ∈ server.process.threads.keys)
    (valid : tid ≠ 0) (gone : (server.thread tid).state = .gone)
    (chooses : operation = chr 'c' ∨ operation = chr 'g')
    (parsed : Util.parseThreadId env.ftl (env.now .uninitialized server 0) threadId = some id)
    (plain : id.hasPid = false) (same : id.tid.toUInt64 = tid)
    (accepted : Answers (ascii "OK") server
      (handleCommand env (chr 'H' :: operation :: threadId) server).2) :
    (server.hasProcess && server.process.isLive) = false ∧
      (handleCommand env (chr 'H' :: operation :: threadId) server).2.currentThreadId = none := by
  have nonzero : id.tid ≠ 0 := fun zero => valid (by rw [← same, zero]; rfl)
  by_cases negative : id.tid < 0
  · rw [handle_H_parsed chooses parsed plain, if_pos negative] at accepted
    exact absurd accepted (replyWithError_not_ok env .inval rfl)
  · rw [handle_H_thread chooses parsed plain negative] at accepted ⊢
    let asked := server.asked .uninitialized
    have taken : Answers (ascii "OK") asked (setCurrentThread env id.tid asked).2 := accepted
    cases live : server.hasProcess && server.process.isLive with
    | false =>
        have dead : (asked.hasProcess && asked.process.isLive) = false := live
        change false = false ∧ (setCurrentThread env id.tid asked).2.currentThreadId = none
        rw [setCurrentThread_of_dead nonzero dead]
        exact ⟨rfl, rfl⟩
    | true =>
        obtain ⟨process, alive⟩ := Bool.and_eq_true_iff.mp live
        have processThere : asked.hasProcess = true := process
        obtain ⟨found, reached, ran, -⟩ := setCurrentThread_accepted processThere alive taken
        have looked : Process.findThreadById env tid asked =
            (some (if (asked.thread tid).state = .gone then none else some tid), asked) :=
          Process.findThreadById_of_mem fresh valid member
        have goneThere : (asked.thread tid).state = .gone := gone
        have map : Process.ensureThreadMapFresh env asked = (some (), asked) :=
          Process.ensureThreadMapFresh_of_fresh fresh
        rw [chooseThread, bind_of_some map, if_neg nonzero, same, looked, if_pos goneThere] at ran
        cases ran

end Liveness

end CommandHandler

/-! ## Picking a thread -/

/-- The same outside world, but for where the iteration over the map begins. -/
def Env.iterating (env : Env) (bucket : Nat) : Env :=
  { env with answer := Function.update env.answer .firstBucket fun _ => bucket }

def Server.NoneGone (server : Server) : Prop :=
  ∀ tid ∈ server.process.threads.keys, (server.thread tid).state ≠ .gone

theorem Server.noneGone_congr {before after : Server} (same : after.process = before.process) :
    after.NoneGone ↔ before.NoneGone := by
  unfold Server.NoneGone Server.thread
  rw [same]

/-- The result of picking from a map that has been refreshed. -/
def pickFrom (fresh : Server) (bucket : Nat) : Option (Option Koid) × Server :=
  if fresh.process.threads.keys = [] then (some none, fresh)
  else (some (fresh.process.threads.keys[bucket % fresh.process.threads.keys.length]?),
    fresh.asked .firstBucket)

section Picking

variable {fresh : Server}

theorem pickFrom_process (fresh : Server) (bucket : Nat) :
    (pickFrom fresh bucket).2.process = fresh.process := by
  unfold pickFrom
  split <;> rfl

theorem pickFrom_some (some : fresh.process.threads.keys ≠ []) (bucket : Nat) :
    ∃ tid ∈ fresh.process.threads.keys,
      pickFrom fresh bucket = (Option.some (Option.some tid), fresh.asked .firstBucket) := by
  have inside := Nat.mod_lt bucket (List.length_pos_of_ne_nil some)
  refine ⟨_, List.getElem_mem inside, ?_⟩
  rw [pickFrom, if_neg some, List.getElem?_eq_getElem inside]

theorem mem_of_pickFrom {bucket : Nat} {tid : Koid} {after : Server}
    (picked : pickFrom fresh bucket = (some (some tid), after)) :
    tid ∈ fresh.process.threads.keys := by
  rw [pickFrom] at picked
  split at picked
  · cases picked
  · exact List.mem_of_getElem? (Option.some.inj (Prod.mk.inj picked).1)

/-- Every thread of the map can come first. -/
theorem pickFrom_reaches {tid : Koid} (member : tid ∈ fresh.process.threads.keys) :
    ∃ bucket, pickFrom fresh bucket = (some (some tid), fresh.asked .firstBucket) := by
  obtain ⟨bucket, inside, rfl⟩ := List.getElem_of_mem member
  refine ⟨bucket, ?_⟩
  rw [pickFrom, if_neg (List.ne_nil_of_mem member), Nat.mod_eq_of_lt inside,
    List.getElem?_eq_getElem inside]

theorem pickFrom_ne_gone_iff (fresh : Server) :
    (∀ bucket tid after, pickFrom fresh bucket = (some (some tid), after) →
      (after.thread tid).state ≠ .gone) ↔ fresh.NoneGone := by
  constructor
  · intro never tid member
    obtain ⟨bucket, picked⟩ := pickFrom_reaches member
    exact never bucket tid (fresh.asked .firstBucket) picked
  · intro none bucket tid after picked
    have same : after.process = fresh.process :=
      (congrArg (fun result => result.2.process) picked).symm.trans (pickFrom_process fresh bucket)
    rw [Server.thread, same]
    exact none tid (mem_of_pickFrom picked)

end Picking

namespace Process

variable (env : Env) (bucket : Nat)

theorem ask_iterating (call : Call) (other : call ≠ .firstBucket) :
    ask (env.iterating bucket) call = ask env call := by
  have same : (env.iterating bucket).answer call = env.answer call := Function.update_of_ne other ..
  funext server
  rw [ask, ask, Env.now, Env.now, same]

theorem collectThreads_iterating (koids : List Koid) (newThreads : ThreadMap) :
    collectThreads (env.iterating bucket) koids newThreads = collectThreads env koids newThreads := by
  induction koids generalizing newThreads with
  | nil => rfl
  | cons threadId rest ih =>
      simp only [collectThreads, ask_iterating env bucket (.threadHandle threadId) (by simp), ih]

theorem ensureThreadMapFresh_iterating :
    ensureThreadMapFresh (env.iterating bucket) = ensureThreadMapFresh env := by
  have count := ask_iterating env bucket .threadCount (by simp)
  have koids := ask_iterating env bucket .threadKoids (by simp)
  simp only [ensureThreadMapFresh, refreshAllThreads, collectThreads_iterating, count, koids]

/-- The order of the map decides which thread is picked and nothing else. -/
theorem pickOneThread_picks (server : Server) : ∃ fresh,
    pickOneThread env server = pickFrom fresh (env.now .firstBucket fresh) ∧
      ∀ bucket, pickOneThread (env.iterating bucket) server = pickFrom fresh bucket := by
  obtain ⟨_, fresh, ran, _⟩ := ensureThreadMapFresh_quiet env server
  have picks (other : Env) (same : ensureThreadMapFresh other = ensureThreadMapFresh env) :
      pickOneThread other server = pickFrom fresh (other.now .firstBucket fresh) := by
    rw [pickOneThread, same, bind_of_some ran, read_bind, pickFrom]
    split <;> rfl
  refine ⟨fresh, picks env rfl, fun bucket => ?_⟩
  have first : (env.iterating bucket).now .firstBucket fresh = bucket := by
    unfold Env.now Env.iterating
    exact congrFun (Function.update_self Call.firstBucket (fun _ => bucket) env.answer)
      (fresh.calls .firstBucket)
  rw [picks _ (ensureThreadMapFresh_iterating env bucket), first]

end Process

namespace CommandHandler

theorem chooseThread_picks (env : Env) (server : Server) : ∃ fresh,
    chooseThread env 0 server = pickFrom fresh (env.now .firstBucket fresh) ∧
      ∀ bucket, chooseThread (env.iterating bucket) 0 server = pickFrom fresh bucket := by
  obtain ⟨_, reached, ran, _⟩ := Process.ensureThreadMapFresh_quiet env server
  obtain ⟨fresh, picked, others⟩ := Process.pickOneThread_picks env reached
  refine ⟨fresh, ?_, fun bucket => ?_⟩
  · rw [chooseThread, bind_of_some ran, if_pos rfl, picked]
  · rw [chooseThread, Process.ensureThreadMapFresh_iterating, bind_of_some ran, if_pos rfl, others]

section Selecting

variable {env : Env} {server : Server} {tid : Int64} (process : server.hasProcess = true)
  (live : server.process.isLive = true)
include process live

theorem setCurrentThread_process :
    (setCurrentThread env tid server).2.process = (chooseThread env tid server).2.process := by
  obtain ⟨chosen, reached, ran, _⟩ := chooseThread_still env tid server
  rw [setCurrentThread_of_live process live ran, ran]
  cases chosen <;> rfl

theorem setCurrentThread_of_chosen {found : Koid} {reached : Server}
    (ran : chooseThread env tid server = (some (some found), reached)) :
    Answers (ascii "OK") server (setCurrentThread env tid server).2 := by
  have kept := (chooseThread_still env tid).keeps server
  rw [ran] at kept
  rw [setCurrentThread_of_live process live ran]
  exact congrArg (· ++ _) kept.posted

/-- Whatever the order of the map, the thread that is picked is alive. -/
theorem handle_H_picked_iff (identified : server.Identified) (staying : server.NoneExiting)
    {operation : UInt8} {threadId : Bytes} {id : Util.ThreadId}
    (chooses : operation = chr 'c' ∨ operation = chr 'g')
    (parsed : Util.parseThreadId env.ftl (env.now .uninitialized server 0) threadId = some id)
    (plain : id.hasPid = false) (zero : id.tid = 0) :
    (∀ bucket,
      let after := (handleCommand (env.iterating bucket) (chr 'H' :: operation :: threadId) server).2
      Answers (ascii "OK") server after →
        ∃ tid, after.currentThreadId = some tid ∧ (after.thread tid).isLive = true) ↔
      (handleCommand env (chr 'H' :: operation :: threadId) server).2.NoneGone := by
  let asked := server.asked .uninitialized
  have processThere : asked.hasProcess = true := process
  have liveThere : asked.process.isLive = true := live
  have natural : ¬ id.tid < 0 := by
    rw [zero]
    decide
  have parsedToo (bucket : Nat) : Util.parseThreadId (env.iterating bucket).ftl
      ((env.iterating bucket).now .uninitialized server 0) threadId = some id := parsed
  obtain ⟨fresh, picked, others⟩ := chooseThread_picks env asked
  have left : (handleCommand env (chr 'H' :: operation :: threadId) server).2.process =
      fresh.process := by
    rw [handle_H_thread chooses parsed plain natural, zero]
    refine (setCurrentThread_process processThere liveThere).trans ?_
    rw [picked, pickFrom_process]
  rw [Server.noneGone_congr left]
  constructor
  · -- in the order that puts the gone thread first, it is the one selected
    intro always tid member gone
    obtain ⟨bucket, result⟩ := pickFrom_reaches member
    have ran := (others bucket).trans result
    have accepted : Answers (ascii "OK") server
        (handleCommand (env.iterating bucket) (chr 'H' :: operation :: threadId) server).2 := by
      rw [handle_H_thread chooses (parsedToo bucket) plain natural, zero]
      exact setCurrentThread_of_chosen processThere liveThere ran
    obtain ⟨key, current, alive⟩ := always bucket accepted
    obtain ⟨found, reached, ranThere, same, currentThere⟩ := handle_H_accepted identified process
      live chooses (parsedToo bucket) plain natural accepted
    rw [zero] at ranThere
    cases ranThere.symm.trans ran
    obtain rfl := Option.some.inj (current.symm.trans currentThere)
    rw [Server.thread, same] at alive
    exact Thread.ne_gone_of_isLive alive gone
  · intro none bucket after accepted
    obtain ⟨found, reached, ran, same, current⟩ := handle_H_accepted identified process live
      chooses (parsedToo bucket) plain natural accepted
    rw [zero, others bucket] at ran
    have acted : (acting env .nothing).rel asked (chooseThread env 0 asked).2 :=
      chooseThread_acts 0 asked
    have stayingThere := noneExiting_of_acting acted staying
    rw [picked, Server.noneExiting_congr (pickFrom_process fresh _)] at stayingThere
    have map : after.process = fresh.process := same.trans
      ((congrArg (fun result => result.2.process) ran).symm.trans (pickFrom_process fresh bucket))
    have member := mem_of_pickFrom ran
    refine ⟨found, current, ?_⟩
    rw [Server.thread, map]
    exact (Thread.isLive_iff (stayingThere found member)).mpr (none found member)

end Selecting

end CommandHandler

namespace Debugserver

open RspServer CommandHandler

/-- While the map is not stale. A thread that `T` has found alive is listed by
the next `qfThreadInfo`, and one that is listed is found alive by the next `T`.
A thread that is gone is neither, and `Hg` leaves no current thread if it does
not fail. -/
theorem thread_answers_agree (env : Env) (prints : env.ftl.PrintsDigits)
    (reads : env.ftl.ReadsBack) (config : Config) (inputs : List Input) :
    let server := (run (handle env) inputs (started env config)).2.core
    server.process.threadMapStale = false →
      (∀ tid field, env.ftl.stringToUInt64 field = some tid →
        let after := (handleCommand env (chr 'T' :: field) server).2
        Answers (ascii "OK") server after → server.inThreadInfoSequence = false →
          ∃ response, Answers response after (handleCommand env (ascii "qfThreadInfo") after).2 ∧
            Lists env.ftl response tid) ∧
      (∀ tid field response, tid ≠ 0 → env.ftl.stringToUInt64 field = some tid →
        let after := (handleCommand env (ascii "qfThreadInfo") server).2
        Answers response server after → Lists env.ftl response tid →
          Answers (ascii "OK") after (handleCommand env (chr 'T' :: field) after).2) ∧
      ∀ tid ∈ server.process.threads.keys, tid ≠ 0 → (server.thread tid).state = .gone →
        (∀ response, Answers response server (handleCommand env (ascii "qfThreadInfo") server).2 →
          ¬ Lists env.ftl response tid) ∧
        (∀ field, env.ftl.stringToUInt64 field = some tid →
          ¬ Answers (ascii "OK") server (handleCommand env (chr 'T' :: field) server).2) ∧
        ∀ threadId id,
          Util.parseThreadId env.ftl (env.now .uninitialized server 0) threadId = some id →
          id.hasPid = false → id.tid.toUInt64 = tid →
          let after := (handleCommand env (chr 'H' :: chr 'g' :: threadId) server).2
          Answers (ascii "OK") server after →
            (server.hasProcess && server.process.isLive) = false ∧ after.currentThreadId = none := by
  intro server fresh
  have staying : server.NoneExiting := run_noneExiting env config inputs
  have tenancy : server.Tenancy := run_tenancy env config inputs
  refine ⟨?_, ?_, ?_⟩
  · intro tid field number after accepted closed
    exact listed_of_alive prints reads number fresh closed accepted
  · intro tid field response valid number after answered listed
    exact alive_of_listed prints reads number fresh valid staying tenancy answered listed
  · intro tid member valid gone
    refine ⟨fun response answered listed => ?_, fun field number => ?_, ?_⟩
    · obtain ⟨live, -⟩ := handle_qfThreadInfo_lists prints reads fresh answered listed
      exact (mem_liveThreadIds.mp live).2 gone
    · exact not_alive_of_gone number valid fresh staying member gone
    · intro threadId id parsed plain same after accepted
      exact handle_H_gone fresh member valid gone (Or.inr rfl) parsed plain same accepted

/-- Thread 9 has exited, and thread 10 runs. -/
def untilOneLeft : List Input :=
  untilFirstThread ++ [.bytesRead (ascii "$vCont;c#a8"), .exception 1 .threadStarting ⟨10, 0, 0⟩,
    .bytesRead (ascii "$vCont;c#a8"), .exception 1 .threadExiting ⟨9, 0, 0⟩]

def oneLeft : Server :=
  (run (handle obliging) untilOneLeft (started obliging program)).2.core

theorem oneLeft_accepts :
    Answers (ascii "OK") oneLeft (handleCommand obliging (ascii "Ta") oneLeft).2 :=
  (by decide +kernel : _ = _)

/-- `Ta` and then `qfThreadInfo`; thread 9 is not listed. -/
theorem oneLeft_listed :
    let after := (handleCommand obliging (ascii "Ta") oneLeft).2
    oneLeft.process.threadMapStale = false ∧
      (∃ response, Answers response after (handleCommand obliging (ascii "qfThreadInfo") after).2 ∧
        Lists obliging.ftl response 10) ∧
      ∀ response,
        Answers response oneLeft (handleCommand obliging (ascii "qfThreadInfo") oneLeft).2 →
          ¬ Lists obliging.ftl response 9 := by
  have fresh : oneLeft.process.threadMapStale = false := by decide +kernel
  have number : obliging.ftl.stringToUInt64 (ascii "a") = some 10 := by decide +kernel
  have closed : oneLeft.inThreadInfoSequence = false := by decide +kernel
  have member : 9 ∈ oneLeft.process.threads.keys := by decide +kernel
  have gone : (oneLeft.thread 9).state = .gone := by decide +kernel
  have accepted := oneLeft_accepts
  unfold oneLeft at fresh closed member gone accepted ⊢
  obtain ⟨alive, -, exited⟩ := thread_answers_agree obliging Ftl.standard_printsDigits
    Ftl.standard_readsBack program untilOneLeft fresh
  exact ⟨fresh, alive 10 (ascii "a") number accepted closed,
    (exited 9 member (by decide) gone).1⟩

/-- Picking returns a thread unless the map is empty, and in some order of the
map one that is gone, unless there is none. The same goes for the thread that
`Hg0` selects in a live process. -/
theorem picked_thread_live_iff (env : Env) (config : Config) (inputs : List Input) :
    let server := (run (handle env) inputs (started env config)).2.core
    ((Process.pickOneThread env server).2.process.threads.keys ≠ [] →
      ∃ tid, (Process.pickOneThread env server).1 = some (some tid)) ∧
    ((∀ bucket tid after,
        Process.pickOneThread (env.iterating bucket) server = (some (some tid), after) →
          (after.thread tid).state ≠ .gone) ↔
      (Process.pickOneThread env server).2.NoneGone) ∧
    ∀ threadId id,
      Util.parseThreadId env.ftl (env.now .uninitialized server 0) threadId = some id →
      id.hasPid = false → id.tid = 0 → server.hasProcess = true → server.process.isLive = true →
      let command := chr 'H' :: chr 'g' :: threadId
      ((∀ bucket,
          let after := (handleCommand (env.iterating bucket) command server).2
          Answers (ascii "OK") server after →
            ∃ tid, after.currentThreadId = some tid ∧ (after.thread tid).isLive = true) ↔
        (handleCommand env command server).2.NoneGone) := by
  intro server
  have identified : server.Identified := run_identified env config inputs
  have staying : server.NoneExiting := run_noneExiting env config inputs
  obtain ⟨fresh, picked, others⟩ := Process.pickOneThread_picks env server
  refine ⟨?_, ?_, ?_⟩
  · rw [picked, pickFrom_process]
    intro some
    obtain ⟨tid, -, result⟩ := pickFrom_some some (env.now .firstBucket fresh)
    exact ⟨tid, congrArg Prod.fst result⟩
  · simp only [others]
    rw [pickFrom_ne_gone_iff, picked, Server.noneGone_congr (pickFrom_process fresh _)]
  · intro threadId id parsed plain zero process live command
    exact handle_H_picked_iff process live identified staying (Or.inr rfl) parsed plain zero

theorem firstThread_accepts_any : Answers (ascii "OK") firstThread
    (handleCommand (obliging.iterating 0) (ascii "Hg0") firstThread).2 :=
  (by decide +kernel : _ = _)

/-- `Hg0` while the only thread is alive. -/
theorem firstThread_picked_live :
    let after := (handleCommand (obliging.iterating 0) (ascii "Hg0") firstThread).2
    Answers (ascii "OK") firstThread after ∧
      ∃ tid, after.currentThreadId = some tid ∧ (after.thread tid).isLive = true := by
  have keys : (handleCommand obliging (ascii "Hg0") firstThread).2.process.threads.keys = [9] := by
    decide +kernel
  have alive : ((handleCommand obliging (ascii "Hg0") firstThread).2.thread 9).state ≠ .gone := by
    decide +kernel
  have none : (handleCommand obliging (ascii "Hg0") firstThread).2.NoneGone := by
    intro tid member
    rw [keys] at member
    obtain rfl := List.mem_singleton.mp member
    exact alive
  exact ⟨firstThread_accepts_any,
    ((picked_thread_live_iff obliging program untilFirstThread).2.2 (ascii "0") ⟨false, 0, 0⟩
      (by decide +kernel) rfl rfl (by decide +kernel) (by decide +kernel)).mpr none 0
        firstThread_accepts_any⟩

/-- The thread that has exited is picked and selected although the other one is alive. -/
theorem exitedThread_picked :
    let after := (handleCommand obliging (ascii "Hg0") oneLeft).2
    hasInferior oneLeft = true ∧ oneLeft.process.isLive = true ∧
      oneLeft.process.threadMapStale = false ∧ liveThreadIds oneLeft = [10] ∧
      (Process.pickOneThread obliging oneLeft).1 = some (some 9) ∧
      after.posted = oneLeft.posted ++ [.write false (ascii "OK")] ∧
      after.currentThreadId = some 9 ∧ (after.thread 9).state = .gone := by
  decide +kernel

end Debugserver

end Gdbserver
