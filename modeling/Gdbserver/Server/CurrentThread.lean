import Gdbserver.Server.KernelView
import Gdbserver.Server.PickOne
import Gdbserver.Server.Replies

/-!
# The current thread

`Hg` and `Hc` choose the thread that later commands are for, and `qC` asks for
it. The server holds a weak pointer to a thread object; it leads to a thread for
as long as the map has that very object.
-/

set_option autoImplicit false

namespace Gdbserver

open Logic Prog Frame

/-! ## Objects and keys -/

section Identity

variable {env : Env} {allowed : Permits} {tid : Koid}

theorem Touch.identified {before after : Server} (touch : Touch env allowed tid before after)
    (identified : before.Identified) : after.Identified := by
  cases touch with
  | unread | unresumed => exact ⟨identified.threads, identified.current⟩
  | zeroed | refreshed | unstored | stored | marked | resumed | halted | left =>
      exact ⟨identified.threads.set tid rfl, identified.current⟩

theorem Act.identified {before after : Server} (act : Act env allowed before after)
    (identified : before.Identified) : after.Identified := by
  cases act with
  | aside kept => exact kept.identified identified
  | posted post may => exact ⟨identified.threads, identified.current⟩
  | touched touch => exact touch.identified identified

theorem identified_of_acting {before after : Server}
    (acted : (acting env allowed).rel before after) :
    (preserving Server.Identified).rel before after :=
  steps_within (fun act => act.identified) acted

end Identity

theorem Debugserver.run_identified (env : Env) (config : Config) (inputs : List Input) :
    (run (RspServer.handle env) inputs (started env config)).2.core.Identified := by
  refine run_keeps config inputs Act.identified (fun server kernel identified => ?_) ?_
  · exact ⟨identified.threads, identified.current⟩
  · exact ⟨.of_empty rfl, fun _ member => absurd member (Option.not_mem_none _)⟩

/-- The weak pointer leads to the key under which its object is stored. -/
theorem Server.Identified.currentThreadId_eq_some_iff {server : Server}
    (identified : server.Identified) {tid : Koid} :
    server.currentThreadId = some tid ↔
      tid ∈ server.process.threads.keys ∧ server.currentThread = some (server.thread tid).object := by
  rw [currentThreadId]
  cases current : server.currentThread with
  | none => exact iff_of_false nofun fun both => nomatch both.2
  | some object =>
      constructor
      · intro found
        have same := List.find?_some found
        exact ⟨List.mem_of_find?_eq_some found, congrArg some (of_decide_eq_true same).symm⟩
      · rintro ⟨member, same⟩
        obtain rfl := Option.some.inj same
        have there : (server.process.threads.keys.find? fun key =>
            (server.process.threads.thread key).object = (server.thread tid).object).isSome :=
          List.find?_isSome.mpr ⟨tid, member, decide_eq_true rfl⟩
        obtain ⟨key, found⟩ := Option.isSome_iff_exists.mp there
        have equal := List.find?_some found
        have only := identified.threads.own key (List.mem_of_find?_eq_some found) tid member
          (of_decide_eq_true equal)
        exact only ▸ found

theorem Server.Identified.currentThreadId_eq_none_iff {server : Server}
    (identified : server.Identified) :
    server.currentThreadId = none ↔ ∀ tid ∈ server.process.threads.keys,
      server.currentThread ≠ some (server.thread tid).object := by
  rw [Option.eq_none_iff_forall_ne_some]
  constructor
  · intro none tid member current
    exact none tid (identified.currentThreadId_eq_some_iff.mpr ⟨member, current⟩)
  · intro dangling tid current
    obtain ⟨member, same⟩ := identified.currentThreadId_eq_some_iff.mp current
    exact dangling tid member same

/-! ## Refreshing the map -/

/-- The map is the same, or all its objects are new. -/
structure Renewed (before after : Server) : Prop where
  current : after.currentThread = before.currentThread
  objects : before.objects ≤ after.objects
  threads : after.process.threads = before.process.threads ∨
    ∀ tid ∈ after.process.threads.keys, before.objects ≤ (after.thread tid).object

def renewing : Frame Server where
  rel := Renewed
  refl _ := ⟨rfl, le_rfl, Or.inl rfl⟩
  trans := by
    intro before middle after first second
    refine ⟨second.current.trans first.current, first.objects.trans second.objects, ?_⟩
    rcases second.threads with same | newer
    · unfold Server.thread
      rw [same]
      exact first.threads
    · exact Or.inr fun tid member => first.objects.trans (newer tid member)

/-- A weak pointer that leads nowhere does not come to lead to a new object. -/
theorem Renewed.currentThreadId_eq_none {before after : Server} (renewed : Renewed before after)
    (identified : before.Identified) (still : after.Identified)
    (unset : before.currentThreadId = none) : after.currentThreadId = none := by
  rw [still.currentThreadId_eq_none_iff]
  intro tid member same
  rw [renewed.current] at same
  rcases renewed.threads with kept | newer
  · rw [Server.thread, kept] at same
    rw [kept] at member
    exact identified.currentThreadId_eq_none_iff.mp unset tid member same
  · exact absurd (identified.current _ same) (Nat.not_lt.mpr (newer tid member))

namespace Process

variable (env : Env)

theorem ask_renews (call : Call) : renewing.Keeps (ask env call) :=
  fun _ => ⟨rfl, le_rfl, Or.inl rfl⟩

theorem collectThreads_renews (koids : List Koid) (newThreads : ThreadMap) :
    renewing.Keeps (collectThreads env koids newThreads) := by
  induction koids generalizing newThreads with
  | nil => exact Keeps.pure
  | cons threadId rest ih =>
      have created : renewing.Keeps createThread := fun server =>
        ⟨rfl, Nat.le_succ server.objects, Or.inl rfl⟩
      exact Keeps.bind (ask_renews env _) fun _ => Keeps.ite (fun _ => ih newThreads) fun _ =>
        Keeps.bind created fun thread => ih (newThreads.insert threadId thread)

theorem refreshAllThreads_renews : renewing.Keeps (refreshAllThreads env) := by
  refine Keeps.bind (ask_renews env _) fun _ => Keeps.ite (fun _ => Keeps.pure) fun _ =>
    Keeps.bind (ask_renews env _) fun _ => Keeps.ite (fun _ => Keeps.pure) fun _ server => ?_
  rw [read_bind]
  generalize List.take _ _ = koids
  have collected := collectThreads_renews env koids server.process.threads.clear server
  rcases stopped_or_ran (collectThreads env koids server.process.threads.clear) server with
    ⟨reached, ran⟩ | ⟨threads, reached, ran⟩
  · rw [bind_of_none ran]
    rw [ran] at collected
    exact collected
  · rw [bind_of_some ran]
    rw [ran] at collected
    have new := collectThreads_fresh server.objects _ ran le_rfl
      (fun tid member => absurd member List.not_mem_nil) (.of_empty rfl)
    exact ⟨collected.current, collected.objects, Or.inr fun tid member => (new.1 tid member).2⟩

theorem ensureThreadMapFresh_renews : renewing.Keeps (ensureThreadMapFresh env) :=
  Keeps.bind Keeps.read fun _ => Keeps.ite
    (fun _ => Keeps.bind (refreshAllThreads_renews env) fun _ => Keeps.pure) fun _ => Keeps.pure

theorem pickOneThread_renews : renewing.Keeps (pickOneThread env) :=
  Keeps.bind (ensureThreadMapFresh_renews env) fun _ => Keeps.bind Keeps.read fun _ =>
    Keeps.ite (fun _ => Keeps.pure) fun _ => Keeps.bind (ask_renews env _) fun _ => Keeps.pure

end Process

/-! ## Commands for one thread -/

/-- Nothing is done with any other thread, and a request to run is one for this
thread. It stays the current thread if it was. -/
structure Alone (tid : Koid) (before after : Server) : Prop where
  keys : after.process.threads.keys = before.process.threads.keys
  current : after.currentThread = before.currentThread
  object : (after.thread tid).object = (before.thread tid).object
  threads : ∀ other, other ≠ tid → after.thread other = before.thread other
  registers : ∀ other, other ≠ tid → after.kernel.registers other = before.kernel.registers other
  calls : ∀ call other, call.thread? = some other → other ≠ tid →
    after.calls call = before.calls call
  requests : ∃ requests, after.log = before.log ++ requests ∧ ∀ event ∈ requests, event = .resume tid

section Alone

variable (env : Env) (tid : Koid)

def alone : Frame Server where
  rel := Alone tid
  refl _ := ⟨rfl, rfl, rfl, fun _ _ => rfl, fun _ _ => rfl, fun _ _ _ _ => rfl, [],
    (List.append_nil _).symm, nofun⟩
  trans := by
    intro before middle after first second
    obtain ⟨requests, logged, each⟩ := first.requests
    obtain ⟨more, loggedMore, eachMore⟩ := second.requests
    refine ⟨second.keys.trans first.keys, second.current.trans first.current,
      second.object.trans first.object, fun other differ => ?_, fun other differ => ?_,
      fun call other on differ => ?_, requests ++ more, ?_, ?_⟩
    · rw [second.threads other differ, first.threads other differ]
    · rw [second.registers other differ, first.registers other differ]
    · rw [second.calls call other on differ, first.calls call other on differ]
    · rw [loggedMore, logged, List.append_assoc]
    · exact List.forall_mem_append.mpr ⟨each, eachMore⟩

variable {tid}

theorem ask_alone {call : Call} (own : ∀ other, call.thread? = some other → other = tid) :
    (alone tid).Keeps (ask env call) := by
  intro server
  refine ⟨rfl, rfl, rfl, fun _ _ => rfl, fun _ _ => rfl, fun made other on differ => ?_, [],
    (List.append_nil _).symm, nofun⟩
  refine server.asked_calls fun same => differ (own other ?_)
  rw [← same]
  exact on

variable (tid)

theorem modifyThread_alone {update : Thread → Thread}
    (same : ∀ thread, (update thread).object = thread.object) :
    (alone tid).Keeps (modifyThread tid update) := by
  intro server
  refine ⟨rfl, rfl, ?_, fun _ differ => Function.update_of_ne differ .., fun _ _ => rfl,
    fun _ _ _ _ => rfl, [], (List.append_nil _).symm, nofun⟩
  exact (congrArg Thread.object (Server.thread_setThread server tid _)).trans (same _)

theorem reply_alone (response : Bytes) : (alone tid).Keeps (CommandHandler.reply response) :=
  fun _ => ⟨rfl, rfl, rfl, fun _ _ => rfl, fun _ _ => rfl, fun _ _ _ _ => rfl, [],
    (List.append_nil _).symm, nofun⟩

namespace Registers

theorem refreshGeneralRegisters_alone : (alone tid).Keeps (refreshGeneralRegisters env tid) := by
  unfold refreshGeneralRegisters
  split
  · exact Keeps.pure
  all_goals
    exact Keeps.bind Keeps.read fun _ => Keeps.ite
      (fun _ => Keeps.bind (modifyThread_alone tid fun _ => rfl) fun _ => Keeps.pure)
      fun _ => Keeps.bind (ask_alone env fun _ on => (Option.some.inj on).symm) fun _ =>
        Keeps.ite (fun _ => Keeps.pure) fun _ => Keeps.bind Keeps.read fun _ =>
          Keeps.bind (modifyThread_alone tid fun _ => rfl) fun _ => Keeps.pure

theorem writeGeneralRegisters_alone : (alone tid).Keeps (writeGeneralRegisters env tid) := by
  have stored : (alone tid).Keeps (modify fun server =>
      server.storeRegisters tid (server.thread tid).gregs) := fun _ =>
    ⟨rfl, rfl, rfl, fun _ _ => rfl, fun _ differ => Function.update_of_ne differ ..,
      fun _ _ _ _ => rfl, [], (List.append_nil _).symm, nofun⟩
  unfold writeGeneralRegisters
  split
  · exact Keeps.pure
  all_goals
    exact Keeps.bind (ask_alone env fun _ on => (Option.some.inj on).symm) fun _ =>
      Keeps.ite (fun _ => Keeps.pure) fun _ => Keeps.bind stored fun _ => Keeps.pure

end Registers

theorem Thread.updateRegisters_alone (update : RegisterSet → Option RegisterSet) :
    (alone tid).Keeps (Thread.updateRegisters tid update) := by
  refine Keeps.bind Keeps.read fun gregs => ?_
  split
  · exact Keeps.pure
  · exact Keeps.bind (modifyThread_alone tid fun _ => rfl) fun _ => Keeps.pure

theorem Thread.resume_alone : (alone tid).Keeps (Thread.resume env tid) := by
  have requested : (alone tid).Keeps (record (.resume tid)) := fun _ =>
    ⟨rfl, rfl, rfl, fun _ _ => rfl, fun _ _ => rfl, fun _ _ _ _ => rfl, [.resume tid], rfl,
      fun _ member => List.mem_singleton.mp member⟩
  exact Keeps.bind requested fun _ => Keeps.bind Keeps.read fun _ =>
    Keeps.ite (fun _ => Keeps.pure) fun _ =>
      Keeps.bind (ask_alone env fun _ on => (Option.some.inj on).symm) fun _ =>
        Keeps.ite (fun _ => Keeps.pure) fun _ =>
          Keeps.bind (modifyThread_alone tid fun _ => rfl) fun _ => Keeps.pure

namespace CommandHandler

theorem resumeThread_alone : (alone tid).Keeps (resumeThread env tid) :=
  Keeps.bind (Thread.resume_alone env tid) fun _ =>
    Keeps.ite (fun _ => reply_alone tid _) fun _ => reply_alone tid _

theorem continueAt_alone (addr : UInt64) :
    (alone tid).Keeps (do
      if !(← setPC env tid addr) then replyWithError env .perm else resumeThread env tid) := by
  have set : (alone tid).Keeps (setPC env tid addr) :=
    Keeps.bind (Registers.refreshGeneralRegisters_alone env tid) fun _ =>
      Keeps.ite (fun _ => Keeps.pure) fun _ =>
        Keeps.bind (Thread.updateRegisters_alone tid _) fun _ =>
          Keeps.ite (fun _ => Keeps.pure) fun _ => Registers.writeGeneralRegisters_alone env tid
  exact Keeps.bind set fun _ =>
    Keeps.ite (fun _ => reply_alone tid _) fun _ => resumeThread_alone env tid

variable {tid} {server : Server} (current : server.currentThreadId = some tid)
include current

theorem handle_c_alone (packet : Bytes) : (alone tid).rel server (handle_c env packet server).2 := by
  rw [handle_c, read_bind]
  split
  · exact reply_alone tid _ server
  · rw [read_bind, current]
    split
    · exact resumeThread_alone env tid server
    · cases env.ftl.stringToUInt64 packet with
      | none => exact reply_alone tid _ server
      | some addr => exact continueAt_alone env tid addr server

theorem handle_C_alone (packet : Bytes) : (alone tid).rel server (handle_C env packet server).2 := by
  rw [handle_C, read_bind]
  split
  · exact reply_alone tid _ server
  · rw [read_bind, current]
    cases env.ftl.stringToInt .k16 (packet.takeWhile (· ≠ chr ';')) with
    | none => exact reply_alone tid _ server
    | some signo =>
        refine Keeps.bind Keeps.read (fun _ => Keeps.ite (fun _ => reply_alone tid _) fun _ =>
          Keeps.ite (fun _ => reply_alone tid _) fun _ =>
            Keeps.ite (fun _ => resumeThread_alone env tid) fun _ => ?_) server
        split
        · exact reply_alone tid _
        · exact continueAt_alone env tid _

theorem handle_g_alone : (alone tid).rel server (handle_g env server).2 := by
  rw [handle_g, read_bind]
  split
  · exact reply_alone tid _ server
  · rw [read_bind, current]
    have read : (alone tid).Keeps (generalRegisters env (some tid)) :=
      Keeps.bind (ask_alone env nofun) fun _ => Keeps.read
    exact Keeps.bind read (fun _ => Keeps.ite (fun _ => reply_alone tid _) fun _ =>
      reply_alone tid _) server

theorem handle_G_alone (packet : Bytes) : (alone tid).rel server (handle_G env packet server).2 := by
  rw [handle_G, read_bind]
  split
  · exact reply_alone tid _ server
  · rw [read_bind, current]
    exact Keeps.bind (Thread.updateRegisters_alone tid _) (fun _ =>
      Keeps.ite (fun _ => reply_alone tid _) fun _ =>
        Keeps.bind (Registers.writeGeneralRegisters_alone env tid) fun _ =>
          Keeps.ite (fun _ => reply_alone tid _) fun _ => reply_alone tid _) server

end CommandHandler

end Alone

namespace CommandHandler

/-- `g`, `G`, `c` and `C` are for this thread: it is the current one, and they
leave the others alone. -/
structure Addresses (env : Env) (tid : Koid) (server : Server) : Prop where
  current : server.currentThreadId = some tid
  alone : ∀ command ∈ [chr 'g', chr 'G', chr 'c', chr 'C'], ∀ arguments,
    Alone tid server (handleCommand env (command :: arguments) server).2

theorem addresses_of_current (env : Env) {tid : Koid} {server : Server}
    (current : server.currentThreadId = some tid) : Addresses env tid server := by
  refine ⟨current, fun command listed arguments => ?_⟩
  simp only [List.mem_cons, List.not_mem_nil, or_false] at listed
  rcases listed with rfl | rfl | rfl | rfl
  · change Alone tid server ((if arguments ≠ [] then pure false else handle_g env) server).2
    split
    · exact (Gdbserver.alone tid).refl server
    · exact handle_g_alone env current
  · exact handle_G_alone env current arguments
  · exact handle_c_alone env current arguments
  · exact handle_C_alone env current arguments

/-- The one response to a command. -/
def Answers (response : Bytes) (before after : Server) : Prop :=
  after.posted = before.posted ++ [.write false response]

theorem buildErrorPacket_ne_ok (ftl : Ftl) (code : Util.ErrorCode) :
    Util.buildErrorPacket ftl code ≠ ascii "OK" := fun same =>
  absurd (List.cons.inj same).1 (by decide)

theorem Answers.unique {response other : Bytes} {before after : Server}
    (first : Answers response before after) (second : Answers other before after) :
    response = other := by
  have same := List.append_cancel_left (first.symm.trans second)
  exact (Post.write.inj (List.singleton_inj.mp same)).2

theorem Answers.not_ok {ftl : Ftl} {code : Util.ErrorCode} {before after : Server}
    (refused : Answers (Util.buildErrorPacket ftl code) before after) :
    ¬ Answers (ascii "OK") before after :=
  fun accepted => buildErrorPacket_ne_ok ftl code (refused.unique accepted)

theorem replyWithError_not_ok (env : Env) (code : Util.ErrorCode) {before reached : Server}
    (posted : reached.posted = before.posted) :
    ¬ Answers (ascii "OK") before (replyWithError env code reached).2 := by
  have refused : Answers (Util.buildErrorPacket env.ftl code) before
      (replyWithError env code reached).2 := congrArg (· ++ _) posted
  exact refused.not_ok

section Choosing

variable {env : Env} {server : Server}

/-- The thread id of `Hc` or `Hg` has been read. -/
theorem handle_H_parsed {operation : UInt8} {threadId : Bytes} {id : Util.ThreadId}
    (chooses : operation = chr 'c' ∨ operation = chr 'g')
    (parsed : Util.parseThreadId env.ftl (env.now .uninitialized server 0) threadId = some id)
    (plain : id.hasPid = false) :
    handleCommand env (chr 'H' :: operation :: threadId) server =
      (if id.tid < 0 then replyWithError env .inval else setCurrentThread env id.tid)
        (server.asked .uninitialized) := by
  change handle_H env (operation :: threadId) server = _
  cases threadId with
  | nil => exact absurd (show some id = none from parsed.symm) (Option.some_ne_none id)
  | cons first rest =>
      rw [handle_H, if_pos chooses, ask_bind, parsed]
      · dsimp only
        rw [plain]
        rfl
      · exact List.cons_ne_nil first rest

theorem handle_H_thread {operation : UInt8} {threadId : Bytes} {id : Util.ThreadId}
    (chooses : operation = chr 'c' ∨ operation = chr 'g')
    (parsed : Util.parseThreadId env.ftl (env.now .uninitialized server 0) threadId = some id)
    (plain : id.hasPid = false) (natural : ¬ id.tid < 0) :
    handleCommand env (chr 'H' :: operation :: threadId) server =
      setCurrentThread env id.tid (server.asked .uninitialized) := by
  rw [handle_H_parsed chooses parsed plain, if_neg natural]

theorem setCurrentThread_of_live {tid : Int64} (process : server.hasProcess = true)
    (live : server.process.isLive = true) {chosen : Option Koid} {reached : Server}
    (ran : chooseThread env tid server = (some chosen, reached)) :
    setCurrentThread env tid server =
      (chosen.elim (replyWithError env .perm) fun found => do
        Server.setCurrentThread (some found)
        replyOK) reached := by
  rw [setCurrentThread, read_bind, process, if_not_true, read_bind, live, if_not_true,
    bind_of_some ran]
  cases chosen <;> rfl

/-- `OK` on a live process means that a thread has been chosen and made the current one. -/
theorem setCurrentThread_accepted {tid : Int64} (process : server.hasProcess = true)
    (live : server.process.isLive = true)
    (accepted : Answers (ascii "OK") server (setCurrentThread env tid server).2) :
    ∃ found reached, chooseThread env tid server = (some (some found), reached) ∧
      (setCurrentThread env tid server).2 =
        { reached with
          currentThread := some (reached.thread found).object
          posted := reached.posted ++ [.write false (ascii "OK")] } := by
  obtain ⟨chosen, reached, ran, kept⟩ := chooseThread_still env tid server
  have after := setCurrentThread_of_live process live ran
  cases chosen with
  | some found => exact ⟨found, reached, ran, congrArg Prod.snd after⟩
  | none =>
      rw [after] at accepted
      exact absurd accepted (replyWithError_not_ok env .perm kept.posted)

theorem chooseThread_of_ne_zero {tid : Int64} (positive : tid ≠ 0) {found : Koid} {after : Server}
    (ran : chooseThread env tid server = (some (some found), after)) : found = tid.toUInt64 := by
  obtain ⟨_, reached, fresh, _⟩ := Process.ensureThreadMapFresh_quiet env server
  rw [chooseThread, bind_of_some fresh, if_neg positive] at ran
  exact (Process.findThreadById_found ran).1

/-- The thread chosen is the current one. -/
theorem handle_H_accepted {operation : UInt8} {threadId : Bytes} {id : Util.ThreadId}
    (identified : server.Identified) (process : server.hasProcess = true)
    (live : server.process.isLive = true) (chooses : operation = chr 'c' ∨ operation = chr 'g')
    (parsed : Util.parseThreadId env.ftl (env.now .uninitialized server 0) threadId = some id)
    (plain : id.hasPid = false) (natural : ¬ id.tid < 0)
    (accepted : Answers (ascii "OK") server
      (handleCommand env (chr 'H' :: operation :: threadId) server).2) :
    ∃ found reached,
      chooseThread env id.tid (server.asked .uninitialized) = (some (some found), reached) ∧
      (handleCommand env (chr 'H' :: operation :: threadId) server).2.process = reached.process ∧
      (handleCommand env (chr 'H' :: operation :: threadId) server).2.currentThreadId =
        some found := by
  rw [handle_H_thread chooses parsed plain natural] at accepted ⊢
  let asked := server.asked .uninitialized
  have taken : Answers (ascii "OK") asked (setCurrentThread env id.tid asked).2 := accepted
  have processThere : asked.hasProcess = true := process
  obtain ⟨found, reached, ran, last⟩ := setCurrentThread_accepted processThere live taken
  change ∃ found reached, chooseThread env id.tid asked = (some (some found), reached) ∧
    (setCurrentThread env id.tid asked).2.process = reached.process ∧
    (setCurrentThread env id.tid asked).2.currentThreadId = some found
  rw [last]
  refine ⟨found, reached, ran, rfl, ?_⟩
  have acted : (acting env .nothing).rel asked (chooseThread env id.tid asked).2 :=
    chooseThread_acts id.tid asked
  rw [ran] at acted
  have there := identified_of_acting acted ⟨identified.threads, identified.current⟩
  have member := chooseThread_found ran
  -- the pointer is set to the object the map has for the thread now
  have after : ({ reached with
      currentThread := some (reached.thread found).object
      posted := reached.posted ++ [.write false (ascii "OK")] } : Server).Identified := by
    refine ⟨there.threads, fun object set => ?_⟩
    obtain rfl := Option.some.inj set
    exact there.threads.created found member
  exact after.currentThreadId_eq_some_iff.mpr ⟨member, rfl⟩

end Choosing

section Asking

variable {env : Env} {server : Server}

theorem handle_qC_of_current {tid : Koid} (current : server.currentThreadId = some tid) :
    handleCommand env (ascii "qC") server = replyThreadId env tid server := by
  change handleQueryCurrentThreadId env [] server = _
  rw [handleQueryCurrentThreadId, if_neg (not_not.mpr rfl), read_bind, current]

theorem handle_qC_of_dead (current : server.currentThreadId = none)
    (dead : (server.hasProcess && server.process.isLive) = false) :
    handleCommand env (ascii "qC") server = replyWithError env .perm server := by
  change handleQueryCurrentThreadId env [] server = _
  rw [handleQueryCurrentThreadId, if_neg (not_not.mpr rfl), read_bind, current]
  dsimp only
  rw [read_bind, dead]
  rfl

theorem handle_qC_of_picked (current : server.currentThreadId = none)
    (live : (server.hasProcess && server.process.isLive) = true) {picked : Option Koid}
    {reached : Server} (ran : Process.pickOneThread env server = (some picked, reached)) :
    handleCommand env (ascii "qC") server =
      (picked.elim (replyWithError env .perm) (replyThreadId env)) reached := by
  change handleQueryCurrentThreadId env [] server = _
  rw [handleQueryCurrentThreadId, if_neg (not_not.mpr rfl), read_bind, current]
  dsimp only
  rw [read_bind, live, if_not_true, bind_of_some ran]
  cases picked <;> rfl

/-- Picking a thread does not make it the current one. -/
theorem pickOneThread_unset (env : Env) (identified : server.Identified)
    (current : server.currentThreadId = none) :
    (Process.pickOneThread env server).2.currentThreadId = none := by
  have acted : (acting env .nothing).rel server (Process.pickOneThread env server).2 :=
    Process.pickOneThread_acts server
  exact (Process.pickOneThread_renews env server).currentThreadId_eq_none identified
    (identified_of_acting acted identified) current

/-- `qC` names the current thread. Without one it names a thread that it has
picked, and that does not become the current one. -/
theorem handle_qC_cases (env : Env) (identified : server.Identified) :
    let after := (handleCommand env (ascii "qC") server).2
    (∃ code, Answers (Util.buildErrorPacket env.ftl code) server after) ∨
      ∃ tid, Answers (ascii "QC" ++ env.ftl.uint64ToHex tid) server after ∧
        (after.currentThreadId = some tid ↔ server.currentThreadId.isSome) := by
  cases current : server.currentThreadId with
  | some tid =>
      rw [handle_qC_of_current current]
      exact Or.inr ⟨tid, rfl, iff_of_true current rfl⟩
  | none =>
      cases live : server.hasProcess && server.process.isLive with
      | false =>
          rw [handle_qC_of_dead current live]
          exact Or.inl ⟨.perm, rfl⟩
      | true =>
          obtain ⟨picked, reached, ran, kept⟩ := Process.pickOneThread_quiet env server
          have unset := pickOneThread_unset env identified current
          rw [ran] at unset
          rw [handle_qC_of_picked current live ran]
          cases picked with
          | none => exact Or.inl ⟨.perm, congrArg (· ++ _) kept.posted⟩
          | some tid =>
              refine Or.inr ⟨tid, congrArg (· ++ _) kept.posted, iff_of_false ?_ Bool.false_ne_true⟩
              intro set
              exact absurd (unset.symm.trans set) nofun

end Asking

end CommandHandler

namespace Debugserver

open RspServer CommandHandler

/-- With a live inferior: a thread selected by `Hc` or `Hg` is the one that the
next commands are for. A thread named by `qC` is, exactly when there was a
current thread before. -/
theorem told_thread_addressed (env : Env) (config : Config) (inputs : List Input) :
    let server := (run (handle env) inputs (started env config)).2.core
    hasInferior server = true → server.process.isLive = true →
      (∀ operation threadId id, operation = chr 'c' ∨ operation = chr 'g' →
        Util.parseThreadId env.ftl (env.now .uninitialized server 0) threadId = some id →
        id.hasPid = false → 0 < id.tid →
        let after := (handleCommand env (chr 'H' :: operation :: threadId) server).2
        Answers (ascii "OK") server after → Addresses env id.tid.toUInt64 after) ∧
      let after := (handleCommand env (ascii "qC") server).2
      (∃ code, Answers (Util.buildErrorPacket env.ftl code) server after) ∨
        ∃ tid, Answers (ascii "QC" ++ env.ftl.uint64ToHex tid) server after ∧
          (Addresses env tid after ↔ server.currentThreadId.isSome) := by
  intro server inferior live
  have identified : server.Identified := run_identified env config inputs
  have process : server.hasProcess = true := (Bool.and_eq_true_iff.mp inferior).1
  constructor
  · intro operation threadId id chooses parsed plain positive after accepted
    obtain ⟨found, reached, ran, _, current⟩ := handle_H_accepted identified process live chooses
      parsed plain (Int64.not_lt.mpr (Int64.le_of_lt positive)) accepted
    obtain rfl := chooseThread_of_ne_zero (Int64.ne_of_lt positive).symm ran
    exact addresses_of_current env current
  · rcases handle_qC_cases env identified with refused | ⟨tid, named, current⟩
    · exact Or.inl refused
    · refine Or.inr ⟨tid, named, ?_⟩
      rw [← current]
      exact ⟨fun addressed => addressed.current, fun set => addresses_of_current env set⟩

theorem firstThread_accepts :
    Answers (ascii "OK") firstThread (handleCommand obliging (ascii "Hg9") firstThread).2 :=
  (by decide +kernel : _ = _)

/-- `Hg9` after the first thread has started. -/
theorem firstThread_addressed :
    hasInferior firstThread = true ∧ firstThread.process.isLive = true ∧
      Addresses obliging 9 (handleCommand obliging (ascii "Hg9") firstThread).2 := by
  have inferior : hasInferior firstThread = true := by decide +kernel
  have live : firstThread.process.isLive = true := by decide +kernel
  exact ⟨inferior, live, (told_thread_addressed obliging program untilFirstThread inferior live).1
    (chr 'g') (ascii "9") ⟨false, 0, 9⟩ (Or.inr rfl) (by decide +kernel) rfl (by decide)
    firstThread_accepts⟩

/-- The client is told that thread 9 is the current one. There is no current
thread, and `G` fails for it. -/
theorem pickedThread_not_current :
    let after := (handleCommand obliging (ascii "qC") firstThread).2
    hasInferior firstThread = true ∧ firstThread.process.isLive = true ∧
      after.posted = firstThread.posted ++ [.write false (ascii "QC9")] ∧
      after.currentThreadId = none ∧
      (handleCommand obliging (ascii "G00") after).2.posted =
        after.posted ++ [.write false (ascii "E02")] := by
  decide +kernel

end Debugserver

end Gdbserver
