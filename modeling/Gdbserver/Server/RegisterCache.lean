import Gdbserver.Server.Attachment
import Gdbserver.Server.InputActions
import Gdbserver.Server.RunAnswer

/-!
# The register cache

`g` is answered from the registers kept with the thread. They are those of the
kernel once they have been read, for as long as no read and no write fails and
the thread stays stopped.
-/

set_option autoImplicit false

namespace Gdbserver

open Logic Prog Frame

/-- The registers of a thread as the client is to see them. -/
def Registers.encoded (arch : Arch) (gregs : RegisterSet) : Bytes :=
  match arch with
  | .amd64 => Util.encodeByteArrayString (regsetBytes gregs 0 18)
  | .arm64 => Util.encodeByteArrayString (regsetBytes gregs 0 33 ++ (wordBytes (gregs 33)).take 4)
  | .other => []

/-- The cache holds what the kernel does. -/
def Server.Current (tid : Koid) (server : Server) : Prop :=
  (server.thread tid).gregs = server.kernel.registers tid

theorem Server.currentThreadId_mem {server : Server} {tid : Koid}
    (current : server.currentThreadId = some tid) : tid ∈ server.process.threads.keys := by
  rw [Server.currentThreadId] at current
  split at current
  · exact absurd current nofun
  · exact List.mem_of_find?_eq_some current

/-- No read and no write of the thread's registers has failed. -/
def Granted (env : Env) (tid : Koid) (before after : Server) : Prop :=
  (∀ status ∈ env.answersBetween (.threadReadState tid) before after, ¬ status < (0 : Int)) ∧
    ∀ status ∈ env.answersBetween (.threadWriteState tid) before after, ¬ status < (0 : Int)

instance (env : Env) (tid : Koid) (before after : Server) : Decidable (Granted env tid before after) :=
  inferInstanceAs (Decidable (_ ∧ _))

section Coherence

variable {env : Env} {allowed : Permits} {tid : Koid}

/-- The registers of a thread have been read or written so many more times. -/
structure Later (tid : Koid) (before after : Server) : Prop where
  reads : before.calls (.threadReadState tid) ≤ after.calls (.threadReadState tid)
  writes : before.calls (.threadWriteState tid) ≤ after.calls (.threadWriteState tid)

theorem Granted.split {before middle after : Server} (first : Later tid before middle)
    (second : Later tid middle after) (granted : Granted env tid before after) :
    Granted env tid before middle ∧ Granted env tid middle after := by
  obtain ⟨reads, writes⟩ := granted
  rw [env.answersBetween_append first.reads second.reads, List.forall_mem_append] at reads
  rw [env.answersBetween_append first.writes second.writes, List.forall_mem_append] at writes
  exact ⟨⟨reads.1, writes.1⟩, reads.2, writes.2⟩

theorem Later.of_asked {before after : Server} (call : Call)
    (calls : after.calls = (before.asked call).calls) : Later tid before after :=
  ⟨calls ▸ before.calls_le_asked call _, calls ▸ before.calls_le_asked call _⟩

theorem Touch.later {before after : Server} (touch : Touch env allowed tid before after) :
    Later tid before after := by
  cases touch with
  | zeroed | marked | halted => exact ⟨le_rfl, le_rfl⟩
  | unread | refreshed => exact .of_asked (.threadReadState tid) rfl
  | unstored | stored => exact .of_asked (.threadWriteState tid) rfl
  | unresumed | resumed | left => exact .of_asked (.taskResume tid) rfl

theorem Act.later {before after : Server} (act : Act env allowed before after) :
    Later tid before after := by
  rcases act.spares tid with spared | touch
  · exact ⟨(spared.calls _ rfl).ge, (spared.calls _ rfl).ge⟩
  · exact touch.later

def later (tid : Koid) : Frame Server where
  rel := Later tid
  refl _ := ⟨le_rfl, le_rfl⟩
  trans first second := ⟨first.reads.trans second.reads, first.writes.trans second.writes⟩

theorem later_of_acting {before after : Server} (acted : (acting env allowed).rel before after) :
    (later tid).rel before after := steps_within Act.later acted

/-- What becomes of the cache of a thread that nothing stops meanwhile. -/
structure Coherent (env : Env) (tid : Koid) (before after : Server) : Prop extends
    Later tid before after where
  stopped : after.Stopped tid → before.Stopped tid
  current : after.Stopped tid → Granted env tid before after →
    (before.Current tid ∨
      before.calls (.threadReadState tid) < after.calls (.threadReadState tid)) →
    after.Current tid

theorem Coherent.trans {before middle after : Server} (first : Coherent env tid before middle)
    (second : Coherent env tid middle after) : Coherent env tid before after := by
  refine ⟨(later tid).trans first.toLater second.toLater,
    fun stopped => first.stopped (second.stopped stopped), fun stopped granted loaded => ?_⟩
  obtain ⟨earlier, later⟩ := granted.split first.toLater second.toLater
  refine second.current stopped later ?_
  by_cases again : middle.calls (.threadReadState tid) < after.calls (.threadReadState tid)
  · exact Or.inr again
  · refine Or.inl (first.current (second.stopped stopped) earlier ?_)
    exact loaded.imp_right fun more => lt_of_lt_of_le more (not_lt.mp again)

/-- Nothing is done with the registers: the object is kept, or is no stopped one. -/
theorem Coherent.of_same {before after : Server}
    (thread : after.Stopped tid → before.Stopped tid ∧
      (after.thread tid).gregs = (before.thread tid).gregs)
    (registers : after.kernel.registers tid = before.kernel.registers tid)
    (reads : after.calls (.threadReadState tid) = before.calls (.threadReadState tid))
    (writes : after.calls (.threadWriteState tid) = before.calls (.threadWriteState tid)) :
    Coherent env tid before after := by
  refine ⟨⟨reads.ge, writes.ge⟩, fun stopped => (thread stopped).1, fun stopped _ loaded => ?_⟩
  rw [Server.Current, (thread stopped).2, registers]
  exact loaded.resolve_right fun more => absurd more (by omega)

def coherent (env : Env) (tid : Koid) : Frame Server where
  rel := Coherent env tid
  refl _ := .of_same (fun stopped => ⟨stopped, rfl⟩) rfl rfl rfl
  trans := .trans

theorem Coherent.of_away {before after : Server} (later : Later tid before after)
    (away : ¬ after.Stopped tid) : Coherent env tid before after :=
  ⟨later, fun stopped => absurd stopped away, fun stopped => absurd stopped away⟩

theorem Server.stopped_setThread {server : Server} {thread : Thread} :
    (server.setThread tid thread).Stopped tid ↔
      tid ∈ server.process.threads.keys ∧ thread.state = .stopped := by
  rw [Server.Stopped, Server.thread_setThread]
  rfl

theorem Touch.coherent {before after : Server} (touch : Touch env allowed tid before after)
    (held : ¬ allowed.halts tid) : Coherent env tid before after := by
  have later := touch.later
  have read : (before.asked (.threadReadState tid)).calls (.threadReadState tid) =
      before.calls (.threadReadState tid) + 1 := before.asked_calls_self _
  have written : (before.asked (.threadWriteState tid)).calls (.threadWriteState tid) =
      before.calls (.threadWriteState tid) + 1 := before.asked_calls_self _
  cases touch with
  | zeroed new =>
      refine .of_away later fun stopped => ?_
      exact absurd (new.symm.trans (Server.stopped_setThread.mp stopped).2) nofun
  | unread refused =>
      refine ⟨later, id, fun _ granted _ => ?_⟩
      exact absurd refused (granted.1 _ (env.now_mem_answersBetween read))
  | refreshed granted =>
      refine ⟨later, Server.stopped_setThread.mp, fun _ _ _ => ?_⟩
      rw [Server.Current, Server.thread_setThread]
      rfl
  | unstored gregs refused =>
      refine ⟨later, Server.stopped_setThread.mp, fun _ granted _ => ?_⟩
      exact absurd refused (granted.2 _ (env.now_mem_answersBetween written))
  | stored gregs granted =>
      refine ⟨later, Server.stopped_setThread.mp, fun _ _ _ => ?_⟩
      have cached := before.thread_setThread tid { before.thread tid with gregs := gregs }
      exact (congrArg Thread.gregs cached).trans (before.storeRegisters_registers tid gregs).symm
  | marked breakpoint =>
      refine .of_same (fun stopped => ?_) rfl rfl rfl
      have there := Server.stopped_setThread.mp stopped
      refine ⟨⟨there.1, there.2⟩, ?_⟩
      rw [Server.thread_setThread]
  | unresumed =>
      exact .of_same (fun stopped => ⟨stopped, rfl⟩) rfl (before.asked_calls nofun)
        (before.asked_calls nofun)
  | resumed may state granted ready =>
      refine .of_away later fun stopped => ?_
      have there := (Server.stopped_setThread.mp stopped).2
      rcases ready with ⟨rfl, _⟩ | ⟨rfl, _⟩ <;> exact absurd there nofun
  | halted may => exact absurd may held
  | left =>
      exact .of_away later fun stopped =>
        absurd (Server.stopped_setThread.mp stopped).2 nofun

theorem Act.coherent {before after : Server} (act : Act env allowed before after)
    (held : ¬ allowed.halts tid) : Coherent env tid before after := by
  rcases act.spares tid with spared | touch
  · refine .of_same (fun stopped => ?_) spared.registers (spared.calls _ rfl) (spared.calls _ rfl)
    rcases spared.thread stopped.1 with ⟨member, same⟩ | fresh
    · exact ⟨⟨member, same ▸ stopped.2⟩, congrArg Thread.gregs same⟩
    · exact absurd (fresh.state.symm.trans stopped.2) nofun
  · exact touch.coherent held

theorem coherent_of_acting {before after : Server} (held : ¬ allowed.halts tid)
    (acted : (acting env allowed).rel before after) : (coherent env tid).rel before after :=
  steps_within (fun act => act.coherent held) acted

end Coherence

namespace RspServer

variable {env : Env} {tid : Koid}

theorem handle_coherent {input : Input} (server : RspServer)
    (held : ¬ input.permits.halts tid)
    (kept : ∀ kernel, input = .inferior kernel →
      kernel.registers tid = server.core.kernel.registers tid) :
    (coherent env tid).rel server.core (handle env input server).2.core := by
  refine handle_within env server (fun act => act.coherent held) fun kernel same => ?_
  exact .of_same (fun stopped => ⟨stopped, rfl⟩) (kept kernel same) rfl rfl

theorem refreshedRegisters_reads (amd64 : env.arch = .amd64) {server : Server}
    (state : (server.thread tid).state = .stopped) :
    ∃ gregs after, refreshedRegisters env tid server = (some gregs, after) ∧
      after.calls (.threadReadState tid) = server.calls (.threadReadState tid) + 1 := by
  have asked := server.asked_calls_self (.threadReadState tid)
  have used : (server.thread tid).state ≠ .new := by
    rw [state]
    decide
  have known : env.arch ≠ .other := by
    rw [amd64]
    decide
  have refreshed := Registers.refreshGeneralRegisters_used known used
  rw [refreshedRegisters]
  by_cases refused : env.now (.threadReadState tid) server < (0 : Int)
  · rw [if_pos refused] at refreshed
    exact ⟨none, _, bind_of_some refreshed, asked⟩
  · rw [if_neg refused] at refreshed
    exact ⟨_, _, bind_of_some refreshed, asked⟩

/-- Whatever the vector is, the registers are read for the notification. -/
theorem onArchitecturalException_reads (amd64 : env.arch = .amd64) {context : ExceptionContext}
    {server : RspServer} (state : (server.core.thread tid).state = .stopped)
    (recorded : (server.core.thread tid).exceptionContext = some context) :
    server.core.calls (.threadReadState tid) <
      (onArchitecturalException env tid context server).2.core.calls (.threadReadState tid) := by
  have signal : Thread.getGdbSignal env.arch (server.core.thread tid) ≠ .unsupported := by
    rw [Thread.getGdbSignal, recorded, amd64]
    exact Arch.computeGdbSignalAmd64_supported _
  obtain ⟨gregs, core, ran, reads⟩ := refreshedRegisters_reads amd64 state
  rw [onArchitecturalException, read_bind, if_neg signal, read_bind,
    bind_of_some (onServer_of_ran ran)]
  have queued (event : Bytes) (found : RspServer) : (later tid).rel found.core
      (queueStopNotification env event kDefaultTimeoutSeconds found).2.core := by
    have acted : (acts env .postsOnly).rel found _ :=
      queueStopNotification_acts (fun _ => trivial) event kDefaultTimeoutSeconds found
    exact later_of_acting acted
  exact Nat.lt_of_lt_of_le (Nat.lt_of_lt_of_eq (Nat.lt_succ_self _) reads.symm)
    (queued _ { server with core := core }).reads

/-- The server comes to the notification with the thread stopped. -/
theorem onArchException_halts (type : ExceptionType) (context : ExceptionContext)
    (server : RspServer) :
    ∃ halted : RspServer, (later tid).rel server.core halted.core ∧ Hidden server halted ∧
      (halted.core.thread tid).state = .stopped ∧
      (halted.core.thread tid).exceptionContext = some context ∧
      onArchException env tid type context server =
        onArchitecturalException env tid context halted := by
  let halting : Permits := { Permits.nothing with halts := fun _ => True }
  obtain ⟨_, watched, ranWatch, quietWatch⟩ := watchDynamicLinker_quiet env tid type server.core
  obtain ⟨halted, ranHalt, state, recorded, _⟩ :=
    Thread.onException_spec env tid type context watched
  have quietHalt := (Thread.onException_quiet env tid type context).keeps watched
  have watching : (acting env halting).rel server.core _ :=
    watchDynamicLinker_acts tid type server.core
  have halts : (acting env halting).rel watched _ :=
    Thread.onException_acts tid trivial type context watched
  rw [ranWatch] at watching
  rw [ranHalt] at halts quietHalt
  refine ⟨{ server with core := halted },
    (later tid).trans (later_of_acting watching) (later_of_acting halts),
    ⟨rfl, quiet.trans quietWatch quietHalt⟩, state, recorded, ?_⟩
  rw [onArchException, bind_of_some (onServer_of_ran ranWatch),
    bind_of_some (onServer_of_ran ranHalt)]

theorem handle_archException (key : UInt64) {type : ExceptionType} {context : ExceptionContext}
    {server : RspServer} (bound : key ∈ server.core.exceptionPort.callbacks)
    (arch : type.isArch = true) (found : finds env context.tid server.core = true) :
    ∃ halted : RspServer, (later context.tid).rel server.core halted.core ∧
      Hidden server halted ∧ (halted.core.thread context.tid).state = .stopped ∧
      (halted.core.thread context.tid).exceptionContext = some context ∧
      handle env (.exception key type context) server =
        onArchitecturalException env context.tid context halted := by
  obtain ⟨thread, core, lookup, quietLookup⟩ := exceptionThread_quiet env context.tid server.core
  have acted : (acting env .nothing).rel server.core _ :=
    exceptionThread_acts context.tid server.core
  rw [finds, lookup] at found
  rw [lookup] at acted
  cases thread with
  | none => exact absurd found Bool.false_ne_true
  | some tid =>
      obtain ⟨rfl, _⟩ := exceptionThread_found lookup
      obtain ⟨halted, reached, kept, state, recorded, ran⟩ :=
        onArchException_halts type context { server with core := core }
      have first : Hidden server { server with core := core } := ⟨rfl, quietLookup⟩
      refine ⟨halted, (later _).trans (later_of_acting acted) reached, hidden.trans first kept,
        state, recorded, ?_⟩
      rw [handle_exception, if_pos bound, onException, bind_of_some (onServer_of_ran lookup),
        if_pos arch]
      exact ran

/-- The input has the registers of the thread read: an architectural exception of
the thread, or a command that reads them. Nothing it asks for fails. -/
def Loads (env : Env) (tid : Koid) (server : RspServer) (input : Input) : Prop :=
  Granted env tid server.core (handle env input server).2.core ∧
    match input with
    | .exception key type context => type.isArch = true ∧ context.tid = tid ∧
        key ∈ server.core.exceptionPort.callbacks ∧ finds env tid server.core = true
    | .bytesRead _ => server.core.calls (.threadReadState tid) <
        (handle env input server).2.core.calls (.threadReadState tid)
    | .timeout _ | .queueStopNotification _ _ | .inferior _ => False

instance (env : Env) (tid : Koid) (server : RspServer) (input : Input) :
    Decidable (Loads env tid server input) := by
  cases input with
  | bytesRead | exception | timeout | queueStopNotification | inferior =>
      exact inferInstanceAs (Decidable (_ ∧ _))

/-- The input leaves the thread stopped if it is, and its registers to the server. A packet
without a callback is dropped. -/
def Undisturbed (env : Env) (tid : Koid) (server : RspServer) (input : Input) : Prop :=
  Granted env tid server.core (handle env input server).2.core ∧
    match input with
    | .exception key _ context =>
        key ∈ server.core.exceptionPort.callbacks → context.tid ≠ tid
    | .inferior kernel => kernel.registers tid = server.core.kernel.registers tid
    | .bytesRead _ | .timeout _ | .queueStopNotification _ _ => True

/-- If the thread is stopped, its cache is that of the kernel. -/
def Fresh (tid : Koid) (server : RspServer) : Prop :=
  server.core.Stopped tid → server.core.Current tid

theorem Loads.fresh (amd64 : env.arch = .amd64) {server : RspServer} {input : Input}
    (loads : Loads env tid server input) : Fresh tid (handle env input server).2 := by
  intro stopped
  obtain ⟨granted, loaded⟩ := loads
  cases input with
  | bytesRead bytes =>
      have held : ¬ (Input.bytesRead bytes).permits.halts tid := id
      have kept : (coherent env tid).rel server.core _ := handle_coherent server held nofun
      exact kept.current stopped granted (Or.inr loaded)
  | exception key type context =>
      obtain ⟨arch, rfl, bound, found⟩ := loaded
      obtain ⟨halted, earlier, _, state, recorded, ran⟩ := handle_archException key bound arch found
      rw [ran] at granted stopped ⊢
      have acted : (acts env .postsOnly).rel halted _ :=
        onArchitecturalException_acts (fun _ => trivial) context.tid context halted
      have kept : (coherent env context.tid).rel halted.core _ := coherent_of_acting id acted
      refine kept.current stopped (granted.split earlier kept.toLater).2 (Or.inr ?_)
      exact onArchitecturalException_reads amd64 state recorded
  | timeout | queueStopNotification | inferior => exact absurd loaded id

theorem Undisturbed.fresh {server : RspServer} {input : Input}
    (undisturbed : Undisturbed env tid server input) (fresh : Fresh tid server) :
    Fresh tid (handle env input server).2 := by
  obtain ⟨granted, rest⟩ := undisturbed
  have kept : Coherent env tid server.core (handle env input server).2.core := by
    cases input with
    | exception key type context =>
        by_cases bound : key ∈ server.core.exceptionPort.callbacks
        · exact handle_coherent server (fun halts => rest bound halts.1.symm) nofun
        · rw [handle_exception, if_neg bound]
          exact (coherent env tid).refl _
    | inferior kernel =>
        exact handle_coherent server id fun other same => by
          cases same
          exact rest
    | bytesRead | timeout | queueStopNotification => exact handle_coherent server id nofun
  exact fun stopped => kept.current stopped granted (Or.inl (fresh (kept.stopped stopped)))

/-- The cache is sent to the client as it is. -/
theorem handle_g_reply (amd64 : env.arch = .amd64) {server : Server}
    (attached : CommandHandler.hasInferior server = true)
    (current : server.currentThreadId = some tid) :
    ∃ after, CommandHandler.handle_g env server = (some true, after) ∧
      after.posted = server.posted ++
        [.write false (Registers.encoded .amd64 (server.thread tid).gregs)] := by
  let result := Registers.encoded .amd64 (server.thread tid).gregs
  have fetched : CommandHandler.generalRegisters env (some tid) server =
      (some result, server.asked .uninitialized) := by
    rw [CommandHandler.generalRegisters, ask_bind, amd64]
    rfl
  have filled : result ≠ [] := by
    intro empty
    have length : result.length = 2 * (8 * 18) := by
      simp only [result, Registers.encoded, Util.encodeByteArrayString_length,
        Registers.regsetBytes_length]
    rw [empty] at length
    exact absurd length (by decide)
  refine ⟨{ server.asked .uninitialized with posted := server.posted ++ [.write false result] },
    ?_, rfl⟩
  rw [CommandHandler.handle_g, read_bind, attached, if_not_true, read_bind, current,
    bind_of_some fetched, if_neg filled]
  rfl

theorem handle_g_posted (amd64 : env.arch = .amd64) {server : RspServer}
    (attached : CommandHandler.hasInferior server.core = true)
    (current : server.core.currentThreadId = some tid) :
    (handle env (.bytesRead (ascii "$g#67")) server).2.core.posted = server.core.posted ++
      [.ack true, .write false (Registers.encoded .amd64 (server.core.thread tid).gregs)] := by
  let acked : Server := { server.core with posted := server.core.posted ++ [.ack true] }
  have verified : Util.verifyPacket (ascii "$g#67") = some (ascii "g") := by decide
  have attachedThere : CommandHandler.hasInferior acked = true := attached
  have currentThere : acked.currentThreadId = some tid := current
  obtain ⟨after, ran, posted⟩ := handle_g_reply amd64 attachedThere currentThere
  have routed : routeCommand env (ascii "g") acked = (some (), after) := by
    rw [routeCommand]
    exact bind_of_some ran
  have taken : handle env (.bytesRead (ascii "$g#67")) server =
      onServer (routeCommand env (ascii "g")) { server with core := acked } := by
    rw [handle, onBytesRead, if_neg (by decide), verified]
    rfl
  rw [taken, onServer_of_ran routed]
  exact posted.trans (List.append_assoc ..)

/-- On amd64, once the registers of the thread have been read and as long as the
thread is left stopped and nothing fails, `g` is answered with them. -/
theorem g_reports_kernel (env : Env) (amd64 : env.arch = .amd64) (config : Config)
    (earlier later : List Input) (input : Input) (tid : Koid) :
    let before := (run (handle env) earlier (Debugserver.started env config)).2
    let loaded := (handle env input before).2
    let server := (run (handle env) later loaded).2
    Loads env tid before input → Along (handle env) (Undisturbed env tid) loaded later →
    CommandHandler.hasInferior server.core = true → server.core.currentThreadId = some tid →
    (server.core.thread tid).state = .stopped →
      (handle env (.bytesRead (ascii "$g#67")) server).2.core.posted = server.core.posted ++
        [.ack true, .write false (Registers.encoded env.arch (server.core.kernel.registers tid))] := by
  intro before loaded server loads undisturbed attached current stopped
  have fresh : Fresh tid server :=
    run_invariant_along (fun _ _ fresh undisturbed => undisturbed.fresh fresh) later loaded
      (loads.fresh amd64) undisturbed
  have cached : (server.core.thread tid).gregs = server.core.kernel.registers tid :=
    fresh ⟨Server.currentThreadId_mem current, stopped⟩
  rw [handle_g_posted amd64 attached current, cached, amd64]

end RspServer

namespace Debugserver

/-- The threads of the program start with their registers set. -/
def loadedProgram : Config := { program with kernel := ⟨fun _ _ => 0x1122334455667788, fun _ => 0⟩ }

def untilBreakpoint : List Input := untilFirstThread ++ [.bytesRead (ascii "$vCont;c#a8")]

def breakpoint : Input := .exception 1 .swBreakpoint ⟨9, 3, 0⟩

def chooseNine : Input := .bytesRead (ascii "$Hg9#e8")

theorem breakpoint_loads : RspServer.Loads obliging 9
    (run (RspServer.handle obliging) untilBreakpoint (started obliging loadedProgram)).2
    breakpoint := by decide +kernel

theorem chooseNine_undisturbed : RspServer.Undisturbed obliging 9
    (RspServer.handle obliging breakpoint
      (run (RspServer.handle obliging) untilBreakpoint (started obliging loadedProgram)).2).2
    chooseNine := ⟨by decide +kernel, trivial⟩

theorem breakpoint_reported :
    let before := (run (RspServer.handle obliging) untilBreakpoint (started obliging loadedProgram)).2
    let loaded := (RspServer.handle obliging breakpoint before).2
    let server := (run (RspServer.handle obliging) [chooseNine] loaded).2
    (RspServer.handle obliging (.bytesRead (ascii "$g#67")) server).2.core.posted =
      server.core.posted ++ [.ack true,
        .write false (Registers.encoded obliging.arch (server.core.kernel.registers 9))] :=
  RspServer.g_reports_kernel obliging rfl loadedProgram untilBreakpoint [chooseNine] breakpoint 9
    breakpoint_loads (along_singleton.mpr chooseNine_undisturbed) (by decide +kernel)
    (by decide +kernel) (by decide +kernel)

/-- The kernel refuses to write registers. -/
def readOnly : Env :=
  { obliging with
    answer := fun call count =>
      match call with
      | .threadWriteState _ => (-1 : Int)
      | call => obligingAnswer call count }

/-- A `G` packet that sets every register to 0. -/
def clearRegisters : Input :=
  .bytesRead (ascii "$G" ++ List.replicate 288 (chr '0') ++ ascii "#47")

def askRegisters : Input := .bytesRead (ascii "$g#67")

def lastPost (env : Env) (inputs : List Input) : Option Post :=
  (run (RspServer.handle env) inputs (started env loadedProgram)).2.core.posted.getLast?

/-- What a run leaves: the current thread, the state of thread 9, and what the
kernel holds for it as it is to be encoded. -/
def inspected (env : Env) (inputs : List Input) : Option Koid × ThreadState × Bytes :=
  let server := (run (RspServer.handle env) inputs (started env loadedProgram)).2.core
  (server.currentThreadId, (server.thread 9).state,
    Registers.encoded env.arch (server.kernel.registers 9))

def zeros : Bytes := List.replicate 288 (chr '0')

def kernelRegisters : Bytes := (List.replicate 18 (ascii "8877665544332211")).flatten

/-- The registers of the first thread are never read, and those a failed `G` has
put into the cache stay there. -/
theorem staleRegisters_reported :
    (inspected obliging (untilFirstThread ++ [chooseNine]) = (some 9, .stopped, kernelRegisters) ∧
      lastPost obliging (untilFirstThread ++ [chooseNine, askRegisters]) =
        some (.write false zeros)) ∧
    inspected readOnly (untilBreakpoint ++ [breakpoint, chooseNine, clearRegisters]) =
        (some 9, .stopped, kernelRegisters) ∧
      lastPost readOnly (untilBreakpoint ++ [breakpoint, chooseNine, clearRegisters]) =
        some (.write false (Util.buildErrorPacket readOnly.ftl .perm)) ∧
      lastPost readOnly (untilBreakpoint ++ [breakpoint, chooseNine, clearRegisters, askRegisters]) =
        some (.write false zeros) :=
  ⟨⟨by decide +kernel, by decide +kernel⟩, by decide +kernel, by decide +kernel, by decide +kernel⟩

end Debugserver

end Gdbserver
