import Gdbserver.Server.Attachment
import Gdbserver.Server.InputActions

/-!
# The threads as the kernel sees them

A thread blocks when it raises an exception, and the server learns of it when
it comes to the task the exception port has posted. In between the thread can
turn up in the thread map, as an object that nothing has been done with.
-/

set_option autoImplicit false

namespace Gdbserver

open Logic Prog Frame

namespace Server

/-- Something has been done with the thread since it was put into the map. -/
def Used (tid : Koid) (server : Server) : Prop :=
  tid ∈ server.process.threads.keys ∧ (server.thread tid).state ≠ .new

theorem Stopped.used {tid : Koid} {server : Server} (stopped : server.Stopped tid) :
    server.Used tid :=
  ⟨stopped.1, fun new => absurd (stopped.2.symm.trans new) nofun⟩

theorem asked_read (server : Server) (tid : Koid) :
    (server.asked (.threadReadState tid)).calls (.taskResume tid) =
      server.calls (.taskResume tid) := server.asked_calls nofun

theorem asked_write (server : Server) (tid : Koid) :
    (server.asked (.threadWriteState tid)).calls (.taskResume tid) =
      server.calls (.taskResume tid) := server.asked_calls nofun

end Server

section Tracking

variable {env : Env} {allowed : Permits} {tid : Koid}

/-- Only an exception stops a thread, and only a resumed one leaves `kNew`
without an exception. -/
structure Tracked (env : Env) (tid : Koid) (before after : Server) : Prop where
  calls : before.calls (.taskResume tid) ≤ after.calls (.taskResume tid)
  stopped : after.Stopped tid → before.Stopped tid ∧
    ∀ status ∈ env.answersBetween (.taskResume tid) before after, status < (0 : Int)
  used : after.Used tid → before.Used tid ∨
    ∃ status ∈ env.answersBetween (.taskResume tid) before after, ¬ status < (0 : Int)

theorem Tracked.of_same {before after : Server}
    (members : tid ∈ after.process.threads.keys →
      (tid ∈ before.process.threads.keys ∧ (after.thread tid).state = (before.thread tid).state) ∨
        (after.thread tid).state = .new)
    (calls : after.calls (.taskResume tid) = before.calls (.taskResume tid)) :
    Tracked env tid before after := by
  refine ⟨calls.ge, fun stopped => ?_, fun used => ?_⟩
  · obtain ⟨member, state⟩ := stopped
    rcases members member with ⟨there, same⟩ | new
    · rw [env.answersBetween_same calls]
      exact ⟨⟨there, same.symm.trans state⟩, List.forall_mem_nil _⟩
    · exact absurd (new.symm.trans state) nofun
  · obtain ⟨member, state⟩ := used
    rcases members member with ⟨there, same⟩ | new
    · exact Or.inl ⟨there, same ▸ state⟩
    · exact absurd new state

theorem Tracked.trans {before middle after : Server} (first : Tracked env tid before middle)
    (second : Tracked env tid middle after) : Tracked env tid before after := by
  have answers := env.answersBetween_append first.calls second.calls
  refine ⟨first.calls.trans second.calls, fun stopped => ?_, fun used => ?_⟩
  · obtain ⟨there, later⟩ := second.stopped stopped
    obtain ⟨start, earlier⟩ := first.stopped there
    rw [answers]
    exact ⟨start, List.forall_mem_append.mpr ⟨earlier, later⟩⟩
  · rw [answers]
    rcases second.used used with there | ⟨status, member, granted⟩
    · rcases first.used there with start | ⟨status, member, granted⟩
      · exact Or.inl start
      · exact Or.inr ⟨status, List.mem_append_left _ member, granted⟩
    · exact Or.inr ⟨status, List.mem_append_right _ member, granted⟩

def tracked (env : Env) (tid : Koid) : Frame Server where
  rel := Tracked env tid
  refl _ := .of_same (fun member => Or.inl ⟨member, rfl⟩) rfl
  trans := .trans

theorem Touch.tracked {before after : Server} (touch : Touch env allowed tid before after)
    (held : ¬ allowed.halts tid) (stays : ¬ allowed.exits tid) : Tracked env tid before after := by
  have asked := before.asked_calls_self (.taskResume tid)
  have same (server : Server) (thread : Thread) (state : thread.state = (server.thread tid).state) :
      ((server.setThread tid thread).thread tid).state = (server.thread tid).state := by
    rw [Server.thread_setThread, state]
  cases touch with
  | zeroed | marked => exact .of_same (fun member => Or.inl ⟨member, same _ _ rfl⟩) rfl
  | unread => exact .of_same (fun member => Or.inl ⟨member, rfl⟩) (before.asked_read tid)
  | refreshed => exact .of_same (fun member => Or.inl ⟨member, same _ _ rfl⟩) (before.asked_read tid)
  | unstored | stored =>
      exact .of_same (fun member => Or.inl ⟨member, same _ _ rfl⟩) (before.asked_write tid)
  | unresumed may refused =>
      refine ⟨asked ▸ Nat.le_succ _, fun stopped => ⟨stopped, ?_⟩, Or.inl⟩
      rw [env.answersBetween_asked asked]
      exact List.forall_mem_singleton.mpr refused
  | resumed may state granted ready =>
      refine ⟨asked ▸ Nat.le_succ _, fun stopped => ?_,
        fun _ => Or.inr ⟨_, env.now_mem_answersBetween asked, granted⟩⟩
      have there := stopped.2
      rw [Server.thread_setThread] at there
      rcases ready with ⟨rfl, _⟩ | ⟨rfl, _⟩ <;> exact absurd there nofun
  | halted may => exact absurd may held
  | left may => exact absurd may stays

theorem Act.tracked {before after : Server} (act : Act env allowed before after)
    (held : ¬ allowed.halts tid) (stays : ¬ allowed.exits tid) : Tracked env tid before after := by
  rcases act.spares tid with spared | touch
  · refine .of_same (fun member => ?_) (spared.calls _ rfl)
    exact (spared.thread member).imp
      (fun kept => ⟨kept.1, congrArg Thread.state kept.2⟩) fun fresh => fresh.state
  · exact touch.tracked held stays

theorem tracked_of_acting {before after : Server} (held : ¬ allowed.halts tid)
    (stays : ¬ allowed.exits tid) (acted : (acting env allowed).rel before after) :
    (tracked env tid).rel before after :=
  steps_within (fun act => act.tracked held stays) acted

/-- Without a permission to, nobody asks the kernel to resume a thread. -/
def unasked (tid : Koid) : Frame Server where
  rel before after := after.calls (.taskResume tid) = before.calls (.taskResume tid)
  refl _ := rfl
  trans first second := second.trans first

theorem Act.unasked {before after : Server} (act : Act env allowed before after)
    (held : ¬ allowed.resumes tid) (stays : ¬ allowed.exits tid) :
    (unasked tid).rel before after := by
  rcases act.spares tid with spared | touch
  · exact spared.calls _ rfl
  · cases touch with
    | zeroed | marked | halted => rfl
    | unread | refreshed => exact before.asked_read tid
    | unstored | stored => exact before.asked_write tid
    | unresumed may | resumed may => exact absurd may held
    | left may => exact absurd may stays

theorem unasked_of_acting {before after : Server} (held : ¬ allowed.resumes tid)
    (stays : ¬ allowed.exits tid) (acted : (acting env allowed).rel before after) :
    (unasked tid).rel before after :=
  steps_within (fun act => act.unasked held stays) acted

theorem Server.Used.before {before after : Server} (used : after.Used tid)
    (acted : (acting env .nothing).rel before after) : before.Used tid := by
  rcases (tracked_of_acting id id acted).used used with there | ⟨status, member, _⟩
  · exact there
  · rw [env.answersBetween_same (unasked_of_acting id id acted)] at member
    exact absurd member List.not_mem_nil

end Tracking

theorem Debugserver.startUp_acts {allowed : Permits} (env : Env) (config : Config) :
    (acting env allowed).Keeps (startUp env config) := by
  have inferior : (acting env allowed).Keeps (setUpInferior config) :=
    Keeps.ite (fun _ => Process.initializePid_acts _) fun _ =>
      Keeps.bind (modifyProcess_acts (fun _ => rfl) fun _ => rfl) fun _ => Keeps.pure
  have connected : (acting env allowed).Keeps (connect env) :=
    Keeps.bind (ask_acts rfl) fun _ => Keeps.ite (fun _ => Keeps.pure) fun _ =>
      Keeps.bind Keeps.read fun _ => Keeps.ite
        (fun _ => Keeps.bind Process.attach_acts fun _ =>
          Keeps.ite (fun _ => Keeps.pure) fun _ => ask_acts rfl)
        fun _ => ask_acts rfl
  exact Keeps.bind inferior fun _ => Keeps.ite (fun _ => Keeps.pure) fun _ =>
    Keeps.bind (Aside.keeps fun _ => .of_same rfl rfl rfl rfl rfl rfl le_rfl) fun _ =>
      connected

/-- An invariant that every action keeps, and that does not look at the kernel,
holds in every state between two inputs. -/
theorem Debugserver.run_keeps {invariant : Server → Prop} {env : Env} (config : Config)
    (inputs : List Input)
    (each : ∀ {allowed before after}, Act env allowed before after → invariant before →
      invariant after)
    (outside : ∀ server kernel, invariant server → invariant { server with kernel := kernel })
    (first : invariant (newServer config)) :
    invariant (run (RspServer.handle env) inputs (started env config)).2.core := by
  have preserved : ∀ (server : RspServer) (input : Input),
      (preserving invariant).rel server.core (RspServer.handle env input server).2.core :=
    fun server input => RspServer.handle_within env server each fun kernel _ =>
      outside server.core kernel
  have started : (preserving invariant).rel (newServer config) (started env config).core :=
    steps_within each (startUp_acts env config (newServer config) : (acting env .nothing).rel _ _)
  exact run_invariant preserved inputs _ (started first)

namespace RspServer

theorem handle_tracked (env : Env) {input : Input} {tid : Koid} (server : RspServer)
    (held : ¬ input.permits.halts tid) :
    (tracked env tid).rel server.core (handle env input server).2.core := by
  have stays : ¬ input.permits.exits tid := by
    cases input with
    | exception key type context =>
        rintro ⟨same, rfl⟩
        exact held ⟨same, nofun⟩
    | bytesRead | timeout | queueStopNotification | inferior => exact id
  refine handle_within env server (fun act => act.tracked held stays) fun kernel _ => ?_
  exact .of_same (fun member => Or.inl ⟨member, rfl⟩) rfl

/-- A thread that stops is not resumed by the same task, but for its exit. -/
theorem handle_exception_unasked (env : Env) (key : UInt64) {type : ExceptionType}
    (stays : type ≠ .threadExiting) (context : ExceptionContext) (tid : Koid) (server : RspServer) :
    (unasked tid).rel server.core (handle env (.exception key type context) server).2.core := by
  have leaves : ¬ (Input.exception key type context).permits.exits tid := fun exits => stays exits.2
  exact unasked_of_acting id leaves (handle_acts env (.exception key type context) nofun server)

theorem onThreadExiting_gone (env : Env) (tid : Koid) (server : RspServer) :
    ((onThreadExiting env tid server).2.core.thread tid).state = .gone := by
  obtain ⟨_, queued, ran, _⟩ := queueStopNotification_calm env
    (threadExitingReply env server.core.process.id tid).build kDefaultTimeoutSeconds server
  have last : onThreadExiting env tid server = onServer (Thread.resumeForExit env tid) queued := by
    rw [onThreadExiting, read_bind]
    exact bind_of_some ran
  rw [last]
  exact congrArg Thread.state (Server.thread_setThread _ tid _)

/-- When it exits the thread is resumed, and not taken for a stopped one. -/
theorem handle_exiting (env : Env) (key : UInt64) (context : ExceptionContext)
    (server : RspServer) :
    let after := (handle env (.exception key .threadExiting context) server).2.core
    (unasked context.tid).rel server.core after ∨ (after.thread context.tid).state = .gone := by
  have acted : (acting env .nothing).rel server.core _ :=
    exceptionThread_acts context.tid server.core
  have looked : (unasked context.tid).rel server.core _ := unasked_of_acting id id acted
  rw [handle_exception]
  split
  · obtain ⟨thread, core, lookup, _⟩ := exceptionThread_quiet env context.tid server.core
    rw [lookup] at looked
    rw [onException, bind_of_some (onServer_of_ran lookup)]
    cases thread with
    | none => exact Or.inl looked
    | some tid =>
        obtain ⟨rfl, _⟩ := exceptionThread_found lookup
        obtain ⟨halted, ran, _⟩ :=
          Thread.onException_spec env context.tid .threadExiting context core
        let found : RspServer := { server with core := core }
        have stops : onServer (Thread.onException env context.tid .threadExiting context) found =
            (some (), { found with core := halted }) := onServer_of_ran ran
        right
        change (((onServer (Thread.onException env context.tid .threadExiting context) >>= fun _ =>
          onThreadExiting env context.tid) found).2.core.thread context.tid).state = .gone
        rw [bind_of_some stops]
        exact onThreadExiting_gone env context.tid _
  · exact Or.inl rfl

end RspServer

/-- An exception that has been raised and not yet handled. -/
structure Packet where
  key : UInt64
  type : ExceptionType
  context : ExceptionContext

/-- The thread that waits for the exception to be handled. The end of the process
is reported for none. -/
def Packet.thread? (packet : Packet) : Option Koid :=
  if packet.type = .gone then none else some packet.context.tid

def Packet.input (packet : Packet) : Input := .exception packet.key packet.type packet.context

/-- The server with the exception tasks it has not run, and what the kernel
knows: the threads that are blocked in an exception, and those that have had one. -/
structure Machine where
  server : RspServer
  queue : List Packet
  blocked : List Koid
  begun : List Koid

/-- The kernel raises an exception, or the server runs its next exception task or
any other one. -/
inductive Move where
  | raise (packet : Packet)
  | deliver
  | task (input : Input) (other : ∀ key type context, input ≠ .exception key type context)

namespace Machine

/-- A thread stays blocked until a request to resume it succeeds. -/
def staysBlocked (env : Env) (before after : Server) (tid : Koid) : Bool :=
  (env.answersBetween (.taskResume tid) before after).all fun status => status < (0 : Int)

def work (env : Env) (input : Input) : Prog Machine Unit := fun machine =>
  let (outcome, server) := RspServer.handle env input machine.server
  (outcome, { machine with
    server := server
    blocked := machine.blocked.filter (staysBlocked env machine.server.core server.core) })

def step (env : Env) : Move → Prog Machine Unit
  | .raise packet => modify fun machine =>
      { machine with
        queue := machine.queue ++ [packet]
        blocked := packet.thread?.toList ++ machine.blocked
        begun := packet.thread?.toList ++ machine.begun }
  | .deliver => fun machine =>
      match machine.queue with
      | [] => (some (), machine)
      | packet :: rest => work env packet.input { machine with queue := rest }
  | .task input _ => work env input

/-- Each request to resume the thread succeeds exactly when it is blocked. -/
def AnswersFit : Bool → List Status → Prop
  | _, [] => True
  | blocked, status :: later =>
      (¬ status < 0 ↔ blocked = true) ∧ AnswersFit (blocked && status < 0) later

/-- What is assumed of the kernel. A thread raises an exception while it runs, and
starts once. -/
def KernelRule (env : Env) (machine : Machine) (move : Move) : Prop :=
  match move with
  | .raise packet => ∀ tid, packet.thread? = some tid →
      tid ∉ machine.blocked ∧ (packet.type = .threadStarting → tid ∉ machine.begun)
  | .deliver | .task _ _ => ∀ tid, AnswersFit (tid ∈ machine.blocked)
      (env.answersBetween (.taskResume tid) machine.server.core
        (step env move machine).2.server.core)

/-- No thread is asked to resume while its exception waits. -/
def Waits (env : Env) (machine : Machine) (move : Move) : Prop :=
  ∀ packet ∈ (step env move machine).2.queue, ∀ tid ∈ packet.thread?,
    (step env move machine).2.server.core.calls (.taskResume tid) =
      machine.server.core.calls (.taskResume tid)

/-- The server when its message loop is entered. The threads of a process that it
attaches to later may have started before, and may be blocked. -/
def start (env : Env) (config : Config) (blocked running : List Koid) : Machine :=
  ⟨Debugserver.started env config, [], blocked, blocked ++ running⟩

theorem AnswersFit.blocked {blocked : Bool} {answers : List Status}
    (fit : AnswersFit blocked answers) {status : Status} (member : status ∈ answers)
    (granted : ¬ status < 0) : blocked = true := by
  induction answers generalizing blocked with
  | nil => exact absurd member List.not_mem_nil
  | cons first later ih =>
      rcases List.mem_cons.mp member with rfl | later
      · exact fit.1.mp granted
      · exact (Bool.and_eq_true_iff.mp (ih fit.2 later)).1

structure Sound (machine : Machine) : Prop where
  stopped : ∀ tid, machine.server.core.Stopped tid → tid ∈ machine.blocked
  queued : ∀ packet ∈ machine.queue, ∀ tid, packet.thread? = some tid → tid ∈ machine.blocked
  distinct : (machine.queue.filterMap Packet.thread?).Nodup
  starting : ∀ packet ∈ machine.queue, packet.type = .threadStarting →
    ¬ machine.server.core.Used packet.context.tid
  used : ∀ tid, machine.server.core.Used tid → tid ∈ machine.begun
  blocked : ∀ tid ∈ machine.blocked, tid ∈ machine.begun

theorem Packet.thread?_starting {packet : Packet} (type : packet.type = .threadStarting) :
    packet.thread? = some packet.context.tid := by
  rw [Packet.thread?, if_neg (by rw [type]; nofun)]

theorem raise_sound {env : Env} {machine : Machine} {packet : Packet} (sound : machine.Sound)
    (rule : KernelRule env machine (.raise packet)) :
    (step env (.raise packet) machine).2.Sound := by
  have fresh (tid : Koid) (raised : packet.thread? = some tid) :
      tid ∉ machine.queue.filterMap Packet.thread? := by
    intro member
    obtain ⟨other, there, same⟩ := List.mem_filterMap.mp member
    exact (rule tid raised).1 (sound.queued other there tid same)
  refine ⟨fun tid stopped => List.mem_append_right _ (sound.stopped tid stopped), ?_, ?_, ?_,
    fun tid used => List.mem_append_right _ (sound.used tid used), ?_⟩
  · intro other member tid same
    rcases List.mem_append.mp member with there | last
    · exact List.mem_append_right _ (sound.queued other there tid same)
    · obtain rfl := List.mem_singleton.mp last
      exact List.mem_append_left _ (Option.mem_toList.mpr same)
  · change (List.filterMap Packet.thread? (machine.queue ++ [packet])).Nodup
    rw [List.filterMap_append]
    cases raised : packet.thread? with
    | none => simpa [raised] using sound.distinct
    | some tid =>
        have last : List.filterMap Packet.thread? [packet] = [tid] := by simp [raised]
        rw [last, List.nodup_append]
        refine ⟨sound.distinct, List.nodup_cons.mpr ⟨List.not_mem_nil, List.nodup_nil⟩,
          fun other there final member same => fresh tid raised ?_⟩
        rwa [← List.mem_singleton.mp member, ← same]
  · intro other member type
    rcases List.mem_append.mp member with there | last
    · exact sound.starting other there type
    · obtain rfl := List.mem_singleton.mp last
      exact fun used => (rule _ (Packet.thread?_starting type)).2 type (sound.used _ used)
  · intro tid member
    rcases List.mem_append.mp member with raised | there
    · exact List.mem_append_left _ raised
    · exact List.mem_append_right _ (sound.blocked tid there)

section Work

variable {env : Env} {machine : Machine} {input : Input}

theorem mem_work_blocked {tid : Koid} : tid ∈ (work env input machine).2.blocked ↔
    tid ∈ machine.blocked ∧ ∀ status ∈ env.answersBetween (.taskResume tid) machine.server.core
      (work env input machine).2.server.core, status < (0 : Int) := by
  change tid ∈ List.filter _ _ ↔ _
  rw [List.mem_filter, staysBlocked, List.all_eq_true]
  simp only [decide_eq_true_eq]
  rfl

theorem blocked_of_unasked {tid : Koid} (there : tid ∈ machine.blocked)
    (kept : (unasked tid).rel machine.server.core (work env input machine).2.server.core) :
    tid ∈ (work env input machine).2.blocked := by
  refine mem_work_blocked.mpr ⟨there, ?_⟩
  rw [env.answersBetween_same kept]
  exact List.forall_mem_nil _

/-- The threads that the task may stop are blocked in the exception it is for. -/
theorem work_sound (sound : machine.Sound)
    (fits : ∀ tid, AnswersFit (tid ∈ machine.blocked) (env.answersBetween (.taskResume tid)
      machine.server.core (work env input machine).2.server.core))
    (waits : ∀ packet ∈ machine.queue, ∀ tid, packet.thread? = some tid →
      (unasked tid).rel machine.server.core (work env input machine).2.server.core)
    (raised : ∀ tid, input.permits.halts tid → tid ∈ machine.blocked ∧
      tid ∉ machine.queue.filterMap Packet.thread? ∧
      ((work env input machine).2.server.core.Stopped tid →
        (unasked tid).rel machine.server.core (work env input machine).2.server.core)) :
    (work env input machine).2.Sound := by
  have tracked (tid : Koid) (held : ¬ input.permits.halts tid) :
      Tracked env tid machine.server.core (work env input machine).2.server.core :=
    RspServer.handle_tracked env machine.server held
  refine ⟨fun tid stopped => ?_, fun packet member tid same => ?_, sound.distinct,
    fun packet member type used => ?_, fun tid used => ?_,
    fun tid member => sound.blocked tid (mem_work_blocked.mp member).1⟩
  · by_cases held : input.permits.halts tid
    · obtain ⟨there, _, kept⟩ := raised tid held
      exact blocked_of_unasked there (kept stopped)
    · obtain ⟨before, refused⟩ := (tracked tid held).stopped stopped
      exact mem_work_blocked.mpr ⟨sound.stopped tid before, refused⟩
  · exact blocked_of_unasked (sound.queued packet member tid same) (waits packet member tid same)
  · have thread := Packet.thread?_starting type
    have held : ¬ input.permits.halts packet.context.tid := fun halts =>
      (raised _ halts).2.1 (List.mem_filterMap.mpr ⟨packet, member, thread⟩)
    rcases (tracked _ held).used used with before | ⟨status, among, _⟩
    · exact sound.starting packet member type before
    · rw [env.answersBetween_same (waits packet member _ thread)] at among
      exact List.not_mem_nil among
  · by_cases held : input.permits.halts tid
    · exact sound.blocked tid (raised tid held).1
    · rcases (tracked tid held).used used with before | ⟨status, among, granted⟩
      · exact sound.used tid before
      · exact sound.blocked tid (of_decide_eq_true ((fits tid).blocked among granted))

end Work

section Steps

variable {env : Env} {machine : Machine}

theorem task_sound {input : Input}
    {other : ∀ key type context, input ≠ .exception key type context} (sound : machine.Sound)
    (rule : KernelRule env machine (.task input other))
    (waits : Waits env machine (.task input other)) :
    (step env (.task input other) machine).2.Sound := by
  have held (tid : Koid) : ¬ input.permits.halts tid := by
    cases input with
    | exception key type context => exact absurd rfl (other key type context)
    | bytesRead | timeout | queueStopNotification | inferior => exact id
  exact work_sound sound rule waits fun tid halts => absurd halts (held tid)

theorem deliver_sound (sound : machine.Sound) (rule : KernelRule env machine .deliver)
    (waits : Waits env machine .deliver) : (step env .deliver machine).2.Sound := by
  cases queue : machine.queue with
  | nil =>
      have idle : step env .deliver machine = (some (), machine) := by simp only [step, queue]
      rw [idle]
      exact sound
  | cons packet rest =>
      let popped : Machine := { machine with queue := rest }
      have taken : step env .deliver machine = work env packet.input popped := by
        simp only [step, queue, popped]
      have tail (other : Packet) (member : other ∈ rest) : other ∈ machine.queue :=
        queue ▸ List.mem_cons_of_mem packet member
      have distinct := sound.distinct
      rw [queue] at distinct
      have soundPopped : popped.Sound :=
        ⟨sound.stopped, fun other member => sound.queued other (tail other member),
          (List.Sublist.filterMap _ (List.sublist_cons_self packet rest)).nodup distinct,
          fun other member => sound.starting other (tail other member), sound.used, sound.blocked⟩
      rw [KernelRule, taken] at rule
      rw [Waits, taken] at waits
      rw [taken]
      refine work_sound soundPopped rule waits fun tid halts => ?_
      obtain ⟨rfl, alive⟩ := halts
      have thread : packet.thread? = some packet.context.tid := if_neg alive
      refine ⟨sound.queued packet (queue ▸ List.mem_cons_self) _ thread, ?_, fun stopped => ?_⟩
      · rw [List.filterMap_cons_some thread] at distinct
        exact (List.nodup_cons.mp distinct).1
      · by_cases exits : packet.type = .threadExiting
        · have gone := RspServer.handle_exiting env packet.key packet.context popped.server
          rw [← exits] at gone
          exact gone.resolve_right fun gone => absurd (stopped.2.symm.trans gone) nofun
        · exact RspServer.handle_exception_unasked env packet.key exits packet.context _ popped.server

theorem step_sound (machine : Machine) (move : Move) (sound : machine.Sound)
    (allowed : KernelRule env machine move ∧ Waits env machine move) :
    (step env move machine).2.Sound := by
  cases move with
  | raise packet => exact raise_sound sound allowed.1
  | deliver => exact deliver_sound sound allowed.1 allowed.2
  | task input other => exact task_sound sound allowed.1 allowed.2

end Steps

theorem start_sound (env : Env) (config : Config) (blocked running : List Koid) :
    (start env config blocked running).Sound := by
  have unused (tid : Koid) : ¬ (Debugserver.started env config).core.Used tid := fun used =>
    absurd (used.before (Debugserver.startUp_acts env config (Debugserver.newServer config))).1
      List.not_mem_nil
  exact ⟨fun tid stopped => absurd stopped.used (unused tid), nofun, List.nodup_nil, nofun,
    fun tid used => absurd used (unused tid), fun tid => List.mem_append_left running⟩

/-- As long as no thread is asked to resume while its exception waits: a thread
that is taken for stopped is blocked, and a thread that starts is found as new. -/
theorem run_agrees (env : Env) (config : Config) (blocked running : List Koid) (moves : List Move)
    (kernel : Along (step env) (KernelRule env) (start env config blocked running) moves)
    (waits : Along (step env) (Waits env) (start env config blocked running) moves) :
    let machine := (run (step env) moves (start env config blocked running)).2
    (∀ tid ∈ machine.server.core.process.threads.keys,
      (machine.server.core.thread tid).state = .stopped → tid ∈ machine.blocked) ∧
    ∀ packet rest tid reached, machine.queue = packet :: rest → packet.type = .threadStarting →
      RspServer.exceptionThread env packet.context.tid machine.server.core =
        (some (some tid), reached) → (reached.thread tid).state = .new := by
  intro machine
  have sound : machine.Sound :=
    run_invariant_along step_sound moves _ (start_sound env config blocked running)
      (kernel.and waits)
  refine ⟨fun tid member stopped => sound.stopped tid ⟨member, stopped⟩,
    fun packet rest tid reached queue type ran => ?_⟩
  obtain ⟨rfl, member⟩ := RspServer.exceptionThread_found ran
  have acted : (acting env .nothing).rel machine.server.core _ :=
    RspServer.exceptionThread_acts packet.context.tid machine.server.core
  rw [ran] at acted
  by_contra used
  have before : machine.server.core.Used packet.context.tid :=
    Server.Used.before ⟨member, used⟩ acted
  exact sound.starting packet (queue ▸ List.mem_cons_self) type before

/-- The kernel's rule when no thread but one is ever blocked or resumed. -/
def LoneRule (env : Env) (tid : Koid) (machine : Machine) (move : Move) : Prop :=
  match move with
  | .raise packet => packet.thread? = some tid ∧ tid ∉ machine.blocked ∧
      (packet.type = .threadStarting → tid ∉ machine.begun)
  | .deliver | .task _ _ => machine.blocked.all (· == tid) = true ∧
      AnswersFit (tid ∈ machine.blocked) (env.answersBetween (.taskResume tid) machine.server.core
        (step env move machine).2.server.core)

instance AnswersFit.decidable : ∀ blocked answers, Decidable (AnswersFit blocked answers)
  | _, [] => isTrue trivial
  | blocked, status :: later =>
      have := AnswersFit.decidable (blocked && status < 0) later
      inferInstanceAs (Decidable (_ ∧ _))

instance (env : Env) (tid : Koid) (machine : Machine) (move : Move) :
    Decidable (LoneRule env tid machine move) := by
  cases move with
  | raise packet => exact inferInstanceAs (Decidable (_ ∧ _))
  | deliver => exact inferInstanceAs (Decidable (_ ∧ _))
  | task input other => exact inferInstanceAs (Decidable (_ ∧ _))

-- Given explicitly: there are finitely many koids, and trying them all is no way to decide this.
instance (env : Env) (machine : Machine) (move : Move) : Decidable (Waits env machine move) :=
  @List.decidableBAll _ _ (fun packet => packet.thread?.decidableForallMem) _

theorem AnswersFit.of_refused {answers : List Status} (refused : ∀ status ∈ answers, status < 0) :
    AnswersFit false answers := by
  induction answers with
  | nil => trivial
  | cons status later ih =>
      obtain ⟨first, rest⟩ := List.forall_mem_cons.mp refused
      exact ⟨iff_of_false (not_not.mpr first) Bool.false_ne_true, ih rest⟩

theorem LoneRule.kernelRule {env : Env} {tid : Koid} {machine : Machine} {move : Move}
    (refuses : ∀ other ≠ tid, ∀ count, env.answer (.taskResume other) count < (0 : Int))
    (lone : LoneRule env tid machine move) : KernelRule env machine move := by
  have fits {answers : List Status} {other : Koid}
      (only : ∀ other ∈ machine.blocked, other = tid) (differ : other ≠ tid)
      (given : ∀ status ∈ answers, ∃ count, status = env.answer (.taskResume other) count) :
      AnswersFit (other ∈ machine.blocked) answers := by
    rw [decide_eq_false fun member => differ (only other member)]
    refine .of_refused fun status member => ?_
    obtain ⟨count, rfl⟩ := given status member
    exact refuses other differ count
  have answered (other : Koid) (after : Server) (status : Status) (member : status ∈
      env.answersBetween (.taskResume other) machine.server.core after) :
      ∃ count, status = env.answer (.taskResume other) count := by
    obtain ⟨count, _, rfl⟩ := List.mem_map.mp member
    exact ⟨count, rfl⟩
  cases move with
  | raise packet =>
      intro other raised
      obtain rfl : tid = other := Option.some.inj (lone.1.symm.trans raised)
      exact lone.2
  | deliver | task =>
      intro other
      by_cases same : other = tid
      · rw [same]
        exact lone.2
      · have only (koid : Koid) (member : koid ∈ machine.blocked) : koid = tid :=
          eq_of_beq (List.all_eq_true.mp lone.1 koid member)
        exact fits only same (answered other _)

end Machine

namespace Debugserver

/-- Thread 9 can be resumed once, and no other thread at all. -/
def resumableOnce : Env :=
  { obliging with
    answer := fun call count =>
      match call with
      | .taskResume tid => if tid = 9 ∧ count = 0 then (0 : Int) else -1
      | call => obligingAnswer call count }

def startOfNine : Packet := ⟨1, .threadStarting, ⟨9, 0, 0⟩⟩

theorem resumableOnce_refuses (other : Koid) (differ : other ≠ 9) (count : Nat) :
    resumableOnce.answer (.taskResume other) count < (0 : Int) := by
  simp [resumableOnce, differ]

/-- Every exception is handled before the client continues. -/
def inTurn : List Move :=
  [.task (.bytesRead (ascii "$vAttach;4d#9e")) nofun, .raise startOfNine, .deliver,
    .task (.bytesRead (ascii "$vCont;c#a8")) nofun, .raise ⟨1, .swBreakpoint, ⟨9, 3, 0⟩⟩, .deliver]

theorem inTurn_kernelRule : Along (Machine.step resumableOnce) (Machine.KernelRule resumableOnce)
    (Machine.start resumableOnce program [] []) inTurn := by
  have lone : Along (Machine.step resumableOnce) (Machine.LoneRule resumableOnce 9)
      (Machine.start resumableOnce program [] []) inTurn := by decide +kernel
  exact lone.mono fun _ _ rule => rule.kernelRule resumableOnce_refuses

theorem inTurn_waits : Along (Machine.step resumableOnce) (Machine.Waits resumableOnce)
    (Machine.start resumableOnce program [] []) inTurn := by decide +kernel

theorem inTurn_agrees :
    let machine :=
      (run (Machine.step resumableOnce) inTurn (Machine.start resumableOnce program [] [])).2
    (machine.server.core.thread 9).state = .stopped ∧ (9 : Koid) ∈ machine.blocked := by
  have stopped : (((run (Machine.step resumableOnce) inTurn
    (Machine.start resumableOnce program [] [])).2).server.core.thread 9).state = .stopped := by
    decide +kernel
  have member : (9 : Koid) ∈ ((run (Machine.step resumableOnce) inTurn
    (Machine.start resumableOnce program [] [])).2).server.core.process.threads.keys := by
    decide +kernel
  have agrees := Machine.run_agrees resumableOnce program [] [] inTurn inTurn_kernelRule inTurn_waits
  exact ⟨stopped, agrees.1 9 member stopped⟩

/-- The thread starts, and the client attaches and continues before the server
has come to its exception. -/
def continuedEarly : List Move :=
  [.task (.bytesRead (ascii "$vAttach;4d#9e")) nofun, .raise startOfNine,
    .task (.bytesRead (ascii "$vCont;c#a8")) nofun, .deliver]

def reached (moves : List Move) : Machine :=
  (run (Machine.step resumableOnce) moves (Machine.start resumableOnce program [] [])).2

/-- The thread is found running where a new one is asserted, and is then taken
for stopped while it runs. -/
theorem continuedEarly_disagrees :
    Along (Machine.step resumableOnce) (Machine.KernelRule resumableOnce)
      (Machine.start resumableOnce program [] []) continuedEarly ∧
    ((reached (continuedEarly.take 3)).queue.head?.map Packet.type = some .threadStarting ∧
      let found := RspServer.exceptionThread resumableOnce 9
        (reached (continuedEarly.take 3)).server.core
      found.1 = some (some 9) ∧ (found.2.thread 9).state = .running) ∧
    (9 : Koid) ∈ (reached continuedEarly).server.core.process.threads.keys ∧
    ((reached continuedEarly).server.core.thread 9).state = .stopped ∧
    (9 : Koid) ∉ (reached continuedEarly).blocked := by
  have lone : Along (Machine.step resumableOnce) (Machine.LoneRule resumableOnce 9)
      (Machine.start resumableOnce program [] []) continuedEarly := by decide +kernel
  exact ⟨lone.mono fun _ _ rule => rule.kernelRule resumableOnce_refuses,
    by decide +kernel, by decide +kernel⟩

end Debugserver

end Gdbserver
