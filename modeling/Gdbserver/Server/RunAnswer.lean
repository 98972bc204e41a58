import Gdbserver.Inferior.SingleStep
import Gdbserver.Server.Delivery

/-!
# The answer to `vRun`

A `vRun` that starts the program is answered by whichever exception handler
finds the process starting. What each exception tells the client is said once;
the answers of a whole run follow from it.
-/

set_option autoImplicit false

namespace Gdbserver

open Logic Prog Frame

namespace RspServer

/-- The `$` packets posted so far. -/
def answers (server : RspServer) : Nat := server.core.posted.countP Post.isResponse

/-- The stop notifications queued so far. -/
def notifications (server : RspServer) : Nat := (queuedIn server.journal).length

inductive Report where
  | silence
  | answer
  | notification
  | crash
  deriving DecidableEq

/-- The handlers use the thread they have not found. -/
def lostReport : ExceptionType → Report
  | .gone => .notification
  | .unrecognized => .silence
  | _ => .crash

/-- Only a starting process is answered for, by its first thread. -/
def startReport : ProcessState → Report
  | .starting => .answer
  | .running => .notification
  | .new | .gone => .silence

def signalReport (signal : GdbSignal) : Report :=
  if signal = .unsupported then .silence else .notification

def threadReport (signal : GdbSignal) (state : ProcessState) : ExceptionType → Report
  | .threadStarting => startReport state
  | .threadExiting | .gone => .notification
  | .unrecognized => .silence
  | .general | .fatalPageFault | .undefinedInstruction | .swBreakpoint | .hwBreakpoint =>
      signalReport signal

def finds (env : Env) (tid : Koid) (server : Server) : Bool :=
  (exceptionThread env tid server).1.join.isSome

/-- What one exception tells the client. -/
def report (env : Env) (key : UInt64) (type : ExceptionType) (context : ExceptionContext)
    (server : Server) : Report :=
  if key ∉ server.exceptionPort.callbacks then .silence
  else if finds env context.tid server then
    threadReport (env.arch.computeGdbSignal context) server.process.state type
  else lostReport type

/-- Nothing but the core has changed, and nothing of it that the client sees. -/
structure Hidden (before after : RspServer) : Prop where
  rest : after = { before with core := after.core }
  core : Quiet before.core after.core

def hidden : Frame RspServer where
  rel := Hidden
  refl server := ⟨rfl, quiet.refl server.core⟩
  trans first second := ⟨by rw [second.rest, first.rest], quiet.trans first.core second.core⟩

theorem onServer_hidden {α : Type} {inner : Prog Server α} (runs : quiet.Runs inner) :
    hidden.Runs (onServer inner) := fun server => by
  obtain ⟨value, core, ran, kept⟩ := runs server.core
  exact ⟨value, _, onServer_of_ran ran, rfl, kept⟩

/-- One notification is queued and no `$` packet posted. -/
structure Notified (before after : RspServer) : Prop where
  answers : answers after = answers before
  notifications : notifications after = notifications before + 1

structure Unheard (before after : RspServer) : Prop where
  answers : answers after = answers before
  notifications : notifications after = notifications before

theorem unheard_of_posted {before after : RspServer} (rest : after = { before with core := after.core })
    (posted : after.core.posted = before.core.posted) : Unheard before after :=
  ⟨by rw [answers, posted, answers], by rw [notifications, rest, notifications]⟩

theorem Hidden.unheard {before after : RspServer} (kept : Hidden before after) :
    Unheard before after := unheard_of_posted kept.rest kept.core.posted

theorem Notified.after {before middle after : RspServer} (head : Unheard before middle)
    (tail : Notified middle after) : Notified before after :=
  ⟨tail.answers.trans head.answers, by rw [tail.notifications, head.notifications]⟩

theorem Notified.before {before middle after : RspServer} (head : Notified before middle)
    (tail : Unheard middle after) : Notified before after :=
  ⟨tail.answers.trans head.answers, tail.notifications.trans head.notifications⟩

theorem Queues.notified {env : Env} {allowed : Bytes → Prop} {before after : RspServer}
    (queues : Queues env allowed before after) : Notified before after := by
  cases queues with
  | waits permitted busy new => exact ⟨rfl, by simp [notifications, queuedIn, NotifyEvent.queued?]⟩
  | notifies permitted free new first =>
      exact ⟨by simp [answers, Server.post, Post.isResponse],
        by simp [notifications, queuedIn, NotifyEvent.queued?]⟩

theorem queueStopReply_notifies (env : Env) (stopReply : StopReplyPacket) (server : RspServer) :
    ∃ after, queueStopReply env stopReply server = (some (), after) ∧ Notified server after := by
  obtain ⟨_, after, ran, -⟩ :=
    queueStopNotification_calm env stopReply.build kDefaultTimeoutSeconds server
  have queues : Queues env (fun _ => True) server
      (queueStopNotification env stopReply.build kDefaultTimeoutSeconds server).2 :=
    queueStopNotification_queues env trivial _ server
  rw [ran] at queues
  exact ⟨after, ran, queues.notified⟩

theorem onThreadExiting_notifies (env : Env) (tid : Koid) (server : RspServer) :
    ∃ after, onThreadExiting env tid server = (some (), after) ∧ Notified server after := by
  obtain ⟨queued, ran, notified⟩ := queueStopReply_notifies env
    (threadExitingReply env server.core.process.id tid) server
  obtain ⟨_, after, ranResume, kept⟩ :=
    onServer_hidden (Thread.resumeForExit_quiet env tid) queued
  rw [onThreadExiting, read_bind, bind_of_some ran]
  exact ⟨after, ranResume, notified.before kept.unheard⟩

theorem onProcessExit_notifies (env : Env) (server : RspServer) :
    ∃ after, onProcessExit env server = (some (), after) ∧ Notified server after := by
  obtain ⟨_, unset, ranUnset, first⟩ := onServer_hidden (Server.setCurrentThread_quiet none) server
  obtain ⟨exitCode, asked, ranAsk, second⟩ := onServer_hidden (Process.exitCode_quiet env) unset
  obtain ⟨after, ran, notified⟩ := queueStopReply_notifies env (processExitReply exitCode) asked
  rw [onProcessExit, bind_of_some ranUnset, bind_of_some ranAsk]
  exact ⟨after, ran, Notified.after (hidden.trans first second).unheard notified⟩

theorem onGone_notifies (env : Env) (server : RspServer) :
    ∃ after, onGone env server = (some (), after) ∧ Notified server after := by
  obtain ⟨gone, ranGone, first⟩ := Process.setState_spec .gone server.core
  obtain ⟨told, ranExit, notified⟩ := onProcessExit_notifies env { server with core := gone }
  have sofar : Notified server told :=
    Notified.after (unheard_of_posted rfl first.posted) notified
  rw [onGone, bind_of_some (onServer_of_ran ranGone), bind_of_some ranExit]
  cases attached : told.core.process.isAttached with
  | true =>
      obtain ⟨after, ran, moved⟩ := Process.detach_spec told.core attached
      rw [bind_of_some (onServer_of_ran ran)]
      exact ⟨_, rfl, sofar.before (unheard_of_posted rfl moved.posted)⟩
  | false =>
      obtain ⟨after, ran, moved⟩ := Process.clear_spec told.core
      rw [bind_of_some (onServer_of_ran (Process.detach_of_not_attached told.core attached))]
      exact ⟨_, onServer_of_ran ran, sofar.before (unheard_of_posted rfl moved.posted)⟩

/-- The handler's own thread and context decide which signal is reported. -/
theorem onArchException_signalled (env : Env) (tid : Koid) (type : ExceptionType)
    (context : ExceptionContext) (server : RspServer) :
    ∃ reached, Hidden server reached ∧
      onArchException env tid type context server =
        (if env.arch.computeGdbSignal context = .unsupported then pure ()
        else do
          let processId ← read (·.core.process.id)
          let gregs ← onServer (refreshedRegisters env tid)
          queueStopReply env (archExceptionReply env (env.arch.computeGdbSignal context) processId
            context.tid gregs) : Prog RspServer Unit) reached := by
  obtain ⟨_, watched, ranWatch, first⟩ := onServer_hidden (watchDynamicLinker_quiet env tid type) server
  obtain ⟨core, ran, -, noted, -⟩ := Thread.onException_spec env tid type context watched.core
  have second : Quiet watched.core core := by
    have kept := (Thread.onException_quiet env tid type context).keeps watched.core
    rwa [ran] at kept
  refine ⟨{ watched with core := core }, hidden.trans first ⟨rfl, second⟩, ?_⟩
  rw [onArchException, bind_of_some ranWatch, bind_of_some (onServer_of_ran ran),
    onArchitecturalException, read_bind, Thread.getGdbSignal, noted]

/-- A starting process begins to run with the answer. -/
structure AnswersRun (before after : RspServer) : Prop where
  answers : answers after = answers before + 1
  notifications : notifications after = notifications before
  state : after.core.process.state = .running

inductive Reports (server : RspServer) : Report → Option Unit × RspServer → Prop
  | silence {after : RspServer} (kept : Hidden server after) :
      Reports server .silence (some (), after)
  | answer {after : RspServer} (answered : AnswersRun server after) :
      Reports server .answer (some (), after)
  | notification {after : RspServer} (notified : Notified server after) :
      Reports server .notification (some (), after)
  | crash {after : RspServer} (kept : Hidden server after) : Reports server .crash (none, after)

theorem Reports.after {before middle : RspServer} {kind : Report}
    {result : Option Unit × RspServer} (head : Hidden before middle)
    (tail : Reports middle kind result) : Reports before kind result := by
  have unheard := head.unheard
  cases tail with
  | silence kept => exact .silence (hidden.trans head kept)
  | answer answered =>
      exact .answer ⟨by rw [answered.answers, unheard.answers],
        answered.notifications.trans unheard.notifications, answered.state⟩
  | notification notified => exact .notification (Notified.after unheard notified)
  | crash kept => exact .crash (hidden.trans head kept)

theorem onThreadStarting_reports (env : Env) (context : ExceptionContext) (server : RspServer) :
    Reports server (startReport server.core.process.state) (onThreadStarting env context server) := by
  rw [onThreadStarting, read_bind]
  cases server.core.process.state with
  | new => exact .silence (hidden.refl server)
  | gone => exact .silence (hidden.refl server)
  | running =>
      obtain ⟨after, ran, notified⟩ := queueStopReply_notifies env
        (threadStartingReply env server.core.process.id context.tid) server
      change Reports server .notification (queueStopReply env _ server)
      rw [ran]
      exact .notification notified
  | starting =>
      refine .answer ⟨?_, rfl, rfl⟩
      exact (List.countP_append).trans rfl

theorem onArchException_reports (env : Env) (tid : Koid) (type : ExceptionType)
    (context : ExceptionContext) (server : RspServer) :
    Reports server (signalReport (env.arch.computeGdbSignal context))
      (onArchException env tid type context server) := by
  obtain ⟨reached, kept, reduced⟩ := onArchException_signalled env tid type context server
  rw [reduced, signalReport]
  split
  · exact .silence kept
  · obtain ⟨gregs, refreshed, ranRefresh, second⟩ :=
      onServer_hidden (refreshedRegisters_quiet env tid) reached
    obtain ⟨after, ran, notified⟩ := queueStopReply_notifies env
      (archExceptionReply env (env.arch.computeGdbSignal context) reached.core.process.id
        context.tid gregs) refreshed
    rw [read_bind, bind_of_some ranRefresh, ran]
    exact .notification (Notified.after (hidden.trans kept second).unheard notified)

theorem onException_reports (env : Env) (type : ExceptionType) (context : ExceptionContext)
    {server : RspServer} {key : UInt64} (bound : key ∈ server.core.exceptionPort.callbacks) :
    Reports server (report env key type context server.core)
      (onException env type context server) := by
  obtain ⟨found, core, ran, kept⟩ := exceptionThread_quiet env context.tid server.core
  have head : Hidden server { server with core := core } := ⟨rfl, kept⟩
  have state : core.process.state = server.core.process.state :=
    congrArg Lifecycle.state kept.lifecycle
  have gone : Reports server .notification (onGone env { server with core := core }) := by
    obtain ⟨after, ranGone, notified⟩ := onGone_notifies env { server with core := core }
    rw [ranGone]
    exact .notification (Notified.after head.unheard notified)
  rw [report, if_neg (not_not.mpr bound), finds, ran, Option.join_some, onException,
    bind_of_some (onServer_of_ran ran), ← state]
  cases found with
  | none =>
      cases type with
      | gone => exact gone
      | unrecognized => exact .silence head
      | _ => exact .crash head
  | some tid =>
      have arch := Reports.after head
        (onArchException_reports env tid type context { server with core := core })
      obtain ⟨_, noted, ranStop, second⟩ :=
        onServer_hidden (Thread.onException_quiet env tid type context) { server with core := core }
      have sofar := hidden.trans head second
      cases type with
      | threadStarting =>
          have same : noted.core.process.state = core.process.state :=
            congrArg Lifecycle.state second.core.lifecycle
          have reported := Reports.after sofar (onThreadStarting_reports env context noted)
          rw [same] at reported
          change Reports server (startReport core.process.state)
            ((onServer (Thread.onException env tid _ context) >>= fun _ =>
              onThreadStarting env context) _)
          rw [bind_of_some ranStop]
          exact reported
      | threadExiting =>
          obtain ⟨after, ranExit, notified⟩ := onThreadExiting_notifies env tid noted
          change Reports server .notification
            ((onServer (Thread.onException env tid _ context) >>= fun _ =>
              onThreadExiting env tid) _)
          rw [bind_of_some ranStop, ranExit]
          exact .notification (Notified.after sofar.unheard notified)
      | gone => exact gone
      | unrecognized => exact .silence head
      | _ => exact arch

theorem dispatchException_reports (env : Env) (key : UInt64) (type : ExceptionType)
    (context : ExceptionContext) (server : RspServer) :
    Reports server (report env key type context server.core)
      (dispatchException env key type context server) := by
  rw [dispatchException, read_bind]
  by_cases bound : key ∈ server.core.exceptionPort.callbacks
  · rw [if_pos bound]
    exact onException_reports env type context bound
  · rw [if_neg bound, report, if_pos bound]
    exact .silence (hidden.refl server)

/-! ## Runs of exceptions -/

/-- An exception as the kernel raises it. -/
structure Raised where
  type : ExceptionType
  context : ExceptionContext

def deliver (env : Env) (key : UInt64) (raised : Raised) : Prog RspServer Unit :=
  handle env (.exception key raised.type raised.context)

/-- The server once the exceptions of a process have been handled. -/
def afterExceptions (env : Env) (key : UInt64) (exceptions : List Raised) (server : RspServer) :
    RspServer :=
  (run (deliver env key) exceptions server).2

/-- One `$` packet, and no notification before it. -/
structure AnsweredOnce (env : Env) (key : UInt64) (exceptions : List Raised) (server : RspServer) :
    Prop where
  once : answers (afterExceptions env key exceptions server) = answers server + 1
  first : ∀ earlier, earlier <+: exceptions →
    answers (afterExceptions env key earlier server) = answers server →
    notifications (afterExceptions env key earlier server) = notifications server

/-- The client is told nothing of it. -/
def Raised.Unreported (env : Env) (raised : Raised) (server : Server) : Prop :=
  raised.type = .unrecognized ∨
    raised.type.isArch = true ∧ finds env raised.context.tid server = true ∧
      env.arch.computeGdbSignal raised.context = .unsupported

/-- The first exception the client is told of is that of a thread that starts
and that the server finds. -/
def StartsFirst (env : Env) (key : UInt64) : List Raised → RspServer → Prop
  | [], _ => False
  | raised :: later, server =>
      (raised.type = .threadStarting ∧ finds env raised.context.tid server.core = true) ∨
        (raised.Unreported env server.core ∧
          StartsFirst env key later (deliver env key raised server).2)

theorem startReport_eq_answer {state : ProcessState} (answer : startReport state = .answer) :
    state = .starting := by
  cases state with
  | starting => rfl
  | new | running | gone => cases answer

theorem signalReport_ne_answer (signal : GdbSignal) : signalReport signal ≠ .answer := by
  rw [signalReport]
  split <;> decide

theorem starting_of_report {env : Env} {key : UInt64} {type : ExceptionType}
    {context : ExceptionContext} {server : Server}
    (answer : report env key type context server = .answer) :
    server.process.state = .starting := by
  rw [report] at answer
  split at answer
  · cases answer
  · split at answer
    · cases type with
      | threadStarting => exact startReport_eq_answer answer
      | threadExiting | gone | unrecognized => cases answer
      | _ => exact absurd answer (signalReport_ne_answer _)
    · cases type <;> cases answer

section Run

variable {env : Env} {key : UInt64}

theorem deliver_reports (raised : Raised) (server : RspServer) :
    Reports server (report env key raised.type raised.context server.core)
      (deliver env key raised server) :=
  dispatchException_reports env key raised.type raised.context server

/-- Only a `vRun` makes a process start. -/
theorem deliver_state (raised : Raised) {server : RspServer}
    (other : server.core.process.state ≠ .starting) :
    (deliver env key raised server).2.core.process.state ≠ .starting := by
  have transition :
      Transition server.core (deliver env key raised server).2.core := by
    rw [deliver, handle, dispatchException, read_bind]
    split
    · exact onException_transition env raised.type raised.context server
    · exact .none (settled.refl server.core)
  intro starting
  cases transition with
  | none kept => exact other ((congrArg Lifecycle.state kept.lifecycle).symm.trans starting)
  | running before _ => exact other before
  | exited _ lands | vanished _ lands =>
      have gone : (deliver env key raised server).2.core.process.state = .gone :=
        congrArg Lifecycle.state lands.lifecycle
      cases gone.symm.trans starting

theorem Reports.answers_eq {server : RspServer} {kind : Report} {result : Option Unit × RspServer}
    (reports : Reports server kind result) (other : kind ≠ .answer) :
    answers result.2 = answers server := by
  cases reports with
  | silence kept | crash kept => exact kept.unheard.answers
  | answer _ => exact absurd rfl other
  | notification notified => exact notified.answers

/-- Once the process has left its starting state there is no further answer. -/
theorem answers_afterExceptions {server : RspServer}
    (other : server.core.process.state ≠ .starting) (exceptions : List Raised) :
    answers (afterExceptions env key exceptions server) = answers server := by
  have preserved (reached : RspServer) (raised : Raised)
      (sofar : reached.core.process.state ≠ .starting ∧ answers reached = answers server) :
      (deliver env key raised reached).2.core.process.state ≠ .starting ∧
        answers (deliver env key raised reached).2 = answers server :=
    ⟨deliver_state raised sofar.1,
      ((deliver_reports raised reached).answers_eq (mt starting_of_report sofar.1)).trans sofar.2⟩
  exact (run_invariant preserved exceptions server ⟨other, rfl⟩).2

variable {raised : Raised} {later : List Raised} {server reached : RspServer}

theorem afterExceptions_of_some (taken : deliver env key raised server = (some (), reached)) :
    afterExceptions env key (raised :: later) server = afterExceptions env key later reached := by
  rw [afterExceptions, run_cons_of_some taken, afterExceptions]

theorem afterExceptions_of_none (taken : deliver env key raised server = (none, reached)) :
    afterExceptions env key (raised :: later) server = reached := by
  rw [afterExceptions, run_cons_of_none taken]

theorem answeredOnce_cons_of_hidden (taken : deliver env key raised server = (some (), reached))
    (kept : Hidden server reached) :
    AnsweredOnce env key (raised :: later) server ↔ AnsweredOnce env key later reached := by
  have answersSame := kept.unheard.answers
  have notificationsSame := kept.unheard.notifications
  constructor
  · rintro ⟨once, first⟩
    have tails := ((prefixes_cons_iff raised later).mp first).2
    simp only [afterExceptions_of_some taken, ← answersSame, ← notificationsSame] at once tails
    exact ⟨once, tails⟩
  · rintro ⟨once, first⟩
    refine ⟨by rw [afterExceptions_of_some taken, once, answersSame],
      (prefixes_cons_iff raised later).mpr ⟨fun _ => rfl, ?_⟩⟩
    simpa only [afterExceptions_of_some taken, ← answersSame, ← notificationsSame] using first

theorem answeredOnce_cons_of_answer (taken : deliver env key raised server = (some (), reached))
    (answered : AnswersRun server reached) : AnsweredOnce env key (raised :: later) server := by
  have running : reached.core.process.state ≠ .starting := by
    rw [answered.state]
    decide
  have one (rest : List Raised) :
      answers (afterExceptions env key (raised :: rest) server) = answers server + 1 := by
    rw [afterExceptions_of_some taken, answers_afterExceptions running, answered.answers]
  refine ⟨one later, (prefixes_cons_iff raised later).mpr ⟨fun _ => rfl, fun rest _ none => ?_⟩⟩
  exact absurd (none.symm.trans (one rest)) (Nat.ne_of_lt (Nat.lt_succ_self _))

/-- The process has been started and its exceptions reach the server. -/
structure Waiting (key : UInt64) (server : RspServer) : Prop where
  starting : server.core.process.state = .starting
  bound : key ∈ server.core.exceptionPort.callbacks

theorem Hidden.waiting (kept : Hidden server reached) (waiting : Waiting key server) :
    Waiting key reached :=
  ⟨(congrArg Lifecycle.state kept.core.lifecycle).trans waiting.starting,
    by rw [kept.core.exceptionPort]; exact waiting.bound⟩

theorem Waiting.answer_iff (waiting : Waiting key server) :
    report env key raised.type raised.context server.core = .answer ↔
      raised.type = .threadStarting ∧ finds env raised.context.tid server.core = true := by
  rw [report, if_neg (not_not.mpr waiting.bound), waiting.starting]
  cases finds env raised.context.tid server.core with
  | false => cases raised.type <;> simp [lostReport]
  | true => cases raised.type <;> simp [threadReport, startReport, signalReport_ne_answer]

theorem Waiting.silence_iff (waiting : Waiting key server) :
    report env key raised.type raised.context server.core = .silence ↔
      raised.Unreported env server.core := by
  rw [report, if_neg (not_not.mpr waiting.bound), waiting.starting, Raised.Unreported]
  cases finds env raised.context.tid server.core with
  | false => cases raised.type <;> simp [lostReport]
  | true =>
      cases raised.type <;> simp [threadReport, startReport, signalReport, ExceptionType.isArch]

theorem Waiting.answeredOnce_iff (waiting : Waiting key server) (exceptions : List Raised) :
    AnsweredOnce env key exceptions server ↔ StartsFirst env key exceptions server := by
  induction exceptions generalizing server with
  | nil => exact ⟨fun answered => absurd answered.once (Nat.ne_of_lt (Nat.lt_succ_self _)), False.elim⟩
  | cons raised later ih =>
      have reports : Reports server (report env key raised.type raised.context server.core)
          (deliver env key raised server) := deliver_reports raised server
      rw [StartsFirst, ← waiting.answer_iff, ← waiting.silence_iff]
      generalize report env key raised.type raised.context server.core = kind at reports ⊢
      generalize ran : deliver env key raised server = result at reports ⊢
      cases reports with
      | silence kept =>
          rw [answeredOnce_cons_of_hidden ran kept, ih (kept.waiting waiting)]
          simp
      | answer answered => exact iff_of_true (answeredOnce_cons_of_answer ran answered) (Or.inl rfl)
      | notification notified =>
          refine iff_of_false (fun answered => ?_) (by simp)
          have early := answered.first [raised] (List.prefix_append [raised] later)
          rw [afterExceptions_of_some ran] at early
          exact absurd (notified.notifications.symm.trans (early notified.answers))
            (Nat.succ_ne_self _)
      | crash kept =>
          refine iff_of_false (fun answered => ?_) (by simp)
          have once := answered.once
          rw [afterExceptions_of_none ran, kept.unheard.answers] at once
          exact absurd once.symm (Nat.succ_ne_self _)

end Run

end RspServer

/-! ## After a `vRun` -/

namespace CommandHandler

open RspServer

/-- Nothing is posted and the exception port is left alone. -/
def unbothered : Frame Server where
  rel before after := after.posted = before.posted ∧
    (Process.Registered before → Process.Registered after)
  refl _ := ⟨rfl, id⟩
  trans first second := ⟨second.1.trans first.1, second.2 ∘ first.2⟩

theorem start_unbothered (env : Env) : unbothered.Keeps (Process.start env) := by
  have checked (check : Check) (condition : Bool) : unbothered.Keeps (dcheck check condition) := by
    rw [dcheck_eq]
    exact Keeps.modify fun _ => ⟨rfl, id⟩
  exact Keeps.bind Keeps.read fun _ => Keeps.bind (checked _ _) fun _ =>
    Keeps.bind (checked _ _) fun _ => Keeps.ite (fun _ => Keeps.pure) fun _ =>
      Keeps.ite (fun _ => Keeps.stop) fun _ => Keeps.bind (fun _ => ⟨rfl, id⟩) fun _ =>
        Keeps.bind (Keeps.modify fun _ => ⟨rfl, id⟩) fun _ => Keeps.ite (fun _ => Keeps.pure) fun _ =>
          Keeps.bind (fun _ => ⟨rfl, id⟩) fun _ => Keeps.pure

/-- `Start` succeeds only by making a new process start. -/
theorem start_starting {env : Env} {server after : Server}
    (ran : Process.start env server = (some true, after)) : after.process.state = .starting := by
  by_cases new : server.process.state = .new
  · cases loaded : server.process.launchpad with
    | false =>
        obtain ⟨_, stopped, -⟩ := Process.start_of_no_launchpad env server new loaded
        cases stopped.symm.trans ran
    | true =>
        by_cases refused : env.now .launchpadStart server < (0 : Int)
        · obtain ⟨_, failed, -⟩ := Process.start_of_refused env server new loaded refused
          cases failed.symm.trans ran
        · obtain ⟨_, started, moved⟩ := Process.start_spec env server new loaded refused
          cases started.symm.trans ran
          exact congrArg Lifecycle.state moved.lifecycle
  · obtain ⟨_, failed, -⟩ := Process.start_of_not_new env server new
    cases failed.symm.trans ran

variable {env : Env} {server core : Server}

theorem posted_ne_of_replyWithError {code : Util.ErrorCode}
    (ran : replyWithError env code server = (some true, core)) : core.posted ≠ server.posted := by
  cases ran
  exact fun same => absurd (List.append_right_eq_self.mp same) (List.cons_ne_nil _ _)

theorem launch_starting (ran : launch env server = (some true, core))
    (silent : core.posted = server.posted) :
    core.process.state = .starting ∧ Process.Registered core := by
  obtain ⟨attached, _, _, ranAttach, -, moved⟩ := Process.attach_outcome env server
  rw [launch, bind_of_some ranAttach] at ran
  cases granted : !server.process.isAttached && Process.attachGranted env server with
  | false =>
      rw [granted] at ran
      exact absurd (silent.trans moved.posted.symm) (posted_ne_of_replyWithError ran)
  | true =>
      obtain ⟨free, allowed⟩ : server.process.isAttached = false ∧
          Process.attachGranted env server = true := by simpa using granted
      obtain ⟨_, _, _, same, -, -, registered, -⟩ := Process.attach_spec env server free allowed
      rw [granted] at ranAttach ran
      cases ranAttach.symm.trans same
      rw [if_not_true] at ran
      have kept := start_unbothered env attached
      rcases stopped_or_ran (Process.start env) attached with ⟨reached, taken⟩ | ⟨ok, reached, taken⟩
      · rw [bind_of_none taken] at ran
        cases ran
      · rw [bind_of_some taken] at ran
        rw [taken] at kept
        cases ok with
        | false =>
            exact absurd (silent.trans (kept.1.trans moved.posted).symm)
              (posted_ne_of_replyWithError ran)
        | true =>
            cases ran
            exact ⟨start_starting taken, kept.2 registered⟩

/-- `Handle_vRun` returned true and has not replied: the program was started. -/
structure Started (env : Env) (arguments : Bytes) (before after : Server) : Prop where
  ran : handle_vRun env arguments before = (some true, after)
  silent : after.posted = before.posted

theorem Started.launched {arguments : Bytes} (started : Started env arguments server core) :
    core.process.state = .starting ∧ Process.Registered core := by
  obtain ⟨ran, silent⟩ := started
  rw [handle_vRun, read_bind] at ran
  cases has : server.hasProcess with
  | false =>
      rw [has] at ran
      exact absurd silent (posted_ne_of_replyWithError ran)
  | true =>
      obtain ⟨named, ranArgv, prepared, -⟩ := setArgv_spec arguments server
      rw [has, if_not_true, bind_of_some ranArgv, read_bind] at ran
      cases live : named.process.isLive with
      | true =>
          rw [live] at ran
          exact absurd (silent.trans prepared.posted.symm) (posted_ne_of_replyWithError ran)
      | false =>
          obtain ⟨loaded, ready, _, _, ranInit, -, -, moved, -⟩ :=
            Process.initializeProgram_spec env named
          have sofar : core.posted = ready.posted :=
            silent.trans (moved.posted.trans prepared.posted).symm
          rw [live, if_neg Bool.false_ne_true, bind_of_some ranInit] at ran
          cases loaded with
          | false => exact absurd sofar (posted_ne_of_replyWithError ran)
          | true => exact launch_starting ran sofar

/-- Whatever the kernel raises for the new process, in any order and number. -/
theorem started_answeredOnce_iff (env : Env) (arguments : Bytes) (server : RspServer) (core : Server)
    (started : Started env arguments server.core core) (exceptions : List Raised) :
    AnsweredOnce env core.process.eportKey exceptions { server with core := core } ↔
      StartsFirst env core.process.eportKey exceptions { server with core := core } :=
  Waiting.answeredOnce_iff ⟨started.launched.1, started.launched.2⟩ exceptions

end CommandHandler

namespace Debugserver

open RspServer CommandHandler

def launched : Server := (handle_vRun obliging [] (started obliging program).core).2

theorem launched_started : Started obliging [] (started obliging program).core launched :=
  ⟨by rfl, by decide +kernel⟩

theorem firstThread_answered :
    Started obliging [] (started obliging program).core launched ∧
      AnsweredOnce obliging launched.process.eportKey [⟨.threadStarting, ⟨9, 0, 0⟩⟩]
        { started obliging program with core := launched } :=
  ⟨launched_started, (started_answeredOnce_iff obliging [] (started obliging program) launched
    launched_started _).mpr (Or.inl ⟨rfl, by decide +kernel⟩)⟩

/-- The process dies before its first thread has started. -/
theorem earlyDeath_unanswered :
    Started obliging [] (started obliging program).core launched ∧
      ¬ AnsweredOnce obliging launched.process.eportKey [⟨.gone, ⟨0, 0, 0⟩⟩]
        { started obliging program with core := launched } := by
  refine ⟨launched_started, fun answered => absurd answered.once ?_⟩
  decide +kernel

end Debugserver

end Gdbserver
