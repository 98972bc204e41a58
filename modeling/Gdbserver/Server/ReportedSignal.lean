import Gdbserver.Rsp.Framing
import Gdbserver.Server.RegisterCache
import Mathlib.Data.List.TakeWhile

/-!
# The signal a stop is reported with

A stop reply carries a signal number, and `C` takes the number back from the
client. The reply is built when the exception arrives; the command looks at the
context that the thread has kept of it.
-/

set_option autoImplicit false

namespace Gdbserver

open Logic Prog Frame

/-! ## What a stopped thread keeps -/

/-- If the thread is stopped, this is the exception that has stopped it. -/
def Server.StoppedBy (tid : Koid) (context : ExceptionContext) (server : Server) : Prop :=
  server.Stopped tid → (server.thread tid).exceptionContext = some context

section Kept

variable {env : Env} {allowed : Permits} {tid : Koid} {context : ExceptionContext}

theorem Server.StoppedBy.setThread {server : Server} (kept : server.StoppedBy tid context)
    {thread : Thread} (state : thread.state = (server.thread tid).state)
    (same : thread.exceptionContext = (server.thread tid).exceptionContext) :
    (server.setThread tid thread).StoppedBy tid context := by
  intro stopped
  obtain ⟨member, there⟩ := Server.stopped_setThread.mp stopped
  rw [Server.thread_setThread, same]
  exact kept ⟨member, state.symm.trans there⟩

theorem Server.StoppedBy.of_moved {server : Server} {thread : Thread}
    (moved : thread.state ≠ .stopped) : (server.setThread tid thread).StoppedBy tid context :=
  fun stopped => absurd (Server.stopped_setThread.mp stopped).2 moved

theorem Touch.stoppedBy {before after : Server} (touch : Touch env allowed tid before after)
    (held : ¬ allowed.halts tid) (kept : before.StoppedBy tid context) :
    after.StoppedBy tid context := by
  cases touch with
  | zeroed | refreshed | unstored | stored | marked => exact kept.setThread rfl rfl
  | unread | unresumed => exact kept
  | resumed may state granted ready =>
      apply Server.StoppedBy.of_moved
      rcases ready with ⟨rfl, _⟩ | ⟨rfl, _⟩ <;> exact nofun
  | halted may => exact absurd may held
  | left => exact .of_moved nofun

theorem Act.stoppedBy {before after : Server} (act : Act env allowed before after)
    (held : ¬ allowed.halts tid) (kept : before.StoppedBy tid context) :
    after.StoppedBy tid context := by
  rcases act.spares tid with spared | touch
  · intro stopped
    rcases spared.thread stopped.1 with ⟨member, same⟩ | fresh
    · rw [same]
      exact kept ⟨member, same ▸ stopped.2⟩
    · exact absurd (fresh.state.symm.trans stopped.2) nofun
  · exact touch.stoppedBy held kept

/-- Nothing but an exception of its own changes what stopped a thread. -/
def keepsStop (tid : Koid) (context : ExceptionContext) : Frame Server :=
  preserving (Server.StoppedBy tid context)

theorem keepsStop_of_acting {before after : Server} (held : ¬ allowed.halts tid)
    (acted : (acting env allowed).rel before after) : (keepsStop tid context).rel before after :=
  steps_within (fun act => act.stoppedBy held) acted

end Kept

/-! ## What the client is told -/

namespace StopReplyPacket

/-- A payload that tells of a stop with this signal number. -/
def Carries (signo : UInt8) (payload : Bytes) : Prop :=
  payload.take 3 = chr 'T' :: Util.encodeByteString signo

instance (signo : UInt8) (payload : Bytes) : Decidable (Carries signo payload) :=
  inferInstanceAs (Decidable (_ = _))

theorem build_carries {packet : StopReplyPacket} (type : packet.type = .receivedSignal)
    (named : packet.tidString ≠ []) :
    Carries (if packet.stopReason.isEmpty then packet.signo else 5) packet.build := by
  have parameters : packet.hasParameters = true := by
    simp [hasParameters, named]
  have first : packet.typeChar = chr 'T' := by
    rw [typeChar, type, parameters]
    rfl
  rw [Carries, build, first]
  rfl

theorem Carries.unique {first second : UInt8} {payload : Bytes} (one : Carries first payload)
    (other : Carries second payload) : first = second := by
  have same : Util.encodeByteString first = Util.encodeByteString second :=
    (List.cons.inj (one.symm.trans other)).2
  obtain ⟨high, low, encoded, decoded⟩ := Util.decodeByteString_encodeByteString first
  obtain ⟨high', low', encoded', decoded'⟩ := Util.decodeByteString_encodeByteString second
  rw [encoded, encoded'] at same
  cases same
  exact Option.some.inj (decoded.symm.trans decoded')

end StopReplyPacket

namespace RspServer

open StopReplyPacket

theorem threadStartingReply_carries (env : Env) (processId tid : Koid) :
    Carries 5 (threadStartingReply env processId tid).build :=
  build_carries rfl (List.cons_ne_nil _ _)

theorem archExceptionReply_carries (env : Env) (signal : GdbSignal) (processId tid : Koid)
    (gregs : Option RegisterSet) :
    Carries (UInt8.ofInt signal.number)
      (archExceptionReply env signal processId tid gregs).build := by
  cases gregs with
  | none => exact build_carries rfl (List.cons_ne_nil _ _)
  | some gregs => exact build_carries rfl (List.cons_ne_nil _ _)

/-- The client is sent this payload, or will be once it asks for more. -/
def Tells (payload : Bytes) (before after : RspServer) : Prop :=
  after.core.posted = before.core.posted ++ [.write false payload] ∨
    (queuedIn after.journal).map (·.event) = (queuedIn before.journal).map (·.event) ++ [payload]

theorem Hidden.tells_iff {payload : Bytes} {before middle after : RspServer}
    (kept : Hidden before middle) : Tells payload before after ↔ Tells payload middle after := by
  rw [Tells, Tells, kept.core.posted, kept.rest]

theorem not_tells_refl (payload : Bytes) (server : RspServer) : ¬ Tells payload server server := by
  rintro (posted | queued)
  · simp at posted
  · simp at queued

theorem Queues.tells {env : Env} {event payload : Bytes} {before after : RspServer}
    (queues : Queues env (Eq event) before after) (tells : Tells payload before after) :
    payload = event := by
  cases queues with
  | waits permitted busy new =>
      subst permitted new
      rcases tells with posted | queued
      · simp at posted
      · simpa [queuedIn, NotifyEvent.queued?, newNotification] using queued.symm
  | notifies permitted free new first =>
      subst permitted new
      rcases tells with posted | queued
      · simp [Server.post] at posted
      · simpa [queuedIn, NotifyEvent.queued?, newNotification] using queued.symm

theorem queueStopReply_tells {env : Env} {stopReply : StopReplyPacket} {payload : Bytes}
    {server : RspServer} (tells : Tells payload server (queueStopReply env stopReply server).2) :
    payload = stopReply.build := by
  have queues : Queues env (Eq stopReply.build) server
      (queueStopNotification env stopReply.build kDefaultTimeoutSeconds server).2 :=
    queueStopNotification_queues env rfl kDefaultTimeoutSeconds server
  exact queues.tells tells

section Told

variable {env : Env} {key : UInt64} {type : ExceptionType} {context : ExceptionContext}
  {server : RspServer} {payload : Bytes}

/-- An exception that the client is told of is one that is reported. -/
theorem Tells.reported
    (tells : Tells payload server (handle env (.exception key type context) server).2) :
    report env key type context server.core ≠ .silence ∧
      report env key type context server.core ≠ .crash := by
  have reports := dispatchException_reports env key type context server
  have unheard {after : RspServer} (kept : Hidden server after)
      (reached : (dispatchException env key type context server).2 = after) : False := by
    have told : Tells payload server after := reached ▸ tells
    exact not_tells_refl payload after (kept.tells_iff.mp told)
  constructor
  · intro silent
    rw [silent] at reports
    generalize result : dispatchException env key type context server = outcome at reports
    cases reports with
    | silence kept => exact unheard kept (by rw [result])
  · intro crashed
    rw [crashed] at reports
    generalize result : dispatchException env key type context server = outcome at reports
    cases reports with
    | crash kept => exact unheard kept (by rw [result])

theorem Tells.found (stops : type.isArch = true ∨ type = .threadStarting)
    (tells : Tells payload server (handle env (.exception key type context) server).2) :
    key ∈ server.core.exceptionPort.callbacks ∧ finds env context.tid server.core = true := by
  obtain ⟨heard, alive⟩ := tells.reported
  rw [report] at heard alive
  by_cases bound : key ∈ server.core.exceptionPort.callbacks
  · refine ⟨bound, ?_⟩
    rw [if_neg (not_not.mpr bound)] at alive
    by_contra lost
    rw [if_neg lost] at alive
    cases type with
    | gone | unrecognized | threadExiting => simp [ExceptionType.isArch] at stops
    | _ => exact alive rfl
  · rw [if_pos bound] at heard
    exact absurd rfl heard

theorem handle_threadStarting (bound : key ∈ server.core.exceptionPort.callbacks)
    (found : finds env context.tid server.core = true) :
    ∃ halted, Hidden server halted ∧
      (halted.core.thread context.tid).exceptionContext = some context ∧
      handle env (.exception key .threadStarting context) server =
        onThreadStarting env context halted := by
  obtain ⟨thread, core, lookup, kept⟩ := exceptionThread_quiet env context.tid server.core
  rw [finds, lookup] at found
  cases thread with
  | none => exact absurd found Bool.false_ne_true
  | some tid =>
      obtain ⟨rfl, _⟩ := exceptionThread_found lookup
      obtain ⟨halted, ran, _, recorded, _⟩ :=
        Thread.onException_spec env context.tid .threadStarting context core
      have second := (Thread.onException_quiet env context.tid .threadStarting context).keeps core
      rw [ran] at second
      refine ⟨{ server with core := halted }, ⟨rfl, quiet.trans kept second⟩, recorded, ?_⟩
      rw [handle_exception, if_pos bound, onException, bind_of_some (onServer_of_ran lookup),
        if_neg (by decide)]
      exact bind_of_some (onServer_of_ran ran)

/-- A thread start is reported with `SIGTRAP`, whatever its context says. -/
theorem onThreadStarting_tells (tells : Tells payload server (onThreadStarting env context server).2) :
    Carries 5 payload := by
  rw [onThreadStarting, read_bind] at tells
  cases state : server.core.process.state with
  | new =>
      rw [state] at tells
      exact absurd tells (not_tells_refl payload server)
  | gone =>
      rw [state] at tells
      exact absurd tells (not_tells_refl payload server)
  | running =>
      rw [state] at tells
      rw [queueStopReply_tells tells]
      exact threadStartingReply_carries ..
  | starting =>
      rw [state] at tells
      rcases tells with posted | queued
      · have same := List.append_cancel_left posted
        cases same
        exact threadStartingReply_carries ..
      · exact absurd queued (by simp [onServer])

/-- Any other stop with the signal of the context. -/
theorem onArchitecturalException_tells {tid : Koid}
    (recorded : (server.core.thread tid).exceptionContext = some context)
    (tells : Tells payload server (onArchitecturalException env tid context server).2) :
    env.arch.computeGdbSignal context ≠ .unsupported ∧
      Carries (UInt8.ofInt (env.arch.computeGdbSignal context).number) payload := by
  have signal : Thread.getGdbSignal env.arch (server.core.thread tid) =
      env.arch.computeGdbSignal context := by rw [Thread.getGdbSignal, recorded]
  rw [onArchitecturalException, read_bind, signal] at tells
  by_cases unsupported : env.arch.computeGdbSignal context = .unsupported
  · rw [if_pos unsupported] at tells
    exact absurd tells (not_tells_refl payload server)
  · obtain ⟨gregs, refreshed, ranRefresh, kept⟩ :=
      onServer_hidden (refreshedRegisters_quiet env tid) server
    rw [if_neg unsupported, read_bind, bind_of_some ranRefresh, Hidden.tells_iff kept] at tells
    refine ⟨unsupported, ?_⟩
    rw [queueStopReply_tells tells]
    exact archExceptionReply_carries ..

/-- A stop that the client is told of: the thread keeps its context, and the
signal number is that of the context unless it is a thread start. -/
theorem handle_tells {signo : UInt8} (stops : type.isArch = true ∨ type = .threadStarting)
    (tells : Tells payload server (handle env (.exception key type context) server).2)
    (carries : Carries signo payload) :
    (handle env (.exception key type context) server).2.core.StoppedBy context.tid context ∧
      (type.isArch = true → env.arch.computeGdbSignal context ≠ .unsupported ∧
        signo = UInt8.ofInt (env.arch.computeGdbSignal context).number) ∧
      (type.isArch = false → signo = 5) := by
  obtain ⟨bound, found⟩ := tells.found stops
  cases arch : type.isArch with
  | true =>
      obtain ⟨halted, _, kept, _, recorded, ran⟩ := handle_archException key bound arch found
      rw [ran] at tells ⊢
      obtain ⟨supported, told⟩ := onArchitecturalException_tells recorded (kept.tells_iff.mp tells)
      have acted : (acts env .postsOnly).rel halted _ :=
        onArchitecturalException_acts (fun _ => trivial) context.tid context halted
      refine ⟨?_, fun _ => ⟨supported, carries.unique told⟩, nofun⟩
      exact keepsStop_of_acting id acted fun _ => recorded
  | false =>
      obtain rfl : type = .threadStarting := stops.resolve_left (by rw [arch]; decide)
      obtain ⟨halted, kept, recorded, ran⟩ := handle_threadStarting bound found
      rw [ran] at tells ⊢
      have told := onThreadStarting_tells (kept.tells_iff.mp tells)
      have acted : (acts env .postsOnly).rel halted _ :=
        onThreadStarting_acts (fun _ => trivial) context halted
      refine ⟨?_, nofun, fun _ => carries.unique told⟩
      exact keepsStop_of_acting id acted fun _ => recorded

end Told

/-- The input is no exception of this thread, unless it is dropped. -/
def Spares (tid : Koid) (server : RspServer) : Input → Prop
  | .exception key _ context => key ∈ server.core.exceptionPort.callbacks → context.tid ≠ tid
  | .bytesRead _ | .timeout _ | .queueStopNotification _ _ | .inferior _ => True

instance (tid : Koid) (server : RspServer) : (input : Input) → Decidable (Spares tid server input)
  | .exception .. => inferInstanceAs (Decidable (_ → _))
  | .bytesRead _ | .timeout _ | .queueStopNotification _ _ | .inferior _ =>
      inferInstanceAs (Decidable True)

theorem handle_stoppedBy {env : Env} {tid : Koid} {context : ExceptionContext}
    (server : RspServer) (input : Input) (kept : server.core.StoppedBy tid context)
    (spares : Spares tid server input) :
    (handle env input server).2.core.StoppedBy tid context := by
  have within (held : ¬ input.permits.halts tid) :
      (keepsStop tid context).rel server.core (handle env input server).2.core :=
    handle_within env server (fun act => act.stoppedBy held) fun _ _ => id
  cases input with
  | exception key type other =>
      by_cases bound : key ∈ server.core.exceptionPort.callbacks
      · exact within (fun halts => spares bound halts.1.symm) kept
      · rw [handle_exception, if_neg bound]
        exact kept
  | bytesRead | timeout | queueStopNotification | inferior => exact within id kept

end RspServer

namespace CommandHandler

/-- What the signal check of `Handle_C` comes to when there is no address. -/
theorem handle_C_field {env : Env} {server : Server} {tid : Koid} {context : ExceptionContext}
    {field : Bytes} {number : Int32} (attached : hasInferior server = true)
    (current : server.currentThreadId = some tid)
    (recorded : (server.thread tid).exceptionContext = some context)
    (plain : chr ';' ∉ field) (read : env.ftl.stringToInt .k16 field = some number) :
    handleCommand env (chr 'C' :: field) server =
      (if env.arch.computeGdbSignal context ≠ .unsupported ∧
          (env.arch.computeGdbSignal context).number = number.toInt then resumeThread env tid
        else replyWithError env .perm : Prog Server Bool) server := by
  have whole : field.takeWhile (· ≠ chr ';') = field :=
    List.takeWhile_eq_self_iff.mpr fun byte member =>
      decide_eq_true fun same => plain (same ▸ member)
  have nothing : field.dropWhile (· ≠ chr ';') = [] :=
    List.dropWhile_eq_nil_iff.mpr fun byte member =>
      decide_eq_true fun same => plain (same ▸ member)
  have reduced : handleCommand env (chr 'C' :: field) = handle_C env field := rfl
  have signal : Thread.getGdbSignal env.arch (server.thread tid) =
      env.arch.computeGdbSignal context := by rw [Thread.getGdbSignal, recorded]
  rw [reduced, handle_C, read_bind, attached, if_not_true, read_bind, current]
  dsimp only
  rw [whole, read]
  dsimp only
  rw [read_bind, signal]
  by_cases unsupported : env.arch.computeGdbSignal context = .unsupported
  · rw [if_pos unsupported, if_neg fun both => both.1 unsupported]
  · rw [if_neg unsupported]
    by_cases same : (env.arch.computeGdbSignal context).number = number.toInt
    · rw [if_neg (not_not.mpr same), if_pos nothing, if_pos (And.intro unsupported same)]
    · rw [if_pos same, if_neg fun both => same both.2]

end CommandHandler

namespace GdbSignal

theorem number_byte {signal : GdbSignal} (supported : signal ≠ .unsupported) :
    ((UInt8.ofInt signal.number).toNat : Int) = signal.number := by
  cases signal with
  | unsupported => exact absurd rfl supported
  | _ => rfl

theorem number_eq_five_iff {signal : GdbSignal} : signal.number = 5 ↔ signal = .trap := by
  cases signal <;> decide

end GdbSignal

namespace RspServer

open CommandHandler StopReplyPacket

/-- The client sends back the signal number that it was told last. It is taken
unless the stop was a thread start whose context stands for another signal. -/
theorem reported_signal_accepted_iff (env : Env) (before : RspServer) (key : UInt64)
    (type : ExceptionType) (context : ExceptionContext) (later : List Input) (payload : Bytes)
    (signo : UInt8) (field : Bytes) (number : Int32)
    (stops : type.isArch = true ∨ type = .threadStarting)
    (carries : Carries signo payload) (plain : chr ';' ∉ field)
    (parsed : env.ftl.stringToInt .k16 field = some number)
    (same : number.toInt = signo.toNat) :
    let reported := (handle env (.exception key type context) before).2
    let server := (run (handle env) later reported).2
    Tells payload before reported →
    Along (handle env) (Spares context.tid) reported later →
    hasInferior server.core = true → server.core.currentThreadId = some context.tid →
    (server.core.thread context.tid).state = .stopped →
      handleCommand env (chr 'C' :: field) server.core =
        (if type.isArch = true ∨ env.arch.computeGdbSignal context = .trap then
          resumeThread env context.tid
        else replyWithError env .perm : Prog Server Bool) server.core := by
  intro reported server tells spares attached current stopped
  obtain ⟨kept, ofArch, ofStart⟩ := handle_tells stops tells carries
  have keptThere : server.core.StoppedBy context.tid context :=
    run_invariant_along (fun found input => handle_stoppedBy found input) later reported kept spares
  have recorded := keptThere ⟨Server.currentThreadId_mem current, stopped⟩
  rw [handle_C_field attached current recorded plain parsed, same]
  cases arch : type.isArch with
  | true =>
      obtain ⟨supported, rfl⟩ := ofArch arch
      rw [if_pos ⟨supported, (GdbSignal.number_byte supported).symm⟩, if_pos (Or.inl rfl)]
  | false =>
      obtain rfl := ofStart arch
      by_cases trap : env.arch.computeGdbSignal context = .trap
      · rw [if_pos (Or.inr trap), trap]
        rfl
      · rw [if_neg fun both => trap (GdbSignal.number_eq_five_iff.mp both.2)]
        rw [if_neg fun either => trap (either.resolve_left Bool.false_ne_true)]

end RspServer

namespace Debugserver

open RspServer CommandHandler StopReplyPacket

def pageFault : ExceptionContext := ⟨9, 14, 0⟩

def beforePageFault : RspServer :=
  (run (handle obliging) untilBreakpoint (started obliging program)).2

def afterPageFault : RspServer :=
  (handle obliging (.exception 1 .fatalPageFault pageFault) beforePageFault).2

def pageFaultEvent : Bytes := ((queuedIn afterPageFault.journal).map (·.event)).getLastD []

theorem pageFaultEvent_carries : Carries 11 pageFaultEvent := by decide +kernel

theorem pageFault_told : Tells pageFaultEvent beforePageFault afterPageFault :=
  Or.inr (by decide +kernel)

theorem pageFault_chosen : Along (handle obliging) (Spares pageFault.tid) afterPageFault
    [chooseNine] := by decide +kernel

/-- `C0b` continues a thread that was reported to have got a `SIGSEGV`. -/
theorem pageFault_accepted :
    let server := (run (handle obliging) [chooseNine] afterPageFault).2
    handleCommand obliging (chr 'C' :: ascii "0b") server.core =
      (if ExceptionType.fatalPageFault.isArch = true ∨
          obliging.arch.computeGdbSignal pageFault = .trap then resumeThread obliging 9
        else replyWithError obliging .perm : Prog Server Bool) server.core :=
  reported_signal_accepted_iff obliging beforePageFault 1 .fatalPageFault pageFault [chooseNine]
    pageFaultEvent 11 (ascii "0b") 11 (Or.inl rfl) pageFaultEvent_carries (by decide)
    (by decide +kernel) (by decide) pageFault_told pageFault_chosen (by decide +kernel)
    (by decide +kernel) (by decide +kernel)

/-- The first thread is reported with signal 5 and is not continued by `C05`: a
context without a vector stands for a division by zero. -/
theorem threadStart_rejected :
    let before := (run (handle obliging) (untilFirstThread.take 1) (started obliging program)).2
    let reported := (handle obliging (.exception 1 .threadStarting ⟨9, 0, 0⟩) before).2
    let server := (handle obliging chooseNine reported).2
    reported.core.posted = before.core.posted ++
        [.write false (ascii "T05thread:p4D.9;create:;")] ∧
      server.core.currentThreadId = some 9 ∧ (server.core.thread 9).state = .stopped ∧
      (handleCommand obliging (ascii "C05") server.core).2.posted =
        server.core.posted ++ [.write false (Util.buildErrorPacket obliging.ftl .perm)] := by
  decide +kernel

end Debugserver

end Gdbserver
