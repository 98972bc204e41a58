import Gdbserver.Server.Attachment

/-!
# What one input does to the notifications

Every input touches the notification queue at most once: a `vStopped` advances
the drain loop, an exception queues an event, a delayed task fires. Everything
else happens to the core of the server and posts no notification.
-/

set_option autoImplicit false

namespace Gdbserver

open Logic Prog Frame CommandHandler

def Post.isNotification : Post → Bool
  | .write isNotification _ => isNotification
  | .ack _ | .quit => false

def Post.Plain (post : Post) : Prop := post.isNotification = false

/-- The payload, if it is one, fits the output buffer. -/
def Post.Fits : Post → Prop
  | .write _ data => Gdbserver.Fits data
  | .ack _ | .quit => True

instance (post : Post) : Decidable post.Fits :=
  match post with
  | .write _ data => inferInstanceAs (Decidable (Gdbserver.Fits data))
  | .ack _ | .quit => isTrue trivial

def Post.Small (post : Post) : Prop := post.Plain ∧ post.Fits

def posting (allowed : Post → Prop) : Frame Server where
  rel before after := ∃ posts, after.posted = before.posted ++ posts ∧ ∀ post ∈ posts, allowed post
  refl server := ⟨[], (List.append_nil _).symm, by simp⟩
  trans := by
    rintro before middle after ⟨posts, first, each⟩ ⟨more, second, eachMore⟩
    refine ⟨posts ++ more, by rw [second, first, List.append_assoc], fun post member => ?_⟩
    exact (List.mem_append.mp member).elim (each post) (eachMore post)

theorem posting_of_posted (allowed : Post → Prop) {before after : Server}
    (same : after.posted = before.posted) : (posting allowed).rel before after :=
  ⟨[], by rw [same, List.append_nil], by simp⟩

theorem Answer.plain {fits : Bytes → Prop} {handled : Bool} {posts : List Post}
    (answer : Answer fits handled posts) : ∀ post ∈ posts, post.Plain := by
  apply answer.cases_posts
  · simp
  · intro bytes _
    simp [Post.Plain, Post.isNotification]
  · intro bytes _
    simp [Post.Plain, Post.isNotification]

theorem CommandHandler.Posts.plain {env : Env} {before after : Server} {packet : Bytes}
    {outcome : Option Bool} {posts : List Post} (kind : Posts env before after packet outcome posts) :
    ∀ post ∈ posts, post.Plain := by
  cases kind with
  | answered answer other => exact answer.plain
  | started run => exact nofun
  | crashed resume crash => exact nofun

theorem handleCommand_plain (env : Env) (packet : Bytes) :
    (posting Post.Plain).Keeps (handleCommand env packet) := by
  intro server
  obtain ⟨posts, posted, kind⟩ := (handleCommand_effect env packet server).posts
  exact ⟨posts, posted, kind.plain⟩

namespace RspServer

theorem postWriteTask_posting (allowed : Post → Prop) {isNotification : Bool} {data : Bytes}
    (permitted : allowed (.write isNotification data)) :
    (posting allowed).Keeps (postWriteTask isNotification data) := fun _ =>
  ⟨[.write isNotification data], rfl, by simpa using permitted⟩

theorem sendAck_posting (allowed : Post → Prop) {verified : Bool}
    (permitted : allowed (.ack verified)) : (posting allowed).Keeps (sendAck verified) := fun _ =>
  ⟨[.ack verified], rfl, by simpa using permitted⟩

theorem routeCommand_plain (env : Env) (packet : Bytes) :
    (posting Post.Plain).Keeps (routeCommand env packet) :=
  Keeps.bind (handleCommand_plain env packet) fun _ =>
    Keeps.ite (fun _ => Keeps.pure) fun _ => postWriteTask_posting Post.Plain rfl

structure Outside (allowed : Post → Prop) (before after : RspServer) : Prop where
  rest : after = { before with core := after.core }
  posted : (posting allowed).rel before.core after.core

theorem Outside.mono {allowed coarser : Post → Prop} {before after : RspServer}
    (kept : Outside allowed before after) (implies : ∀ post, allowed post → coarser post) :
    Outside coarser before after := by
  obtain ⟨posts, posted, each⟩ := kept.posted
  exact ⟨kept.rest, posts, posted, fun post member => implies post (each post member)⟩

def outside (allowed : Post → Prop) : Frame RspServer where
  rel := Outside allowed
  refl server := ⟨rfl, (posting allowed).refl server.core⟩
  trans first second :=
    ⟨by rw [second.rest, first.rest], (posting allowed).trans first.posted second.posted⟩

section Outside

variable {allowed : Post → Prop}

theorem onServer_outside {α : Type} {inner : Prog Server α}
    (kept : (posting allowed).Keeps inner) : (outside allowed).Keeps (onServer inner) :=
  fun server => ⟨rfl, kept server.core⟩

theorem onServer_outside_of_posted {α : Type} {inner : Prog Server α}
    (same : ∀ server, (inner server).2.posted = server.posted) :
    (outside allowed).Keeps (onServer inner) :=
  onServer_outside fun server => posting_of_posted allowed (same server)

theorem onServer_outside_of_quiet {α : Type} {inner : Prog Server α} (runs : quiet.Runs inner) :
    (outside allowed).Keeps (onServer inner) :=
  onServer_outside_of_posted fun server => (runs.keeps server).posted

end Outside

/-- The task that is armed for a pending notification. -/
def TimeoutTask.for (pending : PendingNotification) : TimeoutTask :=
  ⟨pending.address, pending.serial, pending.timeout⟩

/-- An event is queued; the queue is looked at only if nothing is pending. -/
inductive Queues (env : Env) (allowed : Bytes → Prop) (before : RspServer) : RspServer → Prop
  | waits {pending notification : PendingNotification} {event : Bytes} {timeout : Nat}
      (permitted : allowed event) (busy : before.pendingNotification = some pending)
      (new : notification = newNotification env before kStopNotification event timeout) :
      Queues env allowed before { before with
        notifyQueue := before.notifyQueue ++ [notification]
        allocations := before.allocations + 1
        journal := before.journal ++ [.queued notification] }
  | notifies {notification next : PendingNotification} {rest : List PendingNotification}
      {event : Bytes} {timeout : Nat} (permitted : allowed event)
      (free : before.pendingNotification = none)
      (new : notification = newNotification env before kStopNotification event timeout)
      (first : before.notifyQueue ++ [notification] = next :: rest) :
      Queues env allowed before
        { core := before.core.post [.write true (notificationBytes next)]
          notifyQueue := rest
          pendingNotification := some next
          delayedTasks := before.delayedTasks ++ [TimeoutTask.for next]
          allocations := before.allocations + 1
          journal := before.journal ++ [.queued notification, .notified next] }

/-- A `vStopped` arrives. -/
inductive Acks (before : RspServer) : RspServer → Prop
  | ignored (free : before.pendingNotification = none) : Acks before before
  | answered {pending next : PendingNotification} {rest : List PendingNotification}
      (busy : before.pendingNotification = some pending) (first : before.notifyQueue = next :: rest) :
      Acks before { before with
        core := before.core.post [.write false next.event]
        notifyQueue := rest
        journal := before.journal ++ [.acknowledged pending, .answered next] }
  | drained {pending : PendingNotification} (busy : before.pendingNotification = some pending)
      (empty : before.notifyQueue = []) :
      Acks before { before with
        core := before.core.post [.write false (ascii "OK")]
        pendingNotification := none
        journal := before.journal ++ [.acknowledged pending, .drained] }

/-- A delayed task runs. -/
inductive Fires (before : RspServer) (index : Nat) : RspServer → Prop
  | missing (none : before.delayedTasks[index]? = none) : Fires before index before
  | stale {task : TimeoutTask} (due : before.delayedTasks[index]? = some task)
      (other : ∀ pending, before.pendingNotification = some pending →
        pending.address ≠ task.pointer) :
      Fires before index { before with delayedTasks := before.delayedTasks.eraseIdx index }
  | resends {task : TimeoutTask} {pending : PendingNotification}
      (due : before.delayedTasks[index]? = some task)
      (busy : before.pendingNotification = some pending) (same : pending.address = task.pointer) :
      Fires before index { before with
        core := before.core.post [.write true (notificationBytes pending)]
        delayedTasks := before.delayedTasks.eraseIdx index ++ [TimeoutTask.for pending]
        journal := before.journal ++ [.resent task pending] }

theorem Queues.mono {env : Env} {allowed coarser : Bytes → Prop} {before after : RspServer}
    (queues : Queues env allowed before after) (implies : ∀ event, allowed event → coarser event) :
    Queues env coarser before after := by
  cases queues with
  | waits permitted busy new => exact .waits (implies _ permitted) busy new
  | notifies permitted free new first => exact .notifies (implies _ permitted) free new first

theorem queueStopNotification_queues (env : Env) {allowed : Bytes → Prop} {event : Bytes}
    (permitted : allowed event) (timeout : Nat) (server : RspServer) :
    Queues env allowed server (queueStopNotification env event timeout server).2 := by
  have reduced : queueStopNotification env event timeout server =
      (tryPostNextNotification >>= fun _ => pure ()) { server with
        notifyQueue := server.notifyQueue ++
          [newNotification env server kStopNotification event timeout]
        allocations := server.allocations + 1
        journal := server.journal ++
          [.queued (newNotification env server kStopNotification event timeout)] } := rfl
  cases busy : server.pendingNotification with
  | some pending =>
      rw [reduced, tryPostNextNotification]
      simp only [bind_assoc_apply, read_bind, id, busy, pure_bind_apply, pure_apply]
      rw [← busy]
      exact .waits permitted busy rfl
  | none =>
      rw [reduced, tryPostNextNotification]
      cases first : server.notifyQueue ++
          [newNotification env server kStopNotification event timeout] with
      | nil => exact absurd first (by simp)
      | cons next rest =>
          simp only [bind_assoc_apply, read_bind, id, busy, note, modify_bind, List.append_assoc]
          exact .notifies permitted busy rfl first

theorem onStopAck_acks (server : RspServer) : Acks server (onStopAck server).2 := by
  cases busy : server.pendingNotification with
  | none =>
      simp only [onStopAck, read_bind, id, busy]
      exact .ignored busy
  | some pending =>
      cases first : server.notifyQueue with
      | cons next rest =>
          simp only [onStopAck, read_bind, id, busy, first, note, modify_bind, List.append_assoc]
          rw [← busy]
          exact .answered busy first
      | nil =>
          simp only [onStopAck, read_bind, id, busy, first, note, modify_bind, List.append_assoc]
          rw [← first]
          exact .drained busy first

theorem onTimeout_fires (index : Nat) (server : RspServer) :
    Fires server index (onTimeout index server).2 := by
  cases due : server.delayedTasks[index]? with
  | none =>
      simp only [onTimeout, read_bind, due]
      exact .missing due
  | some task =>
      have reduced : onTimeout index server = timeoutHandler task
          { server with delayedTasks := server.delayedTasks.eraseIdx index } := by
        simp only [onTimeout, read_bind, due, modify_bind]
      cases busy : server.pendingNotification with
      | none =>
          rw [reduced]
          simp only [timeoutHandler, read_bind, busy]
          rw [← busy]
          exact .stale due fun pending found => by rw [busy] at found; cases found
      | some pending =>
          rw [reduced]
          simp only [timeoutHandler, read_bind, busy]
          rw [← busy]
          split
          · rename_i other
            refine .stale due fun current found => ?_
            rw [busy] at found
            cases found
            exact other
          · rename_i same
            exact .resends due busy (not_not.mp same)

theorem onBytesRead_acks (env : Env) (bytes : Bytes) :
    (outside Post.Plain).AtMostOnce Acks (onBytesRead env bytes) := by
  refine AtMostOnce.ite (fun _ => Keeps.pure.atMostOnce) fun _ => ?_
  split
  · exact (onServer_outside (sendAck_posting Post.Plain rfl)).atMostOnce
  · exact AtMostOnce.after (onServer_outside (sendAck_posting Post.Plain rfl)) fun _ =>
      AtMostOnce.ite (fun _ => AtMostOnce.act onStopAck_acks) fun _ =>
        (onServer_outside (routeCommand_plain env _)).atMostOnce

theorem ShortEvent.fits {event : Bytes} (short : ShortEvent event) : Gdbserver.Fits event :=
  Nat.lt_of_le_of_lt (Nat.add_le_add_right short 4) (by decide)

theorem setState_posted (state : ProcessState) (server : Server) :
    (Process.setState state server).2.posted = server.posted := rfl

theorem onThreadStarting_queues (env : Env) (context : ExceptionContext) :
    (outside Post.Small).AtMostOnce (Queues env ShortEvent) (onThreadStarting env context) := by
  refine AtMostOnce.after Keeps.read fun process => ?_
  cases process.state with
  | starting =>
      have short := threadStartingReply_short env process.id context.tid
      exact (onServer_outside (Keeps.bind (postWriteTask_posting Post.Small ⟨rfl, short.fits⟩) fun _ server =>
        posting_of_posted _ (setState_posted .running server))).atMostOnce
  | running =>
      exact AtMostOnce.act
        (queueStopNotification_queues env (threadStartingReply_short env process.id context.tid) _)
  | new => exact Keeps.pure.atMostOnce
  | gone => exact Keeps.pure.atMostOnce

theorem onProcessExit_queues (env : Env) : (outside Post.Small).AtMostOnce (Queues env ShortEvent) (onProcessExit env) :=
  AtMostOnce.after (onServer_outside_of_quiet (Server.setCurrentThread_quiet none)) fun _ =>
    AtMostOnce.after (onServer_outside_of_quiet (Process.exitCode_quiet env)) fun exitCode =>
      AtMostOnce.act (queueStopNotification_queues env (processExitReply_short exitCode) _)

theorem clear_posted (server : Server) : (Process.clear server).2.posted = server.posted := by
  obtain ⟨after, ran, moved⟩ := Process.clear_spec server
  rw [ran]
  exact moved.posted

theorem detach_posted (server : Server) : (Process.detach server).2.posted = server.posted := by
  cases attached : server.process.isAttached with
  | true =>
      obtain ⟨after, ran, moved⟩ := Process.detach_spec server attached
      rw [ran]
      exact moved.posted
  | false => rw [Process.detach_of_not_attached server attached]

theorem onGone_queues (env : Env) : (outside Post.Small).AtMostOnce (Queues env ShortEvent) (onGone env) :=
  AtMostOnce.after (onServer_outside_of_posted (setState_posted .gone)) fun _ =>
    AtMostOnce.before (onProcessExit_queues env) fun _ =>
      Keeps.bind (onServer_outside_of_posted detach_posted) fun _ =>
        Keeps.ite (fun _ => Keeps.pure) fun _ => onServer_outside_of_posted clear_posted

theorem onThreadExiting_queues (env : Env) (tid : Koid) :
    (outside Post.Small).AtMostOnce (Queues env ShortEvent) (onThreadExiting env tid) :=
  AtMostOnce.after Keeps.read fun processId =>
    AtMostOnce.before (AtMostOnce.act
      (queueStopNotification_queues env (threadExitingReply_short env processId tid) _)) fun _ =>
      onServer_outside_of_quiet (Thread.resumeForExit_quiet env tid)

theorem onArchException_queues (env : Env) (tid : Koid) (type : ExceptionType)
    (context : ExceptionContext) :
    (outside Post.Small).AtMostOnce (Queues env ShortEvent) (onArchException env tid type context) :=
  AtMostOnce.after (onServer_outside_of_quiet (watchDynamicLinker_quiet env tid type)) fun _ =>
    AtMostOnce.after (onServer_outside_of_quiet (Thread.onException_quiet env tid type context))
      fun _ => AtMostOnce.after Keeps.read fun _ =>
        AtMostOnce.ite (fun _ => Keeps.pure.atMostOnce) fun _ => AtMostOnce.after Keeps.read fun _ =>
          AtMostOnce.after (onServer_outside_of_quiet (refreshedRegisters_quiet env tid)) fun _ =>
            AtMostOnce.act
              (queueStopNotification_queues env (archExceptionReply_short env _ _ _ _) _)

theorem dispatchException_queues (env : Env) (key : UInt64) (type : ExceptionType)
    (context : ExceptionContext) :
    (outside Post.Small).AtMostOnce (Queues env ShortEvent) (dispatchException env key type context) := by
  refine AtMostOnce.after Keeps.read fun _ => AtMostOnce.ite (fun _ => ?_)
    fun _ => Keeps.pure.atMostOnce
  refine AtMostOnce.after (onServer_outside_of_quiet (exceptionThread_quiet env context.tid))
    fun found => AtMostOnce.ite (fun _ => ?_) fun _ => ?_
  · cases found with
    | none => exact Keeps.stop.atMostOnce
    | some tid => exact onArchException_queues env tid type context
  · cases type with
    | threadStarting =>
        cases found with
        | none => exact Keeps.stop.atMostOnce
        | some tid =>
            exact AtMostOnce.after
              (onServer_outside_of_quiet (Thread.onException_quiet env tid _ context))
              fun _ => onThreadStarting_queues env context
    | threadExiting =>
        cases found with
        | none => exact Keeps.stop.atMostOnce
        | some tid =>
            exact AtMostOnce.after
              (onServer_outside_of_quiet (Thread.onException_quiet env tid _ context))
              fun _ => onThreadExiting_queues env tid
    | gone => exact onGone_queues env
    | general | fatalPageFault | undefinedInstruction | swBreakpoint | hwBreakpoint
    | unrecognized => exact Keeps.pure.atMostOnce

end RspServer

def Input.mayQueue : Input → Bool
  | .exception _ _ _ | .queueStopNotification _ _ => true
  | .bytesRead _ | .timeout _ | .inferior _ => false

namespace RspServer

inductive Touches (env : Env) (before after : RspServer) : Input → Prop
  | nothing {input : Input} (quiet : ∀ index, input ≠ .timeout index)
      (kept : Outside Post.Plain before after) : Touches env before after input
  | queues {input : Input} {first last : RspServer} (may : input.mayQueue = true)
      (head : Outside Post.Plain before first) (queued : Queues env (fun _ => True) first last)
      (tail : Outside Post.Plain last after) : Touches env before after input
  | acks {bytes : Bytes} {first last : RspServer} (head : Outside Post.Plain before first)
      (acked : Acks first last) (tail : Outside Post.Plain last after) :
      Touches env before after (.bytesRead bytes)
  | fires {index : Nat} (fired : Fires before index after) :
      Touches env before after (.timeout index)

theorem handle_touches (env : Env) (input : Input) (server : RspServer) :
    Touches env server (handle env input server).2 input := by
  cases input with
  | bytesRead bytes =>
      rcases onBytesRead_acks env bytes server with kept | ⟨first, last, head, acked, tail⟩
      · exact .nothing (fun _ => nofun) kept
      · exact .acks head acked tail
  | exception key type context =>
      rcases dispatchException_queues env key type context server with
        kept | ⟨first, last, head, queued, tail⟩
      · exact .nothing (fun _ => nofun) (kept.mono fun _ => And.left)
      · exact .queues rfl (head.mono fun _ => And.left) (queued.mono fun _ _ => trivial)
          (tail.mono fun _ => And.left)
  | timeout index => exact .fires (onTimeout_fires index server)
  | queueStopNotification event timeout =>
      exact .queues rfl ((outside Post.Plain).refl server)
        (queueStopNotification_queues env trivial timeout server) ((outside Post.Plain).refl _)
  | inferior kernel =>
      refine .nothing (fun _ => nofun) ?_
      exact onServer_outside_of_posted (fun _ => rfl) server

end RspServer

end Gdbserver
