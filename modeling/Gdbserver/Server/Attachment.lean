import Gdbserver.Server.DebugserverProperties

/-!
# The attachment invariant

The handle and the exception port key come and go together, a live process is
attached, and the state of the process moves in the intended directions only,
whatever the client, the kernel and the inferior do.
-/

set_option autoImplicit false

namespace Gdbserver

open Logic Prog Frame CommandHandler

structure Lifecycle.Sound (lifecycle : Lifecycle) : Prop where
  handle : lifecycle.handle ≠ 0 ↔ lifecycle.eportKey ≠ 0
  live : lifecycle.isLive = true → lifecycle.isAttached = true

namespace Lifecycle.Sound

variable {lifecycle : Lifecycle}

theorem detached_cleared (lifecycle : Lifecycle) : lifecycle.detached.cleared.Sound :=
  ⟨iff_of_false (fun valid => valid rfl) fun bound => bound rfl,
    fun live => absurd live Bool.false_ne_true⟩

theorem isAttached_iff (sound : lifecycle.Sound) :
    lifecycle.isAttached = true ↔ lifecycle.handle ≠ 0 := by
  rw [sound.handle, isAttached, decide_eq_true_iff]

theorem of_new (sound : lifecycle.Sound) {other : Lifecycle} (handle : other.handle = lifecycle.handle)
    (key : other.eportKey = lifecycle.eportKey) (new : other.state = .new) : other.Sound := by
  refine ⟨by rw [handle, key]; exact sound.handle, fun live => ?_⟩
  rw [isLive, new] at live
  exact absurd live (by decide)

theorem of_attached {other : Lifecycle} (handle : other.handle ≠ 0) (key : other.eportKey ≠ 0) :
    other.Sound :=
  ⟨iff_of_true handle key, fun _ => decide_eq_true key⟩

theorem entered (sound : lifecycle.Sound) : lifecycle.entered.Sound := by
  by_cases gone : lifecycle.state = .gone
  · rw [entered_of_gone gone]
    exact sound.of_new rfl rfl rfl
  · rw [entered_of_not_gone gone]
    exact sound

end Lifecycle.Sound

theorem replay_enterEvents (lifecycle : Lifecycle) :
    replay lifecycle.state lifecycle.enterEvents = some lifecycle.entered.state := by
  rw [Lifecycle.enterEvents, List.append_assoc, List.append_assoc, replay_asserted_append,
    replay_asserted_append, replay_asserted_append]
  by_cases gone : lifecycle.state = .gone
  · rw [if_pos gone, Lifecycle.entered_of_gone gone, gone]
    rfl
  · rw [if_neg gone, Lifecycle.entered_of_not_gone gone]
    rfl

theorem AttachOutcome.sound {granted : Bool} {start last : Lifecycle} {events : List Event}
    (outcome : AttachOutcome granted start last events) (sound : start.Sound)
    (new : start.state = .new) :
    last.Sound ∧ replay start.state events = some last.state := by
  unfold AttachOutcome at outcome
  split at outcome
  · obtain ⟨handle, key, valid, nonzero, result⟩ := outcome
    split at result
    · obtain ⟨same, moved⟩ := result
      rw [same, moved, new]
      exact ⟨.of_attached valid nonzero, rfl⟩
    · obtain ⟨same, none⟩ := result
      rw [same, none]
      exact ⟨.of_attached valid nonzero, rfl⟩
  · obtain ⟨handle, kept, same, none⟩ := outcome
    rw [same, none]
    refine ⟨?_, rfl⟩
    rcases kept with unchanged | ⟨free, closed⟩
    · exact sound.of_new unchanged rfl new
    · have unbound : start.handle = 0 := by
        by_contra valid
        exact Bool.false_ne_true (free.symm.trans (sound.isAttached_iff.mpr valid))
      exact sound.of_new (closed.trans unbound.symm) rfl new

namespace CommandHandler

theorem LaunchOutcome.sound {granted starts started : Bool} {start last : Lifecycle}
    (outcome : LaunchOutcome granted starts start started last) (sound : start.Sound)
    (new : start.state = .new) :
    last.Sound ∧ last.state = if started then .starting else .new := by
  cases outcome with
  | notAttached failed attach =>
      refine ⟨(attach.sound sound new).1, ?_⟩
      rw [AttachOutcome, failed] at attach
      obtain ⟨handle, -, same, -⟩ := attach
      rw [same]
      exact new
  | notStarted attached failed valid nonzero => exact ⟨.of_attached valid nonzero, new⟩
  | started attached succeeded valid nonzero => exact ⟨.of_attached valid nonzero, rfl⟩

theorem RunOutcome.sound {loads granted starts started : Bool} {start last : Lifecycle}
    (outcome : RunOutcome loads granted starts start started last) (sound : start.Sound)
    (new : start.state = .new) :
    last.Sound ∧ last.state = if started then .starting else .new := by
  cases outcome with
  | notLoaded failed none => exact ⟨sound.of_new rfl rfl new, new⟩
  | launched loaded launch => exact launch.sound (sound.of_new rfl rfl new) new

theorem ContinueOutcome.sound {start last : Lifecycle} {moves : List Event}
    (outcome : ContinueOutcome start moves last) (sound : start.Sound) :
    last.Sound ∧ replay start.state moves = some last.state := by
  cases outcome with
  | refused => exact ⟨sound, rfl⟩
  | failed => exact ⟨⟨sound.handle, sound.live⟩, rfl⟩
  | started new attached =>
      rw [new]
      exact ⟨⟨sound.handle, fun _ => attached⟩, rfl⟩

theorem replay_continueEvents (env : Env) (packet : Bytes) (server : Server) (state : ProcessState) :
    replay state (continueEvents env packet server) = some state := by
  unfold continueEvents startInferiorEvents Lifecycle.startEvents
  split
  · rw [replay_asserted_append, replay_asserted_append, replay_asserted]
  · split
    · exact replay_asserted _ _ _
    · rfl

theorem replay_vContEvents (env : Env) (packet : Bytes) (server : Server) (state : ProcessState) :
    replay state (vContEvents env packet server) = some state := by
  unfold vContEvents applyActionsEvents
  split
  · rw [replay_asserted_append]
    split
    · rw [replay_asserted_append, replay_asserted]
    · rfl
  · rfl

theorem Change.sound {env : Env} {server : Server} {packet : Bytes} {last : Lifecycle}
    {events : List Event} (change : Change env server packet last events)
    (sound : server.process.lifecycle.Sound) :
    last.Sound ∧ replay server.process.state events = some last.state := by
  have entered (dead : server.process.isLive = false) (more : List Event) :
      server.process.lifecycle.entered.Sound ∧ server.process.lifecycle.entered.state = .new ∧
        replay server.process.state (server.process.lifecycle.enterEvents ++ more) =
          replay .new more := by
    have new : server.process.lifecycle.entered.state = .new := Lifecycle.entered_state dead
    have replayed : replay server.process.state server.process.lifecycle.enterEvents = some .new :=
      new ▸ replay_enterEvents server.process.lifecycle
    refine ⟨sound.entered, new, ?_⟩
    rw [replay_append, replayed, Option.bind_some]
  cases change with
  | none => exact ⟨sound, rfl⟩
  | query kind => exact ⟨sound, replay_asserted _ _ _⟩
  | actions => exact ⟨sound, replay_vContEvents env _ server _⟩
  | resumed outcome =>
      rw [replay_append, replay_continueEvents, Option.bind_some]
      exact outcome.sound sound
  | detached attached =>
      rw [replay_asserted_append]
      exact ⟨.detached_cleared _, replay_gone _⟩
  | killed => exact ⟨.detached_cleared _, replay_gone _⟩
  | attached enters outcome =>
      obtain ⟨soundThere, new, replayed⟩ := entered (vAttachPid_dead enters) _
      obtain ⟨soundLast, moved⟩ := outcome.sound (soundThere.of_new rfl rfl new) new
      exact ⟨soundLast, replayed.trans (new ▸ moved)⟩
  | @run _ started _ enters outcome =>
      obtain ⟨soundThere, new, replayed⟩ := entered (vRunEnters_dead enters) _
      obtain ⟨soundLast, state⟩ := outcome.sound (soundThere.of_new rfl rfl new) new
      rw [replayed, state]
      cases started with
      | true => exact ⟨soundLast, rfl⟩
      | false => exact ⟨soundLast, rfl⟩

end CommandHandler

/-- What holds of the server between any two operations. -/
structure Attachment (server : Server) : Prop where
  sound : server.process.lifecycle.Sound
  moves : replay .new server.log = some server.process.state

theorem Attachment.lands {before after : Server} {last : Lifecycle} {events : List Event}
    (attachment : Attachment before) (lands : Lands before after last events)
    (keeps : last.Sound ∧ replay before.process.state events = some last.state) :
    Attachment after := by
  obtain ⟨sound, moves⟩ := keeps
  refine ⟨lands.lifecycle ▸ sound, ?_⟩
  calc replay .new after.log
      = replay .new (history before.log ++ history events) := by
        rw [← replay_history, lands.history]
    _ = some last.state := by
        rw [replay_append, replay_history, attachment.moves, Option.bind_some, replay_history, moves]
    _ = some after.process.state := by rw [← lands.lifecycle]; rfl

theorem Attachment.settled {before after : Server} (attachment : Attachment before)
    (kept : settled.rel before after) : Attachment after :=
  attachment.lands kept ⟨attachment.sound, rfl⟩

theorem CommandHandler.Effect.attachment {env : Env} {before after : Server} {packet : Bytes}
    {outcome : Option Bool} (effect : Effect env before packet outcome after)
    (attachment : Attachment before) : Attachment after := by
  obtain ⟨posts, last, events, ended, change⟩ := effect.change
  exact attachment.lands ended.lands (change.sound attachment.sound)

theorem RspServer.Transition.attachment {before after : Server}
    (transition : Transition before after) (attachment : Attachment before) : Attachment after := by
  have sound := attachment.sound
  cases transition with
  | none kept => exact attachment.settled kept
  | running starting lands =>
      refine attachment.lands lands ⟨⟨sound.handle, fun _ => sound.live ?_⟩, ?_⟩
      · rw [Process.lifecycle_isLive, Process.isLive, starting]
        rfl
      · rw [starting]
        rfl
  | exited attached lands =>
      refine attachment.lands lands ⟨.detached_cleared _, ?_⟩
      rw [replay_gone_cons, replay_asserted_append]
      rfl
  | vanished free lands =>
      refine attachment.lands lands ⟨⟨sound.handle, fun live => absurd live Bool.false_ne_true⟩, ?_⟩
      rw [replay_gone_cons]
      rfl

theorem RspServer.Step.attachment {env : Env} {before after : Server} {input : Input}
    (step : Step env before input after) (attachment : Attachment before) : Attachment after := by
  cases step with
  | idle quiet kept => exact attachment.settled kept
  | command accepted tail =>
      have acked : Attachment (before.post [.ack true]) := ⟨attachment.sound, attachment.moves⟩
      exact ((handleCommand_effect env _ _).attachment acked).settled tail
  | exception transition => exact transition.attachment attachment

/-- A message of the loop, or a call of `Process::OnException` at any time. -/
inductive Operation where
  | message (input : Input)
  | exception (type : ExceptionType) (context : ExceptionContext)

def RspServer.operate (env : Env) : Operation → Prog RspServer Unit
  | .message input => handle env input
  | .exception type context => onException env type context

namespace Debugserver

/-- The server when the message loop is entered, or start-up has failed. -/
def started (env : Env) (config : Config) : RspServer :=
  ⟨(startUp env config (newServer config)).2, [], none, [], 0, []⟩

theorem newLifecycle_sound : newLifecycle.Sound :=
  ⟨iff_of_false (fun valid => valid rfl) fun bound => bound rfl,
    fun live => absurd live Bool.false_ne_true⟩

theorem StartOutcome.sound {env : Env} {config : Config} {last : Lifecycle} {events : List Event}
    (outcome : StartOutcome env config last events) :
    last.Sound ∧ replay .new events = some last.state := by
  have attachingSound : (attaching config).Sound := newLifecycle_sound.of_new rfl rfl rfl
  cases outcome with
  | program none => exact ⟨newLifecycle_sound, rfl⟩
  | noPort pid failed => exact ⟨attachingSound, rfl⟩
  | attach pid port outcome => exact outcome.sound attachingSound rfl

theorem started_attachment (env : Env) (config : Config) :
    Attachment (started env config).core := by
  obtain ⟨ok, after, last, events, ran, outcome, -, -, members, log⟩ := startUp_spec env config
  obtain ⟨sound, moves⟩ := outcome.sound
  rw [started, ran]
  refine ⟨members ▸ sound, ?_⟩
  rw [log, moves, ← members]
  rfl

/-- From start-up on, in every state between two operations. -/
theorem attachment_invariant (env : Env) (config : Config) (operations : List Operation) :
    Attachment (run (RspServer.operate env) operations (started env config)).2.core := by
  have preserved (server : RspServer) (operation : Operation) (attachment : Attachment server.core) :
      Attachment (RspServer.operate env operation server).2.core := by
    cases operation with
    | message input => exact (RspServer.handle_step env input server).attachment attachment
    | exception type context =>
        exact (RspServer.onException_transition env type context server).attachment attachment
  exact run_invariant preserved operations _ (started_attachment env config)

end Debugserver

end Gdbserver
