import Gdbserver.Server.LifecycleSafety

/-!
# Assertions a packet can break

`ExtractParameters`, `ThreadActionList::Entry`, `Handle_vCont`, `Handle_c` and
`Process::Start` assert what their authors expect of the client. Which packets
break an assertion is decided by the packet and by the state that it finds.
-/

set_option autoImplicit false

namespace Gdbserver

open Logic Prog Frame CommandHandler

/-- The assertions that only a command of the client reaches. -/
def Check.isCommand : Check → Bool
  | .extractParametersNonempty | .entryPid | .vContLive | .vContAttached | .continueAtNotLive
  | .continueNotLive | .startLaunchpad | .startHandle => true
  | .initializeLaunchpad | .initializeHandle | .initializeEportKey | .rawDetachHandle
  | .rawDetachAttached | .clearDetached => false

def eventsBetween (before after : Server) : List Event := after.log.drop before.log.length

def Asserts (concerned : Check → Bool) (before after : Server) : Prop :=
  ∀ check, concerned check = true → .violated check ∉ eventsBetween before after

theorem intact_iff (concerned : Check → Bool) (events : List Event) :
    intact concerned events = true ↔
      ∀ check, concerned check = true → .violated check ∉ events := by
  rw [intact, List.all_eq_true]
  constructor
  · intro all check kind member
    have kept := all _ member
    rw [Event.breaks, kind] at kept
    exact Bool.false_ne_true kept
  · intro none event member
    cases event with
    | violated check =>
        rw [Bool.not_eq_true', Event.breaks, Bool.eq_false_iff]
        exact fun kind => none check kind member
    | moved before after => rfl
    | resume tid => rfl
    | step tid => rfl

theorem Ended.asserts_iff {before after : Server} {posts : List Post} {last : Lifecycle}
    {events : List Event} (ended : Ended before after posts last events)
    (concerned : Check → Bool) :
    Asserts concerned before after ↔ intact concerned events = true := by
  obtain ⟨middle, moved, kept⟩ := ended
  obtain ⟨requests, logged, each⟩ := kept.log
  have log : after.log = before.log ++ (events ++ requests) := by
    rw [logged, moved.log, List.append_assoc]
    rfl
  rw [Asserts, eventsBetween, log, List.drop_left, ← intact_iff, intact_append,
    intact_of_requests concerned each, Bool.and_true]

theorem Lifecycle.intact_enterEvents (lifecycle : Lifecycle) :
    intact Check.isCommand lifecycle.enterEvents = true := by
  simp only [enterEvents, intact_append, intact_asserted, Check.isCommand, Bool.not_false,
    Bool.or_true, Bool.and_self, Bool.true_and]
  split <;> rfl

namespace CommandHandler

/-- Packets other than queries, `c` and `vCont` reach none of these assertions. -/
theorem Change.intact_of_other {env : Env} {server : Server} {packet : Bytes} {last : Lifecycle}
    {events : List Event} (change : Change env server packet last events)
    (query : ∀ arguments, packet ≠ chr 'q' :: arguments)
    (set : ∀ arguments, packet ≠ chr 'Q' :: arguments)
    (resume : ∀ arguments, packet ≠ chr 'c' :: arguments)
    (actions : ∀ arguments, packet ≠ ascii "vCont;" ++ arguments) :
    intact Check.isCommand events = true := by
  cases change with
  | none => rfl
  | query kind =>
      rcases kind with rfl | rfl
      · exact absurd rfl (query _)
      · exact absurd rfl (set _)
  | actions => exact absurd rfl (actions _)
  | resumed outcome => exact absurd rfl (resume _)
  | detached attached =>
      rw [intact_append, intact_asserted]
      exact Bool.and_eq_true_iff.mpr ⟨Bool.or_true _, rfl⟩
  | killed => rfl
  | attached enters outcome =>
      rw [intact_append, Lifecycle.intact_enterEvents, outcome.intact]
      rfl
  | @run _ started _ enters outcome =>
      rw [intact_append, Lifecycle.intact_enterEvents]
      cases started with
      | true => rfl
      | false => rfl

theorem Effect.asserts_of_other {env : Env} {before after : Server} {packet : Bytes}
    {outcome : Option Bool} (effect : Effect env before packet outcome after)
    (query : ∀ arguments, packet ≠ chr 'q' :: arguments)
    (set : ∀ arguments, packet ≠ chr 'Q' :: arguments)
    (resume : ∀ arguments, packet ≠ chr 'c' :: arguments)
    (actions : ∀ arguments, packet ≠ ascii "vCont;" ++ arguments) :
    Asserts Check.isCommand before after := by
  obtain ⟨posts, last, events, ended, change⟩ := effect.change
  exact (ended.asserts_iff _).mpr (change.intact_of_other query set resume actions)

variable (env : Env)

/-- `c` on an attached process without a current thread is meant for one that
has been loaded and not started. -/
def continueSafe (arguments : Bytes) (server : Server) : Bool :=
  if hasInferior server && server.currentThreadId.isNone then
    if arguments.isEmpty then !server.process.isLive && server.process.launchpad
    else (env.ftl.stringToUInt64 arguments).isNone || !server.process.isLive
  else true

/-- `vCont` names processes, and is meant for one that is live. -/
def actionsSafe (arguments : Bytes) (server : Server) : Bool :=
  !server.hasProcess ||
    (vContActions env arguments server).actions.all (fun entry => entry.pid ≠ 0) &&
      (!(vContActions env arguments server).valid || server.process.isLive)

def assertionsHold (packet : Bytes) (server : Server) : Bool :=
  match packet with
  | [] => true
  | command :: arguments =>
      if command = chr 'q' || command = chr 'Q' then !arguments.isEmpty
      else if command = chr 'c' then continueSafe env arguments server
      else if command = chr 'v' && Util.startsWith arguments (ascii "Cont;") then
        actionsSafe env (arguments.drop (ascii "Cont;").length) server
      else true

theorem intact_queryEvents (packet : Bytes) :
    intact Check.isCommand (queryEvents packet) = !packet.isEmpty := by
  cases packet <;> rfl

theorem intact_startInferiorEvents {server : Server} (valid : server.process.handle ≠ 0) :
    intact Check.isCommand (startInferiorEvents server) =
      (!server.process.isLive && server.process.launchpad) := by
  have handle : decide (server.process.lifecycle.handle ≠ 0) = true := decide_eq_true valid
  rw [startInferiorEvents, Lifecycle.startEvents, handle, asserted_true, List.append_nil,
    intact_append, intact_asserted, intact_asserted]
  simp only [Check.isCommand, Bool.not_true, Bool.or_false]
  rfl

theorem intact_continueEvents (arguments : Bytes) {server : Server}
    (sound : server.process.lifecycle.Sound) :
    intact Check.isCommand (continueEvents env arguments server) =
      continueSafe env arguments server := by
  rw [continueEvents, continueSafe, continueStarts]
  cases idle : hasInferior server && server.currentThreadId.isNone with
  | false => rfl
  | true =>
      have attached : server.process.isAttached = true :=
        (Bool.and_eq_true_iff.mp (Bool.and_eq_true_iff.mp idle).1).2
      rw [Bool.true_and, Bool.true_and, if_pos rfl]
      cases arguments.isEmpty with
      | true => exact intact_startInferiorEvents (sound.isAttached_iff.mp attached)
      | false =>
          rw [if_neg Bool.false_ne_true, if_neg Bool.false_ne_true]
          cases env.ftl.stringToUInt64 arguments with
          | none => rfl
          | some address =>
              rw [Option.isSome_some, if_pos rfl, intact_asserted]
              simp [Check.isCommand]

theorem intact_vContEvents (arguments : Bytes) {server : Server}
    (sound : server.process.lifecycle.Sound) :
    intact Check.isCommand (vContEvents env arguments server) = actionsSafe env arguments server := by
  have attached : (server.process.isLive && server.process.isAttached) = server.process.isLive := by
    cases live : server.process.isLive with
    | false => rfl
    | true => exact sound.live live
  rw [vContEvents, actionsSafe]
  cases server.hasProcess with
  | false => rfl
  | true =>
      rw [if_pos rfl, intact_append, intact_asserted]
      cases (vContActions env arguments server).valid with
      | false => simp [Check.isCommand, intact]
      | true => simp [applyActionsEvents, intact_asserted, Check.isCommand, attached]

theorem handle_c_asserts_iff (arguments : Bytes) {server : Server}
    (sound : server.process.lifecycle.Sound) :
    Asserts Check.isCommand server (handle_c env arguments server).2 ↔
      continueSafe env arguments server = true := by
  rw [← intact_continueEvents env arguments sound]
  cases crash : continueCrashes arguments server with
  | true =>
      obtain ⟨after, ran, moved⟩ := handle_c_crash env arguments server crash
      rw [ran, moved.ended.asserts_iff]
  | false =>
      obtain ⟨handled, after, moves, last, ran, outcome, posts, -, ended⟩ :=
        handle_c_spec env arguments server crash
      have silent : intact Check.isCommand moves = true := by
        cases outcome <;> rfl
      rw [ran, ended.asserts_iff, intact_append, silent, Bool.and_true]

theorem handle_vCont_asserts_iff (arguments : Bytes) {server : Server}
    (sound : server.process.lifecycle.Sound) :
    Asserts Check.isCommand server (handle_vCont env arguments server).2 ↔
      actionsSafe env arguments server = true := by
  obtain ⟨handled, after, ran, served⟩ := handle_vCont_served env arguments server
  obtain ⟨posts, -, ended⟩ := served.ended
  rw [ran, ended.asserts_iff, intact_vContEvents env arguments sound]

theorem handleQuery_asserts_iff (general : Bool) (arguments : Bytes) (server : Server) :
    Asserts Check.isCommand server (handleQuery env general arguments server).2 ↔
      (!arguments.isEmpty) = true := by
  rw [← intact_queryEvents]
  cases general with
  | true =>
      obtain ⟨handled, after, ran, sized⟩ := handleQuery_sized env arguments server
      obtain ⟨posts, -, ended⟩ := sized.1.ended
      rw [ran, ended.asserts_iff]
  | false =>
      obtain ⟨handled, after, ran, served⟩ := handleSetQuery_served env arguments server
      obtain ⟨posts, -, ended⟩ := served.ended
      rw [ran, ended.asserts_iff]

theorem handleCommand_asserts_iff (packet : Bytes) {server : Server}
    (sound : server.process.lifecycle.Sound) :
    Asserts Check.isCommand server (handleCommand env packet server).2 ↔
      assertionsHold env packet server = true := by
  have effect := handleCommand_effect env packet server
  cases packet with
  | nil => exact iff_of_true (effect.asserts_of_other nofun nofun nofun nofun) rfl
  | cons command arguments =>
      by_cases query : command = chr 'q'
      · subst query
        exact handleQuery_asserts_iff env true arguments server
      by_cases set : command = chr 'Q'
      · subst set
        exact handleQuery_asserts_iff env false arguments server
      by_cases resume : command = chr 'c'
      · subst resume
        exact handle_c_asserts_iff env arguments sound
      cases actions : decide (command = chr 'v') && Util.startsWith arguments (ascii "Cont;") with
      | true =>
          obtain ⟨letter, begins⟩ := Bool.and_eq_true_iff.mp actions
          rw [of_decide_eq_true letter, Util.startsWith_eq begins]
          exact handle_vCont_asserts_iff env _ sound
      | false =>
          have other : assertionsHold env (command :: arguments) server = true := by
            simp only [assertionsHold, query, set, resume, actions, decide_false, Bool.or_self,
              Bool.false_eq_true, if_false]
          refine iff_of_true (effect.asserts_of_other ?_ ?_ ?_ ?_) other
          · exact fun rest same => query (List.cons.inj same).1
          · exact fun rest same => set (List.cons.inj same).1
          · exact fun rest same => resume (List.cons.inj same).1
          · intro rest same
            obtain ⟨letter, named⟩ := List.cons.inj same
            rw [letter, named] at actions
            exact Bool.false_ne_true actions.symm

end CommandHandler

namespace Debugserver

/-- From start-up on, in every state between two messages. -/
theorem reachable_asserts_iff (env : Env) (config : Config) (inputs : List Input)
    (packet : Bytes) :
    let server := (run (RspServer.handle env) inputs (started env config)).2.core
    Asserts Check.isCommand server (handleCommand env packet server).2 ↔
      assertionsHold env packet server = true := by
  have attachment : Attachment (run (RspServer.handle env) inputs (started env config)).2.core :=
    run_invariant (fun server input attachment =>
      (RspServer.handle_step env input server).attachment attachment) inputs _
      (started_attachment env config)
  exact handleCommand_asserts_iff env packet attachment.sound

/-- Three packets that break assertions: a query without a name, a `vCont` before
the program has been run, and a `c` after its first thread has started. -/
theorem packets_break_assertions :
    eventsBetween (started obliging program).core
        (handleCommand obliging (ascii "q") (started obliging program).core).2 =
      [.violated .extractParametersNonempty] ∧
    eventsBetween (started obliging program).core
        (handleCommand obliging (ascii "vCont;c:1") (started obliging program).core).2 =
      [.violated .entryPid, .violated .vContLive, .violated .vContAttached] ∧
    eventsBetween
        (run (RspServer.handle obliging) untilFirstThread (started obliging program)).2.core
        (handleCommand obliging (ascii "c")
          (run (RspServer.handle obliging) untilFirstThread (started obliging program)).2.core).2 =
      [.violated .continueNotLive, .violated .startLaunchpad] := by
  decide +kernel

end Debugserver

end Gdbserver
