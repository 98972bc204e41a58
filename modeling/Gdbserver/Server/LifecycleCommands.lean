import Gdbserver.Server.Replies

/-!
# The commands that change the lifecycle

`c`, `D`, `vAttach`, `vKill` and `vRun`: the members they leave behind, the
events they record and what they post, by the branch they take.
-/

set_option autoImplicit false

namespace Gdbserver

open Logic Prog Frame Contract

/-- A command has moved the process, posted something, and perhaps asked threads
to run since. -/
def Ended (before after : Server) (posts : List Post) (lifecycle : Lifecycle)
    (events : List Event) : Prop :=
  ∃ middle, Moves (before.post posts) middle lifecycle events ∧ Still middle after

theorem Moves.ended {before after : Server} {lifecycle : Lifecycle} {events : List Event}
    (moved : Moves before after lifecycle events) : Ended before after [] lifecycle events :=
  ⟨after, ⟨moved.hasProcess, by rw [moved.posted, Server.post, List.append_nil], moved.lifecycle,
    moved.log⟩, still.refl after⟩

theorem Moves.post {before after : Server} {lifecycle : Lifecycle} {events : List Event}
    (moved : Moves before after lifecycle events) (posts : List Post) :
    Moves (before.post posts) (after.post posts) lifecycle events :=
  ⟨moved.hasProcess, by simp only [Server.post, moved.posted], moved.lifecycle, moved.log⟩

theorem Ended.after {before middle after : Server} {lifecycle last : Lifecycle}
    {events more : List Event} {posts : List Post} (moved : Moves before middle lifecycle events)
    (ended : Ended middle after posts last more) :
    Ended before after posts last (events ++ more) := by
  obtain ⟨reached, second, kept⟩ := ended
  exact ⟨reached, (moved.post posts).trans second, kept⟩

theorem Moves.reply {before middle : Server} {lifecycle : Lifecycle} {events : List Event}
    (moved : Moves before middle lifecycle events) (response : Bytes) :
    ∃ after, CommandHandler.reply response middle = (some true, after) ∧
      Ended before after [.write false response] lifecycle events :=
  ⟨middle.post [.write false response], rfl, middle.post [.write false response],
    moved.post _, still.refl _⟩

/-- One short response if the command was handled. -/
def Concluded (before : Server) (handled : Bool) (after : Server) (lifecycle : Lifecycle)
    (events : List Event) : Prop :=
  ∃ posts, Answer Fits handled posts ∧ Ended before after posts lifecycle events

def Replied (before after : Server) (lifecycle : Lifecycle) (events : List Event) : Prop :=
  Concluded before true after lifecycle events

theorem Served.ended {fits : Bytes → Prop} {before after : Server} {handled : Bool}
    {events : List Event} (served : Served fits (before.observe events) handled after) :
    ∃ posts, Answer fits handled posts ∧
      Ended before after posts before.process.lifecycle events := by
  obtain ⟨posts, answer, kept⟩ := served
  exact ⟨posts, answer, (before.observe events).post posts, ⟨rfl, rfl, rfl, rfl⟩, kept⟩

theorem Served.concluded {before after : Server} {handled : Bool} {events : List Event}
    (served : Served Fits (before.observe events) handled after) :
    Concluded before handled after before.process.lifecycle events := served.ended

theorem Concluded.after {before middle after : Server} {handled : Bool} {lifecycle last : Lifecycle}
    {events more : List Event} (moved : Moves before middle lifecycle events)
    (concluded : Concluded middle handled after last more) :
    Concluded before handled after last (events ++ more) := by
  obtain ⟨posts, answer, ended⟩ := concluded
  exact ⟨posts, answer, Ended.after moved ended⟩

theorem Moves.reply_concluded {before middle : Server} {lifecycle : Lifecycle}
    {events : List Event} (moved : Moves before middle lifecycle events) {response : Bytes}
    (fits : Fits response) :
    ∃ after, CommandHandler.reply response middle = (some true, after) ∧
      Replied before after lifecycle events := by
  obtain ⟨after, ran, ended⟩ := moved.reply response
  exact ⟨after, ran, _, ⟨response, [], rfl, Or.inl rfl, fits⟩, ended⟩

theorem Moves.replyOK {before middle : Server} {lifecycle : Lifecycle} {events : List Event}
    (moved : Moves before middle lifecycle events) :
    ∃ after, CommandHandler.replyOK middle = (some true, after) ∧
      Replied before after lifecycle events :=
  moved.reply_concluded (by decide)

theorem Moves.replyWithError (env : Env) (code : Util.ErrorCode) {before middle : Server}
    {lifecycle : Lifecycle} {events : List Event} (moved : Moves before middle lifecycle events) :
    ∃ after, CommandHandler.replyWithError env code middle = (some true, after) ∧
      Replied before after lifecycle events :=
  moved.reply_concluded (buildErrorPacket_fits env.ftl code)

namespace CommandHandler

variable (env : Env) (packet : Bytes) (server : Server)

theorem refuse_spec (code : Util.ErrorCode) :
    ∃ after, replyWithError env code server = (some true, after) ∧
      Replied server after server.process.lifecycle [] :=
  (Moves.rest server).replyWithError env code

/-- An attached process is let go of, any other is left as it is. -/
def LetGo (before after : Server) : Prop :=
  Replied before after before.process.lifecycle [] ∨
    (before.process.isAttached = true ∧
      Replied before after before.process.lifecycle.detached.cleared
        (asserted .rawDetachHandle (before.process.handle ≠ 0) ++
          [.moved before.process.state .gone]))

theorem detachInferior_spec :
    ∃ after, detachInferior env server = (some true, after) ∧ LetGo server after := by
  cases attached : server.process.isAttached with
  | false =>
      obtain ⟨after, ran, replied⟩ := refuse_spec env server .noent
      simp only [detachInferior, read_bind, attached]
      exact ⟨after, ran, Or.inl replied⟩
  | true =>
      obtain ⟨middle, ran, moved⟩ := Process.detach_spec server attached
      obtain ⟨after, ranReply, replied⟩ := moved.replyOK
      simp only [detachInferior, read_bind, attached]
      exact ⟨after, (bind_of_some ran).trans ranReply, Or.inr ⟨attached, replied⟩⟩

theorem handle_D_spec :
    ∃ after, handle_D env packet server = (some true, after) ∧ LetGo server after := by
  have refused (code : Util.ErrorCode) :
      ∃ after, replyWithError env code server = (some true, after) ∧ LetGo server after := by
    obtain ⟨after, ran, replied⟩ := refuse_spec env server code
    exact ⟨after, ran, Or.inl replied⟩
  simp only [handle_D, read_bind]
  cases server.hasProcess with
  | false => exact refused .perm
  | true =>
      rw [if_not_true]
      split
      · exact detachInferior_spec env server
      · rename_i first rest
        split
        · cases env.ftl.stringToUInt64 rest with
          | none => exact refused .inval
          | some pid =>
              dsimp only
              rw [read_bind]
              split
              · exact refused .inval
              · exact detachInferior_spec env server
        · exact refused .inval

theorem handle_vKill_spec :
    ∃ after, handle_vKill env packet server = (some true, after) ∧
      (Replied server after server.process.lifecycle [] ∨
        (server.process.isLive = true ∧
          Replied server after server.process.lifecycle.detached.cleared
            [.moved server.process.state .gone])) := by
  have refused (code : Util.ErrorCode) {start : Server}
      (moved : Moves server start server.process.lifecycle []) :
      ∃ after, replyWithError env code start = (some true, after) ∧
        (Replied server after server.process.lifecycle [] ∨
          (server.process.isLive = true ∧
            Replied server after server.process.lifecycle.detached.cleared
              [.moved server.process.state .gone])) := by
    obtain ⟨after, ran, replied⟩ := moved.replyWithError env code
    exact ⟨after, ran, Or.inl replied⟩
  simp only [handle_vKill, read_bind]
  cases server.hasProcess with
  | false => exact refused .perm (Moves.rest server)
  | true =>
      rw [if_not_true]
      cases env.ftl.stringToUInt64 packet with
      | none => exact refused .inval (Moves.rest server)
      | some pid =>
          dsimp only
          rw [read_bind]
          split
          · exact refused .inval (Moves.rest server)
          · cases live : server.process.isLive with
            | false =>
                rw [live] at refused
                exact refused .perm (Moves.rest server)
            | true =>
                rw [live] at refused
                rw [if_not_true]
                by_cases killed : env.now .taskKill server = (0 : Int)
                · obtain ⟨middle, ran, moved⟩ := Process.kill_spec env server live killed
                  obtain ⟨after, ranReply, replied⟩ := moved.replyOK
                  exact ⟨after, (bind_of_some ran).trans ranReply, Or.inr ⟨rfl, replied⟩⟩
                · have asked : Moves server (server.asked .taskKill) server.process.lifecycle [] :=
                    ⟨rfl, rfl, rfl, (List.append_nil _).symm⟩
                  obtain ⟨after, ran, replied⟩ := refused .perm asked
                  exact ⟨after,
                    (bind_of_some (Process.kill_of_refused env server live killed)).trans ran, replied⟩

/-- The pid `vAttach` goes on with: the process is there and not live. -/
def vAttachPid : Option Koid :=
  if server.hasProcess && !server.process.isLive then env.ftl.stringToUInt64 packet else none

variable {env packet server} in
theorem vAttachPid_dead {pid : Koid}
    (enters : vAttachPid env packet server = some pid) : server.process.isLive = false := by
  unfold vAttachPid at enters
  split at enters
  · rename_i allowed
    simpa using (Bool.and_eq_true_iff.mp allowed).2
  · cases enters

theorem handle_vAttach_refused (refused : vAttachPid env packet server = none) :
    ∃ after, handle_vAttach env packet server = (some true, after) ∧
      Replied server after server.process.lifecycle [] := by
  simp only [handle_vAttach, read_bind]
  cases has : server.hasProcess with
  | false => exact refuse_spec env server .perm
  | true =>
      rw [if_not_true]
      cases parsed : env.ftl.stringToUInt64 packet with
      | none => exact refuse_spec env server .inval
      | some pid =>
          have live : server.process.isLive = true := by
            simpa [vAttachPid, has, parsed] using refused
          dsimp only
          rw [read_bind, if_pos live]
          exact refuse_spec env server .perm

theorem handle_vAttach_spec {pid : Koid} (enters : vAttachPid env packet server = some pid) :
    ∃ after last events, handle_vAttach env packet server = (some true, after) ∧
      AttachOutcome (Process.attachGranted env server)
        { server.process.lifecycle.entered with attachedRunning := true, id := pid } last events ∧
      Replied server after last (server.process.lifecycle.enterEvents ++ events) := by
  have condition : (server.hasProcess = true ∧ server.process.isLive = false) ∧
      env.ftl.stringToUInt64 packet = some pid := by
    simpa [vAttachPid] using enters
  obtain ⟨⟨has, dead⟩, parsed⟩ := condition
  obtain ⟨entered, ranEnter, ⟨calls, port⟩, first⟩ := Process.initializePid_spec pid server
  obtain ⟨attached, last, events, ran, outcome, second⟩ := Process.attach_outcome env entered
  have same : Process.attachGranted env entered = Process.attachGranted env server :=
    Process.attachGranted_congr env (congrFun calls _) (congrFun calls _) port
  rw [first.lifecycle, same] at outcome
  have both := first.trans second
  have reduced : handle_vAttach env packet server =
      (if !(!entered.process.isAttached && Process.attachGranted env entered) then
        replyWithError env .perm else replyOK) attached := by
    rw [handle_vAttach, read_bind, has, if_not_true, parsed]
    dsimp only
    rw [read_bind, dead, if_neg Bool.false_ne_true, bind_of_some ranEnter, if_not_true,
      bind_of_some ran]
  rw [reduced]
  split
  · obtain ⟨after, ranReply, replied⟩ := both.replyWithError env .perm
    exact ⟨after, last, events, ranReply, outcome, replied⟩
  · obtain ⟨after, ranReply, replied⟩ := both.replyOK
    exact ⟨after, last, events, ranReply, outcome, replied⟩

theorem setArgv_spec :
    ∃ after, setArgv packet server = (some (), after) ∧ Prepares server after ∧
      after.process.lifecycle = server.process.lifecycle := by
  unfold setArgv
  split
  · exact ⟨server, rfl, Prepares.refl server, rfl⟩
  · exact ⟨_, rfl, ⟨rfl, rfl, rfl, rfl, rfl, rfl, rfl, rfl, rfl, rfl, rfl⟩, rfl⟩

/-- `vRun` goes on to `Initialize()`. -/
def vRunEnters : Bool := server.hasProcess && !server.process.isLive

variable {server} in
theorem vRunEnters_dead (enters : vRunEnters server = true) :
    server.process.isLive = false := by
  simpa using (Bool.and_eq_true_iff.mp enters).2

def vRunLoads : Bool := (Process.initializeProgram env (setArgv packet server).2).1 = some true

inductive LaunchOutcome (granted starts : Bool) (start : Lifecycle) : Bool → Lifecycle → Prop
  | notAttached {last : Lifecycle} {events : List Event}
      (failed : (!start.isAttached && granted) = false)
      (attach : AttachOutcome granted start last events) :
      LaunchOutcome granted starts start false last
  | notStarted {handle : Handle} {key : UInt64}
      (attached : (!start.isAttached && granted) = true) (failed : starts = false)
      (valid : handle ≠ 0) (nonzero : key ≠ 0) :
      LaunchOutcome granted starts start false
        { start with launchpad := false, handle := handle, eportKey := key }
  | started {handle : Handle} {key : UInt64}
      (attached : (!start.isAttached && granted) = true) (succeeded : starts = true)
      (valid : handle ≠ 0) (nonzero : key ≠ 0) :
      LaunchOutcome granted starts start true
        { start with launchpad := false, handle := handle, eportKey := key, state := .starting }

/-- How far a `vRun` gets, and the members it leaves behind. -/
inductive RunOutcome (loads granted starts : Bool) (start : Lifecycle) : Bool → Lifecycle → Prop
  | notLoaded {launchpad : Bool} {id : Koid} (failed : loads = false)
      (none : start.launchpad = false → launchpad = false) :
      RunOutcome loads granted starts start false { start with launchpad := launchpad, id := id }
  | launched {id : Koid} {started : Bool} {last : Lifecycle} (loaded : loads = true)
      (launch : LaunchOutcome granted starts { start with launchpad := true, id := id } started last) :
      RunOutcome loads granted starts start started last

def starts : Bool := ¬ env.now .launchpadStart server < (0 : Int)

theorem launch_spec (loaded : server.process.launchpad = true)
    (program : server.process.attachedRunning = false) (new : server.process.state = .new) :
    ∃ after last started, launch env server = (some true, after) ∧
      LaunchOutcome (Process.attachGranted env server) (starts env server)
        server.process.lifecycle started last ∧
      if started then Ended server after [] last [.moved .new .starting]
      else Replied server after last [] := by
  obtain ⟨attached, last, events, ran, outcome, moved⟩ := Process.attach_outcome env server
  rw [launch, bind_of_some ran]
  cases done : !server.process.isAttached && Process.attachGranted env server with
  | false =>
      have none : events = [] := by
        rw [AttachOutcome, Process.lifecycle_isAttached, done] at outcome
        obtain ⟨_, _, _, none⟩ := outcome
        exact none
      subst none
      obtain ⟨after, ranReply, replied⟩ := moved.replyWithError env .perm
      exact ⟨after, last, false, ranReply, .notAttached done outcome, replied⟩
  | true =>
      rw [AttachOutcome, Process.lifecycle_isAttached, done] at outcome
      obtain ⟨handle, key, valid, nonzero, result⟩ := outcome
      rw [if_neg (by rw [Process.lifecycle, program]; exact Bool.false_ne_true)] at result
      obtain ⟨members, none⟩ := result
      subst members none
      -- attaching makes no `launchpad_start` call, so its answer is still to come
      have pending : starts env attached = starts env server := by
        have kept := Process.attach_startPending env server
        rw [ran] at kept
        unfold starts Env.now
        rw [kept]
      have newThere : attached.process.state = .new :=
        (congrArg Lifecycle.state moved.lifecycle).trans new
      have loadedThere : attached.process.launchpad = true :=
        (congrArg Lifecycle.launchpad moved.lifecycle).trans loaded
      have silent : attached.process.lifecycle.startEvents = [] := by
        rw [moved.lifecycle]
        exact Lifecycle.startEvents_of_ready loaded valid
      rw [if_not_true]
      cases succeeds : starts env server with
      | false =>
          have refused : env.now .launchpadStart attached < (0 : Int) := by
            simpa [starts] using pending.trans succeeds
          obtain ⟨failed, ranStart, second⟩ :=
            Process.start_of_refused env attached newThere loadedThere refused
          rw [silent, moved.lifecycle] at second
          obtain ⟨after, ranReply, replied⟩ := (moved.trans second).replyWithError env .perm
          exact ⟨after, _, false, (bind_of_some ranStart).trans ranReply,
            .notStarted done rfl valid nonzero, replied⟩
      | true =>
          have accepted : ¬ env.now .launchpadStart attached < (0 : Int) := by
            simpa [starts] using pending.trans succeeds
          obtain ⟨after, ranStart, second⟩ :=
            Process.start_spec env attached newThere loadedThere accepted
          rw [silent, moved.lifecycle] at second
          exact ⟨after, _, true, bind_of_some ranStart, .started done rfl valid nonzero,
            (moved.trans second).ended⟩

theorem handle_vRun_refused (refused : vRunEnters server = false) :
    ∃ after, handle_vRun env packet server = (some true, after) ∧
      Replied server after server.process.lifecycle [] := by
  rw [handle_vRun, read_bind]
  cases has : server.hasProcess with
  | false => exact refuse_spec env server .perm
  | true =>
      obtain ⟨middle, ran, prepared, same⟩ := setArgv_spec packet server
      have live : middle.process.isLive = true := by
        have before : server.process.isLive = true := by simpa [vRunEnters, has] using refused
        rw [← Process.lifecycle_isLive, same]
        exact before
      rw [if_not_true, bind_of_some ran, read_bind, if_pos live]
      have moved : Moves server middle server.process.lifecycle [] :=
        ⟨prepared.hasProcess, prepared.posted, same, by rw [prepared.log, List.append_nil]⟩
      exact moved.replyWithError env .perm

theorem handle_vRun_spec (enters : vRunEnters server = true) :
    ∃ after last started, handle_vRun env packet server = (some true, after) ∧
      RunOutcome (vRunLoads env packet server) (Process.attachGranted env server)
        (starts env server) { server.process.lifecycle.entered with attachedRunning := false }
        started last ∧
      if started then
        Ended server after [] last
          (server.process.lifecycle.enterEvents ++ [.moved .new .starting])
      else Replied server after last server.process.lifecycle.enterEvents := by
  have condition : server.hasProcess = true ∧ server.process.isLive = false := by
    simpa [vRunEnters] using enters
  obtain ⟨has, dead⟩ := condition
  obtain ⟨named, ranArgv, prepared, same⟩ := setArgv_spec packet server
  have deadThere : named.process.isLive = false := by
    rw [← Process.lifecycle_isLive, same]
    exact dead
  obtain ⟨loaded, ready, launchpad, id, ranInit, granted, answer, moved, success, failure⟩ :=
    Process.initializeProgram_spec env named
  rw [prepared.attachGranted] at granted
  have loads : vRunLoads env packet server = loaded := by
    simp [vRunLoads, ranArgv, ranInit]
  have first : Moves server ready { server.process.lifecycle.entered with
      attachedRunning := false, launchpad := launchpad, id := id }
      server.process.lifecycle.enterEvents := by
    rw [← same]
    exact ⟨moved.hasProcess.trans prepared.hasProcess, moved.posted.trans prepared.posted,
      moved.lifecycle, by rw [moved.log, prepared.log]⟩
  have reduced : handle_vRun env packet server =
      (if !loaded then replyWithError env .perm else launch env) ready := by
    rw [handle_vRun, read_bind, has, if_not_true, bind_of_some ranArgv, read_bind, deadThere,
      if_neg Bool.false_ne_true, bind_of_some ranInit]
  rw [reduced, loads]
  cases loaded with
  | false =>
      obtain ⟨after, ran, replied⟩ := first.replyWithError env .perm
      refine ⟨after, _, false, ran, .notLoaded rfl fun before => failure rfl ?_, replied⟩
      exact (congrArg Lifecycle.launchpad same).trans before
  | true =>
      have there : launchpad = true := success rfl
      subst there
      have newState : ready.process.state = .new :=
        (congrArg Lifecycle.state first.lifecycle).trans (Lifecycle.entered_state dead)
      obtain ⟨after, last, started, ran, outcome, ended⟩ := launch_spec env ready
        (congrArg Lifecycle.launchpad first.lifecycle)
        (congrArg Lifecycle.attachedRunning first.lifecycle) newState
      have starting : starts env ready = starts env server := by
        unfold starts
        rw [answer, Env.now, prepared.startCalls]
        rfl
      rw [first.lifecycle, granted, starting] at outcome
      refine ⟨after, last, started, ran, .launched rfl outcome, ?_⟩
      cases started with
      | true => exact Ended.after first ended
      | false =>
          have concluded := Concluded.after first ended
          rw [List.append_nil] at concluded
          exact concluded

/-- The assertions of `Handle_c` without a current thread and of the `Start` it
goes on to. -/
def startInferiorEvents : List Event :=
  asserted .continueNotLive (!server.process.isLive) ++ server.process.lifecycle.startEvents

/-- How `c` leaves the members when there is no current thread. -/
inductive ContinueOutcome (start : Lifecycle) : List Event → Lifecycle → Prop
  | refused : ContinueOutcome start [] start
  | failed : ContinueOutcome start [] { start with launchpad := false }
  | started (new : start.state = .new) (attached : start.isAttached = true) :
      ContinueOutcome start [.moved .new .starting]
        { start with launchpad := false, state := .starting }

theorem startInferior_spec (attached : server.process.isAttached = true)
    (safe : server.process.state = .new → server.process.launchpad = true) :
    ∃ handled after moves last, startInferior env server = (some handled, after) ∧
      ContinueOutcome server.process.lifecycle moves last ∧
      Concluded server handled after last (startInferiorEvents server ++ moves) := by
  let checked := server.observe (asserted .continueNotLive (!server.process.isLive))
  have first : Moves server checked server.process.lifecycle
      (asserted .continueNotLive (!server.process.isLive)) := ⟨rfl, rfl, rfl, rfl⟩
  have reduced : startInferior env server = (do
      if !(← Process.start env) then replyWithError env .perm
      else do
        let picked ← Process.pickOneThread env
        selectPicked picked
        replyOK : Prog Server Bool) checked := by
    simp only [startInferior, read_bind, dcheck_eq, modify_bind]
    rfl
  have chosen : (serves Fits).Meets (do
      let picked ← Process.pickOneThread env
      selectPicked picked
      replyOK) := by
    refine Meets.bind (Process.pickOneThread_quiet env).still fun picked => ?_
    cases picked with
    | none => exact Meets.bind Runs.pure fun _ => replyOK_serves
    | some tid => exact Meets.bind (Server.setCurrentThread_quiet (some tid)).still fun _ => replyOK_serves
  rw [reduced]
  by_cases new : server.process.state = .new
  · by_cases refused : env.now .launchpadStart server < (0 : Int)
    · obtain ⟨middle, ran, second⟩ := Process.start_of_refused env checked new (safe new) refused
      obtain ⟨after, ranReply, replied⟩ := (first.trans second).replyWithError env .perm
      refine ⟨true, after, [], _, (bind_of_some ran).trans ranReply, .failed, ?_⟩
      rw [List.append_nil]
      exact replied
    · obtain ⟨middle, ran, second⟩ := Process.start_spec env checked new (safe new) refused
      obtain ⟨handled, after, ranReply, served⟩ := chosen middle
      have concluded := Concluded.after (first.trans second) served.observe_nil.concluded
      rw [second.lifecycle, List.append_nil, ← List.append_assoc] at concluded
      exact ⟨handled, after, _, _, (bind_of_some ran).trans ranReply, .started new attached, concluded⟩
  · obtain ⟨middle, ran, second⟩ := Process.start_of_not_new env checked new
    obtain ⟨after, ranReply, replied⟩ := (first.trans second).replyWithError env .perm
    refine ⟨true, after, [], _, (bind_of_some ran).trans ranReply, .refused, ?_⟩
    rw [List.append_nil]
    exact replied

/-- `c` without an address, on an attached process without a current thread. -/
def continueStarts : Bool :=
  hasInferior server && server.currentThreadId.isNone && packet.isEmpty

/-- `launchpad_start` would be given a null pointer. -/
def continueCrashes : Bool :=
  continueStarts packet server && decide (server.process.state = .new) && !server.process.launchpad

def continueEvents : List Event :=
  if continueStarts packet server then startInferiorEvents server
  else if hasInferior server && server.currentThreadId.isNone &&
      (env.ftl.stringToUInt64 packet).isSome then
    asserted .continueAtNotLive (!server.process.isLive)
  else []

/-- A crash records the assertions and posts nothing. -/
theorem handle_c_crash (crash : continueCrashes packet server = true) :
    ∃ after, handle_c env packet server = (none, after) ∧
      Moves server after server.process.lifecycle (continueEvents env packet server) := by
  have condition : (continueStarts packet server = true ∧ server.process.state = .new) ∧
      server.process.launchpad = false := by
    simpa [continueCrashes] using crash
  obtain ⟨⟨starting, new⟩, missing⟩ := condition
  have parts : (hasInferior server = true ∧ server.currentThreadId = none) ∧ packet = [] := by
    simpa [continueStarts] using starting
  obtain ⟨⟨attached, threadless⟩, empty⟩ := parts
  let checked := server.observe (asserted .continueNotLive (!server.process.isLive))
  have first : Moves server checked server.process.lifecycle
      (asserted .continueNotLive (!server.process.isLive)) := ⟨rfl, rfl, rfl, rfl⟩
  obtain ⟨after, ran, second⟩ := Process.start_of_no_launchpad env checked new missing
  refine ⟨after, ?_, ?_⟩
  · rw [handle_c, read_bind, attached, if_not_true, read_bind, if_pos empty, threadless]
    simp only [startInferior, read_bind, dcheck_eq, modify_bind]
    exact bind_of_none ran
  · rw [continueEvents, if_pos starting]
    exact first.trans second

theorem handle_c_spec (safe : continueCrashes packet server = false) :
    ∃ handled after moves last, handle_c env packet server = (some handled, after) ∧
      ContinueOutcome server.process.lifecycle moves last ∧
      Concluded server handled after last (continueEvents env packet server ++ moves) := by
  have served {program : Prog Server Bool} (meets : (serves Fits).Meets program)
      (silent : continueEvents env packet server = []) :
      ∃ handled after moves last, program server = (some handled, after) ∧
        ContinueOutcome server.process.lifecycle moves last ∧
        Concluded server handled after last (continueEvents env packet server ++ moves) := by
    obtain ⟨handled, after, ran, kept⟩ := meets server
    rw [silent]
    exact ⟨handled, after, [], _, ran, .refused, kept.observe_nil.concluded⟩
  rw [handle_c, read_bind]
  cases attached : hasInferior server with
  | false =>
      exact served (replyWithError_serves env .perm) (by simp [continueEvents, continueStarts, attached])
  | true =>
      rw [if_not_true, read_bind]
      cases current : server.currentThreadId with
      | some tid =>
          have silent : continueEvents env packet server = [] := by
            simp [continueEvents, continueStarts, current]
          split
          · exact served (resumeThread_serves env tid) silent
          · cases env.ftl.stringToUInt64 packet with
            | none => exact served (replyWithError_serves env .inval) silent
            | some addr => exact served (continueAt_serves env tid addr) silent
      | none =>
          split
          · rename_i empty
            have starting : continueStarts packet server = true := by
              simp [continueStarts, attached, current, empty]
            have loaded : server.process.state = .new → server.process.launchpad = true := by
              intro new
              simpa [continueCrashes, starting, new] using safe
            rw [continueEvents, if_pos starting]
            exact startInferior_spec env server (Bool.and_eq_true_iff.mp attached).2 loaded
          · rename_i address
            have other : ¬ continueStarts packet server = true := by
              simp [continueStarts, address]
            cases parsed : env.ftl.stringToUInt64 packet with
            | none =>
                refine served (replyWithError_serves env .inval) ?_
                rw [continueEvents, if_neg other, parsed]
                simp
            | some addr =>
                have events : continueEvents env packet server =
                    asserted .continueAtNotLive (!server.process.isLive) := by
                  rw [continueEvents, if_neg other, if_pos (by simp [attached, current, parsed])]
                dsimp only
                rw [read_bind, dcheck_eq, modify_bind, events]
                obtain ⟨handled, after, ran, kept⟩ := replyWithError_serves env .perm
                  (server.observe (asserted .continueAtNotLive (!server.process.isLive)))
                refine ⟨handled, after, [], _, ran, .refused, ?_⟩
                rw [List.append_nil]
                exact kept.concluded

end CommandHandler

end Gdbserver
