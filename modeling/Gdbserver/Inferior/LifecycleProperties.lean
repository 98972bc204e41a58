import Gdbserver.Inferior.Effects

/-!
# The lifecycle operations

One specification for each operation of `process.cc` that changes the
attachment: the members it leaves behind and the events it records, for every
answer of the kernel.
-/

set_option autoImplicit false

namespace Gdbserver

open Logic Prog Frame Contract

/-- The record an assertion leaves: nothing when it holds. -/
def asserted (check : Check) (condition : Bool) : List Event :=
  if condition then [] else [.violated check]

@[simp] theorem asserted_true (check : Check) : asserted check true = [] := rfl

theorem dcheck_eq (check : Check) (condition : Bool) :
    dcheck check condition =
      Prog.modify fun server => { server with log := server.log ++ asserted check condition } := by
  funext server
  cases condition with
  | false => rfl
  | true => simp [dcheck, asserted]

/-- The members and events after an operation. Nothing has been posted. -/
structure Moves (before after : Server) (lifecycle : Lifecycle) (events : List Event) : Prop where
  hasProcess : after.hasProcess = before.hasProcess
  posted : after.posted = before.posted
  lifecycle : after.process.lifecycle = lifecycle
  log : after.log = before.log ++ events

theorem Moves.rest (server : Server) : Moves server server server.process.lifecycle [] :=
  ⟨rfl, rfl, rfl, (List.append_nil _).symm⟩

theorem Moves.trans {first second third : Server} {lifecycle last : Lifecycle}
    {events more : List Event} (head : Moves first second lifecycle events)
    (tail : Moves second third last more) : Moves first third last (events ++ more) :=
  ⟨tail.hasProcess.trans head.hasProcess, tail.posted.trans head.posted, tail.lifecycle,
    by rw [tail.log, head.log, List.append_assoc]⟩

theorem Moves.congr {before after : Server} {lifecycle lifecycle' : Lifecycle}
    {events events' : List Event} (moved : Moves before after lifecycle events)
    (same : lifecycle = lifecycle') (sameEvents : events = events') :
    Moves before after lifecycle' events' := same ▸ sameEvents ▸ moved

namespace Lifecycle

def isLive (lifecycle : Lifecycle) : Bool := lifecycle.state ≠ .new ∧ lifecycle.state ≠ .gone

def isAttached (lifecycle : Lifecycle) : Bool := lifecycle.eportKey ≠ 0

/-- After `RawDetach`. -/
def detached (lifecycle : Lifecycle) : Lifecycle := { lifecycle with handle := 0, eportKey := 0 }

/-- After `Clear`. -/
def cleared (lifecycle : Lifecycle) : Lifecycle :=
  ⟨false, lifecycle.handle, .gone, 0, lifecycle.eportKey, false⟩

/-- After the switch at the start of `Initialize`. -/
def entered (lifecycle : Lifecycle) : Lifecycle :=
  { lifecycle with state := if lifecycle.state = .gone then .new else lifecycle.state }

def enterEvents (lifecycle : Lifecycle) : List Event :=
  asserted .initializeLaunchpad (!lifecycle.launchpad) ++
    asserted .initializeHandle (lifecycle.handle = 0) ++
    asserted .initializeEportKey (lifecycle.eportKey = 0) ++
    if lifecycle.state = .gone then [.moved .gone .new] else []

def rawDetachEvents (lifecycle : Lifecycle) : List Event :=
  asserted .rawDetachHandle (lifecycle.handle ≠ 0) ++
    asserted .rawDetachAttached lifecycle.isAttached

def clearEvents (lifecycle : Lifecycle) : List Event :=
  asserted .clearDetached (!lifecycle.isAttached) ++ [.moved lifecycle.state .gone]

def startEvents (lifecycle : Lifecycle) : List Event :=
  asserted .startLaunchpad lifecycle.launchpad ++ asserted .startHandle (lifecycle.handle ≠ 0)

theorem rawDetachEvents_of_attached {lifecycle : Lifecycle} (attached : lifecycle.isAttached = true) :
    lifecycle.rawDetachEvents = asserted .rawDetachHandle (lifecycle.handle ≠ 0) := by
  rw [rawDetachEvents, attached, asserted_true, List.append_nil]

theorem clearEvents_of_not_attached {lifecycle : Lifecycle} (free : lifecycle.isAttached = false) :
    lifecycle.clearEvents = [.moved lifecycle.state .gone] := by
  rw [clearEvents, free]
  rfl

theorem enterEvents_of_gone {lifecycle : Lifecycle} (gone : lifecycle.state = .gone) :
    lifecycle.enterEvents = asserted .initializeLaunchpad (!lifecycle.launchpad) ++
      asserted .initializeHandle (lifecycle.handle = 0) ++
      asserted .initializeEportKey (lifecycle.eportKey = 0) ++ [.moved .gone .new] := by
  rw [enterEvents, if_pos gone]

theorem enterEvents_of_not_gone {lifecycle : Lifecycle} (other : lifecycle.state ≠ .gone) :
    lifecycle.enterEvents = asserted .initializeLaunchpad (!lifecycle.launchpad) ++
      asserted .initializeHandle (lifecycle.handle = 0) ++
      asserted .initializeEportKey (lifecycle.eportKey = 0) := by
  rw [enterEvents, if_neg other, List.append_nil]

theorem entered_of_gone {lifecycle : Lifecycle} (gone : lifecycle.state = .gone) :
    lifecycle.entered = { lifecycle with state := .new } := by
  rw [entered, if_pos gone]

theorem entered_of_not_gone {lifecycle : Lifecycle} (other : lifecycle.state ≠ .gone) :
    lifecycle.entered = lifecycle := by
  rw [entered, if_neg other]

theorem entered_state {lifecycle : Lifecycle} (dead : lifecycle.isLive = false) :
    lifecycle.entered.state = .new := by
  have states : lifecycle.state ≠ .new → lifecycle.state = .gone := by simpa [isLive] using dead
  by_cases gone : lifecycle.state = .gone
  · rw [entered_of_gone gone]
  · rw [entered_of_not_gone gone]
    exact not_not.mp fun other => gone (states other)

theorem startEvents_of_ready {lifecycle : Lifecycle} (loaded : lifecycle.launchpad = true)
    (valid : lifecycle.handle ≠ 0) : lifecycle.startEvents = [] := by
  rw [startEvents, loaded, decide_eq_true valid]
  rfl

end Lifecycle

@[simp] theorem Process.lifecycle_isLive (process : Process) :
    process.lifecycle.isLive = process.isLive := rfl

@[simp] theorem Process.lifecycle_isAttached (process : Process) :
    process.lifecycle.isAttached = process.isAttached := rfl

namespace Process

theorem setState_spec (newState : ProcessState) (server : Server) :
    ∃ after, setState newState server = (some (), after) ∧
      Moves server after { server.process.lifecycle with state := newState }
        [.moved server.process.state newState] :=
  ⟨_, rfl, rfl, rfl, rfl, rfl⟩

theorem modifyProcess_spec (update : Process → Process) (server : Server) :
    ∃ after, modifyProcess update server = (some (), after) ∧
      Moves server after (update server.process).lifecycle [] :=
  ⟨_, rfl, rfl, rfl, rfl, (List.append_nil _).symm⟩

theorem enterInitialize_spec (server : Server) :
    ∃ after, enterInitialize server = (some (), after) ∧
      (after.calls = server.calls ∧ after.exceptionPort = server.exceptionPort) ∧
      Moves server after server.process.lifecycle.entered server.process.lifecycle.enterEvents := by
  unfold enterInitialize
  simp only [dcheck_eq, read_bind, modify_bind]
  by_cases gone : server.process.state = .gone
  · rw [if_pos gone, Lifecycle.entered_of_gone gone, Lifecycle.enterEvents_of_gone gone]
    refine ⟨_, rfl, ⟨rfl, rfl⟩, rfl, rfl, rfl, ?_⟩
    simp only [← List.append_assoc]
    exact congrArg (fun before => _ ++ [Event.moved before .new]) gone
  · rw [if_neg gone, Lifecycle.entered_of_not_gone gone, Lifecycle.enterEvents_of_not_gone gone]
    refine ⟨_, rfl, ⟨rfl, rfl⟩, rfl, rfl, rfl, ?_⟩
    simp only [← List.append_assoc]
    rfl

theorem initializePid_spec (pid : Koid) (server : Server) :
    ∃ after, initializePid pid server = (some true, after) ∧
      (after.calls = server.calls ∧ after.exceptionPort = server.exceptionPort) ∧
      Moves server after { server.process.lifecycle.entered with attachedRunning := true, id := pid }
        server.process.lifecycle.enterEvents := by
  obtain ⟨entered, ran, same, moved⟩ := enterInitialize_spec server
  rw [initializePid, bind_of_some ran]
  refine ⟨_, rfl, same, moved.hasProcess, moved.posted, ?_, moved.log⟩
  rw [← moved.lifecycle]
  rfl

theorem rawDetach_spec (server : Server) :
    ∃ after, rawDetach server = (some (), after) ∧
      Moves server after server.process.lifecycle.detached
        server.process.lifecycle.rawDetachEvents := by
  unfold rawDetach
  simp only [dcheck_eq, read_bind, modify_bind]
  refine ⟨_, rfl, rfl, rfl, rfl, ?_⟩
  exact List.append_assoc ..

theorem clear_spec (server : Server) :
    ∃ after, clear server = (some (), after) ∧
      Moves server after server.process.lifecycle.cleared server.process.lifecycle.clearEvents := by
  unfold clear
  simp only [dcheck_eq, read_bind, modify_bind]
  refine ⟨_, rfl, rfl, rfl, rfl, ?_⟩
  exact List.append_assoc ..

theorem detach_spec (server : Server) (attached : server.process.isAttached = true) :
    ∃ after, detach server = (some true, after) ∧
      Moves server after server.process.lifecycle.detached.cleared
        (asserted .rawDetachHandle (server.process.handle ≠ 0) ++
          [.moved server.process.state .gone]) := by
  obtain ⟨middle, detached, first⟩ := rawDetach_spec server
  obtain ⟨after, cleared, second⟩ := clear_spec middle
  unfold detach
  simp only [read_bind, attached]
  refine ⟨after, ?_, ?_⟩
  · exact (bind_of_some detached).trans (bind_of_some cleared)
  · have moved := first.trans second
    have needed : server.process.lifecycle.isAttached = true := attached
    rwa [first.lifecycle, Lifecycle.rawDetachEvents_of_attached needed,
      Lifecycle.clearEvents_of_not_attached rfl] at moved

theorem detach_of_not_attached (server : Server) (free : server.process.isAttached = false) :
    detach server = (some false, server) := by
  unfold detach
  simp [free]

theorem kill_of_not_live (env : Env) (server : Server) (dead : server.process.isLive = false) :
    kill env server = (some true, server) := by
  simp [kill, dead]

theorem kill_of_refused (env : Env) (server : Server) (live : server.process.isLive = true)
    (refused : env.now .taskKill server ≠ (0 : Int)) :
    kill env server = (some false, server.asked .taskKill) := by
  simp only [kill, read_bind, live]
  exact (ask_bind ..).trans (by rw [if_pos refused]; rfl)

theorem kill_spec (env : Env) (server : Server) (live : server.process.isLive = true)
    (killed : env.now .taskKill server = (0 : Int)) :
    ∃ after, kill env server = (some true, after) ∧
      Moves server after server.process.lifecycle.detached.cleared
        [.moved server.process.state .gone] := by
  have reduced : kill env server =
      (do unbindExceptionPort; closeDebugHandle; clear; pure true : Prog Server Bool)
        (server.asked .taskKill) := by
    simp only [kill, read_bind, live]
    exact (ask_bind ..).trans (by rw [if_neg (not_not.mpr killed)])
  rw [reduced]
  exact ⟨_, rfl, rfl, rfl, rfl, rfl⟩

theorem start_of_not_new (env : Env) (server : Server) (other : server.process.state ≠ .new) :
    ∃ after, start env server = (some false, after) ∧
      Moves server after server.process.lifecycle server.process.lifecycle.startEvents := by
  simp only [start, dcheck_eq, read_bind, modify_bind, if_pos other]
  exact ⟨_, rfl, rfl, rfl, rfl, List.append_assoc ..⟩

/-- Without a launchpad, starting a new process is a null dereference. -/
theorem start_of_no_launchpad (env : Env) (server : Server) (new : server.process.state = .new)
    (missing : server.process.launchpad = false) :
    ∃ after, start env server = (none, after) ∧
      Moves server after server.process.lifecycle server.process.lifecycle.startEvents := by
  have first : ¬ server.process.state ≠ .new := not_not.mpr new
  have second : (!server.process.launchpad) = true := by rw [missing]; rfl
  simp only [start, dcheck_eq, read_bind, modify_bind, if_neg first, if_pos second]
  exact ⟨_, rfl, rfl, rfl, rfl, List.append_assoc ..⟩

private theorem start_reduced (env : Env) (server : Server) (new : server.process.state = .new)
    (loaded : server.process.launchpad = true) :
    ∃ asked : Server, start env server = (do
        modifyProcess fun process => { process with launchpad := false }
        if env.now .launchpadStart server < (0 : Int) then pure false
        else do
          setState .starting
          pure true : Prog Server Bool) asked ∧
      Moves server asked server.process.lifecycle server.process.lifecycle.startEvents := by
  have first : ¬ server.process.state ≠ .new := not_not.mpr new
  have second : ¬ (!server.process.launchpad) = true := by rw [loaded]; exact Bool.false_ne_true
  simp only [start, dcheck_eq, read_bind, modify_bind, if_neg first, if_neg second]
  exact ⟨_, ask_bind .., rfl, rfl, rfl, List.append_assoc ..⟩

theorem start_of_refused (env : Env) (server : Server) (new : server.process.state = .new)
    (loaded : server.process.launchpad = true)
    (refused : env.now .launchpadStart server < (0 : Int)) :
    ∃ after, start env server = (some false, after) ∧
      Moves server after { server.process.lifecycle with launchpad := false }
        server.process.lifecycle.startEvents := by
  obtain ⟨asked, reduced, moved⟩ := start_reduced env server new loaded
  obtain ⟨after, ran, last⟩ :=
    modifyProcess_spec (fun process => { process with launchpad := false }) asked
  rw [reduced, if_pos refused]
  refine ⟨after, bind_of_some ran, (moved.trans last).congr ?_ (List.append_nil _)⟩
  rw [← moved.lifecycle]
  rfl

theorem start_spec (env : Env) (server : Server) (new : server.process.state = .new)
    (loaded : server.process.launchpad = true)
    (started : ¬ env.now .launchpadStart server < (0 : Int)) :
    ∃ after, start env server = (some true, after) ∧
      Moves server after { server.process.lifecycle with launchpad := false, state := .starting }
        (server.process.lifecycle.startEvents ++ [.moved .new .starting]) := by
  obtain ⟨asked, reduced, moved⟩ := start_reduced env server new loaded
  obtain ⟨unloaded, ran, changed⟩ :=
    modifyProcess_spec (fun process => { process with launchpad := false }) asked
  obtain ⟨after, ranLast, last⟩ := setState_spec .starting unloaded
  have state : unloaded.process.state = .new :=
    (congrArg Lifecycle.state changed.lifecycle).trans
      ((congrArg Lifecycle.state moved.lifecycle).trans new)
  rw [reduced, if_neg started]
  refine ⟨after, (bind_of_some ran).trans (bind_of_some ranLast),
    (moved.trans (changed.trans last)).congr ?_ ?_⟩
  · rw [changed.lifecycle, ← moved.lifecycle]
    rfl
  · rw [state]
    rfl

def handleGranted (env : Env) (server : Server) : Bool :=
  (env.now .processDebugHandle server).1 = 0 ∧ (env.now .processDebugHandle server).2 ≠ 0

/-- The kernel binds the exception port, and there is a key left. -/
def portBound (env : Env) (server : Server) : Bool :=
  server.exceptionPort.keyCounter + 1 ≠ 0 ∧ ¬ env.now .bindExceptionPort server < (0 : Int)

theorem allocDebugHandle_of_refused (env : Env) (server : Server)
    (refused : handleGranted env server = false) :
    allocDebugHandle env server = (some false, server.asked .processDebugHandle) := by
  have condition : (env.now .processDebugHandle server).1 = 0 →
      (env.now .processDebugHandle server).2 = 0 := by
    simpa [handleGranted] using refused
  rw [allocDebugHandle, ask_bind]
  by_cases status : (env.now .processDebugHandle server).1 = 0
  · simp only [status, condition status]
    rfl
  · simp only [ne_eq, status, not_false_eq_true, if_true]
    rfl

theorem allocDebugHandle_spec (env : Env) (server : Server)
    (granted : handleGranted env server = true) :
    ∃ after handle, allocDebugHandle env server = (some true, after) ∧ handle ≠ 0 ∧
      after.exceptionPort = server.exceptionPort ∧
      env.now .bindExceptionPort after = env.now .bindExceptionPort server ∧
      Moves server after { server.process.lifecycle with handle := handle } [] := by
  have condition : (env.now .processDebugHandle server).1 = 0 ∧
      (env.now .processDebugHandle server).2 ≠ 0 := by
    simpa [handleGranted] using granted
  obtain ⟨status, handle⟩ := condition
  have reduced : allocDebugHandle env server =
      (some true, (server.asked .processDebugHandle).setProcess
        { server.process with handle := (env.now .processDebugHandle server).2 }) := by
    rw [allocDebugHandle, ask_bind]
    simp only [status, ne_eq, not_true_eq_false, if_false, if_neg handle]
    rfl
  have other : Call.bindExceptionPort ≠ Call.processDebugHandle := by decide
  exact ⟨_, _, reduced, handle, rfl, Env.now_asked env other server, rfl, rfl, rfl,
    (List.append_nil _).symm⟩

theorem bindExceptionPort_of_refused (env : Env) (server : Server)
    (refused : portBound env server = false) :
    ∃ after, bindExceptionPort env server = (some false, after) ∧
      Moves server after server.process.lifecycle [] := by
  have condition : server.exceptionPort.keyCounter + 1 ≠ 0 →
      env.now .bindExceptionPort server < (0 : Int) := by
    simpa [portBound] using refused
  by_cases wrapped : server.exceptionPort.keyCounter + 1 = 0
  · refine ⟨server, ?_, Moves.rest server⟩
    have none : bind env server = (some 0, server) := by
      simp only [bind, read_bind, if_pos wrapped]
      rfl
    rw [bindExceptionPort, bind_of_some none]
    rfl
  · refine ⟨server.asked .bindExceptionPort, ?_, rfl, rfl, rfl, (List.append_nil _).symm⟩
    have failed : bind env server = (some 0, server.asked .bindExceptionPort) := by
      simp only [bind, read_bind, if_neg wrapped]
      rw [ask_bind, if_pos (condition wrapped)]
      rfl
    rw [bindExceptionPort, bind_of_some failed]
    rfl

/-- Exceptions of the process reach it. -/
def Registered (server : Server) : Prop :=
  server.process.eportKey ∈ server.exceptionPort.callbacks

theorem bindExceptionPort_spec (env : Env) (server : Server)
    (bound : portBound env server = true) :
    ∃ after key, bindExceptionPort env server = (some true, after) ∧ key ≠ 0 ∧
      Registered after ∧
      Moves server after { server.process.lifecycle with eportKey := key } [] := by
  have condition : server.exceptionPort.keyCounter + 1 ≠ 0 ∧
      ¬ env.now .bindExceptionPort server < (0 : Int) := by
    simpa [portBound] using bound
  obtain ⟨key, accepted⟩ := condition
  have granted : bind env server = (some (server.exceptionPort.keyCounter + 1),
      { server.asked .bindExceptionPort with
        exceptionPort := ⟨server.exceptionPort.keyCounter + 1,
          (server.exceptionPort.keyCounter + 1) :: server.exceptionPort.callbacks⟩ }) := by
    simp only [bind, read_bind, if_neg key]
    rw [ask_bind, if_neg accepted]
    rfl
  rw [bindExceptionPort, bind_of_some granted, if_neg key]
  exact ⟨_, _, rfl, key, List.mem_cons_self, rfl, rfl, rfl, (List.append_nil _).symm⟩

/-- `Attach` succeeds on a process that is not attached. -/
def attachGranted (env : Env) (server : Server) : Bool :=
  handleGranted env server && portBound env server

theorem attachGranted_congr (env : Env) {before after : Server}
    (handleCalls : after.calls .processDebugHandle = before.calls .processDebugHandle)
    (bindCalls : after.calls .bindExceptionPort = before.calls .bindExceptionPort)
    (port : after.exceptionPort = before.exceptionPort) :
    attachGranted env after = attachGranted env before := by
  unfold attachGranted handleGranted portBound Env.now
  rw [handleCalls, bindCalls, port]

theorem attach_of_attached (env : Env) (server : Server)
    (attached : server.process.isAttached = true) : attach env server = (some false, server) := by
  simp [attach, attached]

theorem attach_of_refused (env : Env) (server : Server) (free : server.process.isAttached = false)
    (refused : attachGranted env server = false) :
    ∃ after handle, attach env server = (some false, after) ∧
      (handle = server.process.handle ∨ handle = 0) ∧
      Moves server after { server.process.lifecycle with handle := handle } [] := by
  simp only [attach, read_bind, free]
  cases granted : handleGranted env server with
  | false =>
      exact ⟨_, server.process.handle, bind_of_some (allocDebugHandle_of_refused env server granted),
        Or.inl rfl, rfl, rfl, rfl, (List.append_nil _).symm⟩
  | true =>
      obtain ⟨opened, handle, ran, _, port, answer, first⟩ := allocDebugHandle_spec env server granted
      have unbound : portBound env opened = false := by
        rw [attachGranted, granted] at refused
        simpa only [portBound, port, answer, Bool.true_and] using refused
      obtain ⟨failed, ranFailed, second⟩ := bindExceptionPort_of_refused env opened unbound
      obtain ⟨after, ranLast, last⟩ :=
        modifyProcess_spec (fun process => { process with handle := 0 }) failed
      refine ⟨after, 0, (bind_of_some ran).trans ((bind_of_some ranFailed).trans
        (bind_of_some ranLast)), Or.inr rfl, (first.trans (second.trans last)).congr ?_ rfl⟩
      have kept := second.lifecycle.trans first.lifecycle
      rw [show server.process.lifecycle = { failed.process.lifecycle with
        handle := server.process.handle } by rw [kept]; rfl]
      rfl

/-- An attachment to a running process makes it live; one to a program does not. -/
theorem attach_spec (env : Env) (server : Server) (free : server.process.isAttached = false)
    (granted : attachGranted env server = true) :
    ∃ after handle key, attach env server = (some true, after) ∧ handle ≠ 0 ∧ key ≠ 0 ∧
      Registered after ∧
      if server.process.attachedRunning then
        Moves server after
          { server.process.lifecycle with handle := handle, eportKey := key, state := .running }
          [.moved server.process.state .running]
      else
        Moves server after { server.process.lifecycle with handle := handle, eportKey := key } [] := by
  obtain ⟨handleOk, portOk⟩ := Bool.and_eq_true_iff.mp granted
  obtain ⟨opened, handle, ran, valid, port, answer, first⟩ :=
    allocDebugHandle_spec env server handleOk
  have bound : portBound env opened = true := by
    simpa only [portBound, port, answer] using portOk
  obtain ⟨attached, key, ranBound, nonzero, registered, second⟩ :=
    bindExceptionPort_spec env opened bound
  have both := first.trans second
  rw [first.lifecycle] at both
  simp only [attach, read_bind, free]
  cases running : server.process.attachedRunning with
  | false =>
      exact ⟨attached, handle, key, (bind_of_some ran).trans (bind_of_some ranBound), valid, nonzero,
        registered, both⟩
  | true =>
      obtain ⟨moved, ranMoved, third⟩ := setState_spec .running attached
      obtain ⟨after, ranLast, last⟩ :=
        modifyProcess_spec (fun process => { process with threadMapStale := true }) moved
      have state : attached.process.state = server.process.state :=
        congrArg Lifecycle.state both.lifecycle
      refine ⟨after, handle, key, (bind_of_some ran).trans ((bind_of_some ranBound).trans
        ((bind_of_some ranMoved).trans (bind_of_some ranLast))), valid, nonzero, ?_,
        (both.trans (third.trans last)).congr ?_ ?_⟩
      · cases ranMoved
        cases ranLast
        exact registered
      · exact third.lifecycle.trans (by rw [both.lifecycle])
      · rw [state]
        rfl

end Process

/-- How `Attach` leaves the members: as they were when it fails, but for a handle
that may have been closed. -/
def AttachOutcome (granted : Bool) (start : Lifecycle) (last : Lifecycle) (events : List Event) :
    Prop :=
  if !start.isAttached && granted then
    ∃ handle key, handle ≠ 0 ∧ key ≠ 0 ∧
      if start.attachedRunning then
        last = { start with handle := handle, eportKey := key, state := .running } ∧
          events = [.moved start.state .running]
      else last = { start with handle := handle, eportKey := key } ∧ events = []
  else
    ∃ handle, (handle = start.handle ∨ start.isAttached = false ∧ handle = 0) ∧
      last = { start with handle := handle } ∧ events = []

theorem Process.attach_outcome (env : Env) (server : Server) :
    ∃ after last events,
      attach env server =
        (some (!server.process.isAttached && attachGranted env server), after) ∧
      AttachOutcome (attachGranted env server) server.process.lifecycle last events ∧
      Moves server after last events := by
  cases attached : server.process.isAttached with
  | true =>
      have outcome : AttachOutcome (attachGranted env server) server.process.lifecycle
          server.process.lifecycle [] := by
        rw [AttachOutcome, lifecycle_isAttached, attached]
        exact ⟨server.process.handle, Or.inl rfl, rfl, rfl⟩
      exact ⟨server, _, _, attach_of_attached env server attached, outcome, Moves.rest server⟩
  | false =>
      cases granted : attachGranted env server with
      | false =>
          obtain ⟨after, handle, ran, kept, moved⟩ := attach_of_refused env server attached granted
          refine ⟨after, _, _, ran, ?_, moved⟩
          rw [AttachOutcome, lifecycle_isAttached, attached]
          exact ⟨handle, kept.imp (fun same => same) fun closed => ⟨rfl, closed⟩, rfl, rfl⟩
      | true =>
          obtain ⟨after, handle, key, ran, valid, nonzero, _, moved⟩ :=
            attach_spec env server attached granted
          cases running : server.process.attachedRunning with
          | false =>
              rw [running] at moved
              refine ⟨after, _, _, ran, ?_, moved⟩
              rw [AttachOutcome, lifecycle_isAttached, attached]
              refine ⟨handle, key, valid, nonzero, ?_⟩
              rw [if_neg (by rw [lifecycle, running]; exact Bool.false_ne_true)]
              exact ⟨rfl, rfl⟩
          | true =>
              rw [running] at moved
              refine ⟨after, _, _, ran, ?_, moved⟩
              rw [AttachOutcome, lifecycle_isAttached, attached]
              refine ⟨handle, key, valid, nonzero, ?_⟩
              rw [if_pos (by rw [lifecycle, running])]
              exact ⟨rfl, rfl⟩

/-- The call that starts the process has not been made meanwhile. -/
def startPending : Frame Server where
  rel before after := after.calls .launchpadStart = before.calls .launchpadStart
  refl _ := rfl
  trans first second := second.trans first

theorem Process.attach_startPending (env : Env) : startPending.Keeps (attach env) := by
  have asked {call : Call} (other : Call.launchpadStart ≠ call) :
      startPending.Keeps (ask env call) := fun _ => Function.update_of_ne other _ _
  have updated (update : Process → Process) : startPending.Keeps (modifyProcess update) :=
    fun _ => rfl
  have opened : startPending.Keeps (allocDebugHandle env) :=
    Keeps.bind (asked (by decide)) fun _ => Keeps.ite (fun _ => Keeps.pure) fun _ =>
      Keeps.ite (fun _ => Keeps.pure) fun _ => Keeps.bind (updated _) fun _ => Keeps.pure
  have bound : startPending.Keeps (bind env) :=
    Keeps.bind Keeps.read fun _ => Keeps.ite (fun _ => Keeps.pure) fun _ =>
      Keeps.bind (asked (by decide)) fun _ => Keeps.ite (fun _ => Keeps.pure) fun _ =>
        Keeps.bind (Keeps.modify fun _ => rfl) fun _ => Keeps.pure
  have portBound : startPending.Keeps (bindExceptionPort env) :=
    Keeps.bind bound fun _ => Keeps.ite (fun _ => Keeps.pure) fun _ =>
      Keeps.bind (updated _) fun _ => Keeps.pure
  have moved (state : ProcessState) : startPending.Keeps (setState state) := fun _ => rfl
  exact Keeps.bind Keeps.read fun _ => Keeps.ite (fun _ => Keeps.pure) fun _ =>
    Keeps.bind opened fun _ => Keeps.ite (fun _ => Keeps.pure) fun _ =>
      Keeps.bind portBound fun _ => Keeps.ite
        (fun _ => Keeps.bind (updated _) fun _ => Keeps.pure)
        fun _ => Keeps.ite
          (fun _ => Keeps.bind (moved .running) fun _ => Keeps.bind (updated _) fun _ => Keeps.pure)
          fun _ => Keeps.pure

/-- Loading a program changes the launchpad and what is read off it. The calls
that attaching and starting will make are still to come. -/
structure Prepares (before after : Server) : Prop where
  hasProcess : after.hasProcess = before.hasProcess
  posted : after.posted = before.posted
  log : after.log = before.log
  handle : after.process.handle = before.process.handle
  state : after.process.state = before.process.state
  eportKey : after.process.eportKey = before.process.eportKey
  attachedRunning : after.process.attachedRunning = before.process.attachedRunning
  exceptionPort : after.exceptionPort = before.exceptionPort
  debugHandleCalls : after.calls .processDebugHandle = before.calls .processDebugHandle
  bindCalls : after.calls .bindExceptionPort = before.calls .bindExceptionPort
  startCalls : after.calls .launchpadStart = before.calls .launchpadStart

theorem Prepares.refl (server : Server) : Prepares server server :=
  ⟨rfl, rfl, rfl, rfl, rfl, rfl, rfl, rfl, rfl, rfl, rfl⟩

theorem Prepares.trans {before middle after : Server} (first : Prepares before middle)
    (second : Prepares middle after) : Prepares before after :=
  ⟨second.1.trans first.1, second.2.trans first.2, second.3.trans first.3,
    second.4.trans first.4, second.5.trans first.5, second.6.trans first.6,
    second.7.trans first.7, second.8.trans first.8, second.9.trans first.9,
    second.10.trans first.10, second.11.trans first.11⟩

theorem Prepares.moves {before after : Server} (prepared : Prepares before after) :
    Moves before after { before.process.lifecycle with
      launchpad := after.process.launchpad, id := after.process.id } [] := by
  refine ⟨prepared.hasProcess, prepared.posted, ?_, by rw [prepared.log, List.append_nil]⟩
  simp only [Process.lifecycle, prepared.handle, prepared.state, prepared.eportKey,
    prepared.attachedRunning]

theorem Prepares.attachGranted (env : Env) {before after : Server}
    (prepared : Prepares before after) :
    Process.attachGranted env after = Process.attachGranted env before :=
  Process.attachGranted_congr env prepared.debugHandleCalls prepared.bindCalls
    prepared.exceptionPort

/-- Preparing with the launchpad as it is. -/
def asking : Frame Server where
  rel before after := Prepares before after ∧ after.process.launchpad = before.process.launchpad
  refl server := ⟨Prepares.refl server, rfl⟩
  trans first second := ⟨first.1.trans second.1, second.2.trans first.2⟩

/-- The launchpad afterwards, from the result and the launchpad before. -/
def launchpadAfter (expected : Bool → Bool → Bool) : Contract asking Bool where
  spec before ok after :=
    Prepares before after ∧ after.process.launchpad = expected ok before.process.launchpad
  prepend first second := ⟨first.1.trans second.1, by rw [second.2, first.2]⟩

namespace Process

theorem ask_asking {env : Env} {call : Call}
    (other : call ≠ .processDebugHandle ∧ call ≠ .bindExceptionPort ∧ call ≠ .launchpadStart) :
    asking.Runs (ask env call) := fun _ =>
  ⟨_, _, rfl, ⟨rfl, rfl, rfl, rfl, rfl, rfl, rfl, rfl, Function.update_of_ne other.1.symm _ _,
    Function.update_of_ne other.2.1.symm _ _, Function.update_of_ne other.2.2.symm _ _⟩, rfl⟩

theorem launchpadAfter_pure {expected : Bool → Bool → Bool} {ok : Bool}
    (unchanged : ∀ launchpad, launchpad = expected ok launchpad) :
    (launchpadAfter expected).Meets (pure ok) := fun server =>
  ⟨ok, server, rfl, Prepares.refl server, unchanged _⟩

theorem setupLaunchpad_spec (env : Env) : (launchpadAfter or).Meets (setupLaunchpad env) := by
  have failed : (launchpadAfter or).Meets (pure false) := launchpadAfter_pure fun _ => rfl
  refine Meets.bind (ask_asking (by decide)) fun _ => Meets.ite (fun _ => failed) fun _ =>
    Meets.bind (ask_asking (by decide)) fun _ => Meets.ite (fun _ => failed) fun _ =>
    Meets.bind (ask_asking (by decide)) fun _ => Meets.ite (fun _ => failed) fun _ => ?_
  intro server
  exact ⟨_, _, rfl, ⟨rfl, rfl, rfl, rfl, rfl, rfl, rfl, rfl, rfl, rfl, rfl⟩, rfl⟩

theorem initializeFailed_spec : (launchpadAfter and).Meets initializeFailed := fun _ =>
  ⟨_, _, rfl, ⟨rfl, rfl, rfl, rfl, rfl, rfl, rfl, rfl, rfl, rfl, rfl⟩, rfl⟩

theorem loadBinary_asking (env : Env) : asking.Runs (loadBinary env) :=
  Runs.bind (ask_asking (by decide)) fun _ => Runs.ite (fun _ => Runs.pure) fun _ =>
    Runs.bind (ask_asking (by decide)) fun _ => Runs.ite (fun _ => Runs.pure) fun _ => Runs.pure

theorem modifyProcess_asking {update : Process → Process}
    (same : ∀ process, (update process).launchpad = process.launchpad ∧
      (update process).handle = process.handle ∧ (update process).state = process.state ∧
      (update process).eportKey = process.eportKey ∧
      (update process).attachedRunning = process.attachedRunning) :
    asking.Runs (modifyProcess update) := Runs.modify fun server =>
  have kept := same server.process
  ⟨⟨rfl, rfl, rfl, kept.2.1, kept.2.2.1, kept.2.2.2.1, kept.2.2.2.2, rfl, rfl, rfl, rfl⟩, kept.1⟩

theorem readLaunchpad_spec (env : Env) : (launchpadAfter and).Meets (readLaunchpad env) := by
  have identified : asking.Runs (getProcessId env) :=
    Runs.bind (ask_asking (by decide)) fun _ => Runs.ite (fun _ => Runs.pure) fun _ => Runs.pure
  refine Meets.bind identified fun id =>
    Meets.bind (modifyProcess_asking fun _ => ⟨rfl, rfl, rfl, rfl, rfl⟩) fun _ =>
    Meets.bind (ask_asking (by decide)) fun _ => Meets.ite (fun _ => initializeFailed_spec) fun _ =>
    Meets.bind (modifyProcess_asking fun _ => ⟨rfl, rfl, rfl, rfl, rfl⟩) fun _ =>
    Meets.bind (ask_asking (by decide)) fun _ => Meets.ite (fun _ => initializeFailed_spec) fun _ =>
    Meets.bind (modifyProcess_asking fun _ => ⟨rfl, rfl, rfl, rfl, rfl⟩) fun _ =>
    launchpadAfter_pure fun _ => rfl

private theorem loadProgram_spec (env : Env) (server : Server) :
    ∃ ok after, (do
        let argv ← read (·.process.argv)
        if noProgram argv then pure false
        else if !(← setupLaunchpad env) then pure false
        else if !(← loadBinary env) then initializeFailed
        else readLaunchpad env : Prog Server Bool) server = (some ok, after) ∧
      Prepares server after ∧ (ok = true → after.process.launchpad = true) ∧
      (ok = false → server.process.launchpad = false → after.process.launchpad = false) := by
  have loading : (launchpadAfter and).Meets (do
      if !(← loadBinary env) then initializeFailed else readLaunchpad env : Prog Server Bool) :=
    Meets.bind (loadBinary_asking env) fun _ =>
      Meets.ite (fun _ => initializeFailed_spec) fun _ => readLaunchpad_spec env
  rw [read_bind]
  by_cases missing : noProgram server.process.argv = true
  · rw [if_pos missing]
    exact ⟨false, server, rfl, Prepares.refl server, Bool.noConfusion, fun _ same => same⟩
  · rw [if_neg missing]
    obtain ⟨created, middle, ran, first, launchpad⟩ := setupLaunchpad_spec env server
    cases created with
    | false =>
        exact ⟨false, middle, bind_of_some ran, first, Bool.noConfusion,
          fun _ same => launchpad.trans same⟩
    | true =>
        obtain ⟨ok, after, ranLoad, second, last⟩ := loading middle
        have result : after.process.launchpad = ok := by
          rw [last, launchpad, Bool.true_or, Bool.and_true]
        refine ⟨ok, after, (bind_of_some ran).trans ranLoad, first.trans second, ?_, ?_⟩
        · exact fun success => result.trans success
        · exact fun failure _ => result.trans failure

/-- `Initialize()` sets up a launchpad exactly when it succeeds, and leaves the
attachment and the answers to come alone. -/
theorem initializeProgram_spec (env : Env) (server : Server) :
    ∃ ok after launchpad id, initializeProgram env server = (some ok, after) ∧
      attachGranted env after = attachGranted env server ∧
      env.now .launchpadStart after = env.now .launchpadStart server ∧
      Moves server after { server.process.lifecycle.entered with
        attachedRunning := false, launchpad := launchpad, id := id }
        server.process.lifecycle.enterEvents ∧
      (ok = true → launchpad = true) ∧
      (ok = false → server.process.launchpad = false → launchpad = false) := by
  obtain ⟨entered, ran, ⟨calls, port⟩, moved⟩ := enterInitialize_spec server
  obtain ⟨ok, after, ranLoad, prepared, success, failure⟩ := loadProgram_spec env
    (entered.setProcess { entered.process with attachedRunning := false })
  have same : attachGranted env after = attachGranted env server :=
    (prepared.attachGranted env).trans
      (attachGranted_congr env (congrFun calls _) (congrFun calls _) port)
  have answer : env.now .launchpadStart after = env.now .launchpadStart server := by
    simp only [Env.now, prepared.startCalls, Server.setProcess, calls]
  have launchpad : entered.process.launchpad = server.process.launchpad :=
    congrArg Lifecycle.launchpad moved.lifecycle
  have members := prepared.moves
  refine ⟨ok, after, after.process.launchpad, after.process.id, (bind_of_some ran).trans ranLoad,
    same, answer, ?_, success, fun failed before => failure failed (launchpad.trans before)⟩
  refine ⟨members.hasProcess.trans moved.hasProcess, members.posted.trans moved.posted, ?_, ?_⟩
  · rw [members.lifecycle, ← moved.lifecycle]
    rfl
  · rw [prepared.log, ← moved.log]
    rfl

end Process

end Gdbserver
