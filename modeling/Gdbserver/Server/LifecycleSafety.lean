import Gdbserver.Server.Attachment

/-!
# When the lifecycle operations may be entered

`Initialize`, `RawDetach` and `Clear` assert what they expect of the process.
A `vAttach` or `vRun` that fails midway leaves a process of which one of them
expects too much; nothing else does.
-/

set_option autoImplicit false

namespace Gdbserver

open Logic Prog Frame CommandHandler

/-- The assertions at the entry of `Initialize`, `RawDetach` and `Clear`. -/
def Check.isLifecycle : Check → Bool
  | .initializeLaunchpad | .initializeHandle | .initializeEportKey | .rawDetachHandle
  | .rawDetachAttached | .clearDetached => true
  | .startLaunchpad | .startHandle | .extractParametersNonempty | .entryPid | .vContLive
  | .vContAttached | .continueAtNotLive | .continueNotLive => false

/-- No lifecycle operation has been entered with its preconditions broken. -/
def unbroken (events : List Event) : Bool := intact Check.isLifecycle events

@[simp] theorem unbroken_append (events more : List Event) :
    unbroken (events ++ more) = (unbroken events && unbroken more) := intact_append _ events more

@[simp] theorem unbroken_moved (before after : ProcessState) :
    unbroken [.moved before after] = true := rfl

theorem unbroken_asserted (check : Check) (condition : Bool) :
    unbroken (asserted check condition) = (condition || !check.isLifecycle) :=
  intact_asserted _ check condition

theorem unbroken_history (events : List Event) : unbroken (history events) = unbroken events :=
  intact_history _ events

theorem Lands.unbroken {before after : Server} {last : Lifecycle} {events : List Event}
    (lands : Lands before after last events) :
    unbroken after.log = (unbroken before.log && unbroken events) := by
  rw [← unbroken_history, lands.history, unbroken_append, unbroken_history, unbroken_history]

namespace Lifecycle

/-- A process that is not live has been cleaned up. -/
def Ready (lifecycle : Lifecycle) : Prop :=
  lifecycle.isLive = false →
    lifecycle.launchpad = false ∧ lifecycle.isAttached = false ∧ lifecycle.attachedRunning = false

theorem Ready.of_live {lifecycle : Lifecycle} (live : lifecycle.isLive = true) : lifecycle.Ready :=
  fun dead => absurd (live.symm.trans dead) Bool.true_eq_false.mp

theorem unbroken_enterEvents (lifecycle : Lifecycle) :
    unbroken lifecycle.enterEvents =
      (!lifecycle.launchpad && decide (lifecycle.handle = 0) && decide (lifecycle.eportKey = 0)) := by
  simp only [enterEvents, unbroken_append, unbroken_asserted, Check.isLifecycle, Bool.not_true,
    Bool.or_false]
  split <;> exact Bool.and_true _

theorem unbroken_rawDetachEvents (lifecycle : Lifecycle) :
    unbroken lifecycle.rawDetachEvents =
      (decide (lifecycle.handle ≠ 0) && lifecycle.isAttached) := by
  simp only [rawDetachEvents, unbroken_append, unbroken_asserted, Check.isLifecycle, Bool.not_true,
    Bool.or_false]

theorem unbroken_clearEvents (lifecycle : Lifecycle) :
    unbroken lifecycle.clearEvents = !lifecycle.isAttached := by
  simp only [clearEvents, unbroken_append, unbroken_asserted, Check.isLifecycle, Bool.not_true,
    Bool.or_false, unbroken_moved, Bool.and_true]

end Lifecycle

namespace Process

/-- The destructor expects a process that is not live to be attached exactly
when it was attached to while running. -/
theorem destroy_unbroken (env : Env) (server : Server) (sound : server.process.lifecycle.Sound) :
    unbroken (destroy env server).2.log =
      (unbroken server.log &&
        (server.process.isLive ||
          decide (server.process.isAttached = server.process.attachedRunning))) := by
  have bound (live : server.process.isLive = true) : server.process.isAttached = true :=
    sound.live live
  have handle : decide (server.process.lifecycle.handle ≠ 0) = server.process.isAttached :=
    (Bool.eq_iff_iff.mpr (sound.isAttached_iff.trans decide_eq_true_iff.symm)).symm
  -- Both ways out of the destructor that detach first.
  have detached (start : Server) (members : start.process.lifecycle = server.process.lifecycle)
      (log : start.log = server.log) :
      unbroken ((do rawDetach; clear : Prog Server Unit) start).2.log =
        (unbroken server.log && server.process.isAttached) := by
    obtain ⟨middle, ranDetach, first⟩ := rawDetach_spec start
    obtain ⟨after, ranClear, second⟩ := clear_spec middle
    rw [bind_of_some ranDetach, ranClear, (first.trans second).lands.unbroken, log, members,
      unbroken_append, Lifecycle.unbroken_rawDetachEvents, handle, first.lifecycle,
      Lifecycle.unbroken_clearEvents, members, lifecycle_isAttached, Bool.and_self]
    exact congrArg _ (Bool.and_true _)
  rw [destroy, read_bind]
  cases running : server.process.attachedRunning with
  | true =>
      rw [if_pos rfl, detached server rfl rfl]
      cases live : server.process.isLive with
      | true => rw [bound live]; rfl
      | false => simp
  | false =>
      rw [if_neg Bool.false_ne_true]
      cases live : server.process.isLive with
      | false =>
          obtain ⟨after, ran, moved⟩ := clear_spec server
          rw [bind_of_some (kill_of_not_live env server live), if_not_true, ran,
            moved.lands.unbroken, Lifecycle.unbroken_clearEvents]
          simp
      | true =>
          by_cases killed : env.now .taskKill server = (0 : Int)
          · obtain ⟨middle, ranKill, first⟩ := kill_spec env server live killed
            obtain ⟨after, ran, second⟩ := clear_spec middle
            rw [bind_of_some ranKill, if_not_true, ran, (first.trans second).lands.unbroken,
              first.lifecycle, unbroken_append, Lifecycle.unbroken_clearEvents]
            rfl
          · rw [bind_of_some (kill_of_refused env server live killed), if_not_false,
              detached (server.asked .taskKill) rfl rfl, bound live]
            rfl

end Process

/-! ## Commands and exceptions -/

theorem Lifecycle.Ready.unbroken_enterEvents {lifecycle : Lifecycle} (ready : lifecycle.Ready)
    (sound : lifecycle.Sound) (dead : lifecycle.isLive = false) :
    unbroken lifecycle.enterEvents = true := by
  obtain ⟨launchpad, free, -⟩ := ready dead
  have key : lifecycle.eportKey = 0 := by simpa [isAttached] using free
  have handle : lifecycle.handle = 0 := by
    by_contra valid
    exact sound.handle.mp valid key
  rw [Lifecycle.unbroken_enterEvents, launchpad, handle, key]
  rfl

theorem AttachOutcome.intact {granted : Bool} {start last : Lifecycle} {events : List Event}
    (outcome : AttachOutcome granted start last events) (concerned : Check → Bool) :
    intact concerned events = true := by
  unfold AttachOutcome at outcome
  split at outcome
  · obtain ⟨handle, key, -, -, result⟩ := outcome
    split at result <;> (rw [result.2]; rfl)
  · obtain ⟨handle, -, -, none⟩ := outcome
    rw [none]
    rfl

theorem AttachOutcome.unbroken {granted : Bool} {start last : Lifecycle} {events : List Event}
    (outcome : AttachOutcome granted start last events) : unbroken events = true :=
  outcome.intact Check.isLifecycle

theorem AttachOutcome.isLive {start last : Lifecycle} {events : List Event}
    (outcome : AttachOutcome true start last events) (free : start.isAttached = false)
    (running : start.attachedRunning = true) : last.isLive = true := by
  rw [AttachOutcome, free, Bool.not_false, Bool.true_and, if_pos rfl] at outcome
  obtain ⟨handle, key, -, -, result⟩ := outcome
  rw [if_pos running] at result
  rw [result.1]
  rfl

theorem AttachOutcome.of_refused {start last : Lifecycle} {events : List Event}
    (outcome : AttachOutcome false start last events) :
    last = { start with handle := last.handle } := by
  rw [AttachOutcome, Bool.and_false, if_neg Bool.false_ne_true] at outcome
  obtain ⟨handle, -, same, -⟩ := outcome
  rw [same]

namespace CommandHandler

theorem unbroken_vContEvents (env : Env) (packet : Bytes) (server : Server) :
    unbroken (vContEvents env packet server) = true := by
  unfold vContEvents applyActionsEvents
  split
  · split <;> simp [unbroken_asserted, Check.isLifecycle]
  · rfl

theorem unbroken_continueEvents (env : Env) (packet : Bytes) (server : Server) :
    unbroken (continueEvents env packet server) = true := by
  unfold continueEvents startInferiorEvents Lifecycle.startEvents
  split
  · simp [unbroken_asserted, Check.isLifecycle]
  · split
    · simp [unbroken_asserted, Check.isLifecycle]
    · rfl

theorem ContinueOutcome.unbroken {start last : Lifecycle} {moves : List Event}
    (outcome : ContinueOutcome start moves last) : unbroken moves = true := by
  cases outcome <;> rfl

theorem Change.unbroken {env : Env} {server : Server} {packet : Bytes} {last : Lifecycle}
    {events : List Event} (change : Change env server packet last events)
    (sound : server.process.lifecycle.Sound) (ready : server.process.lifecycle.Ready) :
    unbroken events = true := by
  cases change with
  | none => rfl
  | query kind => simp [queryEvents, unbroken_asserted, Check.isLifecycle]
  | actions => exact unbroken_vContEvents env _ server
  | resumed outcome =>
      rw [unbroken_append, unbroken_continueEvents, outcome.unbroken]
      rfl
  | detached attached =>
      have valid : server.process.handle ≠ 0 := sound.isAttached_iff.mp attached
      rw [decide_eq_true valid]
      rfl
  | killed => rfl
  | attached enters outcome =>
      rw [unbroken_append, ready.unbroken_enterEvents sound (vAttachPid_dead enters),
        outcome.unbroken]
      rfl
  | @run _ started _ enters outcome =>
      rw [unbroken_append, ready.unbroken_enterEvents sound (vRunEnters_dead enters)]
      cases started with
      | true => rfl
      | false => rfl

theorem Effect.unbroken {env : Env} {before after : Server} {packet : Bytes}
    {outcome : Option Bool} (effect : Effect env before packet outcome after)
    (sound : before.process.lifecycle.Sound) (ready : before.process.lifecycle.Ready) :
    unbroken after.log = unbroken before.log := by
  obtain ⟨posts, last, events, ended, change⟩ := effect.change
  rw [ended.lands.unbroken, change.unbroken sound ready, Bool.and_true]

/-- A `vAttach` or `vRun` that gets as far as attaching does not fail any more. -/
structure Completes (env : Env) (packet : Bytes) (server : Server) : Prop where
  attach : ∀ arguments pid, packet = ascii "vAttach;" ++ arguments →
    vAttachPid env arguments server = some pid → Process.attachGranted env server = true
  run : ∀ arguments, packet = ascii "vRun;" ++ arguments → vRunEnters server = true →
    vRunLoads env arguments server = true →
      Process.attachGranted env server = true ∧ starts env server = true

theorem handleCommand_vAttach (env : Env) (arguments : Bytes) :
    handleCommand env (ascii "vAttach;" ++ arguments) = handle_vAttach env arguments := rfl

theorem handleCommand_vRun (env : Env) (arguments : Bytes) :
    handleCommand env (ascii "vRun;" ++ arguments) = handle_vRun env arguments := rfl

variable {env : Env} {before after : Server} {packet : Bytes}

theorem Ready.cleared (lifecycle : Lifecycle) : lifecycle.detached.cleared.Ready :=
  fun _ => ⟨rfl, rfl, rfl⟩

theorem Ready.entered {lifecycle : Lifecycle} (ready : lifecycle.Ready)
    (dead : lifecycle.isLive = false) :
    lifecycle.entered.launchpad = false ∧ lifecycle.entered.isAttached = false := by
  obtain ⟨launchpad, free, -⟩ := ready dead
  exact ⟨launchpad, free⟩

theorem LaunchOutcome.ready {granted starts started : Bool} {start last : Lifecycle}
    (outcome : LaunchOutcome granted starts start started last) (free : start.isAttached = false)
    (attaches : granted = true) (succeeds : starts = true) : last.Ready := by
  cases outcome with
  | notAttached failed attach =>
      rw [free, attaches] at failed
      exact absurd failed Bool.true_eq_false.mp
  | notStarted attached failed valid nonzero =>
      exact absurd (failed.symm.trans succeeds) Bool.false_ne_true
  | started attached succeeded valid nonzero => exact .of_live rfl

theorem LaunchOutcome.of_ready {granted starts started : Bool} {start last : Lifecycle}
    (outcome : LaunchOutcome granted starts start started last) (free : start.isAttached = false)
    (new : start.state = .new) (loaded : start.launchpad = true) (left : last.Ready) :
    granted = true ∧ starts = true := by
  have dead : start.isLive = false := by
    rw [Lifecycle.isLive, new]
    rfl
  cases outcome with
  | started attached succeeded valid nonzero =>
      exact ⟨(Bool.and_eq_true_iff.mp attached).2, succeeded⟩
  | notAttached failed attach =>
      rw [free, Bool.not_false, Bool.true_and] at failed
      rw [failed] at attach
      rw [attach.of_refused] at left
      exact absurd ((left dead).1.symm.trans loaded) Bool.false_ne_true
  | notStarted attached failed valid nonzero =>
      exact absurd (left dead).2.1 (by simp [Lifecycle.isAttached, nonzero])

theorem Change.ready {last : Lifecycle} {events : List Event}
    (change : Change env before packet last events) (ready : before.process.lifecycle.Ready)
    (completes : Completes env packet before) : last.Ready := by
  cases change with
  | none => exact ready
  | query kind => exact ready
  | actions => exact ready
  | resumed outcome =>
      cases outcome with
      | refused => exact ready
      | failed => exact fun dead => ⟨rfl, (ready dead).2⟩
      | started new attached => exact .of_live rfl
  | detached attached => exact Ready.cleared _
  | killed => exact Ready.cleared _
  | attached enters outcome =>
      obtain ⟨-, free⟩ := Ready.entered ready (vAttachPid_dead enters)
      rw [completes.attach _ _ rfl enters] at outcome
      exact .of_live (outcome.isLive free rfl)
  | run enters outcome =>
      obtain ⟨launchpad, free⟩ := Ready.entered ready (vRunEnters_dead enters)
      cases outcome with
      | notLoaded failed none => exact fun dead => ⟨none launchpad, free, rfl⟩
      | launched loaded launch =>
          obtain ⟨granted, starting⟩ := completes.run _ rfl enters loaded
          exact launch.ready free granted starting

theorem Effect.ready {outcome : Option Bool} (effect : Effect env before packet outcome after)
    (ready : before.process.lifecycle.Ready) (completes : Completes env packet before) :
    after.process.lifecycle.Ready := by
  obtain ⟨posts, last, events, ended, change⟩ := effect.change
  rw [ended.lands.lifecycle]
  exact change.ready ready completes

theorem completes_of_ready (ready : before.process.lifecycle.Ready)
    (left : (handleCommand env packet before).2.process.lifecycle.Ready) :
    Completes env packet before := by
  constructor
  · rintro arguments pid rfl enters
    obtain ⟨after, last, events, ran, outcome, posts, answer, ended⟩ :=
      handle_vAttach_spec env arguments before enters
    rw [handleCommand_vAttach, ran, ended.lands.lifecycle] at left
    by_contra refused
    rw [Bool.not_eq_true] at refused
    rw [refused] at outcome
    rw [outcome.of_refused] at left
    have new : before.process.lifecycle.entered.state = .new :=
      Lifecycle.entered_state (vAttachPid_dead enters)
    have dead : before.process.lifecycle.entered.isLive = false := by
      rw [Lifecycle.isLive, new]
      rfl
    exact Bool.true_eq_false.mp (left dead).2.2
  · rintro arguments rfl enters loads
    obtain ⟨after, last, started, ran, outcome, ended⟩ := handle_vRun_spec env arguments before enters
    have dead := vRunEnters_dead enters
    obtain ⟨-, free⟩ := Ready.entered ready dead
    have landed : after.process.lifecycle = last := by
      cases started with
      | true => exact (Ended.lands ended).lifecycle
      | false =>
          obtain ⟨posts, -, replied⟩ := ended
          exact replied.lands.lifecycle
    rw [handleCommand_vRun, ran, landed] at left
    cases outcome with
    | notLoaded failed none => exact absurd (loads.symm.trans failed) Bool.true_eq_false.mp
    | launched loaded launch => exact launch.of_ready free (Lifecycle.entered_state dead) rfl left

end CommandHandler

namespace RspServer

theorem Transition.unbroken {before after : Server} (transition : Transition before after)
    (sound : before.process.lifecycle.Sound) : unbroken after.log = unbroken before.log := by
  cases transition with
  | none kept => rw [kept.unbroken]; exact Bool.and_true _
  | running starting lands => rw [lands.unbroken]; exact Bool.and_true _
  | exited attached lands =>
      have valid : before.process.handle ≠ 0 := sound.isAttached_iff.mp attached
      rw [lands.unbroken, decide_eq_true valid]
      exact Bool.and_true _
  | vanished free lands => rw [lands.unbroken]; exact Bool.and_true _

theorem Transition.ready {before after : Server} (transition : Transition before after)
    (ready : before.process.lifecycle.Ready) : after.process.lifecycle.Ready := by
  cases transition with
  | none kept => exact kept.lifecycle ▸ ready
  | running starting lands => exact lands.lifecycle ▸ .of_live rfl
  | exited attached lands => exact lands.lifecycle ▸ Ready.cleared _
  | vanished free lands =>
      rw [lands.lifecycle]
      exact fun _ => ⟨rfl, free, rfl⟩

end RspServer

/-! ## Whole runs -/

/-- Nothing has been broken so far, and the destructor and any further command
may be executed from here. -/
structure Usable (env : Env) (server : Server) : Prop where
  sofar : unbroken server.log = true
  destructor : unbroken (Process.destroy env server).2.log = true
  further : ∀ packet, unbroken (handleCommand env packet server).2.log = true

theorem usable_of_ready (env : Env) {server : Server} (sound : server.process.lifecycle.Sound)
    (sofar : unbroken server.log = true) (ready : server.process.lifecycle.Ready) :
    Usable env server := by
  refine ⟨sofar, ?_, fun packet => ?_⟩
  · rw [Process.destroy_unbroken env server sound, sofar, Bool.true_and, Bool.or_eq_true]
    cases live : server.process.isLive with
    | true => exact Or.inl rfl
    | false =>
        obtain ⟨-, free, running⟩ := ready live
        have same : server.process.isAttached = server.process.attachedRunning :=
          free.trans running.symm
        exact Or.inr (decide_eq_true same)
  · rw [(handleCommand_effect env packet server).unbroken sound ready]
    exact sofar

/-- A further `vRun` and the destructor tell whether the process has been
cleaned up. -/
theorem usable_iff_ready (env : Env) {server : Server} (sound : server.process.lifecycle.Sound)
    (present : server.hasProcess = true) :
    Usable env server ↔ unbroken server.log = true ∧ server.process.lifecycle.Ready := by
  refine ⟨fun usable => ⟨usable.sofar, fun dead => ?_⟩, fun ⟨sofar, ready⟩ =>
    usable_of_ready env sound sofar ready⟩
  have enters : vRunEnters server = true := by
    rw [vRunEnters, present, show server.process.isLive = false from dead]
    rfl
  have entered : unbroken server.process.lifecycle.enterEvents = true := by
    have broken := usable.further (ascii "vRun;" ++ [])
    obtain ⟨after, last, started, ran, -, ended⟩ := handle_vRun_spec env [] server enters
    rw [handleCommand_vRun, ran] at broken
    cases started with
    | true =>
        rw [Ended.lands ended |>.unbroken, usable.sofar, unbroken_append] at broken
        simpa using broken
    | false =>
        obtain ⟨posts, answer, ended⟩ := ended
        rw [ended.lands.unbroken, usable.sofar] at broken
        exact broken
  rw [Lifecycle.unbroken_enterEvents, Bool.and_eq_true_iff, Bool.and_eq_true_iff] at entered
  obtain ⟨⟨launchpad, -⟩, key⟩ := entered
  have unbound : server.process.eportKey = 0 := of_decide_eq_true key
  have free : server.process.isAttached = false := by
    rw [Process.isAttached, unbound]
    rfl
  have destroyed := usable.destructor
  rw [Process.destroy_unbroken env server sound, usable.sofar,
    show server.process.isLive = false from dead, free] at destroyed
  have running : server.process.attachedRunning = false := by simpa using destroyed
  exact ⟨by simpa using launchpad, free, running⟩

namespace Debugserver

/-- `main` up to the point where the destructors run. -/
def untilExit (env : Env) (config : Config) (inputs : List Input) : Prog RspServer Unit :=
  if config.attachPid ≠ 0 ∧ config.argv ≠ [] then pure ()
  else do
    if ← RspServer.onServer (startUp env config) then run (RspServer.handle env) inputs
    else pure ()

/-- With `--attach`, the server gets its port and attaches to the process. -/
def AttachesAtStart (env : Env) (config : Config) : Prop :=
  config.attachPid ≠ 0 →
    portCreated env config = true ∧ Process.attachGranted env (newServer config) = true

/-- No command fails midway. -/
def Allowed (env : Env) (server : RspServer) : Input → Prop
  | .bytesRead bytes => ∀ packet, Util.verifyPacket bytes = some packet →
      Completes env packet (server.core.post [.ack true])
  | .exception _ _ _ | .timeout _ | .queueStopNotification _ _ | .inferior _ => True

/-- Neither start-up nor any command fails midway. -/
def NothingFailsMidway (env : Env) (config : Config) (inputs : List Input) : Prop :=
  ¬ (config.attachPid ≠ 0 ∧ config.argv ≠ []) →
    AttachesAtStart env config ∧
      ((startUp env config (newServer config)).1 = some true →
        Along (RspServer.handle env) (Allowed env) (started env config) inputs)

theorem StartOutcome.ready_iff {env : Env} {config : Config} {last : Lifecycle}
    {events : List Event} (outcome : StartOutcome env config last events) :
    unbroken events = true ∧ last.Ready ↔ AttachesAtStart env config := by
  cases outcome with
  | program none =>
      exact iff_of_true ⟨rfl, fun _ => ⟨rfl, rfl, rfl⟩⟩ fun given => absurd none given
  | noPort pid failed =>
      refine iff_of_false (fun ⟨_, ready⟩ => ?_) fun attaches => ?_
      · exact Bool.false_ne_true (ready rfl).2.2.symm
      · exact Bool.false_ne_true (failed.symm.trans (attaches pid).1)
  | attach pid port outcome =>
      cases granted : Process.attachGranted env (newServer config) with
      | true =>
          rw [granted] at outcome
          exact iff_of_true ⟨outcome.unbroken, .of_live (outcome.isLive rfl rfl)⟩
            fun _ => ⟨port, granted⟩
      | false =>
          rw [granted] at outcome
          refine iff_of_false (fun ⟨_, ready⟩ => ?_) fun attaches => ?_
          · rw [outcome.of_refused] at ready
            exact Bool.false_ne_true (ready rfl).2.2.symm
          · exact Bool.false_ne_true (granted.symm.trans (attaches pid).2)

/-- What every state of the message loop satisfies. -/
structure Owned (server : RspServer) : Prop where
  attachment : Attachment server.core
  present : server.core.hasProcess = true

theorem Owned.handle {server : RspServer} (owned : Owned server) (env : Env) (input : Input) :
    Owned (RspServer.handle env input server).2 := by
  have step := RspServer.handle_step env input server
  exact ⟨step.attachment owned.attachment, step.hasProcess.trans owned.present⟩

theorem completes_stopAck (env : Env) (server : Server) :
    Completes env RspServer.kStopAck server := by
  constructor
  · intro arguments pid same
    exact absurd (List.cons.inj (List.cons.inj same).2).1 (by decide)
  · intro arguments same
    exact absurd (List.cons.inj (List.cons.inj same).2).1 (by decide)

theorem handle_usable_iff (env : Env) (server : RspServer) (input : Input) (owned : Owned server)
    (usable : Usable env server.core) :
    Usable env (RspServer.handle env input server).2.core ↔ Allowed env server input := by
  have sound := owned.attachment.sound
  obtain ⟨sofar, ready⟩ := (usable_iff_ready env sound owned.present).mp usable
  have next := owned.handle env input
  rw [usable_iff_ready env next.attachment.sound next.present]
  have step := RspServer.handle_step env input server
  generalize (RspServer.handle env input server).2.core = after at step
  cases step with
  | idle quiet kept =>
      refine iff_of_true ⟨?_, kept.lifecycle ▸ ready⟩ ?_
      · rw [kept.unbroken, sofar]
        rfl
      · cases input with
        | bytesRead bytes =>
            intro packet accepted
            rw [quiet bytes packet rfl accepted]
            exact completes_stopAck env _
        | exception key type context => trivial
        | timeout index => trivial
        | queueStopNotification event timeout => trivial
        | inferior kernel => trivial
  | exception transition =>
      exact iff_of_true ⟨(transition.unbroken sound).trans sofar, transition.ready ready⟩ trivial
  | command accepted tail =>
      rename_i bytes packet
      have effect := handleCommand_effect env packet (server.core.post [.ack true])
      have quiet : unbroken after.log = true := by
        rw [tail.unbroken, effect.unbroken sound ready]
        exact (Bool.and_true _).trans sofar
      rw [tail.lifecycle]
      constructor
      · rintro ⟨-, left⟩ other same
        cases accepted.symm.trans same
        exact completes_of_ready ready left
      · exact fun allowed => ⟨quiet, effect.ready ready (allowed packet accepted)⟩

/-- The lifecycle operations are entered as they expect, in every run and
whatever comes next, exactly if neither start-up nor a command fails midway. -/
theorem usable_iff_nothingFailsMidway (env : Env) (config : Config) (inputs : List Input) :
    (∀ before, before <+: inputs →
      Usable env (untilExit env config before (newRspServer config)).2.core) ↔
      NothingFailsMidway env config inputs := by
  by_cases both : config.attachPid ≠ 0 ∧ config.argv ≠ []
  · refine iff_of_true (fun before _ => ?_) fun other => absurd both other
    rw [untilExit, if_pos both]
    exact usable_of_ready env newLifecycle_sound rfl fun _ => ⟨rfl, rfl, rfl⟩
  · obtain ⟨ok, after, last, events, ran, outcome, present, -, members, log⟩ :=
      startUp_spec env config
    have entered (before : List Input) : untilExit env config before (newRspServer config) =
        (if ok then run (RspServer.handle env) before else pure ()) (started env config) := by
      rw [untilExit, if_neg both, bind_of_some (RspServer.onServer_of_ran ran), started, ran]
      rfl
    have owned : Owned (started env config) :=
      ⟨started_attachment env config, by rw [started, ran]; exact present⟩
    have atStart : Usable env (started env config).core ↔ AttachesAtStart env config := by
      rw [usable_iff_ready env owned.attachment.sound owned.present, ← outcome.ready_iff, started,
        ran, members, log]
    have whole : NothingFailsMidway env config inputs ↔ AttachesAtStart env config ∧
        (ok = true → Along (RspServer.handle env) (Allowed env) (started env config) inputs) := by
      rw [NothingFailsMidway, ran, Option.some.injEq]
      exact ⟨fun all => all both, fun all _ => all⟩
    simp only [entered]
    rw [whole, ← atStart]
    cases ok with
    | false =>
        exact ⟨fun all => ⟨all [] List.nil_prefix, fun wrong => absurd wrong Bool.false_ne_true⟩,
          fun usable _ _ => usable.1⟩
    | true =>
        have along (usable : Usable env (started env config).core) :=
          run_prefixes_iff_along (fun server input kept => Owned.handle kept env input)
            (fun server input => handle_usable_iff env server input) inputs (started env config)
            owned usable
        constructor
        · intro all
          have usable := all [] List.nil_prefix
          exact ⟨usable, fun _ => (along usable).mp all⟩
        · rintro ⟨usable, steps⟩
          exact (along usable).mpr (steps rfl)

def unbindable : Env :=
  { obliging with
    answer := fun
      | .bindExceptionPort, _ => (-1 : Int)
      | call, time => obligingAnswer call time }

/-- After a `vAttach` that could not attach the destructor detaches all the same;
after a `vRun` that could not attach the launchpad is still there for the next. -/
theorem vAttach_vRun_broken :
    (debugserver unbindable program [.bytesRead (ascii "$vAttach;7#3d")]
      (newRspServer program)).2.core.log =
        [.violated .rawDetachHandle, .violated .rawDetachAttached, .moved .new .gone] ∧
    (debugserver unbindable program
      [.bytesRead (ascii "$vRun;#e6"), .bytesRead (ascii "$vRun;#e6")]
      (newRspServer program)).2.core.log =
        [.violated .initializeLaunchpad, .moved .new .gone] := by
  decide +kernel

end Debugserver

end Gdbserver
