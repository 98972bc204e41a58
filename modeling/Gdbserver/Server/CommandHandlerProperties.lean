import Gdbserver.Server.LifecycleCommands
import Gdbserver.Server.ResponseSizes

/-!
# Properties of the command handler

What `HandleCommand` can do to the server, by the packet it is given, and its
reply contract.
-/

set_option autoImplicit false

namespace Gdbserver

open Logic Prog Frame Contract

theorem Util.startsWith_eq {string start : Bytes} (begins : Util.startsWith string start = true) :
    string = start ++ string.drop start.length := by
  have taken : string.take start.length = start := by simpa [Util.startsWith] using begins
  conv => lhs; rw [← List.take_append_drop start.length string, taken]

namespace CommandHandler

theorem handle_v_cases (env : Env) {motive : Bytes → Prog Server Bool → Prop}
    (served : ∀ packet program, (serves Fits).Meets program → motive packet program)
    (attach : ∀ packet, motive (ascii "vAttach;" ++ packet) (handle_vAttach env packet))
    (actions : ∀ packet, motive (ascii "vCont;" ++ packet) (handle_vCont env packet))
    (kill : ∀ packet, motive (ascii "vKill;" ++ packet) (handle_vKill env packet))
    (run : ∀ packet, motive (ascii "vRun;" ++ packet) (handle_vRun env packet)) :
    ∀ packet, motive (chr 'v' :: packet) (handle_v env packet) := by
  intro packet
  -- What follows the name of the command is what the handler is given.
  have named : ∀ name : Bytes, Util.startsWith packet name = true →
      chr 'v' :: packet = (chr 'v' :: name) ++ packet.drop name.length := fun name begins =>
    congrArg (List.cons (chr 'v')) (Util.startsWith_eq begins)
  unfold handle_v
  refine iteInduction (fun begins => ?_) fun _ => ?_
  · rw [named _ begins]
    exact attach _
  refine iteInduction (fun begins => ?_) fun _ => ?_
  · rw [named _ begins]
    exact actions _
  refine iteInduction (fun begins => ?_) fun _ => ?_
  · rw [named _ begins]
    exact kill _
  refine iteInduction (fun begins => ?_) fun _ => served _ _ pure_false_serves
  rw [named _ begins]
  exact run _

/-- Every packet ends up in one of these handlers. Those that only answer, and
answer briefly, are taken together. -/
theorem handleCommand_cases (env : Env) {motive : Bytes → Prog Server Bool → Prop}
    (served : ∀ packet program, (serves Fits).Meets program → motive packet program)
    (memory : ∀ packet, motive (chr 'm' :: packet) (handle_m env packet))
    (query : ∀ packet, motive (chr 'q' :: packet) (handleQuery env true packet))
    (set : ∀ packet, motive (chr 'Q' :: packet) (handleQuery env false packet))
    (resume : ∀ packet, motive (chr 'c' :: packet) (handle_c env packet))
    (detach : ∀ packet, motive (chr 'D' :: packet) (handle_D env packet))
    (attach : ∀ packet, motive (ascii "vAttach;" ++ packet) (handle_vAttach env packet))
    (actions : ∀ packet, motive (ascii "vCont;" ++ packet) (handle_vCont env packet))
    (kill : ∀ packet, motive (ascii "vKill;" ++ packet) (handle_vKill env packet))
    (run : ∀ packet, motive (ascii "vRun;" ++ packet) (handle_vRun env packet)) :
    ∀ packet, motive packet (handleCommand env packet) := by
  intro packet
  cases packet with
  | nil => exact served _ _ pure_false_serves
  | cons command arguments =>
      unfold handleCommand
      refine iteInduction (fun _ => ?_) fun _ => ?_
      · exact iteInduction (fun _ => served _ _ pure_false_serves)
          fun _ => served _ _ replyOK_serves
      refine iteInduction (fun letter => letter ▸ resume arguments) fun _ => ?_
      refine iteInduction (fun _ => served _ _ (handle_C_serves env arguments)) fun _ => ?_
      refine iteInduction (fun letter => letter ▸ detach arguments) fun _ => ?_
      refine iteInduction (fun _ => ?_) fun _ => ?_
      · exact iteInduction (fun _ => served _ _ pure_false_serves)
          fun _ => served _ _ (handle_g_serves env)
      refine iteInduction (fun _ => served _ _ (handle_G_serves env arguments)) fun _ => ?_
      refine iteInduction (fun _ => served _ _ (handle_H_serves env arguments)) fun _ => ?_
      refine iteInduction (fun letter => letter ▸ memory arguments) fun _ => ?_
      refine iteInduction (fun _ => served _ _ (handle_M_serves env arguments)) fun _ => ?_
      refine iteInduction (fun letter => letter ▸ query arguments) fun _ => ?_
      refine iteInduction (fun letter => letter ▸ set arguments) fun _ => ?_
      refine iteInduction (fun _ => served _ _ (handle_T_serves env arguments)) fun _ => ?_
      refine iteInduction (fun letter => ?_) fun _ => ?_
      · rw [letter]
        exact handle_v_cases env served attach actions kill run arguments
      · exact iteInduction (fun _ => served _ _ pure_false_serves)
          fun _ => served _ _ pure_false_serves

/-- The response fits whenever the packet and the state say so. -/
def Expected (env : Env) (packet : Bytes) (server : Server) (response : Bytes) : Prop :=
  responseFits env packet server = true → Fits response

/-- What a command does to the server. Commands that only answer are one case,
whatever the packet. -/
inductive Effect (env : Env) (server : Server) : Bytes → Option Bool → Server → Prop
  | served {packet : Bytes} {handled : Bool} {after : Server}
      (kept : Served (Expected env packet server) server handled after) :
      Effect env server packet (some handled) after
  | query {letter : UInt8} {packet : Bytes} {handled : Bool} {after : Server}
      (kind : letter = chr 'q' ∨ letter = chr 'Q')
      (kept : Served (Expected env (letter :: packet) server)
        (server.observe (queryEvents packet)) handled after) :
      Effect env server (letter :: packet) (some handled) after
  | actions {packet : Bytes} {handled : Bool} {after : Server}
      (kept : Served Fits (server.observe (vContEvents env packet server)) handled after) :
      Effect env server (ascii "vCont;" ++ packet) (some handled) after
  | resumed {packet : Bytes} {handled : Bool} {after : Server} {moves : List Event}
      {last : Lifecycle} (safe : continueCrashes packet server = false)
      (outcome : ContinueOutcome server.process.lifecycle moves last)
      (concluded : Concluded server handled after last (continueEvents env packet server ++ moves)) :
      Effect env server (chr 'c' :: packet) (some handled) after
  | crashed {packet : Bytes} {after : Server} (crash : continueCrashes packet server = true)
      (moved : Moves server after server.process.lifecycle (continueEvents env packet server)) :
      Effect env server (chr 'c' :: packet) none after
  | refused {packet : Bytes} {after : Server}
      (replied : Replied server after server.process.lifecycle []) :
      Effect env server packet (some true) after
  | detached {packet : Bytes} {after : Server} (attached : server.process.isAttached = true)
      (replied : Replied server after server.process.lifecycle.detached.cleared
        (asserted .rawDetachHandle (server.process.handle ≠ 0) ++
          [.moved server.process.state .gone])) :
      Effect env server (chr 'D' :: packet) (some true) after
  | killed {packet : Bytes} {after : Server} (live : server.process.isLive = true)
      (replied : Replied server after server.process.lifecycle.detached.cleared
        [.moved server.process.state .gone]) :
      Effect env server (ascii "vKill;" ++ packet) (some true) after
  | attached {packet : Bytes} {pid : Koid} {after : Server} {last : Lifecycle}
      {events : List Event} (enters : vAttachPid env packet server = some pid)
      (outcome : AttachOutcome (Process.attachGranted env server)
        { server.process.lifecycle.entered with attachedRunning := true, id := pid } last events)
      (replied : Replied server after last (server.process.lifecycle.enterEvents ++ events)) :
      Effect env server (ascii "vAttach;" ++ packet) (some true) after
  | failed {packet : Bytes} {after : Server} {last : Lifecycle}
      (enters : vRunEnters server = true)
      (outcome : RunOutcome (vRunLoads env packet server) (Process.attachGranted env server)
        (starts env server) { server.process.lifecycle.entered with attachedRunning := false }
        false last)
      (replied : Replied server after last server.process.lifecycle.enterEvents) :
      Effect env server (ascii "vRun;" ++ packet) (some true) after
  | started {packet : Bytes} {after : Server} {last : Lifecycle}
      (enters : vRunEnters server = true)
      (outcome : RunOutcome (vRunLoads env packet server) (Process.attachGranted env server)
        (starts env server) { server.process.lifecycle.entered with attachedRunning := false }
        true last)
      (ended : Ended server after [] last
        (server.process.lifecycle.enterEvents ++ [.moved .new .starting])) :
      Effect env server (ascii "vRun;" ++ packet) (some true) after

theorem handleCommand_effect (env : Env) (packet : Bytes) (server : Server) :
    Effect env server packet (handleCommand env packet server).1
      (handleCommand env packet server).2 := by
  revert packet
  refine handleCommand_cases env (motive := fun packet program =>
    Effect env server packet (program server).1 (program server).2) ?served ?memory ?query ?set
    ?resume ?detach ?attach ?actions ?kill ?run
  case served =>
    intro packet program meets
    obtain ⟨handled, after, ran, kept⟩ := meets server
    rw [ran]
    exact .served (kept.mono fun _ short _ => short)
  case memory =>
    intro packet
    obtain ⟨handled, after, ran, sized⟩ := handle_m_sized env packet server
    rw [ran]
    exact .served (sized.1.mono fun _ exactly => exactly.mpr)
  case query =>
    intro packet
    obtain ⟨handled, after, ran, sized⟩ := handleQuery_sized env packet server
    rw [ran]
    exact .query (Or.inl rfl) (sized.1.mono fun _ exactly => exactly.mpr)
  case set =>
    intro packet
    obtain ⟨handled, after, ran, kept⟩ := handleSetQuery_served env packet server
    rw [ran]
    exact .query (Or.inr rfl) (kept.mono fun _ short _ => short)
  case resume =>
    intro packet
    cases crash : continueCrashes packet server with
    | true =>
        obtain ⟨after, ran, moved⟩ := handle_c_crash env packet server crash
        rw [ran]
        exact .crashed crash moved
    | false =>
        obtain ⟨handled, after, moves, last, ran, outcome, concluded⟩ :=
          handle_c_spec env packet server crash
        rw [ran]
        exact .resumed crash outcome concluded
  case detach =>
    intro packet
    obtain ⟨after, ran, replied | ⟨attached, replied⟩⟩ := handle_D_spec env packet server
    · rw [ran]
      exact .refused replied
    · rw [ran]
      exact .detached attached replied
  case attach =>
    intro packet
    cases enters : vAttachPid env packet server with
    | none =>
        obtain ⟨after, ran, replied⟩ := handle_vAttach_refused env packet server enters
        rw [ran]
        exact .refused replied
    | some pid =>
        obtain ⟨after, last, events, ran, outcome, replied⟩ :=
          handle_vAttach_spec env packet server enters
        rw [ran]
        exact .attached enters outcome replied
  case actions =>
    intro packet
    obtain ⟨handled, after, ran, kept⟩ := handle_vCont_served env packet server
    rw [ran]
    exact .actions kept
  case kill =>
    intro packet
    obtain ⟨after, ran, replied | ⟨live, replied⟩⟩ := handle_vKill_spec env packet server
    · rw [ran]
      exact .refused replied
    · rw [ran]
      exact .killed live replied
  case run =>
    intro packet
    cases enters : vRunEnters server with
    | false =>
        obtain ⟨after, ran, replied⟩ := handle_vRun_refused env packet server enters
        rw [ran]
        exact .refused replied
    | true =>
        obtain ⟨after, last, started, ran, outcome, ended⟩ :=
          handle_vRun_spec env packet server enters
        rw [ran]
        cases started with
        | false => exact .failed enters outcome ended
        | true => exact .started enters outcome ended

/-- The part of an effect that concerns the process: its members afterwards, and
the events recorded on the way. -/
inductive Change (env : Env) (server : Server) : Bytes → Lifecycle → List Event → Prop
  | none {packet : Bytes} : Change env server packet server.process.lifecycle []
  | query {letter : UInt8} {packet : Bytes} (kind : letter = chr 'q' ∨ letter = chr 'Q') :
      Change env server (letter :: packet) server.process.lifecycle (queryEvents packet)
  | actions {packet : Bytes} :
      Change env server (ascii "vCont;" ++ packet) server.process.lifecycle
        (vContEvents env packet server)
  | resumed {packet : Bytes} {moves : List Event} {last : Lifecycle}
      (outcome : ContinueOutcome server.process.lifecycle moves last) :
      Change env server (chr 'c' :: packet) last (continueEvents env packet server ++ moves)
  | detached {packet : Bytes} (attached : server.process.isAttached = true) :
      Change env server (chr 'D' :: packet) server.process.lifecycle.detached.cleared
        (asserted .rawDetachHandle (server.process.handle ≠ 0) ++
          [.moved server.process.state .gone])
  | killed {packet : Bytes} :
      Change env server (ascii "vKill;" ++ packet) server.process.lifecycle.detached.cleared
        [.moved server.process.state .gone]
  | attached {packet : Bytes} {pid : Koid} {last : Lifecycle} {events : List Event}
      (enters : vAttachPid env packet server = some pid)
      (outcome : AttachOutcome (Process.attachGranted env server)
        { server.process.lifecycle.entered with attachedRunning := true, id := pid } last events) :
      Change env server (ascii "vAttach;" ++ packet) last
        (server.process.lifecycle.enterEvents ++ events)
  | run {packet : Bytes} {started : Bool} {last : Lifecycle} (enters : vRunEnters server = true)
      (outcome : RunOutcome (vRunLoads env packet server) (Process.attachGranted env server)
        (starts env server) { server.process.lifecycle.entered with attachedRunning := false }
        started last) :
      Change env server (ascii "vRun;" ++ packet) last
        (server.process.lifecycle.enterEvents ++ if started then [.moved .new .starting] else [])

theorem Effect.change {env : Env} {before after : Server} {packet : Bytes} {outcome : Option Bool}
    (effect : Effect env before packet outcome after) :
    ∃ posts last events, Ended before after posts last events ∧
      Change env before packet last events := by
  have of_concluded {handled : Bool} {last : Lifecycle} {events : List Event}
      (concluded : Concluded before handled after last events)
      (change : Change env before packet last events) :
      ∃ posts last events, Ended before after posts last events ∧
        Change env before packet last events := by
    obtain ⟨posts, -, ended⟩ := concluded
    exact ⟨posts, last, events, ended, change⟩
  cases effect with
  | served kept =>
      obtain ⟨posts, -, ended⟩ := kept.observe_nil.ended
      exact ⟨posts, _, _, ended, .none⟩
  | query kind kept =>
      obtain ⟨posts, -, ended⟩ := kept.ended
      exact ⟨posts, _, _, ended, .query kind⟩
  | actions kept =>
      obtain ⟨posts, -, ended⟩ := kept.ended
      exact ⟨posts, _, _, ended, .actions⟩
  | resumed safe outcome concluded => exact of_concluded concluded (.resumed outcome)
  | crashed crash moved =>
      -- as far as the members go, a crash is a refusal
      have ended := moved.ended
      rw [← List.append_nil (continueEvents ..)] at ended
      exact ⟨[], _, _, ended, .resumed .refused⟩
  | refused replied => exact of_concluded replied .none
  | detached attached replied => exact of_concluded replied (.detached attached)
  | killed live replied => exact of_concluded replied .killed
  | attached enters outcome replied => exact of_concluded replied (.attached enters outcome)
  | failed enters outcome replied =>
      rw [← List.append_nil (Lifecycle.enterEvents _)] at replied
      exact of_concluded replied (.run enters outcome)
  | started enters outcome ended => exact ⟨[], _, _, ended, .run enters outcome⟩

end CommandHandler

/-! ## The reply contract -/

def Post.isResponse : Post → Bool
  | .write isNotification _ => !isNotification
  | .ack _ | .quit => false

/-- How often the response callback has been called in between. -/
def callbacks (before after : Server) : Nat :=
  (after.posted.drop before.posted.length).countP Post.isResponse

/-- `Process::Start` has succeeded in between. -/
def startedBetween (before after : Server) : Bool :=
  Event.moved .new .starting ∈ after.log.drop before.log.length

theorem Answer.callbacks {fits : Bytes → Prop} {handled : Bool} {posts : List Post}
    (answer : Answer fits handled posts) : posts.countP Post.isResponse = handled.toNat := by
  apply answer.cases_posts
  · rfl
  · intro bytes _
    rfl
  · intro bytes _
    rfl

theorem Ended.posted {before after : Server} {posts : List Post} {lifecycle : Lifecycle}
    {events : List Event} (ended : Ended before after posts lifecycle events) :
    after.posted = before.posted ++ posts := by
  obtain ⟨middle, moved, kept⟩ := ended
  exact kept.posted.trans moved.posted

theorem Ended.startedBetween {before after : Server} {posts : List Post} {lifecycle : Lifecycle}
    {events : List Event} (ended : Ended before after posts lifecycle events) :
    startedBetween before after = decide (Event.moved .new .starting ∈ events) := by
  obtain ⟨middle, moved, kept⟩ := ended
  obtain ⟨requests, logged, each⟩ := kept.log
  have none : Event.moved .new .starting ∉ requests := fun member =>
    Bool.false_ne_true (each _ member)
  have same : after.log = before.log ++ (events ++ requests) := by
    rw [logged, moved.log, List.append_assoc]
    rfl
  rw [Gdbserver.startedBetween, same, List.drop_left]
  simp [none]

@[simp] theorem moved_not_mem_asserted (check : Check) (condition : Bool)
    (before after : ProcessState) : Event.moved before after ∉ asserted check condition := by
  cases condition <;> simp [asserted]

namespace CommandHandler

def runStarted (packet : Bytes) (before after : Server) : Bool :=
  Util.startsWith packet (ascii "vRun;") && startedBetween before after

inductive Posts (env : Env) (before after : Server) (packet : Bytes) :
    Option Bool → List Post → Prop
  | answered {handled : Bool} {posts : List Post}
      (answer : Answer (Expected env packet before) handled posts)
      (other : runStarted packet before after = false) :
      Posts env before after packet (some handled) posts
  | started (run : runStarted packet before after = true) :
      Posts env before after packet (some true) []
  | crashed {arguments : Bytes} (resume : packet = chr 'c' :: arguments)
      (crash : continueCrashes arguments before = true) : Posts env before after packet none []

theorem Ended.posts {env : Env} {packet : Bytes} {before after : Server} {handled : Bool}
    {posts : List Post} {lifecycle : Lifecycle} {events : List Event}
    (ended : Ended before after posts lifecycle events)
    (answer : Answer (Expected env packet before) handled posts)
    (quiet : Event.moved .new .starting ∉ events) :
    ∃ posts, after.posted = before.posted ++ posts ∧
      Posts env before after packet (some handled) posts := by
  refine ⟨posts, ended.posted, .answered answer ?_⟩
  rw [runStarted, ended.startedBetween, decide_eq_false quiet, Bool.and_false]

theorem Concluded.posts {env : Env} {packet : Bytes} {before after : Server} {handled : Bool}
    {lifecycle : Lifecycle} {events : List Event}
    (concluded : Concluded before handled after lifecycle events)
    (quiet : Event.moved .new .starting ∉ events) :
    ∃ posts, after.posted = before.posted ++ posts ∧
      Posts env before after packet (some handled) posts := by
  obtain ⟨posts, answer, ended⟩ := concluded
  exact Ended.posts ended (answer.mono fun _ short _ => short) quiet

theorem moved_not_mem_enterEvents (lifecycle : Lifecycle) :
    Event.moved .new .starting ∉ lifecycle.enterEvents := by
  unfold Lifecycle.enterEvents
  split <;> simp

theorem moved_not_mem_attachEvents {granted : Bool} {start last : Lifecycle} {events : List Event}
    (outcome : AttachOutcome granted start last events) :
    Event.moved .new .starting ∉ events := by
  unfold AttachOutcome at outcome
  split at outcome
  · obtain ⟨handle, key, -, -, result⟩ := outcome
    split at result
    · rw [result.2]
      simp
    · rw [result.2]
      simp
  · obtain ⟨handle, -, -, none⟩ := outcome
    rw [none]
    simp

theorem moved_not_mem_vContEvents (env : Env) (packet : Bytes) (server : Server) :
    Event.moved .new .starting ∉ vContEvents env packet server := by
  unfold vContEvents applyActionsEvents
  split
  · split <;> simp
  · simp

theorem Effect.posts {env : Env} {before after : Server} {packet : Bytes}
    {outcome : Option Bool} (effect : Effect env before packet outcome after) :
    ∃ posts, after.posted = before.posted ++ posts ∧
      Posts env before after packet outcome posts := by
  cases effect with
  | served kept =>
      obtain ⟨posts, answer, ended⟩ := kept.observe_nil.ended
      exact Ended.posts ended answer (by simp)
  | query kind kept =>
      obtain ⟨posts, answer, ended⟩ := kept.ended
      exact Ended.posts ended answer (by simp [queryEvents])
  | actions kept => exact Concluded.posts kept.ended (moved_not_mem_vContEvents env _ before)
  | resumed safe outcome concluded =>
      obtain ⟨posts, answer, ended⟩ := concluded
      exact ⟨posts, ended.posted, .answered (answer.mono fun _ short _ => short) rfl⟩
  | crashed crash moved =>
      exact ⟨[], by rw [moved.posted, List.append_nil], .crashed rfl crash⟩
  | refused replied => exact Concluded.posts replied (by simp)
  | detached attached replied => exact Concluded.posts replied (by simp)
  | killed live replied => exact Concluded.posts replied (by simp)
  | attached enters outcome replied =>
      refine Concluded.posts replied ?_
      rw [List.mem_append, not_or]
      exact ⟨moved_not_mem_enterEvents _, moved_not_mem_attachEvents outcome⟩
  | failed enters outcome replied => exact Concluded.posts replied (moved_not_mem_enterEvents _)
  | started enters outcome ended =>
      have run (rest : Bytes) : Util.startsWith (ascii "vRun;" ++ rest) (ascii "vRun;") = true := rfl
      refine ⟨[], ended.posted, .started ?_⟩
      rw [runStarted, run, ended.startedBetween]
      simp

/-- The callback is called once when the command was handled, unless the command
was a `vRun` that started the process, and not at all otherwise. -/
def expectedCallbacks (packet : Bytes) (before after : Server) : Option Bool → Nat
  | some true =>
      if Util.startsWith packet (ascii "vRun;") && startedBetween before after then 0 else 1
  | some false | none => 0

theorem Posts.callbacks {env : Env} {before after : Server} {packet : Bytes} {posts : List Post}
    {outcome : Option Bool} (kind : Posts env before after packet outcome posts) :
    posts.countP Post.isResponse = expectedCallbacks packet before after outcome := by
  cases kind with
  | answered answer other =>
      rename_i handled
      rw [answer.callbacks]
      cases handled with
      | false => rfl
      | true => exact (if_neg (Bool.eq_false_iff.mp other)).symm
  | started run => exact (if_pos run).symm
  | crashed resume crash => rfl

/-- The reply contract of `HandleCommand`. -/
theorem handleCommand_callbacks (env : Env) (packet : Bytes) (server : Server) :
    callbacks server (handleCommand env packet server).2 =
      expectedCallbacks packet server (handleCommand env packet server).2
        (handleCommand env packet server).1 := by
  obtain ⟨posts, posted, kind⟩ := (handleCommand_effect env packet server).posts
  rw [callbacks, posted, List.drop_left]
  exact kind.callbacks

end CommandHandler

end Gdbserver
