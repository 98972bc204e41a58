import Gdbserver.Server.Attachment

/-!
# `vCont` runs threads as it is told

The second pass of `Handle_vCont` visits every live thread once. What it asks
of a thread depends on its action, on its state and on whether the kernel
resumes it; the missing `break` shows when the kernel does not.
-/

set_option autoImplicit false

namespace Gdbserver

open Logic Prog Frame

def Event.concerns (tid : Koid) : Event → Bool
  | .resume other | .step other => other = tid
  | .violated _ | .moved _ _ => false

namespace CommandHandler

open Thread (resumable)

/-- What the second pass asks of a thread. -/
def requestsFor (tid : Koid) (action : Action) (state : ThreadState) (resumable : Bool) :
    List Event :=
  match action with
  | .none => []
  | .step => if state = .stopped then [.step tid] else []
  | .continue =>
      if state = .new ∨ state = .stopped then
        .resume tid :: if state = .stopped ∧ resumable = false then [.step tid] else []
      else []

variable (env : Env) (tid : Koid)

theorem stepStopped_ran (server : Server) :
    ∃ after, stepStopped env tid server = (some (), after) ∧
      Ran tid server after (if (server.thread tid).state = .stopped then [.step tid] else []) ∧
      ((server.thread tid).state ≠ .stopped → after = server) := by
  rw [stepStopped, read_bind]
  by_cases stopped : (server.thread tid).state = .stopped
  · obtain ⟨ok, after, ran, asked⟩ := Thread.step_ran env tid server
    rw [if_pos stopped, if_pos stopped]
    exact ⟨after, bind_of_some ran, asked, fun other => absurd stopped other⟩
  · rw [if_neg stopped, if_neg stopped]
    refine ⟨server, rfl, ?_, fun _ => rfl⟩
    exact ⟨⟨rfl, rfl, rfl, rfl, (List.append_nil _).symm⟩, fun _ _ => rfl, fun _ _ => rfl, rfl⟩

theorem resumeStopped_ran (server : Server) :
    ∃ after, resumeStopped env tid server = (some (), after) ∧
      Ran tid server after
        (if (server.thread tid).state = .new ∨ (server.thread tid).state = .stopped then
          [.resume tid] else []) ∧
      (after.thread tid).state =
        if ((server.thread tid).state = .new ∨ (server.thread tid).state = .stopped) ∧
          resumable env tid server then .running else (server.thread tid).state := by
  rw [resumeStopped, read_bind]
  by_cases ready : (server.thread tid).state = .new ∨ (server.thread tid).state = .stopped
  · obtain ⟨ok, after, ran, asked, state⟩ := Thread.resume_ran env tid server
    rw [if_pos ready, if_pos ready]
    exact ⟨after, bind_of_some ran, asked, state⟩
  · rw [if_neg ready, if_neg ready, if_neg fun both => ready both.1]
    refine ⟨server, rfl, ?_, rfl⟩
    exact ⟨⟨rfl, rfl, rfl, rfl, (List.append_nil _).symm⟩, fun _ _ => rfl, fun _ _ => rfl, rfl⟩

/-- A stopped thread that is to continue but that the kernel does not resume
falls through into the case for stepping. -/
def FallsThrough (action : Action) (state : ThreadState) (resumable : Bool) : Prop :=
  action = .continue ∧ state = .stopped ∧ resumable = false

theorem requestsFor_straight {action : Action} {state : ThreadState} {resumable : Bool}
    (straight : ¬ FallsThrough action state resumable) :
    (requestsFor tid action state resumable).length ≤ 1 ∧
      (action = .continue → .step tid ∉ requestsFor tid action state resumable) := by
  cases action <;> cases state <;> cases resumable <;>
    simp_all [FallsThrough, requestsFor]

theorem step_mem_requestsFor {action : Action} {state : ThreadState} {resumable : Bool}
    (falls : FallsThrough action state resumable) :
    .step tid ∈ requestsFor tid action state resumable := by
  obtain ⟨rfl, rfl, rfl⟩ := falls
  exact List.mem_cons_of_mem _ (List.mem_singleton.mpr rfl)

theorem resume_not_mem_requestsFor (state : ThreadState) (resumable : Bool) :
    .resume tid ∉ requestsFor tid .step state resumable := by
  rw [requestsFor]
  split <;> simp

theorem requestsFor_concerns (action : Action) (state : ThreadState) (resumable : Bool) (other : Koid) :
    (requestsFor tid action state resumable).filter (Event.concerns other) =
      if tid = other then requestsFor tid action state resumable else [] := by
  by_cases same : tid = other <;> cases action <;> cases state <;> cases resumable <;>
    simp [requestsFor, Event.concerns, same]

theorem requestsFor_requests (action : Action) (state : ThreadState) (resumable : Bool) :
    (requestsFor tid action state resumable).filter Event.isRequest =
      requestsFor tid action state resumable := by
  cases action <;> cases state <;> cases resumable <;> rfl

theorem runAction_ran (action : Action) (server : Server) :
    ∃ after, runAction env tid action server = (some (), after) ∧
      Ran tid server after
        (requestsFor tid action (server.thread tid).state (resumable env tid server)) ∧
      (action ≠ .step →
        ¬ FallsThrough action (server.thread tid).state (resumable env tid server) →
          (after.thread tid).state = (server.thread tid).state ∨
            action = .continue ∧ (after.thread tid).state = .running) := by
  cases action with
  | none =>
      exact ⟨server, rfl, ⟨⟨rfl, rfl, rfl, rfl, (List.append_nil _).symm⟩, fun _ _ => rfl,
        fun _ _ => rfl, rfl⟩, fun _ _ => Or.inl rfl⟩
  | step =>
      obtain ⟨after, ran, asked, -⟩ := stepStopped_ran env tid server
      exact ⟨after, ran, asked, fun other => absurd rfl other⟩
  | «continue» =>
      obtain ⟨middle, ranResume, first, resumed⟩ := resumeStopped_ran env tid server
      obtain ⟨after, ranStep, second, unchanged⟩ := stepStopped_ran env tid middle
      -- The state `Resume` leaves decides whether `Step` is called.
      have stopped : (middle.thread tid).state = .stopped ↔
          (server.thread tid).state = .stopped ∧ resumable env tid server = false := by
        rw [resumed]
        cases resumable env tid server <;> cases (server.thread tid).state <;> simp
      refine ⟨after, (bind_of_some ranResume).trans ranStep, ?_, fun _ straight => ?_⟩
      · have both := first.trans second
        rw [requestsFor]
        by_cases ready : (server.thread tid).state = .new ∨ (server.thread tid).state = .stopped
        · rw [if_pos ready] at both
          rw [if_pos ready]
          simpa only [stopped, List.cons_append, List.nil_append] using both
        · rw [if_neg ready, if_neg fun now => ready (Or.inr (stopped.mp now).1)] at both
          rw [if_neg ready]
          exact both
      · rw [unchanged fun now => straight ⟨rfl, stopped.mp now⟩, resumed]
        split
        · exact Or.inr ⟨rfl, rfl⟩
        · exact Or.inl rfl

variable (actions : ThreadActionList)

def visit : Prog Server Unit := do
  let state ← read fun server => (server.thread tid).state
  if state ≠ .gone then do
    let pid ← read (·.process.id)
    runAction env tid (actions.getAction pid tid)
  else pure ()

theorem runActions_eq : runActions env actions = (do
    Process.ensureThreadMapFresh env
    let keys ← read (·.process.threads.keys)
    forM keys fun tid => visit env tid actions) := rfl

/-- The action of a thread as the second pass looks it up. -/
def actionOf (server : Server) : Action := actions.getAction server.process.id tid

def threadRequests (server : Server) : List Event :=
  if (server.thread tid).state = .gone then []
  else requestsFor tid (actionOf tid actions server) (server.thread tid).state
    (resumable env tid server)

/-- A thread that is not to be stepped keeps its state, or runs as it was told. -/
def Obeyed (before after : Server) : Prop :=
  actionOf tid actions before ≠ .step →
    ¬ FallsThrough (actionOf tid actions before) (before.thread tid).state
      (resumable env tid before) →
    (after.thread tid).state = (before.thread tid).state ∨
      actionOf tid actions before = .continue ∧ (after.thread tid).state = .running

theorem visit_ran (server : Server) :
    ∃ after, visit env tid actions server = (some (), after) ∧
      Ran tid server after (threadRequests env tid actions server) ∧
      Obeyed env tid actions server after := by
  rw [visit, read_bind]
  by_cases gone : (server.thread tid).state = .gone
  · rw [if_neg (not_not.mpr gone), threadRequests, if_pos gone]
    exact ⟨server, rfl, ⟨⟨rfl, rfl, rfl, rfl, (List.append_nil _).symm⟩, fun _ _ => rfl,
      fun _ _ => rfl, rfl⟩, fun _ _ => Or.inl rfl⟩
  · rw [if_pos gone, read_bind, threadRequests, if_neg gone]
    exact runAction_ran env tid (actionOf tid actions server) server

/-- The threads have been visited one after the other. -/
structure Visited (keys : List Koid) (before after : Server) : Prop where
  posted : after.posted = before.posted
  log : after.log = before.log ++ keys.flatMap fun tid => threadRequests env tid actions before
  others : ∀ tid, tid ∉ keys → after.thread tid = before.thread tid
  obeyed : ∀ tid, tid ∈ keys → Obeyed env tid actions before after

variable {env tid actions}

/-- What is asked of a thread, and what it is told, does not depend on the
threads visited before it. -/
theorem Ran.threadRequests_eq {before after : Server} {requests : List Event}
    (ran : Ran tid before after requests) {other : Koid} (differ : other ≠ tid) :
    actionOf other actions after = actionOf other actions before ∧
      after.thread other = before.thread other ∧
      resumable env other after = resumable env other before := by
  have id : after.process.id = before.process.id := congrArg Lifecycle.id ran.lifecycle
  refine ⟨by rw [actionOf, actionOf, id], ran.others other differ, ?_⟩
  rw [resumable, resumable, Env.now, Env.now, ran.calls other differ]
  rfl

variable (env actions) in
theorem visits_spec (keys : List Koid) (distinct : keys.Nodup) (server : Server) :
    ∃ after, (forM keys fun tid => visit env tid actions) server = (some (), after) ∧
      Visited env actions keys server after := by
  -- no key comes twice, so what a visit does to its own thread is there at the end
  induction keys generalizing server with
  | nil =>
      exact ⟨server, rfl, rfl, (List.append_nil _).symm, fun _ _ => rfl, nofun⟩
  | cons tid rest ih =>
      obtain ⟨fresh, distinctRest⟩ := List.nodup_cons.mp distinct
      obtain ⟨middle, ranHead, ran, obeyed⟩ := visit_ran env tid actions server
      obtain ⟨after, ranRest, visited⟩ := ih distinctRest middle
      have apart : ∀ other ∈ rest, other ≠ tid := fun other member same => fresh (same ▸ member)
      have last : after.thread tid = middle.thread tid := visited.others tid fresh
      refine ⟨after, ?_, ?_, ?_, ?_, ?_⟩
      · rw [List.forM_cons]
        exact (bind_of_some ranHead).trans ranRest
      · exact visited.posted.trans ran.posted
      · have same : (rest.flatMap fun other => threadRequests env other actions middle) =
            rest.flatMap fun other => threadRequests env other actions server := by
          refine List.flatMap_congr fun other member => ?_
          obtain ⟨action, thread, answer⟩ := Ran.threadRequests_eq ran (apart other member)
          rw [threadRequests, threadRequests, action, thread, answer]
        rw [visited.log, ran.log, same, List.flatMap_cons, ← List.append_assoc]
        rfl
      · intro other outside
        obtain ⟨differ, outsideRest⟩ := not_or.mp (mt List.mem_cons.mpr outside)
        exact (visited.others other outsideRest).trans (ran.others other differ)
      · intro other member
        rcases List.mem_cons.mp member with head | inRest
        · rw [head, Obeyed, last]
          exact obeyed
        · have later := visited.obeyed other inRest
          obtain ⟨action, thread, answer⟩ := Ran.threadRequests_eq ran (apart other inRest)
          rwa [Obeyed, action, thread, answer] at later

variable (env) (packet : Bytes)

/-- The checks of `Handle_vCont` on a valid list, up to the second pass. -/
def examine (actions : ThreadActionList) : Prog Server Bool := do
  let process ← read (·.process)
  dcheck .vContLive process.isLive
  dcheck .vContAttached process.isAttached
  resolvePickOnes env actions.actions
  inspectLiveThreads env (actionsOk actions)

/-- `Handle_vCont` up to the second pass, which is reached with `true`. -/
def vContFirstPass : Prog Server Bool := do
  if !(← read (·.hasProcess)) then pure false
  else do
    let stack ← ask env .uninitialized
    let id ← read (·.process.id)
    let actions := ThreadActionList.ofString env.ftl stack packet id
    dcheck .entryPid (actions.actions.all fun entry => entry.pid ≠ 0)
    if !actions.valid then pure false else examine env actions

def vContRest (ok : Bool) (code : Util.ErrorCode) (actions : ThreadActionList) : Prog Server Bool :=
  if !ok then replyWithError env code
  else do
    runActions env actions
    replyOK

theorem applyActions_passes (actions : ThreadActionList) (server : Server) :
    ∃ ok start, examine env actions server = (some ok, start) ∧
      Quiet (server.observe (applyActionsEvents server)) start ∧
      applyActions env actions server = vContRest env ok .inval actions start := by
  let checked := server.observe (applyActionsEvents server)
  obtain ⟨_, resolved, ranResolve, quietResolve⟩ := resolvePickOnes_quiet env actions.actions checked
  obtain ⟨ok, start, ranInspect, quietInspect⟩ :=
    inspectLiveThreads_quiet env (actionsOk actions) resolved
  refine ⟨ok, start, ?_, quiet.trans quietResolve quietInspect, ?_⟩
  · have reduced : examine env actions server = (do
        resolvePickOnes env actions.actions
        inspectLiveThreads env (actionsOk actions) : Prog Server Bool) checked := by
      simp only [examine, dcheck_eq, read_bind, modify_bind, Server.observe, applyActionsEvents,
        List.append_assoc, checked]
    rw [reduced]
    exact (bind_of_some ranResolve).trans ranInspect
  · rw [applyActions_checked]
    exact (bind_of_some ranResolve).trans (bind_of_some ranInspect)

theorem asserted_filter (check : Check) (condition : Bool) :
    (asserted check condition).filter Event.isRequest = [] := by
  cases condition <;> rfl

/-- The first pass runs no thread, and decides how the command goes on. -/
theorem handle_vCont_passes (server : Server) :
    ∃ ok code start events, vContFirstPass env packet server = (some ok, start) ∧
      Quiet (server.observe events) start ∧ events.filter Event.isRequest = [] ∧
      handle_vCont env packet server =
        vContRest env ok code (vContActions env packet server) start := by
  cases has : server.hasProcess with
  | false =>
      refine ⟨false, .perm, server, [], ?_, ⟨rfl, rfl, rfl, rfl, (List.append_nil _).symm⟩, rfl, ?_⟩
      · simp only [vContFirstPass, read_bind, has]
        rfl
      · simp only [handle_vCont, read_bind, has]
        rfl
  | true =>
      let actions := vContActions env packet server
      let checked := asserted .entryPid (actions.actions.all fun entry => entry.pid ≠ 0)
      let entered := (server.asked .uninitialized).observe checked
      have first : vContFirstPass env packet server =
          (if !actions.valid then pure false else examine env actions) entered := by
        simp only [vContFirstPass, read_bind, has, dcheck_eq]
        rfl
      rw [first, handle_vCont_parsed env packet server has]
      cases valid : actions.valid with
      | false =>
          exact ⟨false, .inval, entered, checked, rfl, ⟨rfl, rfl, rfl, rfl, rfl⟩,
            asserted_filter _ _, rfl⟩
      | true =>
          obtain ⟨ok, start, ran, same, rest⟩ := applyActions_passes env actions entered
          refine ⟨ok, .inval, start, checked ++ applyActionsEvents server, ran, ?_, ?_, ?_⟩
          · have split : Quiet (server.observe (checked ++ applyActionsEvents server))
                (entered.observe (applyActionsEvents entered)) :=
              ⟨rfl, rfl, rfl, rfl, (List.append_assoc ..)⟩
            exact quiet.trans split same
          · simp only [applyActionsEvents, List.filter_append, asserted_filter, checked,
              List.append_nil]
          · exact rest

/-- The state in which the second pass visits the threads. -/
def vContStart (server : Server) : Server :=
  (Process.ensureThreadMapFresh env (vContFirstPass env packet server).2).2

theorem runActions_visited (actions : ThreadActionList) (server : Server) :
    ∃ fresh after, Process.ensureThreadMapFresh env server = (some (), fresh) ∧
      Quiet server fresh ∧ runActions env actions server = (some (), after) ∧
      Visited env actions fresh.process.threads.keys fresh after := by
  obtain ⟨_, fresh, refreshed, same⟩ := Process.ensureThreadMapFresh_quiet env server
  obtain ⟨after, ran, visited⟩ :=
    visits_spec env actions fresh.process.threads.keys fresh.process.threads.nodup fresh
  refine ⟨fresh, after, refreshed, same, ?_, visited⟩
  rw [runActions_eq]
  exact (bind_of_some refreshed).trans ran

/-- The requests to run a thread that were made between two states. -/
def requestsBetween (before after : Server) : List Event :=
  (after.log.drop before.log.length).filter Event.isRequest

def requestsOf (tid : Koid) (before after : Server) : List Event :=
  (requestsBetween before after).filter (Event.concerns tid)

theorem threadRequests_concerns (tid other : Koid) (actions : ThreadActionList) (server : Server) :
    (threadRequests env tid actions server).filter (Event.concerns other) =
      if tid = other then threadRequests env tid actions server else [] := by
  rw [threadRequests]
  split
  · exact (ite_self _).symm
  · exact requestsFor_concerns tid _ _ _ other

theorem threadRequests_requests (tid : Koid) (actions : ThreadActionList) (server : Server) :
    (threadRequests env tid actions server).filter Event.isRequest =
      threadRequests env tid actions server := by
  rw [threadRequests]
  split
  · rfl
  · exact requestsFor_requests tid _ _ _

theorem flatMap_threadRequests (actions : ThreadActionList) (server : Server) (tid : Koid)
    (keys : List Koid) (distinct : keys.Nodup) :
    (keys.flatMap fun other => threadRequests env other actions server).filter
        (Event.concerns tid) =
      if tid ∈ keys then threadRequests env tid actions server else [] := by
  induction keys with
  | nil => rfl
  | cons head rest ih =>
      obtain ⟨fresh, distinctRest⟩ := List.nodup_cons.mp distinct
      rw [List.flatMap_cons, List.filter_append, threadRequests_concerns, ih distinctRest]
      by_cases same : head = tid
      · subst same
        rw [if_pos rfl, if_neg fresh, if_pos List.mem_cons_self, List.append_nil]
      · have tail : tid ∈ head :: rest ↔ tid ∈ rest := by
          rw [List.mem_cons, or_iff_right (Ne.symm same)]
        rw [if_neg same, List.nil_append]
        exact if_congr tail.symm rfl rfl

def repliedOK (before after : Server) : Prop :=
  after.posted = before.posted ++ [.write false (ascii "OK")]

/-- What a `vCont` command that reads as `actions` and visits the threads of
`start` is to do between two states. -/
structure DoesAsTold (actions : ThreadActionList) (start before after : Server) : Prop where
  refused : ¬ repliedOK before after → requestsBetween before after = []
  continued : repliedOK before after → ∀ tid ∈ liveThreadIds start,
    actionOf tid actions start = .continue →
      .step tid ∉ requestsOf tid before after ∧
        ((after.thread tid).state = .stepping → (start.thread tid).state = .stepping)
  stepped : repliedOK before after → ∀ tid ∈ start.process.threads.keys,
    actionOf tid actions start = .step → .resume tid ∉ requestsOf tid before after
  idle : repliedOK before after → ∀ tid ∈ start.process.threads.keys,
    actionOf tid actions start = .none → (after.thread tid).state = (start.thread tid).state
  once : repliedOK before after → ∀ tid, (requestsOf tid before after).length ≤ 1

/-- The kernel resumes every stopped thread that is to continue. -/
def ContinuesStopped (actions : ThreadActionList) (start : Server) : Prop :=
  ∀ tid ∈ liveThreadIds start, actionOf tid actions start = .continue →
    (start.thread tid).state = .stopped → resumable env tid start = true

theorem ContinuesStopped.straight {env : Env} {actions : ThreadActionList} {start : Server}
    (continues : ContinuesStopped env actions start) {tid : Koid}
    (member : tid ∈ start.process.threads.keys) :
    ¬ FallsThrough (actionOf tid actions start) (start.thread tid).state
      (resumable env tid start) := by
  rintro ⟨action, stopped, refused⟩
  have live : tid ∈ liveThreadIds start := by
    refine List.mem_filter.mpr ⟨member, ?_⟩
    rw [stopped]
    rfl
  rw [continues tid live action stopped] at refused
  exact Bool.false_ne_true refused.symm

theorem threadRequests_straight {tid : Koid} {actions : ThreadActionList} {start : Server}
    (straight : ¬ FallsThrough (actionOf tid actions start) (start.thread tid).state
      (resumable env tid start)) :
    (threadRequests env tid actions start).length ≤ 1 ∧
      (actionOf tid actions start = .continue →
        .step tid ∉ threadRequests env tid actions start) := by
  rw [threadRequests]
  split
  · exact ⟨Nat.zero_le _, fun _ => List.not_mem_nil⟩
  · exact requestsFor_straight tid straight

theorem threadRequests_of_live {tid : Koid} {actions : ThreadActionList} {start : Server}
    (live : tid ∈ liveThreadIds start) :
    threadRequests env tid actions start =
      requestsFor tid (actionOf tid actions start) (start.thread tid).state
        (resumable env tid start) :=
  if_neg (of_decide_eq_true (List.mem_filter.mp live).2)

/-- A second pass that visits every thread does as told just when none falls through. -/
theorem Visited.doesAsTold_iff {env : Env} {actions : ThreadActionList}
    {start finished before : Server} {posts : List Post}
    (visited : Visited env actions start.process.threads.keys start finished)
    (replied : repliedOK before (finished.post posts))
    (asked : ∀ tid, requestsOf tid before (finished.post posts) =
      if tid ∈ start.process.threads.keys then threadRequests env tid actions start else []) :
    DoesAsTold actions start before (finished.post posts) ↔
      ContinuesStopped env actions start := by
  constructor
  · intro told tid live action stopped
    by_contra refused
    have member := (List.mem_filter.mp live).1
    refine (told.continued replied tid live action).1 ?_
    rw [asked, if_pos member, threadRequests_of_live env live]
    exact step_mem_requestsFor tid ⟨action, stopped, Bool.eq_false_of_not_eq_true refused⟩
  · intro continues
    refine ⟨fun wrong => absurd replied wrong, fun _ tid live action => ?_,
      fun _ tid member action => ?_, fun _ tid member action => ?_, fun _ tid => ?_⟩
    · have member := (List.mem_filter.mp live).1
      have straight := continues.straight member
      refine ⟨?_, fun stepping => ?_⟩
      · rw [asked, if_pos member]
        exact (threadRequests_straight env straight).2 action
      · rcases visited.obeyed tid member (by rw [action]; nofun) straight with same | ⟨-, running⟩
        · exact same.symm.trans stepping
        · exact nomatch running.symm.trans stepping
    · rw [asked, if_pos member, threadRequests]
      split
      · exact List.not_mem_nil
      · rw [action]
        exact resume_not_mem_requestsFor tid _ _
    · rcases visited.obeyed tid member (by rw [action]; nofun) (continues.straight member)
        with same | ⟨other, -⟩
      · exact same
      · exact nomatch action.symm.trans other
    · rw [asked]
      split
      · exact (threadRequests_straight env (continues.straight ‹_›)).1
      · exact Nat.zero_le _

theorem requestsBetween_eq {before after : Server} {events requests : List Event}
    (log : after.log = before.log ++ events ++ requests)
    (none : events.filter Event.isRequest = []) :
    requestsBetween before after = requests.filter Event.isRequest := by
  rw [requestsBetween, log, List.append_assoc, List.drop_left, List.filter_append, none,
    List.nil_append]

theorem Visited.requestsOf_eq {env : Env} {actions : ThreadActionList}
    {start finished before : Server} {events : List Event}
    (visited : Visited env actions start.process.threads.keys start finished)
    (log : start.log = before.log ++ events) (none : events.filter Event.isRequest = [])
    (posts : List Post) (tid : Koid) :
    requestsOf tid before (finished.post posts) =
      if tid ∈ start.process.threads.keys then threadRequests env tid actions start else [] := by
  have between := @requestsBetween_eq before (finished.post posts) events _
    (visited.log.trans (by rw [log])) none
  rw [requestsOf, between, List.filter_flatMap]
  simp only [threadRequests_requests]
  exact flatMap_threadRequests env actions start tid _ start.process.threads.nodup

/-- `vCont` does what it is told unless the missing `break` is felt: the second
pass is reached, and the kernel does not resume a stopped thread that is to
continue. -/
theorem handle_vCont_doesAsTold_iff (server : Server) :
    DoesAsTold (vContActions env packet server) (vContStart env packet server) server
        (handle_vCont env packet server).2 ↔
      ((vContFirstPass env packet server).1 = some true →
        ContinuesStopped env (vContActions env packet server)
          (vContStart env packet server)) := by
  obtain ⟨ok, code, start, events, first, same, none, rest⟩ :=
    handle_vCont_passes env packet server
  rw [rest, vContStart, first]
  cases ok with
  | false =>
      have after : (vContRest env false code (vContActions env packet server) start).2 =
          start.post [.write false (Util.buildErrorPacket env.ftl code)] := rfl
      have refused : ¬ repliedOK server
          (start.post [.write false (Util.buildErrorPacket env.ftl code)]) := by
        rw [repliedOK, Server.post, same.posted]
        simp [Server.observe, Util.buildErrorPacket, ascii, chr]
      have requests := @requestsBetween_eq server
        (start.post [.write false (Util.buildErrorPacket env.ftl code)]) events []
        (same.log.trans (List.append_nil _).symm) none
      rw [after]
      exact iff_of_true
        ⟨fun _ => requests, fun wrong => absurd wrong refused, fun wrong => absurd wrong refused,
          fun wrong => absurd wrong refused, fun wrong => absurd wrong refused⟩
        fun wrong => absurd (Option.some.inj wrong) Bool.false_ne_true
  | true =>
      obtain ⟨fresh, finished, refreshed, kept, ran, visited⟩ :=
        runActions_visited env (vContActions env packet server) start
      have after : (vContRest env true code (vContActions env packet server) start).2 =
          finished.post [.write false (ascii "OK")] :=
        congrArg Prod.snd (bind_of_some ran)
      have log : fresh.log = server.log ++ events := kept.log.trans same.log
      have replied : repliedOK server (finished.post [.write false (ascii "OK")]) := by
        rw [repliedOK, Server.post, visited.posted, kept.posted, same.posted]
        rfl
      rw [after, refreshed]
      exact (visited.doesAsTold_iff replied (visited.requestsOf_eq log none _)).trans
        ⟨fun continues _ => continues, fun continues => continues rfl⟩

open Debugserver (obliging obligingAnswer program started untilFirstThread)

def reluctant : Env :=
  { obliging with
    answer := fun
      | .taskResume _, 0 => (-1 : Int)
      | call, time => obligingAnswer call time }

def firstThreadStarted : Server :=
  (run (RspServer.handle reluctant) untilFirstThread (started reluctant program)).2.core

/-- Told to continue, the thread is resumed, and stepped when that fails. -/
theorem vCont_continue_steps :
    let after := (handle_vCont reluctant (ascii "c") firstThreadStarted).2
    liveThreadIds (vContStart reluctant (ascii "c") firstThreadStarted) = [9] ∧
      actionOf 9 (vContActions reluctant (ascii "c") firstThreadStarted)
        (vContStart reluctant (ascii "c") firstThreadStarted) = .continue ∧
      (firstThreadStarted.thread 9).state = .stopped ∧
      requestsBetween firstThreadStarted after = [.resume 9, .step 9] ∧
      (after.thread 9).state = .stepping ∧
      after.posted = firstThreadStarted.posted ++ [.write false (ascii "OK")] := by
  decide +kernel

end CommandHandler

end Gdbserver
