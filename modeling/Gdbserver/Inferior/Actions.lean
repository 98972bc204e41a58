import Gdbserver.Inferior.Effects
import Gdbserver.Inferior.SingleStep

/-!
# What a function of the server can do

The functions behind the commands take one of a few actions after another. What
is to hold of a whole command is shown for each kind of action once.
-/

set_option autoImplicit false

namespace Gdbserver

open Logic Prog Frame

/-- What a key of the map leads to once another object has been stored. -/
theorem ThreadMap.insert_thread {threads : ThreadMap} {tid other : Koid} {thread : Thread}
    (member : other ∈ (threads.insert tid thread).keys) :
    (other = tid ∧ (threads.insert tid thread).thread other = thread) ∨
      (other ∈ threads.keys ∧ (threads.insert tid thread).thread other = threads.thread other) := by
  by_cases same : other = tid
  · subst same
    refine Or.inl ⟨rfl, ?_⟩
    unfold insert
    split <;> exact Function.update_self ..
  · right
    unfold insert at member ⊢
    split at member
    · rename_i present
      rw [dif_pos present]
      exact ⟨member, Function.update_of_ne same ..⟩
    · rename_i absent
      rw [dif_neg absent]
      refine ⟨(List.mem_append.mp member).resolve_right fun last => ?_,
        Function.update_of_ne same ..⟩
      exact same (List.mem_singleton.mp last)

theorem ThreadMap.mem_insert (tid : Koid) (threads : ThreadMap) (thread : Thread) :
    tid ∈ (threads.insert tid thread).keys := by
  unfold ThreadMap.insert
  split
  · assumption
  · exact List.mem_append.mpr (Or.inr List.mem_cons_self)

/-- An object nothing has been done with yet. -/
structure Thread.Fresh (thread : Thread) : Prop where
  state : thread.state = .new
  gregs : thread.gregs = fun _ => 0
  singleStepBreakpoint : thread.singleStepBreakpoint = none

/-- The thread that a call reads, writes or resumes. -/
def Call.thread? : Call → Option Koid
  | .threadReadState tid | .threadWriteState tid | .taskResume tid => some tid
  | _ => none

/-- The answers to a call from one state to a later one. -/
def Env.answersBetween (env : Env) (call : Call) (before after : Server) : List call.Answer :=
  (List.range' (before.calls call) (after.calls call - before.calls call)).map (env.answer call)

namespace Env

variable (env : Env) {call : Call} {before middle after : Server}

theorem answersBetween_append (first : before.calls call ≤ middle.calls call)
    (second : middle.calls call ≤ after.calls call) :
    env.answersBetween call before after =
      env.answersBetween call before middle ++ env.answersBetween call middle after := by
  have total : after.calls call - before.calls call =
      (middle.calls call - before.calls call) + (after.calls call - middle.calls call) := by omega
  have resumed : middle.calls call =
      before.calls call + (middle.calls call - before.calls call) := by omega
  simp only [answersBetween]
  rw [total, ← List.range'_append_1, List.map_append, ← resumed]

theorem answersBetween_same (same : after.calls call = before.calls call) :
    env.answersBetween call before after = [] := by
  simp [answersBetween, same]

theorem answersBetween_asked (asked : after.calls call = before.calls call + 1) :
    env.answersBetween call before after = [env.now call before] := by
  simp [answersBetween, asked, Env.now]

theorem now_mem_answersBetween (asked : after.calls call = before.calls call + 1) :
    env.now call before ∈ env.answersBetween call before after := by
  rw [env.answersBetween_asked asked]
  exact List.mem_singleton_self _

end Env

/-- The objects of the map have been created and no two keys share one. -/
structure ThreadMap.Identified (threads : ThreadMap) (objects : Nat) : Prop where
  created : ∀ tid ∈ threads.keys, (threads.thread tid).object < objects
  own : ∀ tid ∈ threads.keys, ∀ other ∈ threads.keys,
    (threads.thread tid).object = (threads.thread other).object → tid = other

namespace ThreadMap.Identified

variable {threads : ThreadMap} {objects : Nat}

theorem of_empty (empty : threads.keys = []) : threads.Identified objects := by
  constructor
  · intro tid member
    rw [empty] at member
    exact absurd member List.not_mem_nil
  · intro tid member
    rw [empty] at member
    exact absurd member List.not_mem_nil

theorem mono {more : Nat} (identified : threads.Identified objects) (le : objects ≤ more) :
    threads.Identified more :=
  ⟨fun tid member => Nat.lt_of_lt_of_le (identified.created tid member) le, identified.own⟩

/-- The number of objects so far is what tells a new object from them. -/
theorem insert (identified : threads.Identified objects) (tid : Koid) {thread : Thread}
    (new : thread.object = objects) : (threads.insert tid thread).Identified (objects + 1) := by
  constructor
  · intro key member
    rcases insert_thread member with ⟨_, same⟩ | ⟨before, same⟩
    · rw [same, new]
      exact Nat.lt_succ_self objects
    · rw [same]
      exact Nat.lt_succ_of_lt (identified.created key before)
  · intro key member other memberOther equal
    rcases insert_thread member with ⟨isNew, same⟩ | ⟨before, same⟩ <;>
      rcases insert_thread memberOther with ⟨isNewOther, sameOther⟩ | ⟨beforeOther, sameOther⟩ <;>
        rw [same, sameOther] at equal
    · exact isNew.trans isNewOther.symm
    · exact absurd (equal.symm.trans new) (Nat.ne_of_lt (identified.created other beforeOther))
    · exact absurd (equal.trans new) (Nat.ne_of_lt (identified.created key before))
    · exact identified.own key before other beforeOther equal

/-- Changing a thread leaves its object the same. -/
theorem set (identified : threads.Identified objects) (tid : Koid) {thread : Thread}
    (same : thread.object = (threads.thread tid).object) :
    (threads.set tid thread).Identified objects := by
  have object (key : Koid) : ((threads.set tid thread).thread key).object =
      (threads.thread key).object := by
    by_cases at_ : key = tid
    · rw [at_, ← same]
      exact congrArg Thread.object (Function.update_self ..)
    · exact congrArg Thread.object (Function.update_of_ne at_ ..)
  constructor
  · intro key member
    rw [object]
    exact identified.created key member
  · intro key member other memberOther equal
    rw [object, object] at equal
    exact identified.own key member other memberOther equal

end ThreadMap.Identified

/-- The weak pointer to the current thread refers to an object created before. -/
structure Server.Identified (server : Server) : Prop where
  threads : server.process.threads.Identified server.objects
  current : ∀ object ∈ server.currentThread, object < server.objects

/-- No thread is worked on: the objects of the map are those of before, or new. -/
structure Aside (before after : Server) : Prop where
  threads : ∀ tid ∈ after.process.threads.keys,
    (tid ∈ before.process.threads.keys ∧ after.thread tid = before.thread tid) ∨
      (after.thread tid).Fresh
  registers : after.kernel.registers = before.kernel.registers
  calls : ∀ call, call.thread? ≠ none → after.calls call = before.calls call
  posted : after.posted = before.posted
  breakpoints : after.process.breakpoints = before.process.breakpoints
  identified : before.Identified → after.Identified

theorem Aside.of_same {before after : Server}
    (threads : after.process.threads = before.process.threads)
    (registers : after.kernel.registers = before.kernel.registers)
    (calls : after.calls = before.calls) (posted : after.posted = before.posted)
    (breakpoints : after.process.breakpoints = before.process.breakpoints)
    (current : after.currentThread = before.currentThread)
    (objects : before.objects ≤ after.objects) : Aside before after := by
  refine ⟨fun tid member => Or.inl ⟨threads ▸ member, ?_⟩, registers, fun _ _ => by rw [calls],
    posted, breakpoints, fun identified => ?_⟩
  · rw [Server.thread, Server.thread, threads]
  · constructor
    · rw [threads]
      exact identified.threads.mono objects
    · rw [current]
      exact fun object member => Nat.lt_of_lt_of_le (identified.current object member) objects

def Server.storeRegisters (server : Server) (tid : Koid) (gregs : RegisterSet) : Server :=
  { server with
    kernel := { server.kernel with
      registers := Function.update server.kernel.registers tid gregs } }

theorem Server.storeRegisters_registers (server : Server) (tid : Koid) (gregs : RegisterSet) :
    (server.storeRegisters tid gregs).kernel.registers tid = gregs := Function.update_self ..

namespace Registers

variable {env : Env} {tid : Koid} {server : Server} (known : env.arch ≠ .other)
include known

/-- The kernel is not asked about a new thread. -/
theorem refreshGeneralRegisters_new (new : (server.thread tid).state = .new) :
    refreshGeneralRegisters env tid server =
      (some true, server.setThread tid { server.thread tid with gregs := fun _ => 0 }) := by
  rw [refreshGeneralRegisters]
  cases arch : env.arch with
  | other => exact absurd arch known
  | amd64 | arm64 =>
      dsimp only
      rw [read_bind, if_pos new]
      rfl

theorem refreshGeneralRegisters_used (used : (server.thread tid).state ≠ .new) :
    refreshGeneralRegisters env tid server =
      if env.now (.threadReadState tid) server < (0 : Int) then
        (some false, server.asked (.threadReadState tid))
      else (some true, (server.asked (.threadReadState tid)).setThread tid
        { server.thread tid with gregs := server.kernel.registers tid }) := by
  rw [refreshGeneralRegisters]
  cases arch : env.arch with
  | other => exact absurd arch known
  | amd64 | arm64 =>
      dsimp only
      rw [read_bind, if_neg used, ask_bind]
      split <;> rfl

theorem writeGeneralRegisters_known :
    writeGeneralRegisters env tid server =
      if env.now (.threadWriteState tid) server < (0 : Int) then
        (some false, server.asked (.threadWriteState tid))
      else (some true, (server.asked (.threadWriteState tid)).storeRegisters tid
        (server.thread tid).gregs) := by
  rw [writeGeneralRegisters]
  cases arch : env.arch with
  | other => exact absurd arch known
  | amd64 | arm64 =>
      dsimp only
      rw [ask_bind]
      split <;> rfl

end Registers

/-- What else than working on registers may be done: the posts, and the threads
that are resumed, found stopped, or let go. -/
structure Permits where
  posts : Post → Prop
  resumes : Koid → Prop
  halts : Koid → Prop
  exits : Koid → Prop

/-- A command resumes threads, but only an exception stops them. -/
def Permits.command (posts : Post → Prop) : Permits :=
  ⟨posts, fun _ => True, fun _ => False, fun _ => False⟩

/-- An action on one thread. The calls come with what is done about their answer. -/
inductive Touch (env : Env) (allowed : Permits) (tid : Koid) : Server → Server → Prop where
  | zeroed (server : Server) (new : (server.thread tid).state = .new) :
      Touch env allowed tid server
        (server.setThread tid { server.thread tid with gregs := fun _ => 0 })
  | unread (server : Server) (refused : env.now (.threadReadState tid) server < (0 : Int)) :
      Touch env allowed tid server (server.asked (.threadReadState tid))
  | refreshed (server : Server) (granted : ¬ env.now (.threadReadState tid) server < (0 : Int)) :
      Touch env allowed tid server ((server.asked (.threadReadState tid)).setThread tid
        { server.thread tid with gregs := server.kernel.registers tid })
  | unstored (server : Server) (gregs : RegisterSet)
      (refused : env.now (.threadWriteState tid) server < (0 : Int)) :
      Touch env allowed tid server ((server.setThread tid
        { server.thread tid with gregs := gregs }).asked (.threadWriteState tid))
  | stored (server : Server) (gregs : RegisterSet)
      (granted : ¬ env.now (.threadWriteState tid) server < (0 : Int)) :
      Touch env allowed tid server (((server.setThread tid
        { server.thread tid with gregs := gregs }).asked (.threadWriteState tid)).storeRegisters
          tid gregs)
  | marked (server : Server) (breakpoint : Option UInt64) :
      Touch env allowed tid server (server.setThread tid
        { server.thread tid with singleStepBreakpoint := breakpoint })
  | unresumed (server : Server) (may : allowed.resumes tid)
      (refused : env.now (.taskResume tid) server < (0 : Int)) :
      Touch env allowed tid server (server.asked (.taskResume tid))
  | resumed (server : Server) (may : allowed.resumes tid) (state : ThreadState)
      (granted : ¬ env.now (.taskResume tid) server < (0 : Int))
      (ready : (state = .running ∧
          ((server.thread tid).state = .stopped ∨ (server.thread tid).state = .new)) ∨
        (state = .stepping ∧ (server.thread tid).state = .stopped)) :
      Touch env allowed tid server ((server.asked (.taskResume tid)).setThread tid
        { server.thread tid with state := state })
  | halted (server : Server) (may : allowed.halts tid) (context : ExceptionContext) :
      Touch env allowed tid server (server.setThread tid
        { server.thread tid with exceptionContext := some context, state := .stopped })
  | left (server : Server) (may : allowed.exits tid) :
      Touch env allowed tid server ((server.asked (.taskResume tid)).setThread tid
        { server.thread tid with state := .gone })

def Server.Stopped (tid : Koid) (server : Server) : Prop :=
  tid ∈ server.process.threads.keys ∧ (server.thread tid).state = .stopped

/-- Nothing is done with this thread. If the map holds another object for it now,
that one is new. -/
structure Spared (tid : Koid) (before after : Server) : Prop where
  thread : tid ∈ after.process.threads.keys →
    (tid ∈ before.process.threads.keys ∧ after.thread tid = before.thread tid) ∨
      (after.thread tid).Fresh
  registers : after.kernel.registers tid = before.kernel.registers tid
  calls : ∀ call, call.thread? = some tid → after.calls call = before.calls call

theorem Touch.others {env : Env} {allowed : Permits} {tid other : Koid} {before after : Server}
    (touch : Touch env allowed tid before after) (differ : other ≠ tid) :
    Spared other before after := by
  have thread (server : Server) (update : Thread) :
      (server.setThread tid update).thread other = server.thread other :=
    Function.update_of_ne differ ..
  have registers (server : Server) (gregs : RegisterSet) :
      (server.storeRegisters tid gregs).kernel.registers other = server.kernel.registers other :=
    Function.update_of_ne differ ..
  have calls (server : Server) {made : Call} (on : made.thread? = some tid) (call : Call)
      (onOther : call.thread? = some other) : (server.asked made).calls call = server.calls call :=
    server.asked_calls fun same =>
      differ (Option.some.inj (onOther.symm.trans ((congrArg Call.thread? same).trans on)))
  cases touch with
  | zeroed | marked | halted =>
      exact ⟨fun member => Or.inl ⟨member, thread ..⟩, rfl, fun _ _ => rfl⟩
  | unread | unresumed => exact ⟨fun member => Or.inl ⟨member, rfl⟩, rfl, calls _ rfl⟩
  | refreshed | unstored | resumed | left =>
      exact ⟨fun member => Or.inl ⟨member, thread ..⟩, rfl, calls _ rfl⟩
  | stored => exact ⟨fun member => Or.inl ⟨member, thread ..⟩, registers .., calls _ rfl⟩

inductive Act (env : Env) (allowed : Permits) : Server → Server → Prop where
  | aside {before after : Server} (kept : Aside before after) : Act env allowed before after
  | posted (server : Server) (post : Post) (may : allowed.posts post) :
      Act env allowed server { server with posted := server.posted ++ [post] }
  | touched {before after : Server} {tid : Koid} (touch : Touch env allowed tid before after) :
      Act env allowed before after

/-- For a thread, every action is one on it or one that spares it. -/
theorem Act.spares {env : Env} {allowed : Permits} {before after : Server}
    (act : Act env allowed before after) (tid : Koid) :
    Spared tid before after ∨ Touch env allowed tid before after := by
  cases act with
  | aside kept =>
      refine Or.inl ⟨kept.threads tid, congrFun kept.registers tid, fun call on => ?_⟩
      exact kept.calls call (by rw [on]; nofun)
  | posted post may =>
      exact Or.inl ⟨fun member => Or.inl ⟨member, rfl⟩, rfl, fun _ _ => rfl⟩
  | touched touch =>
      rename_i other
      by_cases same : tid = other
      · exact Or.inr (same ▸ touch)
      · exact Or.inl (touch.others same)

/-- The frame of functions that act in these ways only. -/
def acting (env : Env) (allowed : Permits) : Frame Server := Frame.steps (Act env allowed)

section Acting

variable {env : Env} {allowed : Permits}

theorem Aside.keeps {α : Type} {program : Prog Server α}
    (each : ∀ server, Aside server (program server).2) : (acting env allowed).Keeps program :=
  Keeps.step fun server => .aside (each server)

theorem ask_acts {call : Call} (other : call.thread? = none) :
    (acting env allowed).Keeps (ask env call) :=
  Aside.keeps fun server =>
    ⟨fun _ member => Or.inl ⟨member, rfl⟩, rfl,
      fun _ isThread => server.asked_calls fun same => isThread (same ▸ other), rfl, rfl,
      fun identified => ⟨identified.threads, identified.current⟩⟩

theorem record_acts (event : Event) : (acting env allowed).Keeps (record event) :=
  Aside.keeps fun _ => .of_same rfl rfl rfl rfl rfl rfl le_rfl

theorem dcheck_acts (check : Check) (condition : Bool) :
    (acting env allowed).Keeps (dcheck check condition) :=
  Keeps.ite (fun _ => Keeps.pure) fun _ => record_acts _

theorem modifyProcess_acts {update : Process → Process}
    (threads : ∀ process, (update process).threads = process.threads)
    (breakpoints : ∀ process, (update process).breakpoints = process.breakpoints) :
    (acting env allowed).Keeps (modifyProcess update) :=
  Aside.keeps fun server => .of_same (threads server.process) rfl rfl rfl
    (breakpoints server.process) rfl le_rfl

variable (tid : Koid)

theorem Registers.refreshGeneralRegisters_acts :
    (acting env allowed).Keeps (refreshGeneralRegisters env tid) := by
  intro server
  by_cases known : env.arch = .other
  · rw [refreshGeneralRegisters, known]
    exact .refl
  by_cases new : (server.thread tid).state = .new
  · rw [refreshGeneralRegisters_new known new]
    exact .single (.touched (.zeroed server new))
  rw [refreshGeneralRegisters_used known new]
  by_cases refused : env.now (.threadReadState tid) server < (0 : Int)
  · rw [if_pos refused]
    exact .single (.touched (.unread server refused))
  · rw [if_neg refused]
    exact .single (.touched (.refreshed server refused))

/-- The cache is changed first and written to the kernel afterwards. -/
theorem storeRegisters_acts (update : RegisterSet → Option RegisterSet)
    (known : env.arch = .other → ∀ gregs, update gregs = none) :
    (acting env allowed).Keeps (do
      if !(← Thread.updateRegisters tid update) then pure false
      else Registers.writeGeneralRegisters env tid) := by
  intro server
  cases updated : update (server.thread tid).gregs with
  | none =>
      have ran : Thread.updateRegisters tid update server = (some false, server) := by
        rw [Thread.updateRegisters, read_bind, updated]
        rfl
      rw [bind_of_some ran]
      exact .refl
  | some gregs =>
      let changed := server.setThread tid { server.thread tid with gregs := gregs }
      have ran : Thread.updateRegisters tid update server = (some true, changed) := by
        rw [Thread.updateRegisters, read_bind, updated]
        rfl
      have cached : (changed.thread tid).gregs = gregs := by rw [Server.thread_setThread]
      have arch : env.arch ≠ .other := by
        intro other
        rw [known other] at updated
        cases updated
      rw [bind_of_some ran, if_not_true, Registers.writeGeneralRegisters_known arch, cached]
      by_cases refused : env.now (.threadWriteState tid) changed < (0 : Int)
      · rw [if_pos refused]
        exact .single (.touched (.unstored server gregs refused))
      · rw [if_neg refused]
        exact .single (.touched (.stored server gregs refused))

theorem Registers.getPC_acts : (acting env allowed).Keeps (getPC env tid) := by
  refine Keeps.bind Keeps.read fun gregs => ?_
  split
  · exact Keeps.pure
  · exact Keeps.bind (ask_acts rfl) fun _ => Keeps.pure

namespace Thread

theorem setRflagsTF_acts (enable : Bool) :
    (acting env allowed).Keeps (setRflagsTF env tid enable) :=
  Keeps.bind (Registers.refreshGeneralRegisters_acts tid) fun _ =>
    Keeps.ite (fun _ => Keeps.pure) fun _ =>
      storeRegisters_acts tid _ fun other _ => by simp [Registers.setSingleStep, other]

theorem insertSingleStepBreakpoint_acts (address : UInt64) :
    (acting env allowed).Keeps (insertSingleStepBreakpoint env tid address) := by
  refine Keeps.bind Keeps.read fun _ => Keeps.ite (fun _ => Keeps.pure) fun _ => ?_
  split
  · exact Keeps.bind (setRflagsTF_acts tid true) fun _ => Keeps.ite (fun _ => Keeps.pure) fun _ =>
      Keeps.bind (Keeps.step fun server => .touched (.marked server (some address))) fun _ => Keeps.pure
  all_goals exact Keeps.pure

theorem removeSingleStepBreakpoint_acts :
    (acting env allowed).Keeps (removeSingleStepBreakpoint env tid) := by
  have destroyed : (acting env allowed).Keeps (destroySingleStepBreakpoint env tid) := by
    unfold destroySingleStepBreakpoint
    split
    · exact Keeps.bind (setRflagsTF_acts tid false) fun _ => Keeps.pure
    all_goals exact Keeps.pure
  exact Keeps.bind Keeps.read fun _ => Keeps.ite (fun _ => Keeps.pure) fun _ =>
    Keeps.bind destroyed fun _ =>
      Keeps.bind (Keeps.step fun server => .touched (.marked server none)) fun _ => Keeps.pure

theorem resume_acts (may : allowed.resumes tid) :
    (acting env allowed).Keeps (resume env tid) := by
  refine Keeps.bind (record_acts _) fun _ server => ?_
  rw [read_bind]
  by_cases busy : (server.thread tid).state ≠ .stopped ∧ (server.thread tid).state ≠ .new
  · rw [if_pos busy]
    exact .refl
  · have ready : (server.thread tid).state = .stopped ∨ (server.thread tid).state = .new := by
      rw [not_and_or, not_not, not_not] at busy
      exact busy
    rw [if_neg busy, ask_bind]
    by_cases refused : env.now (.taskResume tid) server < (0 : Int)
    · rw [if_pos refused]
      exact .single (.touched (.unresumed server may refused))
    · rw [if_neg refused]
      exact .single (.touched (.resumed server may .running refused (Or.inl ⟨rfl, ready⟩)))

theorem step_acts (may : allowed.resumes tid) : (acting env allowed).Keeps (step env tid) := by
  refine Keeps.bind (record_acts _) fun _ server => ?_
  rw [read_bind]
  by_cases busy : (server.thread tid).state ≠ .stopped
  · rw [if_pos busy]
    exact .refl
  · rw [if_neg busy]
    refine rel_bind (Registers.refreshGeneralRegisters_acts tid server)
      fun refreshed second ranRefresh => ?_
    split
    · exact .refl
    · refine rel_bind (Registers.getPC_acts tid second) fun pc third ranPC =>
        rel_bind (insertSingleStepBreakpoint_acts tid pc third) fun inserted fourth ranInsert => ?_
      -- nothing up to here has changed the state of the thread
      have stopped : (fourth.thread tid).state = .stopped := by
        have first := (Registers.refreshGeneralRegisters_unstepped env tid).keeps server
        have second' := (Registers.getPC_unstepped env tid).keeps second
        obtain ⟨_, _, ran, state, _⟩ := insertSingleStepBreakpoint_spec env tid pc third
        rw [ranRefresh] at first
        rw [ranPC] at second'
        cases ranInsert.symm.trans ran
        exact state.trans (second'.1.trans (first.1.trans (not_not.mp busy)))
      split
      · exact .refl
      · rw [ask_bind]
        by_cases refused : env.now (.taskResume tid) fourth < (0 : Int)
        · rw [if_pos refused]
          refine (acting env allowed).trans (.single (.touched (.unresumed fourth may refused))) ?_
          exact Keeps.bind (removeSingleStepBreakpoint_acts tid) (fun _ => Keeps.pure) _
        · rw [if_neg refused]
          exact .single (.touched (.resumed fourth may .stepping refused (Or.inr ⟨rfl, stopped⟩)))

end Thread

omit tid

namespace Process

theorem setState_acts (newState : ProcessState) :
    (acting env allowed).Keeps (setState newState) :=
  Keeps.bind Keeps.read fun _ => Keeps.bind (record_acts _) fun _ => modifyProcess_acts (fun _ => rfl) fun _ => rfl

theorem enterInitialize_acts : (acting env allowed).Keeps enterInitialize :=
  Keeps.bind Keeps.read fun _ => Keeps.bind (dcheck_acts _ _) fun _ =>
    Keeps.bind (dcheck_acts _ _) fun _ => Keeps.bind (dcheck_acts _ _) fun _ =>
      Keeps.ite (fun _ => setState_acts _) fun _ => Keeps.pure

theorem setupLaunchpad_acts : (acting env allowed).Keeps (setupLaunchpad env) :=
  Keeps.bind (ask_acts rfl) fun _ => Keeps.ite (fun _ => Keeps.pure) fun _ =>
    Keeps.bind (ask_acts rfl) fun _ => Keeps.ite (fun _ => Keeps.pure) fun _ =>
      Keeps.bind (ask_acts rfl) fun _ => Keeps.ite (fun _ => Keeps.pure) fun _ =>
        Keeps.bind (modifyProcess_acts (fun _ => rfl) fun _ => rfl) fun _ => Keeps.pure

theorem loadBinary_acts : (acting env allowed).Keeps (loadBinary env) :=
  Keeps.bind (ask_acts rfl) fun _ => Keeps.ite (fun _ => Keeps.pure) fun _ =>
    Keeps.bind (ask_acts rfl) fun _ => Keeps.ite (fun _ => Keeps.pure) fun _ => Keeps.pure

theorem initializeFailed_acts : (acting env allowed).Keeps initializeFailed :=
  Keeps.bind (modifyProcess_acts (fun _ => rfl) fun _ => rfl) fun _ => Keeps.pure

theorem readLaunchpad_acts : (acting env allowed).Keeps (readLaunchpad env) :=
  Keeps.bind (Keeps.bind (ask_acts rfl) fun _ => Keeps.ite (fun _ => Keeps.pure) fun _ => Keeps.pure)
    fun _ => Keeps.bind (modifyProcess_acts (fun _ => rfl) fun _ => rfl) fun _ =>
    Keeps.bind (ask_acts rfl) fun _ => Keeps.ite (fun _ => initializeFailed_acts) fun _ =>
      Keeps.bind (modifyProcess_acts (fun _ => rfl) fun _ => rfl) fun _ =>
        Keeps.bind (ask_acts rfl) fun _ => Keeps.ite (fun _ => initializeFailed_acts) fun _ =>
          Keeps.bind (modifyProcess_acts (fun _ => rfl) fun _ => rfl) fun _ => Keeps.pure

theorem initializeProgram_acts : (acting env allowed).Keeps (initializeProgram env) :=
  Keeps.bind enterInitialize_acts fun _ => Keeps.bind (modifyProcess_acts (fun _ => rfl) fun _ => rfl) fun _ =>
    Keeps.bind Keeps.read fun _ => Keeps.ite (fun _ => Keeps.pure) fun _ =>
      Keeps.bind setupLaunchpad_acts fun _ => Keeps.ite (fun _ => Keeps.pure) fun _ =>
        Keeps.bind loadBinary_acts fun _ => Keeps.ite (fun _ => initializeFailed_acts) fun _ =>
          readLaunchpad_acts

theorem initializePid_acts (pid : Koid) : (acting env allowed).Keeps (initializePid pid) :=
  Keeps.bind enterInitialize_acts fun _ => Keeps.bind (modifyProcess_acts (fun _ => rfl) fun _ => rfl) fun _ =>
    Keeps.pure

theorem closeDebugHandle_acts : (acting env allowed).Keeps closeDebugHandle :=
  modifyProcess_acts (fun _ => rfl) fun _ => rfl

theorem bindExceptionPort_acts : (acting env allowed).Keeps (bindExceptionPort env) := by
  have bound : (acting env allowed).Keeps (bind env) :=
    Keeps.bind Keeps.read fun _ => Keeps.ite (fun _ => Keeps.pure) fun _ =>
      Keeps.bind (ask_acts rfl) fun _ => Keeps.ite (fun _ => Keeps.pure) fun _ =>
        Keeps.bind (Aside.keeps fun _ => .of_same rfl rfl rfl rfl rfl rfl le_rfl) fun _ =>
          Keeps.pure
  exact Keeps.bind bound fun _ => Keeps.ite (fun _ => Keeps.pure) fun _ =>
    Keeps.bind (modifyProcess_acts (fun _ => rfl) fun _ => rfl) fun _ => Keeps.pure

theorem unbindExceptionPort_acts : (acting env allowed).Keeps unbindExceptionPort :=
  Keeps.bind (Aside.keeps fun _ => .of_same rfl rfl rfl rfl rfl rfl le_rfl) fun _ =>
    modifyProcess_acts (fun _ => rfl) fun _ => rfl

theorem attach_acts : (acting env allowed).Keeps (attach env) := by
  have allocated : (acting env allowed).Keeps (allocDebugHandle env) :=
    Keeps.bind (ask_acts rfl) fun _ => Keeps.ite (fun _ => Keeps.pure) fun _ =>
      Keeps.ite (fun _ => Keeps.pure) fun _ =>
        Keeps.bind (modifyProcess_acts (fun _ => rfl) fun _ => rfl) fun _ => Keeps.pure
  exact Keeps.bind Keeps.read fun _ => Keeps.ite (fun _ => Keeps.pure) fun _ =>
    Keeps.bind allocated fun _ => Keeps.ite (fun _ => Keeps.pure) fun _ =>
      Keeps.bind bindExceptionPort_acts fun _ => Keeps.ite
        (fun _ => Keeps.bind closeDebugHandle_acts fun _ => Keeps.pure) fun _ => Keeps.ite
          (fun _ => Keeps.bind (setState_acts _) fun _ =>
            Keeps.bind (modifyProcess_acts (fun _ => rfl) fun _ => rfl) fun _ => Keeps.pure)
          fun _ => Keeps.pure

/-- The map is emptied. -/
theorem clear_acts : (acting env allowed).Keeps clear :=
  Keeps.bind Keeps.read fun _ => Keeps.bind (dcheck_acts _ _) fun _ =>
    Keeps.bind (Aside.keeps fun _ => ⟨fun _ member => absurd member List.not_mem_nil, rfl,
      fun _ _ => rfl, rfl, rfl, fun identified => ⟨.of_empty rfl, identified.current⟩⟩)
      fun _ => setState_acts _

theorem detach_acts : (acting env allowed).Keeps detach := by
  have raw : (acting env allowed).Keeps rawDetach :=
    Keeps.bind Keeps.read fun _ => Keeps.bind (dcheck_acts _ _) fun _ =>
      Keeps.bind (dcheck_acts _ _) fun _ => Keeps.bind unbindExceptionPort_acts fun _ =>
        closeDebugHandle_acts
  exact Keeps.bind Keeps.read fun _ => Keeps.ite (fun _ => Keeps.pure) fun _ =>
    Keeps.bind raw fun _ => Keeps.bind clear_acts fun _ => Keeps.pure

theorem start_acts : (acting env allowed).Keeps (start env) :=
  Keeps.bind Keeps.read fun _ => Keeps.bind (dcheck_acts _ _) fun _ =>
    Keeps.bind (dcheck_acts _ _) fun _ => Keeps.ite (fun _ => Keeps.pure) fun _ =>
      Keeps.ite (fun _ => Keeps.stop) fun _ => Keeps.bind (ask_acts rfl) fun _ =>
        Keeps.bind (modifyProcess_acts (fun _ => rfl) fun _ => rfl) fun _ => Keeps.ite (fun _ => Keeps.pure)
          fun _ => Keeps.bind (setState_acts _) fun _ => Keeps.pure

theorem kill_acts : (acting env allowed).Keeps (kill env) :=
  Keeps.bind Keeps.read fun _ => Keeps.ite (fun _ => Keeps.pure) fun _ =>
    Keeps.bind (ask_acts rfl) fun _ => Keeps.ite (fun _ => Keeps.pure) fun _ =>
      Keeps.bind unbindExceptionPort_acts fun _ => Keeps.bind closeDebugHandle_acts fun _ =>
        Keeps.bind clear_acts fun _ => Keeps.pure

theorem createThread_acts : (acting env allowed).Keeps createThread :=
  Aside.keeps fun server => .of_same rfl rfl rfl rfl rfl rfl (Nat.le_succ server.objects)

theorem collectThreads_acts (koids : List Koid) (newThreads : ThreadMap) :
    (acting env allowed).Keeps (collectThreads env koids newThreads) := by
  induction koids generalizing newThreads with
  | nil => exact Keeps.pure
  | cons threadId rest ih =>
      exact Keeps.bind (ask_acts rfl) fun _ => Keeps.ite (fun _ => ih newThreads) fun _ =>
        Keeps.bind createThread_acts fun thread => ih (newThreads.insert threadId thread)

/-- The objects collected are new ones. `first` is the number of the first of them. -/
theorem collectThreads_fresh (first : Nat) (koids : List Koid) {newThreads threads : ThreadMap}
    {server after : Server} (ran : collectThreads env koids newThreads server = (some threads, after))
    (begun : first ≤ server.objects)
    (fresh : ∀ tid ∈ newThreads.keys,
      (newThreads.thread tid).Fresh ∧ first ≤ (newThreads.thread tid).object)
    (identified : newThreads.Identified server.objects) :
    (∀ tid ∈ threads.keys, (threads.thread tid).Fresh ∧ first ≤ (threads.thread tid).object) ∧
      threads.Identified after.objects := by
  induction koids generalizing newThreads server with
  | nil =>
      cases ran
      exact ⟨fresh, identified⟩
  | cons threadId rest ih =>
      rw [collectThreads, ask_bind] at ran
      by_cases failed : env.now (.threadHandle threadId) server ≠ (0 : Int)
      · rw [if_pos failed] at ran
        exact ih ran begun fresh identified
      · rw [if_neg failed] at ran
        refine ih ran (Nat.le_succ_of_le begun) (fun tid member => ?_)
          (identified.insert threadId rfl)
        rcases ThreadMap.insert_thread member with ⟨_, same⟩ | ⟨before, same⟩
        · rw [same]
          exact ⟨⟨rfl, rfl, rfl⟩, begun⟩
        · rw [same]
          exact fresh tid before

/-- The whole map is replaced by new objects. -/
theorem refreshAllThreads_acts : (acting env allowed).Keeps (refreshAllThreads env) := by
  refine Keeps.bind (ask_acts rfl) fun _ => Keeps.ite (fun _ => Keeps.pure) fun _ =>
    Keeps.bind (ask_acts rfl) fun _ => Keeps.ite (fun _ => Keeps.pure) fun _ server => ?_
  rw [read_bind]
  refine rel_bind (collectThreads_acts _ _ server) fun threads reached ran => ?_
  have collected := collectThreads_fresh 0 _ ran (Nat.zero_le _)
    (fun tid member => absurd member List.not_mem_nil) (.of_empty rfl)
  exact .single (.aside ⟨fun tid member => Or.inr (collected.1 tid member).1, rfl, fun _ _ => rfl,
    rfl, rfl, fun identified => ⟨collected.2, identified.current⟩⟩)

theorem ensureThreadMapFresh_acts : (acting env allowed).Keeps (ensureThreadMapFresh env) :=
  Keeps.bind Keeps.read fun _ => Keeps.ite
    (fun _ => Keeps.bind refreshAllThreads_acts fun _ => Keeps.pure) fun _ => Keeps.pure

/-- A new object is stored under the koid asked for. -/
theorem addThread_acts (threadId : Koid) :
    (acting env allowed).Keeps (do
      let thread ← createThread
      modifyProcess fun process => { process with threads := process.threads.insert threadId thread }
      pure (some threadId)) := by
  refine Aside.keeps fun server => ⟨fun tid member => ?_, rfl, fun _ _ => rfl, rfl, rfl,
    fun identified => ⟨identified.threads.insert threadId rfl,
      fun object member => Nat.lt_succ_of_lt (identified.current object member)⟩⟩
  rcases ThreadMap.insert_thread member with ⟨_, same⟩ | ⟨before, same⟩
  · exact Or.inr ⟨congrArg Thread.state same, congrArg Thread.gregs same,
      congrArg Thread.singleStepBreakpoint same⟩
  · exact Or.inl ⟨before, same⟩

theorem findThreadById_acts (threadId : Koid) :
    (acting env allowed).Keeps (findThreadById env threadId) := by
  refine Keeps.ite (fun _ => Keeps.pure) fun _ =>
    Keeps.bind ensureThreadMapFresh_acts fun _ => Keeps.bind Keeps.read fun found => ?_
  cases found with
  | some thread => exact Keeps.ite (fun _ => Keeps.pure) fun _ => Keeps.pure
  | none =>
      exact Keeps.bind (ask_acts rfl) fun _ => Keeps.ite (fun _ => Keeps.pure) fun _ =>
        addThread_acts threadId

theorem findThreadById_found {threadId found : Koid} {server after : Server}
    (ran : findThreadById env threadId server = (some (some found), after)) :
    found = threadId ∧ threadId ∈ after.process.threads.keys := by
  rw [findThreadById] at ran
  split at ran
  · cases ran
  · rcases stopped_or_ran (ensureThreadMapFresh env) server with
      ⟨reached, taken⟩ | ⟨_, reached, taken⟩
    · rw [bind_of_none taken] at ran
      cases ran
    · rw [bind_of_some taken, read_bind] at ran
      by_cases present : threadId ∈ reached.process.threads.keys
      · rw [ThreadMap.find, if_pos present] at ran
        dsimp only at ran
        split at ran <;> cases ran
        exact ⟨rfl, present⟩
      · rw [ThreadMap.find, if_neg present] at ran
        dsimp only at ran
        rw [ask_bind] at ran
        split at ran <;> cases ran
        exact ⟨rfl, ThreadMap.mem_insert threadId _ _⟩

theorem pickOneThread_found {server after : Server} {found : Koid}
    (ran : pickOneThread env server = (some (some found), after)) :
    found ∈ after.process.threads.keys := by
  rcases stopped_or_ran (ensureThreadMapFresh env) server with ⟨reached, taken⟩ | ⟨_, reached, taken⟩
  · rw [pickOneThread, bind_of_none taken] at ran
    cases ran
  · rw [pickOneThread, bind_of_some taken, read_bind] at ran
    split at ran
    · cases ran
    · rw [ask_bind] at ran
      obtain ⟨picked, same⟩ := Prod.mk.inj ran
      rw [← same]
      exact List.mem_of_getElem? (Option.some.inj picked)

theorem pickOneThread_acts : (acting env allowed).Keeps (pickOneThread env) :=
  Keeps.bind ensureThreadMapFresh_acts fun _ => Keeps.bind Keeps.read fun _ =>
    Keeps.ite (fun _ => Keeps.pure) fun _ => Keeps.bind (ask_acts rfl) fun _ => Keeps.pure

theorem forEachLiveThread_acts {callback : Koid → Prog Server Unit}
    (each : ∀ tid, (acting env allowed).Keeps (callback tid)) :
    (acting env allowed).Keeps (forEachLiveThread env callback) :=
  Keeps.bind ensureThreadMapFresh_acts fun _ => Keeps.bind Keeps.read fun _ =>
    Keeps.forM fun tid _ => Keeps.bind Keeps.read fun _ =>
      Keeps.ite (fun _ => each tid) fun _ => Keeps.pure

theorem readMemory_acts (address : UInt64) (length : Nat) :
    (acting env allowed).Keeps (readMemory env address length) :=
  Keeps.bind (ask_acts rfl) fun _ => Keeps.ite (fun _ => Keeps.pure) fun _ => Keeps.read

theorem writeMemory_acts (address : UInt64) (data : Bytes) :
    (acting env allowed).Keeps (writeMemory env address data) :=
  Keeps.bind Keeps.read fun _ => Keeps.ite (fun _ => Keeps.pure) fun _ =>
    Keeps.ite (fun _ => Keeps.pure) fun _ => Keeps.bind (ask_acts rfl) fun _ =>
      Keeps.ite (fun _ => Keeps.pure) fun _ =>
        Keeps.bind (Aside.keeps fun _ => .of_same rfl rfl rfl rfl rfl rfl le_rfl) fun _ =>
          Keeps.pure

theorem tryBuildLoadedDsosList_acts (tid : Koid) :
    (acting env allowed).Keeps (tryBuildLoadedDsosList env tid) := by
  refine Keeps.bind (ask_acts rfl) fun _ => Keeps.ite (fun _ => Keeps.pure) fun _ =>
    Keeps.bind (ask_acts rfl) fun debug => ?_
  cases debug with
  | none => exact Keeps.pure
  | some debug =>
      exact Keeps.ite (fun _ => Keeps.pure) fun _ =>
        Keeps.bind (Registers.refreshGeneralRegisters_acts tid) fun _ =>
          Keeps.bind (Registers.getPC_acts tid) fun _ => Keeps.ite (fun _ => Keeps.pure) fun _ =>
            Keeps.bind (ask_acts rfl) fun _ => modifyProcess_acts (fun _ => rfl) fun _ => rfl

theorem exitCode_acts : (acting env allowed).Keeps (exitCode env) :=
  Keeps.bind (ask_acts rfl) fun _ => Keeps.ite (fun _ => Keeps.pure) fun _ => Keeps.pure

end Process

theorem Server.unsetCurrentThread_acts : (acting env allowed).Keeps (Server.setCurrentThread none) :=
  Aside.keeps fun _ => ⟨fun _ member => Or.inl ⟨member, rfl⟩, rfl, fun _ _ => rfl, rfl, rfl,
    fun identified => ⟨identified.threads, fun _ none => absurd none (Option.not_mem_none _)⟩⟩

theorem Server.setCurrentThread_acts {server : Server} {tid : Koid}
    (member : tid ∈ server.process.threads.keys) :
    (acting env allowed).rel server (Server.setCurrentThread (some tid) server).2 := by
  refine .single (.aside ⟨fun _ member => Or.inl ⟨member, rfl⟩, rfl, fun _ _ => rfl, rfl, rfl,
    fun identified => ⟨identified.threads, fun object set => ?_⟩⟩)
  obtain rfl := Option.some.inj set
  exact identified.threads.created tid member

end Acting

end Gdbserver
