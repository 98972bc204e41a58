import Gdbserver.Server.RegisterCache

/-!
# The trap flag

`Step` sets the flag in the registers of the thread. It is cleared by the
destructor of the single-step breakpoint, which has nobody to tell when the
kernel refuses to read or to write the registers.
-/

set_option autoImplicit false

namespace Gdbserver

open Logic Prog Frame

/-- The TF bit of `rflags`. -/
def Kernel.trapFlag (kernel : Kernel) (tid : Koid) : Bool :=
  kernel.registers tid 17 &&& Registers.eflagsTFMask ≠ 0

/-- The kernel has written the registers of the thread. -/
def Env.written (env : Env) (tid : Koid) (before after : Server) : Bool :=
  (env.answersBetween (.threadWriteState tid) before after).any fun status =>
    !decide (status < (0 : Int))

theorem Registers.setSingleStep_flag {gregs updated : RegisterSet} {enable : Bool}
    (set : setSingleStep .amd64 gregs enable = some updated) :
    decide (updated 17 &&& eflagsTFMask ≠ 0) = enable := by
  cases set
  cases enable with
  | false => simp [UInt64.and_assoc]
  | true =>
      have absorbed (flags : UInt64) : (flags ||| eflagsTFMask) &&& eflagsTFMask = eflagsTFMask := by
        apply UInt64.toBitVec_inj.mp
        ext index
        simp
        grind
      simp only [if_true, Function.update_self, absorbed]
      decide

namespace Thread

variable {env : Env} {tid : Koid}

/-- The kernel lets the registers be read and written the next time. -/
def Clears (env : Env) (tid : Koid) (server : Server) : Prop :=
  ¬ env.now (.threadReadState tid) server < (0 : Int) ∧
    ¬ env.now (.threadWriteState tid) server < (0 : Int)

theorem known_of_amd64 (amd64 : env.arch = .amd64) : env.arch ≠ .other := by
  rw [amd64]
  decide

/-- Once the registers have been read, the flag is changed in the cache and the cache written. -/
theorem setRflagsTF_read (amd64 : env.arch = .amd64) (enable : Bool) {server : Server}
    (used : (server.thread tid).state ≠ .new)
    (granted : ¬ env.now (.threadReadState tid) server < (0 : Int)) :
    ∃ changed, setRflagsTF env tid enable server = Registers.writeGeneralRegisters env tid changed ∧
      changed.kernel = server.kernel ∧
      changed.calls (.threadWriteState tid) = server.calls (.threadWriteState tid) ∧
      decide ((changed.thread tid).gregs 17 &&& Registers.eflagsTFMask ≠ 0) = enable := by
  have refreshed := Registers.refreshGeneralRegisters_used (known_of_amd64 amd64) used
  rw [if_neg granted] at refreshed
  obtain ⟨updated, set⟩ : ∃ updated,
      Registers.setSingleStep .amd64 (server.kernel.registers tid) enable = some updated := ⟨_, rfl⟩
  let read := (server.asked (.threadReadState tid)).setThread tid
    { server.thread tid with gregs := server.kernel.registers tid }
  let changed := read.setThread tid { read.thread tid with gregs := updated }
  have cached : (read.thread tid).gregs = server.kernel.registers tid := by
    rw [Server.thread_setThread]
  have stored : updateRegisters tid
      (fun gregs => Registers.setSingleStep env.arch gregs enable) read = (some true, changed) := by
    rw [updateRegisters, read_bind, cached, amd64, set]
    rfl
  have other : Call.threadWriteState tid ≠ .threadReadState tid := by simp
  refine ⟨changed, ?_, rfl, server.asked_calls other, ?_⟩
  · rw [setRflagsTF, bind_of_some refreshed, if_not_true, bind_of_some stored, if_not_true]
  · rw [Server.thread_setThread]
    exact Registers.setSingleStep_flag set

/-- What setting the flag comes to: the kernel is changed by the last call, or not at all. -/
theorem setRflagsTF_cases (amd64 : env.arch = .amd64) (enable : Bool) {server : Server}
    (used : (server.thread tid).state ≠ .new) :
    ∃ ok after, setRflagsTF env tid enable server = (some ok, after) ∧
      Unstepped tid server after ∧
      ((ok = true ∧ Clears env tid server ∧ after.kernel.trapFlag tid = enable) ∨
        (ok = false ∧ ¬ Clears env tid server ∧ after.kernel = server.kernel ∧
          ¬ Granted env tid server after ∧ env.written tid server after = false)) := by
  obtain ⟨ok, after, ran, kept⟩ := setRflagsTF_unstepped env tid enable server
  refine ⟨ok, after, ran, kept, ?_⟩
  by_cases unread : env.now (.threadReadState tid) server < (0 : Int)
  · have refreshed := Registers.refreshGeneralRegisters_used (known_of_amd64 amd64) used
    rw [if_pos unread] at refreshed
    rw [setRflagsTF, bind_of_some refreshed] at ran
    cases ran
    have other : Call.threadWriteState tid ≠ .threadReadState tid := nofun
    refine Or.inr ⟨rfl, fun clears => clears.1 unread, rfl, fun granted => ?_, ?_⟩
    · exact granted.1 _ (env.now_mem_answersBetween (server.asked_calls_self _)) unread
    · rw [Env.written, env.answersBetween_same (server.asked_calls other)]
      rfl
  · obtain ⟨changed, through, kernel, calls, flag⟩ := setRflagsTF_read amd64 enable used unread
    have answer : env.now (.threadWriteState tid) changed = env.now (.threadWriteState tid) server :=
      congrArg (env.answer (.threadWriteState tid)) calls
    have written : (changed.asked (.threadWriteState tid)).calls (.threadWriteState tid) =
        server.calls (.threadWriteState tid) + 1 := by
      rw [Server.asked_calls_self, calls]
    rw [through, Registers.writeGeneralRegisters_known (known_of_amd64 amd64), answer] at ran
    by_cases refused : env.now (.threadWriteState tid) server < (0 : Int)
    · rw [if_pos refused] at ran
      cases ran
      refine Or.inr ⟨rfl, fun clears => clears.2 refused, kernel, fun granted => ?_, ?_⟩
      · exact granted.2 _ (env.now_mem_answersBetween written) refused
      · rw [Env.written, env.answersBetween_asked written]
        simp [refused]
    · rw [if_neg refused] at ran
      cases ran
      refine Or.inl ⟨rfl, ⟨unread, refused⟩, ?_⟩
      rw [Kernel.trapFlag, Server.storeRegisters_registers]
      exact flag

/-- The breakpoint is forgotten and the removal reported as done, whatever the kernel says. -/
theorem removeSingleStepBreakpoint_cases (amd64 : env.arch = .amd64) {server : Server}
    (used : (server.thread tid).state ≠ .new)
    (present : (server.thread tid).singleStepBreakpoint.isSome) :
    ∃ after, removeSingleStepBreakpoint env tid server = (some true, after) ∧
      (after.thread tid).singleStepBreakpoint = none ∧
      ((Clears env tid server ∧ after.kernel.trapFlag tid = false) ∨
        (¬ Clears env tid server ∧ ¬ Granted env tid server after)) := by
  obtain ⟨ok, middle, ran, -, outcome⟩ := setRflagsTF_cases amd64 false used
  have destroyed : destroySingleStepBreakpoint env tid server = (some (), middle) := by
    rw [destroySingleStepBreakpoint, amd64]
    exact bind_of_some ran
  have there : ¬ (server.thread tid).singleStepBreakpoint.isNone = true := by
    rw [Option.isNone_iff_eq_none]
    exact Option.isSome_iff_ne_none.mp present
  refine ⟨middle.setThread tid { middle.thread tid with singleStepBreakpoint := none }, ?_, ?_, ?_⟩
  · rw [removeSingleStepBreakpoint, read_bind, if_neg there, bind_of_some destroyed]
    rfl
  · rw [Server.thread_setThread]
  · rcases outcome with ⟨_, clears, cleared⟩ | ⟨_, refused, _, ungranted, _⟩
    · exact Or.inl ⟨clears, cleared⟩
    · exact Or.inr ⟨refused, ungranted⟩

/-- What the result of a removal is to mean. -/
structure HonestRemoval (env : Env) (tid : Koid) (server : Server) : Prop where
  cleared : (removeSingleStepBreakpoint env tid server).1 = some true →
    (removeSingleStepBreakpoint env tid server).2.kernel.trapFlag tid = false
  failed : (setRflagsTF env tid false server).1 = some false →
    (removeSingleStepBreakpoint env tid server).1 = some false ∧
      ((removeSingleStepBreakpoint env tid server).2.thread tid).singleStepBreakpoint.isSome

theorem honestRemoval_iff (amd64 : env.arch = .amd64) {server : Server}
    (used : (server.thread tid).state ≠ .new)
    (present : (server.thread tid).singleStepBreakpoint.isSome) :
    HonestRemoval env tid server ↔ Clears env tid server := by
  obtain ⟨after, ran, _, outcome⟩ := removeSingleStepBreakpoint_cases amd64 used present
  obtain ⟨ok, middle, set, -, made⟩ := setRflagsTF_cases amd64 false used
  constructor
  · intro honest
    by_contra refused
    rcases made with ⟨_, clears, _⟩ | ⟨rfl, -⟩
    · exact refused clears
    · have reported := (honest.failed (by rw [set])).1
      rw [ran] at reported
      cases reported
  · intro clears
    rcases outcome with ⟨_, cleared⟩ | ⟨refused, _⟩
    · constructor
      · intro _
        rw [ran]
        exact cleared
      · intro failed
        rcases made with ⟨rfl, -⟩ | ⟨_, refused, -⟩
        · rw [set] at failed
          cases failed
        · exact absurd clears refused
    · exact absurd clears refused

/-! ## Runs of a thread -/

/-- Nothing about the thread is changed, and its registers are not written. -/
structure Idle (tid : Koid) (before after : Server) : Prop extends Unstepped tid before after where
  registers : after.kernel.registers tid = before.kernel.registers tid
  writes : after.calls (.threadWriteState tid) = before.calls (.threadWriteState tid)

def idle (tid : Koid) : Frame Server where
  rel := Idle tid
  refl _ := ⟨⟨rfl, rfl, rfl⟩, rfl, rfl⟩
  trans first second :=
    ⟨(unstepped tid).trans first.toUnstepped second.toUnstepped,
      second.registers.trans first.registers, second.writes.trans first.writes⟩

theorem refreshGeneralRegisters_idle (amd64 : env.arch = .amd64) {server : Server}
    (used : (server.thread tid).state ≠ .new) :
    ∃ ok after, Registers.refreshGeneralRegisters env tid server = (some ok, after) ∧
      Idle tid server after := by
  have other : Call.threadWriteState tid ≠ .threadReadState tid := nofun
  obtain ⟨ok, after, ran, kept⟩ := Registers.refreshGeneralRegisters_unstepped env tid server
  rw [Registers.refreshGeneralRegisters_used (known_of_amd64 amd64) used] at ran ⊢
  refine ⟨ok, after, ran, ?_⟩
  split at ran
  all_goals
    cases ran
    exact ⟨kept, rfl, server.asked_calls other⟩

theorem getPC_idle : (idle tid).Runs (Registers.getPC env tid) := by
  have asked : (idle tid).Runs (ask env .uninitialized) := fun server =>
    ⟨_, _, rfl, ⟨rfl, rfl, rfl⟩, rfl, server.asked_calls nofun⟩
  refine Runs.bind Runs.read fun gregs => ?_
  split
  · exact Runs.pure
  · exact Runs.bind asked fun _ => Runs.pure

/-- Nothing about the thread is changed: what was to be written was refused. -/
structure Quiet (env : Env) (tid : Koid) (before after : Server) : Prop extends
    Unstepped tid before after where
  flag : after.kernel.trapFlag tid = before.kernel.trapFlag tid
  unwritten : env.written tid before after = false

theorem Idle.before_quiet {before middle after : Server} (first : Idle tid before middle)
    (second : Quiet env tid middle after) : Quiet env tid before after := by
  refine ⟨(unstepped tid).trans first.toUnstepped second.toUnstepped, ?_, ?_⟩
  · rw [second.flag, Kernel.trapFlag, Kernel.trapFlag, first.registers]
  · rw [Env.written, Env.answersBetween, ← first.writes]
    exact second.unwritten

theorem Quiet.refl (server : Server) : Quiet env tid server server := by
  refine ⟨⟨rfl, rfl, rfl⟩, rfl, ?_⟩
  rw [Env.written, env.answersBetween_same rfl]
  rfl

theorem Idle.quiet {before after : Server} (kept : Idle tid before after) :
    Quiet env tid before after := kept.before_quiet (.refl after)

/-- `InsertSingleStepBreakpoint` for a thread that has none. -/
theorem insertSingleStepBreakpoint_cases (amd64 : env.arch = .amd64) (address : UInt64)
    {server : Server} (used : (server.thread tid).state ≠ .new)
    (absent : (server.thread tid).singleStepBreakpoint = none) :
    ∃ ok after, insertSingleStepBreakpoint env tid address server = (some ok, after) ∧
      ((ok = false ∧ Quiet env tid server after) ∨
        (ok = true ∧ (after.thread tid).state = (server.thread tid).state ∧
          (after.thread tid).singleStepBreakpoint = some address)) := by
  obtain ⟨ok, middle, ran, kept, outcome⟩ := setRflagsTF_cases amd64 true used
  have entered : insertSingleStepBreakpoint env tid address server = (do
      if !(← setRflagsTF env tid true) then pure false
      else do
        modifyThread tid fun thread => { thread with singleStepBreakpoint := some address }
        pure true : Prog Server Bool) server := by
    rw [insertSingleStepBreakpoint, read_bind, absent, amd64]
    rfl
  rw [entered, bind_of_some ran]
  rcases outcome with ⟨rfl, -⟩ | ⟨rfl, _, kernel, _, unwritten⟩
  · refine ⟨true, _, rfl, Or.inr ⟨rfl, ?_, ?_⟩⟩
    · rw [Server.thread_setThread]
      exact kept.state
    · rw [Server.thread_setThread]
  · exact ⟨false, middle, rfl, Or.inl ⟨rfl, kept, by rw [kernel], unwritten⟩⟩

theorem later_of_ran {α : Type} {program : Prog Server α} {server after : Server}
    {result : Option α} (acts : (acting env .nothing).Keeps program)
    (ran : program server = (result, after)) : Later tid server after := by
  have acted := acts server
  rw [ran] at acted
  exact later_of_acting acted

/-- What follows when the thread is not resumed after all. -/
theorem undoStep_cases (amd64 : env.arch = .amd64) {server : Server}
    (used : (server.thread tid).state ≠ .new)
    (present : (server.thread tid).singleStepBreakpoint.isSome) :
    ∃ after, (do
        let _ ← removeSingleStepBreakpoint env tid
        pure false : Prog Server Bool) server = (some false, after) ∧
      Later tid server after ∧
      (Granted env tid server after → after.kernel.trapFlag tid = false) := by
  obtain ⟨after, ran, _, outcome⟩ := removeSingleStepBreakpoint_cases amd64 used present
  refine ⟨after, bind_of_some ran, later_of_ran (removeSingleStepBreakpoint_acts tid) ran, ?_⟩
  intro granted
  rcases outcome with ⟨_, cleared⟩ | ⟨_, ungranted⟩
  · exact cleared
  · exact absurd granted ungranted

/-- The thread is resumed with its breakpoint, or the breakpoint is removed again. -/
theorem resumeStep_cases (amd64 : env.arch = .amd64) {server : Server} {pc : UInt64}
    (used : (server.thread tid).state ≠ .new)
    (breakpoint : (server.thread tid).singleStepBreakpoint = some pc) :
    ∃ ok after, (do
        let status ← ask env (.taskResume tid)
        if status < 0 then do
          let _ ← removeSingleStepBreakpoint env tid
          pure false
        else do
          setState tid .stepping
          pure true : Prog Server Bool) server = (some ok, after) ∧
      ((after.thread tid).singleStepBreakpoint.isSome ∨
        (ok = false ∧ Later tid server after ∧
          (Granted env tid server after → after.kernel.trapFlag tid = false))) := by
  let asked := server.asked (.taskResume tid)
  rw [ask_bind]
  split
  · have present : (asked.thread tid).singleStepBreakpoint.isSome := by
      change (server.thread tid).singleStepBreakpoint.isSome
      rw [breakpoint]
      rfl
    have usedThere : (asked.thread tid).state ≠ .new := used
    obtain ⟨after, ran, removal, cleared⟩ := undoStep_cases amd64 usedThere present
    have request : Later tid server asked := .of_asked (.taskResume tid) rfl
    refine ⟨false, after, ran, Or.inr ⟨rfl, (later tid).trans request removal, fun granted => ?_⟩⟩
    exact cleared (granted.split request removal).2
  · refine ⟨true, _, rfl, Or.inl ?_⟩
    change ((Server.setThread _ tid _).thread tid).singleStepBreakpoint.isSome
    rw [Server.thread_setThread]
    change (server.thread tid).singleStepBreakpoint.isSome
    rw [breakpoint]
    rfl

/-- A step leaves the thread as it was, or with a breakpoint, or with what the
removal of its breakpoint has come to. -/
theorem step_cases (amd64 : env.arch = .amd64) {server : Server} (kept : Bookkept tid server) :
    ∃ ok after, step env tid server = (some ok, after) ∧
      (Quiet env tid server after ∨ (after.thread tid).singleStepBreakpoint.isSome ∨
        (ok = false ∧ (server.thread tid).state = .stopped ∧
          (Granted env tid server after → after.kernel.trapFlag tid = false))) := by
  let recorded := server.observe [.step tid]
  have first : record (.step tid) server = (some (), recorded) := rfl
  have idleRecord : Idle tid server recorded := ⟨⟨rfl, rfl, rfl⟩, rfl, rfl⟩
  rw [step, bind_of_some first, read_bind]
  by_cases busy : (recorded.thread tid).state ≠ .stopped
  · rw [if_pos busy]
    exact ⟨false, recorded, rfl, Or.inl idleRecord.quiet⟩
  · rw [if_neg busy]
    have stopped : (server.thread tid).state = .stopped := not_not.mp busy
    have absent : (server.thread tid).singleStepBreakpoint = none :=
      kept.absent (by rw [stopped]; decide)
    have used : (recorded.thread tid).state ≠ .new := by
      change (server.thread tid).state ≠ .new
      rw [stopped]
      decide
    obtain ⟨refreshed, second, ranRefresh, idleRefresh⟩ := refreshGeneralRegisters_idle amd64 used
    rw [bind_of_some ranRefresh]
    cases refreshed with
    | false => exact ⟨false, second, rfl, Or.inl ((idle tid).trans idleRecord idleRefresh).quiet⟩
    | true =>
        obtain ⟨pc, third, ranPC, idlePC⟩ := getPC_idle second
        have reached : Idle tid server third :=
          (idle tid).trans ((idle tid).trans idleRecord idleRefresh) idlePC
        obtain ⟨inserted, fourth, ranInsert, outcome⟩ := insertSingleStepBreakpoint_cases amd64 pc
          (reached.state ▸ used) (reached.breakpoint.trans absent)
        rw [if_not_true, bind_of_some ranPC, bind_of_some ranInsert]
        rcases outcome with ⟨rfl, quiet⟩ | ⟨rfl, state, breakpoint⟩
        · exact ⟨false, fourth, rfl, Or.inl (reached.before_quiet quiet)⟩
        · have usedThere : (fourth.thread tid).state ≠ .new := by
            rw [state, reached.state]
            exact used
          obtain ⟨ok, after, ran, present | ⟨failed, laterResume, cleared⟩⟩ :=
            resumeStep_cases amd64 usedThere breakpoint
          · exact ⟨ok, after, ran, Or.inr (Or.inl present)⟩
          · -- every access up to here was granted, so it is the removal that is left to be
            refine ⟨ok, after, ran, Or.inr (Or.inr ⟨failed, stopped, fun granted => ?_⟩)⟩
            have laterRead : Later tid recorded second :=
              later_of_ran (Registers.refreshGeneralRegisters_acts tid) ranRefresh
            have laterPC : Later tid second third := later_of_ran (Registers.getPC_acts tid) ranPC
            have laterInsert : Later tid third fourth :=
              later_of_ran (insertSingleStepBreakpoint_acts tid pc) ranInsert
            have earlier : Later tid recorded fourth :=
              (later tid).trans ((later tid).trans laterRead laterPC) laterInsert
            exact cleared (granted.split earlier laterResume).2

/-- An exception of a thread that steps clears the flag, if the kernel lets it. -/
theorem onException_clears (amd64 : env.arch = .amd64) {type : ExceptionType}
    (stays : type ≠ .threadExiting) (context : ExceptionContext) {server : Server}
    (kept : Bookkept tid server) (stepping : (server.thread tid).state = .stepping)
    (granted : Granted env tid server (onException env tid type context server).2) :
    (onException env tid type context server).2.kernel.trapFlag tid = false := by
  have thread := halted_thread server tid context
  have used : ((halted server tid context).thread tid).state ≠ .new := by
    rw [thread]
    exact nofun
  have present : ((halted server tid context).thread tid).singleStepBreakpoint.isSome := by
    rw [thread]
    exact kept.mpr stepping
  obtain ⟨after, ran, _, outcome⟩ := removeSingleStepBreakpoint_cases amd64 used present
  rw [onException_eq, if_pos ⟨stepping, stays⟩, bind_of_some ran] at granted ⊢
  rcases outcome with ⟨_, cleared⟩ | ⟨_, ungranted⟩
  · exact cleared
  · exact absurd granted ungranted

/-- What can happen to a thread. Everything but the calls on it, the program's own
running included, may do what it likes to the registers. -/
inductive ThreadMove (tid : Koid) where
  | call (made : ThreadCall)
  | outside (change : Server → Server) (spares : ∀ server, Unstepped tid server (change server))

namespace ThreadMove

def perform (env : Env) : ThreadMove tid → Prog Server Unit
  | .call made => Thread.perform env tid made
  | .outside change _ => modify change

/-- The kernel does not refuse to clear the flag: not after an exception, and
not in a step that fails after it has set it. -/
def ClearingGranted (env : Env) (server : Server) : ThreadMove tid → Prop
  | .call .step =>
      (step env tid server).1 = some false →
        env.written tid server (step env tid server).2 = true →
          Granted env tid server (step env tid server).2
  | .call (.exception type _ context) =>
      Granted env tid server (onException env tid type context server).2
  | .call .resume | .outside .. => True

instance (env : Env) (server : Server) : (move : ThreadMove tid) →
    Decidable (move.ClearingGranted env server)
  | .call .step => inferInstanceAs (Decidable (_ → _ → _))
  | .call (.exception ..) => inferInstanceAs (Decidable (Granted ..))
  | .call .resume | .outside .. => inferInstanceAs (Decidable True)

end ThreadMove

/-- `armed` says that the flag is set and that `Step` is what has set it. -/
structure Traced where
  server : Server
  armed : Bool

namespace Traced

def step (env : Env) (move : ThreadMove tid) : Prog Traced Unit := fun traced =>
  let (result, after) := move.perform env traced.server
  let byStep := match move with
    | .call .step => env.written tid traced.server after
    | _ => false
  (result, ⟨after, after.kernel.trapFlag tid && (traced.armed || byStep)⟩)

/-- A flag that `Step` has set is one that there is a breakpoint for. -/
structure Accounted (tid : Koid) (traced : Traced) : Prop where
  bookkept : Bookkept tid traced.server
  armed : traced.armed = true → (traced.server.thread tid).singleStepBreakpoint.isSome

theorem created_accounted (server : Server) (object : Nat) :
    Accounted tid ⟨server.setThread tid (created object), false⟩ :=
  ⟨created_bookkept server object, nofun⟩

/-- Where the breakpoint stays and `Step` has set no flag, there is nothing to account for. -/
theorem Accounted.of_unstepped {traced : Traced} (kept : Accounted tid traced) {after : Server}
    (same : Unstepped tid traced.server after) (flag : Bool) :
    Accounted tid ⟨after, flag && (traced.armed || false)⟩ := by
  refine ⟨kept.bookkept.of_unstepped same, fun armed => ?_⟩
  have before : traced.armed = true := by
    rw [Bool.or_false, Bool.and_eq_true] at armed
    exact armed.2
  rw [same.breakpoint]
  exact kept.armed before

/-- A thread that does not step is not armed. -/
theorem Accounted.disarmed {traced : Traced} (kept : Accounted tid traced)
    (idle : (traced.server.thread tid).state ≠ .stepping) : traced.armed = false := by
  rw [Bool.eq_false_iff]
  intro armed
  exact idle (kept.bookkept.mp (kept.armed armed))

/-- A thread that is armed is not resumed. -/
theorem Accounted.resume_refused {traced : Traced} (kept : Accounted tid traced)
    (armed : traced.armed = true) :
    resume env tid traced.server = (some false, traced.server.observe [.resume tid]) := by
  have recorded : record (.resume tid) traced.server =
    (some (), traced.server.observe [.resume tid]) := rfl
  have stepping : ((traced.server.observe [.resume tid]).thread tid).state = .stepping :=
    kept.bookkept.mp (kept.armed armed)
  rw [resume, bind_of_some recorded, read_bind, stepping]
  rfl

/-- `Step` leaves a flag that it has set only with a breakpoint. -/
theorem Accounted.step_armed (amd64 : env.arch = .amd64) {traced : Traced}
    (kept : Accounted tid traced)
    (granted : ThreadMove.ClearingGranted env traced.server (.call .step : ThreadMove tid))
    (flag : (Thread.step env tid traced.server).2.kernel.trapFlag tid = true)
    (armed : traced.armed = true ∨
      env.written tid traced.server (Thread.step env tid traced.server).2 = true) :
    ((Thread.step env tid traced.server).2.thread tid).singleStepBreakpoint.isSome := by
  obtain ⟨ok, after, ran, outcome⟩ := step_cases amd64 kept.bookkept
  rw [ThreadMove.ClearingGranted, ran] at granted
  rw [ran] at armed flag ⊢
  rcases outcome with quiet | present | ⟨rfl, stopped, cleared⟩
  · rw [quiet.unwritten] at armed
    rw [quiet.breakpoint]
    exact kept.armed (armed.resolve_right Bool.false_ne_true)
  · exact present
  · rw [kept.disarmed (by rw [stopped]; decide)] at armed
    have accesses := granted rfl (armed.resolve_left Bool.false_ne_true)
    exact absurd ((cleared accesses).symm.trans flag) Bool.false_ne_true

theorem step_accounted (amd64 : env.arch = .amd64) (traced : Traced) (move : ThreadMove tid)
    (kept : Accounted tid traced) (granted : move.ClearingGranted env traced.server) :
    Accounted tid (step env move traced).2 := by
  cases move with
  | outside change spares => exact kept.of_unstepped (spares traced.server) _
  | call made =>
      refine ⟨perform_bookkept env traced.server made kept.bookkept, fun armed => ?_⟩
      obtain ⟨flag, reason⟩ := Bool.and_eq_true_iff.mp armed
      have after : (step env (.call made : ThreadMove tid) traced).2.server =
        (Thread.perform env tid made traced.server).2 := rfl
      rw [after]
      rw [Bool.or_eq_true] at reason
      cases made with
      | resume =>
          rw [Thread.perform, discard_state,
            kept.resume_refused (reason.resolve_right Bool.false_ne_true)]
          exact kept.armed (reason.resolve_right Bool.false_ne_true)
      | exception type stays context =>
          have before := kept.armed (reason.resolve_right Bool.false_ne_true)
          have cleared := onException_clears amd64 stays context kept.bookkept
            (kept.bookkept.mp before) granted
          exact absurd (cleared.symm.trans flag) Bool.false_ne_true
      | step =>
          have stepped := discard_state (Thread.step env tid) traced.server
          rw [Thread.perform, stepped]
          refine kept.step_armed amd64 granted ?_ ?_
          · rw [← stepped]
            exact flag
          · rw [← stepped]
            exact reason

end Traced

def stepped : List (ThreadMove 9) :=
  [.call (.exception .threadStarting (by decide) ⟨9, 0, 0⟩), .call .step]

def trapped : ThreadMove 9 := .call (.exception .hwBreakpoint (by decide) ⟨9, 1, 0⟩)

def firstThread : Traced :=
  ⟨(Debugserver.newServer Debugserver.program).setThread 9 (created 1), false⟩

def refusesSecondWrite : Env :=
  { Debugserver.obliging with
    answer := fun call time =>
      match call with
      | .threadWriteState _ => if time = 1 then (-1 : Int) else 0
      | call => Debugserver.obligingAnswer call time }

theorem clearing_granted : Along (Traced.step Debugserver.obliging)
    (fun traced move => move.ClearingGranted Debugserver.obliging traced.server) firstThread
    (stepped ++ [trapped]) := by
  decide +kernel

theorem stepped_thread_resumed :
    let reached := (run (Traced.step Debugserver.obliging) (stepped ++ [trapped]) firstThread).2
    (resume Debugserver.obliging 9 reached.server).1 = some true := by
  decide +kernel

end Thread

end Gdbserver
