import Gdbserver.Inferior.Thread
import Gdbserver.Logic.Runs

/-!
# Single-step bookkeeping

A thread's state and its single-step breakpoint are updated at different points
of `Step`, `Resume` and `OnException`, with system calls that may fail in
between.
-/

set_option autoImplicit false

namespace Gdbserver

open Logic Prog Frame

/-- Reading and writing registers changes neither of the two. -/
structure Unstepped (tid : Koid) (before after : Server) : Prop where
  state : (after.thread tid).state = (before.thread tid).state
  breakpoint :
    (after.thread tid).singleStepBreakpoint = (before.thread tid).singleStepBreakpoint
  context : (after.thread tid).exceptionContext = (before.thread tid).exceptionContext

def unstepped (tid : Koid) : Frame Server where
  rel := Unstepped tid
  refl _ := ⟨rfl, rfl, rfl⟩
  trans first second :=
    ⟨second.state.trans first.state, second.breakpoint.trans first.breakpoint,
      second.context.trans first.context⟩

theorem Server.thread_setThread (server : Server) (tid : Koid) (thread : Thread) :
    (server.setThread tid thread).thread tid = thread := Function.update_self ..

section Registers

variable (env : Env) (tid : Koid)

theorem ask_unstepped (call : Call) : (unstepped tid).Runs (ask env call) := fun _ =>
  ⟨_, _, rfl, rfl, rfl, rfl⟩

theorem modifyThread_unstepped (registers : Thread → RegisterSet) :
    (unstepped tid).Runs
      (modifyThread tid fun thread => { thread with gregs := registers thread }) :=
  Runs.modify fun server => by
    have stored := server.thread_setThread tid
      { server.thread tid with gregs := registers (server.thread tid) }
    exact ⟨by rw [stored], by rw [stored], by rw [stored]⟩

theorem Registers.refreshGeneralRegisters_unstepped :
    (unstepped tid).Runs (refreshGeneralRegisters env tid) := by
  unfold refreshGeneralRegisters
  split
  · exact Runs.pure
  all_goals
    exact Runs.bind Runs.read fun _ => Runs.ite
      (fun _ => Runs.bind (modifyThread_unstepped tid _) fun _ =>
        Runs.pure)
      fun _ => Runs.bind (ask_unstepped env tid _) fun _ => Runs.ite (fun _ => Runs.pure) fun _ =>
        Runs.bind Runs.read fun _ =>
          Runs.bind (modifyThread_unstepped tid _) fun _ => Runs.pure

theorem Registers.writeGeneralRegisters_unstepped :
    (unstepped tid).Runs (writeGeneralRegisters env tid) := by
  unfold writeGeneralRegisters
  split
  · exact Runs.pure
  all_goals
    exact Runs.bind (ask_unstepped env tid _) fun _ => Runs.ite (fun _ => Runs.pure) fun _ =>
      Runs.bind (Runs.modify fun _ => ⟨rfl, rfl, rfl⟩) fun _ => Runs.pure

theorem Registers.getPC_unstepped : (unstepped tid).Runs (getPC env tid) := by
  refine Runs.bind Runs.read fun gregs => ?_
  split
  · exact Runs.pure
  · exact Runs.bind (ask_unstepped env tid _) fun _ => Runs.pure

theorem Thread.updateRegisters_unstepped (update : RegisterSet → Option RegisterSet) :
    (unstepped tid).Runs (updateRegisters tid update) := by
  refine Runs.bind Runs.read fun gregs => ?_
  split
  · exact Runs.pure
  · exact Runs.bind (modifyThread_unstepped tid _) fun _ => Runs.pure

theorem Thread.setRflagsTF_unstepped (enable : Bool) :
    (unstepped tid).Runs (setRflagsTF env tid enable) :=
  Runs.bind (Registers.refreshGeneralRegisters_unstepped env tid) fun _ =>
    Runs.ite (fun _ => Runs.pure) fun _ =>
      Runs.bind (Thread.updateRegisters_unstepped tid _) fun _ =>
        Runs.ite (fun _ => Runs.pure) fun _ => Registers.writeGeneralRegisters_unstepped env tid

end Registers

namespace Thread

variable (env : Env) (tid : Koid)

/-- The breakpoint is recorded exactly when its insertion succeeded. -/
theorem insertSingleStepBreakpoint_spec (address : UInt64) (server : Server) :
    ∃ ok after, insertSingleStepBreakpoint env tid address server = (some ok, after) ∧
      (after.thread tid).state = (server.thread tid).state ∧
      (after.thread tid).singleStepBreakpoint =
        if ok then some address else (server.thread tid).singleStepBreakpoint := by
  simp only [insertSingleStepBreakpoint, read_bind]
  cases present : (server.thread tid).singleStepBreakpoint with
  | some existing => exact ⟨false, server, rfl, rfl, present⟩
  | none =>
      simp only [Option.isSome_none, Bool.false_eq_true, if_false]
      cases env.arch with
      | arm64 => exact ⟨false, server, rfl, rfl, present⟩
      | other => exact ⟨false, server, rfl, rfl, present⟩
      | amd64 =>
          obtain ⟨set, middle, ran, state, breakpoint, _⟩ := setRflagsTF_unstepped env tid true server
          dsimp only
          rw [bind_of_some ran]
          cases set with
          | false => exact ⟨false, middle, rfl, state, breakpoint.trans present⟩
          | true =>
              refine ⟨true, _, rfl, ?_, ?_⟩
              · rw [Server.thread_setThread]
                exact state
              · rw [Server.thread_setThread]
                rfl

/-- Whatever the kernel says to clearing the flag, the breakpoint is gone. -/
theorem removeSingleStepBreakpoint_spec (server : Server) :
    ∃ ok after, removeSingleStepBreakpoint env tid server = (some ok, after) ∧
      (after.thread tid).state = (server.thread tid).state ∧
      (after.thread tid).singleStepBreakpoint = none ∧
      (after.thread tid).exceptionContext = (server.thread tid).exceptionContext := by
  have destroyed : (unstepped tid).Runs (destroySingleStepBreakpoint env tid) := by
    unfold destroySingleStepBreakpoint
    split
    · exact Runs.bind (setRflagsTF_unstepped env tid false) fun _ => Runs.pure
    all_goals exact Runs.pure
  simp only [removeSingleStepBreakpoint, read_bind]
  cases present : (server.thread tid).singleStepBreakpoint with
  | none => exact ⟨false, server, rfl, rfl, present, rfl⟩
  | some address =>
      obtain ⟨_, middle, ran, state, _, context⟩ := destroyed server
      simp only [Option.isNone_some, Bool.false_eq_true, if_false]
      rw [bind_of_some ran]
      refine ⟨true, _, rfl, ?_, ?_, ?_⟩
      · rw [Server.thread_setThread]
        exact state
      · rw [Server.thread_setThread]
      · rw [Server.thread_setThread]
        exact context

variable {tid}

/-- A breakpoint is held exactly while the thread steps. -/
def Bookkept (tid : Koid) (server : Server) : Prop :=
  (server.thread tid).singleStepBreakpoint.isSome ↔ (server.thread tid).state = .stepping

theorem Bookkept.absent {server : Server} (kept : Bookkept tid server)
    (idle : (server.thread tid).state ≠ .stepping) :
    (server.thread tid).singleStepBreakpoint = none := by
  rw [← Option.not_isSome_iff_eq_none]
  intro inserted
  exact idle (kept.mp inserted)

theorem Bookkept.of_unstepped {before after : Server} (kept : Bookkept tid before)
    (same : (unstepped tid).rel before after) : Bookkept tid after := by
  rw [Bookkept, same.state, same.breakpoint]
  exact kept

theorem resume_bookkept {server : Server} (kept : Bookkept tid server) :
    Bookkept tid (resume env tid server).2 := by
  let recorded := server.observe [.resume tid]
  have first : record (.resume tid) server = (some (), recorded) := rfl
  rw [resume, bind_of_some first, read_bind]
  by_cases busy : (recorded.thread tid).state ≠ .stopped ∧ (recorded.thread tid).state ≠ .new
  · rw [if_pos busy]
    exact kept
  · rw [if_neg busy, ask_bind]
    split
    · exact kept
    · -- only a thread that does not step gets here, and it holds no breakpoint
      have idle : (recorded.thread tid).singleStepBreakpoint = none := by
        apply kept.absent
        intro (stepping : (recorded.thread tid).state = .stepping)
        exact busy (by simp [stepping])
      change Bookkept tid ((recorded.asked (.taskResume tid)).setThread tid _)
      rw [Bookkept, Server.thread_setThread]
      change (recorded.thread tid).singleStepBreakpoint.isSome ↔ _
      simp [idle]

theorem step_bookkept {server : Server} (kept : Bookkept tid server) :
    Bookkept tid (step env tid server).2 := by
  let recorded := server.observe [.step tid]
  have first : record (.step tid) server = (some (), recorded) := rfl
  have keptThere : Bookkept tid recorded := kept
  rw [step, bind_of_some first, read_bind]
  by_cases busy : (recorded.thread tid).state ≠ .stopped
  · rw [if_pos busy]
    exact kept
  · obtain ⟨refreshed, second, ranRefresh, within⟩ :=
      Registers.refreshGeneralRegisters_unstepped env tid recorded
    rw [if_neg busy, bind_of_some ranRefresh]
    cases refreshed with
    | false => exact keptThere.of_unstepped within
    | true =>
        obtain ⟨pc, third, ranPC, withinPC⟩ := Registers.getPC_unstepped env tid second
        obtain ⟨inserted, fourth, ranInsert, state, breakpoint⟩ :=
          insertSingleStepBreakpoint_spec env tid pc third
        have reached := (unstepped tid).trans within withinPC
        rw [if_not_true, bind_of_some ranPC, bind_of_some ranInsert]
        cases inserted with
        | false =>
            have keptThird : Bookkept tid third := keptThere.of_unstepped reached
            change Bookkept tid fourth
            rw [Bookkept, state, breakpoint]
            exact keptThird
        | true =>
            rw [if_not_true, ask_bind]
            split
            · obtain ⟨_, last, ranRemove, stateLast, none, _⟩ :=
                removeSingleStepBreakpoint_spec env tid (fourth.asked (.taskResume tid))
              have stopped : (last.thread tid).state = .stopped :=
                stateLast.trans (state.trans (reached.state.trans (not_not.mp busy)))
              rw [bind_of_some ranRemove, Bookkept]
              simp [none, stopped]
            · change Bookkept tid ((fourth.asked (.taskResume tid)).setThread tid _)
              rw [Bookkept, Server.thread_setThread]
              change (fourth.thread tid).singleStepBreakpoint.isSome ↔ _
              simp [breakpoint]

/-- The thread as an exception finds it stopped. -/
def halted (server : Server) (tid : Koid) (context : ExceptionContext) : Server :=
  server.setThread tid
    { server.thread tid with exceptionContext := some context, state := .stopped }

theorem halted_thread (server : Server) (tid : Koid) (context : ExceptionContext) :
    (halted server tid context).thread tid =
      { server.thread tid with exceptionContext := some context, state := .stopped } :=
  server.thread_setThread tid _

theorem onException_eq (tid : Koid) (type : ExceptionType) (context : ExceptionContext)
    (server : Server) :
    onException env tid type context server =
      (if (server.thread tid).state = .stepping ∧ type ≠ .threadExiting then do
        let _ ← removeSingleStepBreakpoint env tid
        pure () else pure () : Prog Server Unit) (halted server tid context) := by
  let noted := server.setThread tid { server.thread tid with exceptionContext := some context }
  have stored : noted.setThread tid { noted.thread tid with state := .stopped } =
      halted server tid context := by
    simp only [noted, Server.thread_setThread]
    simp only [halted, Server.setThread, ThreadMap.set, Function.update_idem]
  have previous : (noted.thread tid).state = (server.thread tid).state := by
    rw [Server.thread_setThread]
  have reduced : onException env tid type context server =
      (if (noted.thread tid).state = .stepping ∧ type ≠ .threadExiting then do
        let _ ← removeSingleStepBreakpoint env tid
        pure () else pure () : Prog Server Unit)
          (noted.setThread tid { noted.thread tid with state := .stopped }) := rfl
  rw [reduced, stored, previous]

/-- The thread is stopped, whatever becomes of its breakpoint. -/
theorem onException_spec (tid : Koid) (type : ExceptionType) (context : ExceptionContext)
    (server : Server) :
    ∃ after, onException env tid type context server = (some (), after) ∧
      (after.thread tid).state = .stopped ∧
      (after.thread tid).exceptionContext = some context ∧
      (after.thread tid).singleStepBreakpoint =
        if (server.thread tid).state = .stepping ∧ type ≠ .threadExiting then none
        else (server.thread tid).singleStepBreakpoint := by
  have state : ((halted server tid context).thread tid).state = .stopped := by
    rw [halted_thread]
  have recorded : ((halted server tid context).thread tid).exceptionContext = some context := by
    rw [halted_thread]
  have breakpoint : ((halted server tid context).thread tid).singleStepBreakpoint =
      (server.thread tid).singleStepBreakpoint := by
    rw [halted_thread]
  rw [onException_eq]
  split
  · obtain ⟨_, after, ran, stateAfter, none, contextAfter⟩ :=
      removeSingleStepBreakpoint_spec env tid (halted server tid context)
    exact ⟨after, bind_of_some ran, stateAfter.trans state, contextAfter.trans recorded, none⟩
  · exact ⟨_, rfl, state, recorded, breakpoint⟩

theorem onException_bookkept {type : ExceptionType} (stays : type ≠ .threadExiting)
    (context : ExceptionContext) {server : Server} (kept : Bookkept tid server) :
    Bookkept tid (onException env tid type context server).2 := by
  obtain ⟨after, ran, state, _, breakpoint⟩ := onException_spec env tid type context server
  rw [ran, Bookkept, state, breakpoint]
  split
  · exact ⟨nofun, nofun⟩
  · rename_i other
    have idle : (server.thread tid).state ≠ .stepping := fun stepping => other ⟨stepping, stays⟩
    exact ⟨fun inserted => absurd (kept.mp inserted) idle, nofun⟩

/-- The calls made on one thread. The last exception of a thread that exits is
not among them. -/
inductive ThreadCall where
  | step
  | resume
  | exception (type : ExceptionType) (stays : type ≠ .threadExiting) (context : ExceptionContext)

def perform (env : Env) (tid : Koid) : ThreadCall → Prog Server Unit
  | .step => do
      let _ ← step env tid
      pure ()
  | .resume => do
      let _ ← resume env tid
      pure ()
  | .exception type _ context => onException env tid type context

theorem perform_bookkept (server : Server) (call : ThreadCall) (kept : Bookkept tid server) :
    Bookkept tid (perform env tid call server).2 := by
  cases call with
  | step =>
      rw [perform, discard_state]
      exact step_bookkept env kept
  | resume =>
      rw [perform, discard_state]
      exact resume_bookkept env kept
  | exception type stays context => exact onException_bookkept env stays context kept

/-- The object the constructor of `Thread` leaves. -/
def created (object : Nat) : Thread := ⟨object, .new, fun _ => 0, none, none⟩

theorem created_bookkept (server : Server) (object : Nat) :
    Bookkept tid (server.setThread tid (created object)) := by
  rw [Bookkept, Server.thread_setThread]
  exact ⟨nofun, nofun⟩

/-- The assertion of `OnException`. -/
def steppingAsserted (type : ExceptionType) (thread : Thread) : Bool :=
  if thread.state = .stepping ∧ type ≠ .threadExiting then thread.singleStepBreakpoint.isSome
  else true

/-- On every architecture, and whatever the kernel answers: the breakpoint comes
and goes with the state, so the assertion holds and a stopped thread has none
left that would keep it from being stepped. -/
theorem run_breakpoint_iff_stepping (env : Env) (tid : Koid) (server : Server) (object : Nat)
    (calls : List ThreadCall) :
    let thread := (run (perform env tid) calls (server.setThread tid (created object))).2.thread tid
    (thread.singleStepBreakpoint.isSome ↔ thread.state = .stepping) ∧
      (∀ type, steppingAsserted type thread = true) ∧
      (thread.state = .stopped → thread.singleStepBreakpoint = none) := by
  intro thread
  have kept : thread.singleStepBreakpoint.isSome ↔ thread.state = .stepping :=
    run_invariant (perform_bookkept env) calls _ (created_bookkept server object)
  refine ⟨kept, fun type => ?_, fun stopped => ?_⟩
  · rw [steppingAsserted]
    split
    · rename_i stepping
      exact kept.mpr stepping.1
    · rfl
  · exact Bookkept.absent kept (by rw [stopped]; decide)

end Thread

end Gdbserver
