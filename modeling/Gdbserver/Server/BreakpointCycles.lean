import Gdbserver.Inferior.Breakpoints
import Gdbserver.Server.InputActions

/-!
# Breakpoints from one inferior to the next

The `Process` object stays when its inferior is detached from, killed or gone,
and is initialized again for the next one. The set of breakpoints stays with it.
-/

set_option autoImplicit false

namespace Gdbserver

open Logic Prog Frame ProcessBreakpointSet

theorem Act.breakpoints {env : Env} {allowed : Permits} {before after : Server}
    (act : Act env allowed before after) :
    after.process.breakpoints = before.process.breakpoints := by
  cases act with
  | aside kept => exact kept.breakpoints
  | posted => rfl
  | touched touch => cases touch <;> rfl

/-- The set is left alone. -/
def sameBreakpoints : Frame Server where
  rel before after := after.process.breakpoints = before.process.breakpoints
  refl _ := rfl
  trans first second := second.trans first

theorem acting_sameBreakpoints {env : Env} {allowed : Permits} {before after : Server}
    (acted : (acting env allowed).rel before after) : sameBreakpoints.rel before after :=
  steps_within Act.breakpoints acted

/-- The calls made on `Process` and on its set, and the inferior changing its own memory. -/
inductive ProcessMove where
  | setArgv (argv : List Bytes)
  | initializeProgram
  | initializePid (pid : Koid)
  | attach
  | start
  | detach
  | kill
  | exception (type : ExceptionType) (context : ExceptionContext)
  | inferior (kernel : Kernel)
  | breakpoint (call : BreakpointCall)

namespace ProcessMove

def initializes : ProcessMove → Bool
  | .initializeProgram | .initializePid _ => true
  | _ => false

def call {α : Type} (inner : Prog Server α) : Prog RspServer Unit := do
  let _ ← RspServer.onServer inner
  pure ()

def perform (env : Env) : ProcessMove → Prog RspServer Unit
  | .setArgv argv => call (modifyProcess fun process => { process with argv := argv })
  | .initializeProgram => call (Process.initializeProgram env)
  | .initializePid pid => call (Process.initializePid pid)
  | .attach => call (Process.attach env)
  | .start => call (Process.start env)
  | .detach => call Process.detach
  | .kill => call (Process.kill env)
  | .exception type context => RspServer.onException env type context
  | .inferior kernel => call (modify fun server => { server with kernel := kernel })
  | .breakpoint made => call (ProcessBreakpointSet.perform env made)

theorem call_core {α : Type} (inner : Prog Server α) (server : RspServer) :
    (call inner server).2.core = (inner server.core).2 := by
  rw [call, discard_state]
  rfl

/-- Only the calls on the set change the set; `Clear` is not among them. -/
theorem perform_sameBreakpoints (env : Env) {move : ProcessMove}
    (other : ∀ made, move ≠ .breakpoint made) (server : RspServer) :
    sameBreakpoints.rel server.core (move.perform env server).2.core := by
  have acts {α : Type} {inner : Prog Server α} (kept : (acting env .nothing).Keeps inner) :
      sameBreakpoints.rel server.core (call inner server).2.core := by
    rw [call_core]
    exact acting_sameBreakpoints (kept server.core)
  cases move with
  | setArgv argv => exact acts (modifyProcess_acts (fun _ => rfl) fun _ => rfl)
  | initializeProgram => exact acts Process.initializeProgram_acts
  | initializePid pid => exact acts (Process.initializePid_acts pid)
  | attach => exact acts Process.attach_acts
  | start => exact acts Process.start_acts
  | detach => exact acts Process.detach_acts
  | kill => exact acts Process.kill_acts
  | exception type context =>
      exact acting_sameBreakpoints (RspServer.onException_acts env 0 type context server)
  | inferior kernel => rfl
  | breakpoint made => exact absurd rfl (other made)

end ProcessMove

/-- A run of the object: `inserted` are the breakpoints put into the inferior it
has been initialized for. -/
structure Cycle where
  server : RspServer
  inserted : List SoftwareBreakpoint

namespace Cycle

def core (cycle : Cycle) : Server := cycle.server.core

def breakpoints (cycle : Cycle) : BreakpointMap := cycle.core.process.breakpoints

def noteInserted (before after : BreakpointMap) (inserted : List SoftwareBreakpoint) :
    ProcessMove → List SoftwareBreakpoint
  | .initializeProgram | .initializePid _ => []
  | .breakpoint (.insert address _) =>
      if (before.lookup address).isSome then inserted
      else inserted ++ (after.lookup address).toList
  | _ => inserted

def step (env : Env) (move : ProcessMove) : Prog Cycle Unit := fun cycle =>
  let (result, after) := move.perform env cycle.server
  (result, ⟨after, noteInserted cycle.breakpoints after.core.process.breakpoints cycle.inserted move⟩)

/-- The server as it is constructed. -/
def first (config : Config) : Cycle := ⟨Debugserver.newRspServer config, []⟩

/-- What is in the set was inserted in this cycle. -/
def Contained (cycle : Cycle) : Prop :=
  ∀ address breakpoint, cycle.breakpoints.lookup address = some breakpoint →
    breakpoint ∈ cycle.inserted

/-- The set is about this inferior only: an address is refused as already
inserted, and a byte put back into memory, for what this cycle inserted. -/
structure OwnBreakpoints (env : Env) (cycle : Cycle) : Prop where
  contained : cycle.Contained
  accepted : ∀ address, (∀ breakpoint ∈ cycle.inserted, breakpoint.address ≠ address) →
    cycle.breakpoints.lookup address = none
  restored : ∀ address location,
    let after := (removeSoftwareBreakpoint env address cycle.core).2
    after.kernel.memory location ≠ cycle.core.kernel.memory location →
      ∃ breakpoint ∈ cycle.inserted, breakpoint.address = location ∧
        breakpoint.originalBytes = [after.kernel.memory location]

section

variable (env : Env) {cycle : Cycle}

theorem ownBreakpoints_iff (saved : Saved cycle.core) :
    OwnBreakpoints env cycle ↔ cycle.Contained := by
  refine ⟨OwnBreakpoints.contained, fun contained => ⟨contained, ?_, ?_⟩⟩
  · intro address unknown
    cases found : cycle.breakpoints.lookup address with
    | none => rfl
    | some breakpoint =>
        obtain ⟨kind, original, rfl⟩ := saved address breakpoint found
        exact absurd rfl (unknown _ (contained address _ found))
  · intro address location after changed
    obtain ⟨ok, reached, ran, ⟨_, same⟩ | ⟨_, kind, original, found, _, memory⟩⟩ :=
      removeSoftwareBreakpoint_cases env saved address
    · have unchanged : after.kernel.memory = cycle.core.kernel.memory := by
        simp only [after, ran, same.memory]
      exact absurd (congrFun unchanged location) changed
    · have updated : after.kernel.memory =
          Function.update cycle.core.kernel.memory address original := by
        simp only [after, ran, memory]
      by_cases there : location = address
      · subst there
        refine ⟨_, contained location _ found, rfl, ?_⟩
        rw [updated, Function.update_self]
      · rw [updated, Function.update_of_ne there] at changed
        exact absurd rfl changed

/-- What a call on the set does to the set and to the record of the cycle. -/
theorem breakpoint_cases (saved : Saved cycle.core) (made : BreakpointCall) :
    let after := (step env (.breakpoint made) cycle).2
    (after.breakpoints = cycle.breakpoints ∧ after.inserted = cycle.inserted) ∨
      (∃ address kind original, after.breakpoints =
          cycle.breakpoints.insert address ⟨address, kind, [original]⟩ ∧
        after.inserted = cycle.inserted ++ [⟨address, kind, [original]⟩]) ∨
      ∃ address, after.breakpoints = cycle.breakpoints.erase address ∧
        after.inserted = cycle.inserted := by
  intro after
  have set : after.breakpoints =
      (ProcessBreakpointSet.perform env made cycle.core).2.process.breakpoints :=
    congrArg (fun server : Server => server.process.breakpoints) (ProcessMove.call_core _ _)
  have record : after.inserted =
      noteInserted cycle.breakpoints after.breakpoints cycle.inserted (.breakpoint made) := rfl
  cases made with
  | insert address kind =>
      obtain ⟨ok, reached, ran, ⟨_, same⟩ | ⟨_, absent, inserted, _⟩⟩ :=
        insertSoftwareBreakpoint_cases env address kind cycle.core
      · have unchanged : after.breakpoints = cycle.breakpoints := by
          rw [set, ProcessBreakpointSet.perform, ran]
          exact same.breakpoints
        refine Or.inl ⟨unchanged, ?_⟩
        rw [record, unchanged]
        cases found : cycle.breakpoints.lookup address with
        | none => simp [noteInserted, found]
        | some breakpoint => simp [noteInserted, found]
      · have changed : after.breakpoints = cycle.breakpoints.insert address
            ⟨address, kind, [cycle.core.kernel.memory address]⟩ := by
          rw [set, ProcessBreakpointSet.perform, ran]
          exact inserted
        refine Or.inr (Or.inl ⟨address, kind, _, changed, ?_⟩)
        have new : cycle.breakpoints.lookup address = none := absent
        rw [record, changed]
        simp [noteInserted, new]
  | remove address =>
      obtain ⟨ok, reached, ran, ⟨_, same⟩ | ⟨_, kind, original, _, erased, _⟩⟩ :=
        removeSoftwareBreakpoint_cases env saved address
      · refine Or.inl ⟨?_, record⟩
        rw [set, ProcessBreakpointSet.perform, ran]
        exact same.breakpoints
      · refine Or.inr (Or.inr ⟨address, ?_, record⟩)
        rw [set, ProcessBreakpointSet.perform, ran]
        exact erased

theorem insert_found {set : BreakpointMap} {address location : UInt64}
    {new breakpoint : SoftwareBreakpoint}
    (found : (set.insert address new).lookup location = some breakpoint) :
    (location = address ∧ breakpoint = new) ∨ set.lookup location = some breakpoint := by
  by_cases there : location = address
  · subst there
    rw [AList.lookup_insert, Option.some.injEq] at found
    exact Or.inl ⟨rfl, found.symm⟩
  · rw [AList.lookup_insert_ne there] at found
    exact Or.inr found

theorem erase_found {set : BreakpointMap} {address location : UInt64}
    {breakpoint : SoftwareBreakpoint} (found : (set.erase address).lookup location = some breakpoint) :
    set.lookup location = some breakpoint := by
  by_cases there : location = address
  · subst there
    rw [AList.lookup_erase] at found
    cases found
  · rw [AList.lookup_erase_ne there] at found
    exact found

/-- What is in the set after a move was there before, or is what the move inserted. -/
theorem step_found (saved : Saved cycle.core) (move : ProcessMove) {location : UInt64}
    {breakpoint : SoftwareBreakpoint}
    (found : (step env move cycle).2.breakpoints.lookup location = some breakpoint) :
    cycle.breakpoints.lookup location = some breakpoint ∨
      (∃ kind original, breakpoint = ⟨location, kind, [original]⟩) ∧
        breakpoint ∈ (step env move cycle).2.inserted := by
  by_cases other : ∀ made, move ≠ .breakpoint made
  · have same : (step env move cycle).2.breakpoints = cycle.breakpoints :=
      move.perform_sameBreakpoints env other cycle.server
    exact Or.inl (same ▸ found)
  · simp only [ne_eq, not_forall, not_not] at other
    obtain ⟨made, rfl⟩ := other
    rcases breakpoint_cases env saved made with ⟨same, _⟩ |
      ⟨address, kind, original, inserted, record⟩ | ⟨address, erased, _⟩
    · exact Or.inl (same ▸ found)
    · rw [inserted] at found
      rcases insert_found found with ⟨rfl, rfl⟩ | before
      · exact Or.inr ⟨⟨kind, original, rfl⟩, by simp [record]⟩
      · exact Or.inl before
    · rw [erased] at found
      exact Or.inl (erase_found found)

theorem step_saved (move : ProcessMove) (saved : Saved cycle.core) :
    Saved (step env move cycle).2.core := by
  intro location breakpoint found
  rcases step_found env saved move found with before | ⟨own, _⟩
  · exact saved location breakpoint before
  · exact own

/-- Between two initializations the record only grows. -/
theorem subset_noteInserted (before after : BreakpointMap) (inserted : List SoftwareBreakpoint)
    {move : ProcessMove} (within : move.initializes = false) :
    inserted ⊆ noteInserted before after inserted move := by
  cases move with
  | initializeProgram | initializePid pid => cases within
  | breakpoint made =>
      cases made with
      | insert address kind =>
          rw [noteInserted]
          split
          · exact List.Subset.refl inserted
          · exact List.subset_append_left inserted _
      | remove address => exact List.Subset.refl inserted
  | _ => exact List.Subset.refl inserted

theorem step_initializes (cycle : Cycle) {move : ProcessMove} (starts : move.initializes = true) :
    (step env move cycle).2.breakpoints = cycle.breakpoints ∧ (step env move cycle).2.inserted = [] := by
  have other (made : BreakpointCall) : move ≠ .breakpoint made := by
    rintro rfl
    cases starts
  refine ⟨move.perform_sameBreakpoints env other cycle.server, ?_⟩
  cases move with
  | initializeProgram | initializePid pid => rfl
  | _ => cases starts

/-- The set is contained in the new cycle exactly when the old one has left nothing in it. -/
theorem step_contained_iff (saved : Saved cycle.core) (contained : cycle.Contained)
    (move : ProcessMove) :
    (step env move cycle).2.Contained ↔ (move.initializes = true → cycle.breakpoints.keys = []) := by
  cases starts : move.initializes with
  | true =>
      obtain ⟨same, record⟩ := step_initializes env cycle starts
      rw [Contained, same, record]
      constructor
      · intro nothing _
        apply List.eq_nil_iff_forall_not_mem.mpr
        intro address member
        obtain ⟨breakpoint, found⟩ := Option.isSome_iff_exists.mp (AList.lookup_isSome.mpr member)
        exact List.not_mem_nil (nothing address breakpoint found)
      · intro empty address breakpoint found
        have member : address ∈ cycle.breakpoints.keys :=
          AList.lookup_isSome.mp (Option.isSome_iff_exists.mpr ⟨breakpoint, found⟩)
        rw [empty rfl] at member
        exact absurd member List.not_mem_nil
  | false =>
      refine ⟨fun _ => nofun, fun _ location breakpoint found => ?_⟩
      rcases step_found env saved move found with before | ⟨_, own⟩
      · exact subset_noteInserted _ _ _ starts (contained location breakpoint before)
      · exact own

end

theorem first_contained (config : Config) : (first config).Contained :=
  fun _ _ found => nomatch found

theorem first_saved (config : Config) : Saved (first config).core :=
  fun _ _ found => nomatch found

/-- The set is about the present inferior at every point of a run exactly when
each call of `Initialize` finds it empty. -/
theorem run_ownBreakpoints_iff (env : Env) (config : Config) (moves : List ProcessMove) :
    (∀ before, before <+: moves →
        OwnBreakpoints env (run (step env) before (first config)).2) ↔
      Along (step env) (fun cycle move => move.initializes = true → cycle.breakpoints.keys = [])
        (first config) moves := by
  have preserved : ∀ cycle move, Saved (core cycle) → Saved (step env move cycle).2.core :=
    fun _ move => step_saved env move
  have saved (before : List ProcessMove) : Saved (run (step env) before (first config)).2.core :=
    run_invariant preserved before (first config) (first_saved config)
  simp only [ownBreakpoints_iff env (saved _)]
  exact run_prefixes_iff_along preserved
    (fun _ move kept contained => step_contained_iff env kept contained move) moves (first config)
    (first_saved config) (first_contained config)

/-! The program of the first inferior is `push` instructions, that of the second `nop`. -/

def programs : List ProcessMove :=
  [.setArgv [ascii "/bin/first"], .initializeProgram, .attach, .start,
    .inferior ⟨fun _ _ => 0, fun _ => 0x55⟩, .breakpoint (.insert 0x1000 1),
    .exception .gone ⟨0, 0, 0⟩, .setArgv [ascii "/bin/second"], .initializeProgram, .attach, .start,
    .inferior ⟨fun _ _ => 0, fun _ => 0x90⟩]

/-- The second program cannot be given the breakpoint of the first one, and
removing that one puts a byte of the first program into it. -/
theorem breakpoint_outlives_inferior :
    let reached := (run (step Debugserver.obliging) programs (first Debugserver.program)).2
    reached.inserted = [] ∧
      (insertSoftwareBreakpoint Debugserver.obliging 0x1000 1 reached.core).1 = some false ∧
      reached.core.kernel.memory 0x1000 = 0x90 ∧
      (removeSoftwareBreakpoint Debugserver.obliging 0x1000 reached.core).1 = some true ∧
      (removeSoftwareBreakpoint Debugserver.obliging 0x1000 reached.core).2.kernel.memory 0x1000 =
        0x55 := by
  decide +kernel

end Cycle

end Gdbserver
