import Gdbserver.Inferior.Actions

/-!
# Software breakpoints

`ProcessBreakpointSet` and `SoftwareBreakpoint`. Memory, the map of breakpoints
and the bytes each of them has saved are changed one after the other, and every
access to memory may fail.
-/

set_option autoImplicit false

namespace Gdbserver

open Logic Prog Frame

namespace SoftwareBreakpoint

/-- The `int3` instruction. -/
def kInt3 : UInt8 := 0xCC

def isInserted (arch : Arch) (breakpoint : SoftwareBreakpoint) : Bool :=
  match arch with
  | .amd64 => !breakpoint.originalBytes.isEmpty
  | .arm64 | .other => false

/-- `Insert`, with the object as it leaves it. -/
def insert (env : Env) (breakpoint : SoftwareBreakpoint) :
    Prog Server (Bool × SoftwareBreakpoint) :=
  match env.arch with
  | .amd64 =>
      if breakpoint.isInserted env.arch then pure (false, breakpoint)
      else if breakpoint.kind ≠ 1 then pure (false, breakpoint)
      else do
        match ← Process.readMemory env breakpoint.address 1 with
        | none => pure (false, breakpoint)
        | some original => do
            if !(← Process.writeMemory env breakpoint.address [kInt3]) then pure (false, breakpoint)
            else
              pure (true,
                { breakpoint with originalBytes := breakpoint.originalBytes ++ original })
  | .arm64 | .other => pure (false, breakpoint)

/-- `Remove`, with the object as it leaves it. -/
def remove (env : Env) (breakpoint : SoftwareBreakpoint) :
    Prog Server (Bool × SoftwareBreakpoint) :=
  match env.arch with
  | .amd64 =>
      if !breakpoint.isInserted env.arch then pure (false, breakpoint)
      else do
        let original := breakpoint.originalBytes.take 1
        if !(← Process.writeMemory env breakpoint.address original) then pure (false, breakpoint)
        else pure (true, { breakpoint with originalBytes := [] })
  | .arm64 | .other => pure (false, breakpoint)

/-- `~SoftwareBreakpoint`. -/
def destroy (env : Env) (breakpoint : SoftwareBreakpoint) : Prog Server Unit :=
  if breakpoint.isInserted env.arch then do
    let _ ← remove env breakpoint
    pure ()
  else pure ()

end SoftwareBreakpoint

namespace ProcessBreakpointSet

open SoftwareBreakpoint

def insertSoftwareBreakpoint (env : Env) (address kind : UInt64) : Prog Server Bool := do
  let present ← read (·.process.breakpoints.lookup address)
  if present.isSome then pure false
  else do
    let (inserted, breakpoint) ← SoftwareBreakpoint.insert env ⟨address, kind, []⟩
    if !inserted then do
      destroy env breakpoint
      pure false
    else do
      modifyProcess fun process =>
        { process with breakpoints := process.breakpoints.insert address breakpoint }
      pure true

def removeSoftwareBreakpoint (env : Env) (address : UInt64) : Prog Server Bool := do
  match ← read (·.process.breakpoints.lookup address) with
  | none => pure false
  | some breakpoint => do
      let (removed, emptied) ← SoftwareBreakpoint.remove env breakpoint
      if !removed then pure false
      else do
        modifyProcess fun process => { process with breakpoints := process.breakpoints.erase address }
        destroy env emptied
        pure true

end ProcessBreakpointSet

/-! ## What one call can do -/

/-- Neither the memory nor the set is changed. -/
structure Untouched (before after : Server) : Prop where
  memory : after.kernel.memory = before.kernel.memory
  breakpoints : after.process.breakpoints = before.process.breakpoints

theorem Process.storeBytes_singleton (memory : UInt64 → UInt8) (address : UInt64) (byte : UInt8) :
    storeBytes memory address [byte] = Function.update memory address byte := by
  funext location
  by_cases same : location = address
  · subst same
    simp [storeBytes]
  · have apart : (location - address).toNat ≠ 0 := by
      intro zero
      have equal : location - address = 0 := UInt64.toNat_inj.mp zero
      grind
    obtain ⟨distance, there⟩ := Nat.exists_eq_succ_of_ne_zero apart
    simp [storeBytes, there, Function.update_of_ne same]

section Cases

variable (env : Env)

theorem Process.readMemory_byte (address : UInt64) (server : Server) :
    ∃ result after, readMemory env address 1 server = (some result, after) ∧
      Untouched server after ∧ (result = none ∨ result = some [server.kernel.memory address]) := by
  rw [readMemory, ask_bind]
  split
  · exact ⟨none, _, rfl, ⟨rfl, rfl⟩, Or.inl rfl⟩
  · refine ⟨_, _, rfl, ⟨rfl, rfl⟩, Or.inr ?_⟩
    simp [List.range_succ, Server.asked]

/-- A byte is written, or nothing is. -/
theorem Process.writeMemory_byte (address : UInt64) (byte : UInt8) (server : Server) :
    ∃ ok after, writeMemory env address [byte] server = (some ok, after) ∧
      after.process.breakpoints = server.process.breakpoints ∧
      after.kernel.memory =
        if ok then Function.update server.kernel.memory address byte else server.kernel.memory := by
  rw [writeMemory, read_bind]
  split
  · exact ⟨false, server, rfl, rfl, rfl⟩
  · rw [if_neg (List.cons_ne_nil byte []), ask_bind]
    split
    · exact ⟨false, _, rfl, rfl, rfl⟩
    · refine ⟨true, _, rfl, rfl, ?_⟩
      exact storeBytes_singleton _ _ _

namespace SoftwareBreakpoint

theorem destroy_removed (breakpoint : SoftwareBreakpoint) (empty : breakpoint.originalBytes = [])
    (server : Server) : destroy env breakpoint server = (some (), server) := by
  have out : breakpoint.isInserted env.arch = false := by
    cases arch : env.arch <;> simp [isInserted, empty]
  simp [destroy, out]

/-- A new breakpoint saves the byte that it replaces. -/
theorem insert_cases (address kind : UInt64) (server : Server) :
    (∃ after, insert env ⟨address, kind, []⟩ server = (some (false, ⟨address, kind, []⟩), after) ∧
        Untouched server after) ∨
      ∃ after, insert env ⟨address, kind, []⟩ server =
          (some (true, ⟨address, kind, [server.kernel.memory address]⟩), after) ∧
        after.process.breakpoints = server.process.breakpoints ∧
        after.kernel.memory = Function.update server.kernel.memory address kInt3 := by
  have refused : ∃ after, (pure (false, ⟨address, kind, []⟩) :
      Prog Server (Bool × SoftwareBreakpoint)) server =
        (some (false, ⟨address, kind, []⟩), after) ∧ Untouched server after :=
    ⟨server, rfl, rfl, rfl⟩
  unfold insert
  cases arch : env.arch with
  | arm64 => exact Or.inl refused
  | other => exact Or.inl refused
  | amd64 =>
      have new : isInserted .amd64 ⟨address, kind, []⟩ = false := rfl
      simp only [new, Bool.false_eq_true, if_false]
      by_cases wide : kind ≠ 1
      · rw [if_pos wide]
        exact Or.inl refused
      · obtain ⟨read, middle, ranRead, kept, result⟩ := Process.readMemory_byte env address server
        rw [if_neg wide, bind_of_some ranRead]
        rcases result with rfl | rfl
        · exact Or.inl ⟨middle, rfl, kept⟩
        · obtain ⟨ok, after, ranWrite, breakpoints, memory⟩ :=
            Process.writeMemory_byte env address kInt3 middle
          dsimp only
          rw [bind_of_some ranWrite]
          cases ok with
          | false => exact Or.inl ⟨after, rfl, memory.trans kept.memory,
              breakpoints.trans kept.breakpoints⟩
          | true =>
              refine Or.inr ⟨after, rfl, breakpoints.trans kept.breakpoints, ?_⟩
              rw [memory, if_pos rfl, kept.memory]

/-- An inserted breakpoint puts back the byte it has saved. -/
theorem remove_cases (address kind : UInt64) (original : UInt8) (server : Server) :
    (∃ after, remove env ⟨address, kind, [original]⟩ server =
        (some (false, ⟨address, kind, [original]⟩), after) ∧ Untouched server after) ∨
      ∃ after, remove env ⟨address, kind, [original]⟩ server =
          (some (true, ⟨address, kind, []⟩), after) ∧
        after.process.breakpoints = server.process.breakpoints ∧
        after.kernel.memory = Function.update server.kernel.memory address original := by
  have refused : ∃ after, (pure (false, ⟨address, kind, [original]⟩) :
      Prog Server (Bool × SoftwareBreakpoint)) server =
        (some (false, ⟨address, kind, [original]⟩), after) ∧ Untouched server after :=
    ⟨server, rfl, rfl, rfl⟩
  unfold remove
  cases arch : env.arch with
  | arm64 => exact Or.inl refused
  | other => exact Or.inl refused
  | amd64 =>
      obtain ⟨ok, after, ranWrite, breakpoints, memory⟩ :=
        Process.writeMemory_byte env address original server
      have inserted : isInserted .amd64 ⟨address, kind, [original]⟩ = true := rfl
      simp only [inserted, List.take_succ_cons, List.take_zero]
      rw [if_not_true, bind_of_some ranWrite]
      cases ok with
      | false => exact Or.inl ⟨after, rfl, memory, breakpoints⟩
      | true => exact Or.inr ⟨after, rfl, breakpoints, memory⟩

end SoftwareBreakpoint

namespace ProcessBreakpointSet

open SoftwareBreakpoint

/-- Every breakpoint of the set has saved one byte, and is found under its address. -/
def Saved (server : Server) : Prop :=
  ∀ address breakpoint, server.process.breakpoints.lookup address = some breakpoint →
    ∃ kind original, breakpoint = ⟨address, kind, [original]⟩

theorem insertSoftwareBreakpoint_cases (address kind : UInt64) (server : Server) :
    ∃ ok after, insertSoftwareBreakpoint env address kind server = (some ok, after) ∧
      ((ok = false ∧ Untouched server after) ∨
        (ok = true ∧ server.process.breakpoints.lookup address = none ∧
          after.process.breakpoints = server.process.breakpoints.insert address
            ⟨address, kind, [server.kernel.memory address]⟩ ∧
          after.kernel.memory = Function.update server.kernel.memory address kInt3)) := by
  rw [insertSoftwareBreakpoint, read_bind]
  cases present : server.process.breakpoints.lookup address with
  | some breakpoint => exact ⟨false, server, rfl, Or.inl ⟨rfl, rfl, rfl⟩⟩
  | none =>
      simp only [Option.isSome_none, Bool.false_eq_true, if_false]
      rcases insert_cases env address kind server with ⟨after, ran, kept⟩ |
        ⟨after, ran, breakpoints, memory⟩
      · rw [bind_of_some ran]
        refine ⟨false, after, ?_, Or.inl ⟨rfl, kept⟩⟩
        exact bind_of_some (destroy_removed env ⟨address, kind, []⟩ rfl after)
      · rw [bind_of_some ran]
        refine ⟨true, _, rfl, Or.inr ⟨rfl, trivial, ?_, memory⟩⟩
        rw [← breakpoints]
        rfl

theorem removeSoftwareBreakpoint_cases {server : Server} (saved : Saved server)
    (address : UInt64) :
    ∃ ok after, removeSoftwareBreakpoint env address server = (some ok, after) ∧
      ((ok = false ∧ Untouched server after) ∨
        (ok = true ∧ ∃ kind original,
          server.process.breakpoints.lookup address = some ⟨address, kind, [original]⟩ ∧
          after.process.breakpoints = server.process.breakpoints.erase address ∧
          after.kernel.memory = Function.update server.kernel.memory address original)) := by
  rw [removeSoftwareBreakpoint, read_bind]
  cases present : server.process.breakpoints.lookup address with
  | none => exact ⟨false, server, rfl, Or.inl ⟨rfl, rfl, rfl⟩⟩
  | some breakpoint =>
      obtain ⟨kind, original, rfl⟩ := saved address breakpoint present
      dsimp only
      rcases remove_cases env address kind original server with ⟨after, ran, kept⟩ |
        ⟨after, ran, breakpoints, memory⟩
      · rw [bind_of_some ran]
        exact ⟨false, after, rfl, Or.inl ⟨rfl, kept⟩⟩
      · rw [bind_of_some ran]
        refine ⟨true, after.setProcess
          { after.process with breakpoints := after.process.breakpoints.erase address }, ?_,
          Or.inr ⟨rfl, kind, original, rfl, ?_, memory⟩⟩
        · exact bind_of_some (destroy_removed env ⟨address, kind, []⟩ rfl _)
        · rw [← breakpoints]
          rfl

/-! ## Runs of calls -/

inductive BreakpointCall where
  | insert (address kind : UInt64)
  | remove (address : UInt64)

def perform : BreakpointCall → Prog Server Bool
  | .insert address kind => insertSoftwareBreakpoint env address kind
  | .remove address => removeSoftwareBreakpoint env address

def step (call : BreakpointCall) : Prog Server Unit := do
  let _ ← perform env call
  pure ()

/-- The memory is the program's own but for the breakpoints of the set, each of
which holds the byte that it covers. -/
structure Patched (original : UInt64 → UInt8) (server : Server) : Prop where
  memory : ∀ address, server.kernel.memory address =
    if address ∈ server.process.breakpoints then kInt3 else original address
  saved : ∀ address breakpoint, server.process.breakpoints.lookup address = some breakpoint →
    ∃ kind, breakpoint = ⟨address, kind, [original address]⟩

variable {original : UInt64 → UInt8} {server : Server}

theorem Patched.untouched (patched : Patched original server) {after : Server}
    (same : Untouched server after) : Patched original after := by
  constructor
  · intro address
    rw [same.memory, same.breakpoints]
    exact patched.memory address
  · rw [same.breakpoints]
    exact patched.saved

theorem Patched.insert (patched : Patched original server) {after : Server} {address kind : UInt64}
    (absent : server.process.breakpoints.lookup address = none)
    (breakpoints : after.process.breakpoints = server.process.breakpoints.insert address
      ⟨address, kind, [server.kernel.memory address]⟩)
    (memory : after.kernel.memory = Function.update server.kernel.memory address kInt3) :
    Patched original after := by
  have outside : address ∉ server.process.breakpoints := AList.lookup_eq_none.mp absent
  have covered : server.kernel.memory address = original address := by
    simp [patched.memory address, outside]
  constructor
  · intro location
    rw [memory, breakpoints]
    by_cases same : location = address
    · simp [same]
    · simp [same, patched.memory location]
  · intro location breakpoint found
    rw [breakpoints] at found
    by_cases same : location = address
    · subst same
      rw [AList.lookup_insert, Option.some.injEq] at found
      exact ⟨kind, by rw [← found, covered]⟩
    · rw [AList.lookup_insert_ne same] at found
      exact patched.saved location breakpoint found

theorem Patched.remove (patched : Patched original server) {after : Server} {address kind : UInt64}
    {byte : UInt8}
    (present : server.process.breakpoints.lookup address = some ⟨address, kind, [byte]⟩)
    (breakpoints : after.process.breakpoints = server.process.breakpoints.erase address)
    (memory : after.kernel.memory = Function.update server.kernel.memory address byte) :
    Patched original after := by
  have covered : byte = original address := by
    obtain ⟨_, same⟩ := patched.saved address _ present
    cases same
    rfl
  constructor
  · intro location
    rw [memory, breakpoints]
    by_cases same : location = address
    · simp [same, covered]
    · simp [same, patched.memory location]
  · intro location breakpoint found
    rw [breakpoints] at found
    by_cases same : location = address
    · subst same
      rw [AList.lookup_erase] at found
      cases found
    · rw [AList.lookup_erase_ne same] at found
      exact patched.saved location breakpoint found

/-- What a call can do where the memory is patched. -/
theorem perform_cases (patched : Patched original server) (call : BreakpointCall) :
    ∃ ok after, perform env call server = (some ok, after) ∧ Patched original after ∧
      (ok = false → Untouched server after) ∧
      (ok = true → ∀ address, call = .remove address →
        after.process.breakpoints = server.process.breakpoints.erase address) := by
  cases call with
  | insert address kind =>
      obtain ⟨ok, after, ran, ⟨failed, same⟩ | ⟨done, absent, breakpoints, memory⟩⟩ :=
        insertSoftwareBreakpoint_cases env address kind server
      · exact ⟨ok, after, ran, patched.untouched same, fun _ => same, fun _ _ => nofun⟩
      · exact ⟨ok, after, ran, patched.insert absent breakpoints memory,
          fun failed => absurd (done.symm.trans failed) nofun, fun _ _ => nofun⟩
  | remove address =>
      have saved : Saved server := by
        intro address breakpoint found
        obtain ⟨kind, same⟩ := patched.saved address breakpoint found
        exact ⟨kind, _, same⟩
      obtain ⟨ok, after, ran, ⟨failed, same⟩ | ⟨done, kind, byte, present, breakpoints, memory⟩⟩ :=
        removeSoftwareBreakpoint_cases env saved address
      · exact ⟨ok, after, ran, patched.untouched same, fun _ => same,
          fun done => absurd (failed.symm.trans done) nofun⟩
      · refine ⟨ok, after, ran, patched.remove present breakpoints memory,
          fun failed => absurd (done.symm.trans failed) nofun, fun _ _ same => ?_⟩
        cases same
        exact breakpoints

theorem step_patched (call : BreakpointCall) (patched : Patched original server) :
    Patched original (step env call server).2 := by
  obtain ⟨ok, after, ran, kept, -⟩ := perform_cases env patched call
  rw [step, bind_of_some ran]
  exact kept

/-- The removals are made one after the other; the last of them leaves the set empty. -/
theorem removals_restore (addresses : List UInt64) (patched : Patched original server)
    (all : ∀ address ∈ server.process.breakpoints, address ∈ addresses)
    (removed : Along (step env) (fun server call => (perform env call server).1 = some true) server
      (addresses.map .remove)) :
    (run (step env) (addresses.map .remove) server).2.kernel.memory = original := by
  induction addresses generalizing server with
  | nil =>
      funext address
      have outside : address ∉ server.process.breakpoints := fun member => nomatch all address member
      have own := patched.memory address
      rw [if_neg outside] at own
      exact own
  | cons address rest ih =>
      rw [List.map_cons] at removed ⊢
      obtain ⟨ok, after, ran, kept, -, erased⟩ := perform_cases env patched (.remove address)
      have taken : step env (.remove address) server = (some (), after) := by
        rw [step, bind_of_some ran]
        rfl
      obtain ⟨first, later⟩ := (along_cons_of_some taken).mp removed
      rw [ran, Option.some.injEq] at first
      rw [run_cons_of_some taken]
      apply ih kept _ later
      intro other member
      rw [erased first address rfl, AList.mem_erase] at member
      exact (List.mem_cons.mp (all other member.2)).resolve_left member.1

/-- Breakpoints never corrupt the memory of the program. -/
theorem breakpoints_patch_memory (server : Server) (calls : List BreakpointCall) :
    let start := server.setProcess { server.process with breakpoints := ∅ }
    let reached := (run (step env) calls start).2
    Patched server.kernel.memory reached ∧
      (∀ call, ∃ ok after, perform env call reached = (some ok, after) ∧
        (ok = false → Untouched reached after)) ∧
      ∀ addresses : List UInt64,
        (∀ address ∈ reached.process.breakpoints, address ∈ addresses) →
        Along (step env) (fun server call => (perform env call server).1 = some true) reached
          (addresses.map .remove) →
        (run (step env) (addresses.map .remove) reached).2.kernel.memory =
          server.kernel.memory := by
  intro start reached
  have empty : Patched server.kernel.memory start := by
    constructor
    · intro address
      rfl
    · intro address breakpoint found
      cases found
  have patched : Patched server.kernel.memory reached :=
    run_invariant (fun _ call => step_patched env call) calls start empty
  refine ⟨patched, ?_, ?_⟩
  · intro call
    obtain ⟨ok, after, ran, -, failed, -⟩ := perform_cases env patched call
    exact ⟨ok, after, ran, failed⟩
  · intro addresses all removed
    exact removals_restore env addresses patched all removed

end ProcessBreakpointSet

end Cases

end Gdbserver
