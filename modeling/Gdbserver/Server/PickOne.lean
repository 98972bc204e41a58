import Gdbserver.Server.Attachment
import Mathlib.Data.List.Nodup

/-!
# "Pick one" entries of a `vCont` packet

An entry with thread id 0 stands for an arbitrary thread. `Handle_vCont` picks
one before the list is consulted, but its loop variable is a copy of the entry.
-/

set_option autoImplicit false

namespace Gdbserver

open Logic Prog Frame ThreadActionList

namespace CommandHandler

/-- One pass of the loop, with the copy it leaves behind. -/
def pickOne (env : Env) (entry : Entry) : Prog Server Entry := do
  if entry.tid = 0 then
    match ← Process.pickOneThread env with
    | some tid => pure { entry with tid := tid }
    | none => pure entry
  else pure entry

/-- The loop, and the list that `GetAction` consults after it. -/
def resolveActions (env : Env) (actions : ThreadActionList) : Prog Server ThreadActionList := do
  forM actions.actions fun entry => do
    let _ ← pickOne env entry
    pure ()
  pure actions

/-- The loop is the one `Handle_vCont` runs. -/
theorem resolveActions_eq (env : Env) (actions : ThreadActionList) :
    resolveActions env actions = (do
      resolvePickOnes env actions.actions
      pure actions) := by
  have pass (entry : Entry) : (do
      let _ ← pickOne env entry
      pure () : Prog Server Unit) =
      if entry.tid = 0 then do
        let _ ← Process.pickOneThread env
        pure ()
      else pure () := by
    funext server
    rw [pickOne]
    by_cases zero : entry.tid = 0
    · rw [if_pos zero, if_pos zero, bind_assoc_apply]
      obtain ⟨picked, after, ran, _⟩ := Process.pickOneThread_quiet env server
      rw [bind_of_some ran, bind_of_some ran]
      cases picked <;> rfl
    · rw [if_neg zero, if_neg zero]
      rfl
  rw [resolveActions, resolvePickOnes]
  simp only [pass]

/-- The threads of the process that an entry is for. -/
def matchingThreads (server : Server) (entry : Entry) : List Koid :=
  server.process.threads.keys.filter fun tid => Entry.contains entry server.process.id tid

/-- Exactly one thread, and it is not gone. -/
def ReachesOne (server : Server) (entry : Entry) : Prop :=
  ∃ tid, matchingThreads server entry = [tid] ∧ (server.thread tid).state ≠ .gone

/-- An entry whose thread id is still 0 is for the thread with that koid, which
`MX_KOID_INVALID` never is. -/
theorem reachesOne_iff_of_zero {entry : Entry} (zero : entry.tid = 0) (server : Server) :
    ReachesOne server entry ↔
      (server.process.id = entry.pid ∨ entry.pid = kAll) ∧
        0 ∈ server.process.threads.keys ∧ (server.thread 0).state ≠ .gone := by
  have single (tid : Koid) : Entry.contains entry server.process.id tid = true ↔
      (server.process.id = entry.pid ∨ entry.pid = kAll) ∧ tid = 0 := by
    have distinct : (0 : Koid) ≠ kAll := by decide
    simp [Entry.contains, zero, distinct]
  constructor
  · rintro ⟨tid, only, state⟩
    have member : tid ∈ matchingThreads server entry := by rw [only]; exact List.mem_singleton_self tid
    obtain ⟨present, contains⟩ := List.mem_filter.mp member
    obtain ⟨process, rfl⟩ := (single tid).mp contains
    exact ⟨process, present, state⟩
  · rintro ⟨process, present, state⟩
    refine ⟨0, ?_, state⟩
    have only : (fun tid => Entry.contains entry server.process.id tid) = fun tid => tid == 0 := by
      funext tid
      rw [Bool.eq_iff_iff, single, beq_iff_eq]
      exact ⟨fun both => both.2, fun same => ⟨process, same⟩⟩
    have once : server.process.threads.keys.count 0 = 1 :=
      List.count_eq_one_of_mem server.process.threads.nodup present
    rw [matchingThreads, only, List.filter_beq, once]
    rfl

/-- The list comes out of the loop as it went in, so an entry that was to be
picked for reaches a thread only if one has koid 0. -/
theorem resolveActions_reachesOne_iff (env : Env) (actions : ThreadActionList) (server : Server) :
    ∃ resolved after, resolveActions env actions server = (some resolved, after) ∧
      ((∀ (index : Nat) (entry consulted : Entry), actions.actions[index]? = some entry →
          resolved.actions[index]? = some consulted → entry.tid = 0 → ReachesOne after consulted) ↔
        ∀ entry ∈ actions.actions, entry.tid = 0 →
          (after.process.id = entry.pid ∨ entry.pid = kAll) ∧
            0 ∈ after.process.threads.keys ∧ (after.thread 0).state ≠ .gone) := by
  have loop : quiet.Runs (resolvePickOnes env actions.actions) :=
    Runs.forM fun _ _ => Runs.ite
      (fun _ => Runs.bind (Process.pickOneThread_quiet env) fun _ => Runs.pure) fun _ => Runs.pure
  obtain ⟨_, after, ran, _⟩ := loop server
  refine ⟨actions, after, ?_, ?_, ?_⟩
  · rw [resolveActions_eq, bind_of_some ran]
    rfl
  · intro all entry member zero
    obtain ⟨index, found⟩ := List.mem_iff_getElem?.mp member
    exact (reachesOne_iff_of_zero zero after).mp (all index entry entry found found zero)
  · intro all index entry consulted found same zero
    cases found.symm.trans same
    exact (reachesOne_iff_of_zero zero after).mpr
      (all entry (List.mem_iff_getElem?.mpr ⟨index, found⟩) zero)

end CommandHandler

namespace Debugserver

open CommandHandler

def firstThread : Server :=
  (run (RspServer.handle obliging) untilFirstThread (started obliging program)).2.core

/-- `vCont;c:0` for a process with one stopped thread. -/
def pickAny : ThreadActionList :=
  ThreadActionList.ofString obliging.ftl (fun _ => 0) (ascii "c:0") firstThread.process.id

/-- The list is accepted and there is a thread to pick, but none is reached. -/
theorem pickAny_reaches_none :
    pickAny.valid = true ∧ liveThreadIds firstThread = [9] ∧
      (resolveActions obliging pickAny firstThread).1.map (·.actions) =
        some [⟨.continue, 77, 0⟩] ∧
      ¬ ReachesOne (resolveActions obliging pickAny firstThread).2 ⟨.continue, 77, 0⟩ := by
  refine ⟨by decide +kernel, by decide +kernel, by decide +kernel, ?_⟩
  have empty : matchingThreads (resolveActions obliging pickAny firstThread).2
      ⟨.continue, 77, 0⟩ = [] := by decide +kernel
  rintro ⟨tid, only, _⟩
  rw [empty] at only
  exact List.cons_ne_nil tid [] only.symm

end Debugserver

end Gdbserver
