import Gdbserver.Ipt.IptServer
import Gdbserver.Logic.Runs
import Gdbserver.Server.Debugserver

/-!
# Who uses the trace buffers

What the handlers can do to the buffers of the threads, step by step, and what is
left of it over a run of exceptions.
-/

set_option autoImplicit false

namespace Gdbserver.Ipt

open Logic Prog

namespace IptServer

variable {env : Env} {device : Device} {config : IptConfig} {object : Nat} {tid : Koid}
  {before after server : IptServer}

/-- What happens between two states as far as buffers are concerned. -/
inductive Move : IptServer → IptServer → Prop
  | other {before after : IptServer} : after.ioctls = before.ioctls →
      after.iptBuffer = before.iptBuffer → Move before after
  | alloc {before after : IptServer} (object : Nat) (descriptor : UInt32) :
      Ledger.owner before.deeds descriptor = none →
      after.ioctls = before.ioctls ++ [.allocBuffer object descriptor] →
      after.iptBuffer = Function.update before.iptBuffer object descriptor.toInt32 →
      Move before after
  | use {before after : IptServer} (object : Nat) (call : Ioctl) :
      0 ≤ before.iptBuffer object →
      call.deed = .use (before.iptBuffer object).toUInt32 object →
      after.ioctls = before.ioctls ++ [call] → after.iptBuffer = before.iptBuffer →
      Move before after
  | free {before after : IptServer} (object : Nat) : 0 ≤ before.iptBuffer object →
      after.ioctls =
        before.ioctls ++ [.freeBuffer object (before.iptBuffer object).toUInt32] →
      after.iptBuffer = Function.update before.iptBuffer object (-1) → Move before after

abbrev moves : Frame IptServer := .steps Move

theorem moves_of_move {α : Type} {program : Prog IptServer α}
    (each : ∀ server, Move server (program server).2) : moves.Keeps program := .step each

theorem moves_onServer {α : Type} (inner : Prog Server α) : moves.Keeps (onServer inner) :=
  moves_of_move fun _ => .other rfl rfl

theorem consult_bind {α β : Type} (answer : Nat → α) (next : α → Prog IptServer β)
    (server : IptServer) : (consult answer >>= next) server =
      next (answer server.calls) { server with calls := server.calls + 1 } := rfl

theorem openDevices_bind {β : Type} (device : Device) (next : Bool → Prog IptServer β)
    (server : IptServer) : (openDevices device >>= next) server =
      next (device.opens server.calls) { server with calls := server.calls + 1 } := rfl

theorem move_initThreadPerf (device : Device) (config : IptConfig) (object : Nat)
    (server : IptServer) : Move server (initThreadPerf device config object server).2 := by
  rw [initThreadPerf, openDevices_bind]
  cases device.opens server.calls with
  | false => exact .other rfl rfl
  | true =>
      rw [if_not_true, read_bind, consult_bind]
      generalize asked : device.allocBuffer _ _ _ = answer
      cases answer with
      | none => exact .other rfl rfl
      | some descriptor =>
          have free := Ledger.owner_of_not_mem_held (device.fresh _ _ _ _ asked)
          exact .alloc object descriptor free rfl rfl

/-- A call for a thread is made at most once, with the descriptor it was given. -/
theorem move_callForThread {call : Ioctl} (buffer : 0 ≤ server.iptBuffer object)
    (deed : call.deed = .use (server.iptBuffer object).toUInt32 object) :
    Move server (callForThread device call server).2 := by
  rw [callForThread, openDevices_bind]
  cases device.opens server.calls with
  | false => exact .other rfl rfl
  | true =>
      rw [if_not_true, consult_bind]
      generalize device.duplicates _ = duplicated
      cases duplicated with
      | false => exact .other rfl rfl
      | true => exact .use object call buffer deed rfl rfl

theorem move_startThreadPerf (device : Device) (object : Nat) (server : IptServer) :
    Move server (startThreadPerf device object server).2 := by
  rw [startThreadPerf, read_bind]
  split
  · exact .other rfl rfl
  · rename_i buffer
    exact move_callForThread (Int32.not_lt.mp buffer) rfl

theorem move_stopThreadPerf (device : Device) (object : Nat) (server : IptServer) :
    Move server (stopThreadPerf device object server).2 := by
  rw [stopThreadPerf, read_bind]
  split
  · exact .other rfl rfl
  · rename_i buffer
    rw [discard_state]
    exact move_callForThread (Int32.not_lt.mp buffer) rfl

theorem move_dumpThreadPerf (device : Device) (config : IptConfig) (tid : Koid) (object : Nat)
    (server : IptServer) : Move server (dumpThreadPerf device config tid object server).2 := by
  rw [dumpThreadPerf, read_bind]
  split
  · exact .other rfl rfl
  · rename_i buffer
    rw [openDevices_bind]
    cases device.opens server.calls with
    | false => exact .other rfl rfl
    | true => exact .use object (.dump object _) (Int32.not_lt.mp buffer) rfl rfl rfl

theorem move_resetThreadPerf (device : Device) (object : Nat) (server : IptServer) :
    Move server (resetThreadPerf device object server).2 := by
  rw [resetThreadPerf, read_bind]
  split
  · exact .other rfl rfl
  · rename_i buffer
    rw [openDevices_bind]
    cases device.opens server.calls with
    | false => exact .other rfl rfl
    | true => exact .free object (Int32.not_lt.mp buffer) rfl rfl

theorem moves_traceThread (device : Device) (config : IptConfig) (object : Nat) :
    moves.Keeps (traceThread device config object) := by
  rw [traceThread]
  refine .ite (fun _ => ?_) fun _ => .pure
  refine .bind (moves_of_move (move_initThreadPerf device config object)) fun _ => ?_
  refine .ite (fun _ => .pure) fun _ => ?_
  refine .bind (moves_of_move (move_startThreadPerf device object)) fun _ => ?_
  exact .ite (fun _ => moves_of_move (move_resetThreadPerf device object)) fun _ => .pure

theorem moves_onThreadStarting (env : Env) (device : Device) (config : IptConfig) (tid : Koid) :
    moves.Keeps (onThreadStarting env device config tid) := by
  rw [onThreadStarting]
  refine .bind .read fun object => ?_
  refine .bind (moves_traceThread device config object) fun _ => ?_
  exact .bind (moves_onServer _) fun _ => .pure

theorem moves_collectTrace (device : Device) (config : IptConfig) (tid : Koid) (object : Nat) :
    moves.Keeps (collectTrace device config tid object) := by
  rw [collectTrace]
  refine .bind .read fun buffer => ?_
  refine .ite (fun _ => ?_) fun _ => .pure
  refine .bind (moves_of_move (move_stopThreadPerf device object)) fun _ => ?_
  refine .bind (moves_of_move (move_dumpThreadPerf device config tid object)) fun _ => ?_
  exact moves_of_move (move_resetThreadPerf device object)

theorem moves_onThreadExiting (env : Env) (device : Device) (config : IptConfig) (tid : Koid) :
    moves.Keeps (onThreadExiting env device config tid) := by
  rw [onThreadExiting]
  refine .bind .read fun object => ?_
  exact .bind (moves_collectTrace device config tid object) fun _ => moves_onServer _

theorem moves_onException (env : Env) (device : Device) (config : IptConfig)
    (exception : ExceptionType × ExceptionContext) :
    moves.Keeps (onException env device config exception) := by
  obtain ⟨type, context⟩ := exception
  rw [onException]
  refine .bind (moves_onServer _) fun thread => ?_
  refine .ite (fun _ => ?_) fun _ => ?_
  · cases thread with
    | none => exact .stop
    | some tid => exact moves_onServer _
  · cases type with
    | threadStarting =>
        cases thread with
        | none => exact .stop
        | some tid =>
            exact .bind (moves_onServer _) fun _ => moves_onThreadStarting env device config tid
    | threadExiting =>
        cases thread with
        | none => exact .stop
        | some tid =>
            exact .bind (moves_onServer _) fun _ => moves_onThreadExiting env device config tid
    | gone => exact moves_onServer _
    | general | fatalPageFault | undefinedInstruction | swBreakpoint | hwBreakpoint
    | unrecognized => exact .pure

/-! ## Every thread has its own buffer -/

/-- A thread object that has a descriptor owns it. -/
structure Kept (server : IptServer) : Prop where
  own : server.OwnDescriptors
  buffers : ∀ object, 0 ≤ server.iptBuffer object →
    Ledger.owner server.deeds (server.iptBuffer object).toUInt32 = some object

theorem deeds_of_ioctls {calls : List Ioctl} (issued : after.ioctls = before.ioctls ++ calls) :
    after.deeds = before.deeds ++ calls.map Ioctl.deed := by
  rw [deeds, issued, List.map_append]
  rfl

theorem Kept.move (kept : before.Kept) (move : Move before after) : after.Kept := by
  cases move with
  | other ioctls buffers =>
      have same : after.deeds = before.deeds := by rw [deeds, ioctls]; rfl
      refine ⟨?_, ?_⟩
      · rw [OwnDescriptors, same]
        exact kept.own
      · rw [same, buffers]
        exact kept.buffers
  | alloc object descriptor free ioctls buffers =>
      have grown : after.deeds = before.deeds ++ [.acquire descriptor object] :=
        deeds_of_ioctls ioctls
      refine ⟨?_, ?_⟩
      · rw [OwnDescriptors, grown]
        exact Ledger.lawful_snoc_iff.mpr ⟨kept.own, free⟩
      · intro other buffer
        rw [grown, Ledger.owner_snoc, Ledger.after]
        rw [buffers] at buffer ⊢
        by_cases same : other = object
        · subst same
          have back : descriptor.toInt32.toUInt32 = descriptor := rfl
          rw [Function.update_self, back, Function.update_self]
        · rw [Function.update_of_ne same] at buffer ⊢
          have owned := kept.buffers other buffer
          have different : (before.iptBuffer other).toUInt32 ≠ descriptor := by
            intro equal
            rw [equal, free] at owned
            cases owned
          rw [Function.update_of_ne different]
          exact owned
  | use object call buffer deed ioctls buffers =>
      have grown : after.deeds = before.deeds ++ [call.deed] := deeds_of_ioctls ioctls
      refine ⟨?_, ?_⟩
      · rw [OwnDescriptors, grown, deed]
        exact Ledger.lawful_snoc_iff.mpr ⟨kept.own, kept.buffers object buffer⟩
      · rw [grown, Ledger.owner_snoc, deed, buffers]
        exact kept.buffers
  | free object buffer ioctls buffers =>
      have grown : after.deeds =
          before.deeds ++ [.release (before.iptBuffer object).toUInt32 object] :=
        deeds_of_ioctls ioctls
      have mine := kept.buffers object buffer
      refine ⟨?_, ?_⟩
      · rw [OwnDescriptors, grown]
        exact Ledger.lawful_snoc_iff.mpr ⟨kept.own, mine⟩
      · intro other held
        rw [grown, Ledger.owner_snoc, Ledger.after]
        rw [buffers] at held ⊢
        by_cases same : other = object
        · subst same
          rw [Function.update_self] at held
          exact absurd held (by decide)
        · rw [Function.update_of_ne same] at held ⊢
          have owned := kept.buffers other held
          have different : (before.iptBuffer other).toUInt32 ≠
              (before.iptBuffer object).toUInt32 := by
            intro equal
            rw [equal, mine] at owned
            exact same (Option.some.inj owned).symm
          rw [Function.update_of_ne different]
          exact owned

theorem kept_onException (env : Env) (device : Device) (config : IptConfig) (server : IptServer)
    (exception : ExceptionType × ExceptionContext) (kept : server.Kept) :
    (onException env device config exception server).2.Kept := by
  have within : (Frame.preserving Kept).rel server
      (onException env device config exception server).2 :=
    Frame.steps_within (fun move kept => kept.move move)
      (moves_onException env device config exception server)
  exact within kept

theorem kept_new {core : Server} {memory : Nat → Int32} (none : ∀ object, memory object < 0) :
    (new core memory).Kept := by
  refine ⟨Ledger.lawful_nil, ?_⟩
  intro object buffer
  exact absurd buffer (Int32.not_le.mpr (none object))

/-! ## Where nothing was set -/

/-- A device that has no buffers left but does everything else. -/
def exhausted (io : DumpIo) : Device where
  opens _ := true
  allocBuffer _ _ _ := none
  fresh _ _ _ _ answer := nomatch answer
  duplicates _ := true
  succeeds _ := true
  dumpIo _ := io

/-- The options of a run that traces threads. -/
def tracingThreads : IptConfig := { IptConfig.new 1 fun _ => (0, 0) with mode := .threads }

/-- A server whose next thread is the object given. -/
def serverBefore (object : Nat) : Server :=
  { Debugserver.newServer Debugserver.program with objects := object }

def exiting : ExceptionType × ExceptionContext := (.threadExiting, ⟨9, 0, 0⟩)

/-- Calls are never undone. -/
def growing : Frame IptServer where
  rel before after := before.ioctls <+: after.ioctls
  refl _ := List.prefix_refl _
  trans := List.IsPrefix.trans

theorem Move.starts (move : Move before after) : before.ioctls <+: after.ioctls := by
  cases move with
  | other ioctls => exact ioctls ▸ List.prefix_refl _
  | alloc _ _ _ ioctls => exact ioctls ▸ List.prefix_append _ _
  | use _ _ _ _ ioctls => exact ioctls ▸ List.prefix_append _ _
  | free _ _ ioctls => exact ioctls ▸ List.prefix_append _ _

theorem growing_of_moves {α : Type} {program : Prog IptServer α} (kept : moves.Keeps program) :
    growing.Keeps program := fun state =>
  Frame.steps_within (fun move => Move.starts move) (kept state)

/-- A thread that exits with a descriptor in its memory has it released. -/
theorem collectTrace_exhausted {io : DumpIo} (buffer : 0 ≤ server.iptBuffer object) :
    server.ioctls ++ [.releaseBufferThread object (server.iptBuffer object).toUInt32] <+:
      (collectTrace (exhausted io) tracingThreads tid object server).2.ioctls := by
  have stopped : (stopThreadPerf (exhausted io) object server).2.ioctls =
      server.ioctls ++ [.releaseBufferThread object (server.iptBuffer object).toUInt32] := by
    rw [stopThreadPerf, read_bind, if_neg (Int32.not_lt.mpr buffer)]
    rfl
  rw [collectTrace, read_bind, if_pos ⟨rfl, buffer⟩, ← stopped]
  refine growing.rel_after (fun _ => growing_of_moves ?_) server
  refine .bind (moves_of_move (move_dumpThreadPerf _ _ _ _)) fun _ => ?_
  exact moves_of_move (move_resetThreadPerf _ _)

/-- The object is created for a thread that is only heard of when it exits. -/
theorem onException_exiting {io : DumpIo} {memory : Nat → Int32} (buffer : 0 ≤ memory object) :
    [.releaseBufferThread object (memory object).toUInt32] <+:
      (onException Debugserver.obliging (exhausted io) tracingThreads exiting
        (new (serverBefore object) memory)).2.ioctls := by
  let start := new (serverBefore object) memory
  let found := (onServer (RspServer.exceptionThread Debugserver.obliging 9) start).2
  let stopped := (onServer (Thread.onException Debugserver.obliging 9 .threadExiting
    ⟨9, 0, 0⟩) found).2
  have reached : onException Debugserver.obliging (exhausted io) tracingThreads exiting start =
      onThreadExiting Debugserver.obliging (exhausted io) tracingThreads 9 stopped := rfl
  have created : (stopped.core.thread 9).object = object := rfl
  have held : 0 ≤ stopped.iptBuffer object := buffer
  have collected : [.releaseBufferThread object (memory object).toUInt32] <+:
      (collectTrace (exhausted io) tracingThreads 9 object stopped).2.ioctls :=
    collectTrace_exhausted held
  rw [reached, onThreadExiting, read_bind, created]
  exact collected.trans (growing.rel_after (fun _ => growing_of_moves (moves_onServer _)) stopped)

end IptServer

open IptServer

/-- Threads use nothing but their own buffers, whatever the device and the inferior do,
exactly when the memory of thread objects is negative where the buffer is. -/
theorem ownDescriptors_iff_memory (memory : Nat → Int32) :
    (∀ env device config core exceptions,
      (run (onException env device config) exceptions (new core memory)).2.OwnDescriptors) ↔
      ∀ object, memory object < 0 := by
  constructor
  · intro always object
    apply Int32.not_le.mp
    intro buffer
    have own := always Debugserver.obliging (exhausted sampleIo) tracingThreads
      (serverBefore object) [exiting]
    rw [run_singleton, OwnDescriptors, deeds] at own
    have first := own.shorter ((onException_exiting buffer).map Ioctl.deed)
    have allowed := first [] _ [] rfl
    cases allowed
  · intro none env device config core exceptions
    have kept : (run (onException env device config) exceptions (new core memory)).2.Kept :=
      run_invariant (kept_onException env device config) exceptions _ (kept_new none)
    exact kept.own

/-- There is one buffer. -/
def oneBuffer : Device :=
  { exhausted sampleIo with
    allocBuffer := fun _ out _ => if out = [] then some 0 else none
    fresh := by
      intro config out time descriptor answer
      split at answer
      · rename_i empty
        rw [empty]
        exact List.not_mem_nil
      · cases answer }

/-- Two threads start, of which the second gets no buffer, and both exit. -/
def twoThreads : List (ExceptionType × ExceptionContext) :=
  [(.threadStarting, ⟨9, 0, 0⟩), (.threadStarting, ⟨10, 0, 0⟩),
    (.threadExiting, ⟨10, 0, 0⟩), (.threadExiting, ⟨9, 0, 0⟩)]

/-- What the device is asked to do for the two threads. -/
theorem twoThreads_ioctls :
    (run (onException Debugserver.obliging oneBuffer tracingThreads) twoThreads
      (new (serverBefore 1) fun _ => 0)).2.ioctls =
        [.allocBuffer 1 0, .assignBufferThread 1 0, .releaseBufferThread 2 0, .dump 2 0,
          .freeBuffer 2 0, .releaseBufferThread 1 0, .dump 1 0, .freeBuffer 1 0] := by
  decide +kernel

/-- The second thread finds 0 in its memory, and the buffer of the first is used for it
and freed twice. -/
theorem twoThreads_not_own :
    ¬ (run (onException Debugserver.obliging oneBuffer tracingThreads) twoThreads
      (new (serverBefore 1) fun _ => 0)).2.OwnDescriptors := by
  intro own
  rw [OwnDescriptors, deeds, twoThreads_ioctls] at own
  have allowed := own [.acquire 0 1, .use 0 1] (.use 0 2) _ rfl
  revert allowed
  decide

end Gdbserver.Ipt
