import Gdbserver.Logic.Detour
import Gdbserver.Server.Answers
import Gdbserver.Server.InputActions
import Gdbserver.Server.ReadLoop
import Gdbserver.Server.ResponseFraming

/-!
# The message loops and the wire

The main loop and the write loop each take their tasks in the order of their
posts. Acknowledgments are posted to the write loop at once, payloads by way of
the main loop and the output buffer.
-/

set_option autoImplicit false

namespace Gdbserver

open Logic Prog Util RspIOLoop

inductive WriteTask where
  | write (bytes : Bytes)
  | quit

/-- A call of `write`, and how many of the bytes it took; an error takes none. -/
structure WriteCall where
  bytes : Bytes
  taken : Nat

structure Loops where
  server : RspServer
  outBuffer : Bytes
  reading : Bool
  mainQueue : List MainTask
  running : Bool
  writeQueue : List WriteTask
  writing : Bool
  writes : List WriteCall

namespace Loops

/-- A server whose loops have nothing to do yet. -/
def idle (server : RspServer) (outBuffer : Bytes) : Loops :=
  ⟨server, outBuffer, true, [], true, [], true, []⟩

/-- The bytes the client has been sent. -/
def wire (loops : Loops) : Bytes := loops.writes.flatMap fun call => call.bytes.take call.taken

def postTask (task : MainTask) : Prog Loops Unit :=
  modify fun loops => { loops with mainQueue := loops.mainQueue ++ [task] }

/-- `IOLoop::PostWriteTask`, which copies the bytes. -/
def postWriteTask (bytes : Bytes) : Prog Loops Unit :=
  modify fun loops => { loops with writeQueue := loops.writeQueue ++ [.write bytes] }

/-- `QuitNow`, after which `RspServer::Run` quits the I/O loop. -/
def quitNow : Prog Loops Unit :=
  modify fun loops => { loops with running := false, writeQueue := loops.writeQueue ++ [.quit] }

end Loops

/-- What `RspServer::SendAck` posts to the write loop. -/
def Post.direct? : Post → Option WriteTask
  | .ack verified => some (.write [if verified then chr '+' else chr '-'])
  | .write _ _ | .quit => none

/-- What `RspServer::PostWriteTask` and `PostQuitMessageLoop` post to the main loop. -/
def Post.task? : Post → Option MainTask
  | .ack _ => none
  | .write notify data => some (.write notify data)
  | .quit => some .quit

namespace Loops

/-- The posts of a task go to their queues. -/
def forward (posts : List Post) : Prog Loops Unit :=
  modify fun loops =>
    { loops with
      mainQueue := loops.mainQueue ++ posts.filterMap Post.task?
      writeQueue := loops.writeQueue ++ posts.filterMap Post.direct? }

/-- A handler that ends the process leaves what was posted to the write loop. -/
def handleInput (env : Env) (input : Input) : Prog Loops Unit := do
  let server ← read Loops.server
  let result := RspServer.handle env input server
  modify fun loops => { loops with server := result.2 }
  forward (postsBetween server.core result.2.core)
  if result.1.isNone then modify fun loops => { loops with running := false }
  else pure ()

/-- The closure of `RspServer::PostWriteTask`. -/
def writeFrame (notify : Bool) (data : Bytes) : Prog Loops Unit := do
  let filled ← read fun loops => RspServer.fillOutBuffer loops.outBuffer notify data
  modify fun loops => { loops with outBuffer := filled.1 }
  postWriteTask (filled.1.take filled.2)

def runTask (env : Env) : MainTask → Prog Loops Unit
  | .onBytesRead bytes => handleInput env (.bytesRead bytes)
  | .onDisconnected | .onIOError | .quit => quitNow
  | .onException key type context => handleInput env (.exception key type context)
  | .write notify data => writeFrame notify data

def runMain (env : Env) : Prog Loops Unit := do
  match ← read Loops.mainQueue with
  | [] => pure ()
  | task :: rest => do
      modify fun loops => { loops with mainQueue := rest }
      runTask env task

/-- The closure of `IOLoop::PostWriteTask`; `taken` is up to the kernel. -/
def runWrite (taken : Nat) : Prog Loops Unit := do
  match ← read Loops.writeQueue with
  | [] => pure ()
  | .quit :: rest => modify fun loops => { loops with writeQueue := rest, writing := false }
  | .write bytes :: rest => do
      modify fun loops =>
        { loops with
          writeQueue := rest
          writes := loops.writes ++ [⟨bytes, min taken bytes.length⟩] }
      if taken < bytes.length then postTask .onIOError else pure ()

def runRead (result : ReadResult) : Prog Loops Unit := do
  postTask (onReadTask result)
  modify fun loops => { loops with reading := result matches .bytes _ }

/-- Who gets to run next. -/
inductive Turn where
  | read (result : ReadResult)
  | exception (key : UInt64) (type : ExceptionType) (context : ExceptionContext)
  | main
  | timeout (index : Nat)
  | write (taken : Nat)
  | inferior (kernel : Kernel)

/-- A delayed task is not queued behind the others. -/
def turn (env : Env) : Turn → Prog Loops Unit
  | .read result => do if ← Prog.read Loops.reading then runRead result else pure ()
  | .exception key type context => postTask (.onException key type context)
  | .main => do if ← Prog.read Loops.running then runMain env else pure ()
  | .timeout index => do
      if ← Prog.read Loops.running then handleInput env (.timeout index) else pure ()
  | .write taken => do if ← Prog.read Loops.writing then runWrite taken else pure ()
  | .inferior kernel => handleInput env (.inferior kernel)

end Loops

/-! ## What reaches the wire -/

/-- Quitting puts nothing on the wire. -/
def Post.onWire : Post → Bool
  | .ack _ | .write _ _ => true
  | .quit => false

/-- A whole acknowledgment or a whole frame. -/
def Post.bytes : Post → Bytes
  | .ack verified => [if verified then chr '+' else chr '-']
  | .write notify data => frame notify data
  | .quit => []

def MainTask.post? : MainTask → Option Post
  | .write notify data => some (.write notify data)
  | .onBytesRead _ | .onDisconnected | .onIOError | .onException _ _ _ | .quit => none

def WriteTask.bytes? : WriteTask → Option Bytes
  | .write bytes => some bytes
  | .quit => none

theorem Post.waiting_eq (posts : List Post) :
    (posts.filterMap task?).filterMap MainTask.post? =
      (posts.filter onWire).filter fun post => !post.isAck := by
  induction posts with
  | nil => rfl
  | cons post rest ih =>
      cases post with
      | ack verified => exact ih
      | write notify data => exact congrArg (List.cons _) ih
      | quit => exact ih

theorem Post.direct_eq (posts : List Post) :
    (posts.filterMap direct?).filterMap WriteTask.bytes? =
      ((posts.filter onWire).filter isAck).map bytes := by
  induction posts with
  | nil => rfl
  | cons post rest ih =>
      cases post with
      | ack verified => exact congrArg (List.cons _) ih
      | write notify data => exact ih
      | quit => exact ih

namespace RspServer

theorem posts_of_acts {env : Env} {allowed : Permits} {before after : RspServer}
    (acted : (acts env allowed).rel before after) :
    ∃ posts, after.core.posted = before.core.posted ++ posts := by
  obtain ⟨posts, posted, -⟩ := CommandHandler.acting_posting acted
  exact ⟨posts, posted⟩

/-- Handlers only ever post more. -/
theorem handle_posts (env : Env) (input : Input) (server : RspServer) :
    ∃ posts, (handle env input server).2.core.posted = server.core.posted ++ posts := by
  by_cases foreign : ∀ kernel, input ≠ .inferior kernel
  · exact posts_of_acts (handle_acts env input foreign server)
  · obtain ⟨kernel, rfl⟩ := not_forall_not.mp foreign
    exact ⟨[], (List.append_nil _).symm⟩

/-- The acknowledgment is the first thing posted for what was read. -/
theorem onBytesRead_posts (env : Env) {bytes : Bytes} (other : bytes ≠ ascii "+")
    (server : RspServer) :
    ∃ responses, (onBytesRead env bytes server).2.core.posted =
      server.core.posted ++ .ack (verifyPacket bytes).isSome :: responses := by
  rw [onBytesRead, if_neg other]
  cases verifyPacket bytes with
  | none => exact ⟨[], rfl⟩
  | some packetData =>
      let acked : RspServer := { server with core := server.core.post [.ack true] }
      have first : onServer (sendAck true) server = (some (), acked) := rfl
      have later : (acts env (.command fun _ => True)).rel acked _ :=
        packetData_acts (fun _ => trivial) (fun _ => trivial) packetData acked
      obtain ⟨responses, posted⟩ := posts_of_acts later
      dsimp only
      rw [bind_of_some first, posted]
      exact ⟨responses, List.append_assoc ..⟩

end RspServer

namespace Loops

/-- The posts since the start, in the order in which they were put into the
write loop's queue; the payloads that are missing there wait in the main loop. -/
structure Sound (start : RspServer) (posts order : List Post) (loops : Loops) : Prop where
  posted : loops.server.core.posted = start.core.posted ++ posts
  detour : Detour Post.isAck (posts.filter Post.onWire) order
    (loops.mainQueue.filterMap MainTask.post?)
  queued : order.map Post.bytes =
    loops.writes.map WriteCall.bytes ++ loops.writeQueue.filterMap WriteTask.bytes?
  taken : ∀ call ∈ loops.writes, call.taken ≤ call.bytes.length

def InOrder (start : RspServer) (loops : Loops) : Prop := ∃ posts order, Sound start posts order loops

def orderly (start : RspServer) : Frame Loops where
  rel before after := InOrder start before → InOrder start after
  refl _ := id
  trans first second := second ∘ first

open Frame

variable {start : RspServer}

theorem idle_inOrder (server : RspServer) (outBuffer : Bytes) :
    InOrder server (idle server outBuffer) :=
  ⟨[], [], (List.append_nil _).symm, .start, rfl, List.forall_mem_nil _⟩

/-- Neither the server nor what is on its way changes. -/
theorem InOrder.congr {before after : Loops} (sound : InOrder start before)
    (server : after.server = before.server)
    (waiting : after.mainQueue.filterMap MainTask.post? =
      before.mainQueue.filterMap MainTask.post?)
    (queued : after.writeQueue.filterMap WriteTask.bytes? =
      before.writeQueue.filterMap WriteTask.bytes?)
    (writes : after.writes = before.writes) : InOrder start after := by
  obtain ⟨posts, order, sound⟩ := sound
  exact ⟨posts, order, by rw [server, sound.posted], by rw [waiting]; exact sound.detour,
    by rw [writes, queued]; exact sound.queued, by rw [writes]; exact sound.taken⟩

theorem postTask_orderly {task : MainTask} (other : task.post? = none) :
    (orderly start).Keeps (postTask task) :=
  Keeps.modify fun _ sound => sound.congr rfl (by simp [other]) rfl rfl

theorem quitNow_orderly : (orderly start).Keeps quitNow :=
  Keeps.modify fun _ sound => sound.congr rfl rfl (by simp [WriteTask.bytes?]) rfl

theorem handleInput_orderly (env : Env) (input : Input) :
    (orderly start).Keeps (handleInput env input) := by
  intro loops
  rintro ⟨posts, order, sound⟩
  obtain ⟨more, posted⟩ := RspServer.handle_posts env input loops.server
  have between := postsBetween_eq posted
  have forwarded : InOrder start { loops with
      server := (RspServer.handle env input loops.server).2
      mainQueue := loops.mainQueue ++ more.filterMap Post.task?
      writeQueue := loops.writeQueue ++ more.filterMap Post.direct? } := by
    refine ⟨posts ++ more, order ++ (more.filter Post.onWire).filter Post.isAck, ?_, ?_, ?_,
      sound.taken⟩
    · rw [posted, sound.posted, List.append_assoc]
    · rw [List.filterMap_append, Post.waiting_eq, List.filter_append]
      exact sound.detour.append _
    · rw [List.map_append, sound.queued, List.filterMap_append, Post.direct_eq, List.append_assoc]
  rw [handleInput, read_bind, modify_bind, forward, modify_bind, between]
  split
  · exact forwarded.congr rfl rfl rfl rfl
  · exact forwarded

/-- The payload is framed as it was posted, whatever the buffer held before. -/
theorem writeFrame_orderly (notify : Bool) (data : Bytes) {loops : Loops} {rest : List MainTask}
    (next : loops.mainQueue = .write notify data :: rest) (sound : InOrder start loops) :
    InOrder start (writeFrame notify data { loops with mainQueue := rest }).2 := by
  obtain ⟨posts, order, sound⟩ := sound
  have framed := RspServer.builtFrame_eq loops.outBuffer notify data
  rw [RspServer.builtFrame] at framed
  have detour := sound.detour
  rw [next] at detour
  refine ⟨posts, order ++ [.write notify data], sound.posted, detour.released, ?_, sound.taken⟩
  change _ = _ ++ List.filterMap _ (loops.writeQueue ++ [.write (List.take _ _)])
  rw [framed, List.map_append, sound.queued, List.filterMap_append, List.append_assoc]
  rfl

theorem runTask_orderly (env : Env) {task : MainTask} (other : task.post? = none) :
    (orderly start).Keeps (runTask env task) := by
  cases task with
  | onBytesRead bytes => exact handleInput_orderly env _
  | onException key type context => exact handleInput_orderly env _
  | onDisconnected | onIOError | quit => exact quitNow_orderly
  | write notify data => cases other

theorem runMain_orderly (env : Env) : (orderly start).Keeps (runMain env) := by
  intro loops sound
  rw [runMain, read_bind]
  cases next : loops.mainQueue with
  | nil => exact sound
  | cons task rest =>
      dsimp only
      rw [modify_bind]
      cases kind : task.post? with
      | some post =>
          cases task with
          | write notify data => exact writeFrame_orderly notify data next sound
          | _ => cases kind
      | none =>
          refine runTask_orderly env kind _ (sound.congr rfl ?_ rfl rfl)
          rw [next, List.filterMap_cons_none kind]

theorem runWrite_orderly (taken : Nat) : (orderly start).Keeps (runWrite taken) := by
  intro loops sound
  rw [runWrite, read_bind]
  cases next : loops.writeQueue with
  | nil => exact sound
  | cons task rest =>
      cases task with
      | quit => exact sound.congr rfl rfl (by rw [next]; rfl) rfl
      | write bytes =>
          have written : InOrder start { loops with
              writeQueue := rest
              writes := loops.writes ++ [⟨bytes, min taken bytes.length⟩] } := by
            obtain ⟨posts, order, sound⟩ := sound
            refine ⟨posts, order, sound.posted, sound.detour, ?_, ?_⟩
            · rw [sound.queued, next, List.map_append, List.append_assoc]
              rfl
            · exact List.forall_mem_append.mpr ⟨sound.taken,
                List.forall_mem_singleton.mpr (Nat.min_le_right _ _)⟩
          dsimp only
          rw [modify_bind]
          split
          · exact postTask_orderly rfl _ written
          · exact written

theorem turn_orderly (env : Env) (next : Turn) : (orderly start).Keeps (turn env next) := by
  cases next with
  | read result =>
      refine Keeps.bind Keeps.read fun _ => Keeps.ite (fun _ => ?_) fun _ => Keeps.pure
      have other : (onReadTask result).post? = none := by cases result <;> rfl
      exact Keeps.bind (postTask_orderly other) fun _ =>
        Keeps.modify fun _ sound => sound.congr rfl rfl rfl rfl
  | exception key type context => exact postTask_orderly rfl
  | main =>
      exact Keeps.bind Keeps.read fun _ => Keeps.ite (fun _ => runMain_orderly env) fun _ => Keeps.pure
  | timeout index =>
      exact Keeps.bind Keeps.read fun _ =>
        Keeps.ite (fun _ => handleInput_orderly env _) fun _ => Keeps.pure
  | write taken =>
      exact Keeps.bind Keeps.read fun _ =>
        Keeps.ite (fun _ => runWrite_orderly taken) fun _ => Keeps.pure
  | inferior kernel => exact handleInput_orderly env _

/-- Bytes that were not taken are missing in the end. -/
theorem wire_eq_iff {writes : List WriteCall} (taken : ∀ call ∈ writes, call.taken ≤ call.bytes.length) :
    (writes.flatMap fun call => call.bytes.take call.taken) = writes.flatMap WriteCall.bytes ↔
      ∀ call ∈ writes, call.taken = call.bytes.length := by
  have shorter (calls : List WriteCall) :
      (calls.flatMap fun call => call.bytes.take call.taken).length ≤
        (calls.flatMap WriteCall.bytes).length := by
    induction calls with
    | nil => exact Nat.le_refl 0
    | cons call rest ih =>
        rw [List.flatMap_cons, List.flatMap_cons, List.length_append, List.length_append]
        exact Nat.add_le_add (List.length_take_le' _ _) ih
  induction writes with
  | nil => exact iff_of_true rfl (List.forall_mem_nil _)
  | cons call rest ih =>
      obtain ⟨here, later⟩ := List.forall_mem_cons.mp taken
      rw [List.flatMap_cons, List.flatMap_cons, List.forall_mem_cons]
      constructor
      · intro same
        have lengths := congrArg List.length same
        have bound := shorter rest
        rw [List.length_append, List.length_append, List.length_take, Nat.min_eq_left here] at lengths
        have all : call.taken = call.bytes.length := by omega
        rw [all, List.take_length] at same
        exact ⟨all, (ih later).mp (List.append_cancel_left same)⟩
      · rintro ⟨all, others⟩
        rw [all, List.take_length, (ih later).mpr others]

/-- What has been posted to the client since the start. -/
def outgoing (start : RspServer) (loops : Loops) : List Post :=
  (postsBetween start.core loops.server.core).filter Post.onWire

/-- The calls of `write` are handed whole acknowledgments and whole frames, in an
order in which no frame overtakes what was posted before it. -/
structure Delivers (start : RspServer) (loops : Loops) (order : List Post) : Prop where
  ordered : KeepsOrder Post.isAck (outgoing start loops) order
  handed : loops.writes.map WriteCall.bytes = (order.take loops.writes.length).map Post.bytes
  whole : loops.wire = (order.take loops.writes.length).flatMap Post.bytes ↔
    ∀ call ∈ loops.writes, call.taken = call.bytes.length

theorem InOrder.delivers {loops : Loops} (sound : InOrder start loops) :
    ∃ order, Delivers start loops order := by
  obtain ⟨posts, order, sound⟩ := sound
  have handed : loops.writes.map WriteCall.bytes =
      (order.take loops.writes.length).map Post.bytes := by
    rw [List.map_take, sound.queued, List.take_left' (List.length_map _)]
  refine ⟨order, ?_, handed, ?_⟩
  · rw [outgoing, postsBetween_eq sound.posted]
    exact sound.detour.keepsOrder
  · have frames : (order.take loops.writes.length).flatMap Post.bytes =
        loops.writes.flatMap WriteCall.bytes := by
      rw [List.flatMap_def, ← handed, ← List.flatMap_def]
    rw [frames]
    exact wire_eq_iff sound.taken

/-- For every interleaving of the loops. The wire holds nothing but whole
acknowledgments and frames exactly as long as each `write` takes all it is
handed; and the acknowledgment of a read is posted before anything else for it,
so that it is on the wire before the response. -/
theorem run_delivers_inOrder (env : Env) (start : RspServer) (outBuffer : Bytes)
    (turns : List Turn) :
    (∃ order, Delivers start (run (turn env) turns (idle start outBuffer)).2 order) ∧
      ∀ bytes server, bytes ≠ ascii "+" →
        ∃ responses, (RspServer.handle env (.bytesRead bytes) server).2.core.posted =
          server.core.posted ++ .ack (verifyPacket bytes).isSome :: responses := by
  refine ⟨InOrder.delivers ?_, fun bytes server other => ?_⟩
  · exact run_invariant (fun loops next => turn_orderly env next loops) turns _
      (idle_inOrder start outBuffer)
  · exact RspServer.onBytesRead_posts env other server

end Loops

/-- Too short for an acknowledgment and a frame. -/
theorem Post.flatMap_bytes_ne (posts : List Post) :
    posts.flatMap bytes ≠ ascii "+$" ∧ posts.flatMap bytes ≠ ascii "$" := by
  induction posts with
  | nil => exact ⟨by decide, by decide⟩
  | cons post rest ih =>
      rw [List.flatMap_cons]
      cases post with
      | quit => exact ih
      | ack verified =>
          refine ⟨fun same => ih.2 (List.cons.inj same).2, fun same => ?_⟩
          have start := (List.cons.inj same).1
          cases verified <;> exact absurd start (by decide)
      | write notify data =>
          have long : 4 ≤ (frame notify data ++ rest.flatMap bytes).length := by
            simp only [frame, List.length_append, List.length_cons, encodeByteString_length]
            omega
          exact ⟨fun same => absurd (same ▸ long) (by decide), fun same => absurd (same ▸ long) (by decide)⟩

namespace Debugserver

open Loops

def shortWrite : List Turn :=
  [.read (.bytes (ascii "$g#67")), .main, .main, .write 1, .write 1]

/-- The kernel takes one byte of the response. -/
theorem shortWrite_incomplete :
    ¬ ∃ posts : List Post,
      (run (turn obliging) shortWrite (idle (started obliging program) [])).2.wire =
        posts.flatMap Post.bytes := by
  rintro ⟨posts, same⟩
  have wire : (run (turn obliging) shortWrite (idle (started obliging program) [])).2.wire =
      ascii "+$" := by decide +kernel
  exact (Post.flatMap_bytes_ne posts).1 (same.symm.trans wire)

end Debugserver

end Gdbserver
