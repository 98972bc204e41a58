import Gdbserver.Logic.Runs
import Gdbserver.Rsp.Framing
import Gdbserver.Server.Debugserver

/-!
# Reads from the client

`RspIOLoop::OnReadTask` passes on what one `read` returned, and `OnBytesRead`
takes that for one acknowledgment or one packet. The client sends a stream, so
it matters where the reads cut it.
-/

set_option autoImplicit false

namespace Gdbserver

open Logic Prog Util

/-- The tasks that other threads and the server itself post to the main loop. -/
inductive MainTask where
  | onBytesRead (bytes : Bytes)
  | onDisconnected
  | onIOError
  | onException (key : UInt64) (type : ExceptionType) (context : ExceptionContext)
  | write (notify : Bool) (data : Bytes)
  | quit

namespace RspIOLoop

/-- What `read` returned: 0, an error, or some bytes. -/
inductive ReadResult where
  | closed
  | failed
  | bytes (bytesRead : Bytes)

def onReadTask : ReadResult → MainTask
  | .closed => .onDisconnected
  | .failed => .onIOError
  | .bytes bytesRead => .onBytesRead bytesRead

/-- The tasks the read loop posts: it reads again only after it got some bytes. -/
def readLoop : List ReadResult → List MainTask
  | [] => []
  | .bytes bytesRead :: later => onReadTask (.bytes bytesRead) :: readLoop later
  | .closed :: _ => [onReadTask .closed]
  | .failed :: _ => [onReadTask .failed]

theorem readLoop_bytes (chunks : List Bytes) :
    readLoop (chunks.map .bytes) = chunks.map .onBytesRead := by
  induction chunks with
  | nil => rfl
  | cons chunk rest ih => rw [List.map_cons, readLoop, ih]; rfl

end RspIOLoop

namespace RspServer

/-- What the server does about some bytes it is handed. -/
inductive Reaction where
  | acknowledge (verified : Bool)
  | handlePacket (packetData : Bytes)
  deriving DecidableEq

def reactions (bytesRead : Bytes) : List Reaction :=
  if bytesRead = ascii "+" then []
  else
    match verifyPacket bytesRead with
    | none => [.acknowledge false]
    | some packetData => [.acknowledge true, .handlePacket packetData]

def react (env : Env) : Reaction → Prog RspServer Unit
  | .acknowledge verified => onServer (sendAck verified)
  | .handlePacket packetData =>
      if packetData = kStopAck then onStopAck else onServer (routeCommand env packetData)

theorem onBytesRead_eq_run (env : Env) (bytesRead : Bytes) :
    onBytesRead env bytesRead = run (react env) (reactions bytesRead) := by
  rw [onBytesRead, reactions]
  split
  · rfl
  · cases verifyPacket bytesRead with
    | none =>
        dsimp only
        rw [run_singleton]
        rfl
    | some packetData =>
        rw [run_cons, run_singleton]
        rfl

/-- The server sees nothing of the reads but the reactions to them. -/
theorem run_onBytesRead_eq_run (env : Env) (chunks : List Bytes) :
    run (onBytesRead env) chunks = run (react env) (chunks.flatMap reactions) :=
  run_flatMap (onBytesRead_eq_run env) chunks

end RspServer

/-- What the posted tasks make the server do. -/
def MainTask.reactions : MainTask → List RspServer.Reaction
  | .onBytesRead bytes => RspServer.reactions bytes
  | .onDisconnected | .onIOError | .onException _ _ _ | .write _ _ | .quit => []

/-- The acknowledgments sent and the packets handled for successive reads. -/
def RspIOLoop.reactionsTo (results : List ReadResult) : List RspServer.Reaction :=
  (readLoop results).flatMap MainTask.reactions

theorem RspIOLoop.reactionsTo_bytes (chunks : List Bytes) :
    reactionsTo (chunks.map .bytes) = chunks.flatMap RspServer.reactions := by
  rw [reactionsTo, readLoop_bytes, List.flatMap_map]
  rfl

/-! ## The stream -/

open RspServer (Reaction reactions kMaxBufferSize)

/-- What the client sends: acknowledgments and packets. -/
inductive Item where
  | ack
  | packet (data bytes : Bytes) (wellFormed : IsPacket data bytes)
      (fits : bytes.length ≤ kMaxBufferSize)

def Item.bytes : Item → Bytes
  | .ack => ascii "+"
  | .packet _ bytes _ _ => bytes

def Item.reactions : Item → List Reaction
  | .ack => []
  | .packet data _ _ _ => [.acknowledge true, .handlePacket data]

def stream (items : List Item) : Bytes := items.flatMap Item.bytes

/-- What the client means the server to do. -/
def meant (items : List Item) : List Reaction := items.flatMap Item.reactions

/-- The reads that return a stream. -/
structure Segments (items : List Item) (chunks : List Bytes) : Prop where
  nonempty : ∀ chunk ∈ chunks, chunk ≠ []
  small : ∀ chunk ∈ chunks, chunk.length ≤ kMaxBufferSize
  whole : chunks.flatten = stream items

/-- One acknowledgment, or one packet behind any number of them. -/
def WholeItems (chunk : Bytes) : Prop :=
  chunk = ascii "+" ∨ ∃ acks data packet, IsPacket data packet ∧
    chunk = List.replicate acks (chr '+') ++ packet

theorem replicate_clear (acks : Nat) : Clear (chr '$') (List.replicate acks (chr '+')) :=
  clear_of_forall fun byte member => by
    rw [List.eq_of_mem_replicate member]
    decide

theorem WholeItems.accepted {chunk : Bytes} (whole : WholeItems chunk) :
    Reaction.acknowledge false ∉ reactions chunk := by
  rw [reactions]
  split
  · exact List.not_mem_nil
  · rename_i other
    rcases whole with ack | ⟨acks, data, packet, wellFormed, rfl⟩
    · exact absurd ack other
    · obtain ⟨tail, rfl⟩ := wellFormed.start
      rw [verifyPacket_skip (replicate_clear acks), verifyPacket_isPacket wellFormed]
      simp

/-! Every lemma below is about a read that starts where an item starts. -/

theorem stream_cons (item : Item) (items : List Item) :
    stream (item :: items) = item.bytes ++ stream items := List.flatMap_cons

/-- An item starts with `$` or is a `+`. -/
theorem front_cases {items : List Item} {byte : UInt8} {rest : Bytes}
    (front : byte :: rest = stream items) :
    byte = chr '$' ∨
      byte = chr '+' ∧ ∃ later, rest = stream later ∧ meant items = meant later := by
  cases items with
  | nil => exact absurd front (List.cons_ne_nil _ _)
  | cons item items =>
      rw [stream_cons] at front
      cases item with
      | ack => exact Or.inr ⟨(List.cons.inj front).1, items, (List.cons.inj front).2, rfl⟩
      | packet data bytes wellFormed fits =>
          obtain ⟨tail, rfl⟩ := wellFormed.start
          exact Or.inl (List.cons.inj front).1

theorem ack_front {items : List Item} {rest : Bytes} (front : chr '+' :: rest = stream items) :
    ∃ later, rest = stream later ∧ meant items = meant later := by
  cases front_cases front with
  | inl dollar => exact absurd dollar (by decide)
  | inr plus => exact plus.2

theorem packet_front {items : List Item} {data packet rest : Bytes} (wellFormed : IsPacket data packet)
    (front : packet ++ rest = stream items) :
    ∃ later, rest = stream later ∧
      meant items = [.acknowledge true, .handlePacket data] ++ meant later := by
  obtain ⟨tail, start⟩ := wellFormed.start
  cases items with
  | nil =>
      rw [start] at front
      exact absurd front (List.cons_ne_nil _ _)
  | cons item items =>
      rw [stream_cons] at front
      cases item with
      | ack =>
          rw [start] at front
          exact absurd (List.cons.inj front).1 (by decide)
      | packet other bytes shape fits =>
          obtain ⟨rfl, same⟩ := wellFormed.unique shape front
          exact ⟨items, same, rfl⟩

/-- What `VerifyPacket` skips are acknowledgments. -/
theorem skipped_front {skipped tail : Bytes} (clear : Clear (chr '$') skipped) :
    ∀ {items : List Item}, skipped ++ chr '$' :: tail = stream items →
      ∃ acks later, skipped = List.replicate acks (chr '+') ∧
        chr '$' :: tail = stream later ∧ meant items = meant later := by
  induction skipped with
  | nil => exact fun {items} front => ⟨0, items, rfl, front, rfl⟩
  | cons byte rest ih =>
      intro items front
      cases front_cases front with
      | inl dollar =>
          -- a `$` is not skipped
          rw [dollar] at clear
          exact absurd clear (not_clear_self (chr '$') rest (by decide))
      | inr ack =>
          obtain ⟨rfl, next, front, same⟩ := ack
          have clearRest := ((clear_plain_iff (by decide) rest).mp clear).2
          obtain ⟨acks, later, rfl, start, sameLater⟩ := ih clearRest front
          exact ⟨acks + 1, later, rfl, start, same.trans sameLater⟩

/-- A read that is not refused holds whole items, and the next one starts where
an item starts again. -/
theorem accepted_front {items : List Item} {chunk rest : Bytes}
    (accepted : Reaction.acknowledge false ∉ reactions chunk)
    (front : chunk ++ rest = stream items) :
    WholeItems chunk ∧ ∃ later, rest = stream later ∧ meant items = reactions chunk ++ meant later := by
  rw [reactions] at accepted ⊢
  by_cases ack : chunk = ascii "+"
  · subst ack
    obtain ⟨later, start, same⟩ := ack_front front
    exact ⟨Or.inl rfl, later, start, same⟩
  · rw [if_neg ack] at accepted ⊢
    cases verified : verifyPacket chunk with
    | none =>
        rw [verified] at accepted
        exact absurd List.mem_cons_self accepted
    | some data =>
        obtain ⟨skipped, packet, rfl, clear, wellFormed⟩ := verifyPacket_split verified
        obtain ⟨tail, start⟩ := wellFormed.start
        rw [List.append_assoc, start, List.cons_append] at front
        obtain ⟨acks, next, rfl, front, same⟩ := skipped_front clear front
        rw [← List.cons_append, ← start] at front
        obtain ⟨later, startLater, sameLater⟩ := packet_front wellFormed front
        exact ⟨Or.inr ⟨acks, data, packet, wellFormed, rfl⟩, later, startLater,
          same.trans sameLater⟩

theorem accepted_reads {chunks : List Bytes} :
    ∀ {items : List Item}, (∀ chunk ∈ chunks, Reaction.acknowledge false ∉ reactions chunk) →
      chunks.flatten = stream items →
      (∀ chunk ∈ chunks, WholeItems chunk) ∧ chunks.flatMap reactions = meant items := by
  induction chunks with
  | nil =>
      intro items _ front
      cases items with
      | nil => exact ⟨List.forall_mem_nil _, rfl⟩
      | cons item items =>
          obtain ⟨byte, bytes, same⟩ : ∃ byte bytes, item.bytes = byte :: bytes := by
            cases item with
            | ack => exact ⟨_, _, rfl⟩
            | packet data packet wellFormed fits => exact ⟨_, wellFormed.start⟩
          rw [stream_cons, same] at front
          exact absurd front.symm (List.cons_ne_nil _ _)
  | cons chunk rest ih =>
      intro items accepted front
      obtain ⟨here, later⟩ := List.forall_mem_cons.mp accepted
      obtain ⟨whole, next, start, same⟩ := accepted_front here front
      obtain ⟨wholeRest, sameRest⟩ := ih later start
      exact ⟨List.forall_mem_cons.mpr ⟨whole, wholeRest⟩,
        by rw [List.flatMap_cons, sameRest, same]⟩

theorem meant_accepted (items : List Item) : Reaction.acknowledge false ∉ meant items := by
  intro refused
  obtain ⟨item, -, inside⟩ := List.mem_flatMap.mp refused
  cases item with
  | ack => exact absurd inside List.not_mem_nil
  | packet data bytes wellFormed fits => simp [Item.reactions] at inside

/-- The server does what the client means exactly if every read holds whole items. -/
theorem Segments.meant_iff {items : List Item} {chunks : List Bytes} (cut : Segments items chunks) :
    chunks.flatMap reactions = meant items ↔ ∀ chunk ∈ chunks, WholeItems chunk := by
  constructor
  · intro same
    refine (accepted_reads (fun chunk member refused => ?_) cut.whole).1
    exact meant_accepted items (same ▸ List.mem_flatMap.mpr ⟨chunk, member, refused⟩)
  · intro whole
    exact (accepted_reads (fun chunk member => (whole chunk member).accepted) cut.whole).2

/-- Two ways of cutting one stream, of which the first holds whole items: the
server does the same exactly if the second does too, and then it ends in the
same state. -/
theorem RspIOLoop.reactionsTo_eq_iff (items : List Item) (first second : List Bytes)
    (cut : Segments items first) (cutOther : Segments items second)
    (whole : ∀ chunk ∈ first, WholeItems chunk) :
    (reactionsTo (first.map .bytes) = reactionsTo (second.map .bytes) ↔
      ∀ chunk ∈ second, WholeItems chunk) ∧
    ((∀ chunk ∈ second, WholeItems chunk) → ∀ env,
      run (RspServer.onBytesRead env) first = run (RspServer.onBytesRead env) second) := by
  have same := cut.meant_iff.mpr whole
  rw [reactionsTo_bytes, reactionsTo_bytes, same, eq_comm, cutOther.meant_iff]
  refine ⟨Iff.rfl, fun wholeOther env => ?_⟩
  rw [RspServer.run_onBytesRead_eq_run, RspServer.run_onBytesRead_eq_run, same,
    cutOther.meant_iff.mpr wholeOther]

namespace Debugserver

open RspIOLoop

theorem getRegisters_isPacket : IsPacket (ascii "g") (ascii "$g#67") :=
  ⟨by decide, chr '6', chr '7', rfl, by decide⟩

def getRegisters : Item :=
  .packet (ascii "g") (ascii "$g#67") getRegisters_isPacket (by decide)

/-- An acknowledgment may come along with the packet behind it. -/
theorem joinedAck_agrees :
    Segments [.ack, getRegisters] [ascii "+", ascii "$g#67"] ∧
      Segments [.ack, getRegisters] [ascii "+$g#67"] ∧
      reactionsTo ([ascii "+", ascii "$g#67"].map .bytes) =
        reactionsTo ([ascii "+$g#67"].map .bytes) := by
  have apart : Segments [.ack, getRegisters] [ascii "+", ascii "$g#67"] :=
    ⟨by decide, by decide, rfl⟩
  have joined : Segments [.ack, getRegisters] [ascii "+$g#67"] := ⟨by decide, by decide, rfl⟩
  have packet : WholeItems (ascii "$g#67") :=
    Or.inr ⟨0, ascii "g", ascii "$g#67", getRegisters_isPacket, rfl⟩
  have wholeApart : ∀ chunk ∈ [ascii "+", ascii "$g#67"], WholeItems chunk :=
    List.forall_mem_cons.mpr ⟨Or.inl rfl, List.forall_mem_singleton.mpr packet⟩
  have wholeJoined : ∀ chunk ∈ [ascii "+$g#67"], WholeItems chunk :=
    List.forall_mem_singleton.mpr
      (Or.inr ⟨1, ascii "g", ascii "$g#67", getRegisters_isPacket, rfl⟩)
  exact ⟨apart, joined,
    (RspIOLoop.reactionsTo_eq_iff _ _ _ apart joined wholeApart).1.mpr wholeJoined⟩

/-- A packet that arrives in two reads is refused twice. -/
theorem splitPacket_refused :
    Segments [getRegisters] [ascii "$g#67"] ∧ Segments [getRegisters] [ascii "$g#", ascii "67"] ∧
      reactionsTo ([ascii "$g#67"].map .bytes) =
        [.acknowledge true, .handlePacket (ascii "g")] ∧
      reactionsTo ([ascii "$g#", ascii "67"].map .bytes) =
        [.acknowledge false, .acknowledge false] := by
  refine ⟨⟨?_, ?_, rfl⟩, ⟨?_, ?_, rfl⟩, ?_, ?_⟩ <;> decide

end Debugserver

end Gdbserver
