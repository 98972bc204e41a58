import Gdbserver.Rsp.Packet

/-!
# Stop replies

`StopReplyPacket` builds the payload reported when a thread or the process stops.
-/

set_option autoImplicit false

namespace Gdbserver

inductive StopReplyType where
  | receivedSignal
  | processExited
  | processTerminatedWithSignal
  | threadExited
  deriving DecidableEq

/-- The members of `StopReplyPacket`. A register value is stored as it appears
in the packet, a stop reason with its colon. -/
structure StopReplyPacket where
  type : StopReplyType
  signo : UInt8
  tidString : Bytes
  registerValues : List Bytes
  stopReason : Bytes

namespace StopReplyPacket

def ofType (type : StopReplyType) : StopReplyPacket := ⟨type, 0, [], [], []⟩

def setSignalNumber (signalNumber : UInt8) (packet : StopReplyPacket) : StopReplyPacket :=
  { packet with signo := signalNumber }

def setThreadId (ftl : Ftl) (processId threadId : UInt64) (packet : StopReplyPacket) :
    StopReplyPacket :=
  { packet with tidString := Util.encodeThreadId ftl processId threadId }

def addRegisterValue (registerNumber : UInt8) (value : Bytes) (packet : StopReplyPacket) :
    StopReplyPacket :=
  { packet with
    registerValues := packet.registerValues ++
      [Util.encodeByteString registerNumber ++ chr ':' :: value] }

def setStopReason (reason : Bytes) (packet : StopReplyPacket) : StopReplyPacket :=
  { packet with stopReason := reason ++ [chr ':'] }

def hasParameters (packet : StopReplyPacket) : Bool :=
  !packet.tidString.isEmpty || !packet.registerValues.isEmpty || !packet.stopReason.isEmpty

def typeChar (packet : StopReplyPacket) : UInt8 :=
  match packet.type with
  | .receivedSignal => if packet.hasParameters then chr 'T' else chr 'S'
  | .processTerminatedWithSignal => chr 'X'
  | .processExited => chr 'W'
  | .threadExited => chr 'w'

def threadPart (packet : StopReplyPacket) : Bytes :=
  if packet.tidString.isEmpty then []
  else match packet.type with
    | .threadExited => chr ';' :: packet.tidString
    | .receivedSignal => ascii "thread:" ++ packet.tidString ++ [chr ';']
    | _ => []

def build (packet : StopReplyPacket) : Bytes :=
  let signo := if packet.stopReason.isEmpty then packet.signo else 5
  packet.typeChar :: Util.encodeByteString signo ++
    packet.registerValues.flatMap (· ++ [chr ';']) ++ packet.threadPart ++
    (if packet.stopReason.isEmpty then [] else packet.stopReason ++ [chr ';'])

theorem threadPart_length (packet : StopReplyPacket) :
    packet.threadPart.length ≤ packet.tidString.length + 8 := by
  have word : (ascii "thread:").length = 7 := rfl
  unfold threadPart
  split
  · exact Nat.zero_le _
  · split <;> simp only [List.length_cons, List.length_append, List.length_nil, word] <;> omega

theorem build_length (packet : StopReplyPacket) :
    packet.build.length ≤ 3 + (packet.registerValues.map fun value => value.length + 1).sum +
      (packet.tidString.length + 8) + (packet.stopReason.length + 1) := by
  have thread := packet.threadPart_length
  have registers : (packet.registerValues.flatMap (· ++ [chr ';'])).length =
      (packet.registerValues.map fun value => value.length + 1).sum := by
    simp [List.length_flatMap]
  unfold build
  dsimp only
  rw [List.length_append, List.length_append, List.length_append, List.length_cons,
    Util.encodeByteString_length, registers]
  split <;> simp only [List.length_nil, List.length_append, List.length_cons] <;> omega

end StopReplyPacket

end Gdbserver
