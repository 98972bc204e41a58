import Gdbserver.Rsp.StopReplyPacket
import Gdbserver.Server.CommandHandler

/-!
# The RSP server

`bin/debugserver/server.cc`: the notification queue, the bytes read from the
client and the exceptions of the inferior. A delayed task holds the raw pointer
of the notification it was armed for; `serial` numbers and the journal are not
in the source and only record what happened to which notification.
-/

set_option autoImplicit false

namespace Gdbserver

open Logic Prog

structure PendingNotification where
  name : Bytes
  event : Bytes
  timeout : Nat
  address : Nat
  serial : Nat
  deriving DecidableEq

/-- The closure of `PostNotificationTimeoutHandler`: the pointer it captured,
and the serial number of the notification that was pending then. -/
structure TimeoutTask where
  pointer : Nat
  armedFor : Nat
  delay : Nat
  deriving DecidableEq

/-- The history of the notifications. `notified` is a first `%` packet, `resent`
one sent by a timeout task, `answered` the `$` packet with an event in answer
to a `vStopped`, `drained` the `OK` that ends the loop, and `acknowledged` a
`vStopped` that found this notification pending. -/
inductive NotifyEvent where
  | queued (notification : PendingNotification)
  | notified (notification : PendingNotification)
  | acknowledged (notification : PendingNotification)
  | answered (notification : PendingNotification)
  | drained
  | resent (task : TimeoutTask) (notification : PendingNotification)
  deriving DecidableEq

structure RspServer where
  core : Server
  notifyQueue : List PendingNotification
  pendingNotification : Option PendingNotification
  delayedTasks : List TimeoutTask
  allocations : Nat
  journal : List NotifyEvent

namespace RspServer

def kStopNotification : Bytes := ascii "Stop"

def kStopAck : Bytes := ascii "vStopped"

def kDefaultTimeoutSeconds : Nat := 30

/-- Work on the part of the state that the base class and the inferior own. -/
def onServer {α : Type} (inner : Prog Server α) : Prog RspServer α :=
  zoom RspServer.core (fun core server => { server with core := core }) inner

def note (event : NotifyEvent) : Prog RspServer Unit :=
  modify fun server => { server with journal := server.journal ++ [event] }

def notificationBytes (notification : PendingNotification) : Bytes :=
  notification.name ++ ascii ":" ++ notification.event

def postPendingNotificationWriteTask (pending : PendingNotification) : Prog RspServer Unit :=
  onServer (postWriteTask true (notificationBytes pending))

def postNotificationTimeoutHandler (pending : PendingNotification) : Prog RspServer Unit :=
  modify fun server =>
    { server with
      delayedTasks := server.delayedTasks ++ [⟨pending.address, pending.serial, pending.timeout⟩] }

def tryPostNextNotification : Prog RspServer Bool := do
  let server ← read id
  match server.pendingNotification, server.notifyQueue with
  | none, next :: rest => do
      modify fun server => { server with pendingNotification := some next, notifyQueue := rest }
      note (.notified next)
      postPendingNotificationWriteTask next
      postNotificationTimeoutHandler next
      pure true
  | _, _ => pure false

def liveAddresses (server : RspServer) : List Nat :=
  (server.pendingNotification.toList ++ server.notifyQueue).map (·.address)

def newNotification (env : Env) (server : RspServer) (name event : Bytes) (timeout : Nat) :
    PendingNotification :=
  ⟨name, event, timeout, env.allocator.address server.liveAddresses server.allocations,
    server.allocations⟩

def queueNotification (env : Env) (name event : Bytes) (timeout : Nat) : Prog RspServer Unit := do
  let notification ← read fun server => newNotification env server name event timeout
  modify fun server =>
    { server with
      notifyQueue := server.notifyQueue ++ [notification]
      allocations := server.allocations + 1 }
  note (.queued notification)
  let _ ← tryPostNextNotification
  pure ()

def queueStopNotification (env : Env) (event : Bytes) (timeout : Nat) : Prog RspServer Unit :=
  queueNotification env kStopNotification event timeout

/-- The body of the delayed task. -/
def timeoutHandler (task : TimeoutTask) : Prog RspServer Unit := do
  match ← read (·.pendingNotification) with
  | none => pure ()
  | some pending =>
      -- the closure has nothing but the pointer to compare
      if pending.address ≠ task.pointer then pure ()
      else do
        note (.resent task pending)
        postPendingNotificationWriteTask pending
        postNotificationTimeoutHandler pending

/-- The branch of `OnBytesRead` for `vStopped`. -/
def onStopAck : Prog RspServer Unit := do
  let server ← read id
  match server.pendingNotification, server.notifyQueue with
  | none, _ => pure ()
  | some pending, next :: rest => do
      note (.acknowledged pending)
      modify fun server => { server with notifyQueue := rest }
      note (.answered next)
      onServer (postPacketWriteTask next.event)
  | some pending, [] => do
      note (.acknowledged pending)
      modify fun server => { server with pendingNotification := none }
      note .drained
      onServer (postPacketWriteTask (ascii "OK"))

/-- A command that is not handled gets the empty response. -/
def routeCommand (env : Env) (packetData : Bytes) : Prog Server Unit := do
  if ← CommandHandler.handleCommand env packetData then pure ()
  else CommandHandler.callback []

def onBytesRead (env : Env) (bytesRead : Bytes) : Prog RspServer Unit :=
  if bytesRead = ascii "+" then pure ()
  else
    match Util.verifyPacket bytesRead with
    | none => onServer (sendAck false)
    | some packetData => do
        onServer (sendAck true)
        if packetData = kStopAck then onStopAck else onServer (routeCommand env packetData)

end RspServer

end Gdbserver
