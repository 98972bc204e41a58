import Gdbserver.Server.Notifications

/-!
# Every chunk of bytes is answered

`OnBytesRead` acknowledges what it reads, and hands a packet that verifies
either to the drain loop or to the command handler. Together they post one
response, unless a `vRun` leaves it to the first thread or a `vStopped` finds
that the notification is gone.
-/

set_option autoImplicit false

namespace Gdbserver

open Logic Prog Frame CommandHandler

def Post.isAck : Post → Bool
  | .ack _ => true
  | .write _ _ | .quit => false

def postsBetween (before after : Server) : List Post :=
  after.posted.drop before.posted.length

theorem postsBetween_eq {before after : Server} {posts : List Post}
    (posted : after.posted = before.posted ++ posts) : postsBetween before after = posts := by
  rw [postsBetween, posted, List.drop_left]

theorem Answer.not_ack {fits : Bytes → Prop} {handled : Bool} {posts : List Post}
    (answer : Answer fits handled posts) : posts.filter Post.isAck = [] := by
  apply answer.cases_posts
  · rfl
  · intro bytes _
    rfl
  · intro bytes _
    rfl

theorem CommandHandler.Posts.not_ack {env : Env} {before after : Server} {packet : Bytes}
    {outcome : Option Bool} {posts : List Post} (kind : Posts env before after packet outcome posts) :
    posts.filter Post.isAck = [] := by
  cases kind with
  | answered answer other => exact answer.not_ack
  | started run => rfl
  | crashed resume crash => rfl

namespace RspServer

/-- The packet is not a `c` that would start a process without a launchpad. -/
def RunsThrough (packet : Bytes) (server : Server) : Prop :=
  ∀ arguments, packet = chr 'c' :: arguments → continueCrashes arguments server = false

theorem routeCommand_posts (env : Env) (packet : Bytes) (server : Server) :
    ∃ posts, (routeCommand env packet server).2.posted = server.posted ++ posts ∧
      posts.filter Post.isAck = [] ∧
      (RunsThrough packet server → posts.countP Post.isResponse =
        if runStarted packet server (routeCommand env packet server).2 then 0 else 1) := by
  have effect := handleCommand_effect env packet server
  cases ran : handleCommand env packet server with
  | mk outcome after =>
      rw [ran] at effect
      obtain ⟨posts, posted, kind⟩ := effect.posts
      have noAck := kind.not_ack
      have counted := kind.callbacks
      cases outcome with
      | none =>
          rw [routeCommand, bind_of_none ran]
          refine ⟨posts, posted, noAck, fun through => ?_⟩
          cases kind with
          | crashed resume crash =>
              rw [through _ resume] at crash
              exact absurd crash Bool.false_ne_true
      | some handled =>
          rw [routeCommand, bind_of_some ran]
          cases handled with
          | true => exact ⟨posts, posted, noAck, fun _ => counted⟩
          | false =>
              -- The callback is called here, for the handler did not.
              refine ⟨posts ++ [.write false []], ?_, ?_, fun _ => ?_⟩
              · rw [← List.append_assoc, ← posted]
                rfl
              · rw [List.filter_append, noAck]
                rfl
              · rw [List.countP_append, counted]
                cases kind with
                | answered answer other => exact (if_neg (Bool.eq_false_iff.mp other)).symm

/-- The response to a `vStopped`: nothing when no notification is pending. -/
def stopAckResponses (server : RspServer) : List Post :=
  match server.pendingNotification, server.notifyQueue with
  | none, _ => []
  | some _, next :: _ => [.write false next.event]
  | some _, [] => [.write false (ascii "OK")]

theorem onStopAck_posts (server : RspServer) :
    (onStopAck server).2.core.posted = server.core.posted ++ stopAckResponses server := by
  have acks := onStopAck_acks server
  generalize (onStopAck server).2 = after at acks
  unfold stopAckResponses
  cases acks with
  | ignored free =>
      rw [free]
      exact (List.append_nil _).symm
  | answered busy first =>
      rw [busy, first]
      rfl
  | drained busy empty =>
      rw [busy, empty]
      rfl

theorem stopAckResponses_not_ack (server : RspServer) :
    (stopAckResponses server).filter Post.isAck = [] := by
  unfold stopAckResponses
  split <;> rfl

theorem stopAckResponses_responses (server : RspServer) :
    (stopAckResponses server).filter Post.isResponse = stopAckResponses server := by
  unfold stopAckResponses
  split <;> rfl

/-- One acknowledgment, and what it announces. -/
structure Answered (bytes : Bytes) (before after : RspServer) : Prop where
  acknowledged : (postsBetween before.core after.core).filter Post.isAck =
    [.ack (Util.verifyPacket bytes).isSome]
  stopAck : Util.verifyPacket bytes = some kStopAck →
    (postsBetween before.core after.core).filter Post.isResponse = stopAckResponses before
  command : ∀ packet, Util.verifyPacket bytes = some packet → packet ≠ kStopAck →
    RunsThrough packet before.core →
      (postsBetween before.core after.core).countP Post.isResponse =
        if runStarted packet before.core after.core then 0 else 1

theorem sendAck_eq (verified : Bool) (server : RspServer) :
    onServer (sendAck verified) server =
      (some (), { server with core := server.core.post [.ack verified] }) := rfl

theorem onBytesRead_answered (env : Env) (bytes : Bytes) (server : RspServer)
    (other : bytes ≠ ascii "+") : Answered bytes server (onBytesRead env bytes server).2 := by
  rw [onBytesRead, if_neg other]
  cases verified : Util.verifyPacket bytes with
  | none =>
      have posts : postsBetween server.core (server.core.post [.ack false]) = [.ack false] :=
        postsBetween_eq rfl
      have unverified (packet : Bytes) : Util.verifyPacket bytes ≠ some packet := by
        rw [verified]
        exact (Option.some_ne_none packet).symm
      refine ⟨?_, fun wrong => absurd wrong (unverified _),
        fun packet wrong => absurd wrong (unverified packet)⟩
      rw [verified]
      exact congrArg (List.filter Post.isAck) posts
  | some packet =>
      dsimp only
      rw [bind_of_some (sendAck_eq true server)]
      by_cases stopAck : packet = kStopAck
      · rw [if_pos stopAck]
        have posts := postsBetween_eq ((onStopAck_posts
          { server with core := server.core.post [.ack true] }).trans (List.append_assoc ..))
        refine ⟨?_, fun _ => ?_, fun data same different => ?_⟩
        · rw [posts, verified, List.filter_append, stopAckResponses_not_ack]
          rfl
        · rw [posts, List.filter_append, stopAckResponses_responses]
          rfl
        · exact absurd ((Option.some.inj (verified.symm.trans same)).symm.trans stopAck) different
      · rw [if_neg stopAck]
        obtain ⟨responses, posted, noAck, counted⟩ :=
          routeCommand_posts env packet (server.core.post [.ack true])
        have posts := postsBetween_eq (posted.trans (List.append_assoc ..))
        refine ⟨?_, fun same => ?_, fun data same _ through => ?_⟩
        · rw [verified]
          exact (congrArg (List.filter Post.isAck) posts).trans
            (congrArg (List.cons (Post.ack true)) noAck)
        · exact absurd (Option.some.inj (verified.symm.trans same)) stopAck
        · cases verified.symm.trans same
          exact (congrArg (List.countP Post.isResponse) posts).trans (counted through)

open Debugserver (obliging program started)

/-- A query right after start-up. -/
theorem query_answered :
    ascii "$qfThreadInfo#bb" ≠ ascii "+" ∧
      Answered (ascii "$qfThreadInfo#bb") (started obliging program)
        (onBytesRead obliging (ascii "$qfThreadInfo#bb") (started obliging program)).2 :=
  ⟨by decide, onBytesRead_answered obliging _ _ (by decide)⟩

/-- An acknowledgment of a notification that never was gets no response. -/
theorem vStopped_unanswered :
    Util.verifyPacket (ascii "$vStopped#55") = some kStopAck ∧
      (started obliging program).core.posted = [] ∧
      (onBytesRead obliging (ascii "$vStopped#55") (started obliging program)).2.core.posted =
        [.ack true] := by
  decide +kernel

end RspServer

end Gdbserver
