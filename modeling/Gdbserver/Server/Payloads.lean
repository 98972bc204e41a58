import Gdbserver.Server.Answers

/-!
# Payloads and the output buffer

`PostWriteTask` copies its payload into a buffer of fixed size. Stop events, and
the notifications made of them, are always short. The responses that are too
long are those of three commands, and only then when the command and the state
make them so.
-/

set_option autoImplicit false

namespace Gdbserver

open Logic Prog Frame CommandHandler

namespace RspServer

/-- A notification as the exception handlers queue it. -/
def ShortNotification (notification : PendingNotification) : Prop :=
  notification.name = kStopNotification ∧ ShortEvent notification.event

theorem ShortNotification.fits {notification : PendingNotification}
    (short : ShortNotification notification) : Gdbserver.Fits (notificationBytes notification) := by
  obtain ⟨name, event⟩ := short
  have first : kStopNotification.length = 4 := rfl
  have colon : (ascii ":").length = 1 := rfl
  unfold ShortEvent at event
  rw [Gdbserver.Fits, notificationBytes, name, kMaxBufferSize, List.length_append,
    List.length_append, first, colon]
  omega

/-- Every notification that is still to be handed over is short. -/
structure Modest (server : RspServer) : Prop where
  waiting : ∀ notification ∈ server.notifyQueue, ShortNotification notification
  pending : ∀ notification ∈ server.pendingNotification, ShortNotification notification

/-- Everything handed to `PostWriteTask` fits. -/
def PayloadsFit (server : RspServer) : Prop := ∀ post ∈ server.core.posted, post.Fits

instance (server : RspServer) : Decidable (PayloadsFit server) :=
  inferInstanceAs (Decidable (∀ post ∈ server.core.posted, post.Fits))

theorem PayloadsFit.posting {before after : RspServer} (fit : PayloadsFit before)
    (posted : (posting Post.Fits).rel before.core after.core) : PayloadsFit after := by
  obtain ⟨posts, same, each⟩ := posted
  intro post member
  rw [same] at member
  exact (List.mem_append.mp member).elim (fit post) (each post)

theorem Modest.outside {allowed : Post → Prop} {before after : RspServer} (modest : Modest before)
    (kept : Outside allowed before after) : Modest after := by
  rw [kept.rest]
  exact ⟨modest.waiting, modest.pending⟩

theorem PayloadsFit.outside {before after : RspServer} (fit : PayloadsFit before)
    (kept : Outside Post.Small before after) : PayloadsFit after := by
  obtain ⟨posts, same, each⟩ := kept.posted
  exact fit.posting ⟨posts, same, fun post member => (each post member).2⟩

theorem payloadsFit_post {before : RspServer} {isNotification : Bool} {data : Bytes}
    (fit : PayloadsFit before) (short : Gdbserver.Fits data) :
    ∀ post ∈ (before.core.post [.write isNotification data]).posted, post.Fits := by
  intro post member
  rcases List.mem_append.mp member with old | new
  · exact fit post old
  · rw [List.mem_singleton.mp new]
    exact short

theorem Modest.queues {env : Env} {before after : RspServer} (modest : Modest before)
    (queues : Queues env ShortEvent before after) :
    Modest after ∧ (PayloadsFit before → PayloadsFit after) := by
  have grown {notification : PendingNotification} {event : Bytes} {timeout : Nat}
      (permitted : ShortEvent event)
      (new : notification = newNotification env before kStopNotification event timeout) :
      ∀ other ∈ before.notifyQueue ++ [notification], ShortNotification other := by
    intro other member
    rcases List.mem_append.mp member with old | last
    · exact modest.waiting other old
    · rw [List.mem_singleton.mp last, new]
      exact ⟨rfl, permitted⟩
  cases queues with
  | waits permitted busy new => exact ⟨⟨grown permitted new, modest.pending⟩, fun fit => fit⟩
  | notifies permitted free new first =>
      have all := grown permitted new
      rw [first] at all
      have next := all _ List.mem_cons_self
      refine ⟨⟨fun other member => all other (List.mem_cons_of_mem _ member), ?_⟩,
        fun fit => payloadsFit_post fit next.fits⟩
      intro other same
      cases same
      exact next

theorem Modest.acks {before after : RspServer} (modest : Modest before)
    (acks : Acks before after) : Modest after ∧ (PayloadsFit before → PayloadsFit after) := by
  cases acks with
  | ignored free => exact ⟨modest, fun fit => fit⟩
  | answered busy first =>
      have waiting := modest.waiting
      rw [first] at waiting
      exact ⟨⟨fun other member => waiting other (List.mem_cons_of_mem _ member), modest.pending⟩,
        fun fit => payloadsFit_post fit (waiting _ List.mem_cons_self).2.fits⟩
  | drained busy empty =>
      exact ⟨⟨modest.waiting, nofun⟩, fun fit => payloadsFit_post fit (by decide)⟩

theorem Modest.fires {before after : RspServer} {index : Nat} (modest : Modest before)
    (fires : Fires before index after) :
    Modest after ∧ (PayloadsFit before → PayloadsFit after) := by
  cases fires with
  | missing none => exact ⟨modest, fun fit => fit⟩
  | stale due other => exact ⟨⟨modest.waiting, modest.pending⟩, fun fit => fit⟩
  | resends due busy same =>
      exact ⟨⟨modest.waiting, modest.pending⟩,
        fun fit => payloadsFit_post fit (modest.pending _ busy).fits⟩

/-! ## Responses -/

theorem Answer.fits {fits : Bytes → Prop} {handled : Bool} {posts : List Post}
    (answer : Answer fits handled posts) (implies : ∀ response, fits response → Gdbserver.Fits response) :
    ∀ post ∈ posts, post.Fits := by
  apply answer.cases_posts
  · simp
  · intro bytes short
    simpa [Post.Fits] using implies bytes short
  · intro bytes short
    simpa [Post.Fits] using implies bytes short

theorem routeCommand_sized {env : Env} (packet : Bytes) {server before after : Server}
    {fits handled : Bool} (ran : handleCommand env packet server = (some handled, after))
    (sized : Sized fits before handled after) (same : before.posted = server.posted)
    (small : (posting Post.Fits).rel server (routeCommand env packet server).2) : fits = true := by
  obtain ⟨⟨posts, answer, kept⟩, unhandled⟩ := sized
  cases handled with
  | false => exact unhandled rfl
  | true =>
      obtain ⟨others, posted, each⟩ := small
      obtain ⟨response, tail, shape, -, exactly⟩ := answer
      rw [routeCommand, bind_of_some ran] at posted
      have first : after.posted = server.posted ++ posts := kept.posted.trans (by rw [Server.post, same])
      have equal : posts = others := List.append_cancel_left (first.symm.trans posted)
      refine exactly.mp (each (.write false response) ?_)
      rw [← equal, shape]
      exact List.mem_cons_self

theorem routeCommand_fits_iff (env : Env) (packet : Bytes) (server : Server) :
    (posting Post.Fits).rel server (routeCommand env packet server).2 ↔
      responseFits env packet server = true := by
  constructor
  · intro small
    cases packet with
    | nil => rfl
    | cons command arguments =>
        rw [responseFits]
        by_cases memory : command = chr 'm'
        · subst memory
          obtain ⟨handled, after, ran, sized⟩ := handle_m_sized env arguments server
          exact routeCommand_sized (chr 'm' :: arguments) ran sized rfl small
        by_cases query : command = chr 'q'
        · subst query
          obtain ⟨handled, after, ran, sized⟩ := handleQuery_sized env arguments server
          exact routeCommand_sized (chr 'q' :: arguments) ran sized rfl small
        · rw [if_neg memory, if_neg query]
  · intro fits
    have effect := handleCommand_effect env packet server
    cases ran : handleCommand env packet server with
    | mk outcome after =>
        rw [ran] at effect
        obtain ⟨posts, posted, kind⟩ := effect.posts
        have small : (posting Post.Fits).rel server after := by
          refine ⟨posts, posted, ?_⟩
          cases kind with
          | answered answer other => exact Answer.fits answer fun _ short => short fits
          | started run => exact nofun
          | crashed resume crash => exact nofun
        cases outcome with
        | none =>
            rw [routeCommand, bind_of_none ran]
            exact small
        | some handled =>
            rw [routeCommand, bind_of_some ran]
            cases handled with
            | true => exact small
            | false =>
                exact (posting Post.Fits).trans small
                  (postWriteTask_posting Post.Fits (by decide : Gdbserver.Fits []) after)

/-- The response to the packet in the bytes, if there is one, fits the output buffer. -/
def answerFits (env : Env) (server : RspServer) : Input → Bool
  | .bytesRead bytes =>
      match Util.verifyPacket bytes with
      | some packet =>
          decide (packet = kStopAck) || responseFits env packet (server.core.post [.ack true])
      | none => true
  | .exception _ _ _ | .timeout _ | .queueStopNotification _ _ | .inferior _ => true

theorem onBytesRead_payloads_iff (env : Env) (bytes : Bytes) {server : RspServer}
    (modest : Modest server) (fit : PayloadsFit server) :
    PayloadsFit (onBytesRead env bytes server).2 ↔
      answerFits env server (.bytesRead bytes) = true := by
  have acked (verified : Bool) :
      PayloadsFit { server with core := server.core.post [.ack verified] } :=
    fit.posting ⟨[.ack verified], rfl, by simp [Post.Fits]⟩
  rw [onBytesRead, answerFits]
  by_cases plus : bytes = ascii "+"
  · rw [if_pos plus, plus]
    exact iff_of_true fit rfl
  rw [if_neg plus]
  cases Util.verifyPacket bytes with
  | none => exact iff_of_true (acked false) rfl
  | some packet =>
      dsimp only
      rw [bind_of_some (sendAck_eq true server)]
      by_cases stopAck : packet = kStopAck
      · rw [if_pos stopAck, decide_eq_true stopAck]
        have waiting : Modest { server with core := server.core.post [.ack true] } :=
          ⟨modest.waiting, modest.pending⟩
        exact iff_of_true ((waiting.acks (onStopAck_acks _)).2 (acked true)) rfl
      · rw [if_neg stopAck, decide_eq_false stopAck, Bool.false_or, ← routeCommand_fits_iff]
        constructor
        · intro after
          obtain ⟨posts, posted, -⟩ := routeCommand_plain env packet (server.core.post [.ack true])
          refine ⟨posts, posted, fun post member => after post ?_⟩
          exact posted ▸ List.mem_append_right _ member
        · exact fun small => (acked true).posting small

/-! ## Runs -/

theorem onBytesRead_modest (env : Env) (bytes : Bytes) {server : RspServer}
    (modest : Modest server) : Modest (onBytesRead env bytes server).2 := by
  rcases onBytesRead_acks env bytes server with kept | ⟨first, last, head, acked, tail⟩
  · exact modest.outside kept
  · exact ((modest.outside head).acks acked).1.outside tail

theorem dispatchException_modest (env : Env) (key : UInt64) (type : ExceptionType)
    (context : ExceptionContext) {server : RspServer} (modest : Modest server) :
    Modest (dispatchException env key type context server).2 ∧
      (PayloadsFit server → PayloadsFit (dispatchException env key type context server).2) := by
  rcases dispatchException_queues env key type context server with
    kept | ⟨first, last, head, queued, tail⟩
  · exact ⟨modest.outside kept, fun fit => fit.outside kept⟩
  · obtain ⟨modestLast, fits⟩ := (modest.outside head).queues queued
    exact ⟨modestLast.outside tail, fun fit => (fits (fit.outside head)).outside tail⟩

end RspServer

/-- Stop notifications are queued by the exception handlers only. -/
def Input.isExternal : Input → Bool
  | .queueStopNotification _ _ => false
  | .bytesRead _ | .exception _ _ _ | .timeout _ | .inferior _ => true

abbrev External := { input : Input // input.isExternal = true }

namespace RspServer

def handleExternal (env : Env) (input : External) : Prog RspServer Unit := handle env input.val

theorem handleExternal_modest (env : Env) (server : RspServer) (input : External)
    (modest : Modest server) : Modest (handleExternal env input server).2 := by
  obtain ⟨input, external⟩ := input
  cases input with
  | bytesRead bytes => exact onBytesRead_modest env bytes modest
  | exception key type context => exact (dispatchException_modest env key type context modest).1
  | timeout index => exact (modest.fires (onTimeout_fires index server)).1
  | queueStopNotification event timeout => exact absurd external Bool.false_ne_true
  | inferior kernel => exact ⟨modest.waiting, modest.pending⟩

theorem handleExternal_payloads_iff (env : Env) (server : RspServer) (input : External)
    (modest : Modest server) (fit : PayloadsFit server) :
    PayloadsFit (handleExternal env input server).2 ↔ answerFits env server input.val = true := by
  obtain ⟨input, external⟩ := input
  cases input with
  | bytesRead bytes => exact onBytesRead_payloads_iff env bytes modest fit
  | exception key type context =>
      exact iff_of_true ((dispatchException_modest env key type context modest).2 fit) rfl
  | timeout index => exact iff_of_true ((modest.fires (onTimeout_fires index server)).2 fit) rfl
  | queueStopNotification event timeout => exact absurd external Bool.false_ne_true
  | inferior kernel => exact iff_of_true fit rfl

end RspServer

namespace Debugserver

open RspServer

/-- From start-up on, everything that is posted fits exactly as long as no client
asks for a response that does not. -/
theorem payloadsFit_iff (env : Env) (config : Config) (inputs : List External) :
    (∀ before, before <+: inputs →
      PayloadsFit (run (handleExternal env) before (started env config)).2) ↔
      Along (handleExternal env) (fun server input => answerFits env server input.val = true)
        (started env config) inputs := by
  have modest : Modest (started env config) := ⟨nofun, nofun⟩
  have fit : PayloadsFit (started env config) := by
    obtain ⟨ok, after, last, events, ran, -, -, none, -⟩ := startUp_spec env config
    rw [started, ran]
    intro post member
    rw [none] at member
    cases member
  exact run_prefixes_iff_along (handleExternal_modest env) (handleExternal_payloads_iff env) inputs
    (started env config) modest fit

/-- A client attaches to a process and reads two kilobytes of its memory. -/
def readsTwoKilobytes : List External :=
  [⟨.bytesRead (ascii "$vAttach;7#3d"), rfl⟩, ⟨.bytesRead (ascii "$m0,800#61"), rfl⟩]

theorem readsTwoKilobytes_overflows :
    ¬ PayloadsFit (run (handleExternal obliging) readsTwoKilobytes (started obliging program)).2 := by
  decide +kernel

end Debugserver

end Gdbserver
