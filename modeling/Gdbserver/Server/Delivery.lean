import Gdbserver.Server.Notifications

/-!
# Stop events are delivered once and in order

Whatever the interleaving of events, `vStopped` packets and timeouts, the
events handed to the client followed by those still queued are the events that
were queued, and the drain loop ends only once all of them have been handed over.
-/

set_option autoImplicit false

namespace Gdbserver

open Logic Prog Frame

namespace NotifyEvent

def queued? : NotifyEvent → Option PendingNotification
  | .queued notification => some notification
  | .notified _ | .acknowledged _ | .answered _ | .drained | .resent _ _ => none

/-- The first time the client sees an event. -/
def handed? : NotifyEvent → Option PendingNotification
  | .notified notification | .answered notification => some notification
  | .queued _ | .acknowledged _ | .drained | .resent _ _ => none

/-- What is posted for an entry of the journal. -/
def post? : NotifyEvent → Option Post
  | .notified notification | .resent _ notification =>
      some (.write true (RspServer.notificationBytes notification))
  | .answered notification => some (.write false notification.event)
  | .drained => some (.write false (ascii "OK"))
  | .queued _ | .acknowledged _ => none

end NotifyEvent

def queuedIn (journal : List NotifyEvent) : List PendingNotification :=
  journal.filterMap NotifyEvent.queued?

def handedIn (journal : List NotifyEvent) : List PendingNotification :=
  journal.filterMap NotifyEvent.handed?

def postsOf (journal : List NotifyEvent) : List Post := journal.filterMap NotifyEvent.post?

@[simp] theorem queuedIn_append (journal more : List NotifyEvent) :
    queuedIn (journal ++ more) = queuedIn journal ++ queuedIn more := List.filterMap_append

@[simp] theorem handedIn_append (journal more : List NotifyEvent) :
    handedIn (journal ++ more) = handedIn journal ++ handedIn more := List.filterMap_append

@[simp] theorem postsOf_append (journal more : List NotifyEvent) :
    postsOf (journal ++ more) = postsOf journal ++ postsOf more := List.filterMap_append

theorem balanced_append {journal events : List NotifyEvent} {queue rest : List PendingNotification}
    (balanced : queuedIn journal = handedIn journal ++ queue)
    (change : queue ++ queuedIn events = handedIn events ++ rest) :
    queuedIn (journal ++ events) = handedIn (journal ++ events) ++ rest := by
  rw [queuedIn_append, handedIn_append, balanced, List.append_assoc, change, List.append_assoc]

/-- Every `OK` is posted when everything queued so far has been handed over. -/
def DrainsComplete (journal : List NotifyEvent) : Prop :=
  ∀ before, before ++ [.drained] <+: journal → queuedIn before = handedIn before

theorem DrainsComplete.concat {journal : List NotifyEvent} {event : NotifyEvent}
    (complete : DrainsComplete journal)
    (now : event = .drained → queuedIn journal = handedIn journal) :
    DrainsComplete (journal ++ [event]) := by
  intro before shorter
  rcases List.prefix_concat_iff.mp shorter with whole | earlier
  · obtain ⟨same, last⟩ := List.append_inj' whole rfl
    rw [same]
    exact now (List.singleton_inj.mp last).symm
  · exact complete before earlier

theorem DrainsComplete.concat_two {journal : List NotifyEvent} {first second : NotifyEvent}
    (complete : DrainsComplete journal) (quiet : first ≠ .drained)
    (now : second = .drained → queuedIn (journal ++ [first]) = handedIn (journal ++ [first])) :
    DrainsComplete (journal ++ [first, second]) := by
  have once : DrainsComplete (journal ++ [first]) := complete.concat fun same => absurd same quiet
  have twice := once.concat now
  rwa [List.append_assoc] at twice

/-- The posts since the start are those of the journal, and others that are no
notifications. -/
def Journaled (start : Server) (server : RspServer) : Prop :=
  ∃ posts, server.core.posted = start.posted ++ posts ∧ (postsOf server.journal).Sublist posts ∧
    posts.filter Post.isNotification = (postsOf server.journal).filter Post.isNotification

structure Delivered (start : Server) (server : RspServer) : Prop where
  inOrder : queuedIn server.journal = handedIn server.journal ++ server.notifyQueue
  idle : server.pendingNotification = none → server.notifyQueue = []
  complete : DrainsComplete server.journal
  posted : Journaled start server

theorem Journaled.outside {start : Server} {before after : RspServer}
    (journaled : Journaled start before) (kept : RspServer.Outside Post.Plain before after) :
    Journaled start after := by
  obtain ⟨posts, posted, within, notifications⟩ := journaled
  obtain ⟨more, postedMore, each⟩ := kept.posted
  have journal : after.journal = before.journal := by rw [kept.rest]
  refine ⟨posts ++ more, by rw [postedMore, posted, List.append_assoc], ?_, ?_⟩
  · rw [journal]
    exact within.trans (List.sublist_append_left posts more)
  · have none : more.filter Post.isNotification = [] := by
      rw [List.filter_eq_nil_iff]
      intro post member
      rw [each post member]
      exact Bool.false_ne_true
    rw [journal, List.filter_append, none, List.append_nil, notifications]

theorem Journaled.append {start : Server} {before after : RspServer} {events : List NotifyEvent}
    (journaled : Journaled start before) (journal : after.journal = before.journal ++ events)
    (posted : after.core.posted = before.core.posted ++ postsOf events) :
    Journaled start after := by
  obtain ⟨posts, sofar, within, notifications⟩ := journaled
  refine ⟨posts ++ postsOf events, by rw [posted, sofar, List.append_assoc], ?_, ?_⟩
  · rw [journal, postsOf_append]
    exact within.append (List.Sublist.refl _)
  · rw [journal, postsOf_append, List.filter_append, List.filter_append, notifications]

theorem Delivered.outside {start : Server} {before after : RspServer}
    (delivered : Delivered start before) (kept : RspServer.Outside Post.Plain before after) :
    Delivered start after := by
  have journaled := delivered.posted.outside kept
  rw [kept.rest] at journaled ⊢
  exact ⟨delivered.inOrder, delivered.idle, delivered.complete, journaled⟩

theorem Delivered.queues {env : Env} {allowed : Bytes → Prop} {start : Server}
    {before after : RspServer} (delivered : Delivered start before)
    (queues : RspServer.Queues env allowed before after) :
    Delivered start after := by
  have inOrder := delivered.inOrder
  cases queues with
  | waits permitted busy new =>
      refine ⟨?_, ?_, ?_, ?_⟩
      · exact balanced_append inOrder rfl
      · intro free
        rw [busy] at free
        cases free
      · exact delivered.complete.concat nofun
      · exact delivered.posted.append rfl (List.append_nil _).symm
  | notifies permitted free new first =>
      refine ⟨?_, ?_, ?_, ?_⟩
      · exact balanced_append inOrder first
      · exact nofun
      · exact delivered.complete.concat_two nofun nofun
      · exact delivered.posted.append rfl rfl

theorem Delivered.acks {start : Server} {before after : RspServer}
    (delivered : Delivered start before) (acks : RspServer.Acks before after) :
    Delivered start after := by
  have inOrder := delivered.inOrder
  cases acks with
  | ignored free => exact delivered
  | answered busy first =>
      refine ⟨?_, ?_, ?_, ?_⟩
      · exact balanced_append inOrder ((List.append_nil _).trans first)
      · intro free
        rw [busy] at free
        cases free
      · exact delivered.complete.concat_two nofun nofun
      · exact delivered.posted.append rfl rfl
  | drained busy empty =>
      rename_i pending
      -- nothing is left in the queue, so all that was queued has been handed over
      have equal : queuedIn (before.journal ++ [.acknowledged pending]) =
          handedIn (before.journal ++ [.acknowledged pending]) := by
        rw [queuedIn_append, handedIn_append, inOrder, empty, List.append_nil]
        rfl
      exact ⟨balanced_append inOrder (List.append_nil _), fun _ => empty,
        delivered.complete.concat_two nofun fun _ => equal, delivered.posted.append rfl rfl⟩

theorem Delivered.fires {start : Server} {before after : RspServer} {index : Nat}
    (delivered : Delivered start before) (fires : RspServer.Fires before index after) :
    Delivered start after := by
  cases fires with
  | missing none => exact delivered
  | stale due other => exact ⟨delivered.inOrder, delivered.idle, delivered.complete, delivered.posted⟩
  | resends due busy same =>
      exact ⟨balanced_append delivered.inOrder (List.append_nil _), delivered.idle,
        delivered.complete.concat nofun, delivered.posted.append rfl rfl⟩

theorem Delivered.touches {env : Env} {start : Server} {before after : RspServer} {input : Input}
    (delivered : Delivered start before) (touches : RspServer.Touches env before after input) :
    Delivered start after := by
  cases touches with
  | nothing quiet kept => exact delivered.outside kept
  | queues may head queued tail => exact ((delivered.outside head).queues queued).outside tail
  | acks head acked tail => exact ((delivered.outside head).acks acked).outside tail
  | fires fired => exact delivered.fires fired

namespace RspServer

/-- The server before anything has been queued. -/
def idle (core : Server) : RspServer := ⟨core, [], none, [], 0, []⟩

theorem idle_delivered (core : Server) : Delivered core (idle core) := by
  refine ⟨rfl, fun _ => rfl, fun before shorter => ?_, [], (List.append_nil _).symm,
    List.Sublist.refl _, rfl⟩
  have empty := List.prefix_nil.mp shorter
  exact absurd empty (by simp)

theorem run_delivered (env : Env) (core : Server) (inputs : List Input) :
    Delivered core (run (handle env) inputs (idle core)).2 :=
  run_invariant (fun server input delivered => delivered.touches (handle_touches env input server))
    inputs (idle core) (idle_delivered core)

end RspServer

end Gdbserver
