import Gdbserver.Server.Delivery

/-!
# When a timeout task re-sends a notification

The task compares pointers. The pending notification outlives its
acknowledgment as long as the drain loop runs, and the heap may give its
address to a later notification while the task is still armed.
-/

set_option autoImplicit false

namespace Gdbserver

open Logic Prog Frame

/-! ## Acknowledged notifications -/

/-- The notification that a `%` packet was posted for. -/
def NotifyEvent.sent : NotifyEvent → Option PendingNotification
  | .notified notification | .resent _ notification => some notification
  | .queued _ | .acknowledged _ | .answered _ | .drained => none

/-- The later entry sends again what the earlier one acknowledged. -/
def NotifyEvent.resendsAcknowledged : NotifyEvent → NotifyEvent → Bool
  | .acknowledged notification, later => later.sent = some notification
  | _, _ => false

/-- No notification is sent again after a `vStopped` found it pending. -/
def NeverResent (journal : List NotifyEvent) : Prop :=
  journal.Pairwise fun earlier later => earlier.resendsAcknowledged later = false

instance (journal : List NotifyEvent) : Decidable (NeverResent journal) :=
  inferInstanceAs (Decidable (List.Pairwise _ _))

theorem neverResent_concat_iff {journal : List NotifyEvent} (never : NeverResent journal)
    (event : NotifyEvent) :
    NeverResent (journal ++ [event]) ↔
      ∀ notification, event.sent = some notification → .acknowledged notification ∉ journal := by
  rw [NeverResent, List.pairwise_append]
  constructor
  · rintro ⟨-, -, apart⟩ notification sent member
    have clash := apart _ member _ (List.mem_singleton_self _)
    simp [NotifyEvent.resendsAcknowledged, sent] at clash
  · intro unacknowledged
    refine ⟨never, List.pairwise_singleton _ _, fun earlier member later last => ?_⟩
    rw [List.mem_singleton.mp last]
    cases earlier with
    | acknowledged notification =>
        exact decide_eq_false fun sent => unacknowledged notification sent member
    | _ => rfl

theorem NeverResent.concat {journal : List NotifyEvent} (never : NeverResent journal)
    {event : NotifyEvent} (other : event.sent = none) : NeverResent (journal ++ [event]) :=
  (neverResent_concat_iff never event).mpr fun _ sent => nomatch other.symm.trans sent

namespace RspServer

/-- A task that fires for the pending notification finds it unacknowledged. -/
def FiresUnacknowledged (server : RspServer) : Input → Prop
  | .timeout index => ∀ task ∈ server.delayedTasks[index]?, ∀ pending ∈ server.pendingNotification,
      pending.address = task.pointer → .acknowledged pending ∉ server.journal
  | .bytesRead _ | .exception _ _ _ | .queueStopNotification _ _ | .inferior _ => True

theorem Outside.journal {allowed : Post → Prop} {before after : RspServer}
    (kept : Outside allowed before after) :
    after.journal = before.journal := by rw [kept.rest]

theorem neverResent_iff_fires {before after : RspServer} {index : Nat}
    (fires : Fires before index after) (never : NeverResent before.journal) :
    NeverResent after.journal ↔ FiresUnacknowledged before (.timeout index) := by
  cases fires with
  | missing none =>
      refine iff_of_true never fun task due => ?_
      rw [none] at due
      cases due
  | stale due other =>
      refine iff_of_true never fun task found pending busy same => ?_
      rw [due] at found
      cases found
      exact absurd same (other pending busy)
  | resends due busy same =>
      rw [neverResent_concat_iff never]
      constructor
      · intro unacknowledged task found pending current _
        rw [busy] at current
        cases current
        exact unacknowledged _ rfl
      · rintro allowed pending ⟨⟩
        exact allowed _ due _ busy same

/-- Notifications are told apart by their serial numbers, and one that waits in
the queue has not been acknowledged. -/
structure Numbered (server : RspServer) : Prop where
  distinct : ((server.pendingNotification.toList ++ server.notifyQueue).map (·.serial)).Nodup
  allocated : ∀ notification ∈ server.pendingNotification.toList ++ server.notifyQueue,
    notification.serial < server.allocations
  waiting : ∀ notification ∈ server.notifyQueue, .acknowledged notification ∉ server.journal
  past : ∀ notification, .acknowledged notification ∈ server.journal →
    notification.serial < server.allocations

theorem Numbered.outside {allowed : Post → Prop} {before after : RspServer}
    (numbered : Numbered before) (kept : Outside allowed before after) : Numbered after := by
  rw [kept.rest]
  exact ⟨numbered.distinct, numbered.allocated, numbered.waiting, numbered.past⟩

theorem Numbered.grown {env : Env} {server : RspServer} {notification : PendingNotification}
    {event : Bytes} {timeout : Nat} (numbered : Numbered server)
    (new : notification = newNotification env server kStopNotification event timeout) :
    ((server.pendingNotification.toList ++ (server.notifyQueue ++ [notification])).map
        (·.serial)).Nodup ∧
      (∀ other ∈ server.pendingNotification.toList ++ (server.notifyQueue ++ [notification]),
        other.serial < server.allocations + 1) ∧
      ∀ other ∈ server.notifyQueue ++ [notification], .acknowledged other ∉ server.journal := by
  have serial : notification.serial = server.allocations := by rw [new]; rfl
  refine ⟨?_, fun other member => ?_, fun other member => ?_⟩
  · rw [← List.append_assoc, List.map_append, List.nodup_append]
    refine ⟨numbered.distinct, by simp, fun first member second last same => ?_⟩
    obtain ⟨other, live, rfl⟩ := List.mem_map.mp member
    have below := numbered.allocated other live
    have equal : second = notification.serial := List.mem_singleton.mp last
    omega
  · rw [← List.append_assoc] at member
    rcases List.mem_append.mp member with old | last
    · exact Nat.lt_succ_of_lt (numbered.allocated other old)
    · rw [List.mem_singleton.mp last, serial]
      exact Nat.lt_succ_self _
  · rcases List.mem_append.mp member with old | last
    · exact numbered.waiting other old
    · rw [List.mem_singleton.mp last]
      intro acknowledged
      have below := numbered.past _ acknowledged
      rw [serial] at below
      exact Nat.lt_irrefl _ below

theorem acknowledged_mem_append {journal events : List NotifyEvent}
    {notification : PendingNotification}
    (others : ∀ notification, .acknowledged notification ∉ events) :
    .acknowledged notification ∈ journal ++ events ↔ .acknowledged notification ∈ journal := by
  rw [List.mem_append, or_iff_left (others notification)]

theorem Numbered.queues {env : Env} {allowed : Bytes → Prop} {before after : RspServer}
    (numbered : Numbered before) (queues : Queues env allowed before after) : Numbered after := by
  cases queues with
  | waits permitted busy new =>
      rename_i notification _ _
      obtain ⟨distinct, allocated, waiting⟩ := numbered.grown new
      have same {other : PendingNotification} := @acknowledged_mem_append before.journal
        [.queued notification] other (by simp)
      exact ⟨distinct, allocated, fun other member => mt same.mp (waiting other member),
        fun other member => Nat.lt_succ_of_lt (numbered.past other (same.mp member))⟩
  | notifies permitted free new first =>
      rename_i notification next rest _ _
      obtain ⟨distinct, allocated, waiting⟩ := numbered.grown new
      rw [free, first] at distinct allocated
      rw [first] at waiting
      have same {other : PendingNotification} := @acknowledged_mem_append before.journal
        [.queued notification, .notified next] other (by simp)
      exact ⟨distinct, allocated,
        fun other member => mt same.mp (waiting other (List.mem_cons_of_mem next member)),
        fun other member => Nat.lt_succ_of_lt (numbered.past other (same.mp member))⟩

theorem Numbered.acks {before after : RspServer} (numbered : Numbered before)
    (acks : Acks before after) : Numbered after := by
  have past {pending : PendingNotification} (busy : before.pendingNotification = some pending)
      {event : NotifyEvent} (quiet : ∀ other, event ≠ .acknowledged other)
      (other : PendingNotification)
      (acknowledged : .acknowledged other ∈ before.journal ++ [.acknowledged pending, event]) :
      other.serial < before.allocations := by
    rcases List.mem_append.mp acknowledged with old | new
    · exact numbered.past other old
    · rcases List.mem_cons.mp new with same | last
      · cases same
        exact numbered.allocated pending (by simp [busy])
      · exact absurd (List.mem_singleton.mp last).symm (quiet other)
  cases acks with
  | ignored free => exact numbered
  | answered busy first =>
      rename_i pending next rest
      have sub : (before.pendingNotification.toList ++ rest).Sublist
          (before.pendingNotification.toList ++ before.notifyQueue) := by
        rw [first]
        exact (List.Sublist.refl _).append (List.sublist_cons_self next rest)
      have apart : ∀ other ∈ rest, other ≠ pending := by
        have distinct := numbered.distinct.sublist (sub.map _)
        rw [busy] at distinct
        obtain ⟨fresh, -⟩ := List.nodup_cons.mp (List.map_cons ▸ distinct)
        exact fun other member same => fresh (List.mem_map.mpr ⟨other, member, by rw [same]⟩)
      refine ⟨numbered.distinct.sublist (sub.map _),
        fun other member => numbered.allocated other (sub.subset member),
        fun other member acknowledged => ?_, past busy nofun⟩
      have old := numbered.waiting other (first ▸ List.mem_cons_of_mem next member)
      have differ := apart other member
      simp_all
  | drained busy empty =>
      refine ⟨?_, ?_, ?_, past busy nofun⟩
      · rw [empty]
        exact List.nodup_nil
      · rw [empty]
        exact nofun
      · rw [empty]
        exact nofun

theorem Numbered.fires {before after : RspServer} {index : Nat} (numbered : Numbered before)
    (fires : Fires before index after) : Numbered after := by
  cases fires with
  | missing none => exact numbered
  | stale due other =>
      exact ⟨numbered.distinct, numbered.allocated, numbered.waiting, numbered.past⟩
  | resends due busy same =>
      rename_i task pending
      have same {other : PendingNotification} := @acknowledged_mem_append before.journal
        [.resent task pending] other (by simp)
      exact ⟨numbered.distinct, numbered.allocated,
        fun other member => mt same.mp (numbered.waiting other member),
        fun other member => numbered.past other (same.mp member)⟩

theorem handle_numbered (env : Env) (server : RspServer) (input : Input)
    (numbered : Numbered server) : Numbered (handle env input server).2 := by
  cases handle_touches env input server with
  | nothing quiet kept => exact numbered.outside kept
  | queues may head queued tail => exact ((numbered.outside head).queues queued).outside tail
  | acks head acked tail => exact ((numbered.outside head).acks acked).outside tail
  | fires fired => exact numbered.fires fired

theorem neverResent_queues {env : Env} {allowed : Bytes → Prop} {before after : RspServer}
    (never : NeverResent before.journal) (numbered : Numbered before)
    (queues : Queues env allowed before after) : NeverResent after.journal := by
  cases queues with
  | waits permitted busy new => exact never.concat rfl
  | notifies permitted free new first =>
      rename_i notification next rest _ _
      obtain ⟨-, -, waiting⟩ := numbered.grown new
      rw [first] at waiting
      have split : before.journal ++ [.queued notification, .notified next] =
          before.journal ++ [.queued notification] ++ [.notified next] := by simp
      rw [split, neverResent_concat_iff (never.concat rfl)]
      rintro other ⟨⟩
      rw [acknowledged_mem_append (by simp)]
      exact waiting next List.mem_cons_self

theorem neverResent_acks {before after : RspServer} (never : NeverResent before.journal)
    (acks : Acks before after) : NeverResent after.journal := by
  have twice (first second : NotifyEvent) (quiet : first.sent = none) (also : second.sent = none) :
      NeverResent (before.journal ++ [first, second]) := by
    rw [show before.journal ++ [first, second] = before.journal ++ [first] ++ [second] by simp]
    exact (never.concat quiet).concat also
  cases acks with
  | ignored free => exact never
  | answered busy first => exact twice _ _ rfl rfl
  | drained busy empty => exact twice _ _ rfl rfl

theorem handle_neverResent_iff (env : Env) (server : RspServer) (input : Input)
    (numbered : Numbered server) (never : NeverResent server.journal) :
    NeverResent (handle env input server).2.journal ↔ FiresUnacknowledged server input := by
  have touches := handle_touches env input server
  generalize (handle env input server).2 = after at touches
  have trivially (quiet : ∀ index, input ≠ .timeout index) : FiresUnacknowledged server input := by
    cases input with
    | timeout index => exact absurd rfl (quiet index)
    | _ => trivial
  cases touches with
  | nothing quiet kept => exact iff_of_true (kept.journal ▸ never) (trivially quiet)
  | queues may head queued tail =>
      refine iff_of_true ?_ (trivially fun index same => ?_)
      · rw [tail.journal]
        rw [← head.journal] at never
        exact neverResent_queues never (numbered.outside head) queued
      · rw [same] at may
        cases may
  | acks head acked tail =>
      refine iff_of_true ?_ (trivially fun _ => nofun)
      rw [tail.journal]
      rw [← head.journal] at never
      exact neverResent_acks never acked
  | fires fired => exact neverResent_iff_fires fired never

/-- No acknowledged notification is re-sent in any state of a run exactly if
every task that fires for the pending notification finds it unacknowledged. -/
theorem run_neverResent_iff (env : Env) (core : Server) (inputs : List Input) :
    (∀ before, before <+: inputs →
      NeverResent (run (handle env) before (idle core)).2.journal) ↔
      Along (handle env) FiresUnacknowledged (idle core) inputs := by
  have numbered : Numbered (idle core) := ⟨List.nodup_nil, nofun, nofun, nofun⟩
  exact run_prefixes_iff_along (handle_numbered env) (handle_neverResent_iff env) inputs (idle core)
    numbered List.Pairwise.nil

/-- Two events, one `vStopped`, and then the timeout of the first. -/
def lateTimeout : List Input :=
  [.queueStopNotification (ascii "T05") 30, .queueStopNotification (ascii "W00") 30,
    .bytesRead (ascii "$vStopped#55"), .timeout 0]

/-- The first event is notified again in the middle of the drain loop. -/
theorem lateTimeout_resends :
    (run (handle Debugserver.obliging) lateTimeout
      (Debugserver.newRspServer Debugserver.program)).2.core.posted =
        [.write true (ascii "Stop:T05"), .ack true, .write false (ascii "W00"),
          .write true (ascii "Stop:T05")] ∧
    ¬ NeverResent (run (handle Debugserver.obliging) lateTimeout
      (Debugserver.newRspServer Debugserver.program)).2.journal := by
  decide +kernel

/-! ## Reused addresses -/

/-- The armed tasks that would re-send a notification. -/
def tasksFor (tasks : List TimeoutTask) (notification : PendingNotification) : List TimeoutTask :=
  tasks.filter fun task => task.pointer = notification.address

/-- Tasks have acted for the notification they were armed for only, and at most
one armed task would re-send the pending notification. -/
structure ActsForOwn (server : RspServer) : Prop where
  resent : ∀ task notification, .resent task notification ∈ server.journal →
    task.armedFor = notification.serial
  single : ∀ pending ∈ server.pendingNotification,
    (tasksFor server.delayedTasks pending).length ≤ 1

/-- A notification that becomes pending does not live where an armed task points to. -/
def NotifiesAway (before after : RspServer) : Prop :=
  before.pendingNotification = none → ∀ pending ∈ after.pendingNotification,
    pending.address ∉ before.delayedTasks.map (·.pointer)

instance (before after : RspServer) : Decidable (NotifiesAway before after) :=
  inferInstanceAs (Decidable (_ → _))

/-- The task of the pending notification is armed until nothing is pending. -/
def Armed (server : RspServer) : Prop :=
  ∀ pending ∈ server.pendingNotification, TimeoutTask.for pending ∈ server.delayedTasks

theorem mem_eraseIdx_of_ne {tasks : List TimeoutTask} {task fired : TimeoutTask} {index : Nat}
    (armed : task ∈ tasks) (due : tasks[index]? = some fired) (other : task ≠ fired) :
    task ∈ tasks.eraseIdx index := by
  obtain ⟨inside, rfl⟩ := List.getElem?_eq_some_iff.mp due
  have either := (List.getElem_cons_eraseIdx_perm inside).mem_iff.mpr armed
  exact (List.mem_cons.mp either).resolve_left other

theorem handle_armed (env : Env) (server : RspServer) (input : Input) (armed : Armed server) :
    Armed (handle env input server).2 := by
  have outside {allowed : Post → Prop} {before after : RspServer} (armed : Armed before)
      (kept : Outside allowed before after) : Armed after := by
    rw [kept.rest]
    exact armed
  have touches := handle_touches env input server
  generalize (handle env input server).2 = after at touches ⊢
  cases touches with
  | nothing quiet kept => exact outside armed kept
  | queues may head queued tail =>
      refine outside ?_ tail
      have started := outside armed head
      cases queued with
      | waits permitted busy new => exact started
      | notifies permitted free new first =>
          rintro pending ⟨⟩
          exact List.mem_append_right _ (List.mem_singleton_self _)
  | acks head acked tail =>
      refine outside ?_ tail
      have started := outside armed head
      cases acked with
      | ignored free => exact started
      | answered busy first => exact started
      | drained busy empty => exact nofun
  | fires fired =>
      intro pending busy
      cases fired with
      | missing none => exact armed pending busy
      | stale due other =>
          refine mem_eraseIdx_of_ne (armed pending busy) due ?_
          rintro rfl
          exact other pending busy rfl
      | resends due found same =>
          cases found.symm.trans busy
          exact List.mem_append_right _ (List.mem_singleton_self _)

theorem resent_append {server : RspServer} {events : List NotifyEvent} (own : ActsForOwn server)
    (others : ∀ event ∈ events, ∀ task notification, event ≠ .resent task notification)
    (task : TimeoutTask) (notification : PendingNotification)
    (member : .resent task notification ∈ server.journal ++ events) :
    task.armedFor = notification.serial := by
  rcases List.mem_append.mp member with old | new
  · exact own.resent task notification old
  · exact absurd rfl (others _ new task notification)

theorem tasksFor_eq_nil_iff {tasks : List TimeoutTask} {notification : PendingNotification} :
    tasksFor tasks notification = [] ↔ notification.address ∉ tasks.map (·.pointer) := by
  rw [tasksFor, List.filter_eq_nil_iff]
  simp

/-- Arming a task leaves one for the notification exactly if there was none. -/
theorem single_arm_iff {tasks : List TimeoutTask} {pending : PendingNotification} :
    (tasksFor (tasks ++ [TimeoutTask.for pending]) pending).length ≤ 1 ↔
      tasksFor tasks pending = [] := by
  have armed : tasksFor [TimeoutTask.for pending] pending = [TimeoutTask.for pending] :=
    List.filter_cons_of_pos (decide_eq_true rfl)
  rw [tasksFor] at armed ⊢
  rw [List.filter_append, armed, List.length_append, List.length_singleton, tasksFor,
    ← List.length_eq_zero_iff]
  omega

theorem tasksFor_eraseIdx {tasks : List TimeoutTask} {notification : PendingNotification}
    {index : Nat} {task : TimeoutTask} (single : (tasksFor tasks notification).length ≤ 1)
    (due : tasks[index]? = some task) (same : notification.address = task.pointer) :
    tasksFor (tasks.eraseIdx index) notification = [] := by
  obtain ⟨inside, found⟩ := List.getElem?_eq_some_iff.mp due
  have whole := ((List.getElem_cons_eraseIdx_perm inside).filter
    fun task => task.pointer = notification.address).length_eq
  have hit : decide (task.pointer = notification.address) = true := decide_eq_true same.symm
  rw [found, List.filter_cons, if_pos hit, List.length_cons] at whole
  rw [tasksFor] at single ⊢
  exact List.eq_nil_of_length_eq_zero (by omega)

theorem actsForOwn_queues_iff {env : Env} {allowed : Bytes → Prop} {before after : RspServer}
    (own : ActsForOwn before) (queues : Queues env allowed before after) :
    ActsForOwn after ↔ NotifiesAway before after := by
  cases queues with
  | waits permitted busy new =>
      refine iff_of_true ⟨resent_append own (by simp), own.single⟩ ?_
      intro free
      cases busy.symm.trans free
  | notifies permitted free new first =>
      rename_i next rest _ _
      constructor
      · rintro after - pending ⟨⟩
        exact tasksFor_eq_nil_iff.mp (single_arm_iff.mp (after.single next rfl))
      · intro away
        refine ⟨resent_append own (by simp), ?_⟩
        rintro pending ⟨⟩
        exact single_arm_iff.mpr (tasksFor_eq_nil_iff.mpr (away free next rfl))

theorem ActsForOwn.acks {before after : RspServer} (own : ActsForOwn before)
    (acks : Acks before after) : ActsForOwn after := by
  cases acks with
  | ignored free => exact own
  | answered busy first => exact ⟨resent_append own (by simp), own.single⟩
  | drained busy empty => exact ⟨resent_append own (by simp), nofun⟩

theorem ActsForOwn.fires {before after : RspServer} {index : Nat} (own : ActsForOwn before)
    (armed : Armed before) (fires : Fires before index after) : ActsForOwn after := by
  cases fires with
  | missing none => exact own
  | stale due other =>
      refine ⟨own.resent, fun pending busy => ?_⟩
      exact ((List.eraseIdx_sublist _ _).filter _).length_le.trans (own.single pending busy)
  | resends due busy same =>
      rename_i task pending
      have alone := tasksFor_eraseIdx (own.single pending busy) due same
      -- the task that fired is the one that is armed for this notification
      have isOwn : TimeoutTask.for pending = task := by
        by_contra other
        have left := mem_eraseIdx_of_ne (armed pending busy) due other
        exact tasksFor_eq_nil_iff.mp alone (List.mem_map.mpr ⟨_, left, rfl⟩)
      constructor
      · intro fired notification resent
        rcases List.mem_append.mp resent with old | last
        · exact own.resent fired notification old
        · cases List.mem_singleton.mp last
          rw [← isOwn]
          rfl
      · intro current found
        cases busy.symm.trans found
        exact single_arm_iff.mpr alone

theorem handle_actsForOwn_iff (env : Env) (server : RspServer) (input : Input)
    (armed : Armed server) (own : ActsForOwn server) :
    ActsForOwn (handle env input server).2 ↔ NotifiesAway server (handle env input server).2 := by
  have outside {allowed : Post → Prop} {before after : RspServer}
      (kept : Outside allowed before after) : ActsForOwn after ↔ ActsForOwn before := by
    rw [kept.rest]
    exact ⟨fun own => ⟨own.resent, own.single⟩, fun own => ⟨own.resent, own.single⟩⟩
  have touches := handle_touches env input server
  generalize (handle env input server).2 = after at touches ⊢
  -- where nothing becomes pending the condition asks for nothing
  cases touches with
  | nothing quiet kept =>
      refine iff_of_true ((outside kept).mpr own) fun free pending found => ?_
      rw [kept.rest] at found
      cases free.symm.trans found
  | queues may head queued tail =>
      have step := actsForOwn_queues_iff ((outside head).mpr own) queued
      rw [outside tail, step, tail.rest, head.rest]
      rfl
  | acks head acked tail =>
      refine iff_of_true ((outside tail).mpr (((outside head).mpr own).acks acked)) ?_
      intro free pending found
      rw [tail.rest] at found
      rw [head.rest] at acked
      cases acked with
      | ignored => cases free.symm.trans found
      | answered busy first => cases free.symm.trans busy
      | drained busy empty => cases found
  | fires fired =>
      refine iff_of_true (own.fires armed fired) fun free pending found => ?_
      cases fired with
      | missing none => cases free.symm.trans found
      | stale due other => cases free.symm.trans found
      | resends due busy same => cases free.symm.trans busy

/-- In every state of a run tasks act for their own notification only, exactly if no
notification becomes pending at an address that an armed task holds. -/
theorem run_actsForOwn_iff (env : Env) (core : Server) (inputs : List Input) :
    (∀ before, before <+: inputs → ActsForOwn (run (handle env) before (idle core)).2) ↔
      Along (handle env) (fun server input => NotifiesAway server (handle env input server).2)
        (idle core) inputs :=
  run_prefixes_iff_along (handle_armed env) (handle_actsForOwn_iff env) inputs (idle core) nofun
    ⟨nofun, nofun⟩

/-- One event is drained, another one is queued, and then the first timeout. -/
def reusedAddress : List Input :=
  [.queueStopNotification (ascii "T05") 30, .bytesRead (ascii "$vStopped#55"),
    .queueStopNotification (ascii "W00") 30, .timeout 0]

/-- The second notification lives at the address of the first, and the task of
the first re-sends it. -/
theorem reusedAddress_resends :
    ¬ ActsForOwn (run (handle Debugserver.obliging) reusedAddress
      (idle (Debugserver.newServer Debugserver.program))).2 := by
  intro own
  have resent : .resent ⟨1, 0, 30⟩ ⟨ascii "Stop", ascii "W00", 30, 1, 1⟩ ∈
      (run (handle Debugserver.obliging) reusedAddress
        (idle (Debugserver.newServer Debugserver.program))).2.journal := by decide +kernel
  exact absurd (own.resent _ _ resent) (by decide)

end RspServer

end Gdbserver
