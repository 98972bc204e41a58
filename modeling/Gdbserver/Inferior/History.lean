import Gdbserver.Inferior.LifecycleProperties

/-!
# The history of a process

The recorded events without the requests to run threads: what happened to the
process itself. An operation is summarised by the members it leaves behind and
what it adds to the history, whatever threads it ran and whatever it posted.
-/

set_option autoImplicit false

namespace Gdbserver

open Logic Prog Frame

def history (events : List Event) : List Event := events.filter fun event => !event.isRequest

@[simp] theorem history_nil : history [] = [] := rfl

@[simp] theorem history_append (events more : List Event) :
    history (events ++ more) = history events ++ history more := List.filter_append ..

theorem history_of_requests {events : List Event} (each : ∀ event ∈ events, event.isRequest) :
    history events = [] := by
  rw [history, List.filter_eq_nil_iff]
  intro event member
  rw [each event member]
  exact Bool.false_ne_true

def Event.breaks (concerned : Check → Bool) : Event → Bool
  | .violated check => concerned check
  | .moved _ _ | .resume _ | .step _ => false

/-- None of the assertions concerned has failed. -/
def intact (concerned : Check → Bool) (events : List Event) : Bool :=
  events.all fun event => !event.breaks concerned

section Intact

variable (concerned : Check → Bool)

@[simp] theorem intact_append (events more : List Event) :
    intact concerned (events ++ more) = (intact concerned events && intact concerned more) :=
  List.all_append

theorem intact_asserted (check : Check) (condition : Bool) :
    intact concerned (asserted check condition) = (condition || !concerned check) := by
  cases condition with
  | true => rfl
  | false => exact Bool.and_true _

theorem intact_history (events : List Event) :
    intact concerned (history events) = intact concerned events := by
  induction events with
  | nil => rfl
  | cons event rest ih =>
      cases event with
      | violated check =>
          change intact concerned (.violated check :: history rest) = _
          simp only [intact, List.all_cons] at ih ⊢
          rw [ih]
      | moved before after => exact ih
      | resume tid => exact ih
      | step tid => exact ih

theorem intact_of_requests {events : List Event} (each : ∀ event ∈ events, event.isRequest) :
    intact concerned events = true := by
  rw [← intact_history, history_of_requests each]
  rfl

end Intact

structure Lands (before after : Server) (last : Lifecycle) (events : List Event) : Prop where
  hasProcess : after.hasProcess = before.hasProcess
  lifecycle : after.process.lifecycle = last
  history : history after.log = history before.log ++ history events

theorem Moves.lands {before after : Server} {last : Lifecycle} {events : List Event}
    (moved : Moves before after last events) : Lands before after last events :=
  ⟨moved.hasProcess, moved.lifecycle, by rw [moved.log, history_append]⟩

theorem Still.lands {before after : Server} (kept : Still before after) :
    Lands before after before.process.lifecycle [] := by
  obtain ⟨requests, logged, each⟩ := kept.log
  exact ⟨kept.hasProcess, kept.lifecycle, by
    rw [logged, history_append, history_of_requests each, history_nil]⟩

theorem Lands.trans {before middle after : Server} {lifecycle last : Lifecycle}
    {events more : List Event} (first : Lands before middle lifecycle events)
    (second : Lands middle after last more) : Lands before after last (events ++ more) :=
  ⟨second.hasProcess.trans first.hasProcess, second.lifecycle,
    by rw [second.history, first.history, history_append, List.append_assoc]⟩

/-- Nothing happened to the process. -/
def settled : Frame Server where
  rel before after := Lands before after before.process.lifecycle []
  refl server := (Moves.rest server).lands
  trans first second := by
    have both := first.trans second
    rwa [first.lifecycle] at both

theorem Lands.after {before middle after : Server} {last : Lifecycle} {events : List Event}
    (first : settled.rel before middle) (second : Lands middle after last events) :
    Lands before after last events := first.trans second

theorem Lands.before {before middle after : Server} {last : Lifecycle} {events : List Event}
    (first : Lands before middle last events) (second : settled.rel middle after) :
    Lands before after last events := by
  have both := first.trans second
  rwa [first.lifecycle, List.append_nil] at both

/-- The moves of `state_` that are meant to happen. -/
def ProcessState.mayBecome : ProcessState → ProcessState → Bool
  | .gone, .new | .new, .starting | .new, .running | .starting, .running | _, .gone => true
  | _, _ => false

/-- Follow the recorded moves from a state; `none` once one of them starts
somewhere else or is not meant to happen. -/
def replay : ProcessState → List Event → Option ProcessState
  | state, [] => some state
  | state, .moved before after :: rest =>
      if before = state ∧ before.mayBecome after then replay after rest else none
  | state, .violated _ :: rest | state, .resume _ :: rest | state, .step _ :: rest =>
      replay state rest

theorem replay_append (events more : List Event) (state : ProcessState) :
    replay state (events ++ more) = (replay state events).bind fun reached => replay reached more := by
  induction events generalizing state with
  | nil => rfl
  | cons event rest ih =>
      cases event with
      | moved before after =>
          simp only [List.cons_append, replay]
          split
          · exact ih after
          · rfl
      | violated check => exact ih state
      | resume tid => exact ih state
      | step tid => exact ih state

theorem replay_history (events : List Event) (state : ProcessState) :
    replay state (history events) = replay state events := by
  induction events generalizing state with
  | nil => rfl
  | cons event rest ih =>
      cases event with
      | moved before after =>
          change replay state (.moved before after :: history rest) = _
          simp only [replay, ih]
      | violated check => exact ih state
      | resume tid => exact ih state
      | step tid => exact ih state

theorem replay_asserted (check : Check) (condition : Bool) (state : ProcessState) :
    replay state (asserted check condition) = some state := by
  cases condition <;> rfl

theorem replay_asserted_append (check : Check) (condition : Bool) (events : List Event)
    (state : ProcessState) :
    replay state (asserted check condition ++ events) = replay state events := by
  rw [replay_append, replay_asserted, Option.bind_some]

theorem replay_gone_cons (state : ProcessState) (rest : List Event) :
    replay state (.moved state .gone :: rest) = replay .gone rest := by
  cases state <;> rfl

theorem replay_gone (state : ProcessState) : replay state [.moved state .gone] = some .gone :=
  replay_gone_cons state []

end Gdbserver
