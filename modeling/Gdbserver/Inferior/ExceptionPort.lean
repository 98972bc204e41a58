import Gdbserver.Inferior.Process
import Gdbserver.Logic.Runs
import Mathlib.Data.List.Induction
import Mathlib.Data.List.Nodup

/-!
# The exception port

`exception-port.cc` with its callbacks. Packets wait in the message loop of the
main thread while keys are bound and unbound; what keeps them from reaching the
wrong callback is that no key is ever handed out twice. The history is not in
the source. It is written by the caller of the port and has what the calls returned.
-/

set_option autoImplicit false

namespace Gdbserver

open Logic Prog

structure BindData (Callback : Type) where
  processHandle : Handle
  callback : Callback

/-- The part of `mx_exception_packet_t` that is read. -/
structure ExceptionPacket where
  key : UInt64
  type : ExceptionType
  context : ExceptionContext
  deriving DecidableEq

/-- A call of `Bind` with the key it returned, a call of `Unbind`, or a task that has run
with the callback it invoked. -/
inductive PortEvent (Callback : Type) where
  | bind (callback : Callback) (key : UInt64)
  | unbind (key : UInt64)
  | dispatched (packet : ExceptionPacket) (invoked : Option Callback)
  deriving DecidableEq

/-- `g_key_counter`, `callbacks_` and the handler tasks that have been posted. -/
structure CallbackPort (Callback : Type) where
  keyCounter : UInt64
  callbacks : UInt64 → Option (BindData Callback)
  tasks : List ExceptionPacket
  history : List (PortEvent Callback)

namespace CallbackPort

variable {Callback : Type}

/-- A port that has just been created. The counter is a static member. -/
def create (keyCounter : UInt64) : CallbackPort Callback := ⟨keyCounter, fun _ => none, [], []⟩

/-- `Bind`; `status` is what `mx_task_bind_exception_port` returns, 0 is failure. -/
def bind (status : Status) (processHandle : Handle) (callback : Callback) :
    Prog (CallbackPort Callback) UInt64 := do
  let nextKey ← read fun port => port.keyCounter + 1
  if nextKey = 0 then pure 0
  else if status < 0 then pure 0
  else do
    modify fun port =>
      { port with
        callbacks := Function.update port.callbacks nextKey (some ⟨processHandle, callback⟩) }
    modify fun port => { port with keyCounter := port.keyCounter + 1 }
    pure nextKey

/-- `Unbind`; the kernel's answer is ignored. -/
def unbind (key : UInt64) : Prog (CallbackPort Callback) Bool := do
  match ← read fun port => port.callbacks key with
  | none => pure false
  | some _ => do
      modify fun port => { port with callbacks := Function.update port.callbacks key none }
      pure true

/-- `Worker` has received a packet: its handling is left to the main thread. -/
def postTask (packet : ExceptionPacket) : Prog (CallbackPort Callback) Unit :=
  modify fun port => { port with tasks := port.tasks ++ [packet] }

/-- The task: the key is looked up when it runs, not when it was posted. What is
returned is the callback that is invoked. -/
def handlePacket (packet : ExceptionPacket) : Prog (CallbackPort Callback) (Option Callback) := do
  match ← read fun port => port.callbacks packet.key with
  | none => pure none
  | some data => pure (some data.callback)

def note (event : PortEvent Callback) : Prog (CallbackPort Callback) Unit :=
  modify fun port => { port with history := port.history ++ [event] }

/-- The message loop runs the task that was posted first. -/
def runTask : Prog (CallbackPort Callback) Unit := do
  match ← read fun port => port.tasks with
  | [] => pure ()
  | packet :: rest => do
      modify fun port => { port with tasks := rest }
      let invoked ← handlePacket packet
      note (.dispatched packet invoked)

inductive PortCall (Callback : Type) where
  | bind (status : Status) (processHandle : Handle) (callback : Callback)
  | unbind (key : UInt64)
  | packet (packet : ExceptionPacket)
  | dispatch

def perform : PortCall Callback → Prog (CallbackPort Callback) Unit
  | .bind status processHandle callback => do
      let key ← bind status processHandle callback
      note (.bind callback key)
  | .unbind key => do
      let _ ← unbind key
      note (.unbind key)
  | .packet packet => postTask packet
  | .dispatch => runTask

/-- The keys that `Bind` has returned, each with the callback it was given; 0 is no key. -/
def issued (history : List (PortEvent Callback)) : List (UInt64 × Callback) :=
  history.filterMap fun
    | .bind callback key => if key = 0 then none else some (key, callback)
    | .unbind _ | .dispatched _ _ => none

/-- What a key is bound to after these calls. -/
def boundTo (history : List (PortEvent Callback)) (key : UInt64) : Option Callback :=
  history.foldl (fun current event => match event with
    | .bind callback other => if other ≠ 0 ∧ other = key then some callback else current
    | .unbind other => if other = key then none else current
    | .dispatched _ _ => current) none

section Histories

variable (history : List (PortEvent Callback)) (key : UInt64)

@[simp] theorem boundTo_bind (other : UInt64) (callback : Callback) :
    boundTo (history ++ [.bind callback other]) key =
      if other ≠ 0 ∧ other = key then some callback else boundTo history key := by
  rw [boundTo, List.foldl_append]
  rfl

@[simp] theorem boundTo_unbind (other : UInt64) :
    boundTo (history ++ [.unbind other]) key =
      if other = key then none else boundTo history key := by
  rw [boundTo, List.foldl_append]
  rfl

@[simp] theorem boundTo_dispatched (packet : ExceptionPacket) (invoked : Option Callback) :
    boundTo (history ++ [.dispatched packet invoked]) key = boundTo history key := by
  rw [boundTo, List.foldl_append]
  rfl

@[simp] theorem issued_append (more : List (PortEvent Callback)) :
    issued (history ++ more) = issued history ++ issued more := List.filterMap_append

/-- A key is bound to the callback it was issued for. -/
theorem issued_of_boundTo {callback : Callback} (bound : boundTo history key = some callback) :
    (key, callback) ∈ issued history := by
  induction history using List.reverseRecOn with
  | nil => exact absurd bound nofun
  | append_singleton earlier event ih =>
      rw [issued_append, List.mem_append]
      cases event with
      | bind given other =>
          rw [boundTo_bind] at bound
          split at bound
          · rename_i both
            obtain ⟨isKey, rfl⟩ := both
            cases bound
            exact Or.inr (by simp [issued, isKey])
          · exact Or.inl (ih bound)
      | unbind other =>
          rw [boundTo_unbind] at bound
          split at bound
          · exact absurd bound nofun
          · exact Or.inl (ih bound)
      | dispatched packet invoked => exact Or.inl (ih (by rwa [boundTo_dispatched] at bound))

end Histories

/-- The table agrees with the history, and no key is beyond the counter. -/
structure Sound (port : CallbackPort Callback) : Prop where
  table : ∀ key, (port.callbacks key).map (·.callback) = boundTo port.history key
  issuedBelow : ∀ entry ∈ issued port.history, entry.1.toNat ≤ port.keyCounter.toNat
  distinct : ((issued port.history).map Prod.fst).Nodup

theorem create_sound (keyCounter : UInt64) : (create keyCounter : CallbackPort Callback).Sound :=
  ⟨fun _ => rfl, fun _ member => absurd member List.not_mem_nil, List.nodup_nil⟩

/-- The three ends of `Bind`. -/
theorem bind_spec (status : Status) (processHandle : Handle) (callback : Callback)
    (port : CallbackPort Callback) :
    bind status processHandle callback port =
      if port.keyCounter + 1 = 0 ∨ status < 0 then (some 0, port)
      else (some (port.keyCounter + 1),
        { port with
          callbacks := Function.update port.callbacks (port.keyCounter + 1)
            (some ⟨processHandle, callback⟩)
          keyCounter := port.keyCounter + 1 }) := by
  rw [bind, read_bind]
  by_cases wrapped : port.keyCounter + 1 = 0
  · rw [if_pos wrapped, if_pos (Or.inl wrapped)]
    rfl
  · by_cases refused : status < 0
    · rw [if_neg wrapped, if_pos refused, if_pos (Or.inr refused)]
      rfl
    · rw [if_neg wrapped, if_neg refused, if_neg (not_or.mpr ⟨wrapped, refused⟩)]
      rfl

/-- A key that is not there can be erased, too. -/
theorem unbind_spec (key : UInt64) (port : CallbackPort Callback) :
    unbind key port = (some (port.callbacks key).isSome,
      { port with callbacks := Function.update port.callbacks key none }) := by
  rw [unbind, read_bind]
  cases found : port.callbacks key with
  | none =>
      have kept : Function.update port.callbacks key none = port.callbacks := by
        rw [← found, Function.update_eq_self]
      rw [kept]
      rfl
  | some data => rfl

theorem toNat_nextKey {counter : UInt64} (unwrapped : counter + 1 ≠ 0) :
    (counter + 1).toNat = counter.toNat + 1 := by
  have bound := counter.toNat_lt
  have sum : (counter + 1).toNat = (counter.toNat + 1) % 2 ^ 64 := UInt64.toNat_add counter 1
  by_cases last : counter.toNat + 1 = 2 ^ 64
  · refine absurd (UInt64.toNat_inj.mp ?_) unwrapped
    rw [sum, last]
    rfl
  · rw [sum, Nat.mod_eq_of_lt (by omega)]

/-- An event that issues no key. -/
theorem Sound.noted {port after : CallbackPort Callback} {event : PortEvent Callback}
    (sound : port.Sound) (history : after.history = port.history ++ [event])
    (counter : after.keyCounter = port.keyCounter) (silent : issued [event] = [])
    (table : ∀ key, (after.callbacks key).map (·.callback) =
      boundTo (port.history ++ [event]) key) : after.Sound := by
  have same : issued after.history = issued port.history := by
    rw [history, issued_append, silent, List.append_nil]
  refine ⟨history ▸ table, ?_, ?_⟩
  · rw [same, counter]
    exact sound.issuedBelow
  · rw [same]
    exact sound.distinct

/-- The next key has not been issued before. -/
theorem Sound.bound {port : CallbackPort Callback} (sound : port.Sound)
    (unwrapped : port.keyCounter + 1 ≠ 0) (data : BindData Callback) :
    Sound
      { port with
        callbacks := Function.update port.callbacks (port.keyCounter + 1) (some data)
        keyCounter := port.keyCounter + 1
        history := port.history ++ [.bind data.callback (port.keyCounter + 1)] } := by
  have next := toNat_nextKey unwrapped
  have new : issued (port.history ++ [.bind data.callback (port.keyCounter + 1)]) =
      issued port.history ++ [(port.keyCounter + 1, data.callback)] := by
    rw [issued_append]
    simp [issued, unwrapped]
  refine ⟨fun key => ?_, fun entry inside => ?_, ?_⟩
  · change (Function.update port.callbacks (port.keyCounter + 1) _ key).map _ = _
    rw [boundTo_bind]
    by_cases same : port.keyCounter + 1 = key
    · rw [if_pos ⟨unwrapped, same⟩, same, Function.update_self]
      rfl
    · rw [if_neg (fun both => same both.2), Function.update_of_ne (Ne.symm same)]
      exact sound.table key
  · change entry.1.toNat ≤ (port.keyCounter + 1).toNat
    rw [new, List.mem_append, List.mem_singleton] at inside
    rcases inside with earlier | rfl
    · have below := sound.issuedBelow entry earlier
      omega
    · exact Nat.le_refl _
  · rw [new, List.map_append, List.nodup_append]
    refine ⟨sound.distinct, List.nodup_singleton _, ?_⟩
    intro key earlier other last same
    obtain ⟨entry, inside, rfl⟩ := List.mem_map.mp earlier
    have below := sound.issuedBelow entry inside
    have last : other = port.keyCounter + 1 := List.mem_singleton.mp last
    rw [same, last] at below
    omega

theorem perform_bind_sound (status : Status) (processHandle : Handle) (callback : Callback)
    {port : CallbackPort Callback} (sound : port.Sound) :
    (perform (.bind status processHandle callback) port).2.Sound := by
  have ran := bind_spec status processHandle callback port
  rw [perform]
  split at ran
  · -- the caller notes that it got no key
    rw [bind_of_some ran]
    refine sound.noted rfl rfl rfl fun key => ?_
    rw [boundTo_bind, if_neg (fun both => both.1 rfl)]
    exact sound.table key
  · rename_i bound
    rw [bind_of_some ran]
    exact sound.bound (not_or.mp bound).1 ⟨processHandle, callback⟩

theorem perform_unbind_sound (key : UInt64) {port : CallbackPort Callback} (sound : port.Sound) :
    (perform (.unbind key) port).2.Sound := by
  rw [perform, bind_of_some (unbind_spec key port)]
  refine sound.noted rfl rfl rfl fun other => ?_
  change (Function.update port.callbacks key _ other).map _ = _
  rw [boundTo_unbind]
  by_cases same : key = other
  · rw [if_pos same, same, Function.update_self]
    rfl
  · rw [if_neg same, Function.update_of_ne (Ne.symm same)]
    exact sound.table other

/-- The task sees the bindings there are when it runs. -/
theorem runTask_spec {port : CallbackPort Callback} (sound : port.Sound)
    {packet : ExceptionPacket} {rest : List ExceptionPacket} (waiting : port.tasks = packet :: rest) :
    (runTask port).2 =
      { port with
        tasks := rest
        history := port.history ++ [.dispatched packet (boundTo port.history packet.key)] } := by
  have agrees := sound.table packet.key
  simp only [runTask, read_bind, waiting, modify_bind, handlePacket, bind_assoc_apply]
  rw [← agrees]
  cases port.callbacks packet.key with
  | none => rfl
  | some data => rfl

theorem runTask_sound {port : CallbackPort Callback} (sound : port.Sound) :
    (runTask port).2.Sound := by
  cases waiting : port.tasks with
  | nil =>
      have idle : (runTask port).2 = port := by
        rw [runTask, read_bind, waiting]
        rfl
      rw [idle]
      exact sound
  | cons packet rest =>
      rw [runTask_spec sound waiting]
      refine sound.noted rfl rfl rfl fun key => ?_
      rw [boundTo_dispatched]
      exact sound.table key

theorem perform_sound (port : CallbackPort Callback) (call : PortCall Callback)
    (sound : port.Sound) : (perform call port).2.Sound := by
  cases call with
  | bind status processHandle callback =>
      exact perform_bind_sound status processHandle callback sound
  | unbind key => exact perform_unbind_sound key sound
  | packet packet => exact ⟨sound.table, sound.issuedBelow, sound.distinct⟩
  | dispatch => exact runTask_sound sound

/-- Over every run: `Bind` returns a key unless the counter wraps or the kernel refuses, and
then it changes nothing; the keys that it has returned are distinct. The first packet in the
queue invokes the callback that its key is bound to by the calls so far, which is the one
given to the `Bind` that returned the key, and none if the key is not bound. -/
theorem run_delivers (keyCounter : UInt64) (calls : List (PortCall Callback)) :
    let port := (run perform calls (create keyCounter)).2
    (∀ status processHandle callback, ∃ key,
        (bind status processHandle callback port).1 = some key ∧
        (key = 0 ↔ port.keyCounter + 1 = 0 ∨ status < 0) ∧
        (key = 0 → (bind status processHandle callback port).2 = port)) ∧
      ((issued port.history).map Prod.fst).Nodup ∧
      (∀ packet rest, port.tasks = packet :: rest →
        (perform .dispatch port).2.tasks = rest ∧
        (perform .dispatch port).2.history =
          port.history ++ [.dispatched packet (boundTo port.history packet.key)]) ∧
      ∀ key callback, boundTo port.history key = some callback →
        (key, callback) ∈ issued port.history := by
  intro port
  have sound : port.Sound := run_invariant perform_sound calls _ (create_sound keyCounter)
  refine ⟨fun status processHandle callback => ?_, sound.distinct,
    fun packet rest waiting => ?_, fun key callback => issued_of_boundTo port.history key⟩
  · rw [bind_spec]
    by_cases failed : port.keyCounter + 1 = 0 ∨ status < 0
    · rw [if_pos failed]
      exact ⟨0, rfl, iff_of_true rfl failed, fun _ => rfl⟩
    · rw [if_neg failed]
      have unwrapped := (not_or.mp failed).1
      exact ⟨_, rfl, iff_of_false unwrapped failed, fun zero => absurd zero unwrapped⟩
  · rw [perform, runTask_spec sound waiting]
    exact ⟨rfl, rfl⟩

/-! The server keeps the keys only, since the one callback it binds is
`Process::OnException`. -/

structure Refines (port : CallbackPort Callback) (exceptionPort : ExceptionPort) : Prop where
  keyCounter : exceptionPort.keyCounter = port.keyCounter
  keys : ∀ key, key ∈ exceptionPort.callbacks ↔ (port.callbacks key).isSome
  nodup : exceptionPort.callbacks.Nodup

theorem Sound.nextKey_unbound {port : CallbackPort Callback} (sound : port.Sound)
    (unwrapped : port.keyCounter + 1 ≠ 0) : port.callbacks (port.keyCounter + 1) = none := by
  cases found : port.callbacks (port.keyCounter + 1) with
  | none => rfl
  | some data =>
      have bound := sound.table (port.keyCounter + 1)
      rw [found] at bound
      have below : (port.keyCounter + 1).toNat ≤ port.keyCounter.toNat :=
        sound.issuedBelow _ (issued_of_boundTo _ _ bound.symm)
      have next := toNat_nextKey unwrapped
      omega

theorem bind_refines {port : CallbackPort Callback} (sound : port.Sound) (env : Env)
    (processHandle : Handle) (callback : Callback) {server : Server}
    (refines : port.Refines server.exceptionPort) :
    ∃ key after, Process.bind env server = (some key, after) ∧
      (bind (env.now .bindExceptionPort server) processHandle callback port).1 = some key ∧
      (bind (env.now .bindExceptionPort server) processHandle callback port).2.Refines
        after.exceptionPort := by
  have counter := refines.keyCounter
  rw [Process.bind, read_bind, bind_spec]
  by_cases wrapped : port.keyCounter + 1 = 0
  · rw [counter, if_pos wrapped, if_pos (Or.inl wrapped)]
    exact ⟨0, server, rfl, rfl, refines⟩
  · rw [counter, if_neg wrapped, ask_bind]
    by_cases refused : env.now .bindExceptionPort server < (0 : Int)
    · rw [if_pos refused, if_pos (Or.inr refused)]
      exact ⟨0, _, rfl, rfl, refines⟩
    · rw [if_neg refused, if_neg (not_or.mpr ⟨wrapped, refused⟩)]
      have absent : port.keyCounter + 1 ∉ server.exceptionPort.callbacks := by
        rw [refines.keys, sound.nextKey_unbound wrapped]
        exact Bool.false_ne_true
      refine ⟨port.keyCounter + 1, _, rfl, rfl, rfl, fun key => ?_,
        List.nodup_cons.mpr ⟨absent, refines.nodup⟩⟩
      change key ∈ (port.keyCounter + 1) :: server.exceptionPort.callbacks ↔ _
      by_cases same : key = port.keyCounter + 1
      · subst same
        simp
      · simp [same, refines.keys key]

theorem unbind_refines {port : CallbackPort Callback} {server : Server}
    (refines : port.Refines server.exceptionPort) :
    (unbind server.process.eportKey port).2.Refines
      (Process.unbindExceptionPort server).2.exceptionPort := by
  have erased (key : UInt64) : key ∈ server.exceptionPort.callbacks.erase server.process.eportKey ↔
      key ≠ server.process.eportKey ∧ key ∈ server.exceptionPort.callbacks :=
    refines.nodup.mem_erase_iff
  rw [unbind_spec]
  refine ⟨refines.keyCounter, fun key => ?_, refines.nodup.erase server.process.eportKey⟩
  change key ∈ server.exceptionPort.callbacks.erase _ ↔
    (Function.update port.callbacks server.process.eportKey none key).isSome
  rw [erased]
  by_cases same : key = server.process.eportKey
  · subst same
    simp
  · simp [same, refines.keys key]

end CallbackPort

end Gdbserver
