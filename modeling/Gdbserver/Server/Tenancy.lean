import Gdbserver.Server.Attachment
import Gdbserver.Server.InputActions

/-!
# Threads belong to an attachment

Unless a process is attached to, the server knows of no threads, expects none,
and has no callback at the exception port. The commands see to this by looking
at the attachment first, each in its own way.
-/

set_option autoImplicit false

namespace Gdbserver

open Logic Prog Frame CommandHandler

namespace Server

structure Vacant (server : Server) : Prop where
  free : server.process.isAttached = false
  dead : server.process.isLive = false
  keys : server.process.threads.keys = []
  fresh : server.process.threadMapStale = false
  callbacks : server.exceptionPort.callbacks = []

structure Occupied (server : Server) : Prop where
  attached : server.process.isAttached = true
  callbacks : server.exceptionPort.callbacks = [server.process.eportKey]

def Tenancy (server : Server) : Prop := server.Vacant ∨ server.Occupied

theorem Vacant.not_occupied {server : Server} (vacant : server.Vacant) : ¬ server.Occupied :=
  fun occupied => Bool.false_ne_true (vacant.free.symm.trans occupied.attached)

theorem Vacant.of_same {before after : Server} (vacant : before.Vacant)
    (process : after.process = before.process)
    (port : after.exceptionPort = before.exceptionPort) : after.Vacant :=
  ⟨process ▸ vacant.free, process ▸ vacant.dead, process ▸ vacant.keys, process ▸ vacant.fresh,
    port ▸ vacant.callbacks⟩

theorem Tenancy.occupied_of_live {server : Server} (tenancy : server.Tenancy)
    (live : server.process.isLive = true) : server.Occupied :=
  tenancy.resolve_left fun vacant => Bool.false_ne_true (vacant.dead.symm.trans live)

theorem Tenancy.occupied_of_callback {server : Server} (tenancy : server.Tenancy) {key : UInt64}
    (bound : key ∈ server.exceptionPort.callbacks) : server.Occupied := by
  refine tenancy.resolve_left fun vacant => ?_
  rw [vacant.callbacks] at bound
  exact absurd bound List.not_mem_nil

theorem Tenancy.occupied_of_mem {server : Server} (tenancy : server.Tenancy) {tid : Koid}
    (member : tid ∈ server.process.threads.keys) : server.Occupied := by
  refine tenancy.resolve_left fun vacant => ?_
  rw [vacant.keys] at member
  exact absurd member List.not_mem_nil

end Server

/-! ## The two ways to keep it -/

/-- From a vacant state nothing is done to the process. -/
def aloof : Frame Server where
  rel before after := before.Vacant →
    after.process = before.process ∧ after.exceptionPort = before.exceptionPort
  refl _ := fun _ => ⟨rfl, rfl⟩
  trans := by
    intro before middle after first second vacant
    obtain ⟨process, port⟩ := first vacant
    obtain ⟨processThere, portThere⟩ := second (vacant.of_same process port)
    exact ⟨processThere.trans process, portThere.trans port⟩

/-- The process stays attached as it was. -/
def berth : Frame Server where
  rel before after := after.process.eportKey = before.process.eportKey ∧
    after.exceptionPort = before.exceptionPort
  refl _ := ⟨rfl, rfl⟩
  trans first second := ⟨second.1.trans first.1, second.2.trans first.2⟩

def tenancy : Frame Server := preserving Server.Tenancy

theorem Server.Vacant.aloof {before after : Server} (vacant : before.Vacant)
    (kept : Gdbserver.aloof.rel before after) : after.Vacant := by
  obtain ⟨process, port⟩ := kept vacant
  exact vacant.of_same process port

theorem Server.Occupied.berth {before after : Server} (occupied : before.Occupied)
    (kept : Gdbserver.berth.rel before after) : after.Occupied := by
  obtain ⟨key, port⟩ := kept
  have attached : after.process.isAttached = before.process.isAttached := by
    rw [Process.isAttached, key]
    rfl
  exact ⟨attached.trans occupied.attached, by rw [port, key]; exact occupied.callbacks⟩

theorem tenancy_of {α : Type} {program : Prog Server α} (vacant : aloof.Keeps program)
    (occupied : berth.Keeps program) : tenancy.Keeps program := by
  intro server kept
  rcases kept with empty | taken
  · exact Or.inl (empty.aloof (vacant server))
  · exact Or.inr (taken.berth (occupied server))

theorem Quiet.berth {before after : Server} (kept : Quiet before after) :
    Gdbserver.berth.rel before after :=
  ⟨congrArg Lifecycle.eportKey kept.lifecycle, kept.exceptionPort⟩

theorem berth_of_quiet {α : Type} {program : Prog Server α} (runs : quiet.Runs program) :
    berth.Keeps program := fun server => Quiet.berth (runs.keeps server)

theorem Served.berth {fits : Bytes → Prop} {before after : Server} {handled : Bool}
    (served : Served fits before handled after) : Gdbserver.berth.rel before after := by
  obtain ⟨posts, _, kept⟩ := served
  exact ⟨congrArg Lifecycle.eportKey kept.lifecycle, kept.exceptionPort⟩

theorem berth_of_served {program : Prog Server Bool} (served : ∀ server, ∃ fits handled after,
    program server = (some handled, after) ∧ Served fits server handled after) :
    berth.Keeps program := by
  intro server
  obtain ⟨fits, handled, after, ran, kept⟩ := served server
  rw [ran]
  exact kept.berth

theorem berth_of_meets {fits : Bytes → Prop} {program : Prog Server Bool}
    (meets : (serves fits).Meets program) : berth.Keeps program :=
  berth_of_served fun server => have ⟨handled, after, ran, kept⟩ := meets server
    ⟨fits, handled, after, ran, kept⟩

/-! ## Programs that look before they act -/

section Aloof

variable {env : Env}

theorem aloof_of_same {α : Type} {program : Prog Server α}
    (process : ∀ server, (program server).2.process = server.process)
    (port : ∀ server, (program server).2.exceptionPort = server.exceptionPort) :
    aloof.Keeps program := fun server _ => ⟨process server, port server⟩

theorem reply_aloof (response : Bytes) : aloof.Keeps (reply response) :=
  aloof_of_same (fun _ => rfl) fun _ => rfl

theorem ask_aloof (call : Call) : aloof.Keeps (ask env call) :=
  aloof_of_same (fun _ => rfl) fun _ => rfl

theorem dcheck_aloof (check : Check) (condition : Bool) : aloof.Keeps (dcheck check condition) := by
  rw [dcheck_eq]
  exact aloof_of_same (fun _ => rfl) fun _ => rfl

/-- The check that most of the handlers begin with. -/
theorem guarded_aloof (code : Util.ErrorCode) (rest : Prog Server Bool) :
    aloof.Keeps (do if !(← read hasInferior) then replyWithError env code else rest) := by
  intro server vacant
  rw [read_bind, hasInferior, vacant.free, Bool.and_false]
  exact ⟨rfl, rfl⟩

namespace Process

theorem ensureThreadMapFresh_of_fresh {server : Server}
    (fresh : server.process.threadMapStale = false) :
    ensureThreadMapFresh env server = (some (), server) := by
  rw [ensureThreadMapFresh, read_bind, fresh]
  rfl

theorem ensureThreadMapFresh_aloof : aloof.Keeps (ensureThreadMapFresh env) := by
  intro server vacant
  rw [ensureThreadMapFresh_of_fresh vacant.fresh]
  exact ⟨rfl, rfl⟩

theorem pickOneThread_aloof : aloof.Keeps (pickOneThread env) :=
  Keeps.bind ensureThreadMapFresh_aloof fun _ => Keeps.bind Keeps.read fun _ =>
    Keeps.ite (fun _ => Keeps.pure) fun _ => Keeps.bind (ask_aloof _) fun _ => Keeps.pure

/-- There is no thread to call back for. -/
theorem forEachLiveThread_aloof (callback : Koid → Prog Server Unit) :
    aloof.Keeps (forEachLiveThread env callback) := by
  intro server vacant
  rw [forEachLiveThread, bind_of_some (ensureThreadMapFresh_of_fresh vacant.fresh), read_bind,
    vacant.keys]
  exact ⟨rfl, rfl⟩

end Process

namespace CommandHandler

theorem setCurrentThread_aloof (tid : Int64) : aloof.Keeps (setCurrentThread env tid) := by
  have reset : aloof.Keeps (do
      Server.setCurrentThread none
      replyOK) := aloof_of_same (fun _ => rfl) fun _ => rfl
  -- whether the process is live is asked before a thread is looked for
  refine Keeps.bind Keeps.read fun _ => Keeps.ite
    (fun _ => Keeps.ite (fun _ => reply_aloof _) fun _ => reset) fun _ server vacant => ?_
  rw [read_bind, vacant.dead]
  exact reset server vacant

theorem handle_H_aloof (packet : Bytes) : aloof.Keeps (handle_H env packet) := by
  unfold handle_H
  split
  · exact reply_aloof _
  · exact reply_aloof _
  · refine Keeps.ite (fun _ => Keeps.bind (ask_aloof _) fun _ => ?_) fun _ => Keeps.pure
    split
    · exact reply_aloof _
    · exact Keeps.ite (fun _ => Keeps.pure) fun _ =>
        Keeps.ite (fun _ => reply_aloof _) fun _ => setCurrentThread_aloof _

theorem handleQueryCurrentThreadId_aloof (params : Bytes) :
    aloof.Keeps (handleQueryCurrentThreadId env params) := by
  refine Keeps.ite (fun _ => reply_aloof _) fun _ => Keeps.bind Keeps.read fun current => ?_
  cases current with
  | some tid => exact reply_aloof _
  | none =>
      intro server vacant
      dsimp only
      rw [read_bind, vacant.dead, Bool.and_false]
      exact ⟨rfl, rfl⟩

theorem handleQueryThreadInfo_aloof (isFirst : Bool) :
    aloof.Keeps (handleQueryThreadInfo env isFirst) := by
  have sequence (active : Bool) : aloof.Keeps (setThreadInfoSequence active) :=
    aloof_of_same (fun _ => rfl) fun _ => rfl
  have listed : aloof.Keeps (replyThreadInfo env) :=
    Keeps.bind Process.ensureThreadMapFresh_aloof fun _ =>
      Keeps.bind (Keeps.bind Process.ensureThreadMapFresh_aloof fun _ => Keeps.read) fun _ =>
        Keeps.ite (fun _ => reply_aloof _) fun _ => Keeps.bind (sequence true) fun _ => reply_aloof _
  exact Keeps.bind Keeps.read fun _ => Keeps.ite (fun _ => reply_aloof _) fun _ => Keeps.ite
    (fun _ => Keeps.bind Keeps.read fun _ => Keeps.ite (fun _ => reply_aloof _) fun _ =>
      Keeps.bind (sequence false) fun _ => reply_aloof _)
    fun _ => Keeps.bind Keeps.read fun _ => Keeps.ite (fun _ => reply_aloof _) fun _ => listed

theorem handleQueryRcmd_aloof (command : Bytes) : aloof.Keeps (handleQueryRcmd env command) := by
  have quit : aloof.Keeps rcmdQuit := aloof_of_same (fun _ => rfl) fun _ => rfl
  have set (arguments : List Bytes) : aloof.Keeps (rcmdSet env arguments) := by
    unfold rcmdSet RspServer.setParameter
    split
    · refine Keeps.bind (Keeps.ite (fun _ => Keeps.pure) fun _ => ?_) fun _ =>
        Keeps.ite (fun _ => reply_aloof _) fun _ => reply_aloof _
      split
      · exact Keeps.pure
      · exact Keeps.ite (fun _ => Keeps.pure) fun _ => aloof_of_same (fun _ => rfl) fun _ => rfl
    · exact reply_aloof _
  have shown (arguments : List Bytes) : aloof.Keeps (rcmdShow env arguments) := by
    unfold rcmdShow
    split
    · refine Keeps.bind (Keeps.ite (fun _ => Keeps.pure) fun _ => Keeps.read) fun value => ?_
      cases value with
      | none => exact reply_aloof _
      | some text => exact reply_aloof _
    · exact reply_aloof _
  unfold handleQueryRcmd
  split
  · exact reply_aloof _
  · exact Keeps.ite (fun _ => Keeps.ite (fun _ => reply_aloof _) fun _ => quit) fun _ =>
      Keeps.ite (fun _ => Keeps.ite (fun _ => reply_aloof _) fun _ => reply_aloof _) fun _ =>
      Keeps.ite (fun _ => set _) fun _ => Keeps.ite (fun _ => shown _) fun _ => reply_aloof _

theorem handleQueryXfer_aloof (params : Bytes) : aloof.Keeps (handleQueryXfer env params) := by
  refine Keeps.ite (fun _ => Keeps.pure) fun _ => ?_
  split
  · split
    · exact reply_aloof _
    · exact Keeps.bind Keeps.read fun _ => Keeps.ite (fun _ => reply_aloof _) fun _ =>
        Keeps.ite (fun _ => reply_aloof _) fun _ =>
          Keeps.bind (ask_aloof _) fun _ => Keeps.bind Keeps.read fun _ => reply_aloof _
  · exact reply_aloof _

theorem handleQuery_aloof (general : Bool) (packet : Bytes) :
    aloof.Keeps (handleQuery env general packet) := by
  refine Keeps.bind (dcheck_aloof _ _) fun _ => Keeps.ite (fun _ => ?_) fun _ => ?_
  · exact Keeps.ite (fun _ => Keeps.ite (fun _ => reply_aloof _) fun _ => reply_aloof _) fun _ =>
      Keeps.ite (fun _ => handleQueryCurrentThreadId_aloof _) fun _ =>
      Keeps.ite (fun _ => handleQueryThreadInfo_aloof true) fun _ =>
      Keeps.ite (fun _ => handleQueryRcmd_aloof _) fun _ =>
      Keeps.ite (fun _ => handleQueryThreadInfo_aloof false) fun _ =>
      Keeps.ite (fun _ => reply_aloof _) fun _ =>
      Keeps.ite (fun _ => handleQueryXfer_aloof _) fun _ => Keeps.pure
  · refine Keeps.ite (fun _ => ?_) fun _ => Keeps.pure
    unfold handleSetNonStop
    split
    · exact Keeps.ite (fun _ => reply_aloof _) fun _ =>
        Keeps.ite (fun _ => reply_aloof _) fun _ => reply_aloof _
    · exact reply_aloof _

/-- `vCont` does not look; it finds no threads. -/
theorem handle_vCont_aloof (packet : Bytes) : aloof.Keeps (handle_vCont env packet) := by
  have resolved (entries : List Entry) : aloof.Keeps (resolvePickOnes env entries) :=
    Keeps.forM fun _ _ => Keeps.ite
      (fun _ => Keeps.bind Process.pickOneThread_aloof fun _ => Keeps.pure) fun _ => Keeps.pure
  have applied (actions : ThreadActionList) : aloof.Keeps (applyActions env actions) :=
    Keeps.bind Keeps.read fun _ => Keeps.bind (dcheck_aloof _ _) fun _ =>
      Keeps.bind (dcheck_aloof _ _) fun _ => Keeps.bind (resolved _) fun _ =>
      Keeps.bind (Keeps.bind Process.ensureThreadMapFresh_aloof fun _ => Keeps.read) fun _ =>
      Keeps.ite (fun _ => reply_aloof _) fun _ =>
      Keeps.bind (Process.forEachLiveThread_aloof _) fun _ => reply_aloof _
  exact Keeps.bind Keeps.read fun _ => Keeps.ite (fun _ => reply_aloof _) fun _ =>
    Keeps.bind (ask_aloof _) fun _ => Keeps.bind Keeps.read fun _ =>
      Keeps.bind (dcheck_aloof _ _) fun _ =>
        Keeps.ite (fun _ => reply_aloof _) fun _ => applied _

end CommandHandler

end Aloof

/-! ## Attaching and letting go -/

/-- The process is prepared for an attachment, or the attempt is given up. -/
structure Fixed (before after : Server) : Prop where
  threads : after.process.threads = before.process.threads
  stale : after.process.threadMapStale = before.process.threadMapStale
  eportKey : after.process.eportKey = before.process.eportKey
  exceptionPort : after.exceptionPort = before.exceptionPort
  dead : before.process.isLive = false → after.process.isLive = false

def fixed : Frame Server where
  rel := Fixed
  refl _ := ⟨rfl, rfl, rfl, rfl, id⟩
  trans first second := ⟨second.threads.trans first.threads, second.stale.trans first.stale,
    second.eportKey.trans first.eportKey, second.exceptionPort.trans first.exceptionPort,
    fun dead => second.dead (first.dead dead)⟩

theorem Fixed.tenancy {before after : Server} (kept : Fixed before after) (held : before.Tenancy) :
    after.Tenancy := by
  rcases held with vacant | occupied
  · refine Or.inl ⟨?_, kept.dead vacant.dead, ?_, kept.stale.trans vacant.fresh, ?_⟩
    · rw [Process.isAttached, kept.eportKey]
      exact vacant.free
    · rw [kept.threads]
      exact vacant.keys
    · rw [kept.exceptionPort]
      exact vacant.callbacks
  · exact Or.inr (occupied.berth ⟨kept.eportKey, kept.exceptionPort⟩)

section Attaching

variable (env : Env)

theorem ask_fixed (call : Call) : fixed.Keeps (ask env call) := fun _ => ⟨rfl, rfl, rfl, rfl, id⟩

theorem dcheck_fixed (check : Check) (condition : Bool) : fixed.Keeps (dcheck check condition) := by
  rw [dcheck_eq]
  exact fun _ => ⟨rfl, rfl, rfl, rfl, id⟩

theorem reply_fixed (response : Bytes) : fixed.Keeps (reply response) :=
  fun _ => ⟨rfl, rfl, rfl, rfl, id⟩

namespace Process

theorem modifyProcess_fixed {update : Process → Process}
    (same : ∀ process : Process, (update process).threads = process.threads ∧
      (update process).threadMapStale = process.threadMapStale ∧
      (update process).eportKey = process.eportKey ∧ (update process).state = process.state) :
    fixed.Keeps (modifyProcess update) := by
  intro server
  obtain ⟨threads, stale, key, state⟩ := same server.process
  refine ⟨threads, stale, key, rfl, fun dead => ?_⟩
  change (update server.process).isLive = false
  rw [isLive, state]
  exact dead

theorem enterInitialize_fixed : fixed.Keeps enterInitialize := by
  have renewed : fixed.Keeps (setState .new) := fun _ => ⟨rfl, rfl, rfl, rfl, fun _ => rfl⟩
  exact Keeps.bind Keeps.read fun _ => Keeps.bind (dcheck_fixed _ _) fun _ =>
    Keeps.bind (dcheck_fixed _ _) fun _ => Keeps.bind (dcheck_fixed _ _) fun _ =>
      Keeps.ite (fun _ => renewed) fun _ => Keeps.pure

theorem initializePid_fixed (pid : Koid) : fixed.Keeps (initializePid pid) :=
  Keeps.bind enterInitialize_fixed fun _ =>
    Keeps.bind (modifyProcess_fixed fun _ => ⟨rfl, rfl, rfl, rfl⟩) fun _ => Keeps.pure

theorem initializeProgram_fixed : fixed.Keeps (initializeProgram env) := by
  have set : fixed.Keeps (setupLaunchpad env) :=
    Keeps.bind (ask_fixed env _) fun _ => Keeps.ite (fun _ => Keeps.pure) fun _ =>
      Keeps.bind (ask_fixed env _) fun _ => Keeps.ite (fun _ => Keeps.pure) fun _ =>
        Keeps.bind (ask_fixed env _) fun _ => Keeps.ite (fun _ => Keeps.pure) fun _ =>
          Keeps.bind (modifyProcess_fixed fun _ => ⟨rfl, rfl, rfl, rfl⟩) fun _ => Keeps.pure
  have loaded : fixed.Keeps (loadBinary env) :=
    Keeps.bind (ask_fixed env _) fun _ => Keeps.ite (fun _ => Keeps.pure) fun _ =>
      Keeps.bind (ask_fixed env _) fun _ => Keeps.ite (fun _ => Keeps.pure) fun _ => Keeps.pure
  have failed : fixed.Keeps initializeFailed :=
    Keeps.bind (modifyProcess_fixed fun _ => ⟨rfl, rfl, rfl, rfl⟩) fun _ => Keeps.pure
  have koid : fixed.Keeps (getProcessId env) :=
    Keeps.bind (ask_fixed env _) fun _ => Keeps.ite (fun _ => Keeps.pure) fun _ => Keeps.pure
  exact Keeps.bind enterInitialize_fixed fun _ =>
    Keeps.bind (modifyProcess_fixed fun _ => ⟨rfl, rfl, rfl, rfl⟩) fun _ =>
    Keeps.bind Keeps.read fun _ => Keeps.ite (fun _ => Keeps.pure) fun _ =>
    Keeps.bind set fun _ => Keeps.ite (fun _ => Keeps.pure) fun _ =>
    Keeps.bind loaded fun _ => Keeps.ite (fun _ => failed) fun _ =>
    Keeps.bind koid fun _ => Keeps.bind (modifyProcess_fixed fun _ => ⟨rfl, rfl, rfl, rfl⟩) fun _ =>
    Keeps.bind (ask_fixed env _) fun _ => Keeps.ite (fun _ => failed) fun _ =>
    Keeps.bind (modifyProcess_fixed fun _ => ⟨rfl, rfl, rfl, rfl⟩) fun _ =>
    Keeps.bind (ask_fixed env _) fun _ => Keeps.ite (fun _ => failed) fun _ =>
    Keeps.bind (modifyProcess_fixed fun _ => ⟨rfl, rfl, rfl, rfl⟩) fun _ => Keeps.pure

theorem allocDebugHandle_fixed : fixed.Runs (allocDebugHandle env) := by
  have asked : fixed.Runs (ask env .processDebugHandle) := fun server =>
    ⟨_, _, rfl, ask_fixed env .processDebugHandle server⟩
  have opened (handle : Handle) :
      fixed.Runs (modifyProcess fun process => { process with handle := handle }) :=
    Runs.modify fun _ => ⟨rfl, rfl, rfl, rfl, fun dead => dead⟩
  exact Runs.bind asked fun _ => Runs.ite (fun _ => Runs.pure) fun _ =>
    Runs.ite (fun _ => Runs.pure) fun _ => Runs.bind (opened _) fun _ => Runs.pure

theorem start_berth : berth.Keeps (start env) := by
  have checked (check : Check) (condition : Bool) : berth.Keeps (dcheck check condition) := by
    rw [dcheck_eq]
    exact fun _ => ⟨rfl, rfl⟩
  have moved (newState : ProcessState) : berth.Keeps (setState newState) := fun _ => ⟨rfl, rfl⟩
  have cleared : berth.Keeps (modifyProcess fun process => { process with launchpad := false }) :=
    fun _ => ⟨rfl, rfl⟩
  exact Keeps.bind Keeps.read fun _ => Keeps.bind (checked _ _) fun _ =>
    Keeps.bind (checked _ _) fun _ => Keeps.ite (fun _ => Keeps.pure) fun _ =>
    Keeps.ite (fun _ => Keeps.stop) fun _ => Keeps.bind (berth_of_quiet (ask_quiet env _)) fun _ =>
    Keeps.bind cleared fun _ => Keeps.ite (fun _ => Keeps.pure) fun _ =>
    Keeps.bind (moved _) fun _ => Keeps.pure

/-- The one callback is registered under the key that the process keeps. -/
theorem bindExceptionPort_cases {server : Server} (vacant : server.Vacant) :
    ∃ ok after, bindExceptionPort env server = (some ok, after) ∧
      if ok then after.Occupied else Fixed server after := by
  rw [bindExceptionPort, bind, bind_assoc_apply, read_bind]
  by_cases wrapped : server.exceptionPort.keyCounter + 1 = 0
  · rw [if_pos wrapped]
    exact ⟨false, server, rfl, fixed.refl server⟩
  · rw [if_neg wrapped, bind_assoc_apply, ask_bind]
    by_cases refused : env.now .bindExceptionPort server < (0 : Int)
    · rw [if_pos refused]
      exact ⟨false, _, rfl, ask_fixed env .bindExceptionPort server⟩
    · rw [if_neg refused, bind_assoc_apply, modify_bind, pure_bind_apply, if_neg wrapped]
      refine ⟨true, _, rfl, decide_eq_true wrapped, ?_⟩
      change (server.exceptionPort.keyCounter + 1) :: server.exceptionPort.callbacks = _
      rw [vacant.callbacks]
      rfl

theorem attach_cases {server : Server} (held : server.Tenancy) :
    ∃ ok after, attach env server = (some ok, after) ∧ after.Tenancy ∧
      (ok = true → after.Occupied) := by
  have failed {after : Server} : false = true → after.Occupied :=
    fun succeeded => absurd succeeded Bool.false_ne_true
  rcases held with vacant | occupied
  · obtain ⟨granted, opened, ranAlloc, first⟩ := allocDebugHandle_fixed env server
    have there : opened.Vacant := (first.tenancy (Or.inl vacant)).resolve_right fun occupied =>
      vacant.not_occupied (occupied.berth ⟨first.eportKey.symm, first.exceptionPort.symm⟩)
    rw [attach, read_bind, vacant.free, if_neg Bool.false_ne_true, bind_of_some ranAlloc]
    cases granted with
    | false => exact ⟨false, opened, rfl, Or.inl there, failed⟩
    | true =>
        obtain ⟨ok, bound, ranBind, second⟩ := bindExceptionPort_cases env there
        rw [if_not_true, bind_of_some ranBind]
        cases ok with
        | false =>
            refine ⟨false, _, rfl, ?_, failed⟩
            exact Fixed.tenancy ⟨second.threads, second.stale, second.eportKey,
              second.exceptionPort, second.dead⟩ (Or.inl there)
        | true =>
            rw [if_not_true]
            split
            · exact ⟨true, _, rfl, Or.inr ⟨second.attached, second.callbacks⟩,
                fun _ => ⟨second.attached, second.callbacks⟩⟩
            · exact ⟨true, bound, rfl, Or.inr second, fun _ => second⟩
  · exact ⟨false, server, attach_of_attached env server occupied.attached, Or.inr occupied, failed⟩

theorem clear_vacates {server : Server} (free : server.process.isAttached = false)
    (callbacks : server.exceptionPort.callbacks = []) :
    ∃ after, clear server = (some (), after) ∧ after.Vacant := by
  unfold clear
  simp only [dcheck_eq, read_bind, modify_bind]
  exact ⟨_, rfl, free, rfl, rfl, rfl, callbacks⟩

/-- The end of `Detach` and of `Kill`. -/
theorem letGo_vacates {server : Server} (occupied : server.Occupied) :
    ∃ after, (do unbindExceptionPort; closeDebugHandle; clear; pure true : Prog Server Bool) server =
      (some true, after) ∧ after.Vacant := by
  let released : Server := { server with
    exceptionPort := { server.exceptionPort with
      callbacks := server.exceptionPort.callbacks.erase server.process.eportKey }
    process := { server.process with eportKey := 0, handle := 0 } }
  have none : released.exceptionPort.callbacks = [] := by
    change server.exceptionPort.callbacks.erase server.process.eportKey = []
    rw [occupied.callbacks, List.erase_cons_head]
  obtain ⟨after, ran, vacant⟩ := clear_vacates rfl none
  refine ⟨after, ?_, vacant⟩
  change (clear >>= fun _ => pure true : Prog Server Bool) released = (some true, after)
  rw [bind_of_some ran]
  rfl

theorem detach_vacates {server : Server} (occupied : server.Occupied) :
    ∃ after, detach server = (some true, after) ∧ after.Vacant := by
  let checked : Server := { server with
    log := (server.log ++ asserted .rawDetachHandle (server.process.handle ≠ 0)) ++
      asserted .rawDetachAttached server.process.isAttached }
  have there : checked.Occupied := ⟨occupied.attached, occupied.callbacks⟩
  obtain ⟨after, ran, vacant⟩ := letGo_vacates there
  refine ⟨after, ?_, vacant⟩
  rw [← ran]
  simp only [detach, rawDetach, dcheck_eq, read_bind, occupied.attached]
  rfl

theorem kill_tenancy : tenancy.Keeps (kill env) := by
  intro server held
  cases live : server.process.isLive with
  | false =>
      rw [kill_of_not_live env server live]
      exact held
  | true =>
      have occupied := held.occupied_of_live live
      by_cases killed : env.now .taskKill server = (0 : Int)
      · have there : (server.asked .taskKill).Occupied := ⟨occupied.attached, occupied.callbacks⟩
        obtain ⟨after, ran, vacant⟩ := letGo_vacates there
        rw [kill, read_bind, live, if_not_true, ask_bind, if_neg (not_not.mpr killed), ran]
        exact Or.inl vacant
      · rw [kill_of_refused env server live killed]
        exact Or.inr ⟨occupied.attached, occupied.callbacks⟩

end Process

end Attaching

/-! ## Commands -/

namespace CommandHandler

section Commands

variable (env : Env)

theorem startInferior_berth : berth.Keeps (startInferior env) := by
  refine Keeps.bind Keeps.read fun process => Keeps.bind ?_ fun _ =>
    Keeps.bind (Process.start_berth env) fun _ => Keeps.ite
      (fun _ => berth_of_meets (replyWithError_serves env .perm)) fun _ =>
      Keeps.bind (berth_of_quiet (Process.pickOneThread_quiet env)) fun picked =>
        Keeps.bind ?_ fun _ => berth_of_meets replyOK_serves
  · rw [dcheck_eq]
    exact fun _ => ⟨rfl, rfl⟩
  · cases picked with
    | none => exact Keeps.pure
    | some tid => exact berth_of_quiet (Server.setCurrentThread_quiet (some tid))

theorem handle_c_berth (packet : Bytes) : berth.Keeps (handle_c env packet) := by
  have refused (code : Util.ErrorCode) : berth.Keeps (replyWithError env code) :=
    berth_of_meets (replyWithError_serves env code)
  refine Keeps.bind Keeps.read fun _ => Keeps.ite (fun _ => refused .perm) fun _ =>
    Keeps.bind Keeps.read fun current => Keeps.ite (fun _ => ?_) fun _ => ?_
  · cases current with
    | none => exact startInferior_berth env
    | some tid => exact berth_of_meets (resumeThread_serves env tid)
  · cases env.ftl.stringToUInt64 packet with
    | none => exact refused .inval
    | some addr =>
        cases current with
        | none =>
            refine Keeps.bind Keeps.read fun _ => Keeps.bind ?_ fun _ => refused .perm
            rw [dcheck_eq]
            exact fun _ => ⟨rfl, rfl⟩
        | some tid => exact berth_of_meets (continueAt_serves env tid addr)

theorem handle_m_berth (packet : Bytes) : berth.Keeps (handle_m env packet) :=
  berth_of_served fun server => have ⟨handled, after, ran, sized⟩ := handle_m_sized env packet server
    ⟨_, handled, after, ran, sized.1⟩

theorem handleQuery_berth (general : Bool) (packet : Bytes) :
    berth.Keeps (handleQuery env general packet) := by
  cases general with
  | true =>
      intro server
      obtain ⟨handled, after, ran, sized⟩ := handleQuery_sized env packet server
      rw [ran]
      exact sized.1.berth
  | false =>
      intro server
      obtain ⟨handled, after, ran, served⟩ := handleSetQuery_served env packet server
      rw [ran]
      exact served.berth

theorem handle_vCont_berth (packet : Bytes) : berth.Keeps (handle_vCont env packet) := by
  intro server
  obtain ⟨handled, after, ran, served⟩ := handle_vCont_served env packet server
  rw [ran]
  exact served.berth

theorem reply_tenancy (response : Bytes) : tenancy.Keeps (reply response) := fun server held =>
  Fixed.tenancy (reply_fixed response server) held

theorem handle_D_tenancy (packet : Bytes) : tenancy.Keeps (handle_D env packet) := by
  have detached : tenancy.Keeps (detachInferior env) := by
    intro server held
    rcases held with vacant | occupied
    · rw [detachInferior, read_bind, vacant.free]
      exact reply_tenancy _ server (Or.inl vacant)
    · obtain ⟨after, ran, vacant⟩ := Process.detach_vacates occupied
      rw [detachInferior, read_bind, occupied.attached, if_not_true, bind_of_some ran]
      exact reply_tenancy _ after (Or.inl vacant)
  refine Keeps.bind Keeps.read fun _ => Keeps.ite (fun _ => reply_tenancy _) fun _ => ?_
  cases packet with
  | nil => exact detached
  | cons first rest =>
      refine Keeps.ite (fun _ => ?_) fun _ => reply_tenancy _
      cases env.ftl.stringToUInt64 rest with
      | none => exact reply_tenancy _
      | some pid =>
          exact Keeps.bind Keeps.read fun _ => Keeps.ite (fun _ => reply_tenancy _) fun _ => detached

theorem handle_vKill_tenancy (packet : Bytes) : tenancy.Keeps (handle_vKill env packet) := by
  refine Keeps.bind Keeps.read fun _ => Keeps.ite (fun _ => reply_tenancy _) fun _ => ?_
  cases env.ftl.stringToUInt64 packet with
  | none => exact reply_tenancy _
  | some pid =>
      exact Keeps.bind Keeps.read fun _ => Keeps.ite (fun _ => reply_tenancy _) fun _ =>
        Keeps.ite (fun _ => reply_tenancy _) fun _ => Keeps.bind (Process.kill_tenancy env) fun _ =>
          Keeps.ite (fun _ => reply_tenancy _) fun _ => reply_tenancy _

theorem tenancy_of_fixed {α : Type} {program : Prog Server α} (kept : fixed.Keeps program) :
    tenancy.Keeps program := fun server => (kept server).tenancy

theorem attach_tenancy : tenancy.Keeps (Process.attach env) := by
  intro server held
  obtain ⟨ok, after, ran, kept, _⟩ := Process.attach_cases env held
  rw [ran]
  exact kept

theorem handle_vAttach_tenancy (packet : Bytes) : tenancy.Keeps (handle_vAttach env packet) := by
  refine Keeps.bind Keeps.read fun _ => Keeps.ite (fun _ => reply_tenancy _) fun _ => ?_
  cases env.ftl.stringToUInt64 packet with
  | none => exact reply_tenancy _
  | some pid =>
      exact Keeps.bind Keeps.read fun _ => Keeps.ite (fun _ => reply_tenancy _) fun _ =>
        Keeps.bind (tenancy_of_fixed (Process.initializePid_fixed pid)) fun _ =>
          Keeps.ite (fun _ => reply_tenancy _) fun _ => Keeps.bind (attach_tenancy env) fun _ =>
            Keeps.ite (fun _ => reply_tenancy _) fun _ => reply_tenancy _

/-- The program is started once it is attached to. -/
theorem launch_tenancy : tenancy.Keeps (launch env) := by
  intro server held
  obtain ⟨ok, after, ran, kept, granted⟩ := Process.attach_cases env held
  rw [launch, bind_of_some ran]
  cases ok with
  | false => exact reply_tenancy _ after kept
  | true =>
      have occupied := granted rfl
      rw [if_not_true]
      have starts : berth.Keeps (do
          if !(← Process.start env) then replyWithError env .perm else pure true) :=
        Keeps.bind (Process.start_berth env) fun _ => Keeps.ite
          (fun _ => berth_of_meets (replyWithError_serves env .perm)) fun _ => Keeps.pure
      exact Or.inr (occupied.berth (starts after))

theorem handle_vRun_tenancy (packet : Bytes) : tenancy.Keeps (handle_vRun env packet) := by
  have argv : tenancy.Keeps (setArgv packet) := tenancy_of_fixed
    (Keeps.ite (fun _ => Keeps.pure) fun _ =>
      Process.modifyProcess_fixed fun _ => ⟨rfl, rfl, rfl, rfl⟩)
  exact Keeps.bind Keeps.read fun _ => Keeps.ite (fun _ => reply_tenancy _) fun _ =>
    Keeps.bind argv fun _ => Keeps.bind Keeps.read fun _ =>
      Keeps.ite (fun _ => reply_tenancy _) fun _ =>
        Keeps.bind (tenancy_of_fixed (Process.initializeProgram_fixed env)) fun _ =>
          Keeps.ite (fun _ => reply_tenancy _) fun _ => launch_tenancy env

theorem handleCommand_tenancy (packet : Bytes) : tenancy.Keeps (handleCommand env packet) := by
  -- most handlers refuse when nothing is attached to
  have guarded {code : Util.ErrorCode} {rest : Prog Server Bool}
      (kept : berth.Keeps (do if !(← read hasInferior) then replyWithError env code else rest)) :
      tenancy.Keeps (do if !(← read hasInferior) then replyWithError env code else rest) :=
    tenancy_of (guarded_aloof code rest) kept
  cases packet with
  | nil => exact Keeps.pure
  | cons command arguments =>
      exact Keeps.ite (fun _ => Keeps.ite (fun _ => Keeps.pure) fun _ => reply_tenancy _) fun _ =>
        Keeps.ite (fun _ => guarded (handle_c_berth env arguments)) fun _ =>
        Keeps.ite (fun _ => guarded (berth_of_meets (handle_C_serves env arguments))) fun _ =>
        Keeps.ite (fun _ => handle_D_tenancy env arguments) fun _ =>
        Keeps.ite (fun _ => Keeps.ite (fun _ => Keeps.pure) fun _ =>
          guarded (berth_of_meets (handle_g_serves env))) fun _ =>
        Keeps.ite (fun _ => guarded (berth_of_meets (handle_G_serves env arguments))) fun _ =>
        Keeps.ite (fun _ => tenancy_of (handle_H_aloof arguments)
          (berth_of_meets (handle_H_serves env arguments))) fun _ =>
        Keeps.ite (fun _ => guarded (handle_m_berth env arguments)) fun _ =>
        Keeps.ite (fun _ => guarded (berth_of_meets (handle_M_serves env arguments))) fun _ =>
        Keeps.ite (fun _ => tenancy_of (handleQuery_aloof true arguments)
          (handleQuery_berth env true arguments)) fun _ =>
        Keeps.ite (fun _ => tenancy_of (handleQuery_aloof false arguments)
          (handleQuery_berth env false arguments)) fun _ =>
        Keeps.ite (fun _ => guarded (berth_of_meets (handle_T_serves env arguments))) fun _ =>
        Keeps.ite (fun _ =>
          Keeps.ite (fun _ => handle_vAttach_tenancy env _) fun _ =>
          Keeps.ite (fun _ => tenancy_of (handle_vCont_aloof _) (handle_vCont_berth env _)) fun _ =>
          Keeps.ite (fun _ => handle_vKill_tenancy env _) fun _ =>
          Keeps.ite (fun _ => handle_vRun_tenancy env _) fun _ => Keeps.pure) fun _ =>
        Keeps.ite (fun _ => Keeps.pure) fun _ => Keeps.pure

end Commands

end CommandHandler

/-! ## Exceptions and the other inputs -/

namespace RspServer

/-- The process and the exception port are not touched. -/
def apart : Frame RspServer where
  rel before after := after.core.process = before.core.process ∧
    after.core.exceptionPort = before.core.exceptionPort
  refl _ := ⟨rfl, rfl⟩
  trans first second := ⟨second.1.trans first.1, second.2.trans first.2⟩

def berthed : Frame RspServer := berth.pull core

theorem onServer_berthed {α : Type} {inner : Prog Server α} (kept : berth.Keeps inner) :
    berthed.Keeps (onServer inner) := fun server => kept server.core

theorem onServer_berthed_of_quiet {α : Type} {inner : Prog Server α} (runs : quiet.Runs inner) :
    berthed.Keeps (onServer inner) := onServer_berthed (berth_of_quiet runs)

theorem berthed_of_apart {α : Type} {program : Prog RspServer α} (kept : apart.Keeps program) :
    berthed.Keeps program := fun server => ⟨congrArg Process.eportKey (kept server).1, (kept server).2⟩

theorem tenancy_of_apart {α : Type} {program : Prog RspServer α} (kept : apart.Keeps program) :
    (tenancy.pull core).Keeps program := by
  intro server held
  obtain ⟨process, port⟩ := kept server
  rcases held with vacant | occupied
  · exact Or.inl (vacant.of_same process port)
  · exact Or.inr (occupied.berth ⟨congrArg Process.eportKey process, port⟩)

theorem modify_apart {update : RspServer → RspServer}
    (same : ∀ server, (update server).core = server.core) : apart.Keeps (modify update) := by
  intro server
  change (update server).core.process = _ ∧ (update server).core.exceptionPort = _
  rw [same]
  exact ⟨rfl, rfl⟩

theorem post_apart (isNotification : Bool) (data : Bytes) :
    apart.Keeps (onServer (postWriteTask isNotification data)) := fun _ => ⟨rfl, rfl⟩

theorem queueStopNotification_apart (env : Env) (event : Bytes) (timeout : Nat) :
    apart.Keeps (queueStopNotification env event timeout) := by
  have posted : apart.Keeps tryPostNextNotification := by
    refine Keeps.bind Keeps.read fun server => ?_
    split
    · exact Keeps.bind (modify_apart fun _ => rfl) fun _ => Keeps.bind (modify_apart fun _ => rfl)
        fun _ => Keeps.bind (post_apart _ _) fun _ => Keeps.bind (modify_apart fun _ => rfl) fun _ =>
          Keeps.pure
    · exact Keeps.pure
  exact Keeps.bind Keeps.read fun _ => Keeps.bind (modify_apart fun _ => rfl) fun _ =>
    Keeps.bind (modify_apart fun _ => rfl) fun _ => Keeps.bind posted fun _ => Keeps.pure

theorem onTimeout_apart (index : Nat) : apart.Keeps (onTimeout index) := by
  refine Keeps.bind Keeps.read fun tasks => ?_
  split
  · exact Keeps.pure
  · refine Keeps.bind (modify_apart fun _ => rfl) fun _ => Keeps.bind Keeps.read fun pending => ?_
    split
    · exact Keeps.pure
    · exact Keeps.ite (fun _ => Keeps.pure) fun _ => Keeps.bind (modify_apart fun _ => rfl) fun _ =>
        Keeps.bind (post_apart true _) fun _ => modify_apart fun _ => rfl

theorem onStopAck_apart : apart.Keeps onStopAck := by
  refine Keeps.bind Keeps.read fun server => ?_
  split
  · exact Keeps.pure
  all_goals
    exact Keeps.bind (modify_apart fun _ => rfl) fun _ => Keeps.bind (modify_apart fun _ => rfl)
      fun _ => Keeps.bind (modify_apart fun _ => rfl) fun _ => post_apart false _

section Exceptions

variable (env : Env)

theorem onThreadStarting_berthed (context : ExceptionContext) :
    berthed.Keeps (onThreadStarting env context) := by
  refine Keeps.bind Keeps.read fun process => ?_
  cases process.state with
  | starting => exact fun _ => ⟨rfl, rfl⟩
  | running => exact berthed_of_apart (queueStopNotification_apart env _ _)
  | new => exact Keeps.pure
  | gone => exact Keeps.pure

theorem onThreadExiting_berthed (tid : Koid) : berthed.Keeps (onThreadExiting env tid) :=
  Keeps.bind Keeps.read fun _ =>
    Keeps.bind (berthed_of_apart (queueStopNotification_apart env _ _)) fun _ =>
      onServer_berthed_of_quiet (Thread.resumeForExit_quiet env tid)

theorem onArchException_berthed (tid : Koid) (type : ExceptionType) (context : ExceptionContext) :
    berthed.Keeps (onArchException env tid type context) :=
  Keeps.bind (onServer_berthed_of_quiet (watchDynamicLinker_quiet env tid type)) fun _ =>
    Keeps.bind (onServer_berthed_of_quiet (Thread.onException_quiet env tid type context)) fun _ =>
      Keeps.bind Keeps.read fun _ => Keeps.ite (fun _ => Keeps.pure) fun _ =>
        Keeps.bind Keeps.read fun _ =>
          Keeps.bind (onServer_berthed_of_quiet (refreshedRegisters_quiet env tid)) fun _ =>
            berthed_of_apart (queueStopNotification_apart env _ _)

theorem onGone_vacates {server : RspServer} (occupied : server.core.Occupied) :
    (onGone env server).2.core.Vacant := by
  obtain ⟨_, told, ranExit, _⟩ := onProcessExit_calm env
    { server with core := (Process.setState .gone server.core).2 }
  have reported : berthed.Keeps (onProcessExit env) :=
    Keeps.bind (onServer_berthed_of_quiet (Server.setCurrentThread_quiet none)) fun _ =>
      Keeps.bind (onServer_berthed_of_quiet (Process.exitCode_quiet env)) fun _ =>
        berthed_of_apart (queueStopNotification_apart env _ _)
  have gone : (Process.setState .gone server.core).2.Occupied := occupied.berth ⟨rfl, rfl⟩
  have kept := reported { server with core := (Process.setState .gone server.core).2 }
  rw [ranExit] at kept
  obtain ⟨after, ran, vacant⟩ := Process.detach_vacates (gone.berth kept)
  have first : onServer (Process.setState .gone) server =
      (some (), { server with core := (Process.setState .gone server.core).2 }) := rfl
  rw [onGone, bind_of_some first, bind_of_some ranExit, bind_of_some (onServer_of_ran ran)]
  exact vacant

/-- An exception comes from the process that is attached to. -/
theorem onException_tenancy {server : RspServer} (occupied : server.core.Occupied)
    (type : ExceptionType) (context : ExceptionContext) :
    (onException env type context server).2.core.Tenancy := by
  obtain ⟨thread, core, ran, quiet⟩ := exceptionThread_quiet env context.tid server.core
  let found : RspServer := { server with core := core }
  have there : found.core.Occupied := occupied.berth quiet.berth
  have stopped {program : Prog RspServer Unit} (kept : berthed.Keeps program) :
      (program found).2.core.Tenancy := Or.inr (there.berth (kept found))
  -- only the end of the process ends the attachment
  rw [onException, bind_of_some (onServer_of_ran ran)]
  cases thread with
  | none =>
      cases type with
      | general | fatalPageFault | undefinedInstruction | swBreakpoint | hwBreakpoint
      | threadStarting | threadExiting => exact stopped Keeps.stop
      | gone => exact Or.inl (onGone_vacates env there)
      | unrecognized => exact stopped Keeps.pure
  | some tid =>
      have halted (type : ExceptionType) :
          berthed.Keeps (onServer (Thread.onException env tid type context)) :=
        onServer_berthed_of_quiet (Thread.onException_quiet env tid type context)
      cases type with
      | general | fatalPageFault | undefinedInstruction | swBreakpoint | hwBreakpoint =>
          exact stopped (onArchException_berthed env tid _ context)
      | threadStarting =>
          exact stopped (Keeps.bind (halted _) fun _ => onThreadStarting_berthed env context)
      | threadExiting =>
          exact stopped (Keeps.bind (halted _) fun _ => onThreadExiting_berthed env tid)
      | gone => exact Or.inl (onGone_vacates env there)
      | unrecognized => exact stopped Keeps.pure

theorem routeCommand_tenancy (packetData : Bytes) : tenancy.Keeps (routeCommand env packetData) :=
  Keeps.bind (handleCommand_tenancy env packetData) fun _ =>
    Keeps.ite (fun _ => Keeps.pure) fun _ => tenancy_of_fixed fun _ => ⟨rfl, rfl, rfl, rfl, id⟩

theorem onBytesRead_tenancy (bytes : Bytes) : (tenancy.pull core).Keeps (onBytesRead env bytes) := by
  have acked (verified : Bool) : (tenancy.pull core).Keeps (onServer (sendAck verified)) :=
    tenancy_of_apart fun _ => ⟨rfl, rfl⟩
  refine Keeps.ite (fun _ => Keeps.pure) fun _ => ?_
  split
  · exact acked false
  · exact Keeps.bind (acked true) fun _ => Keeps.ite (fun _ => tenancy_of_apart onStopAck_apart)
      fun _ server => routeCommand_tenancy env _ server.core

theorem handle_tenancy (input : Input) : (tenancy.pull core).Keeps (handle env input) := by
  cases input with
  | bytesRead bytes => exact onBytesRead_tenancy env bytes
  | exception key type context =>
      intro server held
      rw [handle_exception]
      split
      · rename_i bound
        exact onException_tenancy env (held.occupied_of_callback bound) type context
      · exact held
  | timeout index => exact tenancy_of_apart (onTimeout_apart index)
  | queueStopNotification event timeout =>
      exact tenancy_of_apart (queueStopNotification_apart env event timeout)
  | inferior kernel => exact tenancy_of_apart fun _ => ⟨rfl, rfl⟩

end Exceptions

end RspServer

theorem Debugserver.startUp_tenancy (env : Env) (config : Config) :
    tenancy.Keeps (startUp env config) := by
  have inferior : tenancy.Keeps (setUpInferior config) :=
    Keeps.ite (fun _ => tenancy_of_fixed (Process.initializePid_fixed _)) fun _ =>
      Keeps.bind (tenancy_of_fixed (Process.modifyProcess_fixed fun _ => ⟨rfl, rfl, rfl, rfl⟩))
        fun _ => Keeps.pure
  have asked (call : Call) : tenancy.Keeps (ask env call) := tenancy_of_fixed (ask_fixed env call)
  have connected : tenancy.Keeps (connect env) :=
    Keeps.bind (asked _) fun _ => Keeps.ite (fun _ => Keeps.pure) fun _ =>
      Keeps.bind Keeps.read fun _ => Keeps.ite
        (fun _ => Keeps.bind (attach_tenancy env) fun _ =>
          Keeps.ite (fun _ => Keeps.pure) fun _ => asked _)
        fun _ => asked _
  exact Keeps.bind inferior fun _ => Keeps.ite (fun _ => Keeps.pure) fun _ =>
    Keeps.bind (tenancy_of_fixed fun _ => ⟨rfl, rfl, rfl, rfl, id⟩) fun _ => connected

/-- From start-up on, in every state between two inputs. -/
theorem Debugserver.run_tenancy (env : Env) (config : Config) (inputs : List Input) :
    (run (RspServer.handle env) inputs (started env config)).2.core.Tenancy := by
  have preserved : ∀ (server : RspServer) (input : Input), server.core.Tenancy →
      (RspServer.handle env input server).2.core.Tenancy :=
    fun server input held => RspServer.handle_tenancy env input server held
  have first : (newServer config).Tenancy := Or.inl ⟨rfl, rfl, rfl, rfl, rfl⟩
  exact run_invariant preserved inputs (started env config) (startUp_tenancy env config _ first)

end Gdbserver
