import Gdbserver.Inferior.LifecycleProperties
import Gdbserver.Server.CommandHandler

/-!
# The replies of the command handlers

A handler that handles its command calls the response callback once, one that
does not leaves the posted tasks alone. The handlers that do not start, attach
or end the inferior also leave its lifecycle alone.
-/

set_option autoImplicit false

namespace Gdbserver

open Logic Prog Frame Contract

/-- The payload and its frame fit the output buffer. -/
def Fits (data : Bytes) : Prop := data.length + 4 < RspServer.kMaxBufferSize

instance (data : Bytes) : Decidable (Fits data) := inferInstanceAs (Decidable (_ < _))

/-- What a command posts: one response if it was handled, and perhaps the
request to quit behind it. -/
def Answer (fits : Bytes → Prop) (handled : Bool) (posts : List Post) : Prop :=
  if handled then
    ∃ response tail, posts = .write false response :: tail ∧ (tail = [] ∨ tail = [.quit]) ∧
      fits response
  else posts = []

/-- The three things that can be posted for a packet. -/
theorem Answer.cases_posts {fits : Bytes → Prop} {holds : Bool → List Post → Prop}
    {handled : Bool} {posts : List Post} (answer : Answer fits handled posts)
    (nothing : holds false []) (response : ∀ bytes, fits bytes → holds true [.write false bytes])
    (quits : ∀ bytes, fits bytes → holds true [.write false bytes, .quit]) :
    holds handled posts := by
  cases handled with
  | false =>
      rw [show posts = [] from answer]
      exact nothing
  | true =>
      obtain ⟨bytes, tail, same, shape, short⟩ := answer
      cases shape with
      | inl empty =>
          rw [same, empty]
          exact response bytes short
      | inr quit =>
          rw [same, quit]
          exact quits bytes short

def Server.post (server : Server) (posts : List Post) : Server :=
  { server with posted := server.posted ++ posts }

/-- Posting an answer is all that is seen of a command. -/
def Served (fits : Bytes → Prop) (before : Server) (handled : Bool) (after : Server) : Prop :=
  ∃ posts, Answer fits handled posts ∧ Still (before.post posts) after

theorem Still.post {before after : Server} (kept : Still before after) (posts : List Post) :
    Still (before.post posts) (after.post posts) :=
  ⟨kept.hasProcess, kept.lifecycle, kept.exceptionPort,
    congrArg (fun posted => posted ++ posts) kept.posted, kept.log⟩

def serves (fits : Bytes → Prop) : Contract still Bool where
  spec := Served fits
  prepend := by
    rintro before middle after handled kept ⟨posts, answer, served⟩
    exact ⟨posts, answer, still.trans (kept.post posts) served⟩

theorem Served.observe_nil {fits : Bytes → Prop} {before after : Server} {handled : Bool}
    (served : Served fits before handled after) : Served fits (before.observe []) handled after :=
  have same : Still (before.observe []) before :=
    Quiet.still ⟨rfl, rfl, rfl, rfl, (List.append_nil _).symm⟩
  (serves fits).prepend same served

theorem Answer.mono {fits coarser : Bytes → Prop} (implies : ∀ response, fits response → coarser response)
    {handled : Bool} {posts : List Post} (answer : Answer fits handled posts) :
    Answer coarser handled posts := by
  cases handled with
  | false => exact answer
  | true =>
      obtain ⟨response, tail, same, shape, fit⟩ := answer
      exact ⟨response, tail, same, shape, implies response fit⟩

theorem Served.mono {fits coarser : Bytes → Prop} {before after : Server} {handled : Bool}
    (served : Served fits before handled after)
    (implies : ∀ response, fits response → coarser response) :
    Served coarser before handled after := by
  obtain ⟨posts, answer, kept⟩ := served
  exact ⟨posts, answer.mono implies, kept⟩

theorem Util.buildErrorPacket_length (ftl : Ftl) (code : Util.ErrorCode) :
    (Util.buildErrorPacket ftl code).length ≤ 12 := by
  have digits := ftl.uintToDecimal_length code.value
  unfold Util.buildErrorPacket
  dsimp only
  split <;> simp only [List.length_cons] <;> omega

theorem buildErrorPacket_fits (ftl : Ftl) (code : Util.ErrorCode) :
    Fits (Util.buildErrorPacket ftl code) := by
  have short := Util.buildErrorPacket_length ftl code
  simp only [Fits, RspServer.kMaxBufferSize]
  omega

namespace CommandHandler

variable (env : Env)

theorem pure_false_serves {fits : Bytes → Prop} : (serves fits).Meets (pure false) := fun server =>
  ⟨false, server, rfl, [], rfl, Quiet.still ⟨rfl, rfl, rfl, (List.append_nil _).symm, rfl⟩⟩

theorem reply_serves {fits : Bytes → Prop} {response : Bytes} (fit : fits response) :
    (serves fits).Meets (reply response) := fun server =>
  ⟨true, server.post [.write false response], rfl, [.write false response],
    ⟨response, [], rfl, Or.inl rfl, fit⟩, still.refl _⟩

theorem replyOK_serves : (serves Fits).Meets replyOK := reply_serves (by decide)

theorem replyWithError_serves (code : Util.ErrorCode) :
    (serves Fits).Meets (replyWithError env code) :=
  reply_serves (buildErrorPacket_fits env.ftl code)

theorem setPC_still (tid : Koid) (addr : UInt64) : still.Runs (setPC env tid addr) :=
  Runs.bind (Registers.refreshGeneralRegisters_beside env tid).quiet.still fun _ =>
    Runs.ite (fun _ => Runs.pure) fun _ =>
      Runs.bind (Thread.updateRegisters_beside tid _).quiet.still fun _ =>
        Runs.ite (fun _ => Runs.pure) fun _ => (Registers.writeGeneralRegisters_beside env tid).quiet.still

theorem resumeThread_serves (tid : Koid) : (serves Fits).Meets (resumeThread env tid) :=
  Meets.bind (Thread.resume_still env tid) fun _ =>
    Meets.ite (fun _ => replyWithError_serves env .perm) fun _ => replyOK_serves

theorem continueAt_serves (tid : Koid) (addr : UInt64) :
    (serves Fits).Meets (do
      if !(← setPC env tid addr) then replyWithError env .perm else resumeThread env tid) :=
  Meets.bind (setPC_still env tid addr) fun _ =>
    Meets.ite (fun _ => replyWithError_serves env .perm) fun _ => resumeThread_serves env tid

theorem handle_C_serves (packet : Bytes) : (serves Fits).Meets (handle_C env packet) := by
  refine Meets.bind Runs.read fun _ => Meets.ite (fun _ => replyWithError_serves env .perm) fun _ =>
    Meets.bind Runs.read fun currentThread => ?_
  cases currentThread with
  | none => exact replyWithError_serves env .perm
  | some tid =>
      dsimp only
      split
      · exact replyWithError_serves env .inval
      · refine Meets.bind Runs.read fun _ => Meets.ite (fun _ => replyWithError_serves env .perm)
          fun _ => Meets.ite (fun _ => replyWithError_serves env .perm) fun _ =>
          Meets.ite (fun _ => resumeThread_serves env tid) fun _ => ?_
        split
        · exact replyWithError_serves env .inval
        · exact continueAt_serves env tid _

theorem generalRegisters_fits (currentThread : Option Koid) (server : Server) :
    ∃ value after, generalRegisters env currentThread server = (some value, after) ∧
      Still server after ∧ Fits value := by
  cases currentThread with
  | none =>
      have short := Registers.getUninitializedGeneralRegistersAsString_length env.arch
      refine ⟨_, _, rfl, still.refl server, ?_⟩
      simp only [Fits, RspServer.kMaxBufferSize]
      omega
  | some tid =>
      have short := Registers.getGeneralRegistersAsString_length env.arch (server.thread tid).gregs
        (env.now .uninitialized server)
      refine ⟨_, _, rfl, Quiet.still ⟨rfl, rfl, rfl, rfl, rfl⟩, ?_⟩
      exact Nat.lt_of_le_of_lt (Nat.add_le_add_right short 4) (by decide)

theorem handle_g_serves : (serves Fits).Meets (handle_g env) :=
  Meets.bind Runs.read fun _ => Meets.ite (fun _ => replyWithError_serves env .noent) fun _ =>
    Meets.bind Runs.read fun currentThread =>
      Meets.bind_of (generalRegisters_fits env currentThread) fun _ fits =>
        Meets.ite (fun _ => replyWithError_serves env .perm) fun _ => reply_serves fits

theorem handle_G_serves (packet : Bytes) : (serves Fits).Meets (handle_G env packet) := by
  refine Meets.bind Runs.read fun _ => Meets.ite (fun _ => replyWithError_serves env .noent) fun _ =>
    Meets.bind Runs.read fun currentThread => ?_
  cases currentThread with
  | none => exact replyWithError_serves env .noent
  | some tid =>
      exact Meets.bind (Thread.updateRegisters_beside tid _).quiet.still fun _ =>
        Meets.ite (fun _ => replyWithError_serves env .perm) fun _ =>
          Meets.bind (Registers.writeGeneralRegisters_beside env tid).quiet.still fun _ =>
            Meets.ite (fun _ => replyWithError_serves env .perm) fun _ => replyOK_serves

theorem chooseThread_still (tid : Int64) : still.Runs (chooseThread env tid) :=
  Runs.bind (Process.ensureThreadMapFresh_quiet env).still fun _ =>
    Runs.ite (fun _ => (Process.pickOneThread_quiet env).still) fun _ =>
      (Process.findThreadById_quiet env tid.toUInt64).still

theorem setCurrentThread_serves (tid : Int64) : (serves Fits).Meets (setCurrentThread env tid) := by
  have reset : (serves Fits).Meets (do
      Server.setCurrentThread none
      replyOK) :=
    Meets.bind (Server.setCurrentThread_quiet none).still fun _ => replyOK_serves
  refine Meets.bind Runs.read fun _ => Meets.ite
    (fun _ => Meets.ite (fun _ => replyWithError_serves env .perm) fun _ => reset) fun _ =>
    Meets.bind Runs.read fun _ => Meets.ite (fun _ => reset) fun _ =>
    Meets.bind (chooseThread_still env tid) fun chosen => ?_
  cases chosen with
  | none => exact replyWithError_serves env .perm
  | some found =>
      exact Meets.bind (Server.setCurrentThread_quiet (some found)).still fun _ => replyOK_serves

theorem handle_H_serves (packet : Bytes) : (serves Fits).Meets (handle_H env packet) := by
  unfold handle_H
  split
  · exact replyWithError_serves env .inval
  · exact replyWithError_serves env .inval
  · refine Meets.ite (fun _ => Meets.bind (ask_quiet env _).still fun _ => ?_) fun _ => pure_false_serves
    split
    · exact replyWithError_serves env .inval
    · exact Meets.ite (fun _ => pure_false_serves) fun _ =>
        Meets.ite (fun _ => replyWithError_serves env .inval) fun _ => setCurrentThread_serves env _

theorem storeData_serves (addr : UInt64) (data : Bytes) :
    (serves Fits).Meets (storeData env addr data) :=
  Meets.ite (fun _ => replyOK_serves) fun _ =>
    Meets.bind (Process.writeMemory_quiet env addr data).still fun _ =>
      Meets.ite (fun _ => replyWithError_serves env .perm) fun _ => replyOK_serves

theorem handle_M_serves (packet : Bytes) : (serves Fits).Meets (handle_M env packet) := by
  refine Meets.bind Runs.read fun _ => Meets.ite (fun _ => replyWithError_serves env .noent) fun _ => ?_
  split
  · split
    · split
      · exact replyWithError_serves env .inval
      · exact Meets.ite (fun _ => replyWithError_serves env .inval) fun _ =>
          storeData_serves env _ _
    · exact replyWithError_serves env .inval
  · exact replyWithError_serves env .inval

theorem handleQueryAttached_serves (params : Bytes) :
    (serves Fits).Meets (handleQueryAttached env params) :=
  Meets.ite (fun _ => replyWithError_serves env .inval) fun _ => reply_serves (by decide)

theorem replyThreadId_serves (tid : Koid) : (serves Fits).Meets (replyThreadId env tid) := by
  refine reply_serves ?_
  have short := env.ftl.uint64ToHex_length tid
  have letters : (ascii "QC").length = 2 := rfl
  simp only [Fits, RspServer.kMaxBufferSize, List.length_append, letters]
  omega

theorem handleQueryCurrentThreadId_serves (params : Bytes) :
    (serves Fits).Meets (handleQueryCurrentThreadId env params) := by
  refine Meets.ite (fun _ => replyWithError_serves env .inval) fun _ =>
    Meets.bind Runs.read fun currentThread => ?_
  cases currentThread with
  | some tid => exact replyThreadId_serves env tid
  | none =>
      refine Meets.bind Runs.read fun _ => Meets.ite (fun _ => replyWithError_serves env .perm)
        fun _ => Meets.bind (Process.pickOneThread_quiet env).still fun picked => ?_
      cases picked with
      | none => exact replyWithError_serves env .perm
      | some tid => exact replyThreadId_serves env tid

theorem replyText_serves {text : Bytes} (short : text.length ≤ 1000) :
    (serves Fits).Meets (replyText text) := by
  refine reply_serves ?_
  simp only [Fits, RspServer.kMaxBufferSize, Util.encodeString_length]
  omega

theorem badCommand_serves : (serves Fits).Meets badCommand := replyText_serves (by decide)

theorem rcmdQuit_serves : (serves Fits).Meets rcmdQuit := fun server =>
  ⟨true, _, rfl, [.write false (ascii "OK"), .quit],
    ⟨ascii "OK", [.quit], rfl, Or.inr rfl, by decide⟩,
    Quiet.still ⟨rfl, rfl, rfl, (List.append_assoc ..), rfl⟩⟩

theorem rcmdSet_serves (arguments : List Bytes) :
    (serves Fits).Meets (rcmdSet env arguments) := by
  unfold rcmdSet
  split
  · rename_i parameter value
    have set : still.Runs (RspServer.setParameter env parameter value) := by
      refine Runs.ite (fun _ => Runs.pure) fun _ => ?_
      split
      · exact Runs.pure
      · exact Runs.ite (fun _ => Runs.pure) fun _ =>
          Runs.bind (Runs.modify fun _ => Quiet.still ⟨rfl, rfl, rfl, rfl, rfl⟩) fun _ => Runs.pure
    exact Meets.bind set fun _ => Meets.ite (fun _ => badCommand_serves) fun _ => replyOK_serves
  · exact badCommand_serves

theorem rcmdShow_serves (arguments : List Bytes) :
    (serves Fits).Meets (rcmdShow env arguments) := by
  unfold rcmdShow
  split
  · rename_i parameter
    have shown : ∀ server, ∃ value after,
        RspServer.getParameter env parameter server = (some value, after) ∧ Still server after ∧
          ∀ text, value = some text → text.length ≤ 11 := by
      intro server
      unfold RspServer.getParameter
      split
      · exact ⟨_, _, rfl, still.refl server, fun _ => nofun⟩
      · refine ⟨_, _, rfl, still.refl server, fun text same => ?_⟩
        cases same
        exact env.ftl.intToDecimal_length server.minLogLevel
    refine Meets.bind_of shown fun value short => ?_
    cases value with
    | none => exact badCommand_serves
    | some text =>
        refine replyText_serves ?_
        have bound := short text rfl
        have first : (ascii "Value is ").length = 9 := rfl
        have last : (ascii "\n").length = 1 := rfl
        simp only [List.length_append, first, last]
        omega
  · exact badCommand_serves

theorem kHelpText_short : kHelpText.length ≤ 1000 := by
  -- the parts are measured one by one, without putting them together
  simp only [kHelpText, ascii, List.length_map, String.length_toList, String.length_append]
  decide +kernel

theorem handleQueryRcmd_serves (command : Bytes) :
    (serves Fits).Meets (handleQueryRcmd env command) := by
  unfold handleQueryRcmd
  split
  · exact replyOK_serves
  · exact Meets.ite
      (fun _ => Meets.ite (fun _ => badCommand_serves) fun _ => rcmdQuit_serves) fun _ =>
      Meets.ite
        (fun _ => Meets.ite (fun _ => badCommand_serves) fun _ =>
          replyText_serves kHelpText_short)
        fun _ => Meets.ite (fun _ => rcmdSet_serves env _) fun _ =>
          Meets.ite (fun _ => rcmdShow_serves env _) fun _ => replyText_serves (by decide)

theorem handleSetNonStop_serves (params : Bytes) :
    (serves Fits).Meets (handleSetNonStop env params) := by
  unfold handleSetNonStop
  split
  · exact Meets.ite (fun _ => replyOK_serves) fun _ =>
      Meets.ite (fun _ => replyWithError_serves env .perm) fun _ => replyWithError_serves env .inval
  · exact replyWithError_serves env .inval

theorem inspectLiveThreads_quiet {α : Type} (view : Server → α) :
    quiet.Runs (inspectLiveThreads env view) :=
  Runs.bind (Process.ensureThreadMapFresh_quiet env) fun _ => Runs.read

theorem setThreadInfoSequence_still (active : Bool) : still.Runs (setThreadInfoSequence active) :=
  Runs.modify fun _ => Quiet.still ⟨rfl, rfl, rfl, rfl, rfl⟩

theorem handleQueryThreadInfo_rest_serves :
    (serves Fits).Meets (handleQueryThreadInfo env false) :=
  Meets.bind Runs.read fun _ => Meets.ite (fun _ => replyWithError_serves env .perm) fun _ =>
    Meets.ite
      (fun _ => Meets.bind Runs.read fun _ =>
        Meets.ite (fun _ => replyWithError_serves env .perm) fun _ =>
          Meets.bind (setThreadInfoSequence_still false) fun _ => reply_serves (by decide))
      fun wrong => absurd rfl wrong

theorem handle_Q_serves (name params : Bytes) : (serves Fits).Meets (handle_Q env name params) :=
  Meets.ite (fun _ => handleSetNonStop_serves env params) fun _ => pure_false_serves

theorem handle_T_serves (packet : Bytes) : (serves Fits).Meets (handle_T env packet) := by
  refine Meets.bind Runs.read fun _ => Meets.ite (fun _ => replyWithError_serves env .noent) fun _ => ?_
  split
  · exact replyWithError_serves env .inval
  · refine Meets.bind (Process.findThreadById_quiet env _).still fun found => ?_
    cases found with
    | none => exact replyWithError_serves env .noent
    | some tid =>
        exact Meets.bind Runs.read fun _ =>
          Meets.ite (fun _ => replyWithError_serves env .noent) fun _ => replyOK_serves

theorem resolvePickOnes_quiet (actions : List Entry) : quiet.Runs (resolvePickOnes env actions) :=
  Runs.forM fun _ _ => Runs.ite
    (fun _ => Runs.bind (Process.pickOneThread_quiet env) fun _ => Runs.pure) fun _ => Runs.pure

theorem stepStopped_still (tid : Koid) : still.Runs (stepStopped env tid) :=
  Runs.bind Runs.read fun _ => Runs.ite
    (fun _ => Runs.bind (Thread.step_still env tid) fun _ => Runs.pure) fun _ => Runs.pure

theorem resumeStopped_still (tid : Koid) : still.Runs (resumeStopped env tid) :=
  Runs.bind Runs.read fun _ => Runs.ite
    (fun _ => Runs.bind (Thread.resume_still env tid) fun _ => Runs.pure) fun _ => Runs.pure

theorem runAction_still (tid : Koid) (action : Action) : still.Runs (runAction env tid action) := by
  cases action with
  | none => exact Runs.pure
  | «continue» => exact Runs.bind (resumeStopped_still env tid) fun _ => stepStopped_still env tid
  | step => exact stepStopped_still env tid

theorem runActions_still (actions : ThreadActionList) : still.Runs (runActions env actions) :=
  Process.forEachLiveThread_still env fun tid =>
    Runs.bind Runs.read fun _ => runAction_still env tid _

def applyActionsEvents (server : Server) : List Event :=
  asserted .vContLive server.process.isLive ++ asserted .vContAttached server.process.isAttached

theorem applyActions_checked (actions : ThreadActionList) (server : Server) :
    applyActions env actions server = (do
      resolvePickOnes env actions.actions
      if !(← inspectLiveThreads env (actionsOk actions)) then replyWithError env .inval
      else do
        runActions env actions
        replyOK : Prog Server Bool) (server.observe (applyActionsEvents server)) := by
  simp only [applyActions, dcheck_eq, read_bind, modify_bind, Server.observe, applyActionsEvents,
    List.append_assoc]

theorem applyActions_served (actions : ThreadActionList) (server : Server) :
    ∃ handled after, applyActions env actions server = (some handled, after) ∧
      Served Fits (server.observe (applyActionsEvents server)) handled after := by
  have rest : (serves Fits).Meets (do
      resolvePickOnes env actions.actions
      if !(← inspectLiveThreads env (actionsOk actions)) then replyWithError env .inval
      else do
        runActions env actions
        replyOK) :=
    Meets.bind (resolvePickOnes_quiet env actions.actions).still fun _ =>
      Meets.bind (inspectLiveThreads_quiet env _).still fun _ =>
        Meets.ite (fun _ => replyWithError_serves env .inval) fun _ =>
          Meets.bind (runActions_still env actions) fun _ => replyOK_serves
  rw [applyActions_checked]
  exact rest _

/-- The list a `vCont` packet is read as. -/
def vContActions (packet : Bytes) (server : Server) : ThreadActionList :=
  ThreadActionList.ofString env.ftl (env.now .uninitialized server) packet server.process.id

def vContEvents (packet : Bytes) (server : Server) : List Event :=
  if server.hasProcess then
    asserted .entryPid ((vContActions env packet server).actions.all fun entry => entry.pid ≠ 0) ++
      if (vContActions env packet server).valid then applyActionsEvents server else []
  else []

theorem handle_vCont_parsed (packet : Bytes) (server : Server) (has : server.hasProcess = true) :
    handle_vCont env packet server =
      (if !(vContActions env packet server).valid then replyWithError env .inval
        else applyActions env (vContActions env packet server))
        ((server.asked .uninitialized).observe (asserted .entryPid
          ((vContActions env packet server).actions.all fun entry => entry.pid ≠ 0))) := by
  simp only [handle_vCont, read_bind, has, dcheck_eq]
  rfl

theorem handle_vCont_served (packet : Bytes) (server : Server) :
    ∃ handled after, handle_vCont env packet server = (some handled, after) ∧
      Served Fits (server.observe (vContEvents env packet server)) handled after := by
  have answered {start : Server} {program : Prog Server Bool} (served : (serves Fits).Meets program)
      (same : Still (server.observe (vContEvents env packet server)) start) :
      ∃ handled after, program start = (some handled, after) ∧
        Served Fits (server.observe (vContEvents env packet server)) handled after := by
    obtain ⟨handled, after, ran, kept⟩ := served start
    exact ⟨handled, after, ran, (serves Fits).prepend same kept⟩
  cases has : server.hasProcess with
  | false =>
      obtain ⟨handled, after, ran, served⟩ := replyWithError_serves env .perm server
      simp only [handle_vCont, read_bind, has, vContEvents]
      exact ⟨handled, after, ran, served.observe_nil⟩
  | true =>
      let actions := vContActions env packet server
      let checked := asserted .entryPid (actions.actions.all fun entry => entry.pid ≠ 0)
      rw [handle_vCont_parsed env packet server has]
      cases valid : actions.valid with
      | false =>
          refine answered (replyWithError_serves env .inval) ?_
          rw [vContEvents, if_pos has, if_neg (by rw [valid]; exact Bool.false_ne_true),
            List.append_nil]
          exact Quiet.still ⟨rfl, rfl, rfl, rfl, rfl⟩
      | true =>
          obtain ⟨handled, after, ran, served⟩ := applyActions_served env actions
            ((server.asked .uninitialized).observe checked)
          refine ⟨handled, after, ran, (serves Fits).prepend ?_ served⟩
          rw [vContEvents, if_pos has, if_pos valid]
          exact Quiet.still ⟨rfl, rfl, rfl, rfl, (List.append_assoc ..)⟩

def queryEvents (packet : Bytes) : List Event :=
  asserted .extractParametersNonempty (packet ≠ [])

end CommandHandler

end Gdbserver
