import Gdbserver.Inferior.Actions
import Gdbserver.Server.CommandHandler

/-!
# What a command can do

Every handler takes a number of actions, and calls the response callback with
one of a few kinds of responses. Only `qXfer` sends anything else.
-/

set_option autoImplicit false

namespace Gdbserver

open Logic Prog Frame

namespace CommandHandler

/-- The responses by how they are put together. -/
inductive Plain (env : Env) : Bytes → Prop where
  | fixed {response : Bytes}
      (known : response ∈ [ascii "OK", ascii "0", ascii "l", kSupportedFeatures]) :
      Plain env response
  | error (code : Util.ErrorCode) : Plain env (Util.buildErrorPacket env.ftl code)
  | hex (bytes : Bytes) : Plain env (Util.encodeByteArrayString bytes)
  | zeros (count : Nat) : Plain env (List.replicate count (chr '0'))
  | threadId (tid : Koid) : Plain env (ascii "QC" ++ env.ftl.uint64ToHex tid)
  | threadInfo (ids : List Koid) : Plain env (threadInfo env ids)

/-- Everything a command may post, but for the data of a transfer. -/
structure Allows (env : Env) (allowed : Permits) : Prop where
  plain : ∀ response, Plain env response → allowed.posts (.write false response)
  quit : allowed.posts .quit
  resumes : ∀ tid, allowed.resumes tid

section Handlers

variable {env : Env} {allowed : Permits}

theorem callback_acts {response : Bytes} (may : allowed.posts (.write false response)) :
    (acting env allowed).Keeps (callback response) :=
  Keeps.step fun server => .posted server (.write false response) may

theorem reply_acts {response : Bytes} (may : allowed.posts (.write false response)) :
    (acting env allowed).Keeps (reply response) :=
  Keeps.bind (callback_acts may) fun _ => Keeps.pure

theorem setPC_acts (tid : Koid) (addr : UInt64) : (acting env allowed).Keeps (setPC env tid addr) :=
  Keeps.bind (Registers.refreshGeneralRegisters_acts tid) fun _ =>
    Keeps.ite (fun _ => Keeps.pure) fun _ => storeRegisters_acts tid _ fun other _ => by
      simp [Registers.setRegister, other, Arch.getPCRegisterNumber]

variable (allows : Allows env allowed)
include allows

theorem replyOK_acts : (acting env allowed).Keeps replyOK :=
  reply_acts (allows.plain _ (.fixed (by simp)))

theorem replyWithError_acts (code : Util.ErrorCode) :
    (acting env allowed).Keeps (replyWithError env code) :=
  reply_acts (allows.plain _ (.error code))

theorem resumeThread_acts (tid : Koid) : (acting env allowed).Keeps (resumeThread env tid) :=
  Keeps.bind (Thread.resume_acts tid (allows.resumes tid)) fun _ =>
    Keeps.ite (fun _ => replyWithError_acts allows .perm) fun _ => replyOK_acts allows

theorem continueAt_acts (tid : Koid) (addr : UInt64) :
    (acting env allowed).Keeps (do
      if !(← setPC env tid addr) then replyWithError env .perm else resumeThread env tid) :=
  Keeps.bind (setPC_acts tid addr) fun _ =>
    Keeps.ite (fun _ => replyWithError_acts allows .perm) fun _ => resumeThread_acts allows tid

theorem startInferior_acts : (acting env allowed).Keeps (startInferior env) := by
  refine Keeps.bind Keeps.read fun _ => Keeps.bind (dcheck_acts _ _) fun _ =>
    Keeps.bind Process.start_acts fun _ => Keeps.ite (fun _ => replyWithError_acts allows .perm)
      fun _ server => rel_bind (Process.pickOneThread_acts server) fun picked reached ran =>
        rel_bind ?_ fun _ last _ => replyOK_acts allows last
  cases picked with
  | none => exact .refl
  | some tid => exact Server.setCurrentThread_acts (Process.pickOneThread_found ran)

theorem handle_c_acts (packet : Bytes) : (acting env allowed).Keeps (handle_c env packet) := by
  refine Keeps.bind Keeps.read fun _ => Keeps.ite (fun _ => replyWithError_acts allows .perm)
    fun _ => Keeps.bind Keeps.read fun currentThread => Keeps.ite (fun _ => ?_) fun _ => ?_
  · cases currentThread with
    | some tid => exact resumeThread_acts allows tid
    | none => exact startInferior_acts allows
  · cases env.ftl.stringToUInt64 packet with
    | none => exact replyWithError_acts allows .inval
    | some addr =>
        cases currentThread with
        | none =>
            exact Keeps.bind Keeps.read fun _ => Keeps.bind (dcheck_acts _ _) fun _ =>
              replyWithError_acts allows .perm
        | some tid => exact continueAt_acts allows tid addr

theorem handle_C_acts (packet : Bytes) : (acting env allowed).Keeps (handle_C env packet) := by
  refine Keeps.bind Keeps.read fun _ => Keeps.ite (fun _ => replyWithError_acts allows .perm)
    fun _ => Keeps.bind Keeps.read fun currentThread => ?_
  cases currentThread with
  | none => exact replyWithError_acts allows .perm
  | some tid =>
      dsimp only
      split
      · exact replyWithError_acts allows .inval
      · refine Keeps.bind Keeps.read fun _ => Keeps.ite (fun _ => replyWithError_acts allows .perm)
          fun _ => Keeps.ite (fun _ => replyWithError_acts allows .perm) fun _ =>
          Keeps.ite (fun _ => resumeThread_acts allows tid) fun _ => ?_
        split
        · exact replyWithError_acts allows .inval
        · exact continueAt_acts allows tid _

theorem handle_D_acts (packet : Bytes) : (acting env allowed).Keeps (handle_D env packet) := by
  have detached : (acting env allowed).Keeps (detachInferior env) :=
    Keeps.bind Keeps.read fun _ => Keeps.ite (fun _ => replyWithError_acts allows .noent) fun _ =>
      Keeps.bind Process.detach_acts fun _ =>
        Keeps.ite (fun _ => replyWithError_acts allows .perm) fun _ => replyOK_acts allows
  refine Keeps.bind Keeps.read fun _ => Keeps.ite (fun _ => replyWithError_acts allows .perm)
    fun _ => ?_
  cases packet with
  | nil => exact detached
  | cons first rest =>
      refine Keeps.ite (fun _ => ?_) fun _ => replyWithError_acts allows .inval
      cases env.ftl.stringToUInt64 rest with
      | none => exact replyWithError_acts allows .inval
      | some pid =>
          exact Keeps.bind Keeps.read fun _ =>
            Keeps.ite (fun _ => replyWithError_acts allows .inval) fun _ => detached

theorem handle_g_acts : (acting env allowed).Keeps (handle_g env) := by
  refine Keeps.bind Keeps.read fun _ => Keeps.ite (fun _ => replyWithError_acts allows .noent)
    fun _ => Keeps.bind Keeps.read fun currentThread server =>
      rel_bind ?_ fun result reached ran => ?_
  · cases currentThread with
    | none => exact Keeps.pure server
    | some tid => exact Keeps.bind (ask_acts rfl) (fun _ => Keeps.read) server
  · by_cases empty : result = []
    · rw [if_pos empty]
      exact replyWithError_acts allows .perm reached
    · rw [if_neg empty]
      refine reply_acts (allows.plain _ ?_) reached
      cases currentThread with
      | none =>
          cases ran
          unfold Registers.getUninitializedGeneralRegistersAsString at empty ⊢
          cases arch : env.arch with
          | amd64 => exact .zeros _
          | arm64 => exact .zeros _
          | other => exact absurd (by rw [arch]) empty
      | some tid =>
          cases ran
          unfold Registers.getGeneralRegistersAsString at empty ⊢
          cases arch : env.arch with
          | amd64 => exact .hex _
          | arm64 => exact .hex _
          | other => exact absurd (by rw [arch]) empty

theorem handle_G_acts (packet : Bytes) : (acting env allowed).Keeps (handle_G env packet) := by
  refine Keeps.bind Keeps.read fun _ => Keeps.ite (fun _ => replyWithError_acts allows .noent)
    fun _ => Keeps.bind Keeps.read fun currentThread => ?_
  cases currentThread with
  | none => exact replyWithError_acts allows .noent
  | some tid =>
      have stored : (acting env allowed).Keeps (do
          if !(← Thread.updateRegisters tid fun gregs =>
              Registers.setGeneralRegistersFromString env.arch gregs packet) then pure false
          else Registers.writeGeneralRegisters env tid) :=
        storeRegisters_acts tid _ fun other _ => by
          simp [Registers.setGeneralRegistersFromString, other]
      dsimp only
      rw [check_both]
      exact Keeps.bind stored fun _ =>
        Keeps.ite (fun _ => replyWithError_acts allows .perm) fun _ => replyOK_acts allows

omit allows in
theorem chooseThread_acts (tid : Int64) : (acting env allowed).Keeps (chooseThread env tid) :=
  Keeps.bind Process.ensureThreadMapFresh_acts fun _ =>
    Keeps.ite (fun _ => Process.pickOneThread_acts) fun _ => Process.findThreadById_acts _

omit allows in
theorem chooseThread_found {tid : Int64} {server after : Server} {found : Koid}
    (ran : chooseThread env tid server = (some (some found), after)) :
    found ∈ after.process.threads.keys := by
  rcases stopped_or_ran (Process.ensureThreadMapFresh env) server with
    ⟨reached, taken⟩ | ⟨_, reached, taken⟩
  · rw [chooseThread, bind_of_none taken] at ran
    cases ran
  · rw [chooseThread, bind_of_some taken] at ran
    split at ran
    · exact Process.pickOneThread_found ran
    · obtain ⟨rfl, member⟩ := Process.findThreadById_found ran
      exact member

theorem setCurrentThread_acts (tid : Int64) :
    (acting env allowed).Keeps (setCurrentThread env tid) := by
  have reset : (acting env allowed).Keeps (do
      Server.setCurrentThread none
      replyOK) :=
    Keeps.bind Server.unsetCurrentThread_acts fun _ => replyOK_acts allows
  refine Keeps.bind Keeps.read fun _ => Keeps.ite
    (fun _ => Keeps.ite (fun _ => replyWithError_acts allows .perm) fun _ => reset) fun _ =>
    Keeps.bind Keeps.read fun _ => Keeps.ite (fun _ => reset) fun _ =>
    fun server => rel_bind (chooseThread_acts tid server) fun found reached ran => ?_
  cases found with
  | none => exact replyWithError_acts allows .perm reached
  | some tid =>
      exact rel_bind (Server.setCurrentThread_acts (chooseThread_found ran)) fun _ last _ =>
        replyOK_acts allows last

theorem handle_H_acts (packet : Bytes) : (acting env allowed).Keeps (handle_H env packet) := by
  unfold handle_H
  split
  · exact replyWithError_acts allows .inval
  · exact replyWithError_acts allows .inval
  · refine Keeps.ite (fun _ => Keeps.bind (ask_acts rfl) fun _ => ?_) fun _ => Keeps.pure
    split
    · exact replyWithError_acts allows .inval
    · exact Keeps.ite (fun _ => Keeps.pure) fun _ =>
        Keeps.ite (fun _ => replyWithError_acts allows .inval) fun _ => setCurrentThread_acts allows _

theorem handle_m_acts (packet : Bytes) : (acting env allowed).Keeps (handle_m env packet) := by
  refine Keeps.bind Keeps.read fun _ => Keeps.ite (fun _ => replyWithError_acts allows .noent)
    fun _ => ?_
  split
  · split
    · exact replyWithError_acts allows .noent
    · refine Keeps.bind (Process.readMemory_acts _ _) fun buffer => ?_
      cases buffer with
      | none => exact replyWithError_acts allows .perm
      | some bytes => exact reply_acts (allows.plain _ (.hex bytes))
  · exact replyWithError_acts allows .inval

theorem handle_M_acts (packet : Bytes) : (acting env allowed).Keeps (handle_M env packet) := by
  have written (addr : UInt64) (data : Bytes) : (acting env allowed).Keeps (storeData env addr data) :=
    Keeps.ite (fun _ => replyOK_acts allows) fun _ => Keeps.bind (Process.writeMemory_acts addr data)
      fun _ => Keeps.ite (fun _ => replyWithError_acts allows .perm) fun _ => replyOK_acts allows
  refine Keeps.bind Keeps.read fun _ => Keeps.ite (fun _ => replyWithError_acts allows .noent)
    fun _ => ?_
  split
  · split
    · split
      · exact replyWithError_acts allows .inval
      · exact Keeps.ite (fun _ => replyWithError_acts allows .inval) fun _ => written _ _
    · exact replyWithError_acts allows .inval
  · exact replyWithError_acts allows .inval

theorem replyThreadId_acts (tid : Koid) : (acting env allowed).Keeps (replyThreadId env tid) :=
  reply_acts (allows.plain _ (.threadId tid))

theorem handleQueryCurrentThreadId_acts (params : Bytes) :
    (acting env allowed).Keeps (handleQueryCurrentThreadId env params) := by
  refine Keeps.ite (fun _ => replyWithError_acts allows .inval) fun _ =>
    Keeps.bind Keeps.read fun currentThread => ?_
  cases currentThread with
  | some tid => exact replyThreadId_acts allows tid
  | none =>
      refine Keeps.bind Keeps.read fun _ => Keeps.ite (fun _ => replyWithError_acts allows .perm)
        fun _ => Keeps.bind Process.pickOneThread_acts fun picked => ?_
      cases picked with
      | none => exact replyWithError_acts allows .perm
      | some tid => exact replyThreadId_acts allows tid

theorem replyText_acts (text : Bytes) : (acting env allowed).Keeps (replyText text) :=
  reply_acts (allows.plain _ (.hex text))

theorem rcmdQuit_acts : (acting env allowed).Keeps rcmdQuit := by
  have quit : (acting env allowed).Keeps (RspServer.postQuitMessageLoop true) := by
    intro server
    have status : Aside server { server with runStatus := true } := .of_same rfl rfl rfl rfl rfl rfl le_rfl
    exact (acting env allowed).trans (.single (.aside status)) (.single (.posted _ .quit allows.quit))
  exact Keeps.bind (callback_acts (allows.plain _ (.fixed (by simp)))) fun _ =>
    Keeps.bind quit fun _ => Keeps.pure

theorem rcmdSet_acts (arguments : List Bytes) :
    (acting env allowed).Keeps (rcmdSet env arguments) := by
  unfold rcmdSet
  split
  · rename_i parameter value
    have set : (acting env allowed).Keeps (RspServer.setParameter env parameter value) := by
      refine Keeps.ite (fun _ => Keeps.pure) fun _ => ?_
      split
      · exact Keeps.pure
      · exact Keeps.ite (fun _ => Keeps.pure) fun _ => Keeps.bind
          (Aside.keeps fun _ => .of_same rfl rfl rfl rfl rfl rfl le_rfl) fun _ => Keeps.pure
    exact Keeps.bind set fun _ => Keeps.ite (fun _ => replyText_acts allows _) fun _ =>
      replyOK_acts allows
  · exact replyText_acts allows _

theorem rcmdShow_acts (arguments : List Bytes) :
    (acting env allowed).Keeps (rcmdShow env arguments) := by
  unfold rcmdShow
  split
  · refine Keeps.bind (Keeps.ite (fun _ => Keeps.pure) fun _ => Keeps.read) fun value => ?_
    cases value with
    | none => exact replyText_acts allows _
    | some text => exact replyText_acts allows _
  · exact replyText_acts allows _

theorem handleQueryRcmd_acts (command : Bytes) :
    (acting env allowed).Keeps (handleQueryRcmd env command) := by
  unfold handleQueryRcmd
  split
  · exact replyOK_acts allows
  · exact Keeps.ite
      (fun _ => Keeps.ite (fun _ => replyText_acts allows _) fun _ => rcmdQuit_acts allows) fun _ =>
      Keeps.ite (fun _ => Keeps.ite (fun _ => replyText_acts allows _) fun _ =>
        replyText_acts allows _) fun _ =>
      Keeps.ite (fun _ => rcmdSet_acts allows _) fun _ =>
      Keeps.ite (fun _ => rcmdShow_acts allows _) fun _ => replyText_acts allows _

theorem handleQueryThreadInfo_acts (isFirst : Bool) :
    (acting env allowed).Keeps (handleQueryThreadInfo env isFirst) := by
  have sequence (active : Bool) : (acting env allowed).Keeps (setThreadInfoSequence active) :=
    Aside.keeps fun _ => .of_same rfl rfl rfl rfl rfl rfl le_rfl
  have last : (acting env allowed).Keeps (reply (ascii "l")) :=
    reply_acts (allows.plain _ (.fixed (by simp)))
  have listed : (acting env allowed).Keeps (replyThreadInfo env) :=
    Keeps.bind Process.ensureThreadMapFresh_acts fun _ =>
      Keeps.bind (Keeps.bind Process.ensureThreadMapFresh_acts fun _ => Keeps.read) fun ids =>
        Keeps.ite (fun _ => last) fun _ => Keeps.bind (sequence true) fun _ =>
          reply_acts (allows.plain _ (.threadInfo ids))
  exact Keeps.bind Keeps.read fun _ => Keeps.ite (fun _ => replyWithError_acts allows .perm)
    fun _ => Keeps.ite
      (fun _ => Keeps.bind Keeps.read fun _ => Keeps.ite (fun _ => replyWithError_acts allows .perm)
        fun _ => Keeps.bind (sequence false) fun _ => last)
      fun _ => Keeps.bind Keeps.read fun _ =>
        Keeps.ite (fun _ => replyWithError_acts allows .perm) fun _ => listed

theorem handle_q_acts (name params : Bytes)
    (xfer : name = ascii "Xfer" → (acting env allowed).Keeps (handleQueryXfer env params)) :
    (acting env allowed).Keeps (handle_q env name params) :=
  Keeps.ite
    (fun _ => Keeps.ite (fun _ => replyWithError_acts allows .inval) fun _ =>
      reply_acts (allows.plain _ (.fixed (by simp)))) fun _ =>
  Keeps.ite (fun _ => handleQueryCurrentThreadId_acts allows params) fun _ =>
  Keeps.ite (fun _ => handleQueryThreadInfo_acts allows true) fun _ =>
  Keeps.ite (fun _ => handleQueryRcmd_acts allows _) fun _ =>
  Keeps.ite (fun _ => handleQueryThreadInfo_acts allows false) fun _ =>
  Keeps.ite (fun _ => reply_acts (allows.plain _ (.fixed (by simp)))) fun _ =>
  Keeps.ite xfer fun _ => Keeps.pure

theorem handle_Q_acts (name params : Bytes) :
    (acting env allowed).Keeps (handle_Q env name params) := by
  refine Keeps.ite (fun _ => ?_) fun _ => Keeps.pure
  unfold handleSetNonStop
  split
  · exact Keeps.ite (fun _ => replyOK_acts allows) fun _ =>
      Keeps.ite (fun _ => replyWithError_acts allows .perm) fun _ => replyWithError_acts allows .inval
  · exact replyWithError_acts allows .inval

theorem handle_T_acts (packet : Bytes) : (acting env allowed).Keeps (handle_T env packet) := by
  refine Keeps.bind Keeps.read fun _ => Keeps.ite (fun _ => replyWithError_acts allows .noent)
    fun _ => ?_
  cases env.ftl.stringToUInt64 packet with
  | none => exact replyWithError_acts allows .inval
  | some tid =>
      refine Keeps.bind (Process.findThreadById_acts tid) fun found => ?_
      cases found with
      | none => exact replyWithError_acts allows .noent
      | some found =>
          exact Keeps.bind Keeps.read fun _ =>
            Keeps.ite (fun _ => replyWithError_acts allows .noent) fun _ => replyOK_acts allows

theorem handle_vAttach_acts (packet : Bytes) :
    (acting env allowed).Keeps (handle_vAttach env packet) := by
  refine Keeps.bind Keeps.read fun _ => Keeps.ite (fun _ => replyWithError_acts allows .perm)
    fun _ => ?_
  cases env.ftl.stringToUInt64 packet with
  | none => exact replyWithError_acts allows .inval
  | some pid =>
      exact Keeps.bind Keeps.read fun _ => Keeps.ite (fun _ => replyWithError_acts allows .perm)
        fun _ => Keeps.bind (Process.initializePid_acts pid) fun _ =>
          Keeps.ite (fun _ => replyWithError_acts allows .perm) fun _ =>
            Keeps.bind Process.attach_acts fun _ =>
              Keeps.ite (fun _ => replyWithError_acts allows .perm) fun _ => replyOK_acts allows

theorem runAction_acts (tid : Koid) (action : Action) :
    (acting env allowed).Keeps (runAction env tid action) := by
  have stepped : (acting env allowed).Keeps (stepStopped env tid) :=
    Keeps.bind Keeps.read fun _ => Keeps.ite
      (fun _ => Keeps.bind (Thread.step_acts tid (allows.resumes tid)) fun _ => Keeps.pure)
      fun _ => Keeps.pure
  have resumed : (acting env allowed).Keeps (resumeStopped env tid) :=
    Keeps.bind Keeps.read fun _ => Keeps.ite
      (fun _ => Keeps.bind (Thread.resume_acts tid (allows.resumes tid)) fun _ => Keeps.pure)
      fun _ => Keeps.pure
  cases action with
  | «continue» => exact Keeps.bind resumed fun _ => stepped
  | step => exact stepped
  | none => exact Keeps.pure

theorem handle_vCont_acts (packet : Bytes) :
    (acting env allowed).Keeps (handle_vCont env packet) := by
  have resolved (entries : List Entry) : (acting env allowed).Keeps (resolvePickOnes env entries) :=
    Keeps.forM fun _ _ => Keeps.ite
      (fun _ => Keeps.bind Process.pickOneThread_acts fun _ => Keeps.pure) fun _ => Keeps.pure
  have applied (actions : ThreadActionList) :
      (acting env allowed).Keeps (applyActions env actions) :=
    Keeps.bind Keeps.read fun _ => Keeps.bind (dcheck_acts _ _) fun _ =>
      Keeps.bind (dcheck_acts _ _) fun _ => Keeps.bind (resolved _) fun _ =>
      Keeps.bind (Keeps.bind Process.ensureThreadMapFresh_acts fun _ => Keeps.read) fun _ =>
      Keeps.ite (fun _ => replyWithError_acts allows .inval) fun _ =>
      Keeps.bind (Process.forEachLiveThread_acts fun tid =>
        Keeps.bind Keeps.read fun _ => runAction_acts allows tid _) fun _ => replyOK_acts allows
  exact Keeps.bind Keeps.read fun _ => Keeps.ite (fun _ => replyWithError_acts allows .perm)
    fun _ => Keeps.bind (ask_acts rfl) fun _ => Keeps.bind Keeps.read fun _ =>
      Keeps.bind (dcheck_acts _ _) fun _ =>
        Keeps.ite (fun _ => replyWithError_acts allows .inval) fun _ => applied _

theorem handle_vKill_acts (packet : Bytes) :
    (acting env allowed).Keeps (handle_vKill env packet) := by
  refine Keeps.bind Keeps.read fun _ => Keeps.ite (fun _ => replyWithError_acts allows .perm)
    fun _ => ?_
  cases env.ftl.stringToUInt64 packet with
  | none => exact replyWithError_acts allows .inval
  | some pid =>
      exact Keeps.bind Keeps.read fun _ => Keeps.ite (fun _ => replyWithError_acts allows .inval)
        fun _ => Keeps.ite (fun _ => replyWithError_acts allows .perm) fun _ =>
          Keeps.bind Process.kill_acts fun _ =>
            Keeps.ite (fun _ => replyWithError_acts allows .perm) fun _ => replyOK_acts allows

theorem handle_vRun_acts (packet : Bytes) :
    (acting env allowed).Keeps (handle_vRun env packet) := by
  have argv : (acting env allowed).Keeps (setArgv packet) :=
    Keeps.ite (fun _ => Keeps.pure) fun _ => modifyProcess_acts (fun _ => rfl) fun _ => rfl
  have launched : (acting env allowed).Keeps (launch env) :=
    Keeps.bind Process.attach_acts fun _ => Keeps.ite (fun _ => replyWithError_acts allows .perm)
      fun _ => Keeps.bind Process.start_acts fun _ =>
        Keeps.ite (fun _ => replyWithError_acts allows .perm) fun _ => Keeps.pure
  exact Keeps.bind Keeps.read fun _ => Keeps.ite (fun _ => replyWithError_acts allows .perm)
    fun _ => Keeps.bind argv fun _ => Keeps.bind Keeps.read fun _ =>
      Keeps.ite (fun _ => replyWithError_acts allows .perm) fun _ =>
        Keeps.bind Process.initializeProgram_acts fun _ =>
          Keeps.ite (fun _ => replyWithError_acts allows .perm) fun _ => launched

/-- What is left open is what a transfer posts. -/
theorem handleCommand_acts (packet : Bytes)
    (xfer : ∀ arguments, packet = chr 'q' :: arguments →
      (Util.extractParameters arguments).1 = ascii "Xfer" →
        (acting env allowed).Keeps (handleQueryXfer env (Util.extractParameters arguments).2)) :
    (acting env allowed).Keeps (handleCommand env packet) := by
  cases packet with
  | nil => exact Keeps.pure
  | cons command arguments =>
      exact Keeps.ite (fun _ => Keeps.ite (fun _ => Keeps.pure) fun _ => replyOK_acts allows) fun _ =>
        Keeps.ite (fun _ => handle_c_acts allows arguments) fun _ =>
        Keeps.ite (fun _ => handle_C_acts allows arguments) fun _ =>
        Keeps.ite (fun _ => handle_D_acts allows arguments) fun _ =>
        Keeps.ite (fun _ => Keeps.ite (fun _ => Keeps.pure) fun _ => handle_g_acts allows) fun _ =>
        Keeps.ite (fun _ => handle_G_acts allows arguments) fun _ =>
        Keeps.ite (fun _ => handle_H_acts allows arguments) fun _ =>
        Keeps.ite (fun _ => handle_m_acts allows arguments) fun _ =>
        Keeps.ite (fun _ => handle_M_acts allows arguments) fun _ =>
        Keeps.ite (fun query => Keeps.bind (dcheck_acts _ _) fun _ =>
          handle_q_acts allows _ _ (xfer arguments (by rw [query]))) fun _ =>
        Keeps.ite (fun _ => Keeps.bind (dcheck_acts _ _) fun _ => handle_Q_acts allows _ _) fun _ =>
        Keeps.ite (fun _ => handle_T_acts allows arguments) fun _ =>
        Keeps.ite (fun _ =>
          Keeps.ite (fun _ => handle_vAttach_acts allows _) fun _ =>
          Keeps.ite (fun _ => handle_vCont_acts allows _) fun _ =>
          Keeps.ite (fun _ => handle_vKill_acts allows _) fun _ =>
          Keeps.ite (fun _ => handle_vRun_acts allows _) fun _ => Keeps.pure) fun _ =>
        Keeps.ite (fun _ => Keeps.pure) fun _ => Keeps.pure

end Handlers

end CommandHandler

end Gdbserver
