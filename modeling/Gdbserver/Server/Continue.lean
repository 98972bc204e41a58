import Gdbserver.Foundation.Numerals
import Gdbserver.Inferior.Actions
import Gdbserver.Inferior.RegisterLayout
import Gdbserver.Server.CurrentThread
import Gdbserver.Server.VCont

/-!
# Continuing at an address

`c` and `C` take an address. The registers are refreshed, changed in the cache
and written back before the thread is resumed, and nothing is undone when a
later step fails.
-/

set_option autoImplicit false

namespace Gdbserver

open Logic Prog

variable {env : Env} {tid : Koid} {server : Server}

namespace Registers

/-- What a refresh puts into the cache. -/
def refreshed (server : Server) (tid : Koid) : RegisterSet :=
  if (server.thread tid).state = .new then fun _ => 0 else server.kernel.registers tid

def Refreshes (env : Env) (tid : Koid) (server : Server) : Prop :=
  env.arch ≠ .other ∧
    ((server.thread tid).state = .new ∨ ¬ env.now (.threadReadState tid) server < (0 : Int))

/-- Nothing has happened but that the cache of the thread holds `gregs`. -/
structure Cached (tid : Koid) (gregs : RegisterSet) (before after : Server) : Prop where
  thread : after.thread tid = { before.thread tid with gregs := gregs }
  kernel : after.kernel = before.kernel
  posted : after.posted = before.posted
  calls : ∀ call, call ≠ .threadReadState tid → after.calls call = before.calls call

theorem cached_setThread (gregs : RegisterSet) :
    Cached tid gregs server (server.setThread tid { server.thread tid with gregs := gregs }) :=
  ⟨Function.update_self .., rfl, rfl, fun _ _ => rfl⟩

theorem cached_asked :
    Cached tid (server.thread tid).gregs server (server.asked (.threadReadState tid)) :=
  ⟨rfl, rfl, rfl, fun _ other => server.asked_calls other⟩

theorem Cached.trans {gregs more : RegisterSet} {middle after : Server}
    (first : Cached tid gregs server middle) (second : Cached tid more middle after) :
    Cached tid more server after where
  thread := by rw [second.thread, first.thread]
  kernel := second.kernel.trans first.kernel
  posted := second.posted.trans first.posted
  calls call other := (second.calls call other).trans (first.calls call other)

theorem refreshGeneralRegisters_refreshes (refreshes : Refreshes env tid server) :
    ∃ reached, refreshGeneralRegisters env tid server = (some true, reached) ∧
      Cached tid (refreshed server tid) server reached := by
  obtain ⟨known, answer⟩ := refreshes
  rw [refreshed]
  by_cases new : (server.thread tid).state = .new
  · rw [if_pos new, refreshGeneralRegisters_new known new]
    exact ⟨_, rfl, cached_setThread _⟩
  · rw [if_neg new, refreshGeneralRegisters_used known new, if_neg (answer.resolve_left new)]
    exact ⟨_, rfl, cached_asked.trans (cached_setThread _)⟩

theorem refreshGeneralRegisters_fails (fails : ¬ Refreshes env tid server) :
    ∃ reached, refreshGeneralRegisters env tid server = (some false, reached) ∧
      Cached tid (server.thread tid).gregs server reached := by
  by_cases known : env.arch = .other
  · rw [refreshGeneralRegisters, known]
    exact ⟨server, rfl, rfl, rfl, rfl, fun _ _ => rfl⟩
  · have old : (server.thread tid).state ≠ .new := fun new => fails ⟨known, Or.inl new⟩
    have refused : env.now (.threadReadState tid) server < (0 : Int) := by
      by_contra granted
      exact fails ⟨known, Or.inr granted⟩
    rw [refreshGeneralRegisters_used known old, if_pos refused]
    exact ⟨_, rfl, cached_asked⟩

theorem setRegister_PC (known : env.arch ≠ .other) (gregs : RegisterSet) (addr : UInt64) :
    setRegister env.arch gregs env.arch.getPCRegisterNumber (wordBytes addr) =
      some (Function.update gregs env.arch.getPCRegisterNumber.toNat addr) := by
  have inside : ¬ (env.arch.getPCRegisterNumber < 0 ∨
      env.arch.getPCRegisterNumber ≥ env.arch.numRegisters) := by
    cases arch : env.arch with
    | other => exact absurd arch known
    | amd64 | arm64 => decide
  rw [setRegister, if_neg inside, if_neg (by simp), bytesWord_wordBytes]

end Registers

namespace CommandHandler

/-- The registers are refreshed and written back. -/
def SetsPC (env : Env) (tid : Koid) (server : Server) : Prop :=
  Registers.Refreshes env tid server ∧ ¬ env.now (.threadWriteState tid) server < (0 : Int)

/-- `Resume` succeeds. -/
def Resumes (env : Env) (tid : Koid) (server : Server) : Prop :=
  ((server.thread tid).state = .stopped ∨ (server.thread tid).state = .new) ∧
    ¬ env.now (.taskResume tid) server < (0 : Int)

/-- The registers with which the thread goes on at `addr`. -/
def registersAt (env : Env) (server : Server) (tid : Koid) (addr : UInt64) : RegisterSet :=
  Function.update (Registers.refreshed server tid) env.arch.getPCRegisterNumber.toNat addr

theorem resumes_congr {other : Server} (state : (other.thread tid).state = (server.thread tid).state)
    (calls : other.calls (.taskResume tid) = server.calls (.taskResume tid)) :
    Resumes env tid other ↔ Resumes env tid server := by
  have answer : env.now (.taskResume tid) other = env.now (.taskResume tid) server :=
    congrArg (env.answer (.taskResume tid)) calls
  rw [Resumes, Resumes, state, answer]

section SetPC

variable (addr : UInt64)

/-- The second of the three steps, once the first has been made. -/
theorem updateRegisters_PC {cached : Server} (known : env.arch ≠ .other)
    (kept : Registers.Cached tid (Registers.refreshed server tid) server cached) :
    ∃ changed, Thread.updateRegisters tid (fun gregs => Registers.setRegister env.arch gregs
        env.arch.getPCRegisterNumber (Registers.wordBytes addr)) cached = (some true, changed) ∧
      Registers.Cached tid (registersAt env server tid addr) server changed := by
  rw [Thread.updateRegisters, read_bind, Registers.setRegister_PC known, kept.thread]
  exact ⟨_, rfl, kept.trans (Registers.cached_setThread _)⟩

theorem setPC_sets (sets : SetsPC env tid server) :
    ∃ reached, setPC env tid addr server = (some true, reached) ∧
      reached.kernel = (server.storeRegisters tid (registersAt env server tid addr)).kernel ∧
      reached.posted = server.posted ∧
      (Resumes env tid reached ↔ Resumes env tid server) := by
  obtain ⟨refreshes, granted⟩ := sets
  obtain ⟨cached, refreshed, kept⟩ := Registers.refreshGeneralRegisters_refreshes refreshes
  obtain ⟨changed, updated, cache⟩ := updateRegisters_PC addr refreshes.1 kept
  have asked : env.now (.threadWriteState tid) changed = env.now (.threadWriteState tid) server :=
    congrArg (env.answer (.threadWriteState tid)) (cache.calls _ (by simp))
  have written : Registers.writeGeneralRegisters env tid changed = (some true,
      (changed.asked (.threadWriteState tid)).storeRegisters tid
        (registersAt env server tid addr)) := by
    rw [Registers.writeGeneralRegisters_known refreshes.1, asked, if_neg granted, cache.thread]
  refine ⟨(changed.asked (.threadWriteState tid)).storeRegisters tid
    (registersAt env server tid addr), ?_, ?_, cache.posted, ?_⟩
  · rw [setPC, bind_of_some refreshed, if_not_true, bind_of_some updated, if_not_true, written]
  · simp only [Server.storeRegisters, Server.asked, cache.kernel]
  · apply resumes_congr
    · have state := congrArg Thread.state cache.thread
      exact state
    · have resumed : Call.taskResume tid ≠ .threadWriteState tid := by simp
      exact (changed.asked_calls resumed).trans (cache.calls _ (by simp))

theorem setPC_fails (fails : ¬ SetsPC env tid server) :
    ∃ reached, setPC env tid addr server = (some false, reached) ∧
      reached.kernel = server.kernel ∧ reached.posted = server.posted := by
  by_cases refreshes : Registers.Refreshes env tid server
  · have refused : env.now (.threadWriteState tid) server < (0 : Int) := by
      by_contra granted
      exact fails ⟨refreshes, granted⟩
    obtain ⟨cached, refreshed, kept⟩ := Registers.refreshGeneralRegisters_refreshes refreshes
    obtain ⟨changed, updated, cache⟩ := updateRegisters_PC addr refreshes.1 kept
    have asked : env.now (.threadWriteState tid) changed =
        env.now (.threadWriteState tid) server :=
      congrArg (env.answer (.threadWriteState tid)) (cache.calls _ (by simp))
    refine ⟨changed.asked (.threadWriteState tid), ?_, cache.kernel, cache.posted⟩
    rw [setPC, bind_of_some refreshed, if_not_true, bind_of_some updated, if_not_true,
      Registers.writeGeneralRegisters_known refreshes.1, asked, if_pos refused]
  · obtain ⟨reached, failed, kept⟩ := Registers.refreshGeneralRegisters_fails refreshes
    refine ⟨reached, ?_, kept.kernel, kept.posted⟩
    rw [setPC, bind_of_some failed, if_not_false]
    rfl

end SetPC

section Resume

theorem resume_resumes (resumes : Resumes env tid server) :
    ∃ reached, Thread.resume env tid server = (some true, reached) ∧
      reached.kernel = server.kernel ∧ reached.posted = server.posted := by
  obtain ⟨ready, granted⟩ := resumes
  let recorded := server.observe [.resume tid]
  have first : record (.resume tid) server = (some (), recorded) := rfl
  have free : ¬ ((recorded.thread tid).state ≠ .stopped ∧ (recorded.thread tid).state ≠ .new) := by
    rw [not_and_or, not_not, not_not]
    exact ready
  rw [Thread.resume, bind_of_some first, read_bind, if_neg free, ask_bind]
  have answer : ¬ env.now (.taskResume tid) recorded < (0 : Int) := granted
  rw [if_neg answer]
  exact ⟨_, rfl, rfl, rfl⟩

theorem resume_refused (refused : ¬ Resumes env tid server) :
    ∃ reached, Thread.resume env tid server = (some false, reached) ∧
      reached.kernel = server.kernel ∧ reached.posted = server.posted := by
  let recorded := server.observe [.resume tid]
  have first : record (.resume tid) server = (some (), recorded) := rfl
  rw [Thread.resume, bind_of_some first, read_bind]
  by_cases busy : (recorded.thread tid).state ≠ .stopped ∧ (recorded.thread tid).state ≠ .new
  · rw [if_pos busy]
    exact ⟨recorded, rfl, rfl, rfl⟩
  · have ready : (server.thread tid).state = .stopped ∨ (server.thread tid).state = .new := by
      rwa [not_and_or, not_not, not_not] at busy
    have answer : env.now (.taskResume tid) recorded < (0 : Int) := by
      by_contra granted
      exact refused ⟨ready, granted⟩
    rw [if_neg busy, ask_bind, if_pos answer]
    exact ⟨_, rfl, rfl, rfl⟩

theorem resumeThread_resumes (resumes : Resumes env tid server) :
    Answers (ascii "OK") server (resumeThread env tid server).2 ∧
      (resumeThread env tid server).2.kernel = server.kernel := by
  obtain ⟨reached, ran, kernel, posted⟩ := resume_resumes resumes
  rw [resumeThread, bind_of_some ran, if_not_true, Answers, ← posted]
  exact ⟨rfl, kernel⟩

theorem resumeThread_refused (refused : ¬ Resumes env tid server) :
    Answers (Util.buildErrorPacket env.ftl .perm) server (resumeThread env tid server).2 ∧
      (resumeThread env tid server).2.kernel = server.kernel := by
  obtain ⟨reached, ran, kernel, posted⟩ := resume_refused refused
  rw [resumeThread, bind_of_some ran, if_not_false, Answers, ← posted]
  exact ⟨rfl, kernel⟩

end Resume

section Address

variable {digits : Bytes} {addr : UInt64}

/-- How `c<addr>` ends. -/
inductive Continued (env : Env) (tid : Koid) (addr : UInt64) (before after : Server) : Prop
  | resumed : hasInferior before = true → SetsPC env tid before → Resumes env tid before →
      Answers (ascii "OK") before after →
      after.kernel = (before.storeRegisters tid (registersAt env before tid addr)).kernel →
      Continued env tid addr before after
  | unresumed : hasInferior before = true → SetsPC env tid before → ¬ Resumes env tid before →
      Answers (Util.buildErrorPacket env.ftl .perm) before after →
      after.kernel = (before.storeRegisters tid (registersAt env before tid addr)).kernel →
      Continued env tid addr before after
  | unset : ¬ (hasInferior before = true ∧ SetsPC env tid before) →
      Answers (Util.buildErrorPacket env.ftl .perm) before after →
      after.kernel = before.kernel → Continued env tid addr before after

theorem continueAt_continued (attached : hasInferior server = true) (addr : UInt64) :
    Continued env tid addr server ((do
      if !(← setPC env tid addr) then replyWithError env .perm
      else resumeThread env tid : Prog Server Bool) server).2 := by
  by_cases sets : SetsPC env tid server
  · obtain ⟨reached, ran, kernel, posted, resumes⟩ := setPC_sets addr sets
    rw [bind_of_some ran, if_not_true]
    by_cases able : Resumes env tid server
    · obtain ⟨answered, kept⟩ := resumeThread_resumes (resumes.mpr able)
      rw [Answers, posted] at answered
      exact .resumed attached sets able answered (kept.trans kernel)
    · obtain ⟨answered, kept⟩ := resumeThread_refused (fun again => able (resumes.mp again))
      rw [Answers, posted] at answered
      exact .unresumed attached sets able answered (kept.trans kernel)
  · obtain ⟨reached, ran, kernel, posted⟩ := setPC_fails addr sets
    rw [bind_of_some ran, if_not_false]
    refine .unset (fun both => sets both.2) ?_ kernel
    rw [Answers, ← posted]
    rfl

theorem handle_c_continued (current : server.currentThreadId = some tid) (given : digits ≠ [])
    (parsed : env.ftl.stringToUInt64 digits = some addr) :
    Continued env tid addr server (handleCommand env (chr 'c' :: digits) server).2 := by
  change Continued env tid addr server (handle_c env digits server).2
  rw [handle_c, read_bind]
  cases attached : hasInferior server with
  | false =>
      refine .unset (fun both => ?_) rfl rfl
      exact Bool.false_ne_true (attached.symm.trans both.1)
  | true =>
      rw [if_not_true, read_bind, if_neg given, parsed, current]
      exact continueAt_continued attached addr

theorem registersAt_PC : registersAt env server tid addr env.arch.getPCRegisterNumber.toNat = addr :=
  Function.update_self ..

theorem registersAt_other (known : env.arch ≠ .other) {regno : Nat}
    (other : (regno : Int) ≠ env.arch.getPCRegisterNumber) :
    registersAt env server tid addr regno = Registers.refreshed server tid regno := by
  have counted : (0 : Int) ≤ env.arch.getPCRegisterNumber := by
    cases arch : env.arch with
    | other => exact absurd arch known
    | amd64 | arm64 => decide
  apply Function.update_of_ne
  omega

/-- A refresh shows a new thread as if it had no values in its registers. -/
theorem refreshed_eq_iff (regno : Nat) :
    Registers.refreshed server tid regno = server.kernel.registers tid regno ↔
      ((server.thread tid).state = .new → server.kernel.registers tid regno = 0) := by
  rw [Registers.refreshed]
  by_cases new : (server.thread tid).state = .new
  · rw [if_pos new]
    exact ⟨fun zero _ => zero.symm, fun zero => (zero new).symm⟩
  · rw [if_neg new]
    exact iff_of_true rfl fun created => absurd created new

theorem registersAt_others_iff (known : env.arch ≠ .other) :
    (∀ regno : Nat, regno < env.arch.numRegisters →
        (regno : Int) ≠ env.arch.getPCRegisterNumber →
        registersAt env server tid addr regno = server.kernel.registers tid regno) ↔
      ((server.thread tid).state = .new → ∀ regno : Nat, regno < env.arch.numRegisters →
        (regno : Int) ≠ env.arch.getPCRegisterNumber →
          server.kernel.registers tid regno = 0) := by
  constructor
  · intro same new regno inside other
    have kept := same regno inside other
    rw [registersAt_other known other] at kept
    exact (refreshed_eq_iff regno).mp kept new
  · intro zero regno inside other
    rw [registersAt_other known other]
    exact (refreshed_eq_iff regno).mpr fun new => zero new regno inside other

/-- The registers other than the program counter stay as they are, and it does too when the
reply is an error, unless a new thread had any set or the thread is not resumed after all. -/
theorem continue_at_frame_iff (current : server.currentThreadId = some tid) (given : digits ≠ [])
    (parsed : env.ftl.stringToUInt64 digits = some addr) :
    let after := (handleCommand env (chr 'c' :: digits) server).2
    let pc := env.arch.getPCRegisterNumber
    ((∀ regno : Nat, regno < env.arch.numRegisters → (regno : Int) ≠ pc →
        after.kernel.registers tid regno = server.kernel.registers tid regno) ∧
      ((∃ code, Answers (Util.buildErrorPacket env.ftl code) server after) →
        after.kernel.registers tid pc.toNat = server.kernel.registers tid pc.toNat)) ↔
    (hasInferior server = true → SetsPC env tid server →
      ((server.thread tid).state = .new →
        ∀ regno : Nat, regno < env.arch.numRegisters → (regno : Int) ≠ pc →
          server.kernel.registers tid regno = 0) ∧
      (¬ Resumes env tid server → server.kernel.registers tid pc.toNat = addr)) := by
  intro after pc
  have ended : Continued env tid addr server after := handle_c_continued current given parsed
  cases ended with
  | resumed attached sets resumes accepted stored =>
      rw [stored, Server.storeRegisters_registers, registersAt_others_iff sets.1.1]
      constructor
      · rintro ⟨zero, -⟩ - -
        exact ⟨zero, fun refused => absurd resumes refused⟩
      · intro condition
        refine ⟨(condition attached sets).1, ?_⟩
        rintro ⟨code, error⟩
        exact absurd accepted error.not_ok
  | unresumed attached sets refused error stored =>
      rw [stored, Server.storeRegisters_registers, registersAt_others_iff sets.1.1, registersAt_PC]
      constructor
      · rintro ⟨zero, moved⟩ - -
        exact ⟨zero, fun _ => (moved ⟨_, error⟩).symm⟩
      · intro condition
        obtain ⟨zero, same⟩ := condition attached sets
        exact ⟨zero, fun _ => (same refused).symm⟩
  | unset fails error kept =>
      rw [kept]
      apply iff_of_true
      · exact ⟨fun _ _ _ => rfl, fun _ => rfl⟩
      · intro attached sets
        exact absurd ⟨attached, sets⟩ fails

end Address

section Signal

/-- The same reply, and the thread is left in the same state with the same registers. -/
structure SameOutcome (tid : Koid) (left right : Server) : Prop where
  posted : left.posted = right.posted
  thread : left.thread tid = right.thread tid
  registers : left.kernel.registers tid = right.kernel.registers tid

theorem SameOutcome.refl (server : Server) : SameOutcome tid server server := ⟨rfl, rfl, rfl⟩

/-- The codes are told apart by their digits. -/
theorem buildErrorPacket_value {ftl : Ftl} (prints : ftl.PrintsDecimal) (code : Util.ErrorCode) :
    Ftl.readDigits .k10 0 (Util.buildErrorPacket ftl code).tail = some code.value.toNat := by
  rw [Util.buildErrorPacket, List.tail_cons, ← prints code.value]
  split
  · rfl
  · rfl

theorem inval_ne_perm {ftl : Ftl} (prints : ftl.PrintsDecimal) :
    Util.buildErrorPacket ftl .inval ≠ Util.buildErrorPacket ftl .perm := by
  intro same
  have value := buildErrorPacket_value prints .inval
  rw [same, buildErrorPacket_value prints .perm] at value
  exact absurd value (by decide)

/-- `c` with an address never complains about the address. -/
theorem Continued.not_inval {addr : UInt64} {after : Server} (prints : env.ftl.PrintsDecimal)
    (ended : Continued env tid addr server after) :
    ¬ Answers (Util.buildErrorPacket env.ftl .inval) server after := by
  intro complained
  cases ended with
  | resumed _ _ _ accepted _ => exact complained.not_ok accepted
  | unresumed _ _ _ error _ => exact inval_ne_perm prints (complained.unique error)
  | unset _ error _ => exact inval_ne_perm prints (complained.unique error)

variable {text : Bytes} {signo : Int32} (attached : hasInferior server = true)
  (current : server.currentThreadId = some tid)
  (number : env.ftl.stringToInt .k16 text = some signo)
  (own : (Thread.getGdbSignal env.arch (server.thread tid)).number = signo.toInt)
include attached current number own

theorem handle_C_own {packet : Bytes} (field : packet.takeWhile (· ≠ chr ';') = text) :
    handleCommand env (chr 'C' :: packet) server =
      (if Thread.getGdbSignal env.arch (server.thread tid) = .unsupported then
        replyWithError env .perm
      else if packet.dropWhile (· ≠ chr ';') = [] then resumeThread env tid
      else (env.ftl.stringToUInt64 (packet.dropWhile (· ≠ chr ';'))).elim
        (replyWithError env .inval) fun addr => do
          if !(← setPC env tid addr) then replyWithError env .perm
          else resumeThread env tid) server := by
  change handle_C env packet server = _
  rw [handle_C, read_bind, attached, if_not_true, read_bind, current]
  dsimp only
  rw [field, number]
  dsimp only
  rw [read_bind, if_neg (not_not_intro own)]
  cases env.ftl.stringToUInt64 (packet.dropWhile (· ≠ chr ';')) <;> rfl

theorem handle_C_unsupported {packet : Bytes} (field : packet.takeWhile (· ≠ chr ';') = text)
    (none : Thread.getGdbSignal env.arch (server.thread tid) = .unsupported) :
    handleCommand env (chr 'C' :: packet) server = replyWithError env .perm server := by
  rw [handle_C_own attached current number own field, if_pos none]

variable (clear : chr ';' ∉ text)
include clear

theorem handle_C_without
    (supported : Thread.getGdbSignal env.arch (server.thread tid) ≠ .unsupported) :
    handleCommand env (chr 'C' :: text) server = handleCommand env (ascii "c") server := by
  have without : handleCommand env (ascii "c") server = resumeThread env tid server := by
    change handle_c env [] server = _
    rw [handle_c, read_bind, attached, if_not_true, read_bind, if_pos rfl, current]
  rw [without,
    handle_C_own attached current number own (Delimited.takeWhile_of_clear clear),
    if_neg supported, if_pos (Delimited.dropWhile_of_clear clear)]

/-- The semicolon is taken for a part of the address. -/
theorem handle_C_address (reads : env.ftl.ReadsUnsigned)
    (supported : Thread.getGdbSignal env.arch (server.thread tid) ≠ .unsupported)
    (digits : Bytes) :
    handleCommand env (chr 'C' :: (text ++ chr ';' :: digits)) server =
      replyWithError env .inval server := by
  have malformed : env.ftl.stringToUInt64 (chr ';' :: digits) = none := by
    by_contra read
    obtain ⟨value, parsed⟩ := Option.ne_none_iff_exists'.mp read
    have digit := ((reads _ _).mp parsed).isHexDigit (chr ';') List.mem_cons_self
    exact absurd digit (by decide)
  rw [handle_C_own attached current number own (Delimited.takeWhile_field clear digits),
    if_neg supported, Delimited.dropWhile_field clear, if_neg (List.cons_ne_nil _ _), malformed]
  rfl

/-- `C` does what `c` does as long as no address is given. -/
theorem continue_with_signal_agrees_iff (reads : env.ftl.ReadsUnsigned)
    (prints : env.ftl.PrintsDecimal) :
    let signal := Thread.getGdbSignal env.arch (server.thread tid)
    let declined := (replyWithError env .perm server).2
    (signal ≠ .unsupported →
        handleCommand env (chr 'C' :: text) server = handleCommand env (ascii "c") server) ∧
      (SameOutcome tid (handleCommand env (chr 'C' :: text) server).2
          (handleCommand env (ascii "c") server).2 ↔
        signal ≠ .unsupported ∨
          SameOutcome tid declined (handleCommand env (ascii "c") server).2) ∧
      ∀ (digits : Bytes) (addr : UInt64), Ftl.Digits digits addr.toNat →
        (SameOutcome tid (handleCommand env (chr 'C' :: (text ++ chr ';' :: digits)) server).2
            (handleCommand env (chr 'c' :: digits) server).2 ↔
          signal = .unsupported ∧
            SameOutcome tid declined (handleCommand env (chr 'c' :: digits) server).2) := by
  intro signal declined
  have whole := handle_C_without attached current number own clear
  refine ⟨whole, ?_, ?_⟩
  · by_cases none : signal = .unsupported
    · rw [handle_C_unsupported attached current number own
        (Delimited.takeWhile_of_clear clear) none]
      simp [none, declined]
    · rw [whole none]
      exact iff_of_true (.refl _) (Or.inl none)
  · intro digits addr written
    by_cases none : signal = .unsupported
    · rw [handle_C_unsupported attached current number own
        (Delimited.takeWhile_field clear digits) none]
      simp [none, declined]
    · rw [handle_C_address attached current number own clear reads none digits]
      apply iff_of_false
      · intro same
        have ended : Continued env tid addr server (handleCommand env (chr 'c' :: digits) server).2 :=
          handle_c_continued current written.ne_nil ((reads _ _).mpr written)
        exact ended.not_inval prints same.posted.symm
      · exact fun both => none both.1

end Signal

end CommandHandler

namespace Debugserver

open CommandHandler

/-- Every register holds 7 to begin with. -/
def laden : Config := { program with kernel := ⟨fun _ _ => 7, fun _ => 0⟩ }

/-- Thread 9 has reported its start and is selected. -/
def selectedThread (env : Env) : Server :=
  (run (RspServer.handle env) (untilFirstThread ++ [.bytesRead (ascii "$Hg9#e8")])
    (started env laden)).2.core

/-- Thread 9 is selected before it has reported its start. -/
def newThread : Server :=
  (run (RspServer.handle obliging) [.bytesRead (ascii "$vRun;#e6"), .bytesRead (ascii "$Hg9#e8")]
    (started obliging laden)).2.core

/-- The signal alone. -/
theorem selectedThread_continues :
    handleCommand obliging (ascii "C8") (selectedThread obliging) =
      handleCommand obliging (ascii "c") (selectedThread obliging) := by
  have attached : hasInferior (selectedThread obliging) = true := by decide +kernel
  have current : (selectedThread obliging).currentThreadId = some 9 := by decide +kernel
  have number : obliging.ftl.stringToInt .k16 (ascii "8") = some 8 := by decide +kernel
  have own : (Thread.getGdbSignal obliging.arch ((selectedThread obliging).thread 9)).number =
      (8 : Int32).toInt := by decide +kernel
  exact (continue_with_signal_agrees_iff attached current number own (by decide)
    Ftl.standard_readsUnsigned Ftl.standard_printsDecimal).1 (by decide +kernel)

/-- With an address `C` is refused where `c` sets the program counter and resumes. -/
theorem signal_with_address_refused :
    let server := selectedThread obliging
    let left := (handleCommand obliging (ascii "C8;1000") server).2
    let right := (handleCommand obliging (ascii "c1000") server).2
    hasInferior server = true ∧ server.currentThreadId = some 9 ∧
      (Thread.getGdbSignal obliging.arch (server.thread 9)).number = 8 ∧
      left.posted = server.posted ++ [.write false (ascii "E22")] ∧
      (left.thread 9).state = .stopped ∧ left.kernel.registers 9 16 = 7 ∧
      right.posted = server.posted ++ [.write false (ascii "OK")] ∧
      (right.thread 9).state = .running ∧ right.kernel.registers 9 16 = 0x1000 := by
  decide +kernel

/-- A stopped thread that is resumed. -/
theorem selectedThread_frame :
    let server := selectedThread obliging
    let after := (handleCommand obliging (ascii "c1000") server).2
    ∀ regno : Nat, regno < 18 → (regno : Int) ≠ 16 →
      after.kernel.registers 9 regno = server.kernel.registers 9 regno := by
  have current : (selectedThread obliging).currentThreadId = some 9 := by decide +kernel
  have parsed : obliging.ftl.stringToUInt64 (ascii "1000") = some 0x1000 := by decide +kernel
  have stopped : ((selectedThread obliging).thread 9).state = .stopped := by decide +kernel
  have resumes : Resumes obliging 9 (selectedThread obliging) :=
    ⟨Or.inl stopped, by decide +kernel⟩
  refine ((continue_at_frame_iff current (by decide) parsed).mpr fun _ _ => ⟨?_, ?_⟩).1
  · intro new
    exact absurd (stopped.symm.trans new) (by decide)
  · intro refused
    exact absurd resumes refused

/-- A new thread loses its registers, and a thread that is not resumed its program counter. -/
theorem registers_not_kept :
    let cleared := (handleCommand obliging (ascii "c1000") newThread).2
    let stopped := selectedThread reluctant
    let moved := (handleCommand reluctant (ascii "c1000") stopped).2
    (newThread.currentThreadId = some 9 ∧ newThread.kernel.registers 9 3 = 7 ∧
        cleared.posted = newThread.posted ++ [.write false (ascii "OK")] ∧
        cleared.kernel.registers 9 3 = 0) ∧
      stopped.currentThreadId = some 9 ∧ stopped.kernel.registers 9 16 = 7 ∧
        moved.posted = stopped.posted ++ [.write false (ascii "E01")] ∧
        moved.kernel.registers 9 16 = 0x1000 := by
  decide +kernel

end Debugserver

end Gdbserver
