import Gdbserver.Foundation.Scanf
import Gdbserver.Ipt.BufferDump
import Gdbserver.Logic.Delimited
import Gdbserver.Logic.Ledger
import Gdbserver.Logic.Loop
import Gdbserver.Logic.Triples

/-!
# Tracing cpus

The functions of `bin/ipt/control.cc` that trace cpus and control ktrace, and the
actions of `--control`. Every call to a device, and whether it succeeds, is written
into a journal.
-/

set_option autoImplicit false

namespace Gdbserver.Ipt

open Logic Prog

/-- What can be open: the two devices, and the handle that ktrace gives out. -/
inductive Resource where
  | intelPt
  | ktrace
  | ktraceHandle
  deriving DecidableEq, Repr

/-- The calls that may fail. `dump` stands for those of `WriteBufferData`, `create` for an
output file that is opened and truncated, and `launch` for the set-up of an inferior. -/
inductive ControlCall where
  | acquire (resource : Resource)
  | release (resource : Resource)
  | setMode (mode : Mode)
  | allocBuffer (config : BufferConfig)
  | cpuModeAlloc
  | cpuModeStart
  | cpuModeStop
  | cpuModeFree
  | ktraceStart
  | ktraceStop
  | readKtrace
  | dump (descriptor : UInt32)
  | create (path : Bytes)
  | launch

/-- The copy of ktrace: what the reads give, `none` for an error, and how much the writes
take. After an error the length is -1, and the write takes what it likes. -/
structure KtraceIo where
  read : Nat → Option Bytes
  write : Nat → Nat → Nat
  overrun : Nat → Bytes

/-- The answers of the system, by the number of calls made before. -/
structure ControlIo where
  answers : Nat → Bool
  dumpIo : UInt32 → Nat → DumpIo
  ktrace : KtraceIo
  dumpArch : Bytes

/-- The calls with their answers, and the files as they have been written. -/
structure Control where
  journal : List (ControlCall × Bool)
  files : Bytes → Option Bytes

/-- `while ((count = read(..)) != 0) write(..)`, with the number of the turn. -/
def KtraceIo.turn (io : KtraceIo) (state : Nat × Bytes) : Option (Turn (Nat × Bytes) Bytes) :=
  match io.read state.1 with
  | some [] => some (.done state.2)
  | some data => some (.next (state.1 + 1, state.2 ++ data.take (io.write state.1 data.length)))
  | none => some (.next (state.1 + 1, state.2 ++ io.overrun state.1))

/-- The file that is written, if the loop ends. -/
def KtraceIo.copy (io : KtraceIo) (fuel : Nat) : Option Bytes := loop io.turn fuel (0, [])

namespace Control

variable (io : ControlIo) (config : IptConfig)

def call (made : ControlCall) : Prog Control Bool := fun control =>
  let answer := io.answers control.journal.length
  (some answer, { control with journal := control.journal ++ [(made, answer)] })

/-- `close` is not asked for an answer. -/
def release (resource : Resource) : Prog Control Unit :=
  modify fun control => { control with journal := control.journal ++ [(.release resource, true)] }

def writeFile (path text : Bytes) : Prog Control Unit :=
  modify fun control => { control with files := Function.update control.files path (some text) }

/-- Which of the three arguments of `OpenDevices` are not null. -/
structure Wanted where
  ipt : Bool
  ktraceFd : Bool
  ktraceHandle : Bool

def acquireIf (wanted : Bool) (resource : Resource) : Prog Control Bool :=
  if wanted then call io (.acquire resource) else pure true

def releaseIf (wanted : Bool) (resource : Resource) : Prog Control Unit :=
  if wanted then release resource else pure ()

def openDevices (wanted : Wanted) : Prog Control Bool := do
  if !(← acquireIf io wanted.ipt .intelPt) then pure false
  else if !(← acquireIf io (wanted.ktraceFd || wanted.ktraceHandle) .ktrace) then do
    releaseIf wanted.ipt .intelPt
    pure false
  else if !(← acquireIf io wanted.ktraceHandle .ktraceHandle) then do
    releaseIf wanted.ipt .intelPt
    release .ktrace
    pure false
  else do
    -- the descriptor may have been needed for the handle only
    releaseIf (wanted.ktraceHandle && !wanted.ktraceFd) .ktrace
    pure true

/-- The destructors of the three variables. -/
def closeDevices (wanted : Wanted) : Prog Control Unit := do
  releaseIf wanted.ktraceHandle .ktraceHandle
  releaseIf wanted.ktraceFd .ktrace
  releaseIf wanted.ipt .intelPt

/-- A function that returns `failed` if it cannot open the devices. -/
def withDevices {α : Type} (wanted : Wanted) (failed : α) (body : Prog Control α) :
    Prog Control α := do
  if !(← openDevices io wanted) then pure failed
  else do
    let result ← body
    closeDevices wanted
    pure result

def iptOnly : Wanted := ⟨true, false, false⟩

def ktraceFdOnly : Wanted := ⟨false, true, false⟩

def ktraceHandleOnly : Wanted := ⟨false, false, true⟩

def iptAndHandle : Wanted := ⟨true, false, true⟩

def setPerfMode : Prog Control Bool :=
  withDevices io iptOnly false (call io (.setMode config.mode))

/-- The loop over the cpus, with the number of those that are left. -/
def allocBuffers : Nat → Prog Control Bool
  | 0 => pure true
  | cpus + 1 => do
      if !(← call io (.allocBuffer (initIptBufferConfig config))) then pure false
      else allocBuffers cpus

def initCpuPerf : Prog Control Bool :=
  withDevices io iptOnly false do
    if !(← allocBuffers io config config.numCpus.toNat) then pure false
    else call io .cpuModeAlloc

/-- Ktrace is stopped and started again; the results are not looked at. -/
def restartKtrace : Prog Control Unit := do
  let _ ← call io .ktraceStop
  let _ ← call io .ktraceStart
  pure ()

def initPerfPreProcess : Prog Control Bool :=
  withDevices io ktraceHandleOnly false do
    if !(← call io .ktraceStart) then do
      restartKtrace io
      pure false
    else pure true

def startCpuPerf : Prog Control Bool :=
  withDevices io iptOnly false do
    if !(← call io .cpuModeStart) then do
      let _ ← call io .cpuModeFree
      pure false
    else pure true

def stopCpuPerf : Prog Control Unit :=
  withDevices io iptOnly () do
    let _ ← call io .cpuModeStop
    pure ()

def stopPerf : Prog Control Unit :=
  withDevices io ktraceHandleOnly () do
    let _ ← call io .ktraceStop
    pure ()

/-- Where no file has been opened, the one there was is left. -/
def storeFile (path : Bytes) : Option Bytes → Prog Control Unit
  | none => pure ()
  | some file => writeFile path file

/-- The assertion of `WriteBufferData`, which fails without a status. -/
def assertEnded : Option Int32 → Prog Control Unit
  | none => stop
  | some _ => pure ()

def dumpBuffer (cpu : Nat) : Prog Control Unit := do
  let dump ← Prog.read fun control =>
    writeBufferData (io.dumpIo cpu.toUInt32 control.journal.length)
  let _ ← call io (.dump cpu.toUInt32)
  storeFile (ptFileName config cpu.toUInt64) dump.file
  assertEnded dump.status

def dumpCpuPerf : Prog Control Unit :=
  withDevices io iptOnly () (forM (List.range config.numCpus.toNat) (dumpBuffer io config))

/-- `prefix.suffix` -/
def outputPath (suffix : String) : Bytes :=
  config.outputPathPrefix ++ ascii "." ++ ascii suffix

/-- A file that is opened for writing, and what is done if it can be. -/
def creating (path : Bytes) (body : Prog Control Unit) : Prog Control Unit := do
  if !(← call io (.create path)) then pure () else body

/-- `%u %s` -/
def printPtListLine (entry : UInt64 × Bytes) : Bytes :=
  Scanf.digits .k10 entry.1 ++ chr ' ' :: entry.2

/-- The files that `DumpCpuPerf` writes, in the order of the cpus. -/
def cpuPtFiles : List (UInt64 × Bytes) :=
  (List.range config.numCpus.toNat).map fun cpu => (cpu.toUInt64, ptFileName config cpu.toUInt64)

def ptList : Bytes := Delimited.terminated (chr '\n') ((cpuPtFiles config).map printPtListLine)

def cpuidText : Bytes :=
  io.dumpArch ++ ascii "mtc_freq: " ++ Scanf.digits .k10 config.mtcFreq.toUInt64 ++ ascii "\n"

/-- The loop that does not end within its fuel is taken for one that never ends. -/
def storeCopy (path : Bytes) : Option Bytes → Prog Control Unit
  | none => stop
  | some file => writeFile path file

def copyKtrace (fuel : Nat) : Prog Control Unit := do
  let _ ← call io .readKtrace
  storeCopy (outputPath config "ktrace") (io.ktrace.copy fuel)

def dumpPerf (fuel : Nat) : Prog Control Unit := do
  if !(← openDevices io ktraceFdOnly) then pure ()
  else do
    creating io (outputPath config "ktrace") (copyKtrace io config fuel)
    closeDevices ktraceFdOnly
    creating io (outputPath config "cpuid")
      (writeFile (outputPath config "cpuid") (cpuidText io config))
    if config.mode = .cpus then
      creating io (outputPath config "ptlist")
        (writeFile (outputPath config "ptlist") (ptList config))
    else pure ()

def resetCpuPerf : Prog Control Unit :=
  withDevices io iptOnly () do
    let _ ← call io .cpuModeFree
    pure ()

def resetPerf : Prog Control Unit :=
  withDevices io iptAndHandle () do
    let _ ← call io (.setMode .cpus)
    restartKtrace io

def performInit : Prog Control Bool := do
  if !(← setPerfMode io config) then pure false
  else if !(← initCpuPerf io config) then pure false
  else initPerfPreProcess io

/-- An action of the command line; `false` ends the program. -/
def perform (fuel : Nat) (action : Bytes) : Prog Control Bool :=
  if action = ascii "init" then performInit io config
  else if action = ascii "start" then startCpuPerf io
  else if action = ascii "stop" then do
    stopCpuPerf io
    stopPerf io
    pure true
  else if action = ascii "dump" then do
    dumpCpuPerf io config
    dumpPerf io config fuel
    pure true
  else if action = ascii "reset" then do
    resetCpuPerf io
    resetPerf io
    pure true
  else pure false

def performAll (fuel : Nat) : List Bytes → Prog Control Bool
  | [] => pure true
  | action :: actions => do
      if !(← perform io config fuel action) then pure false else performAll fuel actions

def controlIpt (fuel : Nat) (actions : List Bytes) : Prog Control Bool :=
  if config.mode ≠ .cpus then pure false else performAll io config fuel actions

end Control

/-! ## The devices are opened and closed -/

/-- What a call does to what is open. -/
def ControlCall.deed (made : ControlCall) (answer : Bool) : Option (Deed Resource Unit) :=
  match made with
  | .acquire resource => if answer then some (.acquire resource ()) else none
  | .release resource => some (.release resource ())
  | .setMode _ | .allocBuffer _ | .cpuModeAlloc | .cpuModeStart | .cpuModeStop | .cpuModeFree
  | .dump _ => some (.use .intelPt ())
  | .ktraceStart | .ktraceStop => some (.use .ktraceHandle ())
  | .readKtrace => some (.use .ktrace ())
  | .create _ | .launch => none

namespace Control

def deedsOf (journal : List (ControlCall × Bool)) : List (Deed Resource Unit) :=
  journal.filterMap fun entry => entry.1.deed entry.2

def deeds (control : Control) : List (Deed Resource Unit) := deedsOf control.journal

theorem deedsOf_snoc (journal : List (ControlCall × Bool)) (made : ControlCall) (answer : Bool) :
    deedsOf (journal ++ [(made, answer)]) = deedsOf journal ++ (made.deed answer).toList := by
  rw [deedsOf, List.filterMap_append]
  cases deed : made.deed answer <;> simp [deedsOf, deed]

/-- No device was open when an inferior was set up, which could have inherited it. -/
def LaunchedClosed (journal : List (ControlCall × Bool)) : Prop :=
  ∀ earlier answer later, journal = earlier ++ (.launch, answer) :: later →
    Ledger.Settled (deedsOf earlier)

theorem launchedClosed_nil : LaunchedClosed [] := by
  intro earlier answer later split
  cases earlier <;> cases split

theorem launchedClosed_snoc {journal : List (ControlCall × Bool)} {made : ControlCall}
    {answer : Bool} (launched : LaunchedClosed journal)
    (now : made = .launch → Ledger.Settled (deedsOf journal)) :
    LaunchedClosed (journal ++ [(made, answer)]) := by
  intro earlier other later split
  rcases List.eq_nil_or_concat later with rfl | ⟨rest, last, rfl⟩
  · obtain ⟨same, entry⟩ := List.append_inj' split rfl
    cases entry
    exact same ▸ now rfl
  · rw [List.concat_eq_append, ← List.cons_append, ← List.append_assoc] at split
    exact launched earlier other rest (List.append_inj' split rfl).1

/-- Every device was open when it was used and not when it was opened. -/
structure LawfulSoFar (control : Control) : Prop where
  lawful : Ledger.Lawful control.deeds
  launched : LaunchedClosed control.journal

/-- It is known, too, what is open now. -/
structure Holding (owners : Resource → Option Unit) (control : Control) : Prop where
  stands : Ledger.Stands control.deeds owners
  launched : LaunchedClosed control.journal

theorem Holding.lawful {owners : Resource → Option Unit} {control : Control}
    (holding : Holding owners control) : LawfulSoFar control :=
  ⟨holding.stands.lawful, holding.launched⟩

def closed : Resource → Option Unit := fun _ => none

def ifWanted (wanted : Bool) : Option Unit := if wanted then some () else none

def Wanted.owners (wanted : Wanted) : Resource → Option Unit
  | .intelPt => ifWanted wanted.ipt
  | .ktrace => ifWanted wanted.ktraceFd
  | .ktraceHandle => ifWanted wanted.ktraceHandle

section Devices

variable {io : ControlIo} {config : IptConfig} {owners : Resource → Option Unit}
  {resource : Resource}

/-- A program that leaves open what was open. -/
abbrev Leaves {α : Type} (owners : Resource → Option Unit) (program : Prog Control α) : Prop :=
  Triple (Holding owners) program (fun _ => Holding owners) LawfulSoFar

theorem leaves_pure {α : Type} (value : α) : Leaves owners (pure value) :=
  .pure fun _ holding => holding

theorem leaves_bind {α β : Type} {first : Prog Control α} {next : α → Prog Control β}
    (head : Leaves owners first) (tail : ∀ value, Leaves owners (next value)) :
    Leaves owners (first >>= next) := head.bind tail

theorem leaves_check {α : Type} {first : Prog Control Bool} {failed done : Prog Control α}
    (head : Leaves owners first) (no : Leaves owners failed) (yes : Leaves owners done) :
    Leaves owners (do if !(← first) then failed else done) := head.check no yes

theorem leaves_call {made : ControlCall} (uses : ∀ answer, made.deed answer = some (.use resource ()))
    (owned : owners resource = some ()) : Leaves owners (call io made) := by
  refine fun control holding => ⟨?_, launchedClosed_snoc holding.launched fun launch => ?_⟩
  · simp only [deeds, deedsOf_snoc, uses, Option.toList_some]
    exact holding.stands.use owned
  · subst launch
    cases uses true

theorem leaves_create (path : Bytes) : Leaves owners (call io (.create path)) := by
  refine fun control holding => ⟨?_, launchedClosed_snoc holding.launched nofun⟩
  simp only [deeds, deedsOf_snoc, ControlCall.deed, Option.toList_none, List.append_nil]
  exact holding.stands

theorem leaves_launch : Leaves closed (call io .launch) := by
  refine fun control holding => ⟨?_, launchedClosed_snoc holding.launched fun _ resource => ?_⟩
  · simp only [deeds, deedsOf_snoc, ControlCall.deed, Option.toList_none, List.append_nil]
    exact holding.stands
  · exact congrFun holding.stands.owner resource

theorem leaves_writeFile (path text : Bytes) : Leaves owners (writeFile path text) :=
  .modify fun _ holding => ⟨holding.stands, holding.launched⟩

theorem acquireIf_holding (wanted : Bool) (free : owners resource = none) :
    Triple (Holding owners) (acquireIf io wanted resource)
      (fun ok control => (ok = false → wanted = true) ∧
        Holding (Function.update owners resource (ifWanted (wanted && ok))) control)
      LawfulSoFar := by
  have same : Function.update owners resource none = owners := by
    rw [← free, Function.update_eq_self]
  cases wanted with
  | false =>
      refine .pure fun control holding => ⟨by simp, ?_⟩
      rw [Bool.false_and, ifWanted, if_neg Bool.false_ne_true, same]
      exact holding
  | true =>
      refine fun control holding =>
        ⟨fun _ => rfl, ?_, launchedClosed_snoc holding.launched nofun⟩
      simp only [deeds, deedsOf_snoc, ControlCall.deed, Bool.true_and]
      cases io.answers control.journal.length with
      | false =>
          simp only [Bool.false_eq_true, ↓reduceIte, Option.toList_none, List.append_nil, ifWanted,
            same]
          exact holding.stands
      | true =>
          simp only [↓reduceIte, Option.toList_some, ifWanted]
          exact holding.stands.acquire free

theorem release_holding (owned : owners resource = some ()) :
    Triple (Holding owners) (release resource)
      (fun _ => Holding (Function.update owners resource none)) LawfulSoFar := by
  refine .modify fun control holding => ⟨?_, launchedClosed_snoc holding.launched nofun⟩
  simp only [deeds, deedsOf_snoc, ControlCall.deed, Option.toList_some]
  exact holding.stands.release owned

theorem releaseIf_holding (wanted : Bool) (owned : wanted = true → owners resource = some ()) :
    Triple (Holding owners) (releaseIf wanted resource)
      (fun _ => Holding (if wanted then Function.update owners resource none else owners))
      LawfulSoFar := by
  cases wanted with
  | false => exact leaves_pure ()
  | true => exact release_holding (owned rfl)

theorem Holding.congr {others : Resource → Option Unit} {control : Control}
    (holding : Holding owners control) (same : ∀ resource, owners resource = others resource) :
    Holding others control := funext same ▸ holding

/-- Where it fails, what has been opened is closed again. -/
theorem openDevices_holding (io : ControlIo) (wanted : Wanted) :
    Triple (Holding closed) (openDevices io wanted)
      (fun ok => Holding (if ok then wanted.owners else closed)) LawfulSoFar := by
  obtain ⟨ipt, ktraceFd, ktraceHandle⟩ := wanted
  refine (acquireIf_holding ipt rfl).check (.pure fun control holding => ?_) (.assuming fun _ => ?_)
  · refine holding.2.congr fun resource => ?_
    cases ipt <;> cases resource <;> rfl
  refine (acquireIf_holding (ktraceFd || ktraceHandle) rfl).check (.assuming fun _ => ?_)
    (.assuming fun _ => ?_)
  · refine (releaseIf_holding ipt fun opened => ?_).bind fun _ =>
      .pure fun control holding => holding.congr fun resource => ?_
    · subst opened
      rfl
    · cases ipt <;> cases resource <;> simp [ifWanted, closed]
  refine (acquireIf_holding ktraceHandle rfl).check (.assuming fun asked => ?_)
    (.assuming fun _ => ?_)
  · cases asked rfl
    refine (releaseIf_holding ipt fun opened => ?_).bind fun _ =>
      (release_holding ?_).bind fun _ =>
        .pure fun control holding => holding.congr fun resource => ?_
    · subst opened
      rfl
    · cases ipt <;> simp [ifWanted]
    · cases ipt <;> cases resource <;> simp [ifWanted, closed]
  · refine (releaseIf_holding (ktraceHandle && !ktraceFd) fun unneeded => ?_).bind fun _ =>
      .pure fun control holding => holding.congr fun resource => ?_
    · cases ktraceHandle <;> simp_all [ifWanted]
    · cases ktraceFd <;> cases ktraceHandle <;> cases resource <;>
        simp [ifWanted, Wanted.owners]

theorem closeDevices_holding (wanted : Wanted) :
    Triple (Holding wanted.owners) (closeDevices wanted) (fun _ => Holding closed)
      LawfulSoFar := by
  obtain ⟨ipt, ktraceFd, ktraceHandle⟩ := wanted
  refine (releaseIf_holding ktraceHandle fun opened => ?_).bind fun _ =>
    (releaseIf_holding ktraceFd fun opened => ?_).bind fun _ =>
      (releaseIf_holding ipt fun opened => ?_).weaken fun _ control holding =>
        holding.congr fun resource => ?_
  · subst opened
    rfl
  · subst opened
    cases ktraceHandle <;> rfl
  · subst opened
    cases ktraceHandle <;> cases ktraceFd <;> rfl
  · cases ktraceHandle <;> cases ktraceFd <;> cases ipt <;> cases resource <;> rfl

theorem leaves_withDevices {α : Type} {wanted : Wanted} (failed : α) {body : Prog Control α}
    (inner : Leaves wanted.owners body) : Leaves closed (withDevices io wanted failed body) :=
  (openDevices_holding io wanted).check (leaves_pure failed) <|
    inner.bind fun result => (closeDevices_holding wanted).bind fun _ => leaves_pure result

/-! Every function closes the devices it opens. -/

theorem leaves_setPerfMode : Leaves closed (setPerfMode io config) :=
  leaves_withDevices false (leaves_call (fun _ => rfl) rfl)

theorem leaves_allocBuffers (owned : owners .intelPt = some ()) (cpus : Nat) :
    Leaves owners (allocBuffers io config cpus) := by
  induction cpus with
  | zero => exact leaves_pure true
  | succ cpus ih => exact leaves_check (leaves_call (fun _ => rfl) owned) (leaves_pure false) ih

theorem leaves_initCpuPerf : Leaves closed (initCpuPerf io config) :=
  leaves_withDevices false <|
    leaves_check (leaves_allocBuffers rfl _) (leaves_pure false) (leaves_call (fun _ => rfl) rfl)

theorem leaves_restartKtrace (owned : owners .ktraceHandle = some ()) :
    Leaves owners (restartKtrace io) :=
  leaves_bind (leaves_call (fun _ => rfl) owned) fun _ =>
    leaves_bind (leaves_call (fun _ => rfl) owned) fun _ => leaves_pure ()

theorem leaves_initPerfPreProcess : Leaves closed (initPerfPreProcess io) :=
  leaves_withDevices false <|
    leaves_check (leaves_call (fun _ => rfl) rfl)
      (leaves_bind (leaves_restartKtrace rfl) fun _ => leaves_pure false) (leaves_pure true)

theorem leaves_startCpuPerf : Leaves closed (startCpuPerf io) :=
  leaves_withDevices false <|
    leaves_check (leaves_call (fun _ => rfl) rfl)
      (leaves_bind (leaves_call (fun _ => rfl) rfl) fun _ => leaves_pure false) (leaves_pure true)

/-- The functions that make one call and do not look at its result. -/
theorem leaves_oneCall {wanted : Wanted} {made : ControlCall}
    (uses : ∀ answer, made.deed answer = some (.use resource ()))
    (owned : wanted.owners resource = some ()) :
    Leaves closed (withDevices io wanted () do let _ ← call io made; pure ()) :=
  leaves_withDevices () (leaves_bind (leaves_call uses owned) fun _ => leaves_pure ())

theorem leaves_stop {α : Type} : Leaves owners (stop : Prog Control α) :=
  .stop fun _ holding => holding.lawful

theorem leaves_dumpBuffer (owned : owners .intelPt = some ()) (cpu : Nat) :
    Leaves owners (dumpBuffer io config cpu) := by
  refine .reading (fun _ => True) (fun _ => trivial) fun dump _ =>
    leaves_bind (leaves_call (fun _ => rfl) owned) fun _ => leaves_bind ?_ fun _ => ?_
  · cases dump.file with
    | none => exact leaves_pure ()
    | some file => exact leaves_writeFile _ file
  · cases dump.status with
    | none => exact leaves_stop
    | some status => exact leaves_pure ()

theorem leaves_dumpCpuPerf : Leaves closed (dumpCpuPerf io config) :=
  leaves_withDevices () (.forM fun cpu => leaves_dumpBuffer rfl cpu)

theorem leaves_creating {path : Bytes} {body : Prog Control Unit} (inner : Leaves owners body) :
    Leaves owners (creating io path body) :=
  leaves_check (leaves_create path) (leaves_pure ()) inner

theorem leaves_copyKtrace (owned : owners .ktrace = some ()) (fuel : Nat) :
    Leaves owners (copyKtrace io config fuel) := by
  refine leaves_bind (leaves_call (fun _ => rfl) owned) fun _ => ?_
  cases io.ktrace.copy fuel with
  | none => exact leaves_stop
  | some file => exact leaves_writeFile _ file

theorem leaves_dumpPerf (fuel : Nat) : Leaves closed (dumpPerf io config fuel) := by
  refine (openDevices_holding io ktraceFdOnly).check (leaves_pure ()) ?_
  refine .bind (leaves_creating (leaves_copyKtrace rfl fuel)) fun _ =>
    (closeDevices_holding ktraceFdOnly).bind fun _ =>
      leaves_bind (leaves_creating (leaves_writeFile _ _)) fun _ => ?_
  split
  · exact leaves_creating (leaves_writeFile _ _)
  · exact leaves_pure ()

theorem leaves_resetPerf : Leaves closed (resetPerf io) :=
  leaves_withDevices () <|
    leaves_bind (leaves_call (fun _ => rfl) rfl) fun _ => leaves_restartKtrace rfl

theorem leaves_stopCpuPerf : Leaves closed (stopCpuPerf io) := leaves_oneCall (fun _ => rfl) rfl

theorem leaves_stopPerf : Leaves closed (stopPerf io) := leaves_oneCall (fun _ => rfl) rfl

theorem leaves_resetCpuPerf : Leaves closed (resetCpuPerf io) := leaves_oneCall (fun _ => rfl) rfl

theorem leaves_performInit : Leaves closed (performInit io config) :=
  leaves_check leaves_setPerfMode (leaves_pure false) <|
    leaves_check leaves_initCpuPerf (leaves_pure false) leaves_initPerfPreProcess

theorem leaves_perform (fuel : Nat) (action : Bytes) :
    Leaves closed (perform io config fuel action) := by
  unfold perform
  split
  · exact leaves_performInit
  split
  · exact leaves_startCpuPerf
  split
  · exact leaves_bind leaves_stopCpuPerf fun _ => leaves_bind leaves_stopPerf fun _ =>
      leaves_pure true
  split
  · exact leaves_bind leaves_dumpCpuPerf fun _ => leaves_bind (leaves_dumpPerf fuel) fun _ =>
      leaves_pure true
  split
  · exact leaves_bind leaves_resetCpuPerf fun _ => leaves_bind leaves_resetPerf fun _ =>
      leaves_pure true
  · exact leaves_pure false

theorem leaves_controlIpt (fuel : Nat) (actions : List Bytes) :
    Leaves closed (controlIpt io config fuel actions) := by
  unfold controlIpt
  split
  · exact leaves_pure false
  · induction actions with
    | nil => exact leaves_pure true
    | cons action actions ih => exact leaves_check (leaves_perform fuel action) (leaves_pure false) ih

theorem holding_new (files : Bytes → Option Bytes) : Holding closed ⟨[], files⟩ :=
  ⟨Ledger.stands_nil, launchedClosed_nil⟩

/-- Whatever the actions and whichever calls fail: a device is used only while it is open,
it is not opened twice, and none is open when the program ends. -/
theorem controlIpt_devices (io : ControlIo) (config : IptConfig) (fuel : Nat)
    (actions : List Bytes) (files : Bytes → Option Bytes) :
    let outcome := controlIpt io config fuel actions ⟨[], files⟩
    Ledger.Lawful outcome.2.deeds ∧ (outcome.1.isSome → Ledger.Settled outcome.2.deeds) := by
  have triple : Leaves closed (controlIpt io config fuel actions) := leaves_controlIpt fuel actions
  have ended := triple _ (holding_new files)
  cases ran : controlIpt io config fuel actions ⟨[], files⟩ with
  | mk result reached =>
      rw [ran] at ended
      cases result with
      | none => exact ⟨ended.lawful, nofun⟩
      | some ok => exact ⟨ended.stands.lawful, fun _ => congrFun ended.stands.owner⟩

end Devices

end Control

/-! ## The copy of ktrace -/

namespace KtraceIo

variable (io : KtraceIo)

/-- What a turn adds to the file. -/
def chunk (turn : Nat) : Bytes :=
  match io.read turn with
  | some data => data.take (io.write turn data.length)
  | none => io.overrun turn

def ends (turn : Nat) : Prop := io.read turn = some []

theorem turn_of_ends {turn : Nat} (last : io.ends turn) (file : Bytes) :
    io.turn (turn, file) = some (.done file) := by
  simp only [KtraceIo.turn, show io.read turn = some [] from last]

theorem turn_of_not_ends {turn : Nat} (goesOn : ¬ io.ends turn) (file : Bytes) :
    io.turn (turn, file) = some (.next (turn + 1, file ++ io.chunk turn)) := by
  unfold ends at goesOn
  cases read : io.read turn with
  | none => simp only [KtraceIo.turn, chunk, read]
  | some data =>
      cases data with
      | nil => exact absurd read goesOn
      | cons byte data => simp only [KtraceIo.turn, chunk, read]

/-- What has been written after some turns. -/
def written (turns : Nat) : Bytes := (List.range turns).flatMap io.chunk

theorem written_succ (turns : Nat) : io.written (turns + 1) = io.written turns ++ io.chunk turns := by
  simp [written, List.range_succ]

theorem written_of_reached {state : Nat × Bytes} (path : Reached io.turn (0, []) state) :
    state.2 = io.written state.1 ∧ ∀ earlier < state.1, ¬ io.ends earlier := by
  induction path with
  | start => exact ⟨rfl, nofun⟩
  | @turn before after path goesOn ih =>
      obtain ⟨turn, file⟩ := before
      by_cases last : io.ends turn
      · rw [io.turn_of_ends last] at goesOn
        cases goesOn
      · rw [io.turn_of_not_ends last] at goesOn
        cases goesOn
        refine ⟨by rw [written_succ, ← ih.1], fun earlier small => ?_⟩
        cases Nat.lt_succ_iff_lt_or_eq.mp small with
        | inl smaller => exact ih.2 earlier smaller
        | inr same => exact same ▸ last

theorem reached_of_goesOn {turn : Nat} (before : ∀ earlier < turn, ¬ io.ends earlier) :
    Reached io.turn (0, []) (turn, io.written turn) := by
  induction turn with
  | zero => exact .start
  | succ turn ih =>
      have path := ih fun earlier small => before earlier (Nat.lt_succ_of_lt small)
      refine path.turn ?_
      rw [io.turn_of_not_ends (before turn (Nat.lt_succ_self turn)), written_succ]

/-- The file is there after some turns exactly if it is what has been written up to the
first read that gives nothing. -/
theorem copy_iff {file : Bytes} : (∃ fuel, io.copy fuel = some file) ↔
    ∃ turns, io.ends turns ∧ (∀ earlier < turns, ¬ io.ends earlier) ∧ file = io.written turns := by
  constructor
  · rintro ⟨fuel, ended⟩
    obtain ⟨⟨turn, reached⟩, path, last⟩ := reached_of_loop ended
    obtain ⟨same, before⟩ := io.written_of_reached path
    by_cases leaves : io.ends turn
    · rw [io.turn_of_ends leaves] at last
      cases last
      exact ⟨turn, leaves, before, same⟩
    · rw [io.turn_of_not_ends leaves] at last
      cases last
  · rintro ⟨turns, last, before, rfl⟩
    exact loop_of_reached (io.reached_of_goesOn before) (loop_done (io.turn_of_ends last _) 0)

/-- What the reads of some turns have given. -/
def readTo (turns : Nat) : Bytes := (List.range turns).flatMap fun turn => (io.read turn).getD []

section Parts

variable {ι : Type} {parts wholes : ι → Bytes} {items : List ι}

theorem length_flatMap_le (starts : ∀ item ∈ items, parts item <+: wholes item) :
    (items.flatMap parts).length ≤ (items.flatMap wholes).length := by
  induction items with
  | nil => exact Nat.le_refl _
  | cons item items ih =>
      rw [List.forall_mem_cons] at starts
      simp only [List.flatMap_cons, List.length_append]
      exact Nat.add_le_add starts.1.length_le (ih starts.2)

/-- A list made of parts of which some are too short is not the whole. -/
theorem flatMap_eq_iff_of_starts (starts : ∀ item ∈ items, parts item <+: wholes item) :
    items.flatMap parts = items.flatMap wholes ↔ ∀ item ∈ items, parts item = wholes item := by
  refine ⟨fun same => ?_, fun same => List.flatMap_congr same⟩
  induction items with
  | nil => exact nofun
  | cons item items ih =>
      rw [List.forall_mem_cons] at starts ⊢
      rw [List.flatMap_cons, List.flatMap_cons] at same
      have lengths := congrArg List.length same
      have rest := length_flatMap_le starts.2
      have short := starts.1.length_le
      rw [List.length_append, List.length_append] at lengths
      have first := starts.1.eq_of_length (by omega)
      rw [first] at same
      exact ⟨first, ih starts.2 (List.append_cancel_left same)⟩

end Parts

/-- The copy ends exactly if some read gives nothing: a device that keeps failing is read
for ever. Up to there, and if no read fails, the file is the whole of ktrace exactly if
no write falls short. -/
theorem copy_outcome (io : KtraceIo) :
    ((∃ fuel, (io.copy fuel).isSome) ↔ ∃ turn, io.ends turn) ∧
    ∀ fuel file, io.copy fuel = some file → ∃ turns, io.ends turns ∧
      (∀ earlier < turns, ¬ io.ends earlier) ∧
      ((∀ earlier < turns, io.read earlier ≠ none) →
        (file = io.readTo turns ↔ ∀ earlier < turns, ∀ data, io.read earlier = some data →
          data.length ≤ io.write earlier data.length)) := by
  refine ⟨⟨?_, ?_⟩, ?_⟩
  · rintro ⟨fuel, ended⟩
    obtain ⟨file, copied⟩ := Option.isSome_iff_exists.mp ended
    obtain ⟨turns, last, -⟩ := io.copy_iff.mp ⟨fuel, copied⟩
    exact ⟨turns, last⟩
  · intro some
    classical
    obtain ⟨fuel, copied⟩ := io.copy_iff.mpr
      ⟨Nat.find some, Nat.find_spec some, fun _ small => Nat.find_min some small, rfl⟩
    exact ⟨fuel, by rw [copied]; rfl⟩
  · intro fuel file copied
    obtain ⟨turns, last, before, rfl⟩ := io.copy_iff.mp ⟨fuel, copied⟩
    refine ⟨turns, last, before, fun noError => ?_⟩
    have starts : ∀ turn ∈ List.range turns, io.chunk turn <+: (io.read turn).getD [] := by
      intro turn member
      cases read : io.read turn with
      | none => exact absurd read (noError turn (List.mem_range.mp member))
      | some data =>
          rw [chunk, read]
          exact List.take_prefix _ data
    rw [written, readTo, flatMap_eq_iff_of_starts starts]
    refine forall_congr' fun turn => ?_
    rw [List.mem_range]
    refine imp_congr_right fun small => ?_
    cases read : io.read turn with
    | none => exact absurd read (noError turn small)
    | some data => simp [chunk, read, List.take_eq_self_iff]

end KtraceIo

end Gdbserver.Ipt
