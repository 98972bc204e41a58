import Gdbserver.Inferior.Process
import Gdbserver.Rsp.ThreadActionList

/-!
# The command handler

`bin/debugserver/cmd-handler.cc`, and the members of `RspServer` that its
handlers call. A handler returns whether it handled the command; the response
callback is `PostPacketWriteTask`, as `OnBytesRead` passes it.
-/

set_option autoImplicit false

namespace Gdbserver

open Logic Prog

namespace RspServer

def kMaxBufferSize : Nat := 4096

def postWriteTask (isNotification : Bool) (data : Bytes) : Prog Server Unit :=
  modify fun server => { server with posted := server.posted ++ [.write isNotification data] }

def postPacketWriteTask (data : Bytes) : Prog Server Unit := postWriteTask false data

def sendAck (verified : Bool) : Prog Server Unit :=
  modify fun server => { server with posted := server.posted ++ [.ack verified] }

def postQuitMessageLoop (status : Bool) : Prog Server Unit :=
  modify fun server => { server with runStatus := status, posted := server.posted ++ [.quit] }

def logNumSeverities : Int32 := 4

def setParameter (env : Env) (parameter value : Bytes) : Prog Server Bool :=
  if parameter ≠ ascii "verbosity" then pure false
  else
    match env.ftl.stringToInt .k10 value with
    | none => pure false
    | some verbosity =>
        if verbosity ≥ logNumSeverities then pure false
        else do
          modify fun server => { server with minLogLevel := verbosity }
          pure true

def getParameter (env : Env) (parameter : Bytes) : Prog Server (Option Bytes) :=
  if parameter ≠ ascii "verbosity" then pure none
  else read fun server => some (env.ftl.intToDecimal server.minLogLevel)

end RspServer

namespace CommandHandler

def callback (response : Bytes) : Prog Server Unit := RspServer.postPacketWriteTask response

def kSupportedFeatures : Bytes := ascii "QNonStop+;qXfer:auxv:read+"

def reply (response : Bytes) : Prog Server Bool := do
  callback response
  pure true

def replyOK : Prog Server Bool := reply (ascii "OK")

def replyWithError (env : Env) (code : Util.ErrorCode) : Prog Server Bool :=
  reply (Util.buildErrorPacket env.ftl code)

def buildArgvForVRun (packet : Bytes) : List Bytes :=
  (Util.semicolonItems packet).map Util.decodeByteArrayString

def hasInferior (server : Server) : Bool := server.hasProcess && server.process.isAttached

def handleQuestionMark : Prog Server Bool := replyOK

/-- Set the program counter of the current thread, in three steps that may fail. -/
def setPC (env : Env) (tid : Koid) (addr : UInt64) : Prog Server Bool := do
  if !(← Registers.refreshGeneralRegisters env tid) then pure false
  else if !(← Thread.updateRegisters tid fun gregs =>
      Registers.setRegister env.arch gregs env.arch.getPCRegisterNumber
        (Registers.wordBytes addr)) then
    pure false
  else Registers.writeGeneralRegisters env tid

def resumeThread (env : Env) (tid : Koid) : Prog Server Bool := do
  if !(← Thread.resume env tid) then replyWithError env .perm else replyOK

def selectPicked : Option Koid → Prog Server Unit
  | none => pure ()
  | some tid => Server.setCurrentThread (some tid)

/-- The end of `Handle_c`, when there is no current thread. -/
def startInferior (env : Env) : Prog Server Bool := do
  let process ← read (·.process)
  dcheck .continueNotLive !process.isLive
  if !(← Process.start env) then replyWithError env .perm
  else do
    let picked ← Process.pickOneThread env
    selectPicked picked
    replyOK

def handle_c (env : Env) (packet : Bytes) : Prog Server Bool := do
  if !(← read hasInferior) then replyWithError env .perm
  else do
    let currentThread ← read Server.currentThreadId
    if packet = [] then
      match currentThread with
      | some tid => resumeThread env tid
      | none => startInferior env
    else
      match env.ftl.stringToUInt64 packet with
      | none => replyWithError env .inval
      | some addr =>
          match currentThread with
          | none => do
              let process ← read (·.process)
              dcheck .continueAtNotLive !process.isLive
              replyWithError env .perm
          | some tid => do
              if !(← setPC env tid addr) then replyWithError env .perm
              else resumeThread env tid

def handle_C (env : Env) (packet : Bytes) : Prog Server Bool := do
  if !(← read hasInferior) then replyWithError env .perm
  else
    match ← read Server.currentThreadId with
    | none => replyWithError env .perm
    | some tid =>
        match env.ftl.stringToInt .k16 (packet.takeWhile (· ≠ chr ';')) with
        | none => replyWithError env .inval
        | some signo => do
            let signal ← read fun server => Thread.getGdbSignal env.arch (server.thread tid)
            if signal = .unsupported then replyWithError env .perm
            else if signal.number ≠ signo.toInt then replyWithError env .perm
            else
              -- the parameter begins at the semicolon, not after it
              let addrParam := packet.dropWhile (· ≠ chr ';')
              if addrParam = [] then resumeThread env tid
              else
                match env.ftl.stringToUInt64 addrParam with
                | none => replyWithError env .inval
                | some addr => do
                    if !(← setPC env tid addr) then replyWithError env .perm
                    else resumeThread env tid

/-- The end of `Handle_D`. -/
def detachInferior (env : Env) : Prog Server Bool := do
  let process ← read (·.process)
  if !process.isAttached then replyWithError env .noent
  else if !(← Process.detach) then replyWithError env .perm
  else replyOK

def handle_D (env : Env) (packet : Bytes) : Prog Server Bool := do
  if !(← read (·.hasProcess)) then replyWithError env .perm
  else
    match packet with
    -- `packet[0]` is then the byte after the view, the `#` that ends the packet
    | [] => detachInferior env
    | first :: rest =>
        if first = chr ';' then
          match env.ftl.stringToUInt64 rest with
          | none => replyWithError env .inval
          | some pid => do
              let id ← read (·.process.id)
              if pid ≠ id then replyWithError env .inval else detachInferior env
        else replyWithError env .inval

/-- The registers are taken from the cache; nothing is refreshed. -/
def generalRegisters (env : Env) : Option Koid → Prog Server Bytes
  | none => pure (Registers.getUninitializedGeneralRegistersAsString env.arch)
  | some tid => do
      let stack ← ask env .uninitialized
      read fun server =>
        Registers.getGeneralRegistersAsString env.arch (server.thread tid).gregs stack

def handle_g (env : Env) : Prog Server Bool := do
  if !(← read hasInferior) then replyWithError env .noent
  else do
    let currentThread ← read Server.currentThreadId
    let result ← generalRegisters env currentThread
    if result = [] then replyWithError env .perm else reply result

def handle_G (env : Env) (packet : Bytes) : Prog Server Bool := do
  if !(← read hasInferior) then replyWithError env .noent
  else
    match ← read Server.currentThreadId with
    | none => replyWithError env .noent
    | some tid => do
        if !(← Thread.updateRegisters tid fun gregs =>
            Registers.setGeneralRegistersFromString env.arch gregs packet) then
          replyWithError env .perm
        else if !(← Registers.writeGeneralRegisters env tid) then replyWithError env .perm
        else replyOK

def chooseThread (env : Env) (tid : Int64) : Prog Server (Option Koid) := do
  Process.ensureThreadMapFresh env
  if tid = 0 then Process.pickOneThread env else Process.findThreadById env tid.toUInt64

/-- `Hc` and `Hg` once the thread id has been read. -/
def setCurrentThread (env : Env) (tid : Int64) : Prog Server Bool := do
  if !(← read (·.hasProcess)) then
    if tid = 0 then replyWithError env .perm
    else do
      Server.setCurrentThread none
      replyOK
  else if !(← read (·.process.isLive)) then do
    Server.setCurrentThread none
    replyOK
  else
    match ← chooseThread env tid with
    | none => replyWithError env .perm
    | some found => do
        Server.setCurrentThread (some found)
        replyOK

def handle_H (env : Env) (packet : Bytes) : Prog Server Bool :=
  match packet with
  | [] | [_] => replyWithError env .inval
  | operation :: threadId =>
      if operation = chr 'c' ∨ operation = chr 'g' then do
        let stack ← ask env .uninitialized
        match Util.parseThreadId env.ftl (stack 0) threadId with
        | none => replyWithError env .inval
        | some id =>
            if id.hasPid then pure false
            else if id.tid < 0 then replyWithError env .inval
            else setCurrentThread env id.tid
      else pure false

def splitParams (env : Env) (separator : Char) (string : Bytes) : List Bytes :=
  env.ftl.splitString (chr separator) .keepWhitespace .splitWantNonEmpty string

def parsePair (env : Env) (first second : Bytes) : Option (UInt64 × UInt64) :=
  match env.ftl.stringToUInt64 first, env.ftl.stringToUInt64 second with
  | some addr, some length => some (addr, length)
  | _, _ => none

def handle_m (env : Env) (packet : Bytes) : Prog Server Bool := do
  if !(← read hasInferior) then replyWithError env .noent
  else
    match splitParams env ',' packet with
    | [first, second] =>
        match parsePair env first second with
        | none => replyWithError env .noent
        | some (addr, length) => do
            match ← Process.readMemory env addr length.toNat with
            | none => replyWithError env .perm
            | some buffer => reply (Util.encodeByteArrayString buffer)
    | _ => replyWithError env .inval

/-- The write at the end of `Handle_M`, short-circuited for no data. -/
def storeData (env : Env) (addr : UInt64) (data : Bytes) : Prog Server Bool := do
  if data = [] then replyOK
  else if !(← Process.writeMemory env addr data) then replyWithError env .perm
  else replyOK

def handle_M (env : Env) (packet : Bytes) : Prog Server Bool := do
  if !(← read hasInferior) then replyWithError env .noent
  else
    match env.ftl.splitString (chr ':') .keepWhitespace .splitWantAll packet with
    | [location, data] =>
        match splitParams env ',' location with
        | [first, second] =>
            match parsePair env first second with
            | none => replyWithError env .inval
            | some (addr, length) =>
                let dataBytes := Util.decodeByteArrayString data
                if dataBytes.length ≠ length.toNat then replyWithError env .inval
                else storeData env addr dataBytes
        | _ => replyWithError env .inval
    | _ => replyWithError env .inval

def handleQueryAttached (env : Env) (params : Bytes) : Prog Server Bool :=
  if params ≠ [] then replyWithError env .inval else reply (ascii "0")

/-- The answer to `qC`. A thread that was only picked does not become current. -/
def replyThreadId (env : Env) (tid : Koid) : Prog Server Bool :=
  reply (ascii "QC" ++ env.ftl.uint64ToHex tid)

def handleQueryCurrentThreadId (env : Env) (params : Bytes) : Prog Server Bool :=
  if params ≠ [] then replyWithError env .inval
  else do
    match ← read Server.currentThreadId with
    | some tid => replyThreadId env tid
    | none => do
        if !(← read fun server => server.hasProcess && server.process.isLive) then
          replyWithError env .perm
        else
          match ← Process.pickOneThread env with
          | none => replyWithError env .perm
          | some tid => replyThreadId env tid

def kHelpText : Bytes :=
  ascii ("help - print this help text\n" ++ "exit - quit debugserver\n" ++
    "quit - quit debugserver\n" ++ "set <parameter> <value>\n" ++ "show <parameter>\n" ++
    "\n" ++ "Parameters:\n" ++ "  verbosity - useful range is -2 to 3 (-2 is most verbose)\n")

def replyText (text : Bytes) : Prog Server Bool := reply (Util.encodeString text)

/-- The `bad_command` label. -/
def badCommand : Prog Server Bool := replyText (ascii "Invalid command\n")

def rcmdQuit : Prog Server Bool := do
  callback (ascii "OK")
  RspServer.postQuitMessageLoop true
  pure true

def rcmdSet (env : Env) : List Bytes → Prog Server Bool
  | [parameter, value] => do
      if !(← RspServer.setParameter env parameter value) then badCommand else replyOK
  | _ => badCommand

def rcmdShow (env : Env) : List Bytes → Prog Server Bool
  | [parameter] => do
      match ← RspServer.getParameter env parameter with
      | none => badCommand
      | some value => replyText (ascii "Value is " ++ value ++ ascii "\n")
  | _ => badCommand

def handleQueryRcmd (env : Env) (command : Bytes) : Prog Server Bool :=
  match env.ftl.splitString (chr ' ') .trimWhitespace .splitWantNonEmpty
      (Util.decodeString command) with
  | [] => replyOK
  | cmd :: arguments =>
      if cmd = ascii "quit" ∨ cmd = ascii "exit" then
        if arguments ≠ [] then badCommand else rcmdQuit
      else if cmd = ascii "help" then
        if arguments ≠ [] then badCommand else replyText kHelpText
      else if cmd = ascii "set" then rcmdSet env arguments
      else if cmd = ascii "show" then rcmdShow env arguments
      else replyText (ascii "Invalid monitor command\n")

def handleQuerySupported : Prog Server Bool := reply kSupportedFeatures

def handleSetNonStop (env : Env) (params : Bytes) : Prog Server Bool :=
  match params with
  | [value] =>
      if value = chr '1' then replyOK
      else if value = chr '0' then replyWithError env .perm
      else replyWithError env .inval
  | _ => replyWithError env .inval

/-- The threads `ForEachLiveThread` visits. -/
def liveThreadIds (server : Server) : List Koid :=
  server.process.threads.keys.filter fun tid => (server.thread tid).state ≠ .gone

/-- `ForEachLiveThread` with a callback that only looks. -/
def inspectLiveThreads {α : Type} (env : Env) (view : Server → α) : Prog Server α := do
  Process.ensureThreadMapFresh env
  read view

def setThreadInfoSequence (active : Bool) : Prog Server Unit :=
  modify fun server => { server with inThreadInfoSequence := active }

def threadInfo (env : Env) (ids : List Koid) : Bytes :=
  chr 'm' :: Util.joinStrings (chr ',') (ids.map env.ftl.uint64ToHex)

def replyThreadInfo (env : Env) : Prog Server Bool := do
  Process.ensureThreadMapFresh env
  let ids ← inspectLiveThreads env liveThreadIds
  if ids = [] then reply (ascii "l")
  else do
    setThreadInfoSequence true
    reply (threadInfo env ids)

def handleQueryThreadInfo (env : Env) (isFirst : Bool) : Prog Server Bool := do
  if !(← read (·.hasProcess)) then replyWithError env .perm
  else if !isFirst then do
    if !(← read (·.inThreadInfoSequence)) then replyWithError env .perm
    else do
      setThreadInfoSequence false
      reply (ascii "l")
  else if ← read (·.inThreadInfoSequence) then replyWithError env .perm
  else replyThreadInfo env

/-- `AT_BASE`, the entries of the executable once it is known, and `AT_NULL`. -/
def auxv (process : Process) : List (UInt64 × UInt64) :=
  match (if process.dsosLoaded then process.getExecDso else none) with
  | some exec =>
      [(7, process.baseAddress), (9, exec.entry), (3, exec.phdr), (4, exec.phentsize.toUInt64),
        (5, exec.phnum.toUInt64), (0, 0)]
  | none => [(7, process.baseAddress), (0, 0)]

def auxvBytes (process : Process) : Bytes :=
  (auxv process).flatMap fun entry =>
    Registers.wordBytes entry.1 ++ Registers.wordBytes entry.2

/-- `sizeof(auxv)`: ten entries of two words. -/
def auxvSize : UInt64 := 160

/-- `rsp_len`, computed in `size_t`. -/
def auxvResponseLength (process : Process) (offset length : UInt64) : UInt64 :=
  min ((auxvBytes process).length.toUInt64 - offset) length

def auxvResponse (process : Process) (stack : Nat → UInt64) (offset length : UInt64) : Bytes :=
  (ascii "l" ++ (List.range (auxvResponseLength process offset length).toNat).map fun index =>
      -- `offset` counts entries here, not bytes; beyond the array lies the stack
      let position := 16 * offset.toNat + index
      ((auxvBytes process)[position]?).getD (stack position).toUInt8).take
    (1 + auxvResponseLength process offset length).toNat

def handleQueryXfer (env : Env) (params : Bytes) : Prog Server Bool :=
  if !Util.startsWith params (ascii "auxv:read::") then pure false
  else
    match splitParams env ',' (params.drop (ascii "auxv:read::").length) with
    | [first, second] =>
        match parsePair env first second with
        | none => replyWithError env .inval
        | some (offset, length) => do
            if !(← read (·.hasProcess)) then replyWithError env .perm
            else if offset > auxvSize then replyWithError env .inval
            else do
              let stack ← ask env .uninitialized
              let process ← read (·.process)
              reply (auxvResponse process stack offset length)
    | _ => replyWithError env .inval

def handle_q (env : Env) (name params : Bytes) : Prog Server Bool :=
  if name = ascii "Attached" then handleQueryAttached env params
  else if name = ascii "C" then handleQueryCurrentThreadId env params
  else if name = ascii "fThreadInfo" then handleQueryThreadInfo env true
  else if Util.startsWith name (ascii "Rcmd,") then
    handleQueryRcmd env (name.drop (ascii "Rcmd,").length)
  else if name = ascii "sThreadInfo" then handleQueryThreadInfo env false
  else if name = ascii "Supported" then handleQuerySupported
  else if name = ascii "Xfer" then handleQueryXfer env params
  else pure false

def handle_Q (env : Env) (name params : Bytes) : Prog Server Bool :=
  if name = ascii "NonStop" then handleSetNonStop env params else pure false

def handle_T (env : Env) (packet : Bytes) : Prog Server Bool := do
  if !(← read hasInferior) then replyWithError env .noent
  else
    match env.ftl.stringToUInt64 packet with
    | none => replyWithError env .inval
    | some tid => do
        match ← Process.findThreadById env tid with
        | none => replyWithError env .noent
        | some found => do
            if !(← read fun server => (server.thread found).isLive) then replyWithError env .noent
            else replyOK

def handle_vAttach (env : Env) (packet : Bytes) : Prog Server Bool := do
  if !(← read (·.hasProcess)) then replyWithError env .perm
  else
    match env.ftl.stringToUInt64 packet with
    | none => replyWithError env .inval
    | some pid => do
        if ← read (·.process.isLive) then replyWithError env .perm
        else if !(← Process.initializePid pid) then replyWithError env .perm
        else if !(← Process.attach env) then replyWithError env .perm
        else replyOK

/-- "Pick one" entries are resolved on a copy of each entry, so that picking
leaves no trace in the list. -/
def resolvePickOnes (env : Env) (actions : List Entry) : Prog Server Unit :=
  forM actions fun entry =>
    if entry.tid = 0 then do
      let _ ← Process.pickOneThread env
      pure ()
    else pure ()

/-- The first pass: no thread in state `kNew` is to be stepped. -/
def actionsOk (actions : ThreadActionList) (server : Server) : Bool :=
  (liveThreadIds server).all fun tid =>
    !(actions.getAction server.process.id tid = .step ∧ (server.thread tid).state = .new)

def stepStopped (env : Env) (tid : Koid) : Prog Server Unit := do
  if (← read fun server => (server.thread tid).state) = .stopped then do
    let _ ← Thread.step env tid
    pure ()
  else pure ()

def resumeStopped (env : Env) (tid : Koid) : Prog Server Unit := do
  let state ← read fun server => (server.thread tid).state
  if state = .new ∨ state = .stopped then do
    let _ ← Thread.resume env tid
    pure ()
  else pure ()

/-- The switch of the second pass. -/
def runAction (env : Env) (tid : Koid) : Action → Prog Server Unit
  | .continue => do
      resumeStopped env tid
      -- there is no `break`: the case runs on into `kStep`
      stepStopped env tid
  | .step => stepStopped env tid
  | .none => pure ()

def runActions (env : Env) (actions : ThreadActionList) : Prog Server Unit :=
  Process.forEachLiveThread env fun tid => do
    let pid ← read (·.process.id)
    runAction env tid (actions.getAction pid tid)

/-- `Handle_vCont` once the list has been accepted. -/
def applyActions (env : Env) (actions : ThreadActionList) : Prog Server Bool := do
  let process ← read (·.process)
  dcheck .vContLive process.isLive
  dcheck .vContAttached process.isAttached
  resolvePickOnes env actions.actions
  if !(← inspectLiveThreads env (actionsOk actions)) then replyWithError env .inval
  else do
    runActions env actions
    replyOK

def handle_vCont (env : Env) (packet : Bytes) : Prog Server Bool := do
  if !(← read (·.hasProcess)) then replyWithError env .perm
  else do
    let stack ← ask env .uninitialized
    let id ← read (·.process.id)
    let actions := ThreadActionList.ofString env.ftl stack packet id
    -- asserted by the constructor of each entry
    dcheck .entryPid (actions.actions.all fun entry => entry.pid ≠ 0)
    if !actions.valid then replyWithError env .inval else applyActions env actions

def handle_vKill (env : Env) (packet : Bytes) : Prog Server Bool := do
  if !(← read (·.hasProcess)) then replyWithError env .perm
  else
    match env.ftl.stringToUInt64 packet with
    | none => replyWithError env .inval
    | some pid => do
        let process ← read (·.process)
        if pid ≠ process.id then replyWithError env .inval
        else if !process.isLive then replyWithError env .perm
        else if !(← Process.kill env) then replyWithError env .perm
        else replyOK

def setArgv (packet : Bytes) : Prog Server Unit :=
  if packet = [] then pure ()
  else modifyProcess fun process => { process with argv := buildArgvForVRun packet }

/-- The end of `Handle_vRun`, once the program has been loaded. -/
def launch (env : Env) : Prog Server Bool := do
  if !(← Process.attach env) then replyWithError env .perm
  else if !(← Process.start env) then replyWithError env .perm
  else pure true

/-- A `vRun` that starts the inferior is answered when its first thread starts. -/
def handle_vRun (env : Env) (packet : Bytes) : Prog Server Bool := do
  if !(← read (·.hasProcess)) then replyWithError env .perm
  else do
    setArgv packet
    if ← read (·.process.isLive) then replyWithError env .perm
    else if !(← Process.initializeProgram env) then replyWithError env .perm
    else launch env

def handle_v (env : Env) (packet : Bytes) : Prog Server Bool :=
  if Util.startsWith packet (ascii "Attach;") then
    handle_vAttach env (packet.drop (ascii "Attach;").length)
  else if Util.startsWith packet (ascii "Cont;") then
    handle_vCont env (packet.drop (ascii "Cont;").length)
  else if Util.startsWith packet (ascii "Kill;") then
    handle_vKill env (packet.drop (ascii "Kill;").length)
  else if Util.startsWith packet (ascii "Run;") then
    handle_vRun env (packet.drop (ascii "Run;").length)
  else pure false

/-- `Z0` and `z0` are compiled out. -/
def handle_zZ : Prog Server Bool := pure false

def handleQuery (env : Env) (general : Bool) (packet : Bytes) : Prog Server Bool := do
  dcheck .extractParametersNonempty (packet ≠ [])
  let parameters := Util.extractParameters packet
  if general then handle_q env parameters.1 parameters.2
  else handle_Q env parameters.1 parameters.2

def handleCommand (env : Env) (packet : Bytes) : Prog Server Bool :=
  match packet with
  | [] => pure false
  | command :: arguments =>
      if command = chr '?' then if arguments ≠ [] then pure false else handleQuestionMark
      else if command = chr 'c' then handle_c env arguments
      else if command = chr 'C' then handle_C env arguments
      else if command = chr 'D' then handle_D env arguments
      else if command = chr 'g' then if arguments ≠ [] then pure false else handle_g env
      else if command = chr 'G' then handle_G env arguments
      else if command = chr 'H' then handle_H env arguments
      else if command = chr 'm' then handle_m env arguments
      else if command = chr 'M' then handle_M env arguments
      else if command = chr 'q' then handleQuery env true arguments
      else if command = chr 'Q' then handleQuery env false arguments
      else if command = chr 'T' then handle_T env arguments
      else if command = chr 'v' then handle_v env arguments
      else if command = chr 'z' ∨ command = chr 'Z' then handle_zZ
      else pure false

end CommandHandler

end Gdbserver
