import Gdbserver.SimplePt.SymbolTables

/-!
# The call printer

`third_party/simple-pt/call-printer.cc` with `instruction.cc` and
`printer-util.cc`. The decoder is the trace library's: what it answers to the
calls that move it is data here, and the printer asks for one answer after the
other. Lines are kept as the values that are printed into them; the widths of the
columns are left out.
-/

set_option autoImplicit false

namespace Gdbserver.SimplePt

open Logic

/-- `enum pt_insn_class`. `unlisted` is a value that the table of names has no
entry for. -/
inductive InsnClass where
  | error
  | other
  | call
  | ret
  | jump
  | condJump
  | farCall
  | farReturn
  | farJump
  | unlisted
  deriving DecidableEq, Repr

def insnClassName : InsnClass → Bytes
  | .error => ascii "error"
  | .other => ascii "other"
  | .call => ascii "call"
  | .ret => ascii "return"
  | .jump => ascii "jump"
  | .condJump => ascii "cjump"
  | .farCall => ascii "fcall"
  | .farReturn => ascii "freturn"
  | .farJump => ascii "fjump"
  | .unlisted => ascii ";;;"

def InsnClass.isCall : InsnClass → Bool
  | .call | .farCall => true
  | _ => false

def InsnClass.isReturn : InsnClass → Bool
  | .ret | .farReturn => true
  | _ => false

/-- The bits that `TransferEvents` copies. -/
structure Events where
  speculative : Bool
  aborted : Bool
  committed : Bool
  disabled : Bool
  enabled : Bool
  resumed : Bool
  interrupted : Bool
  resynced : Bool
  stopped : Bool
  deriving DecidableEq, Repr

def Events.clear : Events := ⟨false, false, false, false, false, false, false, false, false⟩

/-- `struct pt_insn`. -/
structure RawInsn where
  ip : UInt64
  iclass : InsnClass
  raw : Bytes
  events : Events
  deriving DecidableEq, Repr

structure Instruction where
  tic : UInt64
  cr3 : UInt64
  pc : UInt64
  dst : UInt64
  ts : UInt64
  lostMtc : UInt32
  lostCyc : UInt32
  iclass : InsnClass
  insnDelta : UInt32
  coreBusRatio : UInt32
  events : Events
  deriving DecidableEq, Repr

def transferEvents (insn : Instruction) (rawInsn : RawInsn) : Instruction :=
  { insn with events := rawInsn.events }

/-! ## The decoder -/

/-- What the decoder answers to `pt_insn_time`, `pt_insn_get_cr3`,
`pt_insn_core_bus_ratio` and `pt_insn_get_offset`, and the symbol tables there
are: reading memory for the decoder loads more of them. -/
structure View where
  ts : UInt64
  lostMtc : UInt32
  lostCyc : UInt32
  cr3 : UInt64
  ratio : UInt32
  offset : UInt64
  symtabs : SymbolTableTable

/-- What `pt_insn_next` returns and stores, and the view afterwards. -/
structure PtAnswer where
  status : Int
  insn : RawInsn
  view : View

def pteEos : Int := 7

/-- The answer of a decoder that has come to the end of its trace. `raw_insn.ip`
has been cleared before the call. -/
def endOfStream (view : View) : PtAnswer where
  status := -pteEos
  insn := ⟨0, .error, [], .clear⟩
  view := view

theorem pteEos_failed : -pteEos < 0 := by decide

theorem endOfStream_failed (view : View) : (endOfStream view).status < 0 := pteEos_failed

/-- A synchronization point: what `pt_insn_sync_forward` returns, the view
afterwards, and what the decoder has to answer from there on. `stack` is what
the uninitialized `insnbuf` holds in a pass, by the number of answers left. -/
structure Segment where
  sync : Int
  view : View
  answers : List PtAnswer
  stack : Nat → Nat → Instruction
  synced : 0 ≤ sync

theorem Segment.synced_zero : (0 : Int) ≤ 0 := Int.le_refl 0

/-- The synchronization points of a file, and how the search for a further one
ends. -/
structure Trace where
  segments : List Segment
  status : Int
  position : UInt64
  failed : status < 0

/-! ## Lines -/

structure Config where
  abstime : Bool := false
  reportLostMtcCyc : Bool := false
  dumpPc : Bool := false
  dumpInsn : Bool := false
  deriving DecidableEq, Repr

/-- What `PrintPc` prints: a symbol with the distance from its address, and the
address space and the address where they are shown. -/
structure Location where
  symbol : Option (Elf.Symbol × UInt64)
  cr3 : Option UInt64
  pc : Option UInt64
  deriving DecidableEq, Repr

inductive Marker where
  | kernel
  | user
  | unknown
  deriving DecidableEq, Repr

/-- The line of a record. The time is relative and since the last one. -/
structure RecordLine where
  tic : UInt64
  time : Option (UInt64 × UInt64)
  insnDelta : UInt32
  marker : Marker
  iclass : InsnClass
  indent : Int
  location : Location
  dst : Option Location
  lostMtc : Option UInt32
  lostCyc : Option UInt32
  deriving DecidableEq, Repr

inductive Line where
  | header (id : UInt64)
  | insn (totalInsnCount ip ts : UInt64) (iclass : Bytes) (raw : Bytes)
      (enabled disabled resumed interrupted : Bool)
  | frequency (ratio : UInt32)
  | transaction (indent : Int)
  | aborted (indent : Int)
  | committed (indent : Int)
  | event (name : Bytes) (location : Location)
  | record (line : RecordLine)
  | syncForward (pos : UInt64) (err : Int)
  | error (totalInsnCount pos cr3 ip : UInt64) (err : Int)
  deriving DecidableEq, Repr

structure GlobalPrintState where
  firstTs : UInt64
  lastTs : UInt64
  coreBusRatio : UInt32
  deriving DecidableEq, Repr

structure LocalPrintState where
  indent : Int
  prevSpeculative : Bool
  deriving DecidableEq, Repr

/-- What the printer has from its owner. -/
structure Printer where
  config : Config
  library : SortSearch
  kernelCr3 : UInt64

namespace Printer

variable (printer : Printer)

/-- `PrintPc` with a symbol and its table. -/
def printPcOf (symtab : Option SymbolTable) (sym : Option Elf.Symbol) (pc cr3 : UInt64)
    (printCr3 : Bool) : Location :=
  match sym, symtab with
  | some sym, some symtab =>
      { symbol := some (sym, pc - (sym.addr + symtab.offset))
        cr3 := if printer.config.dumpPc ∧ printCr3 then some cr3 else none
        pc := if printer.config.dumpPc then some pc else none }
  | _, _ =>
      { symbol := none
        cr3 := if printCr3 then some cr3 else none
        pc := some pc }

def printPc (symtabs : SymbolTableTable) (pc cr3 : UInt64) (printCr3 : Bool) : Location :=
  let (sym, symtab) := findSymbol printer.library symtabs cr3 pc
  printer.printPcOf symtab sym pc cr3 printCr3

def printEv (symtabs : SymbolTableTable) (name : Bytes) (insn : Instruction) : Line :=
  .event name (printer.printPc symtabs insn.pc insn.cr3 true)

def printEvent (symtabs : SymbolTableTable) (insn : Instruction) : List Line :=
  (if insn.events.interrupted then [printer.printEv symtabs (ascii "interrupted") insn] else []) ++
    (if insn.events.resynced then [printer.printEv symtabs (ascii "resynced") insn] else []) ++
    (if insn.events.stopped then [printer.printEv symtabs (ascii "stopped") insn] else [])

end Printer

def hasSpeculativeEvent (insn : Instruction) : Bool :=
  insn.events.speculative || insn.events.aborted || insn.events.committed

/-- The indentation is cut off at zero at the end only. -/
def printSpeculativeEvent (insn : Instruction) (lps : LocalPrintState) :
    List Line × LocalPrintState :=
  let (begun, indent) :=
    if insn.events.speculative ≠ lps.prevSpeculative then
      ([Line.transaction lps.indent], lps.indent + 4)
    else ([], lps.indent)
  let (aborted, indent) :=
    if insn.events.aborted then ([Line.aborted indent], indent - 4) else ([], indent)
  let (committed, indent) :=
    if insn.events.committed then ([Line.committed indent], indent - 4) else ([], indent)
  (begun ++ aborted ++ committed,
    { indent := if indent < 0 then 0 else indent, prevSpeculative := insn.events.speculative })

namespace Printer

variable (printer : Printer)

/-- The relative time and the time since the last one. -/
def printTime (ts : UInt64) (gps : GlobalPrintState) : (UInt64 × UInt64) × GlobalPrintState :=
  let firstTs := if gps.firstTs = 0 ∧ ¬ printer.config.abstime then ts else gps.firstTs
  let lastTs := if gps.lastTs = 0 then ts else gps.lastTs
  ((ts - firstTs, ts - lastTs), { gps with firstTs := firstTs, lastTs := ts })

/-- A time of zero is an empty column. -/
def printInsnTime (insn : Instruction) (gps : GlobalPrintState) :
    Option (UInt64 × UInt64) × GlobalPrintState :=
  if insn.ts = 0 then (none, gps)
  else
    let (time, gps) := printer.printTime insn.ts gps
    (some time, gps)

def printKernelMarker (insn : Instruction) (symtab : Option SymbolTable) : Marker :=
  match symtab with
  | some symtab => if symtab.isKernel then .kernel else .user
  | none =>
      if insn.cr3 ≠ ptAsidNoCr3 then
        if insn.cr3 = printer.kernelCr3 then .kernel else .user
      else .unknown

/-- The two counts of `ReportLost`. -/
def reportLost (insn : Instruction) : Option UInt32 × Option UInt32 :=
  if printer.config.reportLostMtcCyc ∧ insn.ts ≠ 0 then
    (if insn.lostMtc ≠ 0 then some insn.lostMtc else none,
      if insn.lostCyc ≠ 0 then some insn.lostCyc else none)
  else (none, none)

/-- The line that the three cases of the `switch` print. -/
def printLine (symtabs : SymbolTableTable) (insn : Instruction) (dst : Option Location)
    (gps : GlobalPrintState) (lps : LocalPrintState) : Line × GlobalPrintState :=
  let (time, gps) := printer.printInsnTime insn gps
  let symtab := findSymbolTable symtabs insn.cr3 insn.pc
  let sym := symtab.bind fun symtab => symtab.findSymbol printer.library insn.pc
  let (lostMtc, lostCyc) := printer.reportLost insn
  (.record
    { tic := insn.tic
      time := time
      insnDelta := insn.insnDelta
      marker := printer.printKernelMarker insn symtab
      iclass := insn.iclass
      indent := lps.indent
      location := printer.printPcOf symtab sym insn.pc insn.cr3 true
      dst := dst
      lostMtc := lostMtc
      lostCyc := lostCyc }, gps)

/-- `Note: For accurate output, the collection of instructions we do here needs to
match the records printed by decode.` -/
def printSwitch (symtabs : SymbolTableTable) (insn : Instruction) (gps : GlobalPrintState)
    (lps : LocalPrintState) : List Line × GlobalPrintState × LocalPrintState :=
  if insn.iclass.isCall then
    let dst := printer.printPc symtabs insn.dst insn.cr3 false
    let (line, gps) := printer.printLine symtabs insn (some dst) gps lps
    ([line], gps, { lps with indent := lps.indent + 4 })
  else if insn.iclass.isReturn then
    let (line, gps) := printer.printLine symtabs insn none gps lps
    ([line], gps, { lps with indent := if lps.indent - 4 < 0 then 0 else lps.indent - 4 })
  else if insn.ts ≠ 0 ∨ insn.iclass = .error then
    let (line, gps) := printer.printLine symtabs insn none gps lps
    ([line], gps, lps)
  else ([], gps, lps)

/-! The parts of a turn of the loop of `PrintOutput` before the `switch`. -/

def printFrequency (insn : Instruction) (gps : GlobalPrintState) :
    List Line × GlobalPrintState :=
  if insn.coreBusRatio ≠ 0 ∧ insn.coreBusRatio ≠ gps.coreBusRatio then
    ([.frequency insn.coreBusRatio], { gps with coreBusRatio := insn.coreBusRatio })
  else ([], gps)

def printSpeculative (insn : Instruction) (lps : LocalPrintState) : List Line × LocalPrintState :=
  if hasSpeculativeEvent insn then printSpeculativeEvent insn lps else ([], lps)

def printEvents (symtabs : SymbolTableTable) (insn : Instruction) : List Line :=
  if insn.events.enabled || insn.events.disabled || insn.events.resumed ||
      insn.events.interrupted || insn.events.resynced || insn.events.stopped then
    printer.printEvent symtabs insn
  else []

def printInstruction (symtabs : SymbolTableTable) (insn : Instruction) (gps : GlobalPrintState)
    (lps : LocalPrintState) : List Line × GlobalPrintState × LocalPrintState :=
  let (frequency, gps) := printFrequency insn gps
  let (speculative, lps) := printSpeculative insn lps
  let events := printer.printEvents symtabs insn
  let (record, gps, lps) := printer.printSwitch symtabs insn gps lps
  (frequency ++ speculative ++ events ++ record, gps, lps)

def printOutput (symtabs : SymbolTableTable) :
    List Instruction → GlobalPrintState → LocalPrintState →
      List Line × GlobalPrintState × LocalPrintState
  | [], gps, lps => ([], gps, lps)
  | insn :: insns, gps, lps =>
      let (lines, gps, lps) := printer.printInstruction symtabs insn gps lps
      let (later, gps, lps) := printOutput symtabs insns gps lps
      (lines ++ later, gps, lps)

end Printer

/-! ## Collecting instructions -/

def kInsnsPerIteration : Nat := 256

/-- The decoder's view and the variables that outlive a pass of the loop. -/
structure Scan where
  view : View
  err : Int
  totalInsnCount : UInt64
  lastTs : UInt64
  prevRatio : UInt32
  insnsSinceLastEmission : UInt32
  errcr3 : UInt64
  errip : UInt64

namespace Scan

/-- `pt_insn_next` -/
def next (scan : Scan) (answer : PtAnswer) : Scan :=
  { scan with err := answer.status, view := answer.view }

def countInsn (scan : Scan) : Scan := { scan with totalInsnCount := scan.totalInsnCount + 1 }

/-- A time that has not changed is marked as unknown. -/
def newTs (scan : Scan) : UInt64 :=
  if scan.view.ts ≠ 0 ∧ scan.view.ts = scan.lastTs then 0 else scan.view.ts

/-- `pt_insn_time` into the entry of the buffer. -/
def stamp (scan : Scan) (insn : Instruction) : Instruction :=
  { insn with ts := scan.newTs, lostMtc := scan.view.lostMtc, lostCyc := scan.view.lostCyc }

/-- The variables for reporting an error, after a call that has failed. -/
def noteError (scan : Scan) (answer : PtAnswer) : Scan :=
  { scan with errcr3 := answer.view.cr3, errip := answer.insn.ip }

end Scan

/-- What a turn of the inner loop leaves: whether the entry of the buffer is kept
(`++count`), and whether the next instruction has been fetched already. -/
structure Iteration where
  scan : Scan
  insn : Instruction
  kept : Bool
  peekedAhead : Bool
  dumped : List Line

def printInsn (insn : RawInsn) (totalInsnCount ts : UInt64) : Line :=
  .insn totalInsnCount insn.ip ts (insnClassName insn.iclass) insn.raw insn.events.enabled
    insn.events.disabled insn.events.resumed insn.events.interrupted

/-- `pt_insn_next` has failed. The first error after some instructions is a record. -/
def recordError (scan : Scan) (insn : Instruction) (answer : PtAnswer) : Iteration :=
  let scan := (scan.next answer).noteError answer
  if scan.insnsSinceLastEmission > 0 then
    { scan := { scan with insnsSinceLastEmission := 0 }
      insn :=
        { insn with
          iclass := .error
          ts := 0
          tic := scan.totalInsnCount
          cr3 := scan.errcr3
          pc := scan.errip
          insnDelta := scan.insnsSinceLastEmission }
      kept := true
      peekedAhead := false
      dumped := [] }
  else { scan := scan, insn := insn, kept := false, peekedAhead := false, dumped := [] }

/-- From the count of the instruction to its class. -/
def examine (scan : Scan) (insn : Instruction) (rawInsn : RawInsn) : Scan × Instruction :=
  let scan := { scan with insnsSinceLastEmission := scan.insnsSinceLastEmission + 1 }
  let ratio := scan.view.ratio
  let changed := decide (ratio ≠ scan.prevRatio)
  ({ scan with prevRatio := if changed then ratio else scan.prevRatio },
    { insn with
      cr3 := scan.view.cr3
      coreBusRatio := if changed then ratio else 0
      iclass := rawInsn.iclass })

/-- The entry is filled in and the count of instructions starts again. -/
def emit (scan : Scan) (insn : Instruction) (rawInsn : RawInsn) : Scan × Instruction :=
  ({ scan with insnsSinceLastEmission := 0 },
    transferEvents
      { insn with
        tic := scan.totalInsnCount
        pc := rawInsn.ip
        insnDelta := scan.insnsSinceLastEmission }
      rawInsn)

def updateLastTs (scan : Scan) (insn : Instruction) : Scan :=
  { scan with lastTs := if insn.ts ≠ 0 then insn.ts else scan.lastTs }

/-- The instruction has been fetched. After a call the next one is fetched to see
what was called. -/
def recordInsn (config : Config) (scan : Scan) (insn : Instruction) (rawInsn : RawInsn)
    (peek : PtAnswer) : Iteration :=
  let (scan, insn) := examine scan insn rawInsn
  let dumped :=
    if config.dumpInsn then [printInsn rawInsn scan.totalInsnCount insn.ts] else []
  if rawInsn.iclass.isCall then
    let (scan, insn) := emit scan insn rawInsn
    let scan := scan.next peek
    if peek.status < 0 then
      { scan := scan.noteError peek
        insn := { insn with dst := 0 }
        kept := true
        peekedAhead := false
        dumped := dumped }
    else
      { scan := updateLastTs scan insn
        insn := { insn with dst := peek.insn.ip }
        kept := true
        peekedAhead := true
        dumped := dumped }
  else if rawInsn.iclass.isReturn ∨ insn.ts ≠ 0 then
    let (scan, insn) := emit scan insn rawInsn
    { scan := updateLastTs scan insn
      insn := insn
      kept := true
      peekedAhead := false
      dumped := dumped }
  else
    -- not interesting
    { scan := scan, insn := insn, kept := false, peekedAhead := false, dumped := dumped }

/-- One turn of the inner loop. `answer` is the instruction that is fetched, or has
been fetched already, and `peek` the one behind it. -/
def iterate (config : Config) (peekedAhead : Bool) (scan : Scan) (insn : Instruction)
    (answer peek : PtAnswer) : Iteration :=
  let scan := scan.countInsn
  let insn := scan.stamp insn
  if peekedAhead then recordInsn config scan insn answer.insn peek
  else if answer.status < 0 then recordError scan insn answer
  else recordInsn config (scan.next answer) insn answer.insn peek

/-- What the inner loop leaves: the instructions in the buffer, what has been
printed meanwhile, and the answers that are left. -/
structure Batch where
  insns : List Instruction
  dumped : List Line
  scan : Scan
  rest : List PtAnswer

def Iteration.insns (turn : Iteration) : List Instruction :=
  if turn.kept then [turn.insn] else []

/-- The inner loop, entered with `err == 0` and `count < kInsnsPerIteration`. If
`peekedAhead`, the first answer has been given already. -/
def collect (config : Config) (limit : Nat) (stack : Nat → Instruction) :
    List PtAnswer → Bool → Scan → Instruction → Nat → Batch
  | [], peekedAhead, scan, insn, _ =>
      let eos := endOfStream scan.view
      let turn := iterate config peekedAhead scan insn eos eos
      { insns := turn.insns, dumped := turn.dumped, scan := turn.scan, rest := [] }
  | answer :: rest, peekedAhead, scan, insn, count =>
      let turn := iterate config peekedAhead scan insn answer
        (rest.headD (endOfStream answer.view))
      let count := count + turn.insns.length
      if turn.scan.err = 0 ∧ count < limit then
        let batch := collect config limit stack rest turn.peekedAhead turn.scan
          (if turn.kept then stack count else turn.insn) count
        { batch with
          insns := turn.insns ++ batch.insns
          dumped := turn.dumped ++ batch.dumped }
      else
        { insns := turn.insns
          dumped := turn.dumped
          scan := turn.scan
          -- what has been fetched does not come again
          rest := if turn.peekedAhead then rest.tail else rest }

theorem collect_rest_length (config : Config) (limit : Nat) (stack : Nat → Instruction)
    (answers : List PtAnswer) (peekedAhead : Bool) (scan : Scan) (insn : Instruction)
    (count : Nat) :
    (collect config limit stack answers peekedAhead scan insn count).rest.length ≤
      answers.length - 1 := by
  induction answers generalizing peekedAhead scan insn count with
  | nil => simp [collect]
  | cons answer rest ih =>
      simp only [collect]
      split
      · exact Nat.le_trans (ih ..) (Nat.sub_le ..)
      · split
        · simp
        · simp

/-- A pass that finds no answers left cannot go on. -/
theorem collect_nil_err (config : Config) (limit : Nat) (stack : Nat → Instruction)
    (scan : Scan) (insn : Instruction) (count : Nat) :
    (collect config limit stack [] false scan insn count).scan.err = -pteEos := by
  simp only [collect, iterate, Bool.false_eq_true, ↓reduceIte, endOfStream_failed, recordError]
  split
  · rfl
  · rfl

/-- The body of the `do` loop up to the output. -/
def pass (config : Config) (limit : Nat) (stack : Nat → Nat → Instruction) (answers : List PtAnswer)
    (scan : Scan) : Batch :=
  let memory := stack answers.length
  collect config limit memory answers false scan (memory 0) 0

theorem pass_rest_lt {config : Config} {limit : Nat} {stack : Nat → Nat → Instruction}
    {answers : List PtAnswer} {scan : Scan}
    (goesOn : (pass config limit stack answers scan).scan.err = 0) :
    (pass config limit stack answers scan).rest.length < answers.length := by
  have shorter := collect_rest_length config limit (stack answers.length) answers false scan
    (stack answers.length 0) 0
  cases answers with
  | nil =>
      rw [pass, collect_nil_err] at goesOn
      exact absurd goesOn (by decide)
  | cons answer rest => exact Nat.lt_of_le_of_lt shorter (Nat.lt_succ_self _)

/-- What the passes over one segment print and leave. -/
structure Passes where
  lines : List Line
  scan : Scan
  gps : GlobalPrintState

namespace Printer

variable (printer : Printer)

/-- `do … while (err == 0)`, entered with `err == 0`. -/
def printPasses (limit : Nat) (stack : Nat → Nat → Instruction) (answers : List PtAnswer)
    (scan : Scan) (gps : GlobalPrintState) (lps : LocalPrintState) : Passes :=
  let batch := pass printer.config limit stack answers scan
  let (lines, gps, lps) := printer.printOutput batch.scan.view.symtabs batch.insns gps lps
  if goesOn : batch.scan.err = 0 then
    have := pass_rest_lt goesOn
    let later := printPasses limit stack batch.rest batch.scan gps lps
    { later with lines := batch.dumped ++ lines ++ later.lines }
  else { lines := batch.dumped ++ lines, scan := batch.scan, gps := gps }
termination_by answers.length

/-- The variables of `PrintOneFile` at the top of the outer loop. -/
structure FileState where
  totalInsnCount : UInt64
  lastTs : UInt64
  gps : GlobalPrintState

def startScan (segment : Segment) (state : FileState) : Scan where
  view := segment.view
  err := segment.sync
  totalInsnCount := state.totalInsnCount
  lastTs := state.lastTs
  prevRatio := 0
  insnsSinceLastEmission := 0
  errcr3 := 0
  errip := 0

/-- From a synchronization point to the next. The loop is not entered if the
status is positive. -/
def printSegment (limit : Nat) (segment : Segment) (state : FileState) : Passes :=
  let scan := startScan segment state
  if segment.sync = 0 then
    printer.printPasses limit segment.stack segment.answers scan state.gps ⟨0, false⟩
  else { lines := [], scan := scan, gps := state.gps }

def errorLine (scan : Scan) : Line :=
  .error scan.totalInsnCount scan.view.offset scan.errcr3 scan.errip scan.err

/-- The outer loop. -/
def printSegments (limit : Nat) (trace : Trace) :
    List Segment → FileState → List Line × UInt64
  | [], state => ([.syncForward trace.position trace.status], state.totalInsnCount)
  | segment :: segments, state =>
      let passes := printer.printSegment limit segment state
      let scan := passes.scan
      if scan.err = -pteEos then (passes.lines, scan.totalInsnCount)
      else
        let (later, total) := printSegments limit trace segments
          ⟨scan.totalInsnCount, scan.lastTs, passes.gps⟩
        (passes.lines ++ errorLine scan :: later, total)

/-- Nothing is printed for a file that no decoder can be had for. -/
def printOneFile (id : UInt64) (file : Option Trace) : List Line × UInt64 :=
  match file with
  | none => ([], 0)
  | some trace =>
      let (lines, total) :=
        printer.printSegments kInsnsPerIteration trace trace.segments ⟨0, 0, ⟨0, 0, 0⟩⟩
      (.header id :: lines, total)

end Printer

end Gdbserver.SimplePt
