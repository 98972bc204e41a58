import Gdbserver.SimplePt.CallPrinter

/-!
# The raw printer

`bin/ipt-dump/raw-printer.cc` prints a line for every instruction, and before it a
line for whatever has changed since the last one: the core bus ratio, CR3, the
space and the function. A reader of the output has to remember the last line of
each kind.
-/

set_option autoImplicit false

namespace Gdbserver.IntelPt

open Logic SimplePt

deriving instance DecidableEq for Elf.SymbolTable

deriving instance DecidableEq for SimplePt.SymbolTable

inductive Space where
  | unknown
  | kernel
  | user
  deriving DecidableEq, Repr

inductive RawLine where
  | header (file : Bytes) (id : UInt64)
  | coreBusRatio (ratio : UInt32)
  | cr3 (cr3 : UInt64)
  | space (space : Space)
  | function (fileName name : Bytes)
  | unknownFunction
  | insn (ts pc : UInt64) (iclass : Bytes)
  deriving DecidableEq

/-- What the printer has from the decoder. -/
structure RawPrinter where
  library : SortSearch
  kernelCr3 : UInt64

/-- A function is known by its table and its symbol in there. -/
structure PrintState where
  totalInsncnt : UInt64 := 0
  currentTs : UInt64 := 0
  currentSpace : Space := .unknown
  currentFunction : Option (SimplePt.SymbolTable × Elf.Symbol) := none
  currentCr3 : UInt64 := ptAsidNoCr3
  currentPc : UInt64 := 0
  currentCoreBusRatio : UInt32 := 0
  deriving DecidableEq

namespace RawPrinter

variable (printer : RawPrinter)

def getSpace (cr3 : UInt64) (symtab : Option SimplePt.SymbolTable) : Space :=
  match symtab with
  | some symtab => if symtab.isKernel then .kernel else .user
  | none =>
      if cr3 ≠ ptAsidNoCr3 then
        if cr3 = printer.kernelCr3 then .kernel else .user
      else .unknown

/-- The symbol at the address with the table it is in. -/
def findFunction (symtab : Option SimplePt.SymbolTable) (pc : UInt64) :
    Option (SimplePt.SymbolTable × Elf.Symbol) :=
  symtab.bind fun symtab => (symtab.findSymbol printer.library pc).map fun sym => (symtab, sym)

/-- The name ends at a NUL; what may stand behind the string section is left out. -/
def symbolName (symtab : SimplePt.SymbolTable) (sym : Elf.Symbol) : Bytes :=
  match sym.name, symtab.elf.stringSection with
  | some offset, some strings => (strings.contents.drop offset).takeWhile (· ≠ 0)
  | _, _ => ascii "unknown"

def functionLine : Option (SimplePt.SymbolTable × Elf.Symbol) → RawLine
  | some (symtab, sym) => .function symtab.fileName (symbolName symtab sym)
  | none => .unknownFunction

/-- What is printed for a value that may have changed. -/
def watch {α : Type} [DecidableEq α] (line : α → RawLine) (now current : α) : List RawLine :=
  if now ≠ current then [line now] else []

/-- `ProcessNextInsn` with the view in front of it and what `pt_insn_next` answers. An
error is printed elsewhere, but CR3 is remembered. -/
def processNextInsn (view : View) (answer : PtAnswer) (ps : PrintState) :
    List RawLine × PrintState :=
  let ps :=
    { ps with
      totalInsncnt := ps.totalInsncnt + 1
      currentTs := if view.ts ≠ 0 then view.ts else ps.currentTs
      currentPc := answer.insn.ip }
  let cr3 := answer.view.cr3
  if answer.status < 0 then ([], { ps with currentCr3 := cr3 })
  else
    let ratio := answer.view.ratio
    let symtab := findSymbolTable answer.view.symtabs cr3 ps.currentPc
    let space := printer.getSpace cr3 symtab
    let function := printer.findFunction symtab ps.currentPc
    (watch .coreBusRatio ratio ps.currentCoreBusRatio ++ watch .cr3 cr3 ps.currentCr3 ++
        watch .space space ps.currentSpace ++ watch functionLine function ps.currentFunction ++
        [.insn ps.currentTs ps.currentPc (insnClassName answer.insn.iclass)],
      { ps with
        currentCoreBusRatio := ratio
        currentCr3 := cr3
        currentSpace := space
        currentFunction := function })

/-- The inner loop: until an instruction cannot be had. -/
def processInsns : List PtAnswer → View → PrintState → List RawLine × PrintState
  | [], view, ps => printer.processNextInsn view (endOfStream view) ps
  | answer :: rest, view, ps =>
      let (lines, ps) := printer.processNextInsn view answer ps
      if answer.status < 0 then (lines, ps)
      else
        let (later, ps) := processInsns rest answer.view ps
        (lines ++ later, ps)

/-- The outer loop. It leaves when there is no further synchronization point. -/
def printSegments : List Segment → PrintState → List RawLine × PrintState
  | [], ps => ([], ps)
  | segment :: segments, ps =>
      let (lines, ps) := printer.processInsns segment.answers segment.view ps
      let (later, ps) := printSegments segments ps
      (lines ++ later, ps)

def printOneFile (file : Bytes) (id : UInt64) (trace : Option Trace) : List RawLine × UInt64 :=
  match trace with
  | none => ([], 0)
  | some trace =>
      let (lines, ps) := printer.printSegments trace.segments {}
      (.header file id :: lines, ps.totalInsncnt)

end RawPrinter

/-! ## Reading the output -/

/-- What holds of an instruction beyond its own line. -/
structure Circumstances where
  coreBusRatio : UInt32
  cr3 : UInt64
  space : Space
  function : Option (Bytes × Bytes)
  deriving DecidableEq

/-- An instruction as a reader knows it. -/
structure Reading where
  circumstances : Circumstances
  ts : UInt64
  pc : UInt64
  iclass : Bytes
  deriving DecidableEq

/-- All but CR3. -/
def Reading.forgetCr3 (reading : Reading) : Reading :=
  { reading with circumstances := { reading.circumstances with cr3 := 0 } }

def Circumstances.hear (known : Circumstances) : RawLine → Circumstances
  | .header _ _ => known
  | .coreBusRatio ratio => { known with coreBusRatio := ratio }
  | .cr3 cr3 => { known with cr3 := cr3 }
  | .space space => { known with space := space }
  | .function fileName name => { known with function := some (fileName, name) }
  | .unknownFunction => { known with function := none }
  | .insn _ _ _ => known

/-- The instructions of an output, each with what the last lines of each kind said. -/
def readBack (known : Circumstances) : List RawLine → List Reading
  | [] => []
  | .insn ts pc iclass :: lines => ⟨known, ts, pc, iclass⟩ :: readBack known lines
  | line :: lines => readBack (known.hear line) lines

/-- What a reader starts from. -/
def nothingSaid : Circumstances := ⟨0, ptAsidNoCr3, .unknown, none⟩

/-- The calls of `ProcessNextInsn` behind one synchronization point, with the views in
front of them. -/
def callsFrom : List PtAnswer → View → List (View × PtAnswer)
  | [], view => [(view, endOfStream view)]
  | answer :: rest, view =>
      (view, answer) :: if answer.status < 0 then [] else callsFrom rest answer.view

def calls (segments : List Segment) : List (View × PtAnswer) :=
  segments.flatMap fun segment => callsFrom segment.answers segment.view

namespace RawPrinter

variable (printer : RawPrinter)

def text : SimplePt.SymbolTable × Elf.Symbol → Bytes × Bytes
  | (symtab, sym) => (symtab.fileName, symbolName symtab sym)

/-- The circumstances of an instruction, from the decoder. -/
def circumstances (answer : PtAnswer) : Circumstances :=
  let symtab := findSymbolTable answer.view.symtabs answer.view.cr3 answer.insn.ip
  { coreBusRatio := answer.view.ratio
    cr3 := answer.view.cr3
    space := printer.getSpace answer.view.cr3 symtab
    function := (printer.findFunction symtab answer.insn.ip).map text }

/-- The instructions that were had, from the decoder. -/
def decoded : UInt64 → List (View × PtAnswer) → List Reading
  | _, [] => []
  | ts, (view, answer) :: later =>
      let ts := if view.ts ≠ 0 then view.ts else ts
      if answer.status < 0 then decoded ts later
      else
        ⟨printer.circumstances answer, ts, answer.insn.ip, insnClassName answer.insn.iclass⟩ ::
          decoded ts later

end RawPrinter

/-- No instruction has the CR3 that was in force at a failure just before it, unless it
is also that of the instruction before. -/
def NoSilentSwitch : (current said : UInt64) → List (View × PtAnswer) → Prop
  | _, _, [] => True
  | current, said, (_, answer) :: later =>
      let cr3 := answer.view.cr3
      if answer.status < 0 then NoSilentSwitch cr3 said later
      else (cr3 ≠ current ∨ cr3 = said) ∧ NoSilentSwitch cr3 cr3 later

namespace RawPrinter

variable {printer : RawPrinter}

/-- The calls of a run one after the other. -/
def processCalls (printer : RawPrinter) : List (View × PtAnswer) → PrintState →
    List RawLine × PrintState
  | [], ps => ([], ps)
  | (view, answer) :: later, ps =>
      let (lines, ps) := printer.processNextInsn view answer ps
      let (more, ps) := processCalls printer later ps
      (lines ++ more, ps)

theorem processCalls_append (first second : List (View × PtAnswer)) (ps : PrintState) :
    printer.processCalls (first ++ second) ps =
      let (lines, ps) := printer.processCalls first ps
      let (more, ps) := printer.processCalls second ps
      (lines ++ more, ps) := by
  induction first generalizing ps with
  | nil => rfl
  | cons call later ih => simp [processCalls, ih]

theorem processInsns_eq (answers : List PtAnswer) (view : View) (ps : PrintState) :
    printer.processInsns answers view ps = printer.processCalls (callsFrom answers view) ps := by
  induction answers generalizing view ps with
  | nil => simp [processInsns, callsFrom, processCalls]
  | cons answer rest ih =>
      by_cases failed : answer.status < 0
      · simp [processInsns, callsFrom, processCalls, failed]
      · simp [processInsns, callsFrom, processCalls, failed, ih]

theorem printSegments_eq (segments : List Segment) (ps : PrintState) :
    printer.printSegments segments ps = printer.processCalls (calls segments) ps := by
  induction segments generalizing ps with
  | nil => rfl
  | cons segment segments ih =>
      have split : calls (segment :: segments) =
          callsFrom segment.answers segment.view ++ calls segments := rfl
      rw [split, processCalls_append, printSegments]
      simp only [processInsns_eq, ih]

/-- What the reader knows is what the printer knows, but for CR3. -/
structure Agrees (known : Circumstances) (ps : PrintState) : Prop where
  coreBusRatio : known.coreBusRatio = ps.currentCoreBusRatio
  space : known.space = ps.currentSpace
  function : known.function = ps.currentFunction.map text

/-- The CR3 that a reader assumes for an instruction. -/
def heardCr3 (known : Circumstances) (ps : PrintState) (answer : PtAnswer) : UInt64 :=
  if answer.view.cr3 ≠ ps.currentCr3 then answer.view.cr3 else known.cr3

theorem heardCr3_eq_iff {known : Circumstances} {ps : PrintState} {answer : PtAnswer} :
    heardCr3 known ps answer = answer.view.cr3 ↔
      answer.view.cr3 ≠ ps.currentCr3 ∨ answer.view.cr3 = known.cr3 := by
  rw [heardCr3]
  by_cases changed : answer.view.cr3 ≠ ps.currentCr3
  · simp [changed]
  · rw [if_neg changed]
    simp [changed, eq_comm]

theorem readBack_watch {α : Type} [DecidableEq α] {line : α → RawLine} {now current : α}
    (noInsn : ∀ ts pc iclass, line now ≠ .insn ts pc iclass) (known : Circumstances)
    (later : List RawLine) :
    readBack known (watch line now current ++ later) =
      readBack (if now ≠ current then known.hear (line now) else known) later := by
  rw [watch]
  by_cases changed : now ≠ current
  · rw [if_pos changed, if_pos changed, List.singleton_append]
    cases told : line now with
    | insn ts pc iclass => exact absurd told (noInsn ts pc iclass)
    | _ => rfl
  · rw [if_neg changed, if_neg changed, List.nil_append]

section Hear

variable {known : Circumstances}

theorem hear_coreBusRatio {now current : UInt32} (knows : known.coreBusRatio = current) :
    (if now ≠ current then known.hear (.coreBusRatio now) else known) =
      { known with coreBusRatio := now } := by
  by_cases same : now = current
  · simp [same, ← knows]
  · simp [same, Circumstances.hear]

theorem hear_space {now current : Space} (knows : known.space = current) :
    (if now ≠ current then known.hear (.space now) else known) =
      { known with space := now } := by
  by_cases same : now = current
  · simp [same, ← knows]
  · simp [same, Circumstances.hear]

theorem hear_function {now current : Option (SimplePt.SymbolTable × Elf.Symbol)}
    (knows : known.function = current.map text) :
    (if now ≠ current then known.hear (functionLine now) else known) =
      { known with function := now.map text } := by
  by_cases same : now = current
  · simp [same, ← knows]
  · rw [if_pos same]
    cases now with
    | none => rfl
    | some found => rfl

theorem hear_cr3 {now current : UInt64} :
    (if now ≠ current then known.hear (.cr3 now) else known) =
      { known with cr3 := if now ≠ current then now else known.cr3 } := by
  by_cases same : now = current
  · simp [same]
  · simp [same, Circumstances.hear]

end Hear

/-- An instruction that is had: the reader knows all about it but perhaps CR3. -/
theorem readBack_processNextInsn {known : Circumstances} {ps : PrintState}
    (agrees : Agrees known ps) (view : View) {answer : PtAnswer} (had : ¬ answer.status < 0)
    (later : List RawLine) :
    readBack known ((printer.processNextInsn view answer ps).1 ++ later) =
      let now := { printer.circumstances answer with cr3 := heardCr3 known ps answer }
      ⟨now, if view.ts ≠ 0 then view.ts else ps.currentTs, answer.insn.ip,
        insnClassName answer.insn.iclass⟩ :: readBack now later := by
  have noInsn (now : Option (SimplePt.SymbolTable × Elf.Symbol)) (ts pc : UInt64) (iclass : Bytes) :
      functionLine now ≠ .insn ts pc iclass := by
    cases now with
    | none => simp [functionLine]
    | some found => simp [functionLine]
  rw [processNextInsn]
  simp only [if_neg had, List.append_assoc]
  rw [readBack_watch (by simp), readBack_watch (by simp), readBack_watch (by simp),
    readBack_watch (noInsn _), List.singleton_append, readBack,
    hear_coreBusRatio agrees.coreBusRatio, hear_cr3, hear_space, hear_function]
  · rfl
  · exact agrees.function
  · exact agrees.space

/-- The reading of the calls of a run. The reader is right about CR3 exactly if there is
no silent switch. -/
theorem readBack_processCalls (printer : RawPrinter) (made : List (View × PtAnswer))
    {known : Circumstances} {ps : PrintState} (agrees : Agrees known ps) :
    (readBack known (printer.processCalls made ps).1).map Reading.forgetCr3 =
        (printer.decoded ps.currentTs made).map Reading.forgetCr3 ∧
      (readBack known (printer.processCalls made ps).1 = printer.decoded ps.currentTs made ↔
        NoSilentSwitch ps.currentCr3 known.cr3 made) := by
  induction made generalizing known ps with
  | nil => simp [processCalls, decoded, readBack, NoSilentSwitch]
  | cons call later ih =>
      obtain ⟨view, answer⟩ := call
      by_cases failed : answer.status < 0
      · have quiet : (printer.processNextInsn view answer ps).1 = [] := by
          simp [processNextInsn, failed]
        have kept : Agrees known (printer.processNextInsn view answer ps).2 := by
          simp only [processNextInsn, if_pos failed]
          exact ⟨agrees.coreBusRatio, agrees.space, agrees.function⟩
        obtain ⟨same, right⟩ := ih kept
        simp only [processCalls, quiet, List.nil_append, decoded, if_pos failed, NoSilentSwitch]
        simp only [processNextInsn, if_pos failed] at same right ⊢
        exact ⟨same, right⟩
      · obtain ⟨now, isNow⟩ : ∃ now : Circumstances,
            { printer.circumstances answer with cr3 := heardCr3 known ps answer } = now := ⟨_, rfl⟩
        have nowCr3 : now.cr3 = heardCr3 known ps answer := by rw [← isNow]
        have heard : now = printer.circumstances answer ↔
            answer.view.cr3 ≠ ps.currentCr3 ∨ answer.view.cr3 = known.cr3 := by
          rw [← isNow, ← heardCr3_eq_iff]
          exact ⟨fun same => congrArg Circumstances.cr3 same, fun same => by rw [same]; rfl⟩
        have kept : Agrees now (printer.processNextInsn view answer ps).2 := by
          simp only [processNextInsn, if_neg failed, ← isNow]
          exact ⟨rfl, rfl, rfl⟩
        have left : (printer.processNextInsn view answer ps).2.currentTs =
              (if view.ts ≠ 0 then view.ts else ps.currentTs) ∧
            (printer.processNextInsn view answer ps).2.currentCr3 = answer.view.cr3 := by
          simp [processNextInsn, failed]
        obtain ⟨same, right⟩ := ih kept
        rw [left.1, left.2] at right
        rw [left.1] at same
        simp only [processCalls, readBack_processNextInsn agrees view failed, decoded,
          if_neg failed, NoSilentSwitch, isNow]
        refine ⟨?_, ?_⟩
        · rw [List.map_cons, List.map_cons, same]
          simp [Reading.forgetCr3, ← isNow]
        · rw [List.cons.injEq, Reading.mk.injEq, heard, right, nowCr3]
          simp only [and_true]
          exact and_congr_right fun told => by rw [heardCr3_eq_iff.mpr told]

/-- Reading the output for a file line by line gives every instruction that was had, in
order, with its time, address and class, and with its core bus ratio, space and function.
It gives every instruction its CR3 too exactly if none has a CR3 that the decoder switched
to with an error: such a switch is remembered but not printed. -/
theorem readBack_printOneFile (printer : RawPrinter) (file : Bytes) (id : UInt64)
    (trace : Trace) :
    let lines := (printer.printOneFile file id (some trace)).1
    let had := printer.decoded 0 (calls trace.segments)
    (readBack nothingSaid lines).map Reading.forgetCr3 = had.map Reading.forgetCr3 ∧
      (readBack nothingSaid lines = had ↔
        NoSilentSwitch ptAsidNoCr3 ptAsidNoCr3 (calls trace.segments)) := by
  have agrees : Agrees nothingSaid {} := ⟨rfl, rfl, rfl⟩
  obtain ⟨same, right⟩ := printer.readBack_processCalls (calls trace.segments) agrees
  simp only [printOneFile, printSegments_eq, readBack, Circumstances.hear]
  exact ⟨same, right⟩

end RawPrinter

end Gdbserver.IntelPt
