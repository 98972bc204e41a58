import Gdbserver.SimplePt.CallPrinterRun

/-!
# The columns of the call printer's output

Reference numbers, indentation and transactions, each as a check that reads the
output line by line and that every output passes.
-/

set_option autoImplicit false

namespace Gdbserver.SimplePt

open Logic

/-! ## The line of an instruction -/

/-- What a call or a return does to the indentation. -/
def indentAfter (iclass : InsnClass) (indent : Int) : Int :=
  if iclass.isCall then indent + 4
  else if iclass.isReturn then if indent - 4 < 0 then 0 else indent - 4
  else indent

/-- The instructions that the `switch` prints a line for. -/
def Instruction.WorthLine (insn : Instruction) : Prop :=
  insn.iclass.isCall ∨ insn.iclass.isReturn ∨ insn.ts ≠ 0 ∨ insn.iclass = .error

/-- What is kept of the instructions that could be had is worth a line, and is no
error. -/
theorem worthLine_of_interesting {insn : Instruction}
    (interesting : insn.iclass.isCall ∨ insn.iclass.isReturn ∨ insn.ts ≠ 0) :
    insn.WorthLine ∧ ¬ (insn.iclass = .error ∧ insn.ts = 0) := by
  rcases interesting with call | ret | timed
  · exact ⟨.inl call, fun both => by simp [both.1, InsnClass.isCall] at call⟩
  · exact ⟨.inr (.inl ret), fun both => by simp [both.1, InsnClass.isReturn] at ret⟩
  · exact ⟨.inr (.inr (.inl timed)), fun both => timed both.2⟩

/-- Lines that stand for no instruction of their own. -/
def Line.Aside : Line → Prop
  | .frequency _ | .event _ _ => True
  | _ => False

/-- Lines about transactions. -/
def Line.Transactional : Line → Prop
  | .transaction _ | .aborted _ | .committed _ => True
  | _ => False

theorem printSpeculativeEvent_transactional (insn : Instruction) (lps : LocalPrintState) :
    ∀ line ∈ (printSpeculativeEvent insn lps).1, line.Transactional := by
  have one {condition : Prop} [Decidable condition] {told line : Line} {indent indent' : Int}
      (member : line ∈ (if condition then ([told], indent) else ([], indent')).1)
      (is : told.Transactional) : line.Transactional := by
    split at member
    · rwa [List.mem_singleton.mp member]
    · simp at member
  intro line member
  simp only [printSpeculativeEvent, List.mem_append] at member
  rcases member with (begun | aborted) | committed
  · exact one begun trivial
  · exact one aborted trivial
  · exact one committed trivial

namespace Printer

variable (printer : Printer) (symtabs : SymbolTableTable) (insn : Instruction)
  (gps : GlobalPrintState) (lps : LocalPrintState)

/-- The line of an instruction has its number, count and class, the time as it is
printed, and the indentation that has been reached. -/
structure IsLineOf (line : RecordLine) (insn : Instruction) (time : Option (UInt64 × UInt64))
    (indent : Int) : Prop where
  tic : line.tic = insn.tic
  insnDelta : line.insnDelta = insn.insnDelta
  iclass : line.iclass = insn.iclass
  time : line.time = time
  indent : line.indent = indent

variable {insn}

theorem printSwitch_record
    (worth : insn.WorthLine) :
    ∃ line, printer.printSwitch symtabs insn gps lps =
        ([.record line], (printer.printInsnTime insn gps).2,
          { lps with indent := indentAfter insn.iclass lps.indent }) ∧
      IsLineOf line insn (printer.printInsnTime insn gps).1 lps.indent := by
  rw [printSwitch]
  by_cases call : insn.iclass.isCall
  · simp only [if_pos call, indentAfter]
    exact ⟨_, rfl, rfl, rfl, rfl, rfl, rfl⟩
  · by_cases ret : insn.iclass.isReturn
    · simp only [if_neg call, if_pos ret, indentAfter]
      exact ⟨_, rfl, rfl, rfl, rfl, rfl, rfl⟩
    · have printed : insn.ts ≠ 0 ∨ insn.iclass = .error := by
        simpa [Instruction.WorthLine, call, ret] using worth
      simp only [if_neg call, if_neg ret, if_pos printed, indentAfter]
      exact ⟨_, rfl, rfl, rfl, rfl, rfl, rfl⟩

theorem printEvent_aside : ∀ line ∈ printer.printEvent symtabs insn, line.Aside := by
  have one {condition : Bool} {name : Bytes} {line : Line}
      (member : line ∈ if condition then [printer.printEv symtabs name insn] else []) :
      line.Aside := by
    cases condition with
    | false => simp at member
    | true =>
        rw [List.mem_singleton.mp member]
        trivial
  intro line member
  simp only [printEvent, List.mem_append] at member
  rcases member with (interrupted | resynced) | stopped
  · exact one interrupted
  · exact one resynced
  · exact one stopped

theorem printEvents_aside : ∀ line ∈ printer.printEvents symtabs insn, line.Aside := by
  intro line member
  rw [printEvents] at member
  split at member
  · exact printer.printEvent_aside symtabs line member
  · simp at member

theorem printFrequency_aside : ∀ line ∈ (printFrequency insn gps).1, line.Aside := by
  intro line member
  rw [printFrequency] at member
  split at member
  · rw [List.mem_singleton.mp member]
    trivial
  · simp at member

/-- A single instruction that is worth a line: a check that does not mind the other
lines sees those of transactions and this one. -/
theorem foldlM_singleton {σ : Type} {check : σ → Line → Option σ}
    (ignores : ∀ state line, line.Aside → check state line = some state)
    (worth : insn.WorthLine)
    (state : σ) :
    ∃ line,
      (printer.printOutput symtabs [insn] gps lps).1.foldlM check state =
          ((printSpeculative insn lps).1.foldlM check state).bind (check · (.record line)) ∧
        (printer.printOutput symtabs [insn] gps lps).2 =
          ((printer.printInsnTime insn (printFrequency insn gps).2).2,
            { (printSpeculative insn lps).2 with
              indent := indentAfter insn.iclass (printSpeculative insn lps).2.indent }) ∧
        IsLineOf line insn (printer.printInsnTime insn (printFrequency insn gps).2).1
          (printSpeculative insn lps).2.indent := by
  obtain ⟨line, printed, isLine⟩ := printer.printSwitch_record symtabs
    (printFrequency insn gps).2 (printSpeculative insn lps).2 worth
  have skips {lines : List Line} (aside : ∀ other ∈ lines, other.Aside) (state : σ) :
      lines.foldlM check state = some state :=
    foldlM_ignored (fun other member state => ignores state other (aside other member)) state
  refine ⟨line, ?_, ?_, isLine⟩
  · simp only [printOutput, printInstruction, printed, List.append_nil, List.foldlM_append,
      skips (printFrequency_aside gps), skips (printer.printEvents_aside symtabs)]
    simp [Option.bind_eq_bind]
  · simp [printOutput, printInstruction, printed]

/-- For a check that does not mind transactions either, there is this line only. -/
theorem foldlM_record {σ : Type} {check : σ → Line → Option σ}
    (ignores : ∀ state line, line.Aside ∨ line.Transactional → check state line = some state)
    (worth : insn.WorthLine)
    (state : σ) :
    ∃ line,
      (printer.printOutput symtabs [insn] gps lps).1.foldlM check state =
          check state (.record line) ∧
        (printer.printOutput symtabs [insn] gps lps).2.1 =
          (printer.printInsnTime insn (printFrequency insn gps).2).2 ∧
        IsLineOf line insn (printer.printInsnTime insn (printFrequency insn gps).2).1
          (printSpeculative insn lps).2.indent := by
  obtain ⟨line, folded, left, isLine⟩ := printer.foldlM_singleton symtabs gps lps
    (fun state other aside => ignores state other (.inl aside)) worth state
  have transactions : (printSpeculative insn lps).1.foldlM check state = some state := by
    apply foldlM_ignored
    intro other member state
    rw [printSpeculative] at member
    split at member
    · exact ignores state other (.inr (printSpeculativeEvent_transactional insn lps other member))
    · simp at member
  exact ⟨line, by rw [folded, transactions, Option.bind_some], by rw [left], isLine⟩

end Printer

/-! ## Reference numbers -/

/-- The line of an instruction that could not be had. -/
def RecordLine.failed (line : RecordLine) : Bool := line.iclass == .error && line.time.isNone

/-- Reads the reference numbers in the width of the instruction counts: the number of
a record is the one before it and the count of the record, and one more for an
instruction that could not be had. Behind a status that is no error, instructions
that were only counted are not told. -/
def checkTic (ref : UInt32) : Line → Option UInt32
  | .record line =>
      if line.tic.toUInt32 = ref + line.insnDelta + (if line.failed then 1 else 0) then
        some line.tic.toUInt32
      else none
  | .error total _ _ _ err =>
      if 0 < err ∨ total.toUInt32 = ref ∨ total.toUInt32 = ref + 1 then some total.toUInt32
      else none
  | _ => some ref

/-- What has been counted since the last line, or, behind an error, is no more. -/
def TicsCounted (ref : UInt32) (scan : Scan) : Prop :=
  (0 ≤ scan.err → scan.totalInsnCount.toUInt32 = ref + scan.insnsSinceLastEmission) ∧
    (scan.err < 0 → scan.totalInsnCount.toUInt32 = ref ∨ scan.totalInsnCount.toUInt32 = ref + 1)

theorem checkTic_ignores (ref : UInt32) (line : Line) (other : line.Aside ∨ line.Transactional) :
    checkTic ref line = some ref := by
  cases line with
  | record line => simp [Line.Aside, Line.Transactional] at other
  | error => simp [Line.Aside, Line.Transactional] at other
  | _ => rfl

/-- The line of an instruction whose number is right is accepted. -/
theorem checkTic_record (printer : Printer) (symtabs : SymbolTableTable) {insn : Instruction}
    (gps : GlobalPrintState) (lps : LocalPrintState) {ref : UInt32}
    (worth : insn.WorthLine)
    (right : insn.tic.toUInt32 =
      ref + insn.insnDelta + (if insn.iclass = .error ∧ insn.ts = 0 then 1 else 0)) :
    (printer.printOutput symtabs [insn] gps lps).1.foldlM checkTic ref =
      some insn.tic.toUInt32 := by
  obtain ⟨line, folded, -, isLine⟩ :=
    printer.foldlM_record symtabs gps lps checkTic_ignores worth ref
  have failed : line.failed = decide (insn.iclass = .error ∧ insn.ts = 0) := by
    rw [RecordLine.failed, isLine.iclass, isLine.time, Printer.printInsnTime]
    by_cases untimed : insn.ts = 0
    · simp [untimed, Bool.beq_eq_decide_eq]
    · simp [untimed]
  rw [folded, checkTic, isLine.tic, isLine.insnDelta, failed]
  simp [right]

theorem tic_audit (printer : Printer) : Audit printer (fun _ => True) checkTic
    (fun ref file => file.totalInsnCount.toUInt32 = ref) (fun ref scan _ _ => TicsCounted ref scan)
    (fun ref total => total.toUInt32 = ref ∨ total.toUInt32 = ref + 1) where
  blank := trivial
  header _ _ := rfl
  dumped _ _ _ _ := rfl
  enter ref file segment top := by
    refine ⟨fun _ => ?_, fun failed => absurd segment.synced (Int.not_le.mpr failed)⟩
    simpa [Printer.startScan] using top
  error ref scan gps lps counted stops := by
    have told : 0 < scan.err ∨ scan.totalInsnCount.toUInt32 = ref ∨
        scan.totalInsnCount.toUInt32 = ref + 1 := by
      cases Int.lt_or_gt_of_ne stops with
      | inl failed => exact .inr (counted.2 failed)
      | inr positive => exact .inl positive
    exact ⟨_, if_pos told, rfl⟩
  eos ref scan gps lps counted eos := counted.2 (by rw [eos]; decide)
  ended ref file pos err top := ⟨ref, rfl, .inl top⟩
  step ref scan insns after gps lps symtabs step status counted := by
    have total : scan.totalInsnCount.toUInt32 = ref + scan.insnsSinceLastEmission :=
      counted.1 (Int.le_of_eq status.symm)
    have succ : (scan.totalInsnCount + 1).toUInt32 = ref + (scan.insnsSinceLastEmission + 1) := by
      rw [UInt64.toUInt32_add, total, UInt32.add_assoc]
      rfl
    cases step with
    | skip counted since lastTs status =>
        refine ⟨ref, rfl, fun _ => ?_, fun failed => absurd status (Int.not_le.mpr failed)⟩
        rw [counted, since, succ]
    | @keep insn _ counted since tic delta fresh interesting allowed lastTs status =>
        obtain ⟨worth, noError⟩ := worthLine_of_interesting interesting
        have right : insn.tic.toUInt32 = ref + insn.insnDelta +
            (if insn.iclass = .error ∧ insn.ts = 0 then 1 else 0) := by
          rw [if_neg noError, tic, counted, succ, delta, UInt32.add_zero]
        have accepted := checkTic_record printer symtabs gps lps worth right
        refine ⟨_, accepted, fun _ => ?_, fun failed => absurd status (Int.not_le.mpr failed)⟩
        rw [tic, since, UInt32.add_zero]
    | @lastCall insn _ counted since tic delta fresh call allowed lastTs status =>
        obtain ⟨worth, noError⟩ := worthLine_of_interesting (.inl call)
        have right : insn.tic.toUInt32 = ref + insn.insnDelta +
            (if insn.iclass = .error ∧ insn.ts = 0 then 1 else 0) := by
          rw [if_neg noError, tic, counted, succ, delta, UInt32.add_zero]
        have accepted := checkTic_record printer symtabs gps lps worth right
        refine ⟨_, accepted, fun succeeded => absurd status (Int.not_lt.mpr succeeded), fun _ => ?_⟩
        rw [tic]
        exact .inl rfl
    | fail counted none since lastTs status =>
        refine ⟨ref, rfl, fun succeeded => absurd status (Int.not_lt.mpr succeeded), fun _ => ?_⟩
        rw [counted, succ, none]
        exact .inr rfl
    | @failRecord insn _ counted since tic delta untimed error allowed lastTs status =>
        have right : insn.tic.toUInt32 = ref + insn.insnDelta +
            (if insn.iclass = .error ∧ insn.ts = 0 then 1 else 0) := by
          rw [if_pos ⟨error, untimed⟩, tic, counted, succ, delta, UInt32.add_assoc]
        have accepted := checkTic_record printer symtabs gps lps
          (.inr (.inr (.inr error))) right
        refine ⟨_, accepted, fun succeeded => absurd status (Int.not_lt.mpr succeeded), fun _ => ?_⟩
        rw [tic]
        exact .inl rfl

/-- Calls and transactions that are open behind the line of an instruction. -/
def depthAfter (iclass : InsnClass) (depth : Nat) : Nat :=
  if iclass.isCall then depth + 1 else if iclass.isReturn then depth - 1 else depth

/-- Reads the indentation: the line of an instruction is indented by four for every
call and transaction above it that is still open. A synchronization forgets them. -/
def checkIndent (depth : Nat) : Line → Option Nat
  | .transaction _ => some (depth + 1)
  | .aborted _ => some (depth - 1)
  | .committed _ => some (depth - 1)
  | .record line =>
      if line.indent = 4 * depth then some (depthAfter line.iclass depth) else none
  | .error .. => some 0
  | _ => some depth

theorem indentAfter_depthAfter (iclass : InsnClass) (depth : Nat) :
    indentAfter iclass (4 * depth) = 4 * depthAfter iclass depth := by
  rw [indentAfter, depthAfter]
  split
  · omega
  · split
    · split
      · omega
      · omega
    · rfl

/-- The lines of transactions leave the depth that the indentation shows. -/
theorem printSpeculativeEvent_depth (insn : Instruction) {lps : LocalPrintState} {depth : Nat}
    (shown : lps.indent = 4 * depth) : ∃ next,
      (printSpeculativeEvent insn lps).1.foldlM checkIndent depth = some next ∧
        (printSpeculativeEvent insn lps).2.indent = 4 * next := by
  rw [printSpeculativeEvent]
  -- cutting off at the end or behind every line is the same: what opens comes first
  refine ⟨depth + (if insn.events.speculative ≠ lps.prevSpeculative then 1 else 0) -
    insn.events.aborted.toNat - insn.events.committed.toNat, ?_, ?_⟩
  · by_cases begun : insn.events.speculative ≠ lps.prevSpeculative <;>
      cases insn.events.aborted <;> cases insn.events.committed <;> simp [begun, checkIndent]
  · by_cases begun : insn.events.speculative ≠ lps.prevSpeculative <;>
      cases insn.events.aborted <;> cases insn.events.committed <;>
      simp only [begun, not_false_eq_true, ↓reduceIte, Bool.false_eq_true, Bool.toNat_true,
        Bool.toNat_false, ne_eq] <;> omega

theorem printSpeculative_depth (insn : Instruction) {lps : LocalPrintState} {depth : Nat}
    (shown : lps.indent = 4 * depth) : ∃ next,
      (Printer.printSpeculative insn lps).1.foldlM checkIndent depth = some next ∧
        (Printer.printSpeculative insn lps).2.indent = 4 * next := by
  rw [Printer.printSpeculative]
  split
  · exact printSpeculativeEvent_depth insn shown
  · exact ⟨depth, rfl, shown⟩

theorem checkIndent_record (printer : Printer) (symtabs : SymbolTableTable) {insn : Instruction}
    (gps : GlobalPrintState) {lps : LocalPrintState} {depth : Nat} (worth : insn.WorthLine)
    (shown : lps.indent = 4 * depth) : ∃ next,
      (printer.printOutput symtabs [insn] gps lps).1.foldlM checkIndent depth = some next ∧
        (printer.printOutput symtabs [insn] gps lps).2.2.indent = 4 * next := by
  have ignores (depth : Nat) (line : Line) (aside : line.Aside) :
      checkIndent depth line = some depth := by
    cases line with
    | frequency ratio => rfl
    | event name location => rfl
    | _ => simp [Line.Aside] at aside
  obtain ⟨line, folded, left, isLine⟩ :=
    printer.foldlM_singleton symtabs gps lps ignores worth depth
  obtain ⟨reached, accepted, indent⟩ := printSpeculative_depth insn shown
  refine ⟨depthAfter insn.iclass reached, ?_, ?_⟩
  · rw [folded, accepted, Option.bind_some, checkIndent, isLine.indent, if_pos indent, isLine.iclass]
  · rw [left, indent, indentAfter_depthAfter]

theorem indent_audit (printer : Printer) : Audit printer (fun _ => True) checkIndent
    (fun depth _ => depth = 0) (fun depth _ _ lps => lps.indent = 4 * depth)
    (fun _ _ => True) where
  blank := trivial
  header _ _ := rfl
  dumped _ _ _ _ := rfl
  enter depth file segment top := by simp [top]
  error depth scan gps lps shown _ := ⟨0, rfl, rfl⟩
  eos _ _ _ _ _ _ := trivial
  ended depth file pos err top := ⟨depth, rfl, trivial⟩
  step depth scan insns after gps lps symtabs step status shown := by
    cases step with
    | skip => exact ⟨depth, rfl, shown⟩
    | keep _ _ _ _ _ interesting =>
        exact checkIndent_record printer symtabs gps (worthLine_of_interesting interesting).1 shown
    | lastCall _ _ _ _ _ call => exact checkIndent_record printer symtabs gps (.inl call) shown
    | fail => exact ⟨depth, rfl, shown⟩
    | failRecord _ _ _ _ _ error =>
        exact checkIndent_record printer symtabs gps (.inr (.inr (.inr error))) shown

/-- In the output for a file every line of an instruction is indented by four for
every call and transaction above it, since the last synchronization, that no line in
between has closed. -/
theorem printOneFile_indent (printer : Printer) (id : UInt64) (file : Option Trace) :
    ∃ depth, (printer.printOneFile id file).1.foldlM checkIndent 0 = some depth := by
  obtain ⟨depth, accepted, -⟩ := (indent_audit printer).printOneFile id
    (fun _ _ _ _ => ⟨fun _ _ => trivial, fun _ _ => trivial⟩) rfl trivial
  exact ⟨depth, accepted⟩

/-! ## Transactions -/

/-- The library tells the end of a transaction with an instruction inside it. -/
def EndsInside (events : Events) : Prop := events.aborted ∨ events.committed → events.speculative

/-- Accepts one line for the start of a transaction behind each synchronization. -/
def checkTransaction (announced : Bool) : Line → Option Bool
  | .transaction _ => if announced then none else some true
  | .error .. => some false
  | _ => some announced

theorem checkTransaction_record (printer : Printer) (symtabs : SymbolTableTable)
    {insn : Instruction} (gps : GlobalPrintState) (lps : LocalPrintState)
    (worth : insn.WorthLine) (ends : EndsInside insn.events) :
    (printer.printOutput symtabs [insn] gps lps).1.foldlM checkTransaction lps.prevSpeculative =
      some (printer.printOutput symtabs [insn] gps lps).2.2.prevSpeculative := by
  have ignores (announced : Bool) (line : Line) (aside : line.Aside) :
      checkTransaction announced line = some announced := by
    cases line with
    | frequency ratio => rfl
    | event name location => rfl
    | _ => simp [Line.Aside] at aside
  obtain ⟨line, folded, left, -⟩ :=
    printer.foldlM_singleton symtabs gps lps ignores worth lps.prevSpeculative
  rw [folded, left, Printer.printSpeculative]
  cases has : hasSpeculativeEvent insn with
  | false => rfl
  | true =>
      have speculative : insn.events.speculative = true := by
        rw [hasSpeculativeEvent, Bool.or_assoc, Bool.or_eq_true] at has
        cases has with
        | inl speculative => exact speculative
        | inr ended => exact ends (by simpa using ended)
      simp only [↓reduceIte, printSpeculativeEvent, speculative]
      cases lps.prevSpeculative <;> cases insn.events.aborted <;> cases insn.events.committed <;> rfl

theorem transaction_audit (printer : Printer) : Audit printer EndsInside checkTransaction
    (fun announced _ => announced = false) (fun announced _ _ lps => announced = lps.prevSpeculative)
    (fun _ _ => True) where
  blank ended := by simp [Events.clear] at ended
  header _ _ := rfl
  dumped _ _ _ _ := rfl
  enter announced file segment top := top
  error announced scan gps lps kept _ := ⟨false, rfl, rfl⟩
  eos _ _ _ _ _ _ := trivial
  ended announced file pos err top := ⟨announced, rfl, trivial⟩
  step announced scan insns after gps lps symtabs step status kept := by
    subst kept
    cases step with
    | skip => exact ⟨_, rfl, rfl⟩
    | keep _ _ _ _ _ interesting ends =>
        exact ⟨_, checkTransaction_record printer symtabs gps lps
          (worthLine_of_interesting interesting).1 ends, rfl⟩
    | lastCall _ _ _ _ _ call ends =>
        exact ⟨_, checkTransaction_record printer symtabs gps lps (.inl call) ends, rfl⟩
    | fail => exact ⟨_, rfl, rfl⟩
    | failRecord _ _ _ _ _ error ends =>
        exact ⟨_, checkTransaction_record printer symtabs gps lps (.inr (.inr (.inr error))) ends,
          rfl⟩

/-- Where the end of a transaction is told with an instruction inside it, the start of
a transaction is printed once behind a synchronization, however many there are. -/
theorem printOneFile_transactions (printer : Printer) (id : UInt64) (file : Option Trace)
    (ends : ∀ trace ∈ file, ∀ segment ∈ trace.segments, segment.Allows EndsInside) :
    ∃ announced, (printer.printOneFile id file).1.foldlM checkTransaction false =
      some announced := by
  obtain ⟨announced, accepted, -⟩ :=
    (transaction_audit printer).printOneFile id ends rfl trivial
  exact ⟨announced, accepted⟩

/-- Two transactions, each of one return that ends it. -/
def twoTransactions : Trace :=
  let committed : PtAnswer :=
    { status := 0
      insn := ⟨0x1000, .ret, [], { Events.clear with speculative := true, committed := true }⟩
      view := ⟨0, 0, 0, 0, 0, 0, []⟩ }
  { segments :=
      [{ sync := 0
         view := committed.view
         answers := [committed, committed]
         stack := fun _ _ => ⟨0, 0, 0, 0, 0, 0, 0, .error, 0, 0, .clear⟩
         synced := Segment.synced_zero }]
    status := -pteEos
    position := 0
    failed := pteEos_failed }

theorem printOneFile_twoTransactions :
    ∃ announced, ((⟨{}, .simple, 0⟩ : Printer).printOneFile 1 (some twoTransactions)).1.foldlM
      checkTransaction false = some announced := by
  refine printOneFile_transactions _ 1 (some twoTransactions) fun trace isTrace segment member => ?_
  cases isTrace
  rw [List.mem_singleton.mp member]
  refine ⟨fun answer isAnswer _ => ?_, fun _ _ ended => by simp [Events.clear] at ended⟩
  simp only [List.mem_cons, List.not_mem_nil, or_false, or_self] at isAnswer
  rw [isAnswer]

end Gdbserver.SimplePt
