import Gdbserver.Logic.Checks
import Gdbserver.SimplePt.CallPrinter

/-!
# Runs of the call printer

What a turn of the inner loop can do to the counters, and the rule by which a
check of the printed lines is carried over turns, passes and synchronization
points. The check reads one line after the other and may refuse one.
-/

set_option autoImplicit false

namespace Gdbserver.SimplePt

open Logic

/-! ## Turns -/

/-- What a turn of the inner loop can do: the instructions it keeps and the
variables it leaves. `Allowed` holds of all events that are seen. -/
inductive Step (Allowed : Events → Prop) (scan : Scan) : List Instruction → Scan → Prop
  /-- An instruction that is only counted. -/
  | skip {after : Scan}
      (counted : after.totalInsnCount = scan.totalInsnCount + 1)
      (since : after.insnsSinceLastEmission = scan.insnsSinceLastEmission + 1)
      (lastTs : after.lastTs = scan.lastTs)
      (status : 0 ≤ after.err) :
      Step Allowed scan [] after
  /-- An instruction that is kept. -/
  | keep {insn : Instruction} {after : Scan}
      (counted : after.totalInsnCount = scan.totalInsnCount + 1)
      (since : after.insnsSinceLastEmission = 0)
      (tic : insn.tic = after.totalInsnCount)
      (delta : insn.insnDelta = scan.insnsSinceLastEmission + 1)
      (fresh : insn.ts = scan.newTs)
      (interesting : insn.iclass.isCall ∨ insn.iclass.isReturn ∨ insn.ts ≠ 0)
      (allowed : Allowed insn.events)
      (lastTs : after.lastTs = (if insn.ts ≠ 0 then insn.ts else scan.lastTs))
      (status : 0 ≤ after.err) :
      Step Allowed scan [insn] after
  /-- A call that is kept, but the instruction behind it cannot be had. -/
  | lastCall {insn : Instruction} {after : Scan}
      (counted : after.totalInsnCount = scan.totalInsnCount + 1)
      (since : after.insnsSinceLastEmission = 0)
      (tic : insn.tic = after.totalInsnCount)
      (delta : insn.insnDelta = scan.insnsSinceLastEmission + 1)
      (fresh : insn.ts = scan.newTs)
      (call : insn.iclass.isCall)
      (allowed : Allowed insn.events)
      (lastTs : after.lastTs = scan.lastTs)
      (status : after.err < 0) :
      Step Allowed scan [insn] after
  /-- An instruction that cannot be had, right behind one that was kept. -/
  | fail {after : Scan}
      (counted : after.totalInsnCount = scan.totalInsnCount + 1)
      (none : scan.insnsSinceLastEmission = 0)
      (since : after.insnsSinceLastEmission = 0)
      (lastTs : after.lastTs = scan.lastTs)
      (status : after.err < 0) :
      Step Allowed scan [] after
  /-- An instruction that cannot be had, behind some that were only counted. -/
  | failRecord {insn : Instruction} {after : Scan}
      (counted : after.totalInsnCount = scan.totalInsnCount + 1)
      (since : after.insnsSinceLastEmission = 0)
      (tic : insn.tic = after.totalInsnCount)
      (delta : insn.insnDelta = scan.insnsSinceLastEmission)
      (untimed : insn.ts = 0)
      (error : insn.iclass = .error)
      (allowed : Allowed insn.events)
      (lastTs : after.lastTs = scan.lastTs)
      (status : after.err < 0) :
      Step Allowed scan [insn] after

section

variable {Allowed : Events → Prop} {config : Config} {scan : Scan} {insn : Instruction}

theorem recordError_step {answer : PtAnswer} (failed : answer.status < 0)
    (allowed : Allowed insn.events) :
    Step Allowed scan (recordError scan.countInsn insn answer).insns
      (recordError scan.countInsn insn answer).scan := by
  by_cases some : scan.insnsSinceLastEmission > 0
  · have records : ((scan.countInsn.next answer).noteError answer).insnsSinceLastEmission > 0 := some
    simp only [recordError, if_pos records, Iteration.insns]
    exact .failRecord rfl rfl rfl rfl rfl rfl allowed rfl failed
  · have records : ¬ ((scan.countInsn.next answer).noteError answer).insnsSinceLastEmission > 0 :=
      some
    have none : scan.insnsSinceLastEmission = 0 := by
      apply UInt32.toNat_inj.mp
      have bound := UInt32.lt_iff_toNat_lt.not.mp some
      exact Nat.eq_zero_of_not_pos bound
    simp only [recordError, if_neg records, Iteration.insns]
    exact .fail rfl none none rfl failed

/-- The instruction has been fetched: `fetched` is `scan` but for what the decoder
has answered. -/
theorem recordInsn_step {fetched : Scan} {rawInsn : RawInsn} {peek : PtAnswer}
    (total : fetched.totalInsnCount = scan.totalInsnCount + 1)
    (since : fetched.insnsSinceLastEmission = scan.insnsSinceLastEmission)
    (lastTs : fetched.lastTs = scan.lastTs) (status : 0 ≤ fetched.err)
    (fresh : insn.ts = scan.newTs) (allowed : Allowed rawInsn.events) :
    Step Allowed scan (recordInsn config fetched insn rawInsn peek).insns
      (recordInsn config fetched insn rawInsn peek).scan := by
  have delta : fetched.insnsSinceLastEmission + 1 = scan.insnsSinceLastEmission + 1 := by rw [since]
  by_cases call : rawInsn.iclass.isCall
  · by_cases failed : peek.status < 0
    · simp only [recordInsn, examine, emit, if_pos call, if_pos failed, Iteration.insns]
      exact .lastCall total rfl rfl delta fresh call allowed lastTs failed
    · simp only [recordInsn, examine, emit, if_pos call, if_neg failed, Iteration.insns]
      refine .keep total rfl rfl delta fresh (.inl call) allowed ?_ (Int.not_lt.mp failed)
      rw [← lastTs]
      rfl
  · by_cases interesting : rawInsn.iclass.isReturn ∨ insn.ts ≠ 0
    · simp only [recordInsn, examine, emit, if_neg call, if_pos interesting, Iteration.insns]
      refine .keep total rfl rfl delta fresh (.inr interesting) allowed ?_ status
      rw [← lastTs]
      rfl
    · simp only [recordInsn, examine, if_neg call, if_neg interesting, Iteration.insns]
      exact .skip total delta lastTs status

/-- Every turn is one of these. -/
theorem iterate_step {peekedAhead : Bool} {answer peek : PtAnswer} (status : 0 ≤ scan.err)
    (slot : Allowed insn.events) (allowed : Allowed answer.insn.events) :
    Step Allowed scan (iterate config peekedAhead scan insn answer peek).insns
      (iterate config peekedAhead scan insn answer peek).scan := by
  rw [iterate]
  cases peekedAhead with
  | true => exact recordInsn_step rfl rfl rfl status rfl allowed
  | false =>
      by_cases failed : answer.status < 0
      · simp only [Bool.false_eq_true, ↓reduceIte, if_pos failed]
        exact recordError_step failed slot
      · simp only [Bool.false_eq_true, ↓reduceIte, if_neg failed]
        exact recordInsn_step rfl rfl rfl (Int.not_lt.mp failed) rfl allowed

end

/-! ## Passes -/

/-- Turn after turn while the status is zero. -/
inductive Steps (Allowed : Events → Prop) : Scan → List Instruction → Scan → Prop
  | last {scan after : Scan} {insns : List Instruction} :
      Step Allowed scan insns after → Steps Allowed scan insns after
  | more {scan mid after : Scan} {insns later : List Instruction} :
      Step Allowed scan insns mid → mid.err = 0 → Steps Allowed mid later after →
        Steps Allowed scan (insns ++ later) after

/-- An entry that is not kept keeps its events. -/
theorem iterate_events {config : Config} {peekedAhead : Bool} {scan : Scan} {insn : Instruction}
    {answer peek : PtAnswer}
    (skipped : (iterate config peekedAhead scan insn answer peek).kept = false) :
    (iterate config peekedAhead scan insn answer peek).insn.events = insn.events := by
  have fetched (start : Scan) (entry : Instruction) (rawInsn : RawInsn)
      (notKept : (recordInsn config start entry rawInsn peek).kept = false) :
      (recordInsn config start entry rawInsn peek).insn.events = entry.events := by
    by_cases call : rawInsn.iclass.isCall
    · by_cases failed : peek.status < 0
      · simp [recordInsn, examine, emit, call, failed] at notKept
      · simp [recordInsn, examine, emit, call, failed] at notKept
    · by_cases interesting : rawInsn.iclass.isReturn ∨ entry.ts ≠ 0
      · simp [recordInsn, examine, emit, if_neg call, if_pos interesting] at notKept
      · simp only [recordInsn, examine, if_neg call, if_neg interesting]
  rw [iterate] at skipped ⊢
  cases peekedAhead with
  | true => exact fetched _ _ _ skipped
  | false =>
      by_cases failed : answer.status < 0
      · simp only [Bool.false_eq_true, ↓reduceIte, if_pos failed, recordError] at skipped ⊢
        split at skipped
        · simp at skipped
        · rename_i none
          simp only [if_neg none]
          rfl
      · simp only [Bool.false_eq_true, ↓reduceIte, if_neg failed] at skipped ⊢
        exact fetched _ _ _ skipped

section

variable {Allowed : Events → Prop} {config : Config} {limit : Nat} {stack : Nat → Instruction}

theorem collect_steps (blank : Allowed .clear) (memory : ∀ index, Allowed (stack index).events)
    {answers : List PtAnswer} {peekedAhead : Bool} {scan : Scan} {insn : Instruction} {count : Nat}
    (status : scan.err = 0) (slot : Allowed insn.events)
    (allowed : ∀ answer ∈ answers, Allowed answer.insn.events) :
    Steps Allowed scan (collect config limit stack answers peekedAhead scan insn count).insns
      (collect config limit stack answers peekedAhead scan insn count).scan := by
  induction answers generalizing peekedAhead scan insn count with
  | nil =>
      simp only [collect]
      exact .last (iterate_step (Int.le_of_eq status.symm) slot blank)
  | cons answer rest ih =>
      simp only [collect]
      generalize taken : iterate config peekedAhead scan insn answer
        (rest.headD (endOfStream answer.view)) = turn
      have step : Step Allowed scan turn.insns turn.scan := by
        rw [← taken]
        exact iterate_step (Int.le_of_eq status.symm) slot (allowed answer List.mem_cons_self)
      split
      · rename_i goesOn
        refine .more step goesOn.1 (ih goesOn.1 ?_ fun later member =>
          allowed later (List.mem_cons_of_mem _ member))
        cases kept : turn.kept with
        | true => exact memory _
        | false =>
            subst taken
            have same := iterate_events kept
            rwa [← same] at slot
      · exact .last step

theorem collect_rest_suffix (answers : List PtAnswer) (peekedAhead : Bool) (scan : Scan)
    (insn : Instruction) (count : Nat) :
    (collect config limit stack answers peekedAhead scan insn count).rest <:+ answers := by
  induction answers generalizing peekedAhead scan insn count with
  | nil => simp [collect]
  | cons answer rest ih =>
      simp only [collect]
      split
      · exact (ih ..).trans (List.suffix_cons answer rest)
      · split
        · exact (List.tail_suffix rest).trans (List.suffix_cons answer rest)
        · exact List.suffix_cons answer rest

/-- What is printed while instructions are collected. -/
def Dump (line : Line) : Prop := ∃ rawInsn total ts, line = printInsn rawInsn total ts

theorem iterate_dumped {peekedAhead : Bool} {scan : Scan} {insn : Instruction}
    {answer peek : PtAnswer} :
    ∀ line ∈ (iterate config peekedAhead scan insn answer peek).dumped, Dump line := by
  have fetched (start : Scan) (entry : Instruction) (rawInsn : RawInsn) :
      ∀ line ∈ (recordInsn config start entry rawInsn peek).dumped, Dump line := by
    have shape : (recordInsn config start entry rawInsn peek).dumped =
        if config.dumpInsn then [printInsn rawInsn start.totalInsnCount entry.ts] else [] := by
      simp only [recordInsn, examine, emit]
      split
      · split
        · rfl
        · rfl
      · split
        · rfl
        · rfl
    rw [shape]
    intro line member
    split at member
    · exact ⟨_, _, _, List.mem_singleton.mp member⟩
    · simp at member
  rw [iterate]
  cases peekedAhead with
  | true => exact fetched _ _ _
  | false =>
      by_cases failed : answer.status < 0
      · simp only [Bool.false_eq_true, ↓reduceIte, if_pos failed, recordError]
        split
        · simp
        · simp
      · simp only [Bool.false_eq_true, ↓reduceIte, if_neg failed]
        exact fetched _ _ _

theorem collect_dumped {answers : List PtAnswer} {peekedAhead : Bool} {scan : Scan}
    {insn : Instruction} {count : Nat} :
    ∀ line ∈ (collect config limit stack answers peekedAhead scan insn count).dumped,
      Dump line := by
  induction answers generalizing peekedAhead scan insn count with
  | nil => exact iterate_dumped
  | cons answer rest ih =>
      simp only [collect]
      split
      · intro line member
        cases List.mem_append.mp member with
        | inl here => exact iterate_dumped line here
        | inr later => exact ih line later
      · exact iterate_dumped

end

/-! ## Checking the lines -/

theorem Printer.printOutput_append (printer : Printer) (symtabs : SymbolTableTable)
    (insns later : List Instruction) (gps : GlobalPrintState) (lps : LocalPrintState) :
    printer.printOutput symtabs (insns ++ later) gps lps =
      let (lines, gps, lps) := printer.printOutput symtabs insns gps lps
      let (more, gps, lps) := printer.printOutput symtabs later gps lps
      (lines ++ more, gps, lps) := by
  induction insns generalizing gps lps with
  | nil => rfl
  | cons insn insns ih => simp [printOutput, ih]

section

variable {printer : Printer} {limit : Nat} {stack : Nat → Nat → Instruction}
  {answers : List PtAnswer} {scan : Scan} {gps : GlobalPrintState} {lps : LocalPrintState}
  {batch : Batch} (taken : pass printer.config limit stack answers scan = batch)

include taken

theorem Printer.printPasses_more (goesOn : batch.scan.err = 0) :
    printer.printPasses limit stack answers scan gps lps =
      let (lines, gps, lps) := printer.printOutput batch.scan.view.symtabs batch.insns gps lps
      let later := printer.printPasses limit stack batch.rest batch.scan gps lps
      { later with lines := batch.dumped ++ lines ++ later.lines } := by
  subst taken
  rw [printPasses]
  simp only [goesOn, ↓reduceDIte]

theorem Printer.printPasses_last (stops : batch.scan.err ≠ 0) :
    printer.printPasses limit stack answers scan gps lps =
      let (lines, gps, _) := printer.printOutput batch.scan.view.symtabs batch.insns gps lps
      { lines := batch.dumped ++ lines, scan := batch.scan, gps := gps } := by
  subst taken
  rw [printPasses]
  simp only [stops, ↓reduceDIte]

end

/-- The events of the answers and of the buffer are allowed. -/
def Segment.Allows (Allowed : Events → Prop) (segment : Segment) : Prop :=
  (∀ answer ∈ segment.answers, Allowed answer.insn.events) ∧
    ∀ left index, Allowed (segment.stack left index).events

/-- What makes a check accept every output: an invariant `Inv` between its state and
the variables inside the loops, and one at the top of the outer loop. -/
structure Audit {σ : Type} (printer : Printer) (Allowed : Events → Prop)
    (check : σ → Line → Option σ) (Top : σ → Printer.FileState → Prop)
    (Inv : σ → Scan → GlobalPrintState → LocalPrintState → Prop)
    (Final : σ → UInt64 → Prop) : Prop where
  blank : Allowed .clear
  header : ∀ state id, check state (.header id) = some state
  dumped : ∀ state rawInsn total ts, check state (printInsn rawInsn total ts) = some state
  enter : ∀ state file segment, Top state file →
    Inv state (Printer.startScan segment file) file.gps ⟨0, false⟩
  step : ∀ state scan insns after gps lps symtabs, Step Allowed scan insns after → scan.err = 0 →
    Inv state scan gps lps → ∃ next,
      (printer.printOutput symtabs insns gps lps).1.foldlM check state = some next ∧
        Inv next after (printer.printOutput symtabs insns gps lps).2.1
          (printer.printOutput symtabs insns gps lps).2.2
  error : ∀ state scan gps lps, Inv state scan gps lps → scan.err ≠ 0 → ∃ next,
    check state (Printer.errorLine scan) = some next ∧
      Top next ⟨scan.totalInsnCount, scan.lastTs, gps⟩
  eos : ∀ state scan gps lps, Inv state scan gps lps → scan.err = -pteEos →
    Final state scan.totalInsnCount
  ended : ∀ state file pos err, Top state file → ∃ next,
    check state (.syncForward pos err) = some next ∧ Final next file.totalInsnCount

namespace Audit

variable {σ : Type} {printer : Printer} {Allowed : Events → Prop}
  {check : σ → Line → Option σ} {Top : σ → Printer.FileState → Prop}
  {Inv : σ → Scan → GlobalPrintState → LocalPrintState → Prop} {Final : σ → UInt64 → Prop}

theorem steps (audit : Audit printer Allowed check Top Inv Final) {scan after : Scan}
    {insns : List Instruction} (run : Steps Allowed scan insns after) (status : scan.err = 0)
    {state : σ} {gps : GlobalPrintState} {lps : LocalPrintState} (inv : Inv state scan gps lps)
    (symtabs : SymbolTableTable) : ∃ next,
      (printer.printOutput symtabs insns gps lps).1.foldlM check state = some next ∧
        Inv next after (printer.printOutput symtabs insns gps lps).2.1
          (printer.printOutput symtabs insns gps lps).2.2 := by
  induction run generalizing state gps lps with
  | last step => exact audit.step _ _ _ _ _ _ symtabs step status inv
  | more step goesOn _ ih =>
      obtain ⟨mid, accepted, kept⟩ := audit.step _ _ _ _ _ _ symtabs step status inv
      obtain ⟨next, acceptedLater, keptLater⟩ := ih goesOn kept
      refine ⟨next, ?_, ?_⟩
      · rw [Printer.printOutput_append]
        simp [accepted, acceptedLater]
      · rw [Printer.printOutput_append]
        exact keptLater

theorem foldlM_dumped (audit : Audit printer Allowed check Top Inv Final) {lines : List Line}
    (dumps : ∀ line ∈ lines, Dump line) (state : σ) : lines.foldlM check state = some state := by
  apply foldlM_ignored
  intro line member state
  obtain ⟨rawInsn, total, ts, rfl⟩ := dumps line member
  exact audit.dumped ..

/-- The rule for the passes over one segment. -/
theorem printPasses (audit : Audit printer Allowed check Top Inv Final) (limit : Nat)
    {stack : Nat → Nat → Instruction} (memory : ∀ left index, Allowed (stack left index).events)
    {answers : List PtAnswer} (allowed : ∀ answer ∈ answers, Allowed answer.insn.events)
    {scan : Scan} (status : scan.err = 0) {state : σ} {gps : GlobalPrintState}
    {lps : LocalPrintState} (inv : Inv state scan gps lps) :
    ∃ next last,
      (printer.printPasses limit stack answers scan gps lps).lines.foldlM check state = some next ∧
        Inv next (printer.printPasses limit stack answers scan gps lps).scan
          (printer.printPasses limit stack answers scan gps lps).gps last ∧
        (printer.printPasses limit stack answers scan gps lps).scan.err ≠ 0 := by
  induction size : answers.length using Nat.strong_induction_on
    generalizing answers scan state gps lps with
  | _ length ih =>
      obtain ⟨batch, taken⟩ : ∃ batch, pass printer.config limit stack answers scan = batch :=
        ⟨_, rfl⟩
      have run : Steps Allowed scan batch.insns batch.scan := by
        rw [← taken]
        exact collect_steps audit.blank (memory _) status (memory _ _) allowed
      have dumps : ∀ line ∈ batch.dumped, Dump line := by
        rw [← taken]
        exact collect_dumped
      obtain ⟨mid, accepted, kept⟩ := audit.steps run status inv batch.scan.view.symtabs
      by_cases goesOn : batch.scan.err = 0
      · have shorter : batch.rest.length < length := by
          subst taken
          exact size ▸ pass_rest_lt goesOn
        have fewer : ∀ answer ∈ batch.rest, Allowed answer.insn.events := by
          subst taken
          exact fun answer member => allowed answer ((collect_rest_suffix ..).subset member)
        obtain ⟨next, last, acceptedLater, keptLater, stops⟩ :=
          ih _ shorter fewer goesOn kept rfl
        rw [Printer.printPasses_more taken goesOn]
        refine ⟨next, last, ?_, keptLater, stops⟩
        simp [audit.foldlM_dumped dumps, accepted, acceptedLater]
      · rw [Printer.printPasses_last taken goesOn]
        refine ⟨mid, _, ?_, kept, goesOn⟩
        simp [audit.foldlM_dumped dumps, accepted]

/-- A check with such invariants accepts everything that is printed for a file. -/
theorem printSegments (audit : Audit printer Allowed check Top Inv Final) (limit : Nat)
    (trace : Trace) {segments : List Segment}
    (allows : ∀ segment ∈ segments, segment.Allows Allowed) {state : σ}
    {file : Printer.FileState} (top : Top state file) : ∃ final,
      (printer.printSegments limit trace segments file).1.foldlM check state = some final ∧
        Final final (printer.printSegments limit trace segments file).2 := by
  induction segments generalizing state file with
  | nil =>
      obtain ⟨next, accepted, final⟩ := audit.ended _ _ trace.position trace.status top
      exact ⟨next, by simp [Printer.printSegments, accepted], final⟩
  | cons segment segments ih =>
      obtain ⟨answers, memory⟩ := allows segment List.mem_cons_self
      have entered := audit.enter state file segment top
      obtain ⟨mid, last, accepted, kept, stops⟩ : ∃ mid last,
          (printer.printSegment limit segment file).lines.foldlM check state = some mid ∧
            Inv mid (printer.printSegment limit segment file).scan
              (printer.printSegment limit segment file).gps last ∧
            (printer.printSegment limit segment file).scan.err ≠ 0 := by
        rw [Printer.printSegment]
        by_cases synced : segment.sync = 0
        · simp only [if_pos synced]
          exact audit.printPasses limit memory answers synced entered
        · simp only [if_neg synced]
          exact ⟨state, _, rfl, entered, synced⟩
      simp only [Printer.printSegments]
      by_cases eos : (printer.printSegment limit segment file).scan.err = -pteEos
      · simp only [if_pos eos]
        exact ⟨mid, accepted, audit.eos _ _ _ _ kept eos⟩
      · simp only [if_neg eos]
        obtain ⟨next, told, top⟩ := audit.error _ _ _ _ kept stops
        obtain ⟨final, acceptedLater, finalLater⟩ :=
          ih (fun other member => allows other (List.mem_cons_of_mem _ member)) top
        exact ⟨final, by simp [accepted, told, acceptedLater], finalLater⟩

/-- The variables at the start of a file. -/
def start : Printer.FileState := ⟨0, 0, ⟨0, 0, 0⟩⟩

theorem printOneFile (audit : Audit printer Allowed check Top Inv Final) (id : UInt64)
    {file : Option Trace}
    (allows : ∀ trace ∈ file, ∀ segment ∈ trace.segments, segment.Allows Allowed) {state : σ}
    (top : Top state start) (nothing : Final state 0) : ∃ final,
      (printer.printOneFile id file).1.foldlM check state = some final ∧
        Final final (printer.printOneFile id file).2 := by
  cases file with
  | none => exact ⟨state, rfl, nothing⟩
  | some trace =>
      obtain ⟨final, accepted, told⟩ :=
        audit.printSegments kInsnsPerIteration trace (allows trace rfl) top
      refine ⟨final, ?_, told⟩
      rw [← accepted]
      simp [Printer.printOneFile, audit.header, start]

end Audit

end Gdbserver.SimplePt
