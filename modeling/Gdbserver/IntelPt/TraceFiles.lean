import Gdbserver.Inferior.Kernel
import Gdbserver.Logic.Ledger

/-!
# Mapped trace files

The decoder maps one trace file after the other (`decoder.cc`), driven by the raw
printer (`raw-printer.cc`). A mapping is remembered in `config_` only. Its life is
kept in a ledger, in which the owner of an address is the length mapped there.
-/

set_option autoImplicit false

namespace Gdbserver.IntelPt

open Logic

/-- What the system and the decoder library answer for one file: `open`, `fstat`,
`mmap` and `pt_insn_alloc_decoder`. -/
structure PtAnswers where
  opened : Bool
  size : Option UInt64
  mapped : Bool
  allocated : Bool
  deriving DecidableEq, Repr

/-- `config_.begin` and `config_.end`, whether there is a decoder, and the calls of
`mmap` and `munmap`. The null pointer is 0. -/
structure TraceFiles where
  configBegin : Nat
  configEnd : Nat
  decoder : Bool
  mappings : List (Deed Nat Nat)
  deriving DecidableEq, Repr

namespace TraceFiles

/-- `pt_config_init` clears the configuration. -/
def new : TraceFiles := ⟨0, 0, false, []⟩

/-- Where the next file is mapped: at no address in use, and not at the null pointer. -/
def nextAddress (allocator : Allocator) (files : TraceFiles) : Nat :=
  allocator.address (0 :: Ledger.held files.mappings) files.mappings.length

def mmapFile (allocator : Allocator) (answers : PtAnswers) (files : TraceFiles) :
    Option (Nat × Nat) × TraceFiles :=
  match answers.opened, answers.size, answers.mapped with
  | true, some size, true =>
      let map := files.nextAddress allocator
      (some (map, size.toNat),
        { files with mappings := files.mappings ++ [.acquire map size.toNat] })
  | _, _, _ => (none, files)

def unmapFile (map size : Nat) (files : TraceFiles) : TraceFiles :=
  { files with mappings := files.mappings ++ [.release map size] }

def allocDecoder (allocator : Allocator) (answers : PtAnswers) (files : TraceFiles) :
    Bool × TraceFiles :=
  match files.mmapFile allocator answers with
  | (none, files) => (false, files)
  | (some (map, len), files) =>
      let files := { files with configBegin := map, configEnd := map + len }
      if answers.allocated then (true, { files with decoder := true })
      -- `config_` still has the addresses
      else (false, files.unmapFile map len)

def freeDecoder (files : TraceFiles) : TraceFiles := { files with decoder := false }

/-- Decoding itself maps and unmaps nothing. -/
def printOneFile (allocator : Allocator) (files : TraceFiles) (answers : PtAnswers) :
    TraceFiles :=
  match files.allocDecoder allocator answers with
  | (false, files) => files
  | (true, files) => files.freeDecoder

def printFiles (allocator : Allocator) (answers : List PtAnswers) : TraceFiles :=
  answers.foldl (printOneFile allocator) new

/-- `~DecoderState`. -/
def destroy (files : TraceFiles) : TraceFiles :=
  if files.configBegin ≠ 0 then
    files.unmapFile files.configBegin (files.configEnd - files.configBegin)
  else files

/-- A whole run: all files are printed, then the decoder is destroyed. -/
def run (allocator : Allocator) (answers : List PtAnswers) : TraceFiles :=
  (printFiles allocator answers).destroy

/-- Everything that is unmapped is mapped at that time, with that length, and at the
end nothing is. -/
def UnmappedOnce (files : TraceFiles) : Prop :=
  Ledger.Lawful files.mappings ∧ Ledger.Settled files.mappings

end TraceFiles

/-! ## What becomes of the mappings -/

/-- Whether `MmapFile` succeeds. -/
def PtAnswers.maps (answers : PtAnswers) : Bool :=
  answers.opened && answers.size.isSome && answers.mapped

/-- For each file that is mapped, whether a decoder is allocated. -/
def attempts (answers : List PtAnswers) : List Bool :=
  (answers.filter (·.maps)).map (·.allocated)

/-- What `config_` and the mappings can be to each other: nothing has been mapped,
the last mapping is undone, it is the only one, or another one has been lost. -/
inductive Stage where
  | idle
  | undone
  | mapped
  | lost
  deriving DecidableEq, Repr

namespace Stage

def next : Stage → Bool → Stage
  | .idle, allocated | .undone, allocated => if allocated then .mapped else .undone
  | .mapped, _ | .lost, _ => .lost

def Describes (stage : Stage) (files : TraceFiles) : Prop :=
  match stage with
  | .idle => files.configBegin = 0 ∧ files.UnmappedOnce
  | .undone => files.configBegin ≠ 0 ∧ files.UnmappedOnce
  | .mapped => files.configBegin ≠ 0 ∧ Ledger.Lawful files.mappings ∧
      Ledger.owner files.mappings =
        Function.update (fun _ => none) files.configBegin
          (some (files.configEnd - files.configBegin))
  | .lost => ∃ address, address ≠ files.configBegin ∧
      Ledger.owner files.mappings address ≠ none

end Stage

open TraceFiles

section

variable {allocator : Allocator} {answers : PtAnswers} {files : TraceFiles} {stage : Stage}

theorem nextAddress_free (allocator : Allocator) (files : TraceFiles) :
    files.nextAddress allocator ≠ 0 ∧
      Ledger.owner files.mappings (files.nextAddress allocator) = none := by
  have fresh := allocator.fresh (0 :: Ledger.held files.mappings) files.mappings.length
  rw [List.mem_cons, not_or] at fresh
  exact ⟨fresh.1, Ledger.owner_of_not_mem_held fresh.2⟩

theorem printOneFile_unmapped (fails : answers.maps = false) :
    files.printOneFile allocator answers = files := by
  have none : files.mmapFile allocator answers = (none, files) := by
    rw [mmapFile]
    split
    · rename_i opened size mapped
      simp [PtAnswers.maps, opened, size, mapped] at fails
    · rfl
  rw [printOneFile, allocDecoder, none]

/-- A file that is mapped but not decoded is unmapped again. -/
theorem printOneFile_mapped (allocator : Allocator) (files : TraceFiles)
    (maps : answers.maps = true) : ∃ length,
    (files.printOneFile allocator answers).configBegin = files.nextAddress allocator ∧
      (files.printOneFile allocator answers).configEnd = files.nextAddress allocator + length ∧
      (files.printOneFile allocator answers).mappings =
        files.mappings ++ [.acquire (files.nextAddress allocator) length] ++
          if answers.allocated then [] else [.release (files.nextAddress allocator) length] := by
  obtain ⟨opened, size, mapped, allocated⟩ := answers
  simp only [PtAnswers.maps, Bool.and_eq_true] at maps
  obtain ⟨⟨rfl, some⟩, rfl⟩ := maps
  obtain ⟨size, rfl⟩ := Option.isSome_iff_exists.mp some
  refine ⟨size.toNat, ?_⟩
  cases allocated with
  | false => exact ⟨rfl, rfl, rfl⟩
  | true => exact ⟨rfl, rfl, (List.append_nil _).symm⟩

/-- A mapping that is not the remembered one is never unmapped. -/
theorem lost_printOneFile (maps : answers.maps = true)
    (lost : ∃ address, Ledger.owner files.mappings address ≠ none) :
    Stage.lost.Describes (files.printOneFile allocator answers) := by
  obtain ⟨address, owned⟩ := lost
  obtain ⟨length, configBegin, -, mappings⟩ :=
    printOneFile_mapped allocator files maps
  have free := (nextAddress_free allocator files).2
  have other : address ≠ files.nextAddress allocator := by
    intro same
    exact owned (same ▸ free)
  refine ⟨address, configBegin ▸ other, ?_⟩
  rw [mappings]
  split
  · rw [List.append_nil, Ledger.owner_snoc, Ledger.after, Function.update_of_ne other]
    exact owned
  · rw [Ledger.owner_returned free]
    exact owned

theorem clean_printOneFile (maps : answers.maps = true) (clean : files.UnmappedOnce) :
    (if answers.allocated then Stage.mapped else .undone).Describes
      (files.printOneFile allocator answers) := by
  obtain ⟨lawful, settled⟩ := clean
  obtain ⟨length, configBegin, configEnd, mappings⟩ :=
    printOneFile_mapped allocator files maps
  obtain ⟨nonnull, free⟩ := nextAddress_free allocator files
  cases allocated : answers.allocated with
  | true =>
      rw [allocated, if_pos rfl, List.append_nil] at mappings
      refine ⟨configBegin ▸ nonnull, ?_, ?_⟩
      · rw [mappings]
        exact Ledger.lawful_snoc_iff.mpr ⟨lawful, free⟩
      · rw [mappings, configBegin, configEnd, Nat.add_sub_cancel_left, Ledger.owner_snoc,
          Ledger.after, funext settled]
  | false =>
      rw [allocated, if_neg Bool.false_ne_true] at mappings
      refine ⟨configBegin ▸ nonnull, ?_⟩
      rw [UnmappedOnce, mappings, Ledger.Settled, Ledger.owner_returned free]
      exact ⟨Ledger.lawful_returned lawful free, settled⟩

/-- One file takes the mappings to the next stage. -/
theorem describes_printOneFile (maps : answers.maps = true) (described : stage.Describes files) :
    (stage.next answers.allocated).Describes (files.printOneFile allocator answers) := by
  cases stage with
  | idle => exact clean_printOneFile maps described.2
  | undone => exact clean_printOneFile maps described.2
  | mapped =>
      apply lost_printOneFile maps
      refine ⟨files.configBegin, ?_⟩
      rw [described.2.2, Function.update_self]
      exact Option.some_ne_none _
  | lost =>
      obtain ⟨address, -, owned⟩ := described
      exact lost_printOneFile maps ⟨address, owned⟩

theorem describes_foldl (answers : List PtAnswers) (described : stage.Describes files) :
    ((attempts answers).foldl Stage.next stage).Describes
      (answers.foldl (printOneFile allocator) files) := by
  induction answers generalizing stage files with
  | nil => exact described
  | cons first rest ih =>
      rw [List.foldl_cons, attempts, List.filter_cons]
      cases maps : first.maps with
      | false =>
          rw [printOneFile_unmapped maps]
          exact ih described
      | true =>
          rw [if_pos rfl, List.map_cons, List.foldl_cons]
          exact ih (describes_printOneFile maps described)

/-- The destructor unmaps what is remembered, whether it is mapped or not. -/
theorem unmappedOnce_destroy_iff (described : stage.Describes files) :
    files.destroy.UnmappedOnce ↔ stage = .idle ∨ stage = .mapped := by
  cases stage with
  | idle =>
      rw [destroy, if_neg (not_not.mpr described.1)]
      exact iff_of_true described.2 (.inl rfl)
  | undone =>
      obtain ⟨nonnull, -, settled⟩ := described
      rw [destroy, if_pos nonnull]
      apply iff_of_false
      · rintro ⟨lawful, -⟩
        have allowed := (Ledger.lawful_snoc_iff.mp lawful).2
        rw [Ledger.Allowed, settled] at allowed
        cases allowed
      · simp
  | mapped =>
      obtain ⟨nonnull, lawful, owners⟩ := described
      rw [destroy, if_pos nonnull]
      refine iff_of_true ⟨Ledger.lawful_snoc_iff.mpr ⟨lawful, ?_⟩, ?_⟩ (.inr rfl)
      · rw [Ledger.Allowed, owners, Function.update_self]
      · intro address
        rw [unmapFile, Ledger.owner_snoc, owners, Ledger.after, Function.update_idem,
          Function.update_eq_self]
  | lost =>
      obtain ⟨address, other, owned⟩ := described
      apply iff_of_false
      · rintro ⟨-, settled⟩
        apply owned
        rw [destroy] at settled
        split at settled
        · have free := settled address
          rw [unmapFile, Ledger.owner_snoc, Ledger.after, Function.update_of_ne other] at free
          exact free
        · exact settled address
      · simp

end

theorem foldl_next_lost (allocated : List Bool) : allocated.foldl Stage.next .lost = .lost := by
  induction allocated with
  | nil => rfl
  | cons _ _ ih => exact ih

/-- A mapping that is remembered stays the only one if nothing is mapped any more. -/
theorem foldl_next_mapped_iff (allocated : List Bool) :
    allocated.foldl Stage.next .mapped = .mapped ↔ allocated = [] := by
  cases allocated with
  | nil => exact iff_of_true rfl rfl
  | cons first rest =>
      rw [List.foldl_cons, Stage.next, foldl_next_lost]
      exact iff_of_false (by decide) (List.cons_ne_nil _ _)

theorem success_first_iff {rest : List Bool} :
    (∃ failures, true :: rest = List.replicate failures false ++ [true]) ↔ rest = [] := by
  constructor
  · rintro ⟨failures, shape⟩
    cases failures with
    | zero => exact List.tail_eq_of_cons_eq shape
    | succ failures => cases shape
  · rintro rfl
    exact ⟨0, rfl⟩

theorem failure_first_iff {rest : List Bool} :
    (∃ failures, false :: rest = List.replicate failures false ++ [true]) ↔
      ∃ failures, rest = List.replicate failures false ++ [true] := by
  constructor
  · rintro ⟨failures, shape⟩
    cases failures with
    | zero => cases shape
    | succ failures => exact ⟨failures, List.tail_eq_of_cons_eq shape⟩
  · rintro ⟨failures, rfl⟩
    exact ⟨failures + 1, rfl⟩

/-- The stages at which all is well, by what happened to the decoders. -/
theorem foldl_next_iff (allocated : List Bool) {stage : Stage}
    (clean : stage = .idle ∨ stage = .undone) :
    allocated.foldl Stage.next stage = .mapped ↔
      ∃ failures, allocated = List.replicate failures false ++ [true] := by
  induction allocated generalizing stage with
  | nil =>
      constructor
      · rintro rfl
        rcases clean with clean | clean <;> cases clean
      · rintro ⟨failures, shape⟩
        simp at shape
  | cons first rest ih =>
      have next : stage.next first = if first then .mapped else .undone := by
        rcases clean with rfl | rfl <;> rfl
      rw [List.foldl_cons, next]
      cases first with
      | false => rw [if_neg Bool.false_ne_true, ih (.inr rfl), failure_first_iff]
      | true => rw [if_pos rfl, foldl_next_mapped_iff, success_first_iff]

theorem foldl_next_idle_iff (allocated : List Bool) :
    allocated.foldl Stage.next .idle = .idle ↔ allocated = [] := by
  have kept (rest : List Bool) {stage : Stage} (moved : stage ≠ .idle) :
      rest.foldl Stage.next stage ≠ .idle := by
    induction rest generalizing stage with
    | nil => exact moved
    | cons first rest ih =>
        apply ih
        cases stage <;> cases first <;> simp [Stage.next]
  cases allocated with
  | nil => exact iff_of_true rfl rfl
  | cons first rest =>
      refine iff_of_false (kept rest ?_) (List.cons_ne_nil _ _)
      cases first <;> simp [Stage.next]

theorem unmappedOnce_run_iff_stage (allocator : Allocator) (answers : List PtAnswers) :
    (run allocator answers).UnmappedOnce ↔
      (attempts answers).foldl Stage.next .idle = .idle ∨
        (attempts answers).foldl Stage.next .idle = .mapped := by
  have start : Stage.idle.Describes new := ⟨rfl, Ledger.lawful_nil, fun _ => rfl⟩
  exact unmappedOnce_destroy_iff (describes_foldl answers start)

/-- Each mapping is undone once exactly when nothing has been mapped, or a decoder
could be allocated for the last file that was and for no other. -/
theorem run_unmappedOnce_iff (allocator : Allocator) (answers : List PtAnswers) :
    (run allocator answers).UnmappedOnce ↔ attempts answers = [] ∨
      ∃ failures, attempts answers = List.replicate failures false ++ [true] := by
  rw [unmappedOnce_run_iff_stage, foldl_next_idle_iff, foldl_next_iff _ (.inl rfl)]

/-- A file that can be mapped and decoded, and one for which there is no decoder. -/
def goodFile : PtAnswers := ⟨true, some 10, true, true⟩

def noDecoder : PtAnswers := ⟨true, some 10, true, false⟩

/-- Two good files, of which the first stays mapped, and a file that is unmapped twice:
by `AllocDecoder` and by the destructor. -/
theorem run_not_unmappedOnce :
    (¬ ∃ allocator, (run allocator [goodFile, goodFile]).UnmappedOnce) ∧
      ¬ ∃ allocator, (run allocator [noDecoder]).UnmappedOnce := by
  constructor
  · rintro ⟨allocator, once⟩
    rw [unmappedOnce_run_iff_stage] at once
    revert once
    decide
  · rintro ⟨allocator, once⟩
    rw [unmappedOnce_run_iff_stage] at once
    revert once
    decide

end Gdbserver.IntelPt
