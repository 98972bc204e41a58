import Gdbserver.Utils.BuildId

/-!
# The scan of arbitrary notes

Nothing in the scan compares the size of a note with what is left of its
segment. When every note fits the scan stays inside its segment; when one does
not the counter of the bytes that are left wraps around.
-/

set_option autoImplicit false

namespace Gdbserver

namespace Elf

open Util Logic

/-! ## The turns of all segments -/

section Visited

variable {m : ByteBlock} {vaddr : UInt64} {segments : List SegmentHeader} {phdr : SegmentHeader}
  {scan : NoteScan}

def NoteScan.start (phdr : SegmentHeader) : NoteScan where
  size := phdr.pFilesz
  offset := phdr.pOffset

/-- The scan comes to this segment and takes a turn with these counters. -/
structure Visited (m : ByteBlock) (vaddr : UInt64) (segments : List SegmentHeader)
    (phdr : SegmentHeader) (scan : NoteScan) : Prop where
  type : phdr.pType = ptNote
  comes : ∃ before after, segments = before ++ phdr :: after ∧
    ∀ earlier ∈ before, earlier.pType = ptNote → ∃ fuel, scanNotes fuel m vaddr earlier = some none
  reached : Reached (fun scan => some (noteTurn m vaddr scan).2) (.start phdr) scan

theorem Visited.head (type : phdr.pType = ptNote)
    (reached : Reached (fun scan => some (noteTurn m vaddr scan).2) (.start phdr) scan) :
    Visited m vaddr (phdr :: segments) phdr scan where
  type := type
  comes := ⟨[], segments, rfl, fun _ member => absurd member List.not_mem_nil⟩
  reached := reached

theorem Visited.tail {first : SegmentHeader}
    (ended : first.pType = ptNote → ∃ fuel, scanNotes fuel m vaddr first = some none)
    (visited : Visited m vaddr segments phdr scan) :
    Visited m vaddr (first :: segments) phdr scan where
  type := visited.type
  comes := by
    obtain ⟨before, after, split, passed⟩ := visited.comes
    refine ⟨first :: before, after, by rw [split, List.cons_append], ?_⟩
    exact List.forall_mem_cons.mpr ⟨ended, passed⟩
  reached := visited.reached

/-- A result comes from a turn, or from the end of the last segment. -/
theorem scanSegments_result {fuel : Nat} {read : BuildIdRead}
    (scanned : scanSegments fuel m vaddr segments = some read) :
    read = { error := .ok, stored := [(0, [0])] } ∨
      ∃ phdr scan, Visited m vaddr segments phdr scan ∧
        (noteTurn m vaddr scan).2 = .done (some read) := by
  induction segments with
  | nil =>
      simp [scanSegments] at scanned
      exact Or.inl scanned.symm
  | cons first rest ih =>
      have later (ended : first.pType = ptNote → ∃ fuel, scanNotes fuel m vaddr first = some none)
          (scanned : scanSegments fuel m vaddr rest = some read) :
          read = { error := .ok, stored := [(0, [0])] } ∨
            ∃ phdr scan, Visited m vaddr (first :: rest) phdr scan ∧
              (noteTurn m vaddr scan).2 = .done (some read) := by
        cases ih scanned with
        | inl none => exact Or.inl none
        | inr found =>
            obtain ⟨phdr, scan, visited, turn⟩ := found
            exact Or.inr ⟨phdr, scan, visited.tail ended, turn⟩
      rw [scanSegments] at scanned
      by_cases note : first.pType = ptNote
      · rw [if_neg (not_not_intro note)] at scanned
        cases outcome : scanNotes fuel m vaddr first with
        | none => simp [outcome] at scanned
        | some ended =>
            cases ended with
            | none =>
                simp only [outcome] at scanned
                exact later (fun _ => ⟨fuel, outcome⟩) scanned
            | some result =>
                simp only [outcome, Option.some.injEq] at scanned
                subst scanned
                obtain ⟨last, path, turn⟩ := reached_of_loop outcome
                exact Or.inr ⟨first, last, .head note path, Option.some.inj turn⟩
      · rw [if_pos note] at scanned
        exact later (fun same => absurd same note) scanned

theorem scanNotes_mono {fuel more : Nat} {ended : Option BuildIdRead}
    (scanned : scanNotes fuel m vaddr phdr = some ended) (enough : fuel ≤ more) :
    scanNotes more m vaddr phdr = some ended := loop_mono scanned enough

/-- What a turn returns is what `ReadBuildId` returns. -/
theorem scanSegments_of_visited {read : BuildIdRead}
    (visited : Visited m vaddr segments phdr scan)
    (turn : (noteTurn m vaddr scan).2 = .done (some read)) :
    ∃ fuel, scanSegments fuel m vaddr segments = some read := by
  obtain ⟨before, after, rfl, passed⟩ := visited.comes
  have type := visited.type
  have last : loop (fun scan => some (noteTurn m vaddr scan).2) 1 scan = some (some read) :=
    loop_done (by rw [turn]) 0
  obtain ⟨enough, scanned⟩ := loop_of_reached visited.reached last
  suffices all : ∃ least, ∀ fuel ≥ least,
      scanSegments fuel m vaddr (before ++ phdr :: after) = some read from
    all.elim fun least result => ⟨least, result least (Nat.le_refl least)⟩
  clear visited
  induction before with
  | nil =>
      refine ⟨enough, fun fuel more => ?_⟩
      have here : scanNotes fuel m vaddr phdr = some (some read) := loop_mono scanned more
      rw [List.nil_append, scanSegments, if_neg (not_not_intro type), here]
  | cons first rest ih =>
      obtain ⟨ended, passed⟩ := List.forall_mem_cons.mp passed
      obtain ⟨least, result⟩ := ih passed
      by_cases note : first.pType = ptNote
      · obtain ⟨fuel, here⟩ := ended note
        refine ⟨max least fuel, fun more large => ?_⟩
        rw [List.cons_append, scanSegments, if_neg (not_not_intro note),
          scanNotes_mono here (Nat.le_trans (Nat.le_max_right least fuel) large)]
        exact result more (Nat.le_trans (Nat.le_max_left least fuel) large)
      · refine ⟨least, fun more large => ?_⟩
        rw [List.cons_append, scanSegments, if_pos note]
        exact result more large

/-- When the scan of each segment it comes to ends, the whole scan ends. -/
theorem scanSegments_ends {fuel : Nat}
    (each : ∀ phdr, Visited m vaddr segments phdr (.start phdr) →
      ∃ ended, scanNotes fuel m vaddr phdr = some ended) :
    ∃ read, scanSegments fuel m vaddr segments = some read := by
  induction segments with
  | nil => exact ⟨_, rfl⟩
  | cons first rest ih =>
      rw [scanSegments]
      by_cases note : first.pType = ptNote
      · rw [if_neg (not_not_intro note)]
        obtain ⟨ended, scanned⟩ := each first (.head note .start)
        rw [scanned]
        cases ended with
        | some result => exact ⟨result, rfl⟩
        | none => exact ih fun phdr visited => each phdr (visited.tail fun _ => ⟨fuel, scanned⟩)
      · rw [if_pos note]
        exact ih fun phdr visited => each phdr (visited.tail fun same => absurd same note)

end Visited

/-! ## Notes that fit -/

/-- The note ends within what is left of the segment. -/
def NoteFits (scan : NoteScan) (note : Note) : Prop :=
  note.headerSize.toNat + note.payloadSize.toNat ≤ scan.size.toNat

section Fits

variable {scan : NoteScan} {note : Note}

theorem toNat_behind (fits : NoteFits scan note) : (scan.behind note).size.toNat =
    scan.size.toNat - (note.headerSize.toNat + note.payloadSize.toNat) := by
  rw [NoteFits] at fits
  have header : note.headerSize ≤ scan.size := by
    rw [UInt64.le_iff_toNat_le]
    omega
  have payload : note.payloadSize ≤ scan.size - note.headerSize := by
    rw [UInt64.le_iff_toNat_le, UInt64.toNat_sub_of_le _ _ header]
    omega
  rw [NoteScan.behind, UInt64.toNat_sub_of_le _ _ payload, UInt64.toNat_sub_of_le _ _ header]
  omega

theorem headerSize_ge (note : Note) : 12 ≤ note.headerSize.toNat := by
  rw [Note.toNat_headerSize]
  omega

theorem behind_size_lt (fits : NoteFits scan note) :
    (scan.behind note).size.toNat < scan.size.toNat := by
  have header := headerSize_ge note
  rw [toNat_behind fits]
  rw [NoteFits] at fits
  omega

/-- The counters are in step: what has been passed and what is left make up the
segment. -/
def InStep (phdr : SegmentHeader) (scan : NoteScan) : Prop :=
  ∃ passed : Nat, passed + scan.size.toNat = phdr.pFilesz.toNat ∧
    scan.offset = phdr.pOffset + passed.toUInt64

theorem inStep_start (phdr : SegmentHeader) : InStep phdr (.start phdr) :=
  ⟨0, Nat.zero_add _, (ByteBlock.add_zero_toUInt64 _).symm⟩

theorem InStep.behind {phdr : SegmentHeader} (step : InStep phdr scan)
    (fits : NoteFits scan note) : InStep phdr (scan.behind note) := by
  obtain ⟨passed, whole, offset⟩ := step
  refine ⟨passed + note.headerSize.toNat + note.payloadSize.toNat, ?_, ?_⟩
  · rw [toNat_behind fits]
    rw [NoteFits] at fits
    omega
  · rw [NoteScan.behind, offset]
    simp only [Nat.toUInt64_eq, UInt64.ofNat_add, UInt64.ofNat_toNat, UInt64.add_assoc]

theorem descsz_le_payloadSize (short : note.nDescsz.toNat ≤ kMaxBuildIdSize) :
    note.nDescsz.toNat ≤ note.payloadSize.toNat := by
  have small : note.nDescsz.toNat ≤ 64 := short
  rw [Note.toNat_payloadSize, Note.toNat_padded_of_small (by omega)]
  exact le_roundUp _

end Fits

/-- The bytes that a read asks for lie inside the segment. -/
def InsideSegment (vaddr : UInt64) (phdr : SegmentHeader) (read : UInt64 × Nat) : Prop :=
  ∀ index < read.2, ∃ position < phdr.pFilesz.toNat,
    read.1 + index.toUInt64 = vaddr + phdr.pOffset + position.toUInt64

theorem InStep.inside {vaddr : UInt64} {phdr : SegmentHeader} {scan : NoteScan}
    (step : InStep phdr scan) {skip length : Nat} (fits : skip + length ≤ scan.size.toNat) :
    InsideSegment vaddr phdr (vaddr + (scan.offset + skip.toUInt64), length) := by
  intro index before
  obtain ⟨passed, whole, offset⟩ := step
  have inside : index < length := before
  refine ⟨passed + skip + index, by omega, ?_⟩
  rw [offset]
  simp only [Nat.toUInt64_eq, UInt64.ofNat_add, UInt64.add_assoc]

theorem readDescriptor_reads {m : ByteBlock} {address : UInt64} {nDescsz : UInt32}
    {read : UInt64 × Nat} (member : read ∈ (readDescriptor m address nDescsz).1) :
    nDescsz.toNat ≤ kMaxBuildIdSize ∧ read = (address, nDescsz.toNat) := by
  rw [readDescriptor] at member
  by_cases large : nDescsz.toNat > kMaxBuildIdSize
  · simp [large] at member
  · refine ⟨Nat.le_of_not_lt large, ?_⟩
    cases got : m.read address nDescsz.toNat with
    | none => simpa [large, got] using member
    | some bytes => simpa [large, got] using member

theorem noteTurn_inside {m : ByteBlock} {vaddr : UInt64} {phdr : SegmentHeader} {scan : NoteScan}
    (step : InStep phdr scan) (fits : ∀ note, noteOf m vaddr scan = some note → NoteFits scan note) :
    ∀ read ∈ (noteTurn m vaddr scan).1, InsideSegment vaddr phdr read := by
  have header (long : Note.size < scan.size.toNat) :
      InsideSegment vaddr phdr (vaddr + scan.offset, Note.size) := by
    have start : InsideSegment vaddr phdr (vaddr + (scan.offset + (0 : Nat).toUInt64), Note.size) :=
      step.inside (by omega)
    rwa [ByteBlock.add_zero_toUInt64] at start
  intro read member
  rcases noteTurn_cases m vaddr scan with ⟨-, turn⟩ | ⟨long, turn⟩ | ⟨note, found⟩
  · rw [turn] at member
    exact absurd member List.not_mem_nil
  · rw [turn] at member
    rw [List.mem_singleton.mp member]
    exact header long
  · have long := (noteOf_eq_some_iff.mp found).1
    cases kind : note.isGnuBuildId with
    | false =>
        rw [noteTurn_other found kind] at member
        rw [List.mem_singleton.mp member]
        exact header long
    | true =>
        rw [noteTurn_buildId found kind] at member
        cases List.mem_cons.mp member with
        | inl first =>
            rw [first]
            exact header long
        | inr second =>
            obtain ⟨short, same⟩ := readDescriptor_reads second
            have room := descsz_le_payloadSize short
            have ends := fits note found
            rw [NoteFits] at ends
            have descriptor : InsideSegment vaddr phdr
                (vaddr + (scan.offset + note.headerSize.toNat.toUInt64), note.nDescsz.toNat) :=
              step.inside (by omega)
            rw [Nat.toUInt64_eq, UInt64.ofNat_toNat] at descriptor
            rw [same]
            exact descriptor

theorem scanNotes_ends_of_fits {m : ByteBlock} {vaddr : UInt64} {phdr : SegmentHeader}
    (fits : ∀ scan note, Reached (fun scan => some (noteTurn m vaddr scan).2) (.start phdr) scan →
      noteOf m vaddr scan = some note → NoteFits scan note) :
    ∃ ended, scanNotes (2 ^ 64) m vaddr phdr = some ended := by
  apply loop_ends (Reached (fun scan => some (noteTurn m vaddr scan).2) (.start phdr))
    (fun scan => scan.size.toNat) _ .start phdr.pFilesz.toNat_lt
  intro scan reached
  refine ⟨_, rfl, fun later goesOn => ⟨.turn reached (by rw [goesOn]), ?_⟩⟩
  obtain ⟨note, found, -, rfl⟩ := noteTurn_next goesOn
  exact behind_size_lt (fits scan note reached found)

/-! ## What is stored -/

/-- The call leaves a string in the buffer, whatever was there before. -/
def Stores (read : BuildIdRead) : Prop :=
  ∃ text : Bytes, (0 : UInt8) ∉ text ∧
    ∀ buf : Bytes, 2 * kMaxBuildIdSize + 1 ≤ buf.length → text ++ [0] <+: read.buf buf

theorem not_stores_nothing (error : Error) : ¬ Stores { error, stored := [] } := by
  rintro ⟨text, -, stored⟩
  have there := stored (List.replicate 129 1) (by simp [kMaxBuildIdSize])
  have zero : (0 : UInt8) ∈ List.replicate 129 1 := there.subset (by simp)
  exact absurd (List.eq_of_mem_replicate zero) (by decide)

theorem zero_not_hex : ¬ IsHexDigit 0 := by
  rw [IsHexDigit]
  decide

theorem stores_empty : Stores { error := .ok, stored := [(0, [0])] } :=
  ⟨[], List.not_mem_nil, fun buf _ => prefix_copyInto buf [0]⟩

theorem stores_tooLarge (nDescsz : UInt32) :
    Stores { error := .ok
             stored := [(0, ascii "build_id_too_large_" ++
               Ftl.writeDigits 10 10 nDescsz.toNat ++ [0])] } := by
  refine ⟨ascii "build_id_too_large_" ++ Ftl.writeDigits 10 10 nDescsz.toNat, ?_,
    fun buf _ => prefix_copyInto buf _⟩
  intro member
  cases List.mem_append.mp member with
  | inl text => exact absurd text (by decide)
  | inr digits =>
      exact zero_not_hex (Ftl.writeDigits_digits (by decide) (by decide) _ _ 0 digits)

theorem stores_hex {desc : Bytes} (some : desc ≠ []) (short : desc.length ≤ kMaxBuildIdSize) :
    Stores { error := .ok, stored := storeHex 0 desc } := by
  refine ⟨encodeByteArrayString desc, ?_, fun buf room => buf_storeHex some short room⟩
  intro member
  exact zero_not_hex (isHexDigit_encodeByteArrayString desc 0 member)

/-- A descriptor that is read fills the buffer, unless it is empty. -/
theorem readDescriptor_stores {m : ByteBlock} {address : UInt64} {nDescsz : UInt32}
    (ok : (readDescriptor m address nDescsz).2.error = .ok)
    (some : nDescsz = 0 → m.readable address 0 = false) :
    Stores (readDescriptor m address nDescsz).2 := by
  rw [readDescriptor] at ok ⊢
  by_cases large : nDescsz.toNat > kMaxBuildIdSize
  · rw [if_pos large]
    exact stores_tooLarge nDescsz
  · rw [if_neg large] at ok ⊢
    cases got : m.read address nDescsz.toNat with
    | none => simp [got] at ok
    | some bytes =>
        obtain ⟨granted, rfl⟩ := ByteBlock.read_eq_some_iff.mp got
        apply stores_hex
        · intro empty
          have zero : nDescsz = 0 := by
            apply UInt32.toNat_inj.mp
            have length := congrArg List.length empty
            rwa [ByteBlock.bytes_length] at length
          have refused := some zero
          rw [zero] at granted
          rw [show (0 : UInt32).toNat = 0 from rfl, refused] at granted
          cases granted
        · rw [ByteBlock.bytes_length]
          exact Nat.le_of_not_lt large

/-! ## Memory that ends -/

/-- Nothing can be read in the upper half of the address space. -/
def LowerHalf (m : ByteBlock) : Prop :=
  ∀ address length, m.readable address length = true → address.toNat < 2 ^ 63

theorem noteSize_le (note : Note) : note.headerSize.toNat + note.payloadSize.toNat < 2 ^ 34 := by
  have name := Note.padded_lt note.nNamesz
  have desc := Note.padded_lt note.nDescsz
  rw [Note.toNat_headerSize, Note.toNat_payloadSize]
  omega

/-- In such memory every scan ends, since no note is large enough to carry it
across the upper half. -/
theorem scanNotes_ends_of_lowerHalf {m : ByteBlock} (lower : LowerHalf m) (vaddr : UInt64)
    (phdr : SegmentHeader) {fuel : Nat} (enough : 2 ^ 64 < fuel) :
    ∃ ended, scanNotes fuel m vaddr phdr = some ended := by
  apply loop_ends (fun _ => True) (fun scan => 2 ^ 64 - (vaddr + scan.offset).toNat) _ trivial
    (Nat.lt_of_le_of_lt (Nat.sub_le _ _) enough)
  intro scan _
  refine ⟨_, rfl, fun later goesOn => ⟨trivial, ?_⟩⟩
  obtain ⟨note, found, -, rfl⟩ := noteTurn_next goesOn
  obtain ⟨-, bytes, got, -⟩ := noteOf_eq_some_iff.mp found
  have low := lower _ _ (ByteBlock.read_eq_some_iff.mp got).1
  have small := noteSize_le note
  have header := headerSize_ge note
  have address : (vaddr + (scan.behind note).offset).toNat =
      (vaddr + scan.offset).toNat + (note.headerSize.toNat + note.payloadSize.toNat) := by
    rw [NoteScan.behind, ← UInt64.add_assoc, ← UInt64.add_assoc, UInt64.toNat_add,
      UInt64.toNat_add (vaddr + scan.offset), Nat.mod_add_mod, Nat.add_assoc]
    exact Nat.mod_eq_of_lt (by omega)
  rw [address]
  omega

/-! ## All images -/

/-- What is expected of a scan over arbitrary bytes. -/
structure Confined (reader : Reader) : Prop where
  inside : ∀ loaded, reader.readSegmentHeaders = (.ok, loaded) → ∀ phdr scan,
    Visited loaded.byteBlock loaded.base loaded.segments phdr scan →
      ∀ read ∈ (noteTurn loaded.byteBlock loaded.base scan).1, InsideSegment loaded.base phdr read
  noWrap : ∀ loaded, reader.readSegmentHeaders = (.ok, loaded) → ∀ phdr scan,
    Visited loaded.byteBlock loaded.base loaded.segments phdr scan →
      ∀ note, noteOf loaded.byteBlock loaded.base scan = some note → NoteFits scan note
  ends : ∃ fuel result, reader.readBuildId fuel = some result
  stores : ∀ fuel read loaded, reader.readBuildId fuel = some (read, loaded) →
    read.error = .ok → Stores read

/-- Every note that is looked at ends within its segment, and a build id is not empty. -/
def NotesFit (reader : Reader) : Prop :=
  ∀ loaded, reader.readSegmentHeaders = (.ok, loaded) → ∀ phdr scan,
    Visited loaded.byteBlock loaded.base loaded.segments phdr scan →
      ∀ note, noteOf loaded.byteBlock loaded.base scan = some note → NoteFits scan note ∧
        (note.isGnuBuildId = true → note.nDescsz = 0 →
          loaded.byteBlock.readable (loaded.base + (scan.offset + note.headerSize)) 0 = false)

section AllImages

variable {reader loaded : Reader}

theorem readBuildId_of_headers (headers : reader.readSegmentHeaders = (.ok, loaded)) (fuel : Nat) :
    reader.readBuildId fuel =
      (scanSegments fuel loaded.byteBlock loaded.base loaded.segments).map fun read =>
        (read, loaded) := by
  simp only [Reader.readBuildId, headers]

theorem readBuildId_of_error (failed : reader.readSegmentHeaders.1 ≠ .ok) (fuel : Nat) :
    reader.readBuildId fuel =
      some ({ error := reader.readSegmentHeaders.1, stored := [] }, reader.readSegmentHeaders.2) := by
  rw [Reader.readBuildId]
  cases headers : reader.readSegmentHeaders with
  | mk error after =>
      rw [headers] at failed
      cases error with
      | ok => exact absurd rfl failed
      | io => rfl
      | badElf => rfl
      | noMem => rfl

theorem NotesFit.inStep (fit : NotesFit reader)
    (headers : reader.readSegmentHeaders = (.ok, loaded)) {phdr : SegmentHeader} {scan : NoteScan}
    (visited : Visited loaded.byteBlock loaded.base loaded.segments phdr scan) :
    InStep phdr scan := by
  obtain ⟨type, comes, reached⟩ := visited
  induction reached with
  | start => exact inStep_start phdr
  | @turn state later path goesOn ih =>
      have here : Visited loaded.byteBlock loaded.base loaded.segments phdr state :=
        ⟨type, comes, path⟩
      obtain ⟨note, found, -, rfl⟩ := noteTurn_next (Option.some.inj goesOn)
      exact ih.behind (fit loaded headers phdr state here note found).1

theorem NotesFit.ends (fit : NotesFit reader) :
    ∃ fuel result, reader.readBuildId fuel = some result := by
  by_cases ok : reader.readSegmentHeaders.1 = .ok
  · have headers : reader.readSegmentHeaders = (.ok, reader.readSegmentHeaders.2) := by rw [← ok]
    obtain ⟨read, scanned⟩ := scanSegments_ends fun phdr visited =>
      scanNotes_ends_of_fits fun scan note reached found =>
        (fit _ headers phdr scan ⟨visited.type, visited.comes, reached⟩ note found).1
    exact ⟨2 ^ 64, _, by rw [readBuildId_of_headers headers, scanned]; rfl⟩
  · exact ⟨0, _, readBuildId_of_error ok 0⟩

theorem NotesFit.stores (fit : NotesFit reader) {fuel : Nat} {read : BuildIdRead}
    (result : reader.readBuildId fuel = some (read, loaded)) (success : read.error = .ok) :
    Stores read := by
  by_cases ok : reader.readSegmentHeaders.1 = .ok
  · have headers : reader.readSegmentHeaders = (.ok, reader.readSegmentHeaders.2) := by rw [← ok]
    rw [readBuildId_of_headers headers, Option.map_eq_some_iff] at result
    obtain ⟨same, scanned, pair⟩ := result
    obtain ⟨rfl, -⟩ := Prod.mk.inj pair
    cases scanSegments_result scanned with
    | inl none =>
        rw [none]
        exact stores_empty
    | inr found =>
        obtain ⟨phdr, scan, visited, turn⟩ := found
        cases noteTurn_done turn with
        | inl failed =>
            rw [failed] at success
            cases success
        | inr returned =>
            obtain ⟨note, found, kind, rfl⟩ := returned
            exact readDescriptor_stores success
              ((fit _ headers phdr scan visited note found).2 kind)
  · rw [readBuildId_of_error ok] at result
    obtain ⟨rfl, -⟩ := Prod.mk.inj (Option.some.inj result)
    exact absurd success ok

theorem Confined.notesFit (confined : Confined reader) : NotesFit reader := by
  intro loaded headers phdr scan visited note found
  refine ⟨confined.noWrap loaded headers phdr scan visited note found, fun buildId empty => ?_⟩
  by_contra granted
  rw [Bool.not_eq_false] at granted
  -- an empty descriptor that is granted ends the scan with nothing stored
  have nothing : (readDescriptor loaded.byteBlock
      (loaded.base + (scan.offset + note.headerSize)) note.nDescsz).2 =
        { error := .ok, stored := [] } := by
    rw [empty, readDescriptor, if_neg (by decide), show (0 : UInt32).toNat = 0 from rfl,
      ByteBlock.read_of_readable granted]
    rfl
  have turn : (noteTurn loaded.byteBlock loaded.base scan).2 =
      .done (some { error := .ok, stored := [] }) := by
    rw [noteTurn_buildId found buildId, nothing]
  obtain ⟨fuel, scanned⟩ := scanSegments_of_visited visited turn
  exact not_stores_nothing .ok (confined.stores fuel _ loaded
    (by rw [readBuildId_of_headers headers, scanned]; rfl) rfl)

theorem NotesFit.confined (fit : NotesFit reader) : Confined reader where
  inside loaded headers phdr scan visited := by
    apply noteTurn_inside (fit.inStep headers visited)
    intro note found
    exact (fit loaded headers phdr scan visited note found).1
  noWrap loaded headers phdr scan visited note found :=
    (fit loaded headers phdr scan visited note found).1
  ends := fit.ends
  stores _ _ _ result success := fit.stores result success

/-- In memory that ends below the upper half `ReadBuildId` returns. -/
theorem readBuildId_ends_of_lowerHalf (lower : LowerHalf reader.byteBlock) {fuel : Nat}
    (enough : 2 ^ 64 < fuel) : ∃ result, reader.readBuildId fuel = some result := by
  by_cases ok : reader.readSegmentHeaders.1 = .ok
  · have headers : reader.readSegmentHeaders = (.ok, reader.readSegmentHeaders.2) := by rw [← ok]
    rw [← (Reader.readSegmentHeaders_place reader).1] at lower
    obtain ⟨read, scanned⟩ := scanSegments_ends fun phdr _ =>
      scanNotes_ends_of_lowerHalf lower reader.readSegmentHeaders.2.base phdr enough
    exact ⟨_, by rw [readBuildId_of_headers headers, scanned]; rfl⟩
  · exact ⟨_, readBuildId_of_error ok fuel⟩

/-- For arbitrary program headers and notes: the scan of `ReadBuildId` stays in
its segments, its counter does not wrap, it ends and it fills the buffer exactly
when each note it looks at ends within its segment and no build id is empty. -/
theorem readBuildId_confined_iff_notesFit (reader : Reader) :
    Confined reader ↔ NotesFit reader := ⟨Confined.notesFit, NotesFit.confined⟩

end AllImages

/-- A note that is too large or an empty build id at the start of the first segment. -/
theorem not_confined_of_first {reader : Reader} (ok : reader.readSegmentHeaders.1 = .ok)
    {phdr : SegmentHeader} {rest : List SegmentHeader}
    (segments : reader.readSegmentHeaders.2.segments = phdr :: rest) (type : phdr.pType = ptNote)
    {note : Note} (found : noteOf reader.byteBlock reader.base (.start phdr) = some note)
    (bad : ¬ NoteFits (.start phdr) note ∨
      (note.isGnuBuildId = true ∧ note.nDescsz = 0 ∧
        reader.byteBlock.readable (reader.base + (phdr.pOffset + note.headerSize)) 0 = true)) :
    ¬ Confined reader := by
  intro confined
  have headers : reader.readSegmentHeaders = (.ok, reader.readSegmentHeaders.2) := by rw [← ok]
  obtain ⟨block, base, -⟩ := Reader.readSegmentHeaders_place reader
  have visited : Visited reader.readSegmentHeaders.2.byteBlock reader.readSegmentHeaders.2.base
      reader.readSegmentHeaders.2.segments phdr (.start phdr) := by
    rw [segments]
    exact .head type .start
  rw [← block, ← base] at found
  obtain ⟨fits, empty⟩ :=
    confined.notesFit _ headers phdr _ visited note found
  cases bad with
  | inl large => exact large fits
  | inr nothing =>
      obtain ⟨buildId, zero, granted⟩ := nothing
      have refused := empty buildId zero
      rw [block, base] at refused
      have same : (NoteScan.start phdr).offset = phdr.pOffset := rfl
      rw [same, granted] at refused
      cases refused

/-- A segment of 32 bytes with a note whose name should have 256. -/
def overlongNote : Bytes :=
  imageHeader 64 0 1 0 ++ segmentBytes ptNote 120 32 ++
    numberBytes 4 0x100 ++ numberBytes 4 0 ++ numberBytes 4 1 ++ List.replicate 20 0

def emptyBuildId : Bytes :=
  imageHeader 64 0 1 0 ++ segmentBytes ptNote 120 20 ++
    numberBytes 4 4 ++ numberBytes 4 0 ++ numberBytes 4 3 ++ Note.gnu ++ List.replicate 4 0

/-- Both images are accepted. The first takes the scan to address 388, far behind
its segment, with almost `2 ^ 64` bytes left; the second is read with success and
leaves the buffer as it was. -/
theorem readBuildId_leaves_segment :
    (Reader.verifyHeader (imageReader overlongNote).header = true ∧
      (noteTurn (imageBlock overlongNote) 0 { size := 32, offset := 120 }).2 =
        .next { size := 32 - 268, offset := 388 } ∧
      (noteTurn (imageBlock overlongNote) 0 { size := 32 - 268, offset := 388 }).1 = [(388, 16)] ∧
      ¬ Confined (imageReader overlongNote)) ∧
    Reader.verifyHeader (imageReader emptyBuildId).header = true ∧
      ((imageReader emptyBuildId).readBuildId 1).map Prod.fst =
        some { error := .ok, stored := [] } ∧
      ¬ Confined (imageReader emptyBuildId) := by
  refine ⟨⟨by decide +kernel, by decide +kernel, by decide +kernel, ?_⟩,
    by decide +kernel, by decide +kernel, ?_⟩
  · have segments : (imageReader overlongNote).readSegmentHeaders.2.segments =
        [⟨ptNote, 0, 120, 0, 0, 32, 0, 0⟩] := by decide +kernel
    have found : noteOf (imageBlock overlongNote) 0 { size := 32, offset := 120 } =
        some ⟨0x100, 0, 1, [0, 0, 0, 0]⟩ := by decide +kernel
    apply not_confined_of_first (by decide +kernel) segments rfl found
    left
    rw [NoteFits]
    decide +kernel
  · have segments : (imageReader emptyBuildId).readSegmentHeaders.2.segments =
        [⟨ptNote, 0, 120, 0, 0, 20, 0, 0⟩] := by decide +kernel
    have found : noteOf (imageBlock emptyBuildId) 0 { size := 20, offset := 120 } =
        some ⟨4, 0, 3, Note.gnu⟩ := by decide +kernel
    apply not_confined_of_first (by decide +kernel) segments rfl found
    right
    decide +kernel

end Elf

end Gdbserver
