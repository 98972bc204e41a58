import Gdbserver.Foundation.Hex
import Gdbserver.Utils.ElfReader

/-!
# The build id in well-formed notes

What a turn of the note scan does, case by case, and what the scan finds in note
segments that are tiled by notes.
-/

set_option autoImplicit false

namespace Gdbserver

namespace Util

/-- A copy over the end of an earlier one. -/
theorem copyInto_overwrite {buffer data more : Bytes} {index : Nat} (last : UInt8)
    (within : index + data.length < buffer.length) (some : more ≠ []) :
    copyInto (copyInto buffer index (data ++ [last])) (index + data.length) more =
      copyInto buffer index (data ++ more) := by
  have started : (buffer.take index ++ data).length = index + data.length := by
    rw [List.length_append, List.length_take, Nat.min_eq_left (by omega)]
  obtain ⟨first, rest, rfl⟩ := List.exists_cons_of_ne_nil some
  have kept : (copyInto buffer index (data ++ [last])).take (index + data.length) =
      buffer.take index ++ data := by
    rw [copyInto, ← List.append_assoc, List.append_assoc (_ ++ _),
      List.take_append_of_le_length (Nat.le_of_eq started.symm),
      List.take_of_length_le (Nat.le_of_eq started)]
  have left : (copyInto buffer index (data ++ [last])).drop
      (index + data.length + (first :: rest).length) =
        buffer.drop (index + (data ++ first :: rest).length) := by
    have both : (buffer.take index ++ (data ++ [last])).length = index + data.length + 1 := by
      rw [← List.append_assoc, List.length_append, started, List.length_singleton]
    rw [copyInto, show index + data.length + (first :: rest).length =
      (buffer.take index ++ (data ++ [last])).length + rest.length by
        rw [both, List.length_cons]; omega, List.drop_length_add_append, List.drop_drop,
      List.length_append, List.length_append, List.length_singleton, List.length_cons]
    congr 1
    omega
  rw [copyInto, kept, left, copyInto, List.append_assoc (buffer.take index)]

theorem prefix_copyInto (buffer data : Bytes) : data <+: copyInto buffer 0 data := by
  rw [copyInto, List.take_zero, List.nil_append]
  exact List.prefix_append _ _

end Util

namespace Elf

open Util Logic

/-! ## Fields of structures in memory -/

/-- A little-endian number in memory. -/
def word (m : ByteBlock) (address : UInt64) (width : Nat) : UInt64 :=
  Registers.bytesWord (m.bytes address width)

theorem take_drop_bytes (m : ByteBlock) (address : UInt64) {offset width length : Nat}
    (inside : offset + width ≤ length) :
    ((m.bytes address length).drop offset).take width =
      m.bytes (address + offset.toUInt64) width := by
  obtain ⟨rest, rfl⟩ := Nat.exists_eq_add_of_le inside
  rw [Nat.add_assoc, ByteBlock.bytes_add, ByteBlock.bytes_add,
    List.drop_left' (ByteBlock.bytes_length _ _), List.take_left' (ByteBlock.bytes_length _ _)]

theorem field_bytes (m : ByteBlock) (address : UInt64) {offset width length : Nat}
    (inside : offset + width ≤ length) :
    field (m.bytes address length) offset width = word m (address + offset.toUInt64) width := by
  rw [field, word, take_drop_bytes m address inside]

/-! ## Sizes -/

def roundUp (size : Nat) : Nat := (size + 3) / 4 * 4

theorem le_roundUp (size : Nat) : size ≤ roundUp size := by
  rw [roundUp]
  omega

namespace Note

theorem and_mask {value : Nat} (small : value < 2 ^ 32) :
    value &&& 0xfffffffc = value / 4 * 4 := by
  have mask : (0xfffffffc : Nat) = (2 ^ 30 - 1) <<< 2 := by decide
  have quarter : value / 4 < 2 ^ 30 := by omega
  apply Nat.eq_of_testBit_eq
  intro bit
  rw [mask, Nat.testBit_and, Nat.testBit_shiftLeft, Nat.testBit_two_pow_sub_one,
    show value / 4 * 4 = (value / 4) <<< 2 by rw [Nat.shiftLeft_eq], Nat.testBit_shiftLeft,
    show value / 4 = value >>> 2 by rw [Nat.shiftRight_eq_div_pow], Nat.testBit_shiftRight]
  by_cases low : 2 ≤ bit
  · by_cases high : bit < 32
    · have inside : bit - 2 < 30 := by omega
      have same : 2 + (bit - 2) = bit := by omega
      simp [low, inside, same]
    · have zero : value.testBit bit = false :=
        Nat.testBit_lt_two_pow (Nat.lt_of_lt_of_le small (Nat.pow_le_pow_right (by decide)
          (Nat.le_of_not_lt high)))
      have same : 2 + (bit - 2) = bit := by omega
      simp [zero, same]
  · simp [low]

theorem toNat_padded (size : UInt32) :
    (padded size).toNat = (size.toNat + 3) % 2 ^ 32 / 4 * 4 := by
  rw [padded, UInt32.toNat_and, UInt32.toNat_add]
  exact and_mask (Nat.mod_lt _ (by decide))

theorem toNat_padded_of_small {size : UInt32} (small : size.toNat + 3 < 2 ^ 32) :
    (padded size).toNat = roundUp size.toNat := by
  rw [toNat_padded, Nat.mod_eq_of_lt small, roundUp]

theorem padded_lt (size : UInt32) : (padded size).toNat < 2 ^ 32 := (padded size).toNat_lt

theorem toNat_headerSize (note : Note) :
    note.headerSize.toNat = 12 + (padded note.nNamesz).toNat := by
  have bound := padded_lt note.nNamesz
  rw [headerSize, UInt64.toNat_add, UInt32.toNat_toUInt64]
  exact Nat.mod_eq_of_lt (by change 12 + _ < _; omega)

theorem toNat_payloadSize (note : Note) :
    note.payloadSize.toNat = (padded note.nDescsz).toNat := UInt32.toNat_toUInt64 _

end Note

/-! ## A turn of the scan -/

section Turns

variable {m : ByteBlock} {vaddr : UInt64} {scan : NoteScan} {note : Note}

def noteOf (m : ByteBlock) (vaddr : UInt64) (scan : NoteScan) : Option Note :=
  if scan.size.toNat > Note.size then
    (m.read (vaddr + scan.offset) Note.size).map Note.decode
  else none

def NoteScan.behind (scan : NoteScan) (note : Note) : NoteScan where
  size := scan.size - note.headerSize - note.payloadSize
  offset := scan.offset + note.headerSize + note.payloadSize

theorem noteTurn_short (short : scan.size.toNat ≤ Note.size) :
    noteTurn m vaddr scan = ([], .done none) := by
  simp [noteTurn, Nat.not_lt.mpr short]

theorem noteTurn_unread (long : Note.size < scan.size.toNat)
    (unread : m.read (vaddr + scan.offset) Note.size = none) :
    noteTurn m vaddr scan =
      ([(vaddr + scan.offset, Note.size)], .done (some { error := .io, stored := [] })) := by
  simp [noteTurn, long, unread]

theorem noteOf_eq_some_iff : noteOf m vaddr scan = some note ↔ Note.size < scan.size.toNat ∧
    ∃ bytes, m.read (vaddr + scan.offset) Note.size = some bytes ∧ Note.decode bytes = note := by
  by_cases long : Note.size < scan.size.toNat
  · simp [noteOf, long]
  · simp [noteOf, long]

theorem noteTurn_other (read : noteOf m vaddr scan = some note)
    (other : note.isGnuBuildId = false) :
    noteTurn m vaddr scan =
      ([(vaddr + scan.offset, Note.size)], .next (scan.behind note)) := by
  obtain ⟨long, bytes, got, rfl⟩ := noteOf_eq_some_iff.mp read
  simp [noteTurn, long, got, other, NoteScan.behind]

theorem noteTurn_buildId (read : noteOf m vaddr scan = some note)
    (buildId : note.isGnuBuildId = true) :
    noteTurn m vaddr scan =
      ((vaddr + scan.offset, Note.size) ::
          (readDescriptor m (vaddr + (scan.offset + note.headerSize)) note.nDescsz).1,
        .done (some
          (readDescriptor m (vaddr + (scan.offset + note.headerSize)) note.nDescsz).2)) := by
  obtain ⟨long, bytes, got, rfl⟩ := noteOf_eq_some_iff.mp read
  simp [noteTurn, long, got, buildId]

theorem noteTurn_cases (m : ByteBlock) (vaddr : UInt64) (scan : NoteScan) :
    (scan.size.toNat ≤ Note.size ∧ noteTurn m vaddr scan = ([], .done none)) ∨
      (Note.size < scan.size.toNat ∧ noteTurn m vaddr scan =
        ([(vaddr + scan.offset, Note.size)], .done (some { error := .io, stored := [] }))) ∨
      ∃ note, noteOf m vaddr scan = some note := by
  by_cases long : Note.size < scan.size.toNat
  · right
    cases unread : m.read (vaddr + scan.offset) Note.size with
    | none => exact Or.inl ⟨long, noteTurn_unread long unread⟩
    | some bytes => exact Or.inr ⟨_, noteOf_eq_some_iff.mpr ⟨long, bytes, unread, rfl⟩⟩
  · exact Or.inl ⟨Nat.le_of_not_lt long, noteTurn_short (Nat.le_of_not_lt long)⟩

/-- The loop goes on behind a note that is no build id. -/
theorem noteTurn_next {later : NoteScan} (goesOn : (noteTurn m vaddr scan).2 = .next later) :
    ∃ note, noteOf m vaddr scan = some note ∧ note.isGnuBuildId = false ∧
      later = scan.behind note := by
  rcases noteTurn_cases m vaddr scan with ⟨-, turn⟩ | ⟨-, turn⟩ | ⟨note, read⟩
  · rw [turn] at goesOn
    cases goesOn
  · rw [turn] at goesOn
    cases goesOn
  · cases kind : note.isGnuBuildId with
    | true =>
        rw [noteTurn_buildId read kind] at goesOn
        cases goesOn
    | false =>
        rw [noteTurn_other read kind] at goesOn
        cases goesOn
        exact ⟨note, read, kind, rfl⟩

/-- `ReadBuildId` returns from the loop at a note that cannot be read or at a build id. -/
theorem noteTurn_done {result : BuildIdRead}
    (returns : (noteTurn m vaddr scan).2 = .done (some result)) :
    result = { error := .io, stored := [] } ∨
      ∃ note, noteOf m vaddr scan = some note ∧ note.isGnuBuildId = true ∧
        result = (readDescriptor m (vaddr + (scan.offset + note.headerSize)) note.nDescsz).2 := by
  rcases noteTurn_cases m vaddr scan with ⟨-, turn⟩ | ⟨-, turn⟩ | ⟨note, read⟩
  · rw [turn] at returns
    cases returns
  · rw [turn] at returns
    cases returns
    exact Or.inl rfl
  · cases kind : note.isGnuBuildId with
    | true =>
        rw [noteTurn_buildId read kind] at returns
        cases returns
        exact Or.inr ⟨note, read, kind, rfl⟩
    | false =>
        rw [noteTurn_other read kind] at returns
        cases returns

end Turns

/-! ## What a build id leaves in the buffer -/

theorem foldl_storeHex {buf desc : Bytes} {index : Nat} (some : desc ≠ [])
    (room : 2 * (index + desc.length) < buf.length) :
    (storeHex index desc).foldl (fun buf written => copyInto buf written.1 written.2) buf =
      copyInto buf (index * 2) (encodeByteArrayString desc ++ [0]) := by
  induction desc generalizing buf index with
  | nil => exact absurd rfl some
  | cons byte rest ih =>
      rw [List.length_cons] at room
      rw [storeHex, List.foldl_cons]
      have whole : encodeByteArrayString (byte :: rest) ++ [0] =
          encodeByteString byte ++ (encodeByteArrayString rest ++ [0]) := rfl
      have two : (encodeByteString byte).length = 2 := rfl
      have behind : (index + 1) * 2 = index * 2 + (encodeByteString byte).length := by
        rw [two]; omega
      cases rest with
      | nil => rfl
      | cons second later =>
          rw [ih (List.cons_ne_nil _ _)
            (by rw [copyInto_length (by simp [two]; omega)]; simp at room ⊢; omega), behind,
            copyInto_overwrite 0 (by rw [two]; omega) (by simp), whole]

theorem buf_storeHex {buf desc : Bytes} (some : desc ≠ []) (short : desc.length ≤ kMaxBuildIdSize)
    (room : 2 * kMaxBuildIdSize + 1 ≤ buf.length) :
    encodeByteArrayString desc ++ [0] <+:
      BuildIdRead.buf { error := .ok, stored := storeHex 0 desc } buf := by
  rw [BuildIdRead.buf, foldl_storeHex some (by omega)]
  exact prefix_copyInto _ _

/-! ## Tiled segments -/

/-- A note as it should be. -/
structure NoteRecord where
  type : UInt32
  name : Bytes
  desc : Bytes

namespace NoteRecord

def size (note : NoteRecord) : Nat :=
  Note.nhdrSize + roundUp note.name.length + roundUp note.desc.length

def isGnuBuildId (note : NoteRecord) : Bool :=
  note.type == ntGnuBuildId && note.name == Note.gnu

end NoteRecord

/-- The note stands at the address. The padding is arbitrary. -/
structure NoteAt (m : ByteBlock) (address : UInt64) (note : NoteRecord) : Prop where
  nameSmall : note.name.length < 2 ^ 31
  descSmall : note.desc.length < 2 ^ 31
  namesz : (word m address 4).toNat = note.name.length
  descsz : (word m (address + 4) 4).toNat = note.desc.length
  type : (word m (address + 8) 4).toUInt32 = note.type
  name : m.bytes (address + 12) note.name.length = note.name
  desc : m.bytes (address + (12 + roundUp note.name.length).toUInt64) note.desc.length = note.desc

/-- The bytes from the address on are exactly these notes. -/
inductive Tiles (m : ByteBlock) : UInt64 → Nat → List NoteRecord → Prop
  | nil {address : UInt64} : Tiles m address 0 []
  | cons {address : UInt64} {size : Nat} {note : NoteRecord} {notes : List NoteRecord} :
      NoteAt m address note → Tiles m (address + note.size.toUInt64) size notes →
        Tiles m address (note.size + size) (note :: notes)

/-- Every part of the segment can be read. -/
def ReadableFrom (m : ByteBlock) (start : UInt64) (size : Nat) : Prop :=
  ∀ offset length, 0 < length → offset + length ≤ size →
    m.readable (start + offset.toUInt64) length = true

theorem ReadableFrom.behind {m : ByteBlock} {start : UInt64} {first rest : Nat}
    (readable : ReadableFrom m start (first + rest)) :
    ReadableFrom m (start + first.toUInt64) rest := by
  intro offset length positive inside
  have whole := readable (first + offset) length positive (by omega)
  rwa [Nat.toUInt64_eq, UInt64.ofNat_add, ← UInt64.add_assoc] at whole

def found (notes : List NoteRecord) : Option BuildIdRead :=
  (notes.find? NoteRecord.isGnuBuildId).map fun note =>
    if note.desc.length > kMaxBuildIdSize then
      { error := .ok
        stored := [(0, ascii "build_id_too_large_" ++ Ftl.writeDigits 10 10 note.desc.length ++ [0])] }
    else { error := .ok, stored := storeHex 0 note.desc }

theorem toNat_toUInt32_of_small {value : UInt64} {size : Nat} (same : value.toNat = size)
    (small : size < 2 ^ 31) : value.toUInt32.toNat = size := by
  rw [UInt64.toNat_toUInt32, same]
  exact Nat.mod_eq_of_lt (by omega)

section Decoded

variable {m : ByteBlock} {address : UInt64} {note : NoteRecord}

theorem decode_noteAt (stands : NoteAt m address note) :
    (Note.decode (m.bytes address Note.size)).nNamesz.toNat = note.name.length ∧
      (Note.decode (m.bytes address Note.size)).nDescsz.toNat = note.desc.length ∧
      (Note.decode (m.bytes address Note.size)).isGnuBuildId = note.isGnuBuildId := by
  have first : field (m.bytes address Note.size) 0 4 = word m address 4 := by
    rw [field_bytes m address (by decide), ByteBlock.add_zero_toUInt64]
  have second : field (m.bytes address Note.size) 4 4 = word m (address + 4) 4 :=
    field_bytes m address (by decide)
  have third : field (m.bytes address Note.size) 8 4 = word m (address + 8) 4 :=
    field_bytes m address (by decide)
  have fourth : ((m.bytes address Note.size).drop Note.nhdrSize).take 4 =
      m.bytes (address + 12) 4 := take_drop_bytes m address (by decide)
  have namesz : (field (m.bytes address Note.size) 0 4).toUInt32.toNat = note.name.length :=
    toNat_toUInt32_of_small (by rw [first, stands.namesz]) stands.nameSmall
  have descsz : (field (m.bytes address Note.size) 4 4).toUInt32.toNat = note.desc.length :=
    toNat_toUInt32_of_small (by rw [second, stands.descsz]) stands.descSmall
  refine ⟨namesz, descsz, ?_⟩
  rw [Note.isGnuBuildId, NoteRecord.isGnuBuildId, Note.decode, third, stands.type, fourth]
  by_cases four : note.name.length = 4
  · have number : (field (m.bytes address Note.size) 0 4).toUInt32 = 4 :=
      UInt32.toNat_inj.mp (by rw [namesz, four]; rfl)
    have name := stands.name
    rw [four] at name
    simp [number, name]
  · have number : ((field (m.bytes address Note.size) 0 4).toUInt32 == 4) = false := by
      apply beq_false_of_ne
      intro same
      rw [same] at namesz
      exact four namesz.symm
    have name : (note.name == Note.gnu) = false := by
      apply beq_false_of_ne
      intro same
      rw [same] at four
      exact four rfl
    rw [number, name, Bool.and_false, Bool.false_and]

theorem sizes_noteAt (stands : NoteAt m address note) :
    (Note.decode (m.bytes address Note.size)).headerSize.toNat =
        12 + roundUp note.name.length ∧
      (Note.decode (m.bytes address Note.size)).payloadSize.toNat = roundUp note.desc.length := by
  obtain ⟨namesz, descsz, -⟩ := decode_noteAt stands
  have nameSmall := stands.nameSmall
  have descSmall := stands.descSmall
  rw [Note.toNat_headerSize, Note.toNat_payloadSize, Note.toNat_padded_of_small (by omega),
    Note.toNat_padded_of_small (by omega), namesz, descsz]
  exact ⟨rfl, rfl⟩

/-- A build id with a descriptor does not end within the bytes of the fixed read. -/
theorem size_of_buildId (buildId : note.isGnuBuildId = true) (some : note.desc ≠ []) :
    Note.size < note.size := by
  have name : note.name = Note.gnu := by
    rw [NoteRecord.isGnuBuildId, Bool.and_eq_true] at buildId
    simpa using buildId.2
  have length : note.name.length = 4 := by rw [name]; rfl
  have positive := List.length_pos_iff.mpr some
  rw [NoteRecord.size, length, Note.size, Note.nhdrSize, roundUp, roundUp]
  omega

theorem readDescriptor_noteAt {size : Nat} (stands : NoteAt m address note)
    (readable : ReadableFrom m address (note.size + size)) (some : note.desc ≠ []) :
    (readDescriptor m
        (address + (Note.decode (m.bytes address Note.size)).headerSize)
        (Note.decode (m.bytes address Note.size)).nDescsz).2 =
      if note.desc.length > kMaxBuildIdSize then
        { error := .ok
          stored := [(0, ascii "build_id_too_large_" ++
            Ftl.writeDigits 10 10 note.desc.length ++ [0])] }
      else { error := .ok, stored := storeHex 0 note.desc } := by
  obtain ⟨-, descsz, -⟩ := decode_noteAt stands
  obtain ⟨header, -⟩ := sizes_noteAt stands
  have place : (Note.decode (m.bytes address Note.size)).headerSize =
      (12 + roundUp note.name.length).toUInt64 := by
    rw [← header, Nat.toUInt64_eq, UInt64.ofNat_toNat]
  have granted : m.readable (address + (12 + roundUp note.name.length).toUInt64)
      note.desc.length = true := by
    apply readable _ _ (List.length_pos_iff.mpr some)
    have fits := le_roundUp note.desc.length
    rw [NoteRecord.size, Note.nhdrSize]
    omega
  rw [readDescriptor, descsz, place]
  by_cases large : note.desc.length > kMaxBuildIdSize
  · rw [if_pos large, if_pos large]
  · rw [if_neg large, if_neg large, ByteBlock.read_of_readable granted, stands.desc]

end Decoded

/-- In the rest of a segment that is too short for another turn there is no build id. -/
theorem no_buildId_of_short {m : ByteBlock} {address : UInt64} {size : Nat}
    {notes : List NoteRecord} (tiles : Tiles m address size notes) (short : size ≤ Note.size)
    (described : ∀ note ∈ notes, note.isGnuBuildId = true → note.desc ≠ []) :
    notes.find? NoteRecord.isGnuBuildId = none := by
  induction tiles with
  | nil => rfl
  | @cons address rest note notes stands tiles ih =>
      have other : note.isGnuBuildId = false := by
        by_contra buildId
        rw [Bool.not_eq_false] at buildId
        have long := size_of_buildId buildId (described note List.mem_cons_self buildId)
        omega
      rw [List.find?_cons_of_neg (by simp [other])]
      exact ih (by omega) fun later member => described later (List.mem_cons_of_mem note member)

theorem behind_noteAt {m : ByteBlock} {vaddr address : UInt64} {note : NoteRecord} {rest : Nat}
    (stands : NoteAt m address note) {scan : NoteScan}
    (left : scan.size.toNat = note.size + rest) (starts : vaddr + scan.offset = address) :
    (scan.behind (Note.decode (m.bytes address Note.size))).size.toNat = rest ∧
      vaddr + (scan.behind (Note.decode (m.bytes address Note.size))).offset =
        address + note.size.toUInt64 := by
  obtain ⟨header, payload⟩ := sizes_noteAt stands
  have total : note.size = 12 + roundUp note.name.length + roundUp note.desc.length := rfl
  constructor
  · have fits : (Note.decode (m.bytes address Note.size)).headerSize ≤ scan.size := by
      rw [UInt64.le_iff_toNat_le]
      omega
    rw [NoteScan.behind, UInt64.toNat_sub_of_le, UInt64.toNat_sub_of_le _ _ fits]
    · omega
    · rw [UInt64.le_iff_toNat_le, UInt64.toNat_sub_of_le _ _ fits]
      omega
  · have sum : note.size.toUInt64 = (Note.decode (m.bytes address Note.size)).headerSize +
        (Note.decode (m.bytes address Note.size)).payloadSize := by
      rw [total, Nat.toUInt64_eq, UInt64.ofNat_add, ← header, ← payload, UInt64.ofNat_toNat,
        UInt64.ofNat_toNat]
    rw [sum, NoteScan.behind, ← UInt64.add_assoc, ← UInt64.add_assoc, starts, UInt64.add_assoc]

theorem found_cons_of_other {note : NoteRecord} (other : note.isGnuBuildId = false)
    (notes : List NoteRecord) : found (note :: notes) = found notes := by
  rw [found, List.find?_cons_of_neg (by simp [other])]
  rfl

theorem loop_tiles {m : ByteBlock} {vaddr address : UInt64} {size : Nat} {notes : List NoteRecord}
    (tiles : Tiles m address size notes) (readable : ReadableFrom m address size)
    (described : ∀ note ∈ notes, note.isGnuBuildId = true → note.desc ≠ [])
    {scan : NoteScan} (left : scan.size.toNat = size) (starts : vaddr + scan.offset = address)
    {fuel : Nat} (enough : notes.length < fuel) :
    loop (fun scan => some (noteTurn m vaddr scan).2) fuel scan = some (found notes) := by
  induction tiles generalizing scan fuel with
  | nil =>
      obtain ⟨fuel, rfl⟩ : ∃ rest, fuel = rest + 1 := ⟨fuel - 1, by omega⟩
      exact loop_done (by rw [noteTurn_short (by omega)]; rfl) fuel
  | @cons address rest note notes stands tiles ih =>
      obtain ⟨fuel, rfl⟩ : ∃ more, fuel = more + 1 := ⟨fuel - 1, by omega⟩
      -- the loop wants more than the fixed part, so it may end before the last notes
      by_cases short : note.size + rest ≤ Note.size
      · have none := no_buildId_of_short (.cons stands tiles) short described
        have nothing : found (note :: notes) = .none := by rw [found, none]; rfl
        rw [nothing]
        exact loop_done (by rw [noteTurn_short (by omega)]) fuel
      · have granted : m.readable address Note.size = true := by
          have start := readable 0 Note.size (by decide) (by omega)
          rwa [ByteBlock.add_zero_toUInt64] at start
        have read : noteOf m vaddr scan = some (Note.decode (m.bytes address Note.size)) :=
          noteOf_eq_some_iff.mpr
            ⟨by omega, _, by rw [starts]; exact ByteBlock.read_of_readable granted, rfl⟩
        obtain ⟨-, -, same⟩ := decode_noteAt stands
        cases kind : note.isGnuBuildId with
        | true =>
            rw [kind] at same
            apply loop_done
            rw [noteTurn_buildId read same, ← UInt64.add_assoc, starts,
              readDescriptor_noteAt stands readable (described note List.mem_cons_self kind),
              found, List.find?_cons_of_pos kind]
            rfl
        | false =>
            rw [kind] at same
            have next := noteTurn_other read same
            rw [loop_next (by rw [next]), found_cons_of_other kind]
            obtain ⟨behind, place⟩ := behind_noteAt stands left starts
            apply ih readable.behind
              (fun later member => described later (List.mem_cons_of_mem note member)) behind place
            simpa using enough

/-- An image whose note segments are tiled by the notes. -/
structure TiledNotes (m : ByteBlock) (base : UInt64) (notes : SegmentHeader → List NoteRecord)
    (phdr : SegmentHeader) : Prop where
  readable : ReadableFrom m (base + phdr.pOffset) phdr.pFilesz.toNat
  tiles : Tiles m (base + phdr.pOffset) phdr.pFilesz.toNat (notes phdr)
  described : ∀ note ∈ notes phdr, note.isGnuBuildId = true → note.desc ≠ []

def noteList (notes : SegmentHeader → List NoteRecord) (segments : List SegmentHeader) :
    List NoteRecord :=
  (segments.filter fun phdr => phdr.pType = ptNote).flatMap notes

theorem found_append (first second : List NoteRecord) :
    found (first ++ second) = (found first).or (found second) := by
  rw [found, found, found, List.find?_append]
  cases first.find? NoteRecord.isGnuBuildId with
  | none => rfl
  | some note => rfl

theorem scanSegments_tiled {m : ByteBlock} {base : UInt64}
    {notes : SegmentHeader → List NoteRecord} {segments : List SegmentHeader}
    (tiled : ∀ phdr ∈ segments, phdr.pType = ptNote → TiledNotes m base notes phdr)
    {fuel : Nat} (enough : (noteList notes segments).length < fuel) :
    scanSegments fuel m base segments =
      some ((found (noteList notes segments)).getD { error := .ok, stored := [(0, [0])] }) := by
  induction segments with
  | nil => rfl
  | cons phdr rest ih =>
      have later : ∀ phdr ∈ rest, phdr.pType = ptNote → TiledNotes m base notes phdr :=
        fun other member => tiled other (List.mem_cons_of_mem phdr member)
      rw [scanSegments]
      by_cases note : phdr.pType = ptNote
      · have split : noteList notes (phdr :: rest) = notes phdr ++ noteList notes rest := by
          simp [noteList, note]
        rw [split, List.length_append] at enough
        have here := tiled phdr List.mem_cons_self note
        have scanned : scanNotes fuel m base phdr = some (found (notes phdr)) :=
          loop_tiles here.tiles here.readable here.described rfl rfl (by omega)
        rw [if_neg (not_not_intro note), scanned, split, found_append]
        cases found (notes phdr) with
        | none => exact ih later (by omega)
        | some result => rfl
      · have same : noteList notes (phdr :: rest) = noteList notes rest := by
          simp [noteList, note]
        rw [if_pos note, same]
        exact ih later (by rwa [same] at enough)

/-- On well-formed notes `ReadBuildId` succeeds, with the first build id of the
note segments or with an empty string. -/
theorem readBuildId_tiled (reader loaded : Reader) (notes : SegmentHeader → List NoteRecord)
    (headers : reader.readSegmentHeaders = (.ok, loaded))
    (tiled : ∀ phdr ∈ loaded.segments, phdr.pType = ptNote →
      TiledNotes loaded.byteBlock loaded.base notes phdr) :
    ∃ enough, ∀ fuel ≥ enough, ∃ read, reader.readBuildId fuel = some (read, loaded) ∧
      read.error = .ok ∧
      ∀ buf : Bytes, 2 * kMaxBuildIdSize + 1 ≤ buf.length →
        (∀ note, (noteList notes loaded.segments).find? NoteRecord.isGnuBuildId = some note →
          note.desc.length ≤ kMaxBuildIdSize →
            encodeByteArrayString note.desc ++ [0] <+: read.buf buf) ∧
        ((noteList notes loaded.segments).find? NoteRecord.isGnuBuildId = none →
          [0] <+: read.buf buf) := by
  refine ⟨(noteList notes loaded.segments).length + 1, fun fuel enough => ?_⟩
  have scanned := scanSegments_tiled tiled enough
  refine ⟨_, by rw [Reader.readBuildId, headers]; simp only [scanned]; rfl, ?_,
    fun buf room => ⟨fun note first short => ?_, fun none => ?_⟩⟩
  · rw [found]
    cases (noteList notes loaded.segments).find? NoteRecord.isGnuBuildId with
    | none => rfl
    | some note =>
        by_cases large : note.desc.length > kMaxBuildIdSize
        · simp [large]
        · simp [large]
  · have member := List.mem_of_find?_eq_some first
    have buildId := List.find?_some first
    obtain ⟨phdr, inside, here⟩ := List.mem_flatMap.mp member
    obtain ⟨listed, type⟩ := List.mem_filter.mp inside
    have some := (tiled phdr listed (of_decide_eq_true type)).described note here buildId
    rw [found, first, Option.map_some, if_neg (Nat.not_lt.mpr short), Option.getD_some]
    exact buf_storeHex some short room
  · rw [found, none]
    exact prefix_copyInto buf [0]

/-- An image with one note segment: an empty note and a build id of four bytes. -/
def twoNotes : Bytes :=
  imageHeader 64 0 1 0 ++ segmentBytes ptNote 120 32 ++
    numberBytes 4 0 ++ numberBytes 4 0 ++ numberBytes 4 1 ++
    numberBytes 4 4 ++ numberBytes 4 4 ++ numberBytes 4 3 ++ Note.gnu ++ [0xde, 0xad, 0xbe, 0xef]

def twoNotesReader : Reader := imageReader twoNotes

def twoRecords : List NoteRecord :=
  [⟨1, [], []⟩, ⟨ntGnuBuildId, Note.gnu, [0xde, 0xad, 0xbe, 0xef]⟩]

theorem twoNotes_readable : ReadableFrom (imageBlock twoNotes) 120 32 := by
  intro offset length positive inside
  have small : offset < 2 ^ 64 := by omega
  have whole : twoNotes.length = 152 := by decide +kernel
  apply decide_eq_true
  rw [UInt64.toNat_add, Nat.toUInt64_eq, UInt64.toNat_ofNat_of_lt' small, whole]
  change (120 + offset) % 2 ^ 64 + length ≤ 152
  omega

theorem twoNotes_tiles : Tiles (imageBlock twoNotes) 120 32 twoRecords := by
  have sizes : 32 = NoteRecord.size ⟨1, [], []⟩ +
      (NoteRecord.size ⟨ntGnuBuildId, Note.gnu, [0xde, 0xad, 0xbe, 0xef]⟩ + 0) := by decide
  rw [sizes]
  refine .cons ⟨?_, ?_, ?_, ?_, ?_, ?_, ?_⟩ (.cons ⟨?_, ?_, ?_, ?_, ?_, ?_, ?_⟩ .nil)
  all_goals decide +kernel

theorem twoNotes_buildId : Reader.verifyHeader twoNotesReader.header = true ∧
    ∃ enough, ∀ fuel ≥ enough, ∃ read,
      twoNotesReader.readBuildId fuel = some (read, twoNotesReader.readSegmentHeaders.2) ∧
        read.error = .ok ∧ ∀ buf : Bytes, 2 * kMaxBuildIdSize + 1 ≤ buf.length →
          ascii "deadbeef" ++ [0] <+: read.buf buf := by
  have granted : twoNotesReader.readSegmentHeaders.1 = .ok := by decide +kernel
  have headers : twoNotesReader.readSegmentHeaders =
      (.ok, twoNotesReader.readSegmentHeaders.2) := by rw [← granted]
  have segments : twoNotesReader.readSegmentHeaders.2.segments =
      [⟨ptNote, 0, 120, 0, 0, 32, 0, 0⟩] := by decide +kernel
  have tiled : ∀ phdr ∈ twoNotesReader.readSegmentHeaders.2.segments, phdr.pType = ptNote →
      TiledNotes twoNotesReader.readSegmentHeaders.2.byteBlock
        twoNotesReader.readSegmentHeaders.2.base (fun _ => twoRecords) phdr := by
    intro phdr member _
    obtain ⟨block, base, -⟩ := Reader.readSegmentHeaders_place twoNotesReader
    rw [segments, List.mem_singleton] at member
    subst member
    rw [block, base]
    refine ⟨twoNotes_readable, twoNotes_tiles, ?_⟩
    intro note inside buildId
    cases List.mem_cons.mp inside with
    | inl first =>
        subst first
        exact absurd buildId (by decide)
    | inr second =>
        rw [List.mem_singleton.mp second]
        exact List.cons_ne_nil _ _
  obtain ⟨enough, all⟩ := readBuildId_tiled twoNotesReader _ (fun _ => twoRecords) headers tiled
  refine ⟨by decide +kernel, enough, fun fuel more => ?_⟩
  obtain ⟨read, result, ok, holds⟩ := all fuel more
  refine ⟨read, result, ok, fun buf room => ?_⟩
  apply (holds buf room).1 ⟨ntGnuBuildId, Note.gnu, [0xde, 0xad, 0xbe, 0xef]⟩
  · rw [segments]
    rfl
  · decide

end Elf

end Gdbserver
