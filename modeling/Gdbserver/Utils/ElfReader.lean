import Gdbserver.Foundation.Buffer
import Gdbserver.Foundation.Ftl
import Gdbserver.Inferior.Arch
import Gdbserver.Logic.Loop
import Gdbserver.Utils.ByteBlock

/-!
# The ELF reader

`lib/debugger-utils/elf-reader.cc` on a 64-bit little-endian host: the header,
the tables of segments and sections, the contents of a section, and the scan of
the note segments for the build id. Allocation succeeds.
-/

set_option autoImplicit false

namespace Gdbserver

namespace Elf

open Util Logic

inductive Error where
  | ok
  | io
  | badElf
  | noMem
  deriving DecidableEq, Repr

/-- A little-endian field of a structure that has been read. -/
def field (bytes : Bytes) (offset width : Nat) : UInt64 :=
  Registers.bytesWord ((bytes.drop offset).take width)

/-- `Elf64_Ehdr`, the fields that are used. -/
structure Header where
  eIdent : Bytes
  eEntry : UInt64
  ePhoff : UInt64
  eShoff : UInt64
  eEhsize : UInt16
  ePhentsize : UInt16
  ePhnum : UInt16
  eShentsize : UInt16
  eShnum : UInt16
  deriving DecidableEq, Repr

def Header.size : Nat := 64

def Header.decode (bytes : Bytes) : Header where
  eIdent := bytes.take 16
  eEntry := field bytes 24 8
  ePhoff := field bytes 32 8
  eShoff := field bytes 40 8
  eEhsize := (field bytes 52 2).toUInt16
  ePhentsize := (field bytes 54 2).toUInt16
  ePhnum := (field bytes 56 2).toUInt16
  eShentsize := (field bytes 58 2).toUInt16
  eShnum := (field bytes 60 2).toUInt16

/-- `Elf64_Phdr`. -/
structure SegmentHeader where
  pType : UInt32
  pFlags : UInt32
  pOffset : UInt64
  pVaddr : UInt64
  pPaddr : UInt64
  pFilesz : UInt64
  pMemsz : UInt64
  pAlign : UInt64
  deriving DecidableEq, Repr

def SegmentHeader.size : Nat := 56

def SegmentHeader.decode (bytes : Bytes) : SegmentHeader where
  pType := (field bytes 0 4).toUInt32
  pFlags := (field bytes 4 4).toUInt32
  pOffset := field bytes 8 8
  pVaddr := field bytes 16 8
  pPaddr := field bytes 24 8
  pFilesz := field bytes 32 8
  pMemsz := field bytes 40 8
  pAlign := field bytes 48 8

def ptLoad : UInt32 := 1

def ptNote : UInt32 := 4

/-- `Elf64_Shdr`, the fields that are used. -/
structure SectionHeader where
  shType : UInt32
  shOffset : UInt64
  shSize : UInt64
  shLink : UInt32
  shEntsize : UInt64
  deriving DecidableEq, Repr

def SectionHeader.size : Nat := 64

def SectionHeader.decode (bytes : Bytes) : SectionHeader where
  shType := (field bytes 4 4).toUInt32
  shOffset := field bytes 24 8
  shSize := field bytes 32 8
  shLink := (field bytes 40 4).toUInt32
  shEntsize := field bytes 56 8

/-- The structures of an array, one after the other. -/
def decodeArray {α : Type} (decode : Bytes → α) (size count : Nat) (bytes : Bytes) : List α :=
  (List.range count).map fun index => decode ((bytes.drop (index * size)).take size)

structure Reader where
  byteBlock : ByteBlock
  base : UInt64
  header : Header
  segmentHeaders : Option (List SegmentHeader) := none
  sectionHeaders : Option (List SectionHeader) := none

namespace Reader

def readHeader (m : ByteBlock) (base : UInt64) : Option Header :=
  (m.read base Header.size).map Header.decode

/-- `ELFMAG`. -/
def elfMag : Bytes := [0x7f, chr 'E', chr 'L', chr 'F']

def verifyHeader (hdr : Header) : Bool :=
  hdr.eIdent.take 4 == elfMag && hdr.eEhsize.toNat == Header.size &&
    hdr.ePhentsize.toNat == SegmentHeader.size && hdr.eShentsize.toNat == SectionHeader.size

def create (byteBlock : ByteBlock) (base : UInt64) : Except Error Reader :=
  match readHeader byteBlock base with
  | none => .error .io
  | some header =>
      if verifyHeader header then .ok { byteBlock, base, header } else .error .badElf

theorem create_of_accepted {m : ByteBlock} {base : UInt64}
    (granted : m.readable base Header.size = true)
    (accepted : verifyHeader (Header.decode (m.bytes base Header.size)) = true) :
    create m base =
      .ok { byteBlock := m, base, header := Header.decode (m.bytes base Header.size) } := by
  simp [create, readHeader, ByteBlock.read_of_readable granted, accepted]

def getNumSegments (reader : Reader) : Nat := reader.header.ePhnum.toNat

def getNumSections (reader : Reader) : Nat := reader.header.eShnum.toNat

def readSegmentHeaders (reader : Reader) : Error × Reader :=
  match reader.segmentHeaders with
  | some _ => (.ok, reader)
  | none =>
      match reader.byteBlock.read (reader.base + reader.header.ePhoff)
          (reader.getNumSegments * SegmentHeader.size) with
      | none => (.io, reader)
      | some bytes =>
          let segHdrs :=
            decodeArray SegmentHeader.decode SegmentHeader.size reader.getNumSegments bytes
          (.ok, { reader with segmentHeaders := some segHdrs })

def readSectionHeaders (reader : Reader) : Error × Reader :=
  match reader.sectionHeaders with
  | some _ => (.ok, reader)
  | none =>
      match reader.byteBlock.read (reader.base + reader.header.eShoff)
          (reader.getNumSections * SectionHeader.size) with
      | none => (.io, reader)
      | some bytes =>
          let scnHdrs :=
            decodeArray SectionHeader.decode SectionHeader.size reader.getNumSections bytes
          (.ok, { reader with sectionHeaders := some scnHdrs })

theorem readSegmentHeaders_place (reader : Reader) :
    reader.readSegmentHeaders.2.byteBlock = reader.byteBlock ∧
      reader.readSegmentHeaders.2.base = reader.base ∧
      reader.readSegmentHeaders.2.header = reader.header := by
  rw [readSegmentHeaders]
  cases reader.segmentHeaders with
  | some headers => exact ⟨rfl, rfl, rfl⟩
  | none =>
      cases reader.byteBlock.read (reader.base + reader.header.ePhoff)
          (reader.getNumSegments * SegmentHeader.size) with
      | none => exact ⟨rfl, rfl, rfl⟩
      | some bytes => exact ⟨rfl, rfl, rfl⟩

/-- The headers that have been read; the source asserts that they have been. -/
def segments (reader : Reader) : List SegmentHeader := reader.segmentHeaders.getD []

def sections (reader : Reader) : List SectionHeader := reader.sectionHeaders.getD []

def getSectionHeaderByType (reader : Reader) (type : UInt32) : Option SectionHeader :=
  reader.sections.find? fun shdr => shdr.shType == type

end Reader

structure SectionContents where
  header : SectionHeader
  contents : Bytes
  deriving DecidableEq, Repr

def Reader.getSectionContents (reader : Reader) (sh : SectionHeader) :
    Except Error SectionContents :=
  match reader.byteBlock.read (reader.base + sh.shOffset) sh.shSize.toNat with
  | none => .error .io
  | some buffer => .ok { header := sh, contents := buffer }

/-! ## The build id -/

def kMaxBuildIdSize : Nat := 64

def ntGnuBuildId : UInt32 := 3

/-- The header of a note and the bytes of a name as long as `"GNU"` with its NUL,
read together. -/
structure Note where
  nNamesz : UInt32
  nDescsz : UInt32
  nType : UInt32
  name : Bytes
  deriving DecidableEq, Repr

namespace Note

def nhdrSize : Nat := 12

def size : Nat := 16

def decode (bytes : Bytes) : Note where
  nNamesz := (field bytes 0 4).toUInt32
  nDescsz := (field bytes 4 4).toUInt32
  nType := (field bytes 8 4).toUInt32
  name := (bytes.drop nhdrSize).take 4

/-- `(size + 3) & -4` in 32 bits. -/
def padded (size : UInt32) : UInt32 := (size + 3) &&& 0xfffffffc

def headerSize (note : Note) : UInt64 := nhdrSize.toUInt64 + (padded note.nNamesz).toUInt64

def payloadSize (note : Note) : UInt64 := (padded note.nDescsz).toUInt64

/-- `"GNU"` with its NUL. -/
def gnu : Bytes := ascii "GNU" ++ [0]

def isGnuBuildId (note : Note) : Bool :=
  note.nType == ntGnuBuildId && note.nNamesz == 4 && note.name == gnu

end Note

/-- What `ReadBuildId` returns and the bytes it has put into `buf`, in order. -/
structure BuildIdRead where
  error : Error
  stored : List (Nat × Bytes)
  deriving DecidableEq, Repr

/-- The two counters of the loop over the notes of a segment. -/
structure NoteScan where
  size : UInt64
  offset : UInt64
  deriving DecidableEq, Repr

/-- `snprintf(&buf[i * 2], 3, "%02x", buildid[i])` for every byte. -/
def storeHex : Nat → Bytes → List (Nat × Bytes)
  | _, [] => []
  | index, byte :: rest => (index * 2, encodeByteString byte ++ [0]) :: storeHex (index + 1) rest

/-- What remains of a turn when the note is a build id: the memory it reads, and
what it returns. -/
def readDescriptor (m : ByteBlock) (payloadVaddr : UInt64) (nDescsz : UInt32) :
    List (UInt64 × Nat) × BuildIdRead :=
  if nDescsz.toNat > kMaxBuildIdSize then
    ([], { error := .ok
           stored := [(0, ascii "build_id_too_large_" ++ Ftl.writeDigits 10 10 nDescsz.toNat ++ [0])] })
  else
    let reads := [(payloadVaddr, nDescsz.toNat)]
    match m.read payloadVaddr nDescsz.toNat with
    | none => (reads, { error := .io, stored := [] })
    | some buildid => (reads, { error := .ok, stored := storeHex 0 buildid })

/-- A turn of the loop over the notes of a segment: the memory it reads, and what
it does. Leaving the loop with `none` is its regular end. -/
def noteTurn (m : ByteBlock) (vaddr : UInt64) (scan : NoteScan) :
    List (UInt64 × Nat) × Turn NoteScan (Option BuildIdRead) :=
  if scan.size.toNat > Note.size then
    let reads := [(vaddr + scan.offset, Note.size)]
    match m.read (vaddr + scan.offset) Note.size with
    | none => (reads, .done (some { error := .io, stored := [] }))
    | some bytes =>
        let note := Note.decode bytes
        let payloadOffset := scan.offset + note.headerSize
        -- nothing compares the note with what is left of the segment
        let next : NoteScan :=
          { size := scan.size - note.headerSize - note.payloadSize
            offset := payloadOffset + note.payloadSize }
        if note.isGnuBuildId then
          let (more, result) := readDescriptor m (vaddr + payloadOffset) note.nDescsz
          (reads ++ more, .done (some result))
        else (reads, .next next)
  else ([], .done none)

def scanNotes (fuel : Nat) (m : ByteBlock) (vaddr : UInt64) (phdr : SegmentHeader) :
    Option (Option BuildIdRead) :=
  loop (fun scan => some (noteTurn m vaddr scan).2) fuel
    { size := phdr.pFilesz, offset := phdr.pOffset }

def scanSegments (fuel : Nat) (m : ByteBlock) (vaddr : UInt64) :
    List SegmentHeader → Option BuildIdRead
  | [] => some { error := .ok, stored := [(0, [0])] }
  | phdr :: rest =>
      if phdr.pType ≠ ptNote then scanSegments fuel m vaddr rest
      else
        match scanNotes fuel m vaddr phdr with
        | none => none
        | some (some result) => some result
        | some none => scanSegments fuel m vaddr rest

/-- `ReadBuildId`, `none` when its loops do not end within the fuel. -/
def Reader.readBuildId (fuel : Nat) (reader : Reader) : Option (BuildIdRead × Reader) :=
  match reader.readSegmentHeaders with
  | (.ok, reader) =>
      (scanSegments fuel reader.byteBlock reader.base reader.segments).map fun read =>
        (read, reader)
  | (error, reader) => some ({ error, stored := [] }, reader)

def BuildIdRead.buf (read : BuildIdRead) (buf : Bytes) : Bytes :=
  read.stored.foldl (fun buf written => copyInto buf written.1 written.2) buf

/-! ## Images in files -/

def imageBlock (contents : Bytes) : ByteBlock where
  byte address := contents.getD address.toNat 0
  readable address length := decide (address.toNat + length ≤ contents.length)

def imageReader (contents : Bytes) : Reader where
  byteBlock := imageBlock contents
  base := 0
  header := Header.decode (contents.take Header.size)

def numberBytes (width : Nat) (value : UInt64) : Bytes := (Registers.wordBytes value).take width

/-- A header that is accepted, with these tables of segments and sections. -/
def imageHeader (ePhoff eShoff ePhnum eShnum : UInt64) : Bytes :=
  Reader.elfMag ++ List.replicate 28 0 ++ numberBytes 8 ePhoff ++ numberBytes 8 eShoff ++
    numberBytes 4 0 ++ numberBytes 2 64 ++ numberBytes 2 56 ++ numberBytes 2 ePhnum ++
    numberBytes 2 64 ++ numberBytes 2 eShnum ++ numberBytes 2 0

def segmentBytes (pType : UInt32) (pOffset pFilesz : UInt64) : Bytes :=
  numberBytes 4 pType.toUInt64 ++ numberBytes 4 0 ++ numberBytes 8 pOffset ++
    numberBytes 8 0 ++ numberBytes 8 0 ++ numberBytes 8 pFilesz ++ numberBytes 8 0 ++
    numberBytes 8 0

def sectionBytes (shType : UInt32) (shOffset shSize : UInt64) (shLink : UInt32)
    (shEntsize : UInt64) : Bytes :=
  numberBytes 4 0 ++ numberBytes 4 shType.toUInt64 ++ numberBytes 8 0 ++ numberBytes 8 0 ++
    numberBytes 8 shOffset ++ numberBytes 8 shSize ++ numberBytes 4 shLink.toUInt64 ++
    numberBytes 4 0 ++ numberBytes 8 0 ++ numberBytes 8 shEntsize

end Elf

end Gdbserver
