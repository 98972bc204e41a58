import Gdbserver.Foundation.Buffer
import Gdbserver.Foundation.Ftl
import Gdbserver.Ipt.Config

/-!
# Dumping a trace buffer

`WriteBufferData` of `bin/ipt/control.cc`. What the device, the buffers' memory and
the output file answer is given for every place at which they are asked: the loops
come to each of them at most once.
-/

set_option autoImplicit false

namespace Gdbserver.Ipt

open Util

/-- `PAGE_SIZE`, and the size of the array the chunks go through. -/
def pageSize : Nat := 4096

def errIo : Int32 := -40

def errBadPath : Int32 := -50

namespace BufferConfig

/-- `(1 << buffer_order) * PAGE_SIZE`, an `int` that becomes a `size_t`. -/
def bufferSize (config : BufferConfig) : Nat :=
  (((1#32 <<< (config.bufferOrder.toNat % 32)) * BitVec.ofNat 32 pageSize).signExtend 64).toNat

/-- What the device means by the order. -/
def realSize (config : BufferConfig) : Nat := 2 ^ config.bufferOrder.toNat * pageSize

theorem realSize_pos (config : BufferConfig) : 0 < config.realSize :=
  Nat.mul_pos (Nat.two_pow_pos _) (by decide)

def NoOverflow (config : BufferConfig) : Prop := config.bufferSize = config.realSize

instance (config : BufferConfig) : Decidable config.NoOverflow :=
  inferInstanceAs (Decidable (_ = _))

end BufferConfig

/-- The world around one dump. A device call is its `ssize` and what it stores, a read
its status and the number of bytes read, a write its return value. -/
structure DumpIo where
  getBufferConfig : Int64 × BufferConfig
  getBufferInfo : Int64 × UInt64
  opened : Bool
  getBufferHandle : Nat → Int64
  vmoRead (buffer offset length : Nat) : Int32 × Nat
  write (buffer offset length : Nat) : Int64
  contents : Nat → Bytes
  contents_length : ∀ buffer, (contents buffer).length = getBufferConfig.2.realSize
  /-- What the array on the stack holds before anything is read into it. -/
  stack : Bytes
  stack_length : stack.length = pageSize

structure BufferRead where
  buffer : Nat
  offset : Nat
  length : Nat
  deriving DecidableEq, Repr

/-- The variables of the loops, the file as it has been written, and the reads. -/
structure Copy where
  status : Int32
  buf : Bytes
  bytesLeft : Nat
  file : Bytes
  reads : List BufferRead
  deriving DecidableEq, Repr

namespace DumpIo

variable (io : DumpIo)

def config : BufferConfig := io.getBufferConfig.2

/-- `bytes_left` before the loops. -/
def captureLength : Nat :=
  if io.config.isCircular then io.config.numBuffers.toNat * io.config.bufferSize % 2 ^ 64
  else io.getBufferInfo.2.toNat

/-- `vmo.read`: what has been read is at the start of the array. -/
def readChunk (buffer offset length : Nat) (copy : Copy) : Copy :=
  let answer := io.vmoRead buffer offset length
  let data := ((io.contents buffer).drop offset).take (min answer.2 length)
  { copy with
    status := answer.1
    buf := copyInto copy.buf 0 data
    reads := copy.reads ++ [⟨buffer, offset, length⟩] }

/-- `write`: the file has grown by as much as is returned. -/
def writeChunk (buffer offset length : Nat) (copy : Copy) : Copy :=
  let count := (io.write buffer offset length).toInt.toNat
  { copy with file := copy.file ++ (copy.buf.take length).take count }

/-- The inner loop; an error is the jump to `Fail`. -/
def copyBuffer (buffer bufferRemaining offset : Nat) (copy : Copy) : Except Copy Copy :=
  if bufferRemaining ≠ 0 ∧ copy.bytesLeft ≠ 0 then
    let toWrite := min (min pageSize bufferRemaining) copy.bytesLeft
    let afterRead := io.readChunk buffer offset toWrite copy
    if afterRead.status ≠ 0 then .error afterRead
    else
      let afterWrite := io.writeChunk buffer offset toWrite afterRead
      if (io.write buffer offset toWrite).toInt ≠ toWrite then
        .error { afterWrite with status := errIo }
      else
        copyBuffer buffer (bufferRemaining - toWrite) (offset + toWrite)
          { afterWrite with bytesLeft := copy.bytesLeft - toWrite }
  else .ok copy
termination_by bufferRemaining
decreasing_by
  simp only [pageSize]
  omega

/-- The outer loop, with the number of turns it has left. -/
def copyBuffers : Nat → Nat → Copy → Except Copy Copy
  | 0, _, copy => .ok copy
  | turns + 1, buffer, copy =>
      if copy.bytesLeft = 0 then .ok copy
      -- `status` is left as it is
      else if io.getBufferHandle buffer < 0 then .error copy
      else
        match io.copyBuffer buffer io.config.bufferSize 0 copy with
        | .error failed => .error failed
        | .ok copied => copyBuffers turns (buffer + 1) copied

def startCopy : Copy := ⟨0, io.stack, io.captureLength, [], []⟩

end DumpIo

/-- What a dump returns and leaves behind. There is no status when the assertion at
the end fails, and no file when it could not be opened. -/
structure Dump where
  status : Option Int32
  file : Option Bytes
  bytesLeft : Nat
  reads : List BufferRead
  deriving DecidableEq, Repr

def writeBufferData (io : DumpIo) : Dump :=
  if io.getBufferConfig.1 < 0 then ⟨some io.getBufferConfig.1.toInt32, none, 0, []⟩
  else if io.getBufferInfo.1 < 0 then ⟨some io.getBufferInfo.1.toInt32, none, 0, []⟩
  else if !io.opened then ⟨some errBadPath, none, 0, []⟩
  else
    match io.copyBuffers io.config.numBuffers.toNat 0 io.startCopy with
    | .error copy => ⟨some copy.status, some copy.file, copy.bytesLeft, copy.reads⟩
    | .ok copy =>
        ⟨if copy.bytesLeft = 0 then some 0 else none, some copy.file, copy.bytesLeft, copy.reads⟩

/-- `GetCpuPtFileName` and `GetThreadPtFileName`. -/
def ptFileName (config : IptConfig) (id : UInt64) : Bytes :=
  let namePrefix := match config.mode with
    | .cpus => ascii "cpu"
    | .threads => ascii "thr"
  config.outputPathPrefix ++ ascii "." ++ namePrefix ++ Ftl.writeDigits 10 20 id.toNat ++
    ascii ".pt"

/-! ## One chunk -/

namespace DumpIo

/-- No call fails. -/
structure Succeeds (io : DumpIo) : Prop where
  getBufferConfig : 0 ≤ io.getBufferConfig.1
  getBufferInfo : 0 ≤ io.getBufferInfo.1
  opened : io.opened = true
  getBufferHandle : ∀ buffer, 0 ≤ io.getBufferHandle buffer
  vmoRead : ∀ buffer offset length, io.vmoRead buffer offset length = (0, length)
  write : ∀ buffer offset length, length ≤ pageSize → (io.write buffer offset length).toInt = length

/-- What the buffers hold, `count` of them from `first` on. -/
def space (io : DumpIo) (first count : Nat) : Bytes :=
  (List.range' first count).flatMap io.contents

/-- A circular buffer is dumped as a whole. -/
def capturedLength (io : DumpIo) : Nat :=
  if io.config.isCircular then io.config.numBuffers.toNat * io.config.realSize
  else io.getBufferInfo.2.toNat

/-- The first bytes of all buffers, as many as have been captured. -/
def captured (io : DumpIo) : Bytes :=
  (io.space 0 io.config.numBuffers.toNat).take io.capturedLength

/-- The read has read all it was asked for. -/
def Full (io : DumpIo) (read : BufferRead) : Prop :=
  read.length ≤ (io.vmoRead read.buffer read.offset read.length).2

/-- What the read has put into the array. -/
def delivered (io : DumpIo) (read : BufferRead) : Bytes :=
  ((io.contents read.buffer).drop read.offset).take
    (min (io.vmoRead read.buffer read.offset read.length).2 read.length)

/-- The size of the buffers is computed right, or it does not matter: what has been captured
is the length to copy, and it ends inside the first buffer by either size. -/
def SizesFit (io : DumpIo) : Prop :=
  io.config.NoOverflow ∨ io.captureLength = io.capturedLength ∧
    io.capturedLength ≤ io.config.bufferSize ∧ io.capturedLength ≤ io.config.realSize

/-- How many bytes the loops have copied when they come to an offset of a buffer. -/
def place (io : DumpIo) (buffer offset : Nat) : Nat := buffer * io.config.bufferSize + offset

/-- What holds of a read made before so many bytes have been copied. -/
structure Made (io : DumpIo) (reached : Nat) (read : BufferRead) : Prop where
  buffer : read.buffer < io.config.numBuffers.toNat
  handle : 0 ≤ io.getBufferHandle read.buffer
  inside : read.offset + read.length ≤ io.config.bufferSize
  place : io.place read.buffer read.offset + read.length ≤ reached

/-- Two reads have no place in common. -/
def Apart (io : DumpIo) (first second : BufferRead) : Prop :=
  io.place first.buffer first.offset + first.length ≤ io.place second.buffer second.offset ∨
    io.place second.buffer second.offset + second.length ≤ io.place first.buffer first.offset

instance (io : DumpIo) : Std.Symm io.Apart := ⟨fun _ _ => Or.symm⟩

/-- Each byte stood on the stack or comes from one of the reads. -/
def Sourced (io : DumpIo) (reads : List BufferRead) (bytes : Bytes) : Prop :=
  ∀ byte ∈ bytes, byte ∈ io.stack ∨ ∃ read ∈ reads, byte ∈ io.delivered read

/-- The invariant of both loops. -/
structure CopiedUpTo (io : DumpIo) (buffer offset : Nat) (copy : Copy) : Prop where
  status : copy.status = 0
  buf : copy.buf.length = pageSize
  bytesLeft : copy.bytesLeft + io.place buffer offset = io.captureLength
  file_length : copy.file.length = io.place buffer offset
  made : ∀ read ∈ copy.reads, io.Made (io.place buffer offset) read
  apart : copy.reads.Pairwise io.Apart
  buf_sourced : io.Sourced copy.reads copy.buf
  file_sourced : io.Sourced copy.reads copy.file
  file : io.SizesFit → (∀ read ∈ copy.reads, io.Full read) →
    copy.file = (io.space 0 io.config.numBuffers.toNat).take (io.place buffer offset)

section

variable {io : DumpIo} {buffer remaining offset length : Nat} {copy copied failed : Copy}

theorem length_space (io : DumpIo) (first count : Nat) :
    (io.space first count).length = count * io.config.realSize := by
  induction count generalizing first with
  | zero => rw [Nat.zero_mul]; rfl
  | succ count ih =>
      rw [space, List.range'_succ, List.flatMap_cons, List.length_append, io.contents_length]
      change _ + (io.space (first + 1) count).length = _
      rw [ih, Nat.succ_mul, Nat.add_comm]
      rfl

/-- The bytes of one buffer in the space of all. -/
theorem drop_space {count : Nat} (index : buffer < count) (inside : offset ≤ io.config.realSize) :
    (io.space 0 count).drop (buffer * io.config.realSize + offset) =
      (io.contents buffer).drop offset ++ io.space (buffer + 1) (count - buffer - 1) := by
  have split : io.space 0 count = io.space 0 buffer ++
      (io.contents buffer ++ io.space (buffer + 1) (count - buffer - 1)) := by
    have joined : List.range' 0 buffer ++ List.range' (0 + buffer) (count - buffer) =
        List.range' 0 (buffer + (count - buffer)) := List.range'_append_1
    have ranges : List.range' 0 count = List.range' 0 buffer ++
        buffer :: List.range' (buffer + 1) (count - buffer - 1) := by
      rw [← List.range'_succ, Nat.sub_add_cancel (by omega)]
      rwa [Nat.zero_add, Nat.add_sub_of_le (Nat.le_of_lt index), eq_comm] at joined
    rw [space, ranges, List.flatMap_append, List.flatMap_cons]
    rfl
  have size : (io.contents buffer).length = io.config.realSize := io.contents_length buffer
  rw [split, ← io.length_space 0 buffer, List.drop_length_add_append,
    List.drop_append_of_le_length (size ▸ inside)]

theorem take_space {count : Nat} (index : buffer < count)
    (inside : offset + length ≤ io.config.realSize) :
    (io.space 0 count).take (buffer * io.config.realSize + offset + length) =
      (io.space 0 count).take (buffer * io.config.realSize + offset) ++
        ((io.contents buffer).drop offset).take length := by
  have size : (io.contents buffer).length = io.config.realSize := io.contents_length buffer
  rw [List.take_add, drop_space index (by omega), List.take_append_of_le_length]
  rw [List.length_drop, size]
  omega

/-- A buffer that is wanted stands where the device has put it. -/
theorem SizesFit.mul_eq (fit : io.SizesFit)
    (wanted : buffer * io.config.bufferSize < io.captureLength) :
    buffer * io.config.bufferSize = buffer * io.config.realSize := by
  rcases fit with same | ⟨start, computed, real⟩
  · rw [same]
  · -- past the first buffer nothing has been captured
    have first : buffer = 0 := by
      by_contra later
      have size := Nat.le_mul_of_pos_left io.config.bufferSize (Nat.pos_of_ne_zero later)
      omega
    rw [first, Nat.zero_mul, Nat.zero_mul]

/-- So does a chunk of it. -/
theorem SizesFit.place_eq (fit : io.SizesFit) (more : 0 < length)
    (inside : offset + length ≤ io.config.bufferSize)
    (wanted : io.place buffer offset + length ≤ io.captureLength) :
    io.place buffer offset = buffer * io.config.realSize + offset ∧
      offset + length ≤ io.config.realSize := by
  rw [place] at wanted ⊢
  refine ⟨by rw [fit.mul_eq (by omega)], ?_⟩
  rcases fit with same | ⟨start, computed, real⟩
  · exact same ▸ inside
  · omega

theorem length_delivered_le (io : DumpIo) (read : BufferRead) :
    (io.delivered read).length ≤ read.length :=
  Nat.le_trans (List.length_take_le _ _) (Nat.min_le_right _ _)

/-- A read that is full puts the bytes that are wanted at the start of the array. -/
theorem Full.take_copyInto {read : BufferRead} {buf : Bytes} (full : io.Full read)
    (inside : read.offset + read.length ≤ io.config.realSize) :
    (copyInto buf 0 (io.delivered read)).take read.length =
      ((io.contents read.buffer).drop read.offset).take read.length := by
  have all : io.delivered read =
      ((io.contents read.buffer).drop read.offset).take read.length := by
    rw [delivered, Nat.min_eq_right full]
  have size : (io.contents read.buffer).length = io.config.realSize := io.contents_length _
  have length : (io.delivered read).length = read.length := by
    rw [all, List.length_take, List.length_drop, size]
    omega
  rw [copyInto, List.take_zero, List.nil_append, List.take_append_of_le_length (by omega),
    List.take_of_length_le (by omega), all]

theorem Made.mono {reached further : Nat} {read : BufferRead} (made : io.Made reached read)
    (le : reached ≤ further) : io.Made further read :=
  ⟨made.buffer, made.handle, made.inside, Nat.le_trans made.place le⟩

namespace Sourced

variable {reads : List BufferRead} {bytes more : Bytes}

theorem append (first : io.Sourced reads bytes) (second : io.Sourced reads more) :
    io.Sourced reads (bytes ++ more) := by
  intro byte member
  rcases List.mem_append.mp member with left | right
  · exact first byte left
  · exact second byte right

theorem of_subset (sourced : io.Sourced reads bytes) (subset : more ⊆ bytes) :
    io.Sourced reads more :=
  fun byte member => sourced byte (subset member)

/-- One more read leaves what stood before, and what it delivers comes from it. -/
theorem read (sourced : io.Sourced reads bytes) (new : BufferRead) :
    io.Sourced (reads ++ [new]) bytes ∧ io.Sourced (reads ++ [new]) (io.delivered new) := by
  refine ⟨fun byte member => ?_, fun byte member => .inr ⟨new, by simp, member⟩⟩
  rcases sourced byte member with stack | ⟨earlier, made, delivers⟩
  · exact .inl stack
  · exact .inr ⟨earlier, List.mem_append_left _ made, delivers⟩

end Sourced

theorem readChunk_buf (io : DumpIo) (buffer offset length : Nat) (copy : Copy) :
    (io.readChunk buffer offset length copy).buf =
      copyInto copy.buf 0 (io.delivered ⟨buffer, offset, length⟩) :=
  rfl

theorem length_readChunk_buf (buf : copy.buf.length = pageSize) (room : length ≤ pageSize) :
    (io.readChunk buffer offset length copy).buf.length = pageSize := by
  have fits := io.length_delivered_le ⟨buffer, offset, length⟩
  rw [readChunk_buf, copyInto_length, buf]
  rw [Nat.zero_add, buf]
  exact Nat.le_trans fits room

theorem readChunk_sourced (sourced : io.Sourced copy.reads copy.buf) :
    io.Sourced (copy.reads ++ [⟨buffer, offset, length⟩])
      (io.readChunk buffer offset length copy).buf := by
  obtain ⟨old, delivered⟩ := sourced.read ⟨buffer, offset, length⟩
  rw [readChunk_buf, copyInto, List.take_zero, List.nil_append]
  exact delivered.append (old.of_subset (List.drop_subset _ _))

theorem writeChunk_file (whole : (io.write buffer offset length).toInt = length) (copy : Copy) :
    (io.writeChunk buffer offset length copy).file = copy.file ++ copy.buf.take length := by
  rw [writeChunk, whole, Int.toNat_natCast, List.take_take, Nat.min_self]

/-- One turn of the inner loop. -/
theorem CopiedUpTo.chunk (before : io.CopiedUpTo buffer offset copy)
    (index : buffer < io.config.numBuffers.toNat) (handle : 0 ≤ io.getBufferHandle buffer)
    (more : 0 < length) (room : length ≤ pageSize)
    (inside : offset + length ≤ io.config.bufferSize) (left : length ≤ copy.bytesLeft)
    (ok : (io.vmoRead buffer offset length).1 = 0)
    (whole : (io.write buffer offset length).toInt = length) :
    io.CopiedUpTo buffer (offset + length)
      { io.writeChunk buffer offset length (io.readChunk buffer offset length copy) with
        bytesLeft := copy.bytesLeft - length } := by
  have further : io.place buffer (offset + length) = io.place buffer offset + length :=
    (Nat.add_assoc _ _ _).symm
  have kept : (io.readChunk buffer offset length copy).buf.length = pageSize :=
    length_readChunk_buf before.buf room
  have written : (io.writeChunk buffer offset length (io.readChunk buffer offset length copy)).file =
      copy.file ++ (io.readChunk buffer offset length copy).buf.take length :=
    writeChunk_file whole _
  have newBuf : io.Sourced (copy.reads ++ [⟨buffer, offset, length⟩])
      (io.readChunk buffer offset length copy).buf := readChunk_sourced before.buf_sourced
  have bytesLeft := before.bytesLeft
  refine ⟨ok, kept, ?_, ?_, ?_, ?_, newBuf, ?_, ?_⟩
  · rw [further]
    change copy.bytesLeft - length + _ = _
    omega
  · rw [written, List.length_append, before.file_length, List.length_take, kept, further,
      Nat.min_eq_left room]
  · intro read member
    rcases List.mem_append.mp member with earlier | here
    · exact (before.made read earlier).mono (by omega)
    · rw [List.mem_singleton.mp here]
      exact ⟨index, handle, inside, Nat.le_of_eq further.symm⟩
  · -- the new read stands behind the others
    refine List.pairwise_append.mpr ⟨before.apart, List.pairwise_singleton _ _, ?_⟩
    intro read earlier new here
    rw [List.mem_singleton.mp here]
    exact .inl (before.made read earlier).place
  · rw [written]
    exact (before.file_sourced.read _).1.append (newBuf.of_subset (List.take_subset _ _))
  · intro fit full
    have wanted : io.place buffer offset + length ≤ io.captureLength := by omega
    obtain ⟨real, within⟩ := fit.place_eq more inside wanted
    have fullHere : io.Full ⟨buffer, offset, length⟩ :=
      full _ (List.mem_append_right _ (List.mem_singleton.mpr rfl))
    have old := before.file fit fun read member => full read (List.mem_append_left _ member)
    rw [written, readChunk_buf, fullHere.take_copyInto within, old, further, real,
      take_space index within]

end

/-! ## The loops -/

section

variable {io : DumpIo} {turns buffer remaining offset : Nat} {copy copied failed : Copy}

theorem copyBuffer_error (ended : io.copyBuffer buffer remaining offset copy = .error failed) :
    failed.status ≠ 0 := by
  fun_induction copyBuffer io buffer remaining offset copy with
  | case1 remaining offset copy more toWrite afterRead bad =>
      rw [← Except.error.inj ended]
      exact bad
  | case2 remaining offset copy more toWrite afterRead ok afterWrite short =>
      rw [← Except.error.inj ended]
      exact (by decide : errIo ≠ 0)
  | case3 remaining offset copy more toWrite afterRead ok afterWrite whole ih => exact ih ended
  | case4 remaining offset copy done => cases ended

theorem copyBuffer_ok (index : buffer < io.config.numBuffers.toNat)
    (handle : 0 ≤ io.getBufferHandle buffer) (rest : offset + remaining = io.config.bufferSize)
    (before : io.CopiedUpTo buffer offset copy)
    (ended : io.copyBuffer buffer remaining offset copy = .ok copied) :
    ∃ reached, io.CopiedUpTo buffer reached copied ∧
      (copied.bytesLeft = 0 ∨ reached = io.config.bufferSize) := by
  fun_induction copyBuffer io buffer remaining offset copy with
  | case1 remaining offset copy more toWrite afterRead bad => cases ended
  | case2 remaining offset copy more toWrite afterRead ok afterWrite short => cases ended
  | case3 remaining offset copy more toWrite afterRead ok afterWrite whole ih =>
      have chunk : 0 < toWrite ∧ toWrite ≤ pageSize ∧ toWrite ≤ remaining ∧
          toWrite ≤ copy.bytesLeft := by
        simp only [toWrite, pageSize]
        omega
      obtain ⟨positive, room, inside, left⟩ := chunk
      exact ih (by omega) (before.chunk index handle positive room (by omega) left
        (Decidable.not_not.mp ok) (Decidable.not_not.mp whole)) ended
  | case4 remaining offset copy done =>
      cases ended
      exact ⟨offset, before, by omega⟩

/-- The buffer has been copied to its end. -/
theorem CopiedUpTo.next (before : io.CopiedUpTo buffer io.config.bufferSize copy) :
    io.CopiedUpTo (buffer + 1) 0 copy := by
  have same : io.place (buffer + 1) 0 = io.place buffer io.config.bufferSize := Nat.succ_mul _ _
  exact ⟨before.status, before.buf, same ▸ before.bytesLeft, same ▸ before.file_length,
    same ▸ before.made, before.apart, before.buf_sourced, before.file_sourced,
    same ▸ before.file⟩

theorem copyBuffers_of_done (zero : copy.bytesLeft = 0) :
    io.copyBuffers turns buffer copy = .ok copy := by
  cases turns with
  | zero => rfl
  | succ turns => rw [copyBuffers, if_pos zero]

/-- How the loops end: without an error status they are left only for a handle that is
refused. -/
def Ended (io : DumpIo) : Except Copy Copy → Prop
  | .ok copied => ∃ last reached, io.CopiedUpTo last reached copied ∧
      (copied.bytesLeft = 0 ∨ last = io.config.numBuffers.toNat)
  | .error failed => failed.status = 0 → ∃ refused < io.config.numBuffers.toNat,
      io.CopiedUpTo refused 0 failed ∧ failed.bytesLeft ≠ 0 ∧ io.getBufferHandle refused < 0

theorem copyBuffers_ended (all : buffer + turns = io.config.numBuffers.toNat)
    (before : io.CopiedUpTo buffer 0 copy) : io.Ended (io.copyBuffers turns buffer copy) := by
  induction turns generalizing buffer copy with
  | zero => exact ⟨buffer, 0, before, .inr all⟩
  | succ turns ih =>
      by_cases zero : copy.bytesLeft = 0
      · rw [copyBuffers_of_done zero]
        exact ⟨buffer, 0, before, .inl zero⟩
      by_cases refused : io.getBufferHandle buffer < 0
      · rw [copyBuffers, if_neg zero, if_pos refused]
        exact fun _ => ⟨buffer, by omega, before, zero, refused⟩
      rw [copyBuffers, if_neg zero, if_neg refused]
      cases inner : io.copyBuffer buffer io.config.bufferSize 0 copy with
      | error failed => exact fun silent => absurd silent (copyBuffer_error inner)
      | ok one =>
          obtain ⟨reached, upTo, done⟩ := copyBuffer_ok (by omega) (Int64.not_lt.mp refused)
            (Nat.zero_add _) before inner
          rcases done with none | rfl
          · change io.Ended (io.copyBuffers turns (buffer + 1) one)
            rw [copyBuffers_of_done none]
            exact ⟨buffer, reached, upTo, .inl none⟩
          · exact ih (by omega) upTo.next

theorem startCopy_upTo (io : DumpIo) : io.CopiedUpTo 0 0 io.startCopy where
  status := rfl
  buf := io.stack_length
  bytesLeft := by rw [place, Nat.zero_mul]; rfl
  file_length := by rw [place, Nat.zero_mul]; rfl
  made _ member := by cases member
  apart := .nil
  buf_sourced _ member := .inl member
  file_sourced _ member := by cases member
  file _ _ := by rw [place, Nat.zero_mul, List.take_zero]; rfl

theorem copyBuffer_succeeds (succeeds : io.Succeeds) :
    ∃ copied, io.copyBuffer buffer remaining offset copy = .ok copied := by
  cases ended : io.copyBuffer buffer remaining offset copy with
  | ok copied => exact ⟨copied, rfl⟩
  | error failed =>
      exfalso
      fun_induction copyBuffer io buffer remaining offset copy with
      | case1 remaining offset copy more toWrite afterRead bad =>
          apply bad
          change (io.vmoRead buffer offset toWrite).1 = 0
          rw [succeeds.vmoRead]
      | case2 remaining offset copy more toWrite afterRead ok afterWrite short =>
          have chunk : toWrite ≤ pageSize := by
            simp only [toWrite]
            omega
          exact short (succeeds.write buffer offset toWrite chunk)
      | case3 remaining offset copy more toWrite afterRead ok afterWrite whole ih => exact ih ended
      | case4 remaining offset copy done => cases ended

theorem copyBuffers_succeeds (succeeds : io.Succeeds) :
    ∃ copied, io.copyBuffers turns buffer copy = .ok copied := by
  induction turns generalizing buffer copy with
  | zero => exact ⟨copy, rfl⟩
  | succ turns ih =>
      rw [copyBuffers]
      split
      · exact ⟨copy, rfl⟩
      · obtain ⟨reached, inner⟩ : ∃ reached,
            io.copyBuffer buffer io.config.bufferSize 0 copy = .ok reached :=
          copyBuffer_succeeds succeeds
        rw [if_neg (Int64.not_lt.mpr (succeeds.getBufferHandle buffer)), inner]
        exact ih

end

end DumpIo

/-! ## The dump -/

/-- The size is an `int`, so it is right for buffers of less than 2 GiB. -/
theorem BufferConfig.noOverflow_iff (config : BufferConfig) :
    config.NoOverflow ↔ config.bufferOrder.toNat < 19 := by
  rw [NoOverflow, bufferSize, realSize]
  generalize config.bufferOrder.toNat = order
  have every : ∀ order : Fin 52,
      (((1#32 <<< (order.val % 32)) * BitVec.ofNat 32 pageSize).signExtend 64).toNat =
        2 ^ order.val * pageSize ↔ order.val < 19 := by
    decide +kernel
  by_cases small : order < 52
  · exact every ⟨order, small⟩
  · have large : 2 ^ 52 * pageSize ≤ 2 ^ order * pageSize :=
      Nat.mul_le_mul_right _ (Nat.pow_le_pow_right (by decide) (by omega))
    have bound := (((1#32 <<< (order % 32)) * BitVec.ofNat 32 pageSize).signExtend 64).isLt
    have top : 2 ^ 52 * pageSize = 2 ^ 64 := by decide
    constructor
    · intro same
      omega
    · intro _
      omega

namespace DumpIo

variable {io : DumpIo}

theorem captureLength_eq (fits : io.config.NoOverflow) : io.captureLength = io.capturedLength := by
  rw [captureLength, capturedLength, fits]
  split
  · have order := (BufferConfig.noOverflow_iff io.config).mp fits
    have size : io.config.realSize ≤ 2 ^ 18 * pageSize :=
      Nat.mul_le_mul_right _ (Nat.pow_le_pow_right (by decide) (by omega))
    have count : io.config.numBuffers.toNat < 2 ^ 32 := io.config.numBuffers.toNat_lt
    apply Nat.mod_eq_of_lt
    calc io.config.numBuffers.toNat * io.config.realSize
        ≤ 2 ^ 32 * (2 ^ 18 * pageSize) := Nat.mul_le_mul (Nat.le_of_lt count) size
      _ < 2 ^ 64 := by decide
  · rfl

end DumpIo

section

variable {io : DumpIo} {copied failed : Copy}

theorem writeBufferData_of_ok (configured : 0 ≤ io.getBufferConfig.1)
    (informed : 0 ≤ io.getBufferInfo.1) (opened : io.opened = true)
    (ended : io.copyBuffers io.config.numBuffers.toNat 0 io.startCopy = .ok copied) :
    writeBufferData io = ⟨if copied.bytesLeft = 0 then some 0 else none, some copied.file,
      copied.bytesLeft, copied.reads⟩ := by
  rw [writeBufferData, if_neg (Int64.not_lt.mpr configured), if_neg (Int64.not_lt.mpr informed),
    opened, ended]
  rfl

theorem writeBufferData_of_error (configured : 0 ≤ io.getBufferConfig.1)
    (informed : 0 ≤ io.getBufferInfo.1) (opened : io.opened = true)
    (ended : io.copyBuffers io.config.numBuffers.toNat 0 io.startCopy = .error failed) :
    writeBufferData io = ⟨some failed.status, some failed.file, failed.bytesLeft,
      failed.reads⟩ := by
  rw [writeBufferData, if_neg (Int64.not_lt.mpr configured), if_neg (Int64.not_lt.mpr informed),
    opened, ended]
  rfl

/-- A file that cannot be opened is reported. -/
theorem opened_of_status (configured : 0 ≤ io.getBufferConfig.1)
    (informed : 0 ≤ io.getBufferInfo.1) (reported : (writeBufferData io).status = some 0) :
    io.opened = true := by
  cases opened : io.opened with
  | true => rfl
  | false =>
      rw [writeBufferData, if_neg (Int64.not_lt.mpr configured),
        if_neg (Int64.not_lt.mpr informed), opened, Bool.not_false, if_pos rfl] at reported
      exact absurd (Option.some.inj reported) (by decide)

/-- Nothing is opened before both queries have succeeded. -/
theorem queried_of_file {file : Bytes} (written : (writeBufferData io).file = some file) :
    0 ≤ io.getBufferConfig.1 ∧ 0 ≤ io.getBufferInfo.1 := by
  rw [writeBufferData] at written
  split at written
  · cases written
  · rename_i configured
    split at written
    · cases written
    · rename_i informed
      exact ⟨Int64.not_lt.mp configured, Int64.not_lt.mp informed⟩

end

namespace DumpIo

/-- What a dump that is reported as successful has done: all there is to copy, or what
stood before a buffer whose handle is refused. -/
structure Reported (io : DumpIo) (copy : Copy) (last reached : Nat) : Prop where
  file : (writeBufferData io).file = some copy.file
  reads : (writeBufferData io).reads = copy.reads
  copied : io.CopiedUpTo last reached copy
  ended : copy.bytesLeft = 0 ∨ copy.bytesLeft ≠ 0 ∧ last < io.config.numBuffers.toNat ∧
    reached = 0 ∧ io.getBufferHandle last < 0

theorem exists_reported {io : DumpIo} (configured : 0 ≤ io.getBufferConfig.1)
    (informed : 0 ≤ io.getBufferInfo.1) (reported : (writeBufferData io).status = some 0) :
    ∃ copy last reached, Reported io copy last reached := by
  have opened := opened_of_status configured informed reported
  have loops := DumpIo.copyBuffers_ended (Nat.zero_add _) io.startCopy_upTo
  cases ended : io.copyBuffers io.config.numBuffers.toNat 0 io.startCopy with
  | ok copied =>
      rw [ended] at loops
      obtain ⟨last, reached, upTo, -⟩ := loops
      have dump := writeBufferData_of_ok configured informed opened ended
      have none : copied.bytesLeft = 0 := by
        by_contra some
        rw [dump, if_neg some] at reported
        cases reported
      exact ⟨copied, last, reached, by rw [dump], by rw [dump], upTo, .inl none⟩
  | error failed =>
      rw [ended] at loops
      have dump := writeBufferData_of_error configured informed opened ended
      rw [dump] at reported
      obtain ⟨refused, index, upTo, left, handle⟩ := loops (Option.some.inj reported)
      exact ⟨failed, refused, 0, by rw [dump], by rw [dump], upTo, .inr ⟨left, index, rfl, handle⟩⟩

/-- When no buffer that is needed is refused, the sizes fit and all has been read, the file
is complete. -/
theorem captured_of_fit {io : DumpIo} (configured : 0 ≤ io.getBufferConfig.1)
    (informed : 0 ≤ io.getBufferInfo.1) (reported : (writeBufferData io).status = some 0)
    (handles : ∀ buffer < io.config.numBuffers.toNat,
      buffer * io.config.realSize < io.capturedLength → 0 ≤ io.getBufferHandle buffer)
    (fit : io.SizesFit) (full : ∀ read ∈ (writeBufferData io).reads, io.Full read) :
    (writeBufferData io).file = some io.captured := by
  obtain ⟨copy, last, reached, dump⟩ := exists_reported configured informed reported
  have same : io.captureLength = io.capturedLength := fit.elim captureLength_eq And.left
  have left := dump.copied.bytesLeft
  rcases dump.ended with none | ⟨more, index, rfl, refused⟩
  · rw [none, Nat.zero_add, same] at left
    rw [dump.file, dump.copied.file fit (dump.reads ▸ full), left, captured]
  · -- the buffer whose handle is refused is needed
    rw [place, Nat.add_zero] at left
    have row := fit.mul_eq (by omega : last * io.config.bufferSize < io.captureLength)
    exact absurd (handles last index (by omega)) (Int64.not_le.mpr refused)

theorem Succeeds.full {io : DumpIo} (succeeds : io.Succeeds) (read : BufferRead) :
    io.Full read := by
  rw [Full, succeeds.vmoRead]

theorem Succeeds.reported {io : DumpIo} (succeeds : io.Succeeds) (fits : io.config.NoOverflow)
    (within : io.capturedLength ≤ io.config.numBuffers.toNat * io.config.realSize) :
    (writeBufferData io).status = some 0 ∧ (writeBufferData io).bytesLeft = 0 := by
  have loops := copyBuffers_ended (Nat.zero_add _) io.startCopy_upTo
  obtain ⟨copied, ended⟩ : ∃ copied,
      io.copyBuffers io.config.numBuffers.toNat 0 io.startCopy = .ok copied :=
    copyBuffers_succeeds succeeds
  rw [ended] at loops
  obtain ⟨last, reached, upTo, done⟩ := loops
  have left : copied.bytesLeft = 0 := by
    rcases done with none | rfl
    · exact none
    · have total := upTo.bytesLeft
      rw [captureLength_eq fits, place, fits] at total
      omega
  rw [writeBufferData_of_ok succeeds.getBufferConfig succeeds.getBufferInfo succeeds.opened ended,
    if_pos left]
  exact ⟨rfl, left⟩

end DumpIo

/-- When nothing fails, the loops copy the captured bytes and leave none. -/
theorem writeBufferData_copies (io : DumpIo) (fits : io.config.NoOverflow)
    (within : io.capturedLength ≤ io.config.numBuffers.toNat * io.config.realSize)
    (succeeds : io.Succeeds) :
    (writeBufferData io).status = some 0 ∧ (writeBufferData io).file = some io.captured ∧
      (writeBufferData io).bytesLeft = 0 ∧
      ∀ read ∈ (writeBufferData io).reads, read.buffer < io.config.numBuffers.toNat ∧
        read.offset + read.length ≤ io.config.realSize := by
  obtain ⟨reported, left⟩ := succeeds.reported fits within
  have complete := DumpIo.captured_of_fit succeeds.getBufferConfig succeeds.getBufferInfo reported
    (fun buffer _ _ => succeeds.getBufferHandle buffer) (.inl fits) fun read _ => succeeds.full read
  obtain ⟨copy, last, reached, dump⟩ :=
    DumpIo.exists_reported succeeds.getBufferConfig succeeds.getBufferInfo reported
  refine ⟨reported, complete, left, ?_⟩
  intro read member
  have made := dump.copied.made read (dump.reads ▸ member)
  exact ⟨made.buffer, fits ▸ made.inside⟩

def clearStack : Bytes := List.replicate pageSize 0

theorem clearStack_length : clearStack.length = pageSize := List.length_replicate

/-- Two buffers of a page, sevens in the first one and eights in the second. The capture
ends behind the first byte of the second. -/
def sampleIo : DumpIo where
  getBufferConfig := (0, ⟨2, 0, false, 0, 0, fun _ => (0, 0)⟩)
  getBufferInfo := (0, 4097)
  opened := true
  getBufferHandle _ := 0
  vmoRead _ _ length := (0, length)
  write _ _ length := Int64.ofNat length
  contents buffer := List.replicate pageSize (7 + UInt8.ofNat buffer)
  contents_length _ := List.length_replicate
  stack := clearStack
  stack_length := clearStack_length

theorem sampleIo_succeeds : sampleIo.Succeeds where
  getBufferConfig := by decide
  getBufferInfo := by decide
  opened := rfl
  getBufferHandle _ := Int64.le_refl 0
  vmoRead _ _ _ := rfl
  write _ _ length chunk :=
    Int64.toInt_ofNat_of_lt (Nat.lt_of_le_of_lt chunk (by decide))

theorem sampleIo_captured : sampleIo.captured = List.replicate pageSize 7 ++ [8] := by
  have space : sampleIo.space 0 2 =
      List.replicate pageSize 7 ++ (List.replicate pageSize 8 ++ []) := rfl
  change (sampleIo.space 0 2).take (pageSize + 1) = _
  rw [space, List.append_nil, List.take_append, List.length_replicate, Nat.add_sub_cancel_left,
    List.take_of_length_le (by rw [List.length_replicate]; exact Nat.le_succ _)]
  rfl

theorem writeBufferData_sampleIo :
    (writeBufferData sampleIo).status = some 0 ∧
      (writeBufferData sampleIo).file = some (List.replicate pageSize 7 ++ [8]) := by
  obtain ⟨status, file, -⟩ :=
    writeBufferData_copies sampleIo (by decide) (by decide) sampleIo_succeeds
  exact ⟨status, sampleIo_captured ▸ file⟩

end Gdbserver.Ipt
