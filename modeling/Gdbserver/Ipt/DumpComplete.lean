import Gdbserver.Ipt.BufferDump

/-!
# Complete dumps

When a dump that is reported as successful has all bytes that were captured. What a dump
reports and reads does not depend on the bytes, so a byte that is set alone shows whether
it is fetched.
-/

set_option autoImplicit false

namespace Gdbserver.Ipt

/-! ## What does not depend on the bytes -/

namespace DumpIo

/-- Every call is answered alike; the buffers and the stack may hold other bytes. -/
structure Alike (io other : DumpIo) : Prop where
  getBufferConfig : other.getBufferConfig = io.getBufferConfig
  getBufferInfo : other.getBufferInfo = io.getBufferInfo
  opened : other.opened = io.opened
  getBufferHandle : other.getBufferHandle = io.getBufferHandle
  vmoRead : other.vmoRead = io.vmoRead
  write : other.write = io.write

/-- Two runs that have made the same reads and have the same bytes left. -/
structure SameFlow (copy other : Copy) : Prop where
  status : other.status = copy.status
  bytesLeft : other.bytesLeft = copy.bytesLeft
  reads : other.reads = copy.reads

inductive SameEnd : Except Copy Copy → Except Copy Copy → Prop
  | ok {copy other : Copy} : SameFlow copy other → SameEnd (.ok copy) (.ok other)
  | error {copy other : Copy} : SameFlow copy other → SameEnd (.error copy) (.error other)

namespace Alike

variable {io other : DumpIo} {turns buffer remaining offset : Nat} {copy copy' : Copy}

theorem refl (io : DumpIo) : io.Alike io := ⟨rfl, rfl, rfl, rfl, rfl, rfl⟩

theorem config (alike : io.Alike other) : other.config = io.config := by
  rw [DumpIo.config, alike.getBufferConfig, DumpIo.config]

theorem captureLength (alike : io.Alike other) : other.captureLength = io.captureLength := by
  rw [DumpIo.captureLength, alike.config, alike.getBufferInfo, DumpIo.captureLength]

theorem capturedLength (alike : io.Alike other) : other.capturedLength = io.capturedLength := by
  rw [DumpIo.capturedLength, alike.config, alike.getBufferInfo, DumpIo.capturedLength]

theorem readChunk (alike : io.Alike other) (same : SameFlow copy copy')
    (buffer offset length : Nat) :
    SameFlow (io.readChunk buffer offset length copy)
      (other.readChunk buffer offset length copy') where
  status := by rw [DumpIo.readChunk, alike.vmoRead]; rfl
  bytesLeft := same.bytesLeft
  reads := by rw [DumpIo.readChunk, same.reads]; rfl

theorem copyBuffer (alike : io.Alike other) (same : SameFlow copy copy') :
    SameEnd (io.copyBuffer buffer remaining offset copy)
      (other.copyBuffer buffer remaining offset copy') := by
  fun_induction DumpIo.copyBuffer io buffer remaining offset copy generalizing copy'
  case case1 remaining offset copy more toWrite afterRead bad =>
      have read := alike.readChunk same buffer offset toWrite
      rw [DumpIo.copyBuffer.eq_def other, same.bytesLeft, if_pos more]
      simp only
      rw [if_pos (read.status ▸ bad)]
      exact .error read
  case case2 remaining offset copy more toWrite afterRead ok afterWrite short =>
      have read := alike.readChunk same buffer offset toWrite
      rw [DumpIo.copyBuffer.eq_def other, same.bytesLeft, if_pos more]
      simp only
      rw [if_neg (read.status ▸ ok), alike.write, if_pos short]
      exact .error ⟨rfl, read.bytesLeft, read.reads⟩
  case case3 remaining offset copy more toWrite afterRead ok afterWrite whole ih =>
      have read := alike.readChunk same buffer offset toWrite
      rw [DumpIo.copyBuffer.eq_def other, same.bytesLeft, if_pos more]
      simp only
      rw [if_neg (read.status ▸ ok), alike.write, if_neg whole]
      exact ih ⟨read.status, rfl, read.reads⟩
  case case4 remaining offset copy done =>
      rw [DumpIo.copyBuffer.eq_def other, same.bytesLeft, if_neg done]
      exact .ok same

theorem copyBuffers (alike : io.Alike other) (same : SameFlow copy copy') :
    SameEnd (io.copyBuffers turns buffer copy) (other.copyBuffers turns buffer copy') := by
  induction turns generalizing buffer copy copy' with
  | zero => exact .ok same
  | succ turns ih =>
      rw [DumpIo.copyBuffers, DumpIo.copyBuffers, same.bytesLeft, alike.getBufferHandle,
        alike.config]
      split
      · exact .ok same
      · split
        · exact .error same
        · have one : SameEnd (io.copyBuffer buffer io.config.bufferSize 0 copy)
              (other.copyBuffer buffer io.config.bufferSize 0 copy') := alike.copyBuffer same
          generalize io.copyBuffer buffer io.config.bufferSize 0 copy = first at one ⊢
          generalize other.copyBuffer buffer io.config.bufferSize 0 copy' = second at one ⊢
          cases one with
          | ok flow => exact ih flow
          | error flow => exact .error flow

end Alike

end DumpIo

/-- What is reported, and what has been read for it, does not depend on the bytes. -/
theorem DumpIo.Alike.writeBufferData {io other : DumpIo} (alike : io.Alike other) :
    (writeBufferData other).status = (writeBufferData io).status ∧
      (writeBufferData other).reads = (writeBufferData io).reads := by
  have flow : SameFlow io.startCopy other.startCopy := ⟨rfl, alike.captureLength, rfl⟩
  have loops : SameEnd (io.copyBuffers io.config.numBuffers.toNat 0 io.startCopy)
      (other.copyBuffers io.config.numBuffers.toNat 0 other.startCopy) := alike.copyBuffers flow
  rw [Ipt.writeBufferData, Ipt.writeBufferData, alike.getBufferConfig, alike.getBufferInfo,
    alike.opened, alike.config]
  split
  · exact ⟨rfl, rfl⟩
  · split
    · exact ⟨rfl, rfl⟩
    · split
      · exact ⟨rfl, rfl⟩
      · generalize io.copyBuffers io.config.numBuffers.toNat 0 io.startCopy = first at loops ⊢
        generalize other.copyBuffers io.config.numBuffers.toNat 0 other.startCopy = second
          at loops ⊢
        cases loops with
        | ok same => exact ⟨by simp only [same.bytesLeft], same.reads⟩
        | error same => exact ⟨congrArg some same.status, same.reads⟩

/-! ## What has to be fetched -/

namespace DumpIo

section

variable {io : DumpIo} {buffer offset : Nat}

/-- One byte of the buffers is set, all others and the stack are clear. -/
def marked (io : DumpIo) (buffer offset : Nat) : DumpIo where
  __ := io
  contents buffer' := (List.range io.config.realSize).map fun offset' =>
    if buffer' = buffer ∧ offset' = offset then 1 else 0
  contents_length _ := by rw [List.length_map, List.length_range]; rfl
  stack := clearStack
  stack_length := clearStack_length

theorem alike_marked (io : DumpIo) (buffer offset : Nat) : io.Alike (io.marked buffer offset) :=
  ⟨rfl, rfl, rfl, rfl, rfl, rfl⟩

/-- The position is one of those whose bytes have been captured. -/
structure Position (io : DumpIo) (buffer offset : Nat) : Prop where
  index : buffer < io.config.numBuffers.toNat
  inside : offset < io.config.realSize
  captured : buffer * io.config.realSize + offset < io.capturedLength

theorem mark_captured (position : io.Position buffer offset) :
    1 ∈ (io.marked buffer offset).captured := by
  have here : 1 ∈ (((io.marked buffer offset).contents buffer).drop offset).take 1 := by
    have first : ((io.marked buffer offset).contents buffer).drop offset =
        1 :: ((io.marked buffer offset).contents buffer).drop (offset + 1) := by
      rw [List.drop_eq_getElem_cons]
      · simp [marked]
      · rw [DumpIo.contents_length]
        exact position.inside
    rw [first]
    exact List.mem_cons_self
  have short : (io.marked buffer offset).captured =
      ((io.marked buffer offset).space 0 io.config.numBuffers.toNat).take io.capturedLength := rfl
  have upTo : 1 ∈ ((io.marked buffer offset).space 0 io.config.numBuffers.toNat).take
      (buffer * (io.marked buffer offset).config.realSize + offset + 1) := by
    rw [take_space position.index (Nat.succ_le_of_lt position.inside)]
    exact List.mem_append_right _ here
  rw [short]
  exact List.take_subset_take_left _ (Nat.succ_le_of_lt position.captured) upTo

theorem exists_last (io : DumpIo)
    (within : io.capturedLength ≤ io.config.numBuffers.toNat * io.config.realSize)
    (some : io.capturedLength ≠ 0) :
    ∃ buffer offset, io.Position buffer offset ∧
      buffer * io.config.realSize + offset + 1 = io.capturedLength := by
  have split := Nat.div_add_mod' (io.capturedLength - 1) io.config.realSize
  refine ⟨(io.capturedLength - 1) / io.config.realSize, (io.capturedLength - 1) % io.config.realSize,
    ⟨?_, Nat.mod_lt _ io.config.realSize_pos, by omega⟩, by omega⟩
  rw [Nat.div_lt_iff_lt_mul io.config.realSize_pos]
  omega

/-- The read has put the byte at the position into the array. -/
structure Fetches (io : DumpIo) (read : BufferRead) (buffer offset : Nat) : Prop where
  index : read.buffer = buffer
  start : read.offset ≤ offset
  stop : offset < read.offset + min (io.vmoRead read.buffer read.offset read.length).2 read.length

theorem fetches_of_mark {read : BufferRead}
    (mark : 1 ∈ (io.marked buffer offset).delivered read) : io.Fetches read buffer offset := by
  simp only [delivered, marked, ← List.map_drop, ← List.map_take, List.mem_map] at mark
  obtain ⟨offset', member, set⟩ := mark
  have same : read.buffer = buffer ∧ offset' = offset := by
    by_contra other
    rw [if_neg other] at set
    exact absurd set (by decide)
  obtain ⟨index, rfl⟩ := same
  obtain ⟨i, bound, rfl⟩ := List.mem_iff_getElem.mp member
  rw [List.length_take] at bound
  rw [List.getElem_take, List.getElem_drop, List.getElem_range]
  exact ⟨index, Nat.le_add_right _ _, by omega⟩

end

/-- A dump is complete whatever bytes there are. -/
def Complete (io : DumpIo) : Prop :=
  ∀ other, io.Alike other → (writeBufferData other).file = some other.captured

/-- The loops come to a byte that they fetch where the computed size puts it. -/
theorem Made.place_lt {io : DumpIo} {read : BufferRead} {buffer offset reached : Nat}
    (made : io.Made reached read) (fetched : io.Fetches read buffer offset) :
    offset < io.config.bufferSize ∧ io.place buffer offset < reached := by
  have inside := made.inside
  have place := made.place
  have stop := fetched.stop
  rw [DumpIo.place, fetched.index] at place
  rw [DumpIo.place]
  exact ⟨by omega, by omega⟩

namespace Complete

variable {io : DumpIo} {copy : Copy} {last reached buffer offset : Nat}
variable (complete : io.Complete) (reported : (writeBufferData io).status = some 0)
  (dump : io.Reported copy last reached)

include complete reported dump

/-- A byte that has been captured is in the file only if it has been fetched. -/
theorem fetches (position : io.Position buffer offset) :
    ∃ read ∈ copy.reads, io.Made io.captureLength read ∧ io.Fetches read buffer offset := by
  have alike := io.alike_marked buffer offset
  obtain ⟨status, reads⟩ := alike.writeBufferData
  have whole := complete _ alike
  obtain ⟨configured, informed⟩ := queried_of_file whole
  obtain ⟨markedCopy, _, _, markedDump⟩ :=
    exists_reported configured informed (status.trans reported)
  have file : markedCopy.file = (io.marked buffer offset).captured :=
    Option.some.inj (markedDump.file.symm.trans whole)
  have sameReads : markedCopy.reads = copy.reads := by
    rw [← markedDump.reads, reads, dump.reads]
  rcases markedDump.copied.file_sourced 1 (file ▸ mark_captured position) with
    stack | ⟨read, made, mark⟩
  · exact absurd (List.eq_of_mem_replicate stack) (by decide)
  · rw [sameReads] at made
    have left := dump.copied.bytesLeft
    exact ⟨read, made, (dump.copied.made read made).mono (by omega), fetches_of_mark mark⟩

theorem handle (index : buffer < io.config.numBuffers.toNat)
    (needed : buffer * io.config.realSize < io.capturedLength) :
    0 ≤ io.getBufferHandle buffer := by
  obtain ⟨read, -, made, fetched⟩ :=
    complete.fetches reported dump ⟨index, io.config.realSize_pos, needed⟩
  exact fetched.index ▸ made.handle

variable (within : io.capturedLength ≤ io.config.numBuffers.toNat * io.config.realSize)

include within

/-- The length to copy is right. -/
theorem captureLength_eq : io.captureLength = io.capturedLength := by
  have file : copy.file = io.captured :=
    Option.some.inj (dump.file.symm.trans (complete io (.refl io)))
  have length : copy.file.length = io.capturedLength := by
    rw [file, captured, List.length_take, io.length_space, Nat.min_eq_left within]
  have written := dump.copied.file_length
  have left := dump.copied.bytesLeft
  rcases dump.ended with none | ⟨more, index, rfl, refused⟩
  · omega
  · -- the buffer whose handle is refused has not been needed
    have unneeded : io.capturedLength ≤ last * io.config.realSize := by
      by_contra needed
      exact Int64.not_le.mpr refused (complete.handle reported dump index (by omega))
    have fewer : last * io.config.realSize < io.config.numBuffers.toNat * io.config.realSize :=
      Nat.mul_lt_mul_of_pos_right index io.config.realSize_pos
    cases circular : io.config.isCircular with
    | false => rw [captureLength, capturedLength, circular]; rfl
    | true =>
        have whole : io.capturedLength = io.config.numBuffers.toNat * io.config.realSize :=
          if_pos circular
        omega

theorem sizesFit : io.SizesFit := by
  have same := complete.captureLength_eq reported dump within
  by_cases nothing : io.capturedLength = 0
  · exact .inr ⟨same, by omega, by omega⟩
  -- the last byte that has been captured
  obtain ⟨buffer, offset, position, isLast⟩ := io.exists_last within nothing
  obtain ⟨read, -, made, fetched⟩ := complete.fetches reported dump position
  obtain ⟨computed, below⟩ := made.place_lt fetched
  have real := position.inside
  rw [place] at below
  cases buffer with
  | zero => exact .inr ⟨same, by omega, by omega⟩
  | succ before =>
      -- the first buffer is needed to its end
      have positive := io.config.realSize_pos
      have first : io.Position 0 (io.config.realSize - 1) := by
        refine ⟨Nat.zero_lt_of_lt position.index, by omega, ?_⟩
        rw [Nat.succ_mul] at isLast
        omega
      obtain ⟨other, -, madeFirst, fetchedFirst⟩ := complete.fetches reported dump first
      have end_lt := (madeFirst.place_lt fetchedFirst).1
      have rows : (before + 1) * io.config.bufferSize ≤ (before + 1) * io.config.realSize := by
        omega
      have less := Nat.le_of_mul_le_mul_left rows (Nat.succ_pos before)
      exact .inl (Nat.le_antisymm less (by omega))

theorem full {read : BufferRead} (member : read ∈ copy.reads) : io.Full read := by
  by_contra short
  rw [Full, Nat.not_le] at short
  have same := complete.captureLength_eq reported dump within
  have left := dump.copied.bytesLeft
  have made := (dump.copied.made read member).mono (by omega : _ ≤ io.captureLength)
  have wanted := made.place
  obtain ⟨real, inside⟩ := (complete.sizesFit reported dump within).place_eq (by omega)
    made.inside wanted
  -- the first byte that has not been read
  have missing : io.Position read.buffer
      (read.offset + (io.vmoRead read.buffer read.offset read.length).2) :=
    ⟨made.buffer, by omega, by omega⟩
  obtain ⟨other, isOther, -, fetched⟩ := complete.fetches reported dump missing
  have start := fetched.start
  have stop := fetched.stop
  by_cases itself : read = other
  · rw [← itself] at stop
    omega
  · have apart : io.Apart read other := dump.copied.apart.forall member isOther itself
    rw [Apart, place, place, fetched.index] at apart
    omega

end Complete

end DumpIo

/-- A dump that is reported as successful is complete, whatever bytes the buffers hold,
exactly when no device call has failed, the computed size does no harm and every read that
has been made has read all it was asked for. -/
theorem writeBufferData_complete_iff (io : DumpIo)
    (within : io.capturedLength ≤ io.config.numBuffers.toNat * io.config.realSize)
    (reported : (writeBufferData io).status = some 0) :
    io.Complete ↔
      0 ≤ io.getBufferConfig.1 ∧ 0 ≤ io.getBufferInfo.1 ∧
        (∀ buffer < io.config.numBuffers.toNat,
          buffer * io.config.realSize < io.capturedLength → 0 ≤ io.getBufferHandle buffer) ∧
        io.SizesFit ∧ ∀ read ∈ (writeBufferData io).reads, io.Full read := by
  constructor
  · intro complete
    obtain ⟨configured, informed⟩ := queried_of_file (complete io (.refl io))
    obtain ⟨copy, last, reached, dump⟩ := DumpIo.exists_reported configured informed reported
    refine ⟨configured, informed, ?_, complete.sizesFit reported dump within, ?_⟩
    · intro buffer index needed
      exact complete.handle reported dump index needed
    · intro read member
      exact complete.full reported dump within (dump.reads ▸ member)
  · rintro ⟨configured, informed, handles, fit, full⟩ other alike
    obtain ⟨status, reads⟩ := alike.writeBufferData
    apply DumpIo.captured_of_fit
    · rwa [alike.getBufferConfig]
    · rwa [alike.getBufferInfo]
    · rw [status, reported]
    · rwa [alike.config, alike.capturedLength, alike.getBufferHandle]
    · rwa [DumpIo.SizesFit, alike.config, alike.captureLength, alike.capturedLength]
    · intro read member
      rw [DumpIo.Full, alike.vmoRead]
      exact full read (reads ▸ member)

theorem sampleIo_complete :
    (writeBufferData sampleIo).file = some (List.replicate pageSize 7 ++ [8]) := by
  have complete := writeBufferData_complete_iff sampleIo (by decide)
    (sampleIo_succeeds.reported (by decide) (by decide)).1
  rw [← sampleIo_captured]
  exact complete.mpr ⟨by decide, by decide, fun _ _ _ => Int64.le_refl 0, .inl (by decide),
    fun read _ => sampleIo_succeeds.full read⟩ sampleIo (.refl sampleIo)

/-- One page of sevens, of which one byte has been captured. -/
def byteIo : DumpIo :=
  { sampleIo with
    getBufferConfig := (0, ⟨1, 0, false, 0, 0, fun _ => (0, 0)⟩)
    getBufferInfo := (0, 1) }

/-- The device refuses the handle of the first buffer. -/
def refusedIo : DumpIo := { byteIo with getBufferHandle := fun _ => -1 }

/-- Nothing is read, and no error is reported. -/
def shortIo : DumpIo := { byteIo with vmoRead := fun _ _ _ => (0, 0) }

/-- One circular buffer of 4 GiB, whose size is computed as 0. -/
def largeIo : DumpIo :=
  { byteIo with
    getBufferConfig := (0, ⟨1, 20, true, 0, 0, fun _ => (0, 0)⟩)
    contents := fun _ => List.replicate (2 ^ 20 * pageSize) 7
    contents_length := fun _ => List.length_replicate }

theorem shortIo_copyBuffer : ∃ copied,
    shortIo.copyBuffer 0 shortIo.config.bufferSize 0 shortIo.startCopy = .ok copied ∧
      copied.bytesLeft = 0 ∧ copied.file = [0] := by
  rw [DumpIo.copyBuffer, if_pos (by decide)]
  simp only
  rw [if_neg (by decide), if_neg (by decide), DumpIo.copyBuffer, if_neg (by decide)]
  exact ⟨_, rfl, rfl, by decide⟩

/-- The dumps are reported as successful, but the byte that was captured is missing from
the first file, another one stands in the second, and of the large buffer nothing has been
written. -/
theorem writeBufferData_incomplete :
    (writeBufferData refusedIo = ⟨some 0, some [], 1, []⟩ ∧ refusedIo.captured = [7]) ∧
      ((writeBufferData shortIo).status = some 0 ∧ (writeBufferData shortIo).file = some [0] ∧
        shortIo.captured = [7]) ∧
      writeBufferData largeIo = ⟨some 0, some [], 0, []⟩ ∧ largeIo.captured.length = 2 ^ 32 := by
  refine ⟨⟨by decide, by decide⟩, ?_, by decide, ?_⟩
  · obtain ⟨copied, ended, left, file⟩ := shortIo_copyBuffer
    have loops : shortIo.copyBuffers shortIo.config.numBuffers.toNat 0 shortIo.startCopy =
        .ok copied := by
      change shortIo.copyBuffers (0 + 1) 0 shortIo.startCopy = _
      rw [DumpIo.copyBuffers, if_neg (by decide), if_neg (by decide), ended]
      rfl
    rw [writeBufferData_of_ok (by decide) (by decide) rfl loops, if_pos left, file]
    exact ⟨rfl, rfl, by decide⟩
  · rw [DumpIo.captured, List.length_take, largeIo.length_space]
    decide

end Gdbserver.Ipt
