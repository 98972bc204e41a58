import Gdbserver.Foundation.Bytes

/-!
# Writing into a buffer

Copies to a position of a buffer, one after the other.
-/

set_option autoImplicit false

namespace Gdbserver

namespace Util

/-- `memcpy(buffer + index, data, length)`. -/
def copyInto (buffer : Bytes) (index : Nat) (data : Bytes) : Bytes :=
  buffer.take index ++ data ++ buffer.drop (index + data.length)

/-- Two copies next to each other are one. -/
theorem copyInto_copyInto {buffer data : Bytes} {index : Nat} (more : Bytes)
    (within : index + data.length ≤ buffer.length) :
    copyInto (copyInto buffer index data) (index + data.length) more =
      copyInto buffer index (data ++ more) := by
  have started : (buffer.take index ++ data).length = index + data.length := by
    rw [List.length_append, List.length_take, Nat.min_eq_left (by omega)]
  have kept : (copyInto buffer index data).take (index + data.length) =
      buffer.take index ++ data := by
    rw [copyInto, List.take_append_of_le_length (Nat.le_of_eq started.symm),
      List.take_of_length_le (Nat.le_of_eq started)]
  have left : (copyInto buffer index data).drop (index + data.length + more.length) =
      buffer.drop (index + (data ++ more).length) := by
    rw [copyInto, ← started, List.drop_length_add_append, started, List.drop_drop,
      List.length_append, Nat.add_assoc]
  rw [copyInto, kept, left, copyInto, List.append_assoc (buffer.take index)]

theorem copyInto_length {buffer data : Bytes} {index : Nat}
    (within : index + data.length ≤ buffer.length) :
    (copyInto buffer index data).length = buffer.length := by
  rw [copyInto, List.length_append, List.length_append, List.length_take, List.length_drop,
    Nat.min_eq_left (by omega)]
  omega

theorem copyInto_full {buffer data : Bytes} (full : data.length = buffer.length) :
    copyInto buffer 0 data = data := by
  rw [copyInto, Nat.zero_add, full, List.drop_length, List.take_zero, List.nil_append,
    List.append_nil]

end Util

end Gdbserver
