import Mathlib.Data.List.Pairwise
import Mathlib.Data.Nat.Bitwise

/-!
# Words made of bit fields

Fields are put into a word with `or`. When no two of them share a bit, each can be
taken out again and the word has no other bits.
-/

set_option autoImplicit false

namespace Gdbserver.Logic

structure BitField where
  offset : Nat
  width : Nat
  value : Nat
  deriving DecidableEq, Repr

namespace BitField

/-- The bits `offset` to `offset + width - 1` of a word, as a number. -/
def extract (offset width word : Nat) : Nat := (word >>> offset) % 2 ^ width

/-- The part of the value that fits, in its place. -/
def placed (field : BitField) : Nat := (field.value % 2 ^ field.width) <<< field.offset

def packed (fields : List BitField) : Nat :=
  fields.foldl (fun word field => word ||| field.placed) 0

def Covers (field : BitField) (bit : Nat) : Prop :=
  field.offset ≤ bit ∧ bit < field.offset + field.width

instance (field : BitField) (bit : Nat) : Decidable (field.Covers bit) :=
  inferInstanceAs (Decidable (_ ∧ _))

def Apart (field other : BitField) : Prop :=
  field.offset + field.width ≤ other.offset ∨ other.offset + other.width ≤ field.offset

instance (field other : BitField) : Decidable (field.Apart other) :=
  inferInstanceAs (Decidable (_ ∨ _))

instance : Std.Symm Apart := ⟨fun _ _ => Or.symm⟩

variable {field other : BitField} {fields : List BitField} {bit : Nat}

theorem Apart.not_covers (apart : field.Apart other) (covers : field.Covers bit) :
    ¬ other.Covers bit := by
  obtain ⟨low, high⟩ := covers
  rintro ⟨otherLow, otherHigh⟩
  rcases apart with before | after <;> omega

theorem testBit_placed (field : BitField) (bit : Nat) :
    field.placed.testBit bit =
      (decide (field.Covers bit) && field.value.testBit (bit - field.offset)) := by
  rw [placed, Nat.testBit_shiftLeft, Nat.testBit_mod_two_pow, ← Bool.and_assoc]
  congr 1
  by_cases low : field.offset ≤ bit
  · have inside : bit - field.offset < field.width ↔ bit < field.offset + field.width := by omega
    simp [Covers, low, inside]
  · simp [Covers, low]

theorem testBit_foldl (fields : List BitField) (word bit : Nat) :
    (fields.foldl (fun word field => word ||| field.placed) word).testBit bit =
      (word.testBit bit || fields.any fun field => field.placed.testBit bit) := by
  induction fields generalizing word with
  | nil => simp
  | cons field fields ih =>
      rw [List.foldl_cons, ih, Nat.testBit_or, List.any_cons, Bool.or_assoc]

theorem testBit_packed (fields : List BitField) (bit : Nat) :
    (packed fields).testBit bit = fields.any fun field => field.placed.testBit bit := by
  rw [packed, testBit_foldl, Nat.zero_testBit, Bool.false_or]

theorem testBit_packed_outside (outside : ∀ field ∈ fields, ¬ field.Covers bit) :
    (packed fields).testBit bit = false := by
  rw [testBit_packed, List.any_eq_false]
  intro field member
  simp [testBit_placed, outside field member]

/-- A bit of a word belongs to the one field that covers it. -/
theorem testBit_packed_of_covers (apart : fields.Pairwise Apart) (member : field ∈ fields)
    (covers : field.Covers bit) :
    (packed fields).testBit bit = field.value.testBit (bit - field.offset) := by
  have only : ∀ other ∈ fields, other.placed.testBit bit = true →
      field.value.testBit (bit - field.offset) = true := by
    intro other otherMember set
    rw [testBit_placed, Bool.and_eq_true, decide_eq_true_eq] at set
    by_cases same : field = other
    · rw [same]
      exact set.2
    · have distinct := apart.forall member otherMember same
      exact absurd set.1 (distinct.not_covers covers)
  rw [testBit_packed]
  apply Bool.eq_iff_iff.mpr
  rw [List.any_eq_true]
  constructor
  · rintro ⟨other, otherMember, set⟩
    exact only other otherMember set
  · intro set
    refine ⟨field, member, ?_⟩
    rw [testBit_placed, set, Bool.and_true, decide_eq_true_eq]
    exact covers

theorem extract_packed (apart : fields.Pairwise Apart) (member : field ∈ fields) :
    extract field.offset field.width (packed fields) = field.value % 2 ^ field.width := by
  apply Nat.eq_of_testBit_eq
  intro bit
  rw [extract, Nat.testBit_mod_two_pow, Nat.testBit_mod_two_pow, Nat.testBit_shiftRight]
  by_cases inside : bit < field.width
  · have covers : field.Covers (field.offset + bit) :=
      ⟨Nat.le_add_right _ _, Nat.add_lt_add_left inside _⟩
    rw [testBit_packed_of_covers apart member covers, Nat.add_sub_cancel_left]
  · simp [inside]

/-- What was put in comes out exactly when it fits. -/
theorem extract_packed_eq_iff (apart : fields.Pairwise Apart) (member : field ∈ fields) :
    extract field.offset field.width (packed fields) = field.value ↔
      field.value < 2 ^ field.width := by
  rw [extract_packed apart member]
  exact Nat.mod_eq_iff_lt (Nat.ne_of_gt (Nat.two_pow_pos _))

end BitField

end Gdbserver.Logic
