import Mathlib.Data.List.TakeWhile

/-!
# Delimited texts

Lists cut at a delimiter: at its first occurrence, into fields that are each
ended by one, and into fields the last of which may do without.
-/

set_option autoImplicit false

namespace Gdbserver.Logic.Delimited

variable {α : Type} {delimiter : α}

section FirstDelimiter

variable [DecidableEq α] {field other rest more text : List α}

theorem ne_of_clear (clear : delimiter ∉ field) :
    ∀ item ∈ field, decide (item ≠ delimiter) = true := by
  intro item member
  apply decide_eq_true
  rintro rfl
  exact clear member

theorem takeWhile_field (clear : delimiter ∉ field) (rest : List α) :
    (field ++ delimiter :: rest).takeWhile (· ≠ delimiter) = field := by
  rw [List.takeWhile_append_of_pos (ne_of_clear clear), List.takeWhile_cons_of_neg (by simp),
    List.append_nil]

theorem dropWhile_field (clear : delimiter ∉ field) (rest : List α) :
    (field ++ delimiter :: rest).dropWhile (· ≠ delimiter) = delimiter :: rest := by
  rw [List.dropWhile_append_of_pos (ne_of_clear clear), List.dropWhile_cons_of_neg (by simp)]

theorem takeWhile_of_clear (clear : delimiter ∉ field) :
    field.takeWhile (· ≠ delimiter) = field :=
  List.takeWhile_eq_self_iff.mpr (ne_of_clear clear)

theorem dropWhile_of_clear (clear : delimiter ∉ field) :
    field.dropWhile (· ≠ delimiter) = [] :=
  List.dropWhile_eq_nil_iff.mpr (ne_of_clear clear)

theorem clear_takeWhile (text : List α) : delimiter ∉ text.takeWhile (· ≠ delimiter) := by
  intro member
  simpa using List.mem_takeWhile_imp member

/-- A text with a delimiter is what stands before the first one, and the rest. -/
theorem eq_field_append (present : delimiter ∈ text) :
    text = text.takeWhile (· ≠ delimiter) ++
      delimiter :: (text.dropWhile (· ≠ delimiter)).drop 1 := by
  induction text with
  | nil => simp at present
  | cons item rest ih =>
      by_cases same : item = delimiter
      · simp [same]
      · have later : delimiter ∈ rest := (List.mem_cons.mp present).resolve_left (Ne.symm same)
        rw [List.takeWhile_cons_of_pos (by simpa using same),
          List.dropWhile_cons_of_pos (by simpa using same), List.cons_append, ← ih later]

theorem field_unique (clear : delimiter ∉ field) (otherClear : delimiter ∉ other)
    (same : field ++ delimiter :: rest = other ++ delimiter :: more) :
    field = other ∧ rest = more := by
  have fields := congrArg (List.takeWhile fun item => decide (item ≠ delimiter)) same
  rw [takeWhile_field clear, takeWhile_field otherClear] at fields
  subst fields
  exact ⟨rfl, List.cons_inj_right delimiter |>.mp (List.append_cancel_left same)⟩

end FirstDelimiter

/-- Fields each of which is ended by the delimiter. -/
def terminated (delimiter : α) (fields : List (List α)) : List α :=
  fields.flatMap (· ++ [delimiter])

theorem terminated_cons (field : List α) (fields : List (List α)) :
    terminated delimiter (field :: fields) = field ++ delimiter :: terminated delimiter fields := by
  simp [terminated]

/-- The fields can be read off again, however many they are. -/
theorem terminated_injective [DecidableEq α] {fields others : List (List α)}
    (clear : ∀ field ∈ fields, delimiter ∉ field) (otherClear : ∀ field ∈ others, delimiter ∉ field)
    (same : terminated delimiter fields = terminated delimiter others) : fields = others := by
  induction fields generalizing others with
  | nil =>
      cases others with
      | nil => rfl
      | cons other others => simp [terminated] at same
  | cons field fields ih =>
      cases others with
      | nil => simp [terminated] at same
      | cons other others =>
          rw [terminated_cons, terminated_cons] at same
          rw [List.forall_mem_cons] at clear otherClear
          obtain ⟨first, later⟩ := field_unique clear.1 otherClear.1 same
          rw [first, ih clear.2 otherClear.2 later]

/-- How a text is cut into fields: a delimiter ends a field, and so does the
end of the text, unless it stands right after a delimiter. -/
inductive Cut (delimiter : α) : List α → List (List α) → Prop
  | empty : Cut delimiter [] []
  | last {field : List α} : field ≠ [] → delimiter ∉ field → Cut delimiter field [field]
  | field {field rest : List α} {fields : List (List α)} : delimiter ∉ field →
      Cut delimiter rest fields → Cut delimiter (field ++ delimiter :: rest) (field :: fields)

section Joining

variable {text : List α} {fields : List (List α)}

/-- Between the fields, and perhaps after the last one, stands the delimiter. -/
theorem Cut.joined (is : Cut delimiter text fields) (some : fields ≠ []) :
    text = [delimiter].intercalate fields ∨ text = [delimiter].intercalate fields ++ [delimiter] := by
  induction is with
  | empty => exact absurd rfl some
  | last => simp
  | @field field rest fields _ _ ih =>
      cases fields with
      | nil =>
          rename_i tail
          cases tail
          simp
      | cons next fields =>
          rw [List.intercalate_cons_cons]
          rcases ih (List.cons_ne_nil next fields) with ends | goes
          · left
            rw [ends]
            simp
          · right
            rw [goes]
            simp

theorem cut_intercalate_append (clear : ∀ field ∈ fields, delimiter ∉ field) (some : fields ≠ []) :
    Cut delimiter ([delimiter].intercalate fields ++ [delimiter]) fields := by
  induction fields with
  | nil => exact absurd rfl some
  | cons field fields ih =>
      rw [List.forall_mem_cons] at clear
      cases fields with
      | nil => simpa using Cut.field clear.1 .empty
      | cons next fields =>
          have later := Cut.field clear.1 (ih clear.2 (List.cons_ne_nil next fields))
          simpa [List.intercalate_cons_cons] using later

theorem cut_intercalate (clear : ∀ field ∈ fields, delimiter ∉ field)
    (ended : ∀ some : fields ≠ [], fields.getLast some ≠ []) :
    Cut delimiter ([delimiter].intercalate fields) fields := by
  induction fields with
  | nil => exact .empty
  | cons field fields ih =>
      rw [List.forall_mem_cons] at clear
      cases fields with
      | nil =>
          have last := ended (List.cons_ne_nil field [])
          simpa using Cut.last last clear.1
      | cons next fields =>
          have later := Cut.field clear.1 (ih clear.2 fun some => by
            simpa using ended (List.cons_ne_nil field (next :: fields)))
          simpa [List.intercalate_cons_cons] using later

theorem intercalate_concat_nil (some : fields ≠ []) :
    [delimiter].intercalate (fields ++ [[]]) = [delimiter].intercalate fields ++ [delimiter] := by
  induction fields with
  | nil => exact absurd rfl some
  | cons field fields ih =>
      cases fields with
      | nil => simp [List.intercalate_cons_cons]
      | cons next fields =>
          have later := ih (List.cons_ne_nil next fields)
          rw [List.cons_append] at later
          rw [List.cons_append, List.cons_append, List.intercalate_cons_cons, later,
            List.intercalate_cons_cons]
          simp

/-- An empty last field does not survive: its delimiter ends the field before. -/
theorem cut_intercalate_concat_nil (clear : ∀ field ∈ fields, delimiter ∉ field)
    (some : fields ≠ []) : Cut delimiter ([delimiter].intercalate (fields ++ [[]])) fields := by
  rw [intercalate_concat_nil some]
  exact cut_intercalate_append clear some

end Joining

/-- The cut, in at most `passes` fields. -/
def cut [DecidableEq α] (delimiter : α) : Nat → List α → List (List α)
  | 0, _ => []
  | _ + 1, [] => []
  | passes + 1, item :: rest =>
      (item :: rest).takeWhile (· ≠ delimiter) ::
        cut delimiter passes (((item :: rest).dropWhile (· ≠ delimiter)).drop 1)

section Computing

variable [DecidableEq α] {text : List α} {fields : List (List α)}

theorem cut_succ (passes : Nat) (some : text ≠ []) :
    cut delimiter (passes + 1) text = text.takeWhile (· ≠ delimiter) ::
      cut delimiter passes ((text.dropWhile (· ≠ delimiter)).drop 1) := by
  cases text with
  | nil => exact absurd rfl some
  | cons item rest => rfl

theorem cut_nil (passes : Nat) : cut delimiter passes [] = [] := by
  cases passes <;> rfl

theorem Cut.eq_cut (is : Cut delimiter text fields) {passes : Nat} (enough : text.length ≤ passes) :
    cut delimiter passes text = fields := by
  induction is generalizing passes with
  | empty => exact cut_nil passes
  | @last field some clear =>
      obtain ⟨passes, rfl⟩ := Nat.exists_eq_succ_of_ne_zero
        (Nat.ne_of_gt (Nat.lt_of_lt_of_le (List.length_pos_iff.mpr some) enough))
      rw [cut_succ passes some, takeWhile_of_clear clear, dropWhile_of_clear clear, List.drop_nil,
        cut_nil]
  | @field field rest fields clear _ ih =>
      rw [List.length_append, List.length_cons] at enough
      obtain ⟨passes, rfl⟩ := Nat.exists_eq_succ_of_ne_zero (n := passes) (by omega)
      rw [cut_succ passes (by simp), takeWhile_field clear, dropWhile_field clear, List.drop_one,
        List.tail_cons, ih (by omega)]

/-- Every text has a cut. -/
theorem cut_cut {passes : Nat} (enough : text.length ≤ passes) :
    Cut delimiter text (cut delimiter passes text) := by
  induction passes generalizing text with
  | zero =>
      obtain rfl := List.length_eq_zero_iff.mp (Nat.le_zero.mp enough)
      exact .empty
  | succ passes ih =>
      by_cases none : text = []
      · rw [none]
        exact .empty
      · rw [cut_succ passes none]
        by_cases present : delimiter ∈ text
        · have split := eq_field_append present
          have shorter : ((text.dropWhile (· ≠ delimiter)).drop 1).length ≤ passes := by
            have total := congrArg List.length split
            rw [List.length_append, List.length_cons] at total
            omega
          have whole := Cut.field (clear_takeWhile text) (ih shorter)
          rwa [← split] at whole
        · rw [takeWhile_of_clear present, dropWhile_of_clear present, List.drop_nil, cut_nil]
          exact .last none present

end Computing

end Gdbserver.Logic.Delimited
