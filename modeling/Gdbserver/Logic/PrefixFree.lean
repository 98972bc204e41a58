import Mathlib.Data.List.Infix

/-!
# Texts made of self-delimiting items

Items none of which starts another. What a text starts with can be cut into such
items in one way only, as far as it goes.
-/

set_option autoImplicit false

namespace Gdbserver.Logic

variable {α : Type} {IsItem : List α → Prop}

/-- No item starts another, and none is empty. -/
structure PrefixFree (IsItem : List α → Prop) : Prop where
  nonempty : ∀ item, IsItem item → item ≠ []
  same : ∀ item other, IsItem item → IsItem other → item <+: other → item = other

/-- The text starts with the items, one after the other. -/
structure StartsWith (IsItem : List α → Prop) (text : List α) (items : List (List α)) : Prop where
  every : ∀ item ∈ items, IsItem item
  front : items.flatten <+: text

/-- No longer part of the front of the text is made of items. -/
structure Longest (IsItem : List α → Prop) (text : List α) (items : List (List α)) : Prop where
  starts : StartsWith IsItem text items
  longest : ∀ others, StartsWith IsItem text others → others.flatten.length ≤ items.flatten.length

variable {text rest item : List α} {items others : List (List α)}

theorem PrefixFree.eq_of_starts (free : PrefixFree IsItem) {other : List α} (isItem : IsItem item)
    (otherItem : IsItem other) (front : item <+: text) (otherFront : other <+: text) :
    item = other := by
  cases List.prefix_or_prefix_of_prefix front otherFront with
  | inl shorter => exact free.same item other isItem otherItem shorter
  | inr longer => exact (free.same other item otherItem isItem longer).symm

theorem StartsWith.head (starts : StartsWith IsItem text (item :: items)) :
    IsItem item ∧ item <+: text := by
  constructor
  · exact starts.every item List.mem_cons_self
  · have front := starts.front
    rw [List.flatten_cons] at front
    exact (List.prefix_append item items.flatten).trans front

theorem StartsWith.tail (starts : StartsWith IsItem (item ++ rest) (item :: items)) :
    StartsWith IsItem rest items where
  every other member := starts.every other (List.mem_cons_of_mem item member)
  front := (List.prefix_append_right_inj item).mp starts.front

theorem StartsWith.cons (isItem : IsItem item) (starts : StartsWith IsItem rest items) :
    StartsWith IsItem (item ++ rest) (item :: items) where
  every := List.forall_mem_cons.mpr ⟨isItem, starts.every⟩
  front := (List.prefix_append_right_inj item).mpr starts.front

theorem longest_iff_nil (none : ∀ item, IsItem item → ¬ item <+: text) :
    Longest IsItem text items ↔ items = [] := by
  have empty : ∀ others, StartsWith IsItem text others → others = [] := by
    intro others starts
    cases others with
    | nil => rfl
    | cons other others => exact absurd starts.head.2 (none other starts.head.1)
  constructor
  · intro cut
    exact empty items cut.starts
  · rintro rfl
    constructor
    · constructor
      · intro item member
        cases member
      · exact List.nil_prefix
    · intro others starts
      rw [empty others starts]

/-- An item at the front is the first one of the cut. -/
theorem PrefixFree.longest_iff_cons (free : PrefixFree IsItem) (isItem : IsItem item)
    (only : ∀ others, Longest IsItem rest others ↔ others = items) :
    Longest IsItem (item ++ rest) others ↔ others = item :: items := by
  have cut : Longest IsItem rest items := (only items).mpr rfl
  have first {other : List α} {later : List (List α)}
      (starts : StartsWith IsItem (item ++ rest) (other :: later)) : other = item :=
    free.eq_of_starts starts.head.1 isItem starts.head.2 (List.prefix_append item rest)
  constructor
  · intro longest
    cases others with
    | nil =>
        have shorter := longest.longest _ (cut.starts.cons isItem)
        have positive := List.length_pos_iff.mpr (free.nonempty item isItem)
        simp only [List.flatten_cons, List.flatten_nil, List.length_append, List.length_nil] at shorter
        omega
    | cons other later =>
        obtain rfl := first longest.starts
        have tail : Longest IsItem rest later := by
          constructor
          · exact longest.starts.tail
          · intro more starts
            have shorter := longest.longest _ (starts.cons isItem)
            simp only [List.flatten_cons, List.length_append] at shorter
            omega
        rw [(only later).mp tail]
  · rintro rfl
    constructor
    · exact cut.starts.cons isItem
    · intro more starts
      cases more with
      | nil => simp
      | cons other later =>
          obtain rfl := first starts
          have shorter := cut.longest later starts.tail
          simp only [List.flatten_cons, List.length_append]
          omega

inductive Itemized (IsItem : List α → Prop) : List α → List (List α) → Prop
  | ends {text : List α} (none : ∀ item, IsItem item → ¬ item <+: text) : Itemized IsItem text []
  | item {item rest : List α} {items : List (List α)} (isItem : IsItem item)
      (later : Itemized IsItem rest items) : Itemized IsItem (item ++ rest) (item :: items)

theorem Itemized.longest_iff (free : PrefixFree IsItem) (cut : Itemized IsItem text items) :
    ∀ others, Longest IsItem text others ↔ others = items := by
  induction cut with
  | ends none =>
      intro others
      exact longest_iff_nil none
  | item isItem _ ih =>
      intro others
      exact free.longest_iff_cons isItem ih

theorem PrefixFree.exists_itemized (free : PrefixFree IsItem) (text : List α) :
    ∃ items, Itemized IsItem text items := by
  induction length : text.length using Nat.strong_induction_on generalizing text with
  | h size ih =>
      by_cases first : ∃ item, IsItem item ∧ item <+: text
      · obtain ⟨item, isItem, rest, rfl⟩ := first
        have positive := List.length_pos_iff.mpr (free.nonempty item isItem)
        have shorter : rest.length < size := by
          rw [← length, List.length_append]
          omega
        obtain ⟨items, later⟩ := ih rest.length shorter rest rfl
        exact ⟨item :: items, .item isItem later⟩
      · apply Exists.intro []
        apply Itemized.ends
        intro item isItem front
        exact first ⟨item, isItem, front⟩

theorem Itemized.length_le (free : PrefixFree IsItem) (cut : Itemized IsItem text items) :
    items.length ≤ text.length := by
  induction cut with
  | ends => exact Nat.zero_le _
  | @item item rest items isItem _ ih =>
      have positive := List.length_pos_iff.mpr (free.nonempty item isItem)
      rw [List.length_cons, List.length_append]
      omega

end Gdbserver.Logic
