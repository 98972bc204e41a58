import Mathlib.Data.List.Basic
import Mathlib.Order.Lattice

/-!
# Insertion in descending order

Items are inserted by a key, each behind those with the same key. The result
holds every item once, ordered by the key and, for one key, by the time of
insertion. A search for the first item whose key is not above a bound then finds
the greatest such key.
-/

set_option autoImplicit false

namespace Gdbserver.Logic

variable {α κ : Type} [LinearOrder κ] (key : α → κ)

def insertDescending (item : α) : List α → List α
  | [] => [item]
  | first :: rest =>
      if key first < key item then item :: first :: rest
      else first :: insertDescending item rest

/-- A list that came about by inserting the items one after the other. -/
structure Ranked (added list : List α) : Prop where
  perm : list.Perm added
  descending : list.Pairwise fun before behind => key behind ≤ key before
  stable : ∀ value, list.filter (fun item => key item = value) =
    added.filter fun item => key item = value

variable {key} {item : α} {list added : List α}

theorem insertDescending_perm (item : α) (list : List α) :
    (insertDescending key item list).Perm (item :: list) := by
  induction list with
  | nil => exact List.Perm.refl _
  | cons first rest ih =>
      rw [insertDescending]
      by_cases below : key first < key item
      · rw [if_pos below]
      · rw [if_neg below]
        exact (ih.cons first).trans (List.Perm.swap item first rest)

theorem insertDescending_descending
    (descending : list.Pairwise fun before behind => key behind ≤ key before) :
    (insertDescending key item list).Pairwise fun before behind => key behind ≤ key before := by
  induction list with
  | nil => exact List.pairwise_singleton _ _
  | cons first rest ih =>
      obtain ⟨behindFirst, ordered⟩ := List.pairwise_cons.mp descending
      rw [insertDescending]
      by_cases below : key first < key item
      · rw [if_pos below]
        refine List.pairwise_cons.mpr ⟨fun other member => ?_, descending⟩
        cases List.mem_cons.mp member with
        | inl same => exact same ▸ le_of_lt below
        | inr later => exact (behindFirst other later).trans (le_of_lt below)
      · rw [if_neg below]
        refine List.pairwise_cons.mpr ⟨fun other member => ?_, ih ordered⟩
        cases List.mem_cons.mp ((insertDescending_perm item rest).mem_iff.mp member) with
        | inl same => exact same ▸ not_lt.mp below
        | inr later => exact behindFirst other later

/-- Insertion keeps the items of each key in their order, the new one last. -/
theorem filter_insertDescending
    (descending : list.Pairwise fun before behind => key behind ≤ key before) (value : κ) :
    (insertDescending key item list).filter (fun other => key other = value) =
      list.filter (fun other => key other = value) ++
        [item].filter fun other => key other = value := by
  induction list with
  | nil => rfl
  | cons first rest ih =>
      obtain ⟨behindFirst, ordered⟩ := List.pairwise_cons.mp descending
      rw [insertDescending]
      by_cases below : key first < key item
      · rw [if_pos below]
        by_cases same : key item = value
        · -- all of the list is below the key of the item
          have none : (first :: rest).filter (fun other => key other = value) = [] := by
            apply List.filter_eq_nil_iff.mpr
            intro other member
            have lower : key other < key item := by
              cases List.mem_cons.mp member with
              | inl head => exact head ▸ below
              | inr later => exact (behindFirst other later).trans_lt below
            simpa using fun equal => lower.ne (equal.trans same.symm)
          rw [List.filter_cons_of_pos (by simpa using same), none]
          simp [same]
        · rw [List.filter_cons_of_neg (by simpa using same)]
          simp [same]
      · rw [if_neg below]
        by_cases head : key first = value
        · rw [List.filter_cons_of_pos (by simpa using head),
            List.filter_cons_of_pos (by simpa using head), ih ordered, List.cons_append]
        · rw [List.filter_cons_of_neg (by simpa using head),
            List.filter_cons_of_neg (by simpa using head), ih ordered]

namespace Ranked

theorem nil : Ranked key ([] : List α) [] := ⟨List.Perm.refl _, List.Pairwise.nil, fun _ => rfl⟩

theorem insert (ranked : Ranked key added list) (item : α) :
    Ranked key (added ++ [item]) (insertDescending key item list) where
  perm := (insertDescending_perm item list).trans
    ((ranked.perm.cons item).trans (List.perm_append_singleton item added).symm)
  descending := insertDescending_descending ranked.descending
  stable value := by
    rw [filter_insertDescending ranked.descending, ranked.stable, List.filter_append]

theorem find?_eq_none (ranked : Ranked key added list) {bound : κ} :
    list.find? (fun item => key item ≤ bound) = none ↔ ∀ item ∈ added, bound < key item := by
  rw [List.find?_eq_none]
  constructor
  · intro none item member
    simpa using none item (ranked.perm.mem_iff.mpr member)
  · intro above item member
    simpa using above item (ranked.perm.mem_iff.mp member)

/-- The search finds the greatest key up to the bound, and the item that was
inserted first among those that have it. -/
theorem find?_eq_some (ranked : Ranked key added list) {bound : κ}
    (found : list.find? (fun item => key item ≤ bound) = some item) :
    key item ≤ bound ∧ (∀ other ∈ added, key other ≤ bound → key other ≤ key item) ∧
      added.find? (fun other => key other = key item) = some item := by
  obtain ⟨holds, before, behind, split, none⟩ := List.find?_eq_some_iff_append.mp found
  have within : key item ≤ bound := by simpa using holds
  have aboveBefore : ∀ other ∈ before, bound < key other := by
    intro other member
    simpa using none other member
  refine ⟨within, fun other member below => ?_, ?_⟩
  · have listed := ranked.perm.mem_iff.mpr member
    rw [split, List.mem_append] at listed
    cases listed with
    | inl early => exact absurd below (not_le.mpr (aboveBefore other early))
    | inr late =>
        have ordered := (List.pairwise_append.mp (split ▸ ranked.descending)).2.1
        cases List.mem_cons.mp late with
        | inl same => exact same ▸ le_refl _
        | inr later => exact (List.pairwise_cons.mp ordered).1 other later
  · have clear : before.filter (fun other => key other = key item) = [] := by
      apply List.filter_eq_nil_iff.mpr
      intro other member
      simpa using fun equal => (within.trans_lt (aboveBefore other member)).ne' equal
    have first := ranked.stable (key item)
    rw [split, List.filter_append, clear, List.nil_append,
      List.filter_cons_of_pos (by simp)] at first
    rw [← List.head?_filter, ← first, List.head?_cons]

end Ranked

end Gdbserver.Logic
