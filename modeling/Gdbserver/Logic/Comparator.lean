import Mathlib.Data.List.Basic
import Mathlib.Order.Lattice

/-!
# Sorting and searching with a comparison function

The contracts of `qsort` and `bsearch`: both are bound to nothing unless the
results of the comparison function are consistent with one another on the items. An answer
that the contract allows is the answer of some library.
-/

set_option autoImplicit false

namespace Gdbserver.Logic

/-- The comparison function defines a total order on the items. -/
structure Consistent {α : Type} (compar : α → α → Int) (items : List α) : Prop where
  antisymm : ∀ first ∈ items, ∀ second ∈ items,
    (compar first second < 0 ↔ 0 < compar second first)
  trans : ∀ first ∈ items, ∀ second ∈ items, ∀ third ∈ items,
    compar first second ≤ 0 → compar second third ≤ 0 → compar first third ≤ 0

theorem Consistent.mono {α : Type} {compar : α → α → Int} {items some : List α}
    (consistent : Consistent compar items) (sub : some ⊆ items) : Consistent compar some where
  antisymm first one second two := consistent.antisymm first (sub one) second (sub two)
  trans first one second two third three :=
    consistent.trans first (sub one) second (sub two) third (sub three)

/-- First the items below the key, then those that match it, then those above. -/
def Split {α : Type} (compar : α → α → Int) (key : α) (items : List α) : Prop :=
  items.Pairwise fun before behind =>
    (0 < compar key behind → 0 < compar key before) ∧
      (compar key before < 0 → compar key behind < 0)

/-- A C library's `qsort` and `bsearch`. -/
structure SortSearch where
  qsort : {α : Type} → (α → α → Int) → List α → List α
  bsearch : {α : Type} → (α → α → Int) → α → List α → Option α
  qsort_sorts : ∀ {α : Type} (compar : α → α → Int) (items : List α), Consistent compar items →
    (qsort compar items).Perm items ∧
      (qsort compar items).Pairwise fun before behind => compar before behind ≤ 0
  bsearch_found : ∀ {α : Type} (compar : α → α → Int) (key item : α) (items : List α),
    Split compar key items → bsearch compar key items = some item →
      item ∈ items ∧ compar key item = 0
  bsearch_missed : ∀ {α : Type} (compar : α → α → Int) (key : α) (items : List α),
    Split compar key items → bsearch compar key items = none →
      ∀ item ∈ items, compar key item ≠ 0

section

variable {α κ : Type} [LinearOrder κ] {compar : α → α → Int} {items : List α}

/-- The comparison function tells the order of the keys. -/
def ComparesBy (key : α → κ) (compar : α → α → Int) (items : List α) : Prop :=
  ∀ first ∈ items, ∀ second ∈ items,
    (compar first second < 0 ↔ key first < key second) ∧
      (0 < compar first second ↔ key second < key first)

variable {key : α → κ}

theorem ComparesBy.le_iff (compares : ComparesBy key compar items) {first second : α}
    (one : first ∈ items) (other : second ∈ items) :
    compar first second ≤ 0 ↔ key first ≤ key second := by
  rw [← Int.not_lt, (compares first one second other).2, not_lt]

theorem ComparesBy.consistent (compares : ComparesBy key compar items) : Consistent compar items where
  antisymm first one second other := by
    rw [(compares first one second other).1, (compares second other first one).2]
  trans first one second two third three below above := by
    rw [compares.le_iff one two] at below
    rw [compares.le_iff two three] at above
    rw [compares.le_iff one three]
    exact below.trans above

/-- A comparison by keys sorts by the keys. -/
theorem ComparesBy.sorted (compares : ComparesBy key compar items) (library : SortSearch) :
    (library.qsort compar items).Perm items ∧
      (library.qsort compar items).Pairwise fun before behind => key before ≤ key behind := by
  obtain ⟨perm, ordered⟩ := library.qsort_sorts compar items compares.consistent
  refine ⟨perm, ordered.imp_of_mem fun one other below => ?_⟩
  exact (compares.le_iff (perm.mem_iff.mp one) (perm.mem_iff.mp other)).mp below

end

theorem split_singleton {α : Type} (compar : α → α → Int) (key item : α) :
    Split compar key [item] := List.pairwise_singleton _ _

section Merging

variable {α : Type} {compar : α → α → Int} {items : List α}

def lessEq (compar : α → α → Int) (items : List α) (first second : { item // item ∈ items }) :
    Bool := decide (compar first.1 second.1 ≤ 0)

theorem Consistent.lessEq_trans (consistent : Consistent compar items)
    (first second third : { item // item ∈ items }) (below : lessEq compar items first second = true)
    (above : lessEq compar items second third = true) : lessEq compar items first third = true :=
  decide_eq_true (consistent.trans _ first.2 _ second.2 _ third.2 (of_decide_eq_true below)
    (of_decide_eq_true above))

theorem Consistent.lessEq_total (consistent : Consistent compar items)
    (first second : { item // item ∈ items }) :
    (lessEq compar items first second || lessEq compar items second first) = true := by
  rw [lessEq, lessEq, Bool.or_eq_true, decide_eq_true_iff, decide_eq_true_iff]
  rcases Int.lt_or_le 0 (compar first.1 second.1) with above | below
  · have back := (consistent.antisymm second.1 second.2 first.1 first.2).mpr above
    exact Or.inr (Int.le_of_lt back)
  · exact Or.inl below

theorem merged_perm (compar : α → α → Int) (items : List α) :
    ((items.attach.mergeSort (lessEq compar items)).map Subtype.val).Perm items := by
  have perm := (List.mergeSort_perm items.attach (lessEq compar items)).map Subtype.val
  rwa [List.attach_map_subtype_val] at perm

end Merging

namespace SortSearch

/-- A library that sorts by merging and searches from the front. -/
def simple : SortSearch where
  qsort compar items := (items.attach.mergeSort (lessEq compar items)).map Subtype.val
  bsearch compar key items := items.find? fun item => decide (compar key item = 0)
  qsort_sorts compar items consistent := by
    refine ⟨merged_perm compar items, ?_⟩
    apply List.Pairwise.map _ _ (List.pairwise_mergeSort consistent.lessEq_trans
      consistent.lessEq_total items.attach)
    intro first second below
    exact of_decide_eq_true below
  bsearch_found compar key item items _ found := by
    have holds := List.find?_some found
    exact ⟨List.mem_of_find?_eq_some found, of_decide_eq_true holds⟩
  bsearch_missed compar key items _ missed item member equal := by
    have fails := List.find?_eq_none.mp missed item member
    exact fails (decide_eq_true equal)

variable {α : Type} {compar : α → α → Int}

/-- Sorting by merging is stable. -/
theorem pair_sublist_simple {items : List α} {first second : α}
    (consistent : Consistent compar items) (below : compar first second ≤ 0)
    (sub : [first, second].Sublist items) :
    [first, second].Sublist (simple.qsort compar items) := by
  have lifted := sub
  rw [← List.attach_map_subtype_val items, List.sublist_map_iff] at lifted
  obtain ⟨pair, inside, same⟩ := lifted
  match pair, same with
  | [one, other], same =>
      cases same
      exact (List.pair_sublist_mergeSort consistent.lessEq_trans consistent.lessEq_total
        (decide_eq_true below) inside).map Subtype.val

open Classical in
/-- A sorting of one list that the contract allows. -/
theorem exists_qsort {items answer : List α}
    (allowed : Consistent compar items → answer.Perm items ∧
      answer.Pairwise fun before behind => compar before behind ≤ 0) :
    ∃ library : SortSearch, library.qsort compar items = answer := by
  refine ⟨{ simple with
    qsort := fun {β} other list =>
      if same : (⟨α, compar, items⟩ : Σ α : Type, (α → α → Int) × List α) = ⟨β, other, list⟩ then
        cast (congrArg (fun input : Σ α : Type, (α → α → Int) × List α => List input.1) same) answer
      else simple.qsort other list
    qsort_sorts := ?_ }, dif_pos rfl⟩
  intro β other list consistent
  by_cases same : (⟨α, compar, items⟩ : Σ α : Type, (α → α → Int) × List α) = ⟨β, other, list⟩
  · cases same
    rw [dif_pos rfl]
    exact allowed consistent
  · rw [dif_neg same]
    exact simple.qsort_sorts other list consistent

open Classical in
/-- An outcome of one search that the contract allows. -/
theorem exists_bsearch {key : α} {items : List α} {answer : Option α}
    (found : ∀ item, Split compar key items → answer = some item →
      item ∈ items ∧ compar key item = 0)
    (missed : Split compar key items → answer = none → ∀ item ∈ items, compar key item ≠ 0) :
    ∃ library : SortSearch, library.bsearch compar key items = answer ∧
      ∀ list : List α, library.qsort compar list = simple.qsort compar list := by
  refine ⟨{ simple with
    bsearch := fun {β} other sought list =>
      if same : (⟨α, compar, key, items⟩ : Σ α : Type, (α → α → Int) × α × List α) =
          ⟨β, other, sought, list⟩ then
        cast (congrArg (fun input : Σ α : Type, (α → α → Int) × α × List α => Option input.1) same)
          answer
      else simple.bsearch other sought list
    bsearch_found := ?_
    bsearch_missed := ?_ }, dif_pos rfl, fun _ => rfl⟩
  · intro β other sought item list split answered
    by_cases same : (⟨α, compar, key, items⟩ : Σ α : Type, (α → α → Int) × α × List α) =
        ⟨β, other, sought, list⟩
    · cases same
      rw [dif_pos rfl] at answered
      exact found item split answered
    · rw [dif_neg same] at answered
      exact simple.bsearch_found other sought item list split answered
  · intro β other sought list split answered
    by_cases same : (⟨α, compar, key, items⟩ : Σ α : Type, (α → α → Int) × α × List α) =
        ⟨β, other, sought, list⟩
    · cases same
      rw [dif_pos rfl] at answered
      exact missed split answered
    · rw [dif_neg same] at answered
      exact simple.bsearch_missed other sought list split answered

/-- Where one item does not compare above another, some library puts it in front, if it
keeps the items at all. -/
theorem exists_qsort_before [DecidableEq α] {items : List α} {first second : α}
    (one : first ∈ items) (other : second ∈ items) (different : first ≠ second)
    (below : compar first second ≤ 0) :
    ∃ library : SortSearch, (library.qsort compar items).Perm items →
      [first, second].Sublist (library.qsort compar items) := by
  have rest : second ∈ items.erase first := (List.mem_erase_of_ne different.symm).mpr other
  have perm : (first :: second :: (items.erase first).erase second).Perm items :=
    ((List.perm_cons_erase one).trans ((List.perm_cons_erase rest).cons first)).symm
  by_cases consistent : Consistent compar items
  · have again := consistent.mono perm.subset
    obtain ⟨kept, ordered⟩ := simple.qsort_sorts compar _ again
    obtain ⟨library, sorted⟩ := exists_qsort fun _ => ⟨kept.trans perm, ordered⟩
    refine ⟨library, fun _ => ?_⟩
    rw [sorted]
    exact pair_sublist_simple again below (.cons_cons first (.cons_cons second (List.nil_sublist _)))
  · obtain ⟨library, sorted⟩ : ∃ library : SortSearch, library.qsort compar items = [] :=
      exists_qsort fun holds => absurd holds consistent
    refine ⟨library, fun kept => ?_⟩
    rw [sorted, List.nil_perm] at kept
    rw [kept] at one
    cases one

end SortSearch

end Gdbserver.Logic
