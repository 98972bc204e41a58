import Mathlib.Data.Set.Function

/-!
# Tables with slots

Items that each change one slot of a table. A slot only sees the items under
its own key, in their order.
-/

set_option autoImplicit false

namespace Gdbserver.Logic.Slots

variable {ι κ τ : Type} [DecidableEq κ]

/-- The item changes the slot under its key. -/
def change (key : ι → κ) (step : τ → ι → τ) (table : κ → τ) (item : ι) : κ → τ :=
  Function.update table (key item) (step (table (key item)) item)

theorem change_eq_self_iff {key : ι → κ} {step : τ → ι → τ} {table : κ → τ} {item : ι} :
    change key step table item = table ↔ step (table (key item)) item = table (key item) :=
  Function.update_eq_self_iff

theorem foldl_change (key : ι → κ) (step : τ → ι → τ) (items : List ι) (table : κ → τ) (slot : κ) :
    items.foldl (change key step) table slot =
      (items.filter (key · = slot)).foldl step (table slot) := by
  induction items generalizing table with
  | nil => rfl
  | cons item items ih =>
      rw [List.foldl_cons, ih]
      by_cases here : key item = slot
      · subst here
        simp [change]
      · rw [List.filter_cons_of_neg (by simpa using here), change,
          Function.update_of_ne (Ne.symm here)]

/-- Under a code without collisions, the items of a slot are those of one label. -/
theorem filter_code {label : ι → τ} [DecidableEq τ] {code : τ → κ} {labels : Set τ}
    (injective : Set.InjOn code labels) {items : List ι}
    (within : ∀ item ∈ items, label item ∈ labels) {one : τ} (member : one ∈ labels) :
    items.filter (fun item => code (label item) = code one) = items.filter (label · = one) := by
  apply List.filter_congr
  intro item present
  rw [decide_eq_decide]
  constructor
  · intro same
    exact injective (within item present) member same
  · intro same
    rw [same]

end Gdbserver.Logic.Slots
