import Mathlib.Data.List.Basic

/-!
# Checks

A check reads a list item by item. It keeps a state and may refuse an item.
-/

set_option autoImplicit false

namespace Gdbserver.Logic

variable {σ ι : Type} {check : σ → ι → Option σ}

/-- Items that leave every state as it is can be passed over. -/
theorem foldlM_ignored {items : List ι}
    (ignored : ∀ item ∈ items, ∀ state, check state item = some state) (state : σ) :
    items.foldlM check state = some state := by
  induction items with
  | nil => rfl
  | cons item items ih =>
      have later := ih fun other member => ignored other (List.mem_cons_of_mem _ member)
      simp [ignored item List.mem_cons_self, later]

end Gdbserver.Logic
