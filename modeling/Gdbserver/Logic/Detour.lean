import Mathlib.Data.List.Basic

/-!
# A queue with a detour

Items are posted one after the other. Some go to a queue directly, the others
wait in a queue of their own before they are put into the first. The direct
ones may overtake the others, but not the other way round.
-/

set_option autoImplicit false

namespace Gdbserver.Logic

variable {α : Type}

/-- What has been posted, in which order it was put into the queue, and what
still waits. -/
inductive Detour (direct : α → Bool) : List α → List α → List α → Prop
  | start : Detour direct [] [] []
  | straight {posts order waiting : List α} {item : α} (is : direct item = true) :
      Detour direct posts order waiting → Detour direct (posts ++ [item]) (order ++ [item]) waiting
  | waits {posts order waiting : List α} {item : α} (is : direct item = false) :
      Detour direct posts order waiting → Detour direct (posts ++ [item]) order (waiting ++ [item])
  | released {posts order waiting : List α} {item : α} :
      Detour direct posts order (item :: waiting) → Detour direct posts (order ++ [item]) waiting

/-- Both kinds stay in the order of their posts, and whatever was posted directly
before an item that had to wait is in the queue before it. -/
structure KeepsOrder (direct : α → Bool) (posts order : List α) : Prop where
  straight : order.filter direct = posts.filter direct
  waited : order.filter (fun item => !direct item) <+: posts.filter fun item => !direct item
  notOvertaken : ∀ before late after, order = before ++ late :: after → direct late = false →
    ∃ earlier later, posts = earlier ++ late :: later ∧
      earlier.filter (fun item => !direct item) = before.filter (fun item => !direct item) ∧
      earlier.filter direct <+: before.filter direct

private theorem concat_eq_split {order before after : List α} {item late : α}
    (split : order ++ [item] = before ++ late :: after) :
    (order = before ∧ item = late) ∨ ∃ rest, order = before ++ late :: rest := by
  rcases List.eq_nil_or_concat after with rfl | ⟨rest, last, rfl⟩
  · obtain ⟨same, last⟩ := List.append_inj' split rfl
    exact Or.inl ⟨same, (List.cons.inj last).1⟩
  · rw [List.concat_eq_append, ← List.cons_append, ← List.append_assoc] at split
    exact Or.inr ⟨rest, (List.append_inj' split rfl).1⟩

namespace Detour

variable {direct : α → Bool} {posts order waiting : List α}

theorem waiting_not_direct (detour : Detour direct posts order waiting) :
    ∀ item ∈ waiting, direct item = false := by
  induction detour with
  | start => exact List.forall_mem_nil _
  | straight _ _ ih => exact ih
  | waits is _ ih =>
      intro item member
      rcases List.mem_append.mp member with earlier | last
      · exact ih item earlier
      · rw [List.mem_singleton.mp last, is]
  | released _ ih => exact (List.forall_mem_cons.mp ih).2

theorem filter_direct (detour : Detour direct posts order waiting) :
    order.filter direct = posts.filter direct := by
  induction detour with
  | start => rfl
  | straight is _ ih => rw [List.filter_append, List.filter_append, ih]
  | waits is _ ih => rw [List.filter_append, List.filter_singleton, is, ih]; simp
  | released detour ih =>
      have is := (List.forall_mem_cons.mp detour.waiting_not_direct).1
      rw [List.filter_append, List.filter_singleton, is, ih]
      simp

theorem filter_waited (detour : Detour direct posts order waiting) :
    order.filter (fun item => !direct item) ++ waiting = posts.filter fun item => !direct item := by
  induction detour with
  | start => rfl
  | straight is _ ih => simp [is, ih]
  | waits is _ ih => simp [is, ← ih]
  | released detour ih =>
      have is := (List.forall_mem_cons.mp detour.waiting_not_direct).1
      simp [is, ← ih]

/-- Several posts in a row. -/
theorem append (detour : Detour direct posts order waiting) (items : List α) :
    Detour direct (posts ++ items) (order ++ items.filter direct)
      (waiting ++ items.filter fun item => !direct item) := by
  induction items generalizing posts order waiting with
  | nil => simpa using detour
  | cons item rest ih =>
      cases is : direct item with
      | true => simpa [is] using ih (detour.straight is)
      | false => simpa [is] using ih (detour.waits is)

theorem notOvertaken (detour : Detour direct posts order waiting) :
    ∀ before late after, order = before ++ late :: after → direct late = false →
      ∃ earlier later, posts = earlier ++ late :: later ∧
        earlier.filter (fun item => !direct item) = before.filter (fun item => !direct item) ∧
        earlier.filter direct <+: before.filter direct := by
  induction detour with
  | start => exact fun before late after split => absurd split (by simp)
  | @straight posts order waiting item is detour ih =>
      intro before late after split waited
      rcases concat_eq_split split with ⟨-, rfl⟩ | ⟨rest, shorter⟩
      · exact absurd (is.symm.trans waited) Bool.noConfusion
      · obtain ⟨earlier, later, rfl, waitedSame, directSame⟩ := ih before late rest shorter waited
        exact ⟨earlier, later ++ [item], by simp, waitedSame, directSame⟩
  | @waits posts order waiting item is detour ih =>
      intro before late after split waited
      obtain ⟨earlier, later, rfl, waitedSame, directSame⟩ := ih before late after split waited
      exact ⟨earlier, later ++ [item], by simp, waitedSame, directSame⟩
  | @released posts order waiting item detour ih =>
      intro before late after split waited
      rcases concat_eq_split split with ⟨rfl, rfl⟩ | ⟨rest, shorter⟩
      · -- everything direct that has been posted is in the queue already
        have all := detour.filter_direct
        obtain ⟨earlier, later, rfl, waitedSame, found⟩ :=
          List.filter_eq_append_iff.mp detour.filter_waited.symm
        obtain ⟨skipped, rest, rfl, none, _, _⟩ := List.filter_eq_cons_iff.mp found
        refine ⟨earlier ++ skipped, rest, by simp, ?_, ?_⟩
        · rw [List.filter_append, waitedSame, List.filter_eq_nil_iff.mpr none, List.append_nil]
        · rw [all]
          exact ⟨(item :: rest).filter direct, by simp⟩
      · exact ih before late rest shorter waited

theorem keepsOrder (detour : Detour direct posts order waiting) : KeepsOrder direct posts order :=
  ⟨detour.filter_direct, ⟨waiting, detour.filter_waited⟩, detour.notOvertaken⟩

end Detour

end Gdbserver.Logic
