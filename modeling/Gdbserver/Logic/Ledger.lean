import Mathlib.Data.List.Induction
import Mathlib.Logic.Function.Basic

/-!
# Resources and their owners

A log of what is done with resources that are handed out and given back. Who owns a
resource can be read off the log, and a log is lawful if nothing but an owner's own
is ever used or given back.
-/

set_option autoImplicit false

namespace Gdbserver.Logic

inductive Deed (ρ ω : Type) where
  | acquire (resource : ρ) (owner : ω)
  | use (resource : ρ) (owner : ω)
  | release (resource : ρ) (owner : ω)
  deriving DecidableEq, Repr

namespace Ledger

variable {ρ ω : Type} [DecidableEq ρ]

def after (owners : ρ → Option ω) : Deed ρ ω → ρ → Option ω
  | .acquire resource owner => Function.update owners resource (some owner)
  | .use _ _ => owners
  | .release resource _ => Function.update owners resource none

def owner (log : List (Deed ρ ω)) : ρ → Option ω := log.foldl after fun _ => none

def Allowed (log : List (Deed ρ ω)) : Deed ρ ω → Prop
  | .acquire resource _ => owner log resource = none
  | .use resource holder => owner log resource = some holder
  | .release resource holder => owner log resource = some holder

instance [DecidableEq ω] (log : List (Deed ρ ω)) (deed : Deed ρ ω) :
    Decidable (Allowed log deed) :=
  match deed with
  | .acquire _ _ => inferInstanceAs (Decidable (_ = _))
  | .use _ _ => inferInstanceAs (Decidable (_ = _))
  | .release _ _ => inferInstanceAs (Decidable (_ = _))

/-- Every deed was allowed when it was done. -/
def Lawful (log : List (Deed ρ ω)) : Prop :=
  ∀ earlier deed later, log = earlier ++ deed :: later → Allowed earlier deed

/-- Every resource has been given back. -/
def Settled (log : List (Deed ρ ω)) : Prop := ∀ resource, owner log resource = none

/-- The resources that are out. -/
def held (log : List (Deed ρ ω)) : List ρ :=
  (log.filterMap fun deed => match deed with
    | .acquire resource _ => some resource
    | .use _ _ => none
    | .release _ _ => none).filter fun resource => (owner log resource).isSome

variable {log : List (Deed ρ ω)} {deed : Deed ρ ω} {resource : ρ} {holder : ω}

theorem owner_snoc (log : List (Deed ρ ω)) (deed : Deed ρ ω) :
    owner (log ++ [deed]) = after (owner log) deed := by
  rw [owner, List.foldl_append]
  rfl

theorem lawful_nil : Lawful ([] : List (Deed ρ ω)) := by
  intro earlier deed later split
  cases earlier <;> cases split

theorem Lawful.shorter {whole : List (Deed ρ ω)} (lawful : Lawful whole) (starts : log <+: whole) :
    Lawful log := by
  obtain ⟨rest, rfl⟩ := starts
  intro earlier deed later split
  refine lawful earlier deed (later ++ rest) ?_
  rw [split, List.append_assoc, List.cons_append]

theorem lawful_snoc_iff : Lawful (log ++ [deed]) ↔ Lawful log ∧ Allowed log deed := by
  constructor
  · intro lawful
    exact ⟨lawful.shorter (List.prefix_append log [deed]), lawful log deed [] rfl⟩
  · rintro ⟨lawful, allowed⟩ earlier before later split
    rcases List.eq_nil_or_concat later with rfl | ⟨rest, last, rfl⟩
    · obtain ⟨same, sameDeed⟩ := List.append_inj' split rfl
      cases sameDeed
      exact same ▸ allowed
    · rw [List.concat_eq_append, ← List.cons_append, ← List.append_assoc] at split
      exact lawful earlier before rest (List.append_inj' split rfl).1

/-- A resource that is given back at once leaves no trace among the owners. -/
theorem owner_returned (free : owner log resource = none) :
    owner (log ++ [.acquire resource holder] ++ [.release resource holder]) = owner log := by
  rw [owner_snoc, owner_snoc, after, after, Function.update_idem, ← free, Function.update_eq_self]

theorem lawful_returned (lawful : Lawful log) (free : owner log resource = none) :
    Lawful (log ++ [.acquire resource holder] ++ [.release resource holder]) := by
  refine lawful_snoc_iff.mpr ⟨lawful_snoc_iff.mpr ⟨lawful, free⟩, ?_⟩
  rw [Allowed, owner_snoc, after, Function.update_self]

theorem exists_acquired (owned : owner log resource = some holder) :
    .acquire resource holder ∈ log := by
  induction log using List.reverseRecOn with
  | nil => cases owned
  | append_singleton log deed ih =>
      rw [owner_snoc] at owned
      rw [List.mem_append, List.mem_singleton]
      cases deed with
      | acquire other holder =>
          by_cases same : resource = other
          · subst same
            rw [after, Function.update_self] at owned
            cases owned
            exact .inr rfl
          · rw [after, Function.update_of_ne same] at owned
            exact .inl (ih owned)
      | use => exact .inl (ih owned)
      | release other =>
          by_cases same : resource = other
          · subst same
            rw [after, Function.update_self] at owned
            cases owned
          · rw [after, Function.update_of_ne same] at owned
            exact .inl (ih owned)

theorem mem_held_of_owner (owned : owner log resource = some holder) : resource ∈ held log := by
  rw [held, List.mem_filter, List.mem_filterMap]
  exact ⟨⟨_, exists_acquired owned, rfl⟩, by rw [owned]; rfl⟩

/-- What is not out has no owner. -/
theorem owner_of_not_mem_held (free : resource ∉ held log) : owner log resource = none := by
  cases owned : owner log resource with
  | none => rfl
  | some holder => exact absurd (mem_held_of_owner owned) free

/-- A log without a breach, and who has what at its end. -/
structure Stands (log : List (Deed ρ ω)) (owners : ρ → Option ω) : Prop where
  lawful : Lawful log
  owner : owner log = owners

section Stands

variable {owners : ρ → Option ω}

theorem stands_nil : Stands ([] : List (Deed ρ ω)) fun _ => none := ⟨lawful_nil, rfl⟩

theorem Stands.acquire (stands : Stands log owners) (free : owners resource = none) :
    Stands (log ++ [.acquire resource holder]) (Function.update owners resource (some holder)) := by
  refine ⟨lawful_snoc_iff.mpr ⟨stands.lawful, ?_⟩, ?_⟩
  · rw [Allowed, stands.owner, free]
  · rw [owner_snoc, stands.owner, after]

theorem Stands.use (stands : Stands log owners) (owned : owners resource = some holder) :
    Stands (log ++ [.use resource holder]) owners := by
  refine ⟨lawful_snoc_iff.mpr ⟨stands.lawful, ?_⟩, ?_⟩
  · rw [Allowed, stands.owner, owned]
  · rw [owner_snoc, stands.owner, after]

theorem Stands.release (stands : Stands log owners) (owned : owners resource = some holder) :
    Stands (log ++ [.release resource holder]) (Function.update owners resource none) := by
  refine ⟨lawful_snoc_iff.mpr ⟨stands.lawful, ?_⟩, ?_⟩
  · rw [Allowed, stands.owner, owned]
  · rw [owner_snoc, stands.owner, after]

end Stands

end Ledger

end Gdbserver.Logic
