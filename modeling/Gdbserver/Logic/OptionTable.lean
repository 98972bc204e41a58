import Mathlib.Data.List.Forall2
import Mathlib.Data.List.Infix
import Mathlib.Data.List.Pairwise

/-!
# Tables of options

A text is looked up in a table of patterns, and the first one that fits decides. When no
text fits two patterns of the table, the order of the table does not matter. Settings
that are made one after the other come to what the last of them for a field says.
-/

set_option autoImplicit false

namespace Gdbserver.Logic

/-- What a text is compared with: all of it, or its beginning. -/
inductive Pattern (α : Type) where
  | exactly (text : List α)
  | starts (text : List α)
  deriving DecidableEq, Repr

namespace Pattern

variable {α κ : Type} [DecidableEq α]

/-- What follows the text of the pattern in a text that fits. -/
def argument : Pattern α → List α → Option (List α)
  | .exactly text, string => if string = text then some [] else none
  | .starts text, string =>
      if string.length < text.length then none
      else if string.take text.length ≠ text then none
      else some (string.drop text.length)

/-- No text fits both patterns. -/
def Apart : Pattern α → Pattern α → Prop
  | .exactly text, .exactly other => text ≠ other
  | .exactly text, .starts other => ¬ other <+: text
  | .starts text, .exactly other => ¬ text <+: other
  | .starts text, .starts other => ¬ text <+: other ∧ ¬ other <+: text

instance : DecidableRel (@Apart α)
  | .exactly text, .exactly other => inferInstanceAs (Decidable (text ≠ other))
  | .exactly text, .starts other => inferInstanceAs (Decidable (¬ other <+: text))
  | .starts text, .exactly other => inferInstanceAs (Decidable (¬ text <+: other))
  | .starts text, .starts other =>
      inferInstanceAs (Decidable (¬ text <+: other ∧ ¬ other <+: text))

/-- The first key whose pattern fits, and the argument. -/
def lookup (pattern : κ → Pattern α) (keys : List κ) (string : List α) : Option (κ × List α) :=
  keys.findSome? fun key => ((pattern key).argument string).map fun rest => (key, rest)

variable {string text rest : List α}

theorem argument_exactly_iff :
    (exactly text).argument string = some rest ↔ string = text ∧ rest = [] := by
  by_cases same : string = text
  · simp [argument, same, eq_comm]
  · simp [argument, same]

theorem argument_starts_iff :
    (starts text).argument string = some rest ↔ string = text ++ rest := by
  constructor
  · intro fits
    simp only [argument] at fits
    split at fits
    · cases fits
    · split at fits
      · cases fits
      · rename_i same
        have front : string.take text.length = text := Decidable.not_not.mp same
        calc string = string.take text.length ++ string.drop text.length :=
              (List.take_append_drop _ _).symm
          _ = text ++ rest := by rw [front, Option.some.inj fits]
  · rintro rfl
    simp [argument]

theorem Apart.argument_eq_none {pattern other : Pattern α} (apart : pattern.Apart other)
    (fits : pattern.argument string = some rest) : other.argument string = none := by
  rw [Option.eq_none_iff_forall_ne_some]
  intro second otherFits
  cases pattern with
  | exactly text =>
      obtain ⟨rfl, -⟩ := argument_exactly_iff.mp fits
      cases other with
      | exactly second => exact apart (argument_exactly_iff.mp otherFits).1
      | starts second => exact apart ⟨_, (argument_starts_iff.mp otherFits).symm⟩
  | starts text =>
      have front : text <+: string := ⟨rest, (argument_starts_iff.mp fits).symm⟩
      cases other with
      | exactly second =>
          obtain ⟨rfl, -⟩ := argument_exactly_iff.mp otherFits
          exact apart front
      | starts second =>
          have otherFront : second <+: string := ⟨_, (argument_starts_iff.mp otherFits).symm⟩
          rcases List.prefix_or_prefix_of_prefix front otherFront with shorter | longer
          · exact apart.1 shorter
          · exact apart.2 longer

/-- A table of patterns that are apart finds a key exactly when its pattern fits. -/
theorem lookup_eq_some_iff {pattern : κ → Pattern α} {keys : List κ} {key : κ}
    (apart : keys.Pairwise fun key other => (pattern key).Apart (pattern other)) :
    lookup pattern keys string = some (key, rest) ↔
      key ∈ keys ∧ (pattern key).argument string = some rest := by
  induction keys with
  | nil => simp [lookup]
  | cons first keys ih =>
      obtain ⟨firstApart, laterApart⟩ := List.pairwise_cons.mp apart
      have later := ih laterApart
      rw [lookup] at later
      rw [lookup, List.findSome?_cons, List.mem_cons]
      cases fits : (pattern first).argument string with
      | none =>
          rw [Option.map_none, later]
          constructor
          · rintro ⟨member, found⟩
            exact ⟨.inr member, found⟩
          · rintro ⟨rfl | member, found⟩
            · rw [fits] at found
              cases found
            · exact ⟨member, found⟩
      | some argument =>
          rw [Option.map_some]
          constructor
          · intro found
            cases found
            exact ⟨.inl rfl, fits⟩
          · rintro ⟨rfl | member, found⟩
            · rw [fits] at found
              rw [Option.some.inj found]
            · rw [(firstApart key member).argument_eq_none fits] at found
              cases found

end Pattern

/-! ## Settings that override each other -/

section Overriding

variable {ι σ β γ ε : Type}

theorem bind_ok_iff {first : Except ε β} {next : β → Except ε γ} {result : γ} :
    (first >>= next) = .ok result ↔ ∃ value, first = .ok value ∧ next value = .ok result := by
  cases first <;> simp [bind, Except.bind]

theorem map_ok_iff {first : Except ε β} {next : β → γ} {result : γ} :
    first.map next = .ok result ↔ ∃ value, first = .ok value ∧ next value = result := by
  cases first <;> simp [Except.map]

/-- Items that are read one after the other and applied as they are read, until one
cannot be read. -/
def applyAll (read : γ → Except ε ι) (apply : σ → ι → σ) (state : σ) (texts : List γ) :
    Except ε σ :=
  texts.foldlM (fun state text => (read text).map (apply state)) state

theorem applyAll_append (read : γ → Except ε ι) (apply : σ → ι → σ) (state : σ)
    (texts more : List γ) :
    applyAll read apply state (texts ++ more) =
      applyAll read apply state texts >>= fun state => applyAll read apply state more := by
  rw [applyAll, List.foldlM_append]
  rfl

/-- The whole list is accepted when every text can be read. -/
theorem applyAll_ok_iff {read : γ → Except ε ι} {apply : σ → ι → σ} {state final : σ}
    {texts : List γ} :
    applyAll read apply state texts = .ok final ↔
      ∃ items, List.Forall₂ (fun item text => read text = .ok item) items texts ∧
        final = items.foldl apply state := by
  induction texts generalizing state with
  | nil =>
      constructor
      · intro accepted
        exact ⟨[], .nil, (Except.ok.inj accepted).symm⟩
      · rintro ⟨items, every, rfl⟩
        cases every
        rfl
  | cons text texts ih =>
      rw [applyAll, List.foldlM_cons, bind_ok_iff]
      constructor
      · rintro ⟨next, first, later⟩
        obtain ⟨item, found, rfl⟩ := map_ok_iff.mp first
        obtain ⟨items, every, rfl⟩ := ih.mp later
        exact ⟨item :: items, .cons found every, rfl⟩
      · rintro ⟨items, every, rfl⟩
        cases every with
        | cons found later =>
            exact ⟨_, map_ok_iff.mpr ⟨_, found, rfl⟩, ih.mpr ⟨_, later, rfl⟩⟩

/-- The value of the last item that has one. -/
def lastOf (view : ι → Option β) (initial : β) (items : List ι) : β :=
  (items.filterMap view).getLastD initial

theorem lastOf_cons (view : ι → Option β) (initial : β) (item : ι) (items : List ι) :
    lastOf view initial (item :: items) = lastOf view ((view item).getD initial) items := by
  cases seen : view item with
  | none => rw [lastOf, lastOf, List.filterMap_cons_none seen, Option.getD_none]
  | some value =>
      rw [lastOf, lastOf, List.filterMap_cons_some seen, Option.getD_some, List.getLastD_cons]

/-- The last value is one that an item has, or there is none. -/
theorem lastOf_mem (view : ι → Option β) (initial : β) (items : List ι) :
    lastOf view initial items = initial ∨
      ∃ item ∈ items, view item = some (lastOf view initial items) := by
  cases seen : (items.filterMap view).getLast? with
  | none =>
      left
      rw [lastOf, List.getLastD_eq_getLast?, seen, Option.getD_none]
  | some value =>
      right
      rw [lastOf, List.getLastD_eq_getLast?, seen, Option.getD_some]
      exact List.mem_filterMap.mp (List.mem_of_getLast? seen)

/-- A field that every item sets or leaves alone has the last value it was set to. -/
theorem foldl_eq_lastOf (field : σ → β) {apply : σ → ι → σ} {view : ι → Option β}
    (step : ∀ state item, field (apply state item) = (view item).getD (field state))
    (items : List ι) (state : σ) :
    field (items.foldl apply state) = lastOf view (field state) items := by
  induction items generalizing state with
  | nil => rfl
  | cons item items ih => rw [List.foldl_cons, ih, step, lastOf_cons]

end Overriding

end Gdbserver.Logic
