import Mathlib.Data.List.Basic

/-!
# Escapes by position

A text is read from the left, and the escape symbol hides the symbol after it,
be it another escape symbol. What is hidden is told by the position alone.
-/

set_option autoImplicit false

namespace Gdbserver.Logic

variable {α : Type} (escape : α)

/-- The symbol before is an escape symbol that is not escaped itself. -/
def Escaped (text : List α) : Nat → Prop
  | 0 => False
  | position + 1 => text[position]? = some escape ∧ ¬ Escaped text position

/-- The first place at which the mark stands for itself. -/
structure FirstUnescaped (mark : α) (text : List α) (position : Nat) : Prop where
  here : text[position]? = some mark
  plain : ¬ Escaped escape text position
  first : ∀ earlier < position, text[earlier]? = some mark → Escaped escape text earlier

variable {escape}

/-- A symbol that is no escape symbol has no effect on what follows. -/
theorem escaped_cons {symbol : α} (ordinary : symbol ≠ escape) (text : List α) (position : Nat) :
    Escaped escape (symbol :: text) (position + 1) ↔ Escaped escape text position := by
  induction position with
  | zero => simp [Escaped, ordinary]
  | succ position ih =>
      rw [Escaped, ih, List.getElem?_cons_succ, Escaped]

/-- What follows an escape pair is read as if it stood alone. -/
theorem escaped_pair (symbol : α) (text : List α) (position : Nat) :
    Escaped escape (escape :: symbol :: text) (position + 2) ↔ Escaped escape text position := by
  induction position with
  | zero => simp [Escaped]
  | succ position ih =>
      rw [Escaped, ih, List.getElem?_cons_succ, List.getElem?_cons_succ, Escaped]

variable {mark : α}

theorem firstUnescaped_zero (text : List α) : FirstUnescaped escape mark (mark :: text) 0 :=
  ⟨rfl, id, fun _ before => absurd before (Nat.not_lt_zero _)⟩

theorem firstUnescaped_cons {symbol : α} (ordinary : symbol ≠ escape) (text : List α)
    (position : Nat) :
    FirstUnescaped escape mark (symbol :: text) (position + 1) ↔
      symbol ≠ mark ∧ FirstUnescaped escape mark text position := by
  constructor
  · rintro ⟨here, plain, first⟩
    rw [escaped_cons ordinary] at plain
    refine ⟨fun same => ?_, here, plain, fun earlier before found => ?_⟩
    · exact first 0 (Nat.succ_pos position) (congrArg some same)
    · exact (escaped_cons ordinary text earlier).mp
        (first (earlier + 1) (Nat.succ_lt_succ before) found)
  · rintro ⟨other, here, plain, first⟩
    refine ⟨here, fun hidden => plain ((escaped_cons ordinary text position).mp hidden), ?_⟩
    intro earlier before found
    cases earlier with
    | zero => exact absurd (Option.some.inj found) other
    | succ earlier =>
        exact (escaped_cons ordinary text earlier).mpr
          (first earlier (Nat.lt_of_succ_lt_succ before) found)

theorem firstUnescaped_pair (ordinary : mark ≠ escape) (symbol : α) (text : List α)
    (position : Nat) :
    FirstUnescaped escape mark (escape :: symbol :: text) (position + 2) ↔
      FirstUnescaped escape mark text position := by
  constructor
  · rintro ⟨here, plain, first⟩
    rw [escaped_pair] at plain
    refine ⟨here, plain, fun earlier before found => ?_⟩
    exact (escaped_pair symbol text earlier).mp
      (first (earlier + 2) (Nat.add_lt_add_right before 2) found)
  · rintro ⟨here, plain, first⟩
    refine ⟨here, fun hidden => plain ((escaped_pair symbol text position).mp hidden), ?_⟩
    intro earlier before found
    match earlier with
    | 0 => exact absurd (Option.some.inj found).symm ordinary
    -- the second symbol of the pair may well be the mark
    | 1 => exact ⟨rfl, id⟩
    | earlier + 2 =>
        exact (escaped_pair symbol text earlier).mpr
          (first earlier (Nat.lt_of_add_lt_add_right before) found)

/-- A mark right after a lone escape symbol is never the first one. -/
theorem not_firstUnescaped_one (text : List α) :
    ¬ FirstUnescaped escape mark (escape :: text) 1 := fun found => found.plain ⟨rfl, id⟩

end Gdbserver.Logic
