import Mathlib.Data.Fintype.Pigeonhole
import Mathlib.Data.Option.Basic

/-!
# Loops

A loop repeats a turn until one of them leaves it. A turn may itself contain a
loop, so it may fail to come back; a fuelled loop that does not end within its
fuel has no result. Whether a loop ends at all is a statement about some fuel.
-/

set_option autoImplicit false

namespace Gdbserver.Logic

inductive Turn (σ ρ : Type)
  | next (state : σ)
  | done (result : ρ)
  deriving DecidableEq, Repr

def loop {σ ρ : Type} (turn : σ → Option (Turn σ ρ)) : Nat → σ → Option ρ
  | 0, _ => none
  | fuel + 1, state =>
      match turn state with
      | none => none
      | some (.done result) => some result
      | some (.next reached) => loop turn fuel reached

section

variable {σ ρ : Type} {turn : σ → Option (Turn σ ρ)} {state reached : σ} {result : ρ}

theorem loop_done (leaves : turn state = some (.done result)) (fuel : Nat) :
    loop turn (fuel + 1) state = some result := by
  simp [loop, leaves]

theorem loop_next (goesOn : turn state = some (.next reached)) (fuel : Nat) :
    loop turn (fuel + 1) state = loop turn fuel reached := by
  simp [loop, goesOn]

theorem loop_mono {fuel more : Nat} (ended : loop turn fuel state = some result)
    (enough : fuel ≤ more) : loop turn more state = some result := by
  induction fuel generalizing state more with
  | zero => simp [loop] at ended
  | succ fuel ih =>
      obtain ⟨more, rfl⟩ : ∃ rest, more = rest + 1 := ⟨more - 1, by omega⟩
      cases outcome : turn state with
      | none => simp [loop, outcome] at ended
      | some taken =>
          cases taken with
          | done returned =>
              simp [loop, outcome] at ended
              rw [loop_done outcome, ended]
          | next reached =>
              rw [loop_next outcome] at ended ⊢
              exact ih ended (Nat.le_of_succ_le_succ enough)

/-- The states at the start of the turns. -/
inductive Reached (turn : σ → Option (Turn σ ρ)) (start : σ) : σ → Prop
  | start : Reached turn start start
  | turn {state reached : σ} : Reached turn start state →
      turn state = some (.next reached) → Reached turn start reached

theorem Reached.after {start : σ} (goesOn : turn start = some (.next state))
    (path : Reached turn state reached) : Reached turn start reached := by
  induction path with
  | start => exact .turn .start goesOn
  | turn _ goesOn ih => exact .turn ih goesOn

/-- A result is that of the last turn. -/
theorem reached_of_loop {fuel : Nat} {start : σ} (ended : loop turn fuel start = some result) :
    ∃ last, Reached turn start last ∧ turn last = some (.done result) := by
  induction fuel generalizing start with
  | zero => simp [loop] at ended
  | succ fuel ih =>
      cases outcome : turn start with
      | none => simp [loop, outcome] at ended
      | some taken =>
          cases taken with
          | done returned =>
              simp [loop, outcome] at ended
              subst ended
              exact ⟨start, .start, outcome⟩
          | next reached =>
              rw [loop_next outcome] at ended
              obtain ⟨last, path, leaves⟩ := ih ended
              exact ⟨last, path.after outcome, leaves⟩

theorem loop_of_reached {start last : σ} (path : Reached turn start last)
    {fuel : Nat} (ended : loop turn fuel last = some result) :
    ∃ enough, loop turn enough start = some result := by
  induction path generalizing fuel with
  | start => exact ⟨fuel, ended⟩
  | turn _ goesOn ih => exact ih ((loop_next goesOn fuel).trans ended)

/-- The variant rule: a loop whose turns come back and lower a measure ends. -/
theorem loop_ends (holds : σ → Prop) (measure : σ → Nat)
    (comesBack : ∀ state, holds state → ∃ taken, turn state = some taken ∧
      ∀ reached, taken = .next reached → holds reached ∧ measure reached < measure state)
    {fuel : Nat} (initially : holds state) (enough : measure state < fuel) :
    ∃ result, loop turn fuel state = some result := by
  induction fuel generalizing state with
  | zero => exact absurd enough (Nat.not_lt_zero _)
  | succ fuel ih =>
      obtain ⟨taken, outcome, lower⟩ := comesBack state initially
      cases taken with
      | done result => exact ⟨result, loop_done outcome fuel⟩
      | next reached =>
          obtain ⟨kept, less⟩ := lower reached rfl
          rw [loop_next outcome]
          exact ih kept (Nat.lt_of_lt_of_le less (Nat.le_of_lt_succ enough))

end

/-! ## Following a partial function -/

section

variable {κ : Type} (next : κ → Option κ)

/-- Where the walk is after so many moves, `none` when it has ended before. -/
def walk (start : κ) : Nat → Option κ
  | 0 => some start
  | moves + 1 => (walk start moves).bind next

variable {next} {start : κ}

theorem walk_succ (moves : Nat) : walk next start (moves + 1) = (next start).bind
    fun second => walk next second moves := by
  induction moves with
  | zero => simp [walk]
  | succ moves ih =>
      rw [walk, ih]
      cases next start with
      | none => rfl
      | some second => rfl

theorem walk_add (moves more : Nat) : walk next start (moves + more) =
    (walk next start moves).bind fun place => walk next place more := by
  induction more with
  | zero => simp [walk]
  | succ more ih =>
      rw [Nat.add_succ, walk, ih]
      cases walk next start moves with
      | none => rfl
      | some place => rfl

theorem walk_none_of_le {moves more : Nat} (ended : walk next start moves = none)
    (later : moves ≤ more) : walk next start more = none := by
  obtain ⟨rest, rfl⟩ := Nat.exists_eq_add_of_le later
  rw [walk_add, ended]
  rfl

/-- A place visited again is visited for ever. -/
theorem walk_goes_on {first again : Nat} {place : κ} (before : first < again)
    (visited : walk next start first = some place)
    (revisited : walk next start again = some place) (moves : Nat) :
    (walk next start moves).isSome := by
  by_contra ended
  rw [Option.not_isSome_iff_eq_none] at ended
  -- the walk is at the place again after every round
  have rounds : ∀ count, walk next start (first + count * (again - first)) = some place := by
    intro count
    induction count with
    | zero => simpa using visited
    | succ count ih =>
        have split : first + (count + 1) * (again - first) =
            first + count * (again - first) + (again - first) := by
          rw [Nat.succ_mul, Nat.add_assoc]
        have round : walk next place (again - first) = some place := by
          have whole : walk next start (first + (again - first)) =
              (walk next start first).bind fun place => walk next place (again - first) :=
            walk_add first (again - first)
          rw [Nat.add_sub_cancel' (Nat.le_of_lt before), visited, revisited] at whole
          exact whole.symm
        rw [split, walk_add, ih]
        exact round
  have far : moves ≤ first + moves * (again - first) :=
    Nat.le_add_left_of_le (Nat.le_mul_of_pos_right _ (Nat.sub_pos_of_lt before))
  have late := rounds moves
  rw [walk_none_of_le ended far] at late
  cases late

/-- Among finitely many places a walk ends exactly when it visits none twice. -/
theorem walk_ends_iff [Finite κ] : (∃ moves, walk next start moves = none) ↔
    ∀ first again place, first < again → walk next start first = some place →
      walk next start again ≠ some place := by
  constructor
  · rintro ⟨moves, ended⟩ first again place before visited revisited
    have goesOn := walk_goes_on before visited revisited moves
    rw [ended] at goesOn
    cases goesOn
  · intro once
    by_contra endless
    have somewhere : ∀ moves, ∃ place, walk next start moves = some place := by
      intro moves
      exact Option.ne_none_iff_exists'.mp fun ended => endless ⟨moves, ended⟩
    choose place visited using somewhere
    obtain ⟨first, again, different, same⟩ := Finite.exists_ne_map_eq_of_infinite place
    rcases Nat.lt_or_gt_of_ne different with before | after
    · exact once first again _ before (visited first) (same ▸ visited again)
    · exact once again first _ after (visited again) (same ▸ visited first)

end

end Gdbserver.Logic
