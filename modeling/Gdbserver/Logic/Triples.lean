import Gdbserver.Logic.Prog

/-!
# Triples

What a program guarantees from the states with a precondition. A program that stops has
no result, but something may still be known of the state it leaves.
-/

set_option autoImplicit false

namespace Gdbserver.Logic

variable {σ τ α β : Type}

/-- From a state with `pre` the program ends with `post`, or it stops with `stopped`. -/
def Triple (pre : σ → Prop) (program : Prog σ α) (post : α → σ → Prop) (stopped : σ → Prop) :
    Prop := ∀ state, pre state →
  match program state with
  | (some value, reached) => post value reached
  | (none, reached) => stopped reached

namespace Triple

variable {pre : σ → Prop} {stopped : σ → Prop} {post : α → σ → Prop}

theorem pure {value : α} (holds : ∀ state, pre state → post value state) :
    Triple pre (pure value) post stopped := holds

theorem stop (holds : ∀ state, pre state → stopped state) :
    Triple pre (Prog.stop : Prog σ α) post stopped := holds

theorem read {view : σ → α} (holds : ∀ state, pre state → post (view state) state) :
    Triple pre (Prog.read view) post stopped := holds

theorem modify {update : σ → σ} {post : Unit → σ → Prop}
    (holds : ∀ state, pre state → post () (update state)) :
    Triple pre (Prog.modify update) post stopped := holds

theorem bind {first : Prog σ α} {next : α → Prog σ β} {post : β → σ → Prop}
    {middle : α → σ → Prop} (head : Triple pre first middle stopped)
    (tail : ∀ value, Triple (middle value) (next value) post stopped) :
    Triple pre (first >>= next) post stopped := by
  intro state start
  have outcome := head state start
  cases ran : first state with
  | mk result reached =>
      rw [ran] at outcome
      cases result with
      | none =>
          rw [Prog.bind_of_none ran]
          exact outcome
      | some value =>
          rw [Prog.bind_of_some ran]
          exact tail value reached outcome

/-- What is read, and what is known about it wherever the program may be. -/
theorem reading {view : σ → α} {next : α → Prog σ β} {post : β → σ → Prop} (fact : α → Prop)
    (known : ∀ state, fact (view state))
    (tail : ∀ value, fact value → Triple pre (next value) post stopped) :
    Triple pre (Prog.read view >>= next) post stopped := fun state start =>
  tail (view state) (known state) state start

/-- `if (!first) return failed; done` -/
theorem check {first : Prog σ Bool} {failed done : Prog σ α} {middle : Bool → σ → Prop}
    (head : Triple pre first middle stopped) (no : Triple (middle false) failed post stopped)
    (yes : Triple (middle true) done post stopped) :
    Triple pre (do if !(← first) then failed else done) post stopped := by
  refine head.bind fun ok => ?_
  cases ok with
  | false => exact no
  | true => exact yes

/-- A part of the precondition that is not about the state. -/
theorem assuming {fact : Prop} {program : Prog σ α}
    (triple : fact → Triple pre program post stopped) :
    Triple (fun state => fact ∧ pre state) program post stopped := fun state start =>
  triple start.1 state start.2

/-- What holds where the program stops may be weaker, too. -/
theorem weaken_stopped {program : Prog σ α} {stronger : σ → Prop}
    (triple : Triple pre program post stronger) (implies : ∀ state, stronger state → stopped state) :
    Triple pre program post stopped := by
  intro state start
  have outcome := triple state start
  cases ran : program state with
  | mk result reached =>
      rw [ran] at outcome
      cases result with
      | none => exact implies reached outcome
      | some value => exact outcome

theorem weaken {program : Prog σ α} {stronger : α → σ → Prop}
    (triple : Triple pre program stronger stopped)
    (implies : ∀ value state, stronger value state → post value state) :
    Triple pre program post stopped := by
  intro state start
  have outcome := triple state start
  cases ran : program state with
  | mk result reached =>
      rw [ran] at outcome
      cases result with
      | none => exact outcome
      | some value => exact implies value reached outcome

/-- A component of a larger state. -/
theorem zoom {view : τ → σ} {update : σ → τ → τ} {inner : Prog σ α}
    (stored : ∀ part state, view (update part state) = part)
    (triple : Triple pre inner post stopped) :
    Triple (fun state => pre (view state)) (Prog.zoom view update inner)
      (fun value state => post value (view state)) fun state => stopped (view state) := by
  intro state start
  have outcome := triple (view state) start
  cases ran : inner (view state) with
  | mk result reached =>
      rw [ran] at outcome
      rw [Prog.zoom_apply, ran]
      cases result with
      | none => simpa only [stored] using outcome
      | some value => simpa only [stored] using outcome

/-- What is not said of the component. -/
theorem zoom_frame {view : τ → σ} {update : σ → τ → τ} {inner : Prog σ α} {other : τ → Prop}
    (kept : ∀ part state, other state → other (update part state)) :
    Triple other (Prog.zoom view update inner) (fun _ => other) other := by
  intro state start
  rw [Prog.zoom_apply]
  cases (inner (view state)).1 with
  | none => exact kept _ state start
  | some value => exact kept _ state start

/-- A loop, with an invariant about the items that are done. -/
theorem forM_done {ι : Type} (invariant : List ι → σ → Prop) {items : List ι}
    {body : ι → Prog σ PUnit}
    (each : ∀ done item later, items = done ++ item :: later →
      Triple (invariant done) (body item) (fun _ => invariant (done ++ [item])) stopped) :
    Triple (invariant []) (forM items body) (fun _ => invariant items) stopped := by
  induction items generalizing invariant with
  | nil => exact pure fun _ holds => holds
  | cons item items ih =>
      rw [List.forM_cons]
      refine (each [] item items rfl).bind fun _ => ?_
      exact ih _ fun done other later split => each (item :: done) other later (by rw [split]; rfl)

theorem forM {ι : Type} {invariant : σ → Prop} {items : List ι} {body : ι → Prog σ PUnit}
    (each : ∀ item, Triple invariant (body item) (fun _ => invariant) stopped) :
    Triple invariant (forM items body) (fun _ => invariant) stopped :=
  forM_done (fun _ => invariant) fun _ item _ _ => each item

end Triple

end Gdbserver.Logic
