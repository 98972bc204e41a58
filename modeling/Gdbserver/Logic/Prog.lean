import Mathlib.Logic.Function.Basic
import Mathlib.Logic.Relation

/-!
# Programs over a state

Straight-line stateful code that either ends with a value or stops the whole
program. The state reached is kept in both cases, so a property of the trace
can still be read off a program that died halfway.
-/

set_option autoImplicit false

namespace Gdbserver.Logic

/-- A program over `σ`: `none` is the end of the process, not an error result. -/
abbrev Prog (σ α : Type) : Type := σ → Option α × σ

namespace Prog

variable {σ τ α β : Type}

/-- Sequencing: nothing runs after a program that stopped. -/
def andThen (first : Prog σ α) (next : α → Prog σ β) : Prog σ β := fun state =>
  match first state with
  | (some value, reached) => next value reached
  | (none, reached) => (none, reached)

instance : Monad (Prog σ) where
  pure value := fun state => (some value, state)
  bind := andThen

/-- End the process: a null dereference, an abort. -/
def stop : Prog σ α := fun state => (none, state)

def read (view : σ → α) : Prog σ α := fun state => (some (view state), state)

def modify (update : σ → σ) : Prog σ Unit := fun state => (some (), update state)

/-- Run a program on a component of a larger state. -/
def zoom (view : τ → σ) (update : σ → τ → τ) (inner : Prog σ α) : Prog τ α := fun state =>
  ((inner (view state)).1, update (inner (view state)).2 state)

@[simp] theorem pure_apply (value : α) (state : σ) :
    (pure value : Prog σ α) state = (some value, state) := rfl

@[simp] theorem modify_apply (update : σ → σ) (state : σ) :
    modify update state = (some (), update state) := rfl

@[simp] theorem zoom_apply (view : τ → σ) (update : σ → τ → τ) (inner : Prog σ α) (state : τ) :
    zoom view update inner state =
      ((inner (view state)).1, update (inner (view state)).2 state) := rfl

theorem bind_apply (first : Prog σ α) (next : α → Prog σ β) (state : σ) :
    (first >>= next) state =
      match first state with
      | (some value, reached) => next value reached
      | (none, reached) => (none, reached) := rfl

theorem bind_of_some {first : Prog σ α} {next : α → Prog σ β} {state reached : σ} {value : α}
    (ran : first state = (some value, reached)) :
    (first >>= next) state = next value reached := by
  simp only [bind_apply, ran]

theorem bind_of_none {first : Prog σ α} {next : α → Prog σ β} {state reached : σ}
    (ran : first state = (none, reached)) :
    (first >>= next) state = (none, reached) := by
  simp only [bind_apply, ran]

theorem stopped_or_ran (program : Prog σ α) (state : σ) :
    (∃ reached, program state = (none, reached)) ∨
      ∃ value reached, program state = (some value, reached) := by
  cases ran : program state with
  | mk outcome reached =>
      cases outcome with
      | none => exact Or.inl ⟨reached, rfl⟩
      | some value => exact Or.inr ⟨value, reached, rfl⟩

@[simp] theorem read_bind (view : σ → α) (next : α → Prog σ β) (state : σ) :
    (read view >>= next) state = next (view state) state := rfl

@[simp] theorem modify_bind (update : σ → σ) (next : Unit → Prog σ β) (state : σ) :
    (modify update >>= next) state = next () (update state) := rfl

@[simp] theorem pure_bind_apply (value : α) (next : α → Prog σ β) (state : σ) :
    ((pure value : Prog σ α) >>= next) state = next value state := rfl

@[simp] theorem bind_assoc_apply {γ : Type} (first : Prog σ α) (next : α → Prog σ β)
    (last : β → Prog σ γ) (state : σ) :
    ((first >>= next) >>= last) state = (first >>= fun value => next value >>= last) state := by
  simp only [bind_apply]
  rcases first state with ⟨_ | value, reached⟩ <;> rfl

/-- `if (!condition) return` once the condition is known. -/
theorem if_not_true (yes no : α) : (if (!true) = true then yes else no) = no := rfl

theorem if_not_false (yes no : α) : (if (!false) = true then yes else no) = yes := rfl

/-- Dropping a result changes nothing about the state. -/
theorem discard_state (program : Prog σ α) (state : σ) :
    ((do let _ ← program; pure () : Prog σ Unit) state).2 = (program state).2 := by
  rcases program.stopped_or_ran state with ⟨reached, ran⟩ | ⟨value, reached, ran⟩
  · rw [bind_of_none ran, ran]
  · rw [bind_of_some ran, ran, pure_apply]

/-- Two checks in a row that fail in the same way are one check. -/
theorem check_both (first second : Prog σ Bool) (failed done : Prog σ α) :
    (do if !(← first) then failed else if !(← second) then failed else done : Prog σ α) =
      (do if !(← (do if !(← first) then pure false else second : Prog σ Bool)) then failed
          else done) := by
  funext state
  rcases first.stopped_or_ran state with ⟨middle, ran⟩ | ⟨ok, middle, ran⟩
  · rw [bind_of_none ran, bind_of_none (bind_of_none ran)]
  · rw [bind_of_some ran]
    cases ok with
    | false => simp [bind_apply, ran]
    | true => simp [bind_apply, ran]

end Prog

/-- A reflexive and transitive relation between the state before and after. -/
structure Frame (σ : Type) where
  rel : σ → σ → Prop
  refl : ∀ state, rel state state
  trans : ∀ {before middle after}, rel before middle → rel middle after → rel before after

namespace Frame

variable {σ α β : Type} (frame : Frame σ)

/-- The program stays within the frame from every state, also when it stops. -/
def Keeps (program : Prog σ α) : Prop := ∀ state, frame.rel state (program state).2

/-- The program stays within the frame and runs to its end. -/
def Runs (program : Prog σ α) : Prop :=
  ∀ state, ∃ value after, program state = (some value, after) ∧ frame.rel state after

variable {frame}

theorem Runs.keeps {program : Prog σ α} (runs : frame.Runs program) : frame.Keeps program := by
  intro state
  obtain ⟨value, after, ran, within⟩ := runs state
  rw [ran]
  exact within

theorem Runs.pure {value : α} : frame.Runs (pure value : Prog σ α) := fun state =>
  ⟨value, state, rfl, frame.refl state⟩

theorem Runs.read {view : σ → α} : frame.Runs (Prog.read view) := fun state =>
  ⟨view state, state, rfl, frame.refl state⟩

theorem Runs.modify {update : σ → σ} (within : ∀ state, frame.rel state (update state)) :
    frame.Runs (Prog.modify update) := fun state => ⟨(), update state, rfl, within state⟩

theorem Runs.bind {first : Prog σ α} {next : α → Prog σ β} (head : frame.Runs first)
    (tail : ∀ value, frame.Runs (next value)) : frame.Runs (first >>= next) := by
  intro state
  obtain ⟨value, middle, ran, reached⟩ := head state
  obtain ⟨result, after, ranNext, rest⟩ := tail value middle
  exact ⟨result, after, (Prog.bind_of_some ran).trans ranNext, frame.trans reached rest⟩

theorem Runs.ite {condition : Prop} [Decidable condition] {yes no : Prog σ α}
    (whenTrue : condition → frame.Runs yes) (whenFalse : ¬ condition → frame.Runs no) :
    frame.Runs (if condition then yes else no) := by
  split
  · exact whenTrue ‹_›
  · exact whenFalse ‹_›

theorem Runs.forM {items : List β} {body : β → Prog σ PUnit}
    (each : ∀ item ∈ items, frame.Runs (body item)) : frame.Runs (forM items body) := by
  induction items with
  | nil => exact Runs.pure
  | cons item rest ih =>
      rw [List.forM_cons]
      exact Runs.bind (each item List.mem_cons_self) fun _ =>
        ih fun other member => each other (List.mem_cons_of_mem item member)

theorem Keeps.pure {value : α} : frame.Keeps (pure value : Prog σ α) := fun state => frame.refl state

theorem Keeps.stop : frame.Keeps (Prog.stop : Prog σ α) := fun state => frame.refl state

theorem Keeps.read {view : σ → α} : frame.Keeps (Prog.read view) := fun state => frame.refl state

theorem Keeps.modify {update : σ → σ} (within : ∀ state, frame.rel state (update state)) :
    frame.Keeps (Prog.modify update) := within

/-- Sequencing from one state, when what follows depends on the state reached. -/
theorem rel_bind {first : Prog σ α} {next : α → Prog σ β} {state : σ}
    (head : frame.rel state (first state).2)
    (tail : ∀ value reached, first state = (some value, reached) →
      frame.rel reached (next value reached).2) :
    frame.rel state ((first >>= next) state).2 := by
  rcases first.stopped_or_ran state with ⟨middle, ran⟩ | ⟨value, middle, ran⟩
  · rw [ran] at head
    rw [Prog.bind_of_none ran]
    exact head
  · rw [ran] at head
    rw [Prog.bind_of_some ran]
    exact frame.trans head (tail value middle ran)

theorem Keeps.bind {first : Prog σ α} {next : α → Prog σ β} (head : frame.Keeps first)
    (tail : ∀ value, frame.Keeps (next value)) : frame.Keeps (first >>= next) := fun state =>
  rel_bind (head state) fun value reached _ => tail value reached

/-- What follows starts where the first program ends. -/
theorem rel_after {first : Prog σ α} {next : α → Prog σ β}
    (tail : ∀ value, frame.Keeps (next value)) (state : σ) :
    frame.rel (first state).2 ((first >>= next) state).2 := by
  rcases first.stopped_or_ran state with ⟨middle, ran⟩ | ⟨value, middle, ran⟩
  · rw [Prog.bind_of_none ran, ran]
    exact frame.refl middle
  · rw [Prog.bind_of_some ran, ran]
    exact tail value middle

theorem Keeps.ite {condition : Prop} [Decidable condition] {yes no : Prog σ α}
    (whenTrue : condition → frame.Keeps yes) (whenFalse : ¬ condition → frame.Keeps no) :
    frame.Keeps (if condition then yes else no) := by
  split
  · exact whenTrue ‹_›
  · exact whenFalse ‹_›

theorem Keeps.forM {items : List β} {body : β → Prog σ PUnit}
    (each : ∀ item ∈ items, frame.Keeps (body item)) : frame.Keeps (forM items body) := by
  induction items with
  | nil => exact Keeps.pure
  | cons item rest ih =>
      rw [List.forM_cons]
      exact Keeps.bind (each item List.mem_cons_self) fun _ =>
        ih fun other member => each other (List.mem_cons_of_mem item member)

/-- The frame of what an invariant survives. -/
def preserving (invariant : σ → Prop) : Frame σ where
  rel before after := invariant before → invariant after
  refl _ := id
  trans first second := fun held => second (first held)

/-- The frame of any number of such steps. -/
def steps (step : σ → σ → Prop) : Frame σ where
  rel := Relation.ReflTransGen step
  refl _ := .refl
  trans := .trans

/-- What every step stays within, any number of them stays within. -/
theorem steps_within {step : σ → σ → Prop}
    (each : ∀ {before after}, step before after → frame.rel before after) {before after : σ}
    (taken : (steps step).rel before after) : frame.rel before after := by
  induction taken with
  | refl => exact frame.refl before
  | tail _ last ih => exact frame.trans ih (each last)

theorem Keeps.step {step : σ → σ → Prop} {program : Prog σ α}
    (each : ∀ state, step state (program state).2) : (steps step).Keeps program := fun state =>
  .single (each state)

theorem Runs.mono {coarser : Frame σ} {program : Prog σ α}
    (implies : ∀ {before after}, frame.rel before after → coarser.rel before after)
    (runs : frame.Runs program) : coarser.Runs program := by
  intro state
  obtain ⟨value, after, ran, within⟩ := runs state
  exact ⟨value, after, ran, implies within⟩

variable (frame) in
/-- The frame a component's frame induces on the larger state. -/
def pull {τ : Type} (view : τ → σ) : Frame τ where
  rel before after := frame.rel (view before) (view after)
  refl state := frame.refl (view state)
  trans := frame.trans

theorem Runs.zoom {τ : Type} {view : τ → σ} {update : σ → τ → τ} {inner : Prog σ α}
    (stored : ∀ part state, view (update part state) = part) (runs : frame.Runs inner) :
    (frame.pull view).Runs (Prog.zoom view update inner) := by
  intro state
  obtain ⟨value, after, ran, within⟩ := runs (view state)
  refine ⟨value, update after state, by rw [Prog.zoom_apply, ran], ?_⟩
  change frame.rel (view state) (view (update after state))
  rw [stored]
  exact within

variable (frame) in
/-- The program stays within the frame, but for at most one action. -/
def AtMostOnce (action : σ → σ → Prop) (program : Prog σ α) : Prop :=
  ∀ state, frame.rel state (program state).2 ∨
    ∃ first last, frame.rel state first ∧ action first last ∧ frame.rel last (program state).2

variable {action : σ → σ → Prop}

theorem AtMostOnce.act {program : Prog σ α} (acts : ∀ state, action state (program state).2) :
    frame.AtMostOnce action program := fun state =>
  Or.inr ⟨state, (program state).2, frame.refl state, acts state, frame.refl _⟩

theorem Keeps.atMostOnce {program : Prog σ α} (kept : frame.Keeps program) :
    frame.AtMostOnce action program := fun state => Or.inl (kept state)

theorem AtMostOnce.after {first : Prog σ α} {next : α → Prog σ β} (head : frame.Keeps first)
    (tail : ∀ value, frame.AtMostOnce action (next value)) :
    frame.AtMostOnce action (first >>= next) := by
  intro state
  have reached := head state
  rcases first.stopped_or_ran state with ⟨middle, ran⟩ | ⟨value, middle, ran⟩
  · rw [ran] at reached
    rw [Prog.bind_of_none ran]
    exact Or.inl reached
  · rw [ran] at reached
    rw [Prog.bind_of_some ran]
    rcases tail value middle with within | ⟨before, last, prelude, acted, rest⟩
    · exact Or.inl (frame.trans reached within)
    · exact Or.inr ⟨before, last, frame.trans reached prelude, acted, rest⟩

theorem AtMostOnce.before {first : Prog σ α} {next : α → Prog σ β}
    (head : frame.AtMostOnce action first) (tail : ∀ value, frame.Keeps (next value)) :
    frame.AtMostOnce action (first >>= next) := by
  intro state
  have acted := head state
  rcases first.stopped_or_ran state with ⟨middle, ran⟩ | ⟨value, middle, ran⟩
  · rw [ran] at acted
    rw [Prog.bind_of_none ran]
    exact acted
  · rw [ran] at acted
    rw [Prog.bind_of_some ran]
    have rest := tail value middle
    rcases acted with within | ⟨start, last, prelude, done, reached⟩
    · exact Or.inl (frame.trans within rest)
    · exact Or.inr ⟨start, last, prelude, done, frame.trans reached rest⟩

theorem AtMostOnce.ite {condition : Prop} [Decidable condition] {yes no : Prog σ α}
    (whenTrue : condition → frame.AtMostOnce action yes)
    (whenFalse : ¬ condition → frame.AtMostOnce action no) :
    frame.AtMostOnce action (if condition then yes else no) := by
  split
  · exact whenTrue ‹_›
  · exact whenFalse ‹_›

end Frame

/-- What a program promises about its result, stable under a framed prelude:
running something within the frame first neither helps nor hurts. -/
structure Contract {σ : Type} (frame : Frame σ) (α : Type) where
  spec : σ → α → σ → Prop
  prepend : ∀ {before middle after value},
    frame.rel before middle → spec middle value after → spec before value after

namespace Contract

variable {σ α β : Type} {frame : Frame σ}

/-- The program runs to its end and keeps the promise. -/
def Meets (contract : Contract frame α) (program : Prog σ α) : Prop :=
  ∀ state, ∃ value after, program state = (some value, after) ∧ contract.spec state value after

variable {contract : Contract frame α}

/-- The usual shape of a handler: framed work, then the promised ending. -/
theorem Meets.bind {first : Prog σ β} {next : β → Prog σ α} (head : frame.Runs first)
    (tail : ∀ value, contract.Meets (next value)) : contract.Meets (first >>= next) := by
  intro state
  obtain ⟨value, middle, ran, reached⟩ := head state
  obtain ⟨result, after, ranNext, kept⟩ := tail value middle
  exact ⟨result, after, (Prog.bind_of_some ran).trans ranNext, contract.prepend reached kept⟩

theorem Meets.bind_of {post : β → Prop} {first : Prog σ β} {next : β → Prog σ α}
    (head : ∀ state, ∃ value after, first state = (some value, after) ∧ frame.rel state after ∧
      post value)
    (tail : ∀ value, post value → contract.Meets (next value)) :
    contract.Meets (first >>= next) := by
  intro state
  obtain ⟨value, middle, ran, reached, known⟩ := head state
  obtain ⟨result, after, ranNext, kept⟩ := tail value known middle
  exact ⟨result, after, (Prog.bind_of_some ran).trans ranNext, contract.prepend reached kept⟩

theorem Meets.ite {condition : Prop} [Decidable condition] {yes no : Prog σ α}
    (whenTrue : condition → contract.Meets yes) (whenFalse : ¬ condition → contract.Meets no) :
    contract.Meets (if condition then yes else no) := by
  split
  · exact whenTrue ‹_›
  · exact whenFalse ‹_›

end Contract

end Gdbserver.Logic
