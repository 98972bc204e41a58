import Gdbserver.Logic.Prog

/-!
# Runs of a step program

A run feeds a list of inputs to one step program. Invariants are proved once
for a step and carried to every run, with or without a condition on the steps.
-/

set_option autoImplicit false

namespace Gdbserver.Logic

variable {σ ι : Type} (step : ι → Prog σ PUnit)

def run (inputs : List ι) : Prog σ PUnit := forM inputs step

/-- Every step of the run is taken from a state that meets the condition. The
steps after one that stopped the program are never taken. -/
def Along (condition : σ → ι → Prop) : σ → List ι → Prop
  | _, [] => True
  | state, input :: rest =>
      condition state input ∧
        match step input state with
        | (some _, reached) => Along condition reached rest
        | (none, _) => True

instance Along.decidable {condition : σ → ι → Prop}
    [∀ state input, Decidable (condition state input)] :
    ∀ state inputs, Decidable (Along step condition state inputs)
  | _, [] => isTrue trivial
  | state, input :: rest =>
      have : Decidable (match step input state with
          | (some _, reached) => Along step condition reached rest
          | (none, _) => True) :=
        match step input state with
        | (some _, reached) => Along.decidable reached rest
        | (none, _) => isTrue trivial
      inferInstanceAs (Decidable (_ ∧ _))

variable {step}

theorem along_cons_of_some {condition : σ → ι → Prop} {state reached : σ} {input : ι}
    {rest : List ι} (taken : step input state = (some PUnit.unit, reached)) :
    Along step condition state (input :: rest) ↔
      condition state input ∧ Along step condition reached rest := by
  rw [Along, taken]

theorem along_cons_of_none {condition : σ → ι → Prop} {state reached : σ} {input : ι}
    {rest : List ι} (taken : step input state = (none, reached)) :
    Along step condition state (input :: rest) ↔ condition state input := by
  rw [Along, taken]
  exact iff_of_eq (and_true _)

theorem along_singleton {condition : σ → ι → Prop} {state : σ} {input : ι} :
    Along step condition state [input] ↔ condition state input := by
  rcases Prog.stopped_or_ran (step input) state with ⟨reached, taken⟩ | ⟨_, reached, taken⟩
  · exact along_cons_of_none taken
  · exact (along_cons_of_some taken).trans (iff_of_eq (and_true _))

theorem Along.mono {condition weaker : σ → ι → Prop}
    (implies : ∀ state input, condition state input → weaker state input) :
    ∀ {inputs : List ι} {state : σ}, Along step condition state inputs →
      Along step weaker state inputs
  | [], _, _ => trivial
  | head :: tail, state, along => by
      rcases Prog.stopped_or_ran (step head) state with ⟨reached, taken⟩ | ⟨_, reached, taken⟩
      · exact (along_cons_of_none taken).mpr
          (implies state head ((along_cons_of_none taken).mp along))
      · obtain ⟨first, later⟩ := (along_cons_of_some taken).mp along
        exact (along_cons_of_some taken).mpr ⟨implies state head first, later.mono implies⟩

theorem Along.and {condition other : σ → ι → Prop} :
    ∀ {inputs : List ι} {state : σ}, Along step condition state inputs →
      Along step other state inputs →
        Along step (fun state input => condition state input ∧ other state input) state inputs
  | [], _, _, _ => trivial
  | head :: tail, state, left, right => by
      rcases Prog.stopped_or_ran (step head) state with ⟨reached, taken⟩ | ⟨_, reached, taken⟩
      · exact (along_cons_of_none taken).mpr
          ⟨(along_cons_of_none taken).mp left, (along_cons_of_none taken).mp right⟩
      · obtain ⟨first, later⟩ := (along_cons_of_some taken).mp left
        obtain ⟨firstOther, laterOther⟩ := (along_cons_of_some taken).mp right
        exact (along_cons_of_some taken).mpr ⟨⟨first, firstOther⟩, later.and laterOther⟩

theorem run_cons (input : ι) (rest : List ι) :
    run step (input :: rest) = (step input >>= fun _ => run step rest) := by
  simp only [run, List.forM_cons]

theorem run_cons_of_some {input : ι} {rest : List ι} {state reached : σ}
    (taken : step input state = (some PUnit.unit, reached)) :
    run step (input :: rest) state = run step rest reached := by
  rw [run_cons, Prog.bind_of_some taken]

theorem run_cons_of_none {input : ι} {rest : List ι} {state reached : σ}
    (taken : step input state = (none, reached)) :
    run step (input :: rest) state = (none, reached) := by
  rw [run_cons, Prog.bind_of_none taken]

theorem run_append (first second : List ι) :
    run step (first ++ second) = (run step first >>= fun _ => run step second) := by
  funext state
  induction first generalizing state with
  | nil => rfl
  | cons input rest ih =>
      rw [List.cons_append]
      rcases Prog.stopped_or_ran (step input) state with ⟨reached, taken⟩ | ⟨_, reached, taken⟩
      · rw [run_cons_of_none taken, Prog.bind_of_none (run_cons_of_none taken)]
      · rw [run_cons_of_some taken, ih, Prog.bind_apply, Prog.bind_apply, run_cons_of_some taken]

theorem run_singleton (input : ι) : run step [input] = step input := by
  funext state
  rcases Prog.stopped_or_ran (step input) state with ⟨reached, taken⟩ | ⟨_, reached, taken⟩
  · rw [run_cons_of_none taken, taken]
  · rw [run_cons_of_some taken, taken]
    rfl

/-- Steps that are runs themselves: a run of them is one run. -/
theorem run_flatMap {κ : Type} {whole : κ → Prog σ PUnit} {parts : κ → List ι}
    (same : ∀ item, whole item = run step (parts item)) (items : List κ) :
    run whole items = run step (items.flatMap parts) := by
  induction items with
  | nil => rfl
  | cons item rest ih => rw [List.flatMap_cons, run_append, run_cons, same, ih]

/-- An invariant of the conditioned steps holds in whatever state a run ends,
also when a step stopped the program. -/
theorem run_invariant_along {condition : σ → ι → Prop} {invariant : σ → Prop}
    (preserved : ∀ state input, invariant state → condition state input →
      invariant (step input state).2) :
    ∀ (inputs : List ι) (state : σ), invariant state → Along step condition state inputs →
      invariant (run step inputs state).2 := by
  intro inputs
  induction inputs with
  | nil => intro state start _; exact start
  | cons input rest ih =>
      intro state start along
      have kept := preserved state input start along.1
      rcases Prog.stopped_or_ran (step input) state with ⟨reached, taken⟩ | ⟨_, reached, taken⟩
      · rw [taken] at kept
        rw [run_cons_of_none taken]
        exact kept
      · rw [taken] at kept
        rw [run_cons_of_some taken]
        exact ih reached kept ((along_cons_of_some taken).mp along).2

theorem along_true (inputs : List ι) (state : σ) :
    Along step (fun _ _ => True) state inputs := by
  induction inputs generalizing state with
  | nil => trivial
  | cons input rest ih =>
      rcases Prog.stopped_or_ran (step input) state with ⟨reached, taken⟩ | ⟨_, reached, taken⟩
      · exact (along_cons_of_none taken).mpr trivial
      · exact (along_cons_of_some taken).mpr ⟨trivial, ih reached⟩

theorem run_invariant {invariant : σ → Prop}
    (preserved : ∀ state input, invariant state → invariant (step input state).2)
    (inputs : List ι) (state : σ) (start : invariant state) :
    invariant (run step inputs state).2 :=
  run_invariant_along (fun state input kept _ => preserved state input kept) inputs state start
    (along_true inputs state)

theorem prefixes_cons_iff {holds : List ι → Prop} (input : ι) (rest : List ι) :
    (∀ before, before <+: input :: rest → holds before) ↔
      holds [] ∧ ∀ before, before <+: rest → holds (input :: before) := by
  constructor
  · intro all
    exact ⟨all [] List.nil_prefix,
      fun before shorter => all (input :: before) ((List.prefix_cons_inj input).mpr shorter)⟩
  · rintro ⟨empty, all⟩ before shorter
    cases before with
    | nil => exact empty
    | cons head tail =>
        obtain ⟨rfl, shorterTail⟩ := List.cons_prefix_cons.mp shorter
        exact all tail shorterTail

/-- When a step taken from a good state leads to a good state exactly under the
condition, all states of a run are good exactly when all its steps meet it. -/
theorem run_prefixes_iff_along {condition : σ → ι → Prop} {invariant good : σ → Prop}
    (preserved : ∀ state input, invariant state → invariant (step input state).2)
    (exactly : ∀ state input, invariant state → good state →
      (good (step input state).2 ↔ condition state input)) :
    ∀ (inputs : List ι) (state : σ), invariant state → good state →
      ((∀ before, before <+: inputs → good (run step before state).2) ↔
        Along step condition state inputs) := by
  intro inputs
  induction inputs with
  | nil =>
      intro state _ start
      refine ⟨fun _ => trivial, fun _ before shorter => ?_⟩
      rw [List.prefix_nil.mp shorter]
      exact start
  | cons input rest ih =>
      intro state kept start
      have exact' := exactly state input kept start
      have keptThere := preserved state input kept
      rw [prefixes_cons_iff]
      rcases Prog.stopped_or_ran (step input) state with ⟨reached, taken⟩ | ⟨_, reached, taken⟩
      · rw [taken] at exact'
        simp only [run_cons_of_none taken]
        rw [along_cons_of_none taken, ← exact']
        exact ⟨fun all => all.2 [] List.nil_prefix, fun last => ⟨start, fun _ _ => last⟩⟩
      · rw [taken] at exact' keptThere
        simp only [run_cons_of_some taken]
        rw [along_cons_of_some taken, ← exact']
        constructor
        · rintro ⟨-, all⟩
          have reachedGood := all [] List.nil_prefix
          exact ⟨reachedGood, (ih reached keptThere reachedGood).mp all⟩
        · rintro ⟨reachedGood, later⟩
          exact ⟨start, (ih reached keptThere reachedGood).mpr later⟩

end Gdbserver.Logic
