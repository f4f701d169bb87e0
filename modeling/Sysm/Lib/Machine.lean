import Mathlib.Data.List.Infix

namespace Machine

variable {σ ι ο : Type}

/-- Feeds the inputs to a fallible step one after the other and collects its
answers. A step that fails ends the run without a result. -/
def run (step : σ → ι → Option (ο × σ)) : σ → List ι → Option (List ο × σ)
  | state, [] => some ([], state)
  | state, input :: inputs => do
    let (answer, next) ← step state input
    let (answers, final) ← run step next inputs
    return (answer :: answers, final)

variable {step : σ → ι → Option (ο × σ)} {state final : σ} {input : ι} {inputs rest : List ι} {answers : List ο}

theorem run_cons_iff :
    run step state (input :: inputs) = some (answers, final) ↔
      ∃ answer next others, step state input = some (answer, next) ∧
        run step next inputs = some (others, final) ∧ answers = answer :: others := by
  constructor
  · intro h
    obtain ⟨⟨answer, next⟩, first, h⟩ := Option.bind_eq_some_iff.mp h
    obtain ⟨⟨others, last⟩, later, h⟩ := Option.bind_eq_some_iff.mp h
    cases Option.some.inj h
    exact ⟨answer, next, others, first, later, rfl⟩
  · rintro ⟨answer, next, others, first, later, rfl⟩
    simp only [run, first, later, Option.bind_eq_bind, Option.bind_some, Option.pure_def]

theorem run_append_iff :
    run step state (inputs ++ rest) = some (answers, final) ↔
      ∃ before middle after, run step state inputs = some (before, middle) ∧
        run step middle rest = some (after, final) ∧ answers = before ++ after := by
  induction inputs generalizing state answers with
  | nil => simp [run]
  | cons input inputs ih =>
    simp only [List.cons_append, run_cons_iff]
    constructor
    · rintro ⟨answer, next, others, first, later, rfl⟩
      obtain ⟨before, middle, after, runBefore, runAfter, rfl⟩ := ih.mp later
      exact ⟨answer :: before, middle, after, ⟨answer, next, before, first, runBefore, rfl⟩, runAfter, rfl⟩
    · rintro ⟨_, middle, after, ⟨answer, next, before, first, runBefore, rfl⟩, runAfter, rfl⟩
      exact ⟨answer, next, before ++ after, first, ih.mpr ⟨before, middle, after, runBefore, runAfter, rfl⟩, rfl⟩

/-- A run with one more input is a run and one more step. -/
theorem run_snoc_iff :
    run step state (inputs ++ [input]) = some (answers, final) ↔
      ∃ before middle answer, run step state inputs = some (before, middle) ∧
        step middle input = some (answer, final) ∧ answers = before ++ [answer] := by
  rw [run_append_iff]
  constructor
  · rintro ⟨before, middle, after, runBefore, last, rfl⟩
    obtain ⟨answer, next, others, one, nothing, rfl⟩ := run_cons_iff.mp last
    cases Option.some.inj nothing
    exact ⟨before, middle, answer, runBefore, one, rfl⟩
  · rintro ⟨before, middle, answer, runBefore, one, rfl⟩
    exact ⟨before, middle, [answer], runBefore, run_cons_iff.mpr ⟨answer, final, [], one, rfl, rfl⟩, rfl⟩

theorem run_length (h : run step state inputs = some (answers, final)) : answers.length = inputs.length := by
  induction inputs generalizing state answers with
  | nil => cases Option.some.inj h; rfl
  | cons input inputs ih =>
    obtain ⟨answer, next, others, _, later, rfl⟩ := run_cons_iff.mp h
    simp only [List.length_cons, ih later]

/-- Every answer of a run is that of a step from a state the run has reached. -/
theorem exists_step_of_mem {answer : ο} (h : run step state inputs = some (answers, final)) (member : answer ∈ answers) :
    ∃ before input after done middle next, inputs = before ++ input :: after ∧
      run step state before = some (done, middle) ∧ step middle input = some (answer, next) := by
  induction inputs generalizing state answers with
  | nil =>
    cases Option.some.inj h
    simp at member
  | cons first inputs ih =>
    obtain ⟨head, next, others, one, later, rfl⟩ := run_cons_iff.mp h
    rcases List.mem_cons.mp member with rfl | inOthers
    · exact ⟨[], first, inputs, [], state, next, rfl, rfl, one⟩
    · obtain ⟨before, input, after, done, middle, last, rfl, ran, stepped⟩ := ih later inOthers
      exact ⟨first :: before, input, after, head :: done, middle, last, rfl,
        run_cons_iff.mpr ⟨head, next, done, one, ran, rfl⟩, stepped⟩

/-- Every input of a run is answered by a step from a state the run has reached. -/
theorem exists_answer_of_mem (h : run step state inputs = some (answers, final)) (member : input ∈ inputs) :
    ∃ answer ∈ answers, ∃ before after done middle next, inputs = before ++ input :: after ∧
      run step state before = some (done, middle) ∧ step middle input = some (answer, next) := by
  obtain ⟨before, after, rfl⟩ := List.append_of_mem member
  obtain ⟨done, middle, _, ran, later, rfl⟩ := run_append_iff.mp h
  obtain ⟨answer, next, others, one, _, rfl⟩ := run_cons_iff.mp later
  exact ⟨answer, by simp, before, after, done, middle, next, rfl, ran, one⟩

/-- What every step preserves holds at the end of every run. -/
theorem run_invariant {P : σ → Prop}
    (keeps : ∀ state input answer next, P state → step state input = some (answer, next) → P next)
    (start : P state) (h : run step state inputs = some (answers, final)) : P final := by
  induction inputs generalizing state answers with
  | nil => cases Option.some.inj h; exact start
  | cons input inputs ih =>
    obtain ⟨answer, next, _, first, later, _⟩ := run_cons_iff.mp h
    exact ih (keeps _ _ _ _ start first) later

/-- A machine whose steps are those of another after a projection has its runs. -/
theorem run_project {τ : Type} {finer : τ → ι → Option (ο × τ)} (project : τ → σ)
    (steps : ∀ state input, (finer state input).map (fun result => (result.1, project result.2)) =
      step (project state) input) (state : τ) (inputs : List ι) :
    (run finer state inputs).map (fun result => (result.1, project result.2)) = run step (project state) inputs := by
  induction inputs generalizing state with
  | nil => rfl
  | cons input inputs ih =>
    have first := steps state input
    cases one : finer state input with
    | none =>
      rw [one] at first
      simp only [run, one, ← first, Option.map_none, Option.bind_eq_bind, Option.bind_none]
    | some result =>
      have later := ih result.2
      rw [one] at first
      simp only [run, one, ← first, Option.map_some, Option.bind_eq_bind, Option.bind_some, Option.map_bind,
        ← later, Option.bind_map]
      rfl

end Machine
