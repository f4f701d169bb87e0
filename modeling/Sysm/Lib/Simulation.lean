import Sysm.Lib.Machine

namespace Machine

variable {σ τ ι ο : Type} {R : σ → τ → Prop}

/-- Both steps fail, or they give one answer and leave related states. -/
inductive Agree (R : σ → τ → Prop) : Option (ο × σ) → Option (ο × τ) → Prop
  | stuck : Agree R none none
  | next {answer : ο} {state : σ} {state' : τ} : R state state' →
      Agree R (some (answer, state)) (some (answer, state'))

theorem Agree.answers {result : Option (ο × σ)} {result' : Option (ο × τ)} (agree : Agree R result result') :
    result.map Prod.fst = result'.map Prod.fst := by
  cases agree with
  | stuck => rfl
  | next related => rfl

theorem Agree.next_left {answer : ο} {state : σ} {result' : Option (ο × τ)}
    (agree : Agree R (some (answer, state)) result') : ∃ state', result' = some (answer, state') ∧ R state state' := by
  cases agree with
  | next related => exact ⟨_, rfl, related⟩

theorem Agree.stuck_left {result' : Option (ο × τ)} (agree : Agree R (none : Option (ο × σ)) result') : result' = none := by
  cases agree with
  | stuck => rfl

/-- The other result is an image of the one, and so is its state. -/
theorem Agree.of_map {ο' : Type} {result : Option (ο × σ)} {result' : Option (ο' × τ)} {f : ο → ο'} {g : σ → τ}
    (same : result' = result.map fun pair => (f pair.1, g pair.2))
    (related : ∀ answer state, result = some (answer, state) → R state (g state)) :
    Agree R (result.map fun pair => (f pair.1, pair.2)) result' := by
  cases result with
  | none =>
    rw [same]
    exact .stuck
  | some pair =>
    rw [same]
    exact .next (related pair.1 pair.2 rfl)

variable {step : σ → ι → Option (ο × σ)} {step' : τ → ι → Option (ο × τ)}

theorem run_append (state : σ) (inputs rest : List ι) :
    run step state (inputs ++ rest) = (run step state inputs).bind fun before =>
      (run step before.2 rest).map fun after => (before.1 ++ after.1, after.2) := by
  induction inputs generalizing state with
  | nil =>
    simp only [List.nil_append, run, Option.bind_some]
    cases run step state rest with
    | none => rfl
    | some after => rfl
  | cons input inputs ih =>
    simp only [List.cons_append, run, ih]
    cases step state input with
    | none => rfl
    | some first =>
      simp only [Option.bind_eq_bind, Option.bind_some]
      cases run step first.2 inputs with
      | none => rfl
      | some before =>
        simp only [Option.bind_some, Option.pure_def]
        cases run step before.2 rest with
        | none => rfl
        | some after => rfl

/-- Steps that agree from related states make runs that agree. -/
theorem run_agree_of_mem {inputs : List ι}
    (steps : ∀ input ∈ inputs, ∀ state state', R state state' → Agree R (step state input) (step' state' input))
    {state : σ} {state' : τ} (related : R state state') : Agree R (run step state inputs) (run step' state' inputs) := by
  induction inputs generalizing state state' with
  | nil => exact .next related
  | cons input inputs ih =>
    have first := steps input (List.mem_cons_self ..) state state' related
    have others := @ih fun input member => steps input (List.mem_cons_of_mem _ member)
    simp only [run, Option.bind_eq_bind, Option.pure_def]
    cases one : step state input with
    | none =>
      rw [one] at first
      rw [first.stuck_left]
      exact .stuck
    | some result =>
      obtain ⟨answer, next⟩ := result
      rw [one] at first
      obtain ⟨next', one', related⟩ := first.next_left
      have later := others related
      rw [one', Option.bind_some, Option.bind_some]
      cases rest : run step next inputs with
      | none =>
        rw [rest] at later
        rw [later.stuck_left]
        exact .stuck
      | some result =>
        obtain ⟨answers, final⟩ := result
        rw [rest] at later
        obtain ⟨final', rest', related⟩ := later.next_left
        rw [rest']
        exact .next related

theorem run_agree (steps : ∀ state state' input, R state state' → Agree R (step state input) (step' state' input))
    (inputs : List ι) {state : σ} {state' : τ} (related : R state state') :
    Agree R (run step state inputs) (run step' state' inputs) :=
  run_agree_of_mem (fun input _ state state' => steps state state' input) related

/-- The answers may be looked at step by step or at the end. -/
theorem run_map_answers {ο' : Type} (f : ο → ο') (state : σ) (inputs : List ι) :
    run (fun state input => (step state input).map fun result => (f result.1, result.2)) state inputs =
      (run step state inputs).map fun result => (result.1.map f, result.2) := by
  induction inputs generalizing state with
  | nil => rfl
  | cons input inputs ih =>
    simp only [run, ih]
    cases step state input with
    | none => rfl
    | some result =>
      simp only [Option.map_some, Option.bind_eq_bind, Option.bind_some, Option.map_bind, Option.bind_map]
      rfl

end Machine
