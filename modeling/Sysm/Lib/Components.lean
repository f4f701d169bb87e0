import Sysm.Lib.Machine

namespace Machine

variable {σ ι ο κ : Type} {ν : κ → Type}

/-- Each input belongs to one component of the state. Its answer and what it
leaves in its component depend on that component alone, and it leaves the
others as they are. -/
structure Separated (step : σ → ι → Option (ο × σ)) (part : ι → κ) (view : (k : κ) → σ → ν k) : Prop where
  own : ∀ state other input, view (part input) other = view (part input) state →
    (step other input).map (fun result => (result.1, view (part input) result.2)) =
      (step state input).map fun result => (result.1, view (part input) result.2)
  others : ∀ state input answer next k, step state input = some (answer, next) → k ≠ part input →
    view k next = view k state

/-- One member of a record, or several together. -/
structure Member (σ ν : Type) where
  get : σ → ν
  put : ν → σ → σ
  get_put : ∀ value state, get (put value state) = value
  put_get : ∀ state, put (get state) state = state
  put_put : ∀ value value' state, put value (put value' state) = put value state

namespace Member

variable {μ α β : Type} (member : Member σ μ)

/-- The operation reads and writes only this member: whatever the rest is, it
gives the same answer and leaves the same in the member. -/
def Confines (f : σ → Option (α × σ)) : Prop :=
  ∀ state other, f (member.put (member.get state) other) =
    (f state).map fun result => (result.1, member.put (member.get result.2) other)

variable {member}

theorem Confines.map {f : σ → Option (α × σ)} (confines : member.Confines f) (g : α → β) :
    member.Confines fun state => (f state).map fun result => (g result.1, result.2) := by
  intro state other
  simp only [confines state other, Option.map_map]
  rfl

theorem Confines.next {f : σ → Option (α × σ)} (confines : member.Confines f) {state next : σ} {answer : α}
    (stepped : f state = some (answer, next)) : next = member.put (member.get next) state := by
  have here := confines state state
  rw [member.put_get, stepped] at here
  exact congrArg Prod.snd (Option.some.inj here)

end Member

/-- Steps that are confined to members apart from each other are separated. -/
theorem separated_of_confines {step : σ → ι → Option (ο × σ)} {part : ι → κ} (member : (k : κ) → Member σ (ν k))
    (apart : ∀ j k, k ≠ j → ∀ value state, (member k).get ((member j).put value state) = (member k).get state)
    (confined : ∀ input, (member (part input)).Confines fun state => step state input) :
    Separated step part fun k => (member k).get where
  own state other input same := by
    have moved := confined input state other
    rw [← same, (member (part input)).put_get] at moved
    simp only [moved, Option.map_map]
    refine congrArg (fun g => (step state input).map g) (funext fun result => ?_)
    rw [Function.comp_apply, (member (part input)).get_put]
  others state input answer next k stepped different := by
    rw [(confined input).next stepped]
    exact apart (part input) k different _ _

section Step

variable {step : σ → ι → Option (ο × σ)} {part : ι → κ} {view : (k : κ) → σ → ν k} {state other : σ}

theorem Separated.step_own (separated : Separated step part view) {input : ι} {answer : ο} {next : σ}
    (stepped : step state input = some (answer, next)) (same : view (part input) other = view (part input) state) :
    ∃ next', step other input = some (answer, next') ∧ view (part input) next' = view (part input) next := by
  have own := separated.own state other input same
  rw [stepped] at own
  obtain ⟨⟨answer', next'⟩, stepped', equal⟩ := Option.map_eq_some_iff.mp own
  obtain ⟨sameAnswer, sameView⟩ := Prod.mk.inj equal
  exact ⟨next', by rw [stepped']; exact congrArg (fun a => some (a, next')) sameAnswer, sameView⟩

end Step

variable [DecidableEq κ]

/-- The inputs of one component. -/
def inputsOf (part : ι → κ) (k : κ) (inputs : List ι) : List ι := inputs.filter fun input => part input = k

/-- The answers to the inputs of one component. -/
def answersOf (part : ι → κ) (k : κ) (inputs : List ι) (answers : List ο) : List ο :=
  ((inputs.zip answers).filter fun pair => part pair.1 = k).map Prod.snd

variable {step : σ → ι → Option (ο × σ)} {part : ι → κ} {view : (k : κ) → σ → ν k} {state other final : σ}
  {inputs inputs' : List ι} {answers : List ο}

namespace Separated

/-- The inputs of a component get the same answers when no others are fed, from
any state that agrees on the component. -/
theorem run_part (separated : Separated step part view) (ran : run step state inputs = some (answers, final)) (k : κ)
    (same : view k other = view k state) : ∃ final', run step other (inputsOf part k inputs) =
      some (answersOf part k inputs answers, final') ∧ view k final' = view k final := by
  induction inputs generalizing state other answers with
  | nil =>
    cases Option.some.inj ran
    exact ⟨other, rfl, same⟩
  | cons input inputs ih =>
    obtain ⟨answer, next, others, first, later, rfl⟩ := run_cons_iff.mp ran
    by_cases mine : part input = k
    · subst mine
      obtain ⟨next', first', same'⟩ := separated.step_own first same
      obtain ⟨final', later', atEnd⟩ := ih later same'
      refine ⟨final', ?_, atEnd⟩
      have list : inputsOf part (part input) (input :: inputs) = input :: inputsOf part (part input) inputs := by
        simp [inputsOf]
      have replies : answersOf part (part input) (input :: inputs) (answer :: others) =
          answer :: answersOf part (part input) inputs others := by
        simp [answersOf]
      rw [list, replies, run_cons_iff]
      exact ⟨answer, next', _, first', later', rfl⟩
    · have kept := separated.others state input answer next k first (Ne.symm mine)
      obtain ⟨final', later', atEnd⟩ := ih later (same.trans kept.symm)
      refine ⟨final', ?_, atEnd⟩
      have list : inputsOf part k (input :: inputs) = inputsOf part k inputs := by
        simp [inputsOf, mine]
      have replies : answersOf part k (input :: inputs) (answer :: others) = answersOf part k inputs others := by
        simp [answersOf, mine]
      rw [list, replies]
      exact later'

/-- A run goes through exactly if those of the components do. -/
theorem run_isSome_iff (separated : Separated step part view) :
    (run step state inputs).isSome = true ↔ ∀ k, (run step state (inputsOf part k inputs)).isSome = true := by
  constructor
  · intro whole k
    obtain ⟨⟨answers, final⟩, ran⟩ := Option.isSome_iff_exists.mp whole
    obtain ⟨final', ran', _⟩ := separated.run_part ran k rfl
    rw [ran']
    rfl
  · intro parts
    induction inputs using List.reverseRecOn with
    | nil => rfl
    | append_singleton inputs input ih =>
      have split (k : κ) : inputsOf part k (inputs ++ [input]) =
          inputsOf part k inputs ++ if part input = k then [input] else [] := by
        simp only [inputsOf, List.filter_append, List.filter_cons, List.filter_nil, decide_eq_true_eq]
      have before : ∀ k, (run step state (inputsOf part k inputs)).isSome = true := by
        intro k
        obtain ⟨⟨answers, final⟩, ran⟩ := Option.isSome_iff_exists.mp (parts k)
        rw [split k] at ran
        obtain ⟨_, middle, _, first, _, _⟩ := run_append_iff.mp ran
        rw [first]
        rfl
      obtain ⟨⟨answers, middle⟩, ran⟩ := Option.isSome_iff_exists.mp (ih before)
      obtain ⟨middle', alone, same⟩ := separated.run_part ran (part input) rfl
      obtain ⟨⟨answers', final'⟩, ran'⟩ := Option.isSome_iff_exists.mp (parts (part input))
      rw [split, if_pos rfl] at ran'
      obtain ⟨_, middle'', answer, first, last, _⟩ := run_snoc_iff.mp ran'
      cases Option.some.inj (first.symm.trans alone)
      obtain ⟨final, stepped, _⟩ := separated.step_own last same.symm
      rw [run_snoc_iff.mpr ⟨answers, middle, answer, ran, stepped, rfl⟩]
      rfl

/-- How the inputs of different components are interleaved does not matter. -/
theorem run_interleaved (separated : Separated step part view) (ran : run step state inputs = some (answers, final))
    (same : ∀ k, inputsOf part k inputs' = inputsOf part k inputs) :
    ∃ answers' final', run step state inputs' = some (answers', final') ∧
      ∀ k, answersOf part k inputs' answers' = answersOf part k inputs answers ∧ view k final' = view k final := by
  have whole : (run step state inputs').isSome = true := by
    refine separated.run_isSome_iff.mpr fun k => ?_
    rw [same k]
    exact separated.run_isSome_iff.mp (by rw [ran]; rfl) k
  obtain ⟨⟨answers', final'⟩, ran'⟩ := Option.isSome_iff_exists.mp whole
  refine ⟨answers', final', ran', fun k => ?_⟩
  obtain ⟨alone, part₁, view₁⟩ := separated.run_part ran k rfl
  obtain ⟨alone', part₂, view₂⟩ := separated.run_part ran' k rfl
  rw [same k, part₁] at part₂
  obtain ⟨replies, last⟩ := Prod.mk.inj (Option.some.inj part₂)
  exact ⟨replies.symm, by rw [← view₂, ← last, view₁]⟩

end Separated

end Machine
