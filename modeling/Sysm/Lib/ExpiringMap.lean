import Mathlib.Data.Set.Basic
import Sysm.Lib.Machine

/-- A value and the time at which it was recorded. -/
structure RecordedValue (ν : Type) where
  value : ν
  time : Int
deriving Repr, DecidableEq

/-- Recorded values by their keys. -/
def ExpiringMap (κ ν : Type) := κ → Option (RecordedValue ν)

namespace ExpiringMap

variable {κ ν : Type}

def empty : ExpiringMap κ ν := fun _ => none

/-- The value of a key, if it was recorded no longer than a period ago. -/
def lookup (held : ExpiringMap κ ν) (key : κ) (now period : Int) : Option ν :=
  (held key).bind fun recorded => if now - recorded.time ≤ period then some recorded.value else none

def set [DecidableEq κ] (held : ExpiringMap κ ν) (key : κ) (recorded : Option (RecordedValue ν)) : ExpiringMap κ ν :=
  fun other => if other = key then recorded else held other

/-- No value takes away the one that was there. -/
def record [DecidableEq κ] (held : ExpiringMap κ ν) (key : κ) (value : Option ν) (now : Int) : ExpiringMap κ ν :=
  held.set key (value.map fun value => ⟨value, now⟩)

open Classical in
/-- Without the values of some keys. -/
noncomputable def without (held : ExpiringMap κ ν) (forgotten : Set κ) : ExpiringMap κ ν :=
  fun key => if key ∈ forgotten then none else held key

/-- Some values of the other map are missing, and nothing else is different. -/
def Fewer (held other : ExpiringMap κ ν) : Prop := ∀ key, held key = none ∨ held key = other key

variable {held other third : ExpiringMap κ ν}

theorem Fewer.refl (held : ExpiringMap κ ν) : held.Fewer held := fun _ => Or.inr rfl

theorem Fewer.trans (first : held.Fewer other) (second : other.Fewer third) : held.Fewer third := by
  intro key
  rcases first key with absent | same
  · exact Or.inl absent
  · rw [same]
    exact second key

theorem set_self [DecidableEq κ] (held : ExpiringMap κ ν) (key : κ) (recorded : Option (RecordedValue ν)) :
    held.set key recorded key = recorded := if_pos rfl

theorem set_ne [DecidableEq κ] (held : ExpiringMap κ ν) {key other : κ} (different : other ≠ key)
    (recorded : Option (RecordedValue ν)) : held.set key recorded other = held other := if_neg different

theorem set_eq [DecidableEq κ] (held : ExpiringMap κ ν) (key : κ) : held.set key (held key) = held := by
  funext other
  by_cases same : other = key
  · rw [same, set_self]
  · exact held.set_ne same _

theorem without_empty (held : ExpiringMap κ ν) : held.without ∅ = held := by
  funext key
  exact if_neg (Set.notMem_empty key)

theorem Fewer.exists_without (fewer : held.Fewer other) : ∃ forgotten, held = other.without forgotten := by
  refine ⟨{key | held key = none}, ?_⟩
  funext key
  by_cases missing : held key = none
  · rw [missing]
    exact (if_pos missing).symm
  · have same := (fewer key).resolve_left missing
    rw [same]
    exact (if_neg missing).symm

section Run

variable {σ ι ο : Type} (step : ExpiringMap κ ν → ι → ο × ExpiringMap κ ν)

/-- A step of the map, after which some of its values are forgotten. -/
noncomputable def forgetting (held : ExpiringMap κ ν) (input : ι × Set κ) : Option (ο × ExpiringMap κ ν) :=
  some ((step held input.1).1, (step held input.1).2.without input.2)

variable {step} {concrete : σ → ι → Option (ο × σ)} {view : σ → ExpiringMap κ ν} {Inv Quiet : σ → Prop} {calm : ι → Prop}

/-- A machine whose steps are those of the map, but may lose values, is the map
with some of its values forgotten. Before its first step that is not calm it
does not lose any. -/
theorem exists_forgotten
    (steps : ∀ state input answer next, Inv state → concrete state input = some (answer, next) →
      Inv next ∧ answer = (step (view state) input).1 ∧ (view next).Fewer (step (view state) input).2)
    (quiet : ∀ state input answer next, Inv state → Quiet state → calm input → concrete state input = some (answer, next) →
      Quiet next ∧ view next = (step (view state) input).2)
    {inputs : List ι} {answers : List ο} {state final : σ} (start : Inv state)
    (ran : Machine.run concrete state inputs = some (answers, final)) :
    ∃ forgotten : List (Set κ), forgotten.length = inputs.length ∧
      Machine.run (forgetting step) (view state) (inputs.zip forgotten) = some (answers, view final) ∧
        (Quiet state → ∀ n, (∀ input ∈ inputs.take (n + 1), calm input) → ∀ lost ∈ forgotten[n]?, lost = ∅) := by
  induction inputs generalizing state answers with
  | nil =>
    cases ran
    exact ⟨[], rfl, rfl, by simp⟩
  | cons input inputs ih =>
    obtain ⟨answer, next, others, first, later, rfl⟩ := Machine.run_cons_iff.mp ran
    obtain ⟨kept, same, fewer⟩ := steps state input answer next start first
    obtain ⟨forgotten, length, run, calmly⟩ := ih kept later
    by_cases still : Quiet state ∧ calm input
    · obtain ⟨quietNext, equal⟩ := quiet state input answer next start still.1 still.2 first
      refine ⟨∅ :: forgotten, by rw [List.length_cons, List.length_cons, length], ?_, ?_⟩
      · refine Machine.run_cons_iff.mpr ⟨answer, view next, others, ?_, run, rfl⟩
        rw [forgetting, without_empty, equal, same]
      · intro _ n calmInputs lost atPlace
        cases n with
        | zero =>
          cases atPlace
          rfl
        | succ n =>
          refine calmly quietNext n (fun input member => calmInputs input ?_) lost atPlace
          rw [List.take_succ_cons]
          exact List.mem_cons_of_mem _ member
    · obtain ⟨lost, without⟩ := fewer.exists_without
      refine ⟨lost :: forgotten, by rw [List.length_cons, List.length_cons, length], ?_, ?_⟩
      · refine Machine.run_cons_iff.mpr ⟨answer, view next, others, ?_, run, rfl⟩
        rw [forgetting, ← without, same]
      · intro quietState n calmInputs
        refine absurd ⟨quietState, calmInputs input ?_⟩ still
        rw [List.take_succ_cons]
        exact List.mem_cons_self ..

end Run

end ExpiringMap
