import Sysm.ReferenceMap

namespace Sysm.ReferenceMap

variable {κ ν : Type} [DecidableEq κ] {refMap refMap' : ReferenceMap κ ν} {P : κ → ν → Prop} {key other : κ}

theorem get_fst (refMap : ReferenceMap κ ν) (key : κ) : (refMap.get key).1 = refMap.mapped key := by
  unfold get mapped
  cases atKey : refMap.map.lookup key with
  | none => rfl
  | some ref =>
    rw [Option.bind_some]
    cases value : refMap.refs[ref]?.bind SoftValue.get with
    | none => simp only [value]
    | some o => simp only [value]

theorem Holds.of_mapped (holds : refMap.Holds P) {value : ν} (mapped : refMap.mapped key = some value) : P key value :=
  holds.get_value key ((refMap.get_fst key).trans mapped)

/-- Only a key that is mapped to no value is taken out. -/
theorem mapped_get (refMap : ReferenceMap κ ν) (key other : κ) : (refMap.get key).2.mapped other = refMap.mapped other := by
  unfold get
  cases atKey : refMap.map.lookup key with
  | none => rfl
  | some ref =>
    cases value : refMap.refs[ref]?.bind SoftValue.get with
    | some o => simp only [value]
    | none =>
      simp only [value]
      by_cases same : other = key
      · subst same
        rw [mapped, mapped, AList.lookup_erase, atKey, Option.bind_none, Option.bind_some, value]
      · rw [mapped, mapped, AList.lookup_erase_ne same]

theorem get_refs (refMap : ReferenceMap κ ν) (key : κ) :
    (refMap.get key).2.refs = refMap.refs ∧ (refMap.get key).2.queue = refMap.queue := by
  unfold get
  cases refMap.map.lookup key with
  | none => exact ⟨rfl, rfl⟩
  | some ref =>
    cases value : refMap.refs[ref]?.bind SoftValue.get with
    | none => simp only [value, and_self]
    | some o => simp only [value, and_self]

theorem mapped_newInstance (key : κ) : (newInstance : ReferenceMap κ ν).mapped key = none := by
  simp [newInstance, mapped]

theorem mapped_clear (refMap : ReferenceMap κ ν) (key : κ) : refMap.clear.mapped key = none := by
  simp [clear, mapped]

theorem Holds.clear (holds : refMap.Holds P) : refMap.clear.Holds P := by
  refine holds.of_map [] ?_
  intro other ref mapped
  cases mapped

/-- The values of a map whose references have changed in one place only. -/
theorem mapped_set (holds : refMap.Holds P) {ref : Nat} {old new : SoftValue κ ν} (queue : List Nat)
    (atRef : refMap.refs[ref]? = some old) (key : κ) :
    mapped { refMap with refs := refMap.refs.set ref new, queue } key =
      if key = old.key ∧ refMap.map.lookup key = some ref then new.get else refMap.mapped key := by
  unfold mapped
  cases atKey : refMap.map.lookup key with
  | none => simp
  | some found =>
    obtain ⟨soft, atFound, own⟩ := holds.keyed key found atKey
    by_cases same : found = ref
    · subst same
      rw [atRef] at atFound
      cases atFound
      rw [if_pos ⟨own.symm, rfl⟩, Option.bind_some, List.getElem?_set_self (List.getElem?_eq_some_iff.mp atRef).1,
        Option.bind_some]
    · rw [if_neg (fun equal => same (Option.some.inj equal.2)), Option.bind_some, Option.bind_some,
        List.getElem?_set_ne (Ne.symm same)]

theorem mapped_rewrite (holds : refMap.Holds P) (key : κ) (value : ν) (other : κ) :
    (refMap.rewrite key value).mapped other =
      if other = key then (refMap.mapped key).map fun _ => value else refMap.mapped other := by
  unfold rewrite
  cases atKey : refMap.map.lookup key with
  | none =>
    by_cases same : other = key
    · subst same
      simp [mapped, atKey]
    · simp [same]
  | some ref =>
    obtain ⟨soft, atRef, own⟩ := holds.keyed key ref atKey
    obtain ⟨softKey, stored, collected⟩ := soft
    cases own
    cases stored with
    | none =>
      have missing : refMap.mapped softKey = none := by simp [mapped, atKey, atRef, SoftValue.get]
      simp only [Option.bind_some, alter, atRef, Option.getD_none]
      by_cases same : other = softKey
      · rw [if_pos same, missing, same, missing, Option.map_none]
      · rw [if_neg same]
    | some stored =>
      simp only [Option.bind_some, alter, atRef, Option.map_some, Option.getD_some]
      rw [mapped_set holds refMap.queue atRef]
      by_cases same : other = softKey
      · subst same
        rw [if_pos ⟨rfl, atKey⟩, if_pos rfl, mapped, atKey, Option.bind_some, atRef, Option.bind_some]
        cases collected with
        | no => rfl
        | cleared | enqueued => rfl
      · rw [if_neg same, if_neg fun equal => same equal.1]

theorem rewrite_queue (refMap : ReferenceMap κ ν) (key : κ) (value : ν) :
    (refMap.rewrite key value).queue = refMap.queue := by
  unfold rewrite
  cases refMap.map.lookup key with
  | none => rfl
  | some ref =>
    rw [Option.bind_some, alter]
    split
    · rfl
    · rfl

theorem mapped_put (holds : refMap.Holds P) (key : κ) (value : ν) (other : κ) :
    (refMap.put key (some value)).2.mapped other =
      if other = key then some value else if other ∈ refMap.queuedKeys then none else refMap.mapped other := by
  by_cases same : other = key
  · subst same
    simp [put, mapped, poll, SoftValue.get]
  · rw [if_neg same]
    have lookup : (refMap.put key (some value)).2.map.lookup other =
        if other ∈ refMap.queuedKeys then none else refMap.map.lookup other :=
      (AList.lookup_insert_ne same).trans (lookup_poll refMap other)
    rw [mapped, lookup]
    by_cases queued : other ∈ refMap.queuedKeys
    · rw [if_pos queued, if_pos queued, Option.bind_none]
    · rw [if_neg queued, if_neg queued, mapped]
      cases atKey : refMap.map.lookup other with
      | none => rfl
      | some ref =>
        obtain ⟨soft, atRef, _⟩ := holds.keyed other ref atKey
        have inside : ref < refMap.refs.length := (List.getElem?_eq_some_iff.mp atRef).1
        show (refMap.refs ++ [⟨key, some value, .no⟩])[ref]?.bind SoftValue.get = refMap.refs[ref]?.bind SoftValue.get
        rw [List.getElem?_append_left inside]

omit [DecidableEq κ] in
theorem queuedKeys_nil (empty : refMap.queue = []) : refMap.queuedKeys = [] := by
  rw [queuedKeys, empty, List.filterMap_nil]

/-- What the collector does to a reference may take its value away, and no other. -/
theorem mapped_collect (holds : refMap.Holds P) {ref : Nat} (collected : refMap.collect ref = some refMap') (key : κ) :
    refMap'.mapped key = none ∨ refMap'.mapped key = refMap.mapped key := by
  unfold collect at collected
  split at collected
  · next atRef =>
      cases collected
      rw [mapped_set holds refMap.queue atRef]
      split
      · exact Or.inl rfl
      · exact Or.inr rfl
  · cases collected

theorem mapped_enqueue (holds : refMap.Holds P) {ref : Nat} (enqueued : refMap.enqueue ref = some refMap') (key : κ) :
    refMap'.mapped key = none ∨ refMap'.mapped key = refMap.mapped key := by
  unfold enqueue at enqueued
  split at enqueued
  · next atRef =>
      cases enqueued
      rw [mapped_set holds _ atRef]
      split
      · exact Or.inl rfl
      · exact Or.inr rfl
  · cases enqueued

/-- A change of an object that is a value. -/
theorem mapped_alter (holds : refMap.Holds P) {ref : Nat} {change : ν → Option ν} (altered : refMap.alter ref change = some refMap')
    (key : κ) :
    refMap'.mapped key = refMap.mapped key ∨
      ∃ value new, refMap.mapped key = some value ∧ change value = some new ∧ refMap'.mapped key = some new := by
  unfold alter at altered
  split at altered
  · next softKey value collected atRef =>
      obtain ⟨new, changed, same⟩ := Option.map_eq_some_iff.mp altered
      cases same
      rw [mapped_set holds refMap.queue atRef]
      by_cases here : key = softKey ∧ refMap.map.lookup key = some ref
      · have before : refMap.mapped key = SoftValue.get ⟨softKey, some value, collected⟩ := by
          rw [mapped, here.2, Option.bind_some, atRef, Option.bind_some]
        rw [if_pos here, before]
        cases collected with
        | no => exact Or.inr ⟨value, new, rfl, changed, rfl⟩
        | cleared | enqueued => exact Or.inl rfl
      · rw [if_neg here]
        exact Or.inl rfl
  · cases altered

end Sysm.ReferenceMap
