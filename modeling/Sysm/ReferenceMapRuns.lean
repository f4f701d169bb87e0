import Sysm.ReferenceMap

namespace Sysm

variable {κ ν : Type} [DecidableEq κ]

/-- What the owner of a map and the collector do. The owner may give up a value,
and the collector then may clear its references. -/
inductive ReferenceMapStep (κ ν : Type)
  | get (key : κ)
  | put (key : κ) (value : Option ν)
  | remove (key : κ)
  | clear
  | size
  | release (value : ν)
  | collect (ref : Nat)
  | enqueue (ref : Nat)
deriving Repr, DecidableEq

inductive ReferenceMapAnswer (ν : Type)
  | value (value : Option ν)
  | replaced (ref : Option Nat)
  | size (size : Nat)
  | done
deriving Repr, DecidableEq

/-- A map with the values that are strongly reachable. `latest` has for a key the
value of its last `put`, unless the key was removed or the value given up since. -/
structure ReferenceMapUse (κ ν : Type) where
  refMap : ReferenceMap κ ν
  strong : List ν
  latest : κ → Option ν

namespace ReferenceMapUse

def start : ReferenceMapUse κ ν := ⟨ReferenceMap.newInstance, [], fun _ => none⟩

/-- Every value that is owed is strongly reachable, and its reference is mapped and
not cleared. -/
structure Live (use : ReferenceMapUse κ ν) : Prop where
  strong : ∀ key value, use.latest key = some value → value ∈ use.strong
  mapped : ∀ key value, use.latest key = some value →
    ∃ ref, use.refMap.map.lookup key = some ref ∧ use.refMap.refs[ref]? = some ⟨key, some value, .no⟩
  queued : ∀ ref ∈ use.refMap.queue, ∀ soft, use.refMap.refs[ref]? = some soft → soft.collected = .enqueued

variable {use : ReferenceMapUse κ ν}

theorem Live.start : (start : ReferenceMapUse κ ν).Live where
  strong := by simp [ReferenceMapUse.start]
  mapped := by simp [ReferenceMapUse.start]
  queued := by simp [ReferenceMapUse.start, ReferenceMap.newInstance]

theorem Live.mapped_eq (live : use.Live) {key : κ} {value : ν} (owed : use.latest key = some value) :
    use.refMap.mapped key = some value := by
  obtain ⟨ref, atKey, atRef⟩ := live.mapped key value owed
  simp [ReferenceMap.mapped, atKey, atRef, SoftValue.get]

/-- Unless a reference on the queue is superseded, its key is owed no value. -/
theorem Live.poll (live : use.Live) (fresh : use.refMap.NoneSuperseded) :
    ReferenceMapUse.Live { use with refMap := use.refMap.poll } where
  strong := live.strong
  mapped := by
    intro key value owed
    obtain ⟨ref, atKey, atRef⟩ := live.mapped key value owed
    refine ⟨ref, ?_, atRef⟩
    have notQueued : key ∉ use.refMap.queuedKeys := by
      intro member
      obtain ⟨old, queued, soft, atOld, ownKey⟩ := (use.refMap.mem_queuedKeys key).mp member
      have same : ref = old := fresh old queued soft atOld ref (by rw [ownKey]; exact atKey)
      have enqueued := live.queued old queued _ (by rw [← same]; exact atRef)
      cases enqueued
    rw [use.refMap.lookup_poll, if_neg notQueued]
    exact atKey
  queued := by simp [ReferenceMap.poll]

/-- The collector changes one reference, which is that of no value that is owed. -/
theorem Live.set (live : use.Live) {ref : Nat} {old new : SoftValue κ ν} {queue : List Nat}
    (atRef : use.refMap.refs[ref]? = some old) (notOwed : ∀ key value, old = ⟨key, some value, .no⟩ → value ∉ use.strong)
    (enqueued : ∀ other ∈ queue, other ∈ use.refMap.queue ∨ other = ref)
    (state : ref ∈ queue → new.collected = .enqueued) :
    ReferenceMapUse.Live { use with refMap := { use.refMap with refs := use.refMap.refs.set ref new, queue } } where
  strong := live.strong
  mapped := by
    intro key value owed
    obtain ⟨mapped, atKey, atMapped⟩ := live.mapped key value owed
    refine ⟨mapped, atKey, ?_⟩
    have different : ref ≠ mapped := by
      intro same
      rw [same, atMapped] at atRef
      exact notOwed key value (Option.some.inj atRef).symm (live.strong key value owed)
    simpa only [List.getElem?_set_ne different] using atMapped
  queued := by
    intro other member soft atOther
    by_cases same : ref = other
    · subst same
      have bound : ref < use.refMap.refs.length := (List.getElem?_eq_some_iff.mp atRef).1
      rw [List.getElem?_set_self bound] at atOther
      cases atOther
      exact state member
    · rw [List.getElem?_set_ne same] at atOther
      rcases enqueued other member with queued | changed
      · exact live.queued other queued soft atOther
      · exact absurd changed.symm same

/-- The map loses at most keys that are owed no value. -/
theorem Live.of_map (live : use.Live) {map : AList fun _ : κ => Nat} {latest : κ → Option ν} (more : List ν)
    (owed : ∀ key value, latest key = some value → use.latest key = some value)
    (kept : ∀ key value, latest key = some value → map.lookup key = use.refMap.map.lookup key) :
    ReferenceMapUse.Live ⟨{ use.refMap with map }, more ++ use.strong, latest⟩ where
  strong := fun key value atKey => List.mem_append_right _ (live.strong key value (owed key value atKey))
  mapped := by
    intro key value atKey
    obtain ⟨ref, mapped, atRef⟩ := live.mapped key value (owed key value atKey)
    exact ⟨ref, (kept key value atKey).trans mapped, atRef⟩
  queued := live.queued

theorem Live.get (live : use.Live) (key : κ) :
    ReferenceMapUse.Live ⟨(use.refMap.get key).2, (use.refMap.get key).1.toList ++ use.strong, use.latest⟩ := by
  unfold ReferenceMap.get
  cases atKey : use.refMap.map.lookup key with
  | none => exact live.of_map _ (fun _ _ owed => owed) (fun _ _ _ => rfl)
  | some ref =>
    simp only
    cases value : use.refMap.refs[ref]?.bind SoftValue.get with
    | some o => exact live.of_map _ (fun _ _ owed => owed) (fun _ _ _ => rfl)
    | none =>
      refine live.of_map _ (fun _ _ owed => owed) ?_
      intro other owedValue owed
      -- a reference that is owed has not been cleared
      have different : other ≠ key := by
        intro same
        subst same
        have mapped := live.mapped_eq owed
        rw [ReferenceMap.mapped, atKey, Option.bind_some, value] at mapped
        cases mapped
      exact AList.lookup_erase_ne different

theorem Live.put (live : use.Live) (fresh : use.refMap.NoneSuperseded) (key : κ) (value : Option ν) :
    ReferenceMapUse.Live ⟨(use.refMap.put key value).2, value.toList ++ use.strong, Function.update use.latest key value⟩ where
  strong := by
    intro other owedValue (owed : Function.update use.latest key value other = some owedValue)
    by_cases same : other = key
    · rw [same, Function.update_self] at owed
      simp [owed]
    · rw [Function.update_of_ne same] at owed
      exact List.mem_append_right _ (live.strong other owedValue owed)
  mapped := by
    intro other owedValue (owed : Function.update use.latest key value other = some owedValue)
    by_cases same : other = key
    · rw [same, Function.update_self] at owed
      refine ⟨use.refMap.refs.length, ?_, ?_⟩
      · rw [same]
        exact AList.lookup_insert _
      · simp [ReferenceMap.put, ReferenceMap.poll, owed, same]
    · rw [Function.update_of_ne same] at owed
      obtain ⟨ref, mapped, atRef⟩ := (live.poll fresh).mapped other owedValue owed
      refine ⟨ref, (AList.lookup_insert_ne same).trans mapped, ?_⟩
      have bound := (List.getElem?_eq_some_iff.mp atRef).1
      exact (List.getElem?_append_left bound).trans atRef
  queued := by simp [ReferenceMap.put, ReferenceMap.poll]

theorem Live.collect (live : use.Live) {ref : Nat} {refMap : ReferenceMap κ ν}
    (unreachable : ∀ value, use.refMap.refs[ref]?.bind SoftValue.value = some value → value ∉ use.strong)
    (collected : use.refMap.collect ref = some refMap) : ReferenceMapUse.Live { use with refMap } := by
  unfold ReferenceMap.collect at collected
  split at collected
  · next atRef =>
      cases collected
      refine live.set atRef ?_ (fun _ member => Or.inl member) ?_
      · intro key value same
        apply unreachable
        rw [atRef, same]
        rfl
      · intro member
        have enqueued := live.queued ref member _ atRef
        cases enqueued
  · cases collected

theorem Live.enqueue (live : use.Live) {ref : Nat} {refMap : ReferenceMap κ ν}
    (enqueued : use.refMap.enqueue ref = some refMap) : ReferenceMapUse.Live { use with refMap } := by
  unfold ReferenceMap.enqueue at enqueued
  split at enqueued
  · next atRef =>
      cases enqueued
      refine live.set atRef ?_ ?_ (fun _ => rfl)
      · intro key value same
        cases same
      · intro other member
        simpa using member
  · cases enqueued

variable [DecidableEq ν]

/-- A value that `get` answers is strongly reachable again. -/
def step (use : ReferenceMapUse κ ν) : ReferenceMapStep κ ν → Option (ReferenceMapAnswer ν × ReferenceMapUse κ ν)
  | .get key =>
    let (value, refMap) := use.refMap.get key
    some (.value value, { use with refMap, strong := value.toList ++ use.strong })
  | .put key value =>
    let (replaced, refMap) := use.refMap.put key value
    some (.replaced replaced, ⟨refMap, value.toList ++ use.strong, Function.update use.latest key value⟩)
  | .remove key =>
    let (replaced, refMap) := use.refMap.remove key
    some (.replaced replaced, { use with refMap, latest := Function.update use.latest key none })
  | .clear => some (.done, { use with refMap := use.refMap.clear, latest := fun _ => none })
  | .size =>
    let (size, refMap) := use.refMap.size
    some (.size size, { use with refMap })
  | .release value =>
    some (.done, { use with
      strong := use.strong.filter (· ≠ value)
      latest := fun key => if use.latest key = some value then none else use.latest key })
  | .collect ref =>
    if (use.refMap.refs[ref]?.bind SoftValue.value).any (· ∈ use.strong) then none
    else (use.refMap.collect ref).map fun refMap => (.done, { use with refMap })
  | .enqueue ref => (use.refMap.enqueue ref).map fun refMap => (.done, { use with refMap })

end ReferenceMapUse

variable [DecidableEq ν]

/-- The calls that begin with `poll`. -/
def ReferenceMapStep.polls : ReferenceMapStep κ ν → Bool
  | .put _ _ | .remove _ | .clear | .size => true
  | _ => false

/-- In a run a value that is strongly reachable since it was put under a key stays
mapped, and `poll` never takes out a newer reference. -/
def NeverDropsLive (steps : List (ReferenceMapStep κ ν)) : Prop :=
  (∀ before after, steps = before ++ after → ∀ answers use,
    Machine.run ReferenceMapUse.step .start before = some (answers, use) →
      ∀ key value, use.latest key = some value → use.refMap.mapped key = some value) ∧
  ∀ before call after, steps = before ++ call :: after → call.polls = true → ∀ answers use,
    Machine.run ReferenceMapUse.step .start before = some (answers, use) → use.refMap.PollKeepsNewer

/-- Whenever `poll` begins in a run, no reference on the queue is superseded. -/
def PollsNoneSuperseded (steps : List (ReferenceMapStep κ ν)) : Prop :=
  ∀ before call after, steps = before ++ call :: after → call.polls = true → ∀ answers use,
    Machine.run ReferenceMapUse.step .start before = some (answers, use) → use.refMap.NoneSuperseded

variable {use next : ReferenceMapUse κ ν} {call : ReferenceMapStep κ ν} {answer : ReferenceMapAnswer ν}

theorem ReferenceMapUse.Live.step (live : use.Live) (fresh : call.polls = true → use.refMap.NoneSuperseded)
    (run : use.step call = some (answer, next)) : next.Live := by
  cases call with
  | get key =>
    cases run
    exact live.get key
  | put key value =>
    cases run
    exact live.put (fresh rfl) key value
  | remove key =>
    cases run
    refine (live.poll (fresh rfl)).of_map [] ?_ ?_
    · intro other value (owed : Function.update use.latest key none other = some value)
      by_cases same : other = key
      · simp [same] at owed
      · rwa [Function.update_of_ne same] at owed
    · intro other value (owed : Function.update use.latest key none other = some value)
      have different : other ≠ key := by
        intro same
        simp [same] at owed
      exact AList.lookup_erase_ne different
  | clear =>
    cases run
    exact (live.poll (fresh rfl)).of_map [] (by simp) (by simp)
  | size =>
    cases run
    exact live.poll (fresh rfl)
  | release value =>
    cases run
    have owed (key : κ) (other : ν) (h : (if use.latest key = some value then none else use.latest key) = some other) :
        use.latest key = some other ∧ other ≠ value := by
      by_cases given : use.latest key = some value
      · simp [given] at h
      · rw [if_neg given] at h
        exact ⟨h, fun same => given (same ▸ h)⟩
    constructor
    · intro key other h
      obtain ⟨before, different⟩ := owed key other h
      simpa using ⟨live.strong key other before, different⟩
    · exact fun key other h => live.mapped key other (owed key other h).1
    · exact live.queued
  | collect ref =>
    simp only [ReferenceMapUse.step] at run
    split at run
    · cases run
    · next unreachable =>
        obtain ⟨refMap, collected, run⟩ := Option.map_eq_some_iff.mp run
        cases run
        refine live.collect ?_ collected
        intro value referent held
        rw [referent] at unreachable
        simp [held] at unreachable
  | enqueue ref =>
    obtain ⟨refMap, enqueued, run⟩ := Option.map_eq_some_iff.mp run
    cases run
    exact live.enqueue enqueued

/-- The map keeps what it owes as long as `poll` finds no reference superseded. -/
theorem ReferenceMapUse.live_run {steps : List (ReferenceMapStep κ ν)} (fresh : PollsNoneSuperseded steps)
    {before after : List (ReferenceMapStep κ ν)} (split : steps = before ++ after)
    {answers : List (ReferenceMapAnswer ν)} (run : Machine.run ReferenceMapUse.step .start before = some (answers, use)) :
    use.Live := by
  induction before using List.reverseRecOn generalizing after answers use with
  | nil =>
    cases run
    exact .start
  | append_singleton before call ih =>
    obtain ⟨done, middle, answer, ran, stepped, _⟩ := Machine.run_snoc_iff.mp run
    have earlier : steps = before ++ call :: after := by rw [split, List.append_assoc, List.singleton_append]
    have live := ih earlier ran
    exact live.step (fun polls => fresh before call after earlier polls done middle ran) stepped

/-- No live mapping is dropped and no newer one exactly if whenever `poll` begins,
no reference on the queue has a key that is mapped to another one. -/
theorem neverDropsLive_iff (steps : List (ReferenceMapStep κ ν)) : NeverDropsLive steps ↔ PollsNoneSuperseded steps := by
  constructor
  · intro kept before call after split polls answers use run
    exact use.refMap.pollKeepsNewer_iff.mp (kept.2 before call after split polls answers use run)
  · intro fresh
    constructor
    · intro before after split answers use run key value owed
      exact (ReferenceMapUse.live_run fresh split run).mapped_eq owed
    · intro before call after split polls answers use run
      exact use.refMap.pollKeepsNewer_iff.mpr (fresh before call after split polls answers use run)

/-- A value is put under a key whose cleared reference is still to be put on the queue. -/
def putAgainEarly : List (ReferenceMapStep Nat Nat) :=
  [.put 1 (some 10), .release 10, .collect 0, .get 1, .put 1 (some 11), .enqueue 0, .size]

/-- The value put last is dropped although nobody gave it up. -/
theorem poll_drops_live : ¬ ∀ steps : List (ReferenceMapStep Nat Nat), NeverDropsLive steps := by
  intro claim
  have lost : (Machine.run ReferenceMapUse.step .start putAgainEarly).map
      (fun result => (result.2.latest 1, result.2.refMap.mapped 1)) = some (some 11, none) := by decide +kernel
  obtain ⟨⟨answers, use⟩, run, lost⟩ := Option.map_eq_some_iff.mp lost
  have owed : use.latest 1 = some 11 := congrArg Prod.fst lost
  have gone : use.refMap.mapped 1 = none := congrArg Prod.snd lost
  have kept := (claim putAgainEarly).1 putAgainEarly [] (by simp) answers use run 1 11 owed
  rw [gone] at kept
  cases kept

end Sysm
