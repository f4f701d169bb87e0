import Mathlib.Data.List.AList
import Sysm.Lib.Machine

namespace Sysm

variable {κ ν : Type} [DecidableEq κ]

/-- What the collector has done to a reference. -/
inductive Collected
  | no
  | cleared
  | enqueued
deriving Repr, DecidableEq

/-- `SoftValue`. A value that is `null` in Java is `none`. -/
structure SoftValue (κ ν : Type) where
  key : κ
  value : Option ν
  collected : Collected
deriving Repr, DecidableEq

/-- `Reference.get` -/
def SoftValue.get (ref : SoftValue κ ν) : Option ν :=
  if ref.collected = .no then ref.value else none

/-- `ReferenceMap`. The references that it has made are numbered, and the map
and the queue have their numbers. -/
structure ReferenceMap (κ ν : Type) where
  map : AList fun _ : κ => Nat
  refs : List (SoftValue κ ν)
  queue : List Nat

namespace ReferenceMap

variable (refMap : ReferenceMap κ ν) (key other : κ)

/-- `newInstance` -/
def newInstance : ReferenceMap κ ν := ⟨∅, [], []⟩

/-- The loop of `poll` -/
def pollLoop (refs : List (SoftValue κ ν)) (map : AList fun _ : κ => Nat) : List Nat → AList fun _ : κ => Nat
  | [] => map
  | ref :: queue =>
    match refs[ref]? with
    | none => pollLoop refs map queue
    | some soft => pollLoop refs (map.erase soft.key) queue

def poll : ReferenceMap κ ν := { refMap with map := pollLoop refMap.refs refMap.map refMap.queue, queue := [] }

def get : Option ν × ReferenceMap κ ν :=
  match refMap.map.lookup key with
  | none => (none, refMap)
  | some ref =>
    match refMap.refs[ref]?.bind SoftValue.get with
    | none => (none, { refMap with map := refMap.map.erase key })
    | some o => (some o, refMap)

/-- The answer is the reference that was there, not its value. -/
def put (value : Option ν) : Option Nat × ReferenceMap κ ν :=
  let refMap := refMap.poll
  (refMap.map.lookup key,
    { refMap with map := refMap.map.insert key refMap.refs.length, refs := refMap.refs ++ [⟨key, value, .no⟩] })

def remove : Option Nat × ReferenceMap κ ν :=
  let refMap := refMap.poll
  (refMap.map.lookup key, { refMap with map := refMap.map.erase key })

def clear : ReferenceMap κ ν := { refMap.poll with map := ∅ }

def size : Nat × ReferenceMap κ ν := (refMap.poll.map.keys.length, refMap.poll)

/-- The collector clears a reference that has a value. -/
def collect (ref : Nat) : Option (ReferenceMap κ ν) :=
  match refMap.refs[ref]? with
  | some ⟨key, some value, .no⟩ => some { refMap with refs := refMap.refs.set ref ⟨key, some value, .cleared⟩ }
  | _ => none

/-- At some later time it puts the reference on the queue. -/
def enqueue (ref : Nat) : Option (ReferenceMap κ ν) :=
  match refMap.refs[ref]? with
  | some ⟨key, value, .cleared⟩ =>
    some { refMap with refs := refMap.refs.set ref ⟨key, value, .enqueued⟩, queue := refMap.queue ++ [ref] }
  | _ => none

/-- Changes the object that is the value of a reference. -/
def alter (ref : Nat) (change : ν → Option ν) : Option (ReferenceMap κ ν) :=
  match refMap.refs[ref]? with
  | some ⟨key, some value, collected⟩ =>
    (change value).map fun new => { refMap with refs := refMap.refs.set ref ⟨key, some new, collected⟩ }
  | _ => none

/-- Changes the object that a key is mapped to. -/
def rewrite (value : ν) : ReferenceMap κ ν :=
  ((refMap.map.lookup key).bind fun ref => refMap.alter ref fun _ => some value).getD refMap

/-- The value that a key is mapped to. -/
def mapped : Option ν := (refMap.map.lookup key).bind fun ref => refMap.refs[ref]?.bind SoftValue.get

/-- The keys of the references that are on the queue. -/
def queuedKeys : List κ := refMap.queue.filterMap fun ref => refMap.refs[ref]?.map SoftValue.key

/-- No reference on the queue has a key that is mapped to another reference. -/
def NoneSuperseded : Prop :=
  ∀ ref ∈ refMap.queue, ∀ soft, refMap.refs[ref]? = some soft → ∀ newer, refMap.map.lookup soft.key = some newer → newer = ref

/-- A reference on the queue does not take another one of its key out of the map. -/
def PollKeepsNewer : Prop :=
  ∀ ref ∈ refMap.queue, ∀ soft, refMap.refs[ref]? = some soft → ∀ newer, refMap.map.lookup soft.key = some newer →
    newer ≠ ref → refMap.poll.map.lookup soft.key = some newer

theorem lookup_pollLoop (refs : List (SoftValue κ ν)) (map : AList fun _ : κ => Nat) (queue : List Nat) :
    (pollLoop refs map queue).lookup key =
      if key ∈ queue.filterMap (fun ref => refs[ref]?.map SoftValue.key) then none else map.lookup key := by
  induction queue generalizing map with
  | nil => simp [pollLoop]
  | cons ref queue ih =>
    cases atRef : refs[ref]? with
    | none => simp [pollLoop, atRef, ih]
    | some soft =>
      simp only [pollLoop, atRef, ih, List.filterMap_cons, Option.map_some, List.mem_cons]
      by_cases same : key = soft.key
      · subst same
        rw [AList.lookup_erase, ite_self, if_pos (Or.inl rfl)]
      · simp [same, AList.lookup_erase_ne same]

/-- All keys of references on the queue are taken out of the map. -/
theorem lookup_poll :
    refMap.poll.map.lookup key = if key ∈ refMap.queuedKeys then none else refMap.map.lookup key :=
  lookup_pollLoop key refMap.refs refMap.map refMap.queue

omit [DecidableEq κ] in
theorem mem_queuedKeys : key ∈ refMap.queuedKeys ↔ ∃ ref ∈ refMap.queue, ∃ soft, refMap.refs[ref]? = some soft ∧ soft.key = key := by
  simp only [queuedKeys, List.mem_filterMap, Option.map_eq_some_iff]

theorem pollKeepsNewer_iff : refMap.PollKeepsNewer ↔ refMap.NoneSuperseded := by
  constructor
  · intro keeps ref queued soft atRef newer atKey
    by_contra different
    have kept := keeps ref queued soft atRef newer atKey different
    rw [lookup_poll, if_pos ((refMap.mem_queuedKeys _).mpr ⟨ref, queued, soft, atRef, rfl⟩)] at kept
    cases kept
  · intro absent ref queued soft atRef newer atKey different
    exact absurd (absent ref queued soft atRef newer atKey) different

/-- Every key is mapped to a reference of its own, and the values of all references
have a property. -/
structure Holds (P : κ → ν → Prop) : Prop where
  keyed : ∀ key ref, refMap.map.lookup key = some ref → ∃ soft, refMap.refs[ref]? = some soft ∧ soft.key = key
  values : ∀ (ref : Nat) (soft : SoftValue κ ν) value, refMap.refs[ref]? = some soft → soft.value = some value → P soft.key value

variable {refMap key} {P Q : κ → ν → Prop}

theorem get_of_mapped {value : ν} (mapped : refMap.mapped key = some value) : refMap.get key = (some value, refMap) := by
  obtain ⟨ref, atKey, referent⟩ := Option.bind_eq_some_iff.mp mapped
  simp only [get, atKey, referent]

theorem Holds.newInstance : (newInstance : ReferenceMap κ ν).Holds P where
  keyed := by simp [ReferenceMap.newInstance]
  values := by simp [ReferenceMap.newInstance]

theorem Holds.mono (holds : refMap.Holds P) (weaker : ∀ key value, P key value → Q key value) : refMap.Holds Q where
  keyed := holds.keyed
  values := fun ref soft value atRef atValue => weaker _ _ (holds.values ref soft value atRef atValue)

theorem Holds.of_map (holds : refMap.Holds P) {map : AList fun _ : κ => Nat} (queue : List Nat)
    (fewer : ∀ key ref, map.lookup key = some ref → refMap.map.lookup key = some ref) :
    Holds { refMap with map, queue } P where
  keyed := fun key ref mapped => holds.keyed key ref (fewer key ref mapped)
  values := holds.values

theorem Holds.erase (holds : refMap.Holds P) (key : κ) : Holds { refMap with map := refMap.map.erase key } P := by
  refine holds.of_map refMap.queue ?_
  intro other ref mapped
  by_cases same : other = key
  · rw [same, AList.lookup_erase] at mapped
    cases mapped
  · rwa [AList.lookup_erase_ne same] at mapped

theorem Holds.poll (holds : refMap.Holds P) : refMap.poll.Holds P := by
  refine holds.of_map [] ?_
  intro other ref mapped
  have polled : (if other ∈ refMap.queuedKeys then none else refMap.map.lookup other) = some ref :=
    (refMap.lookup_poll other).symm.trans mapped
  split at polled
  · cases polled
  · exact polled

theorem Holds.get (holds : refMap.Holds P) (key : κ) : (refMap.get key).2.Holds P := by
  unfold ReferenceMap.get
  split
  · exact holds
  · split
    · exact holds.erase key
    · exact holds

theorem Holds.get_value (holds : refMap.Holds P) (key : κ) {value : ν} (found : (refMap.get key).1 = some value) : P key value := by
  unfold ReferenceMap.get at found
  cases mapped : refMap.map.lookup key with
  | none => simp [mapped] at found
  | some ref =>
    obtain ⟨soft, atRef, own⟩ := holds.keyed key ref mapped
    have referent : soft.get = some value := by
      rw [mapped] at found
      simp only [atRef, Option.bind_some] at found
      cases got : soft.get with
      | none => simp [got] at found
      | some o => simpa [got] using found
    have stored : soft.value = some value := by
      unfold SoftValue.get at referent
      split at referent
      · exact referent
      · cases referent
    exact own ▸ holds.values ref soft value atRef stored

theorem Holds.put (holds : refMap.Holds P) {value : ν} (new : P key value) : (refMap.put key (some value)).2.Holds P where
  keyed := by
    intro other ref mapped
    by_cases same : other = key
    · have newest : ref = refMap.refs.length := by
        subst same
        exact (Option.some.inj ((AList.lookup_insert _).symm.trans mapped)).symm
      refine ⟨⟨key, some value, .no⟩, ?_, same.symm⟩
      rw [newest]
      simp [ReferenceMap.put, ReferenceMap.poll]
    · obtain ⟨soft, atRef, own⟩ := holds.poll.keyed other ref ((AList.lookup_insert_ne same).symm.trans mapped)
      have bound := (List.getElem?_eq_some_iff.mp atRef).1
      exact ⟨soft, (List.getElem?_append_left bound).trans atRef, own⟩
  values := by
    intro ref soft stored (atRef : (refMap.refs ++ [⟨key, some value, .no⟩])[ref]? = some soft) atValue
    rcases List.mem_append.mp (List.mem_of_getElem? atRef) with old | newest
    · obtain ⟨before, atBefore⟩ := List.mem_iff_getElem?.mp old
      exact holds.values before soft stored atBefore atValue
    · cases List.mem_singleton.mp newest
      cases atValue
      exact new

theorem Holds.set (holds : refMap.Holds P) {ref : Nat} {old new : SoftValue κ ν} (queue : List Nat)
    (atRef : refMap.refs[ref]? = some old) (own : new.key = old.key) (values : ∀ value, new.value = some value → P new.key value) :
    Holds { refMap with refs := refMap.refs.set ref new, queue } P where
  keyed := by
    intro key other mapped
    obtain ⟨soft, atOther, ownKey⟩ := holds.keyed key other mapped
    by_cases same : ref = other
    · subst same
      have bound : ref < refMap.refs.length := (List.getElem?_eq_some_iff.mp atRef).1
      rw [atRef] at atOther
      cases atOther
      exact ⟨new, List.getElem?_set_self bound, own.trans ownKey⟩
    · exact ⟨soft, (List.getElem?_set_ne same).trans atOther, ownKey⟩
  values := by
    intro other soft value atOther atValue
    by_cases same : ref = other
    · subst same
      have bound : ref < refMap.refs.length := (List.getElem?_eq_some_iff.mp atRef).1
      rw [List.getElem?_set_self bound] at atOther
      cases atOther
      exact values value atValue
    · rw [List.getElem?_set_ne same] at atOther
      exact holds.values other soft value atOther atValue

theorem Holds.alter (holds : refMap.Holds P) {ref : Nat} {change : ν → Option ν} {refMap' : ReferenceMap κ ν}
    (changed : refMap.alter ref change = some refMap')
    (keeps : ∀ soft value new, refMap.refs[ref]? = some soft → P soft.key value → change value = some new → P soft.key new) :
    refMap'.Holds P := by
  unfold ReferenceMap.alter at changed
  split at changed
  · next key value collected atRef =>
      obtain ⟨new, atNew, changed⟩ := Option.map_eq_some_iff.mp changed
      cases changed
      refine holds.set refMap.queue atRef rfl ?_
      intro stored same
      cases same
      exact keeps ⟨key, some value, collected⟩ value new atRef (holds.values ref _ value atRef rfl) atNew
  · cases changed

theorem Holds.rewrite (holds : refMap.Holds P) (value : ν) (new : P key value) : (refMap.rewrite key value).Holds P := by
  unfold ReferenceMap.rewrite
  cases mapped : refMap.map.lookup key with
  | none => exact holds
  | some ref =>
    simp only [Option.bind_some]
    cases changed : refMap.alter ref (fun _ => some value) with
    | none => exact holds
    | some refMap' =>
      refine holds.alter changed ?_
      intro soft old stored atRef _ same
      cases same
      obtain ⟨own, atOwn, ownKey⟩ := holds.keyed key ref mapped
      rw [atRef] at atOwn
      cases atOwn
      exact ownKey ▸ new

theorem Holds.collect (holds : refMap.Holds P) {ref : Nat} {refMap' : ReferenceMap κ ν}
    (collected : refMap.collect ref = some refMap') : refMap'.Holds P := by
  unfold ReferenceMap.collect at collected
  split at collected
  · next atRef =>
      cases collected
      refine holds.set refMap.queue atRef rfl ?_
      intro value same
      have kept := holds.values ref _ value atRef same
      exact kept
  · cases collected

theorem Holds.enqueue (holds : refMap.Holds P) {ref : Nat} {refMap' : ReferenceMap κ ν}
    (enqueued : refMap.enqueue ref = some refMap') : refMap'.Holds P := by
  unfold ReferenceMap.enqueue at enqueued
  split at enqueued
  · next atRef =>
      cases enqueued
      refine holds.set _ atRef rfl ?_
      intro value same
      have kept := holds.values ref _ value atRef same
      exact kept
  · cases enqueued

end ReferenceMap

end Sysm
