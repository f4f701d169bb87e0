import Mathlib.Data.List.Dedup
import Sysm.CacheMap

namespace Sysm

variable {α : Type}

/-- The keys that `sysm_cache_get` is called with, each once. -/
def createdKeys (calls : List (CacheCall α)) : List UInt64 :=
  (calls.filterMap fun call => match call with
    | .get key _ _ => some key
    | _ => none).dedup

theorem mem_createdKeys {calls : List (CacheCall α)} {key : UInt64} :
    key ∈ createdKeys calls ↔ ∃ sweepTime accessTime, .get key sweepTime accessTime ∈ calls := by
  simp only [createdKeys, List.mem_dedup, List.mem_filterMap]
  constructor
  · rintro ⟨call, member, found⟩
    cases call with
    | get other sweepTime accessTime =>
      cases Option.some.inj found
      exact ⟨sweepTime, accessTime, member⟩
    | find | store => simp at found
  · rintro ⟨sweepTime, accessTime, member⟩
    exact ⟨_, member, rfl⟩

theorem createdKeys_nodup (calls : List (CacheCall α)) : (createdKeys calls).Nodup := List.nodup_dedup _

theorem createdKeys_subset_length {calls others : List (CacheCall α)}
    (sub : ∀ key ∈ createdKeys calls, key ∈ createdKeys others) :
    (createdKeys calls).length ≤ (createdKeys others).length :=
  (List.subperm_of_subset (createdKeys_nodup _) sub).length_le

theorem createdKeys_length_le {calls others : List (CacheCall α)} (sub : calls ⊆ others) :
    (createdKeys calls).length ≤ (createdKeys others).length := by
  refine createdKeys_subset_length fun key member => ?_
  obtain ⟨sweepTime, accessTime, inCalls⟩ := mem_createdKeys.mp member
  exact mem_createdKeys.mpr ⟨sweepTime, accessTime, sub inCalls⟩

theorem createdKeys_length_snoc {calls : List (CacheCall α)} {key sweepTime accessTime : UInt64}
    (new : key ∉ createdKeys calls) :
    (createdKeys (calls ++ [.get key sweepTime accessTime])).length = (createdKeys calls).length + 1 := by
  have perm : (createdKeys (calls ++ [.get key sweepTime accessTime])).Perm (key :: createdKeys calls) := by
    refine (List.perm_ext_iff_of_nodup (createdKeys_nodup _)
      (List.nodup_cons.mpr ⟨new, createdKeys_nodup _⟩)).mpr fun other => ?_
    simp only [mem_createdKeys, List.mem_append, List.mem_cons, List.not_mem_nil, or_false,
      CacheCall.get.injEq]
    constructor
    · rintro ⟨s, a, inCalls | ⟨rfl, _⟩⟩
      · exact Or.inr ⟨s, a, inCalls⟩
      · exact Or.inl rfl
    · rintro (rfl | ⟨s, a, inCalls⟩)
      · exact ⟨sweepTime, accessTime, Or.inr ⟨rfl, rfl, rfl⟩⟩
      · exact ⟨s, a, Or.inl inCalls⟩
  simpa using perm.length_eq

theorem mem_createdKeys_snoc {calls : List (CacheCall α)} {call : CacheCall α} {key : UInt64} :
    key ∈ createdKeys (calls ++ [call]) ↔
      key ∈ createdKeys calls ∨ ∃ sweepTime accessTime, call = .get key sweepTime accessTime := by
  simp only [mem_createdKeys, List.mem_append, List.mem_cons, List.not_mem_nil, or_false]
  constructor
  · rintro ⟨s, a, inCalls | last⟩
    · exact Or.inl ⟨s, a, inCalls⟩
    · exact Or.inr ⟨s, a, last.symm⟩
  · rintro (⟨s, a, inCalls⟩ | ⟨s, a, rfl⟩)
    · exact ⟨s, a, Or.inl inCalls⟩
    · exact ⟨s, a, Or.inr rfl⟩

/-- Only `sysm_cache_get` creates keys: a store goes to a key that is there. -/
theorem CacheUse.Refines.created_step {use : CacheUse α} {map : MapUse α} {chains : List (List Nat)}
    (refines : use.Refines map chains) (call : CacheCall α) (key : UInt64) :
    (map.step call).2.values key ≠ none ↔
      map.values key ≠ none ∨ ∃ sweepTime accessTime, call = .get key sweepTime accessTime := by
  cases call with
  | get other sweepTime accessTime =>
    by_cases same : key = other
    · subst other
      simp [MapUse.step]
    · simp [MapUse.step, Function.update_of_ne same, Ne.symm same]
  | find other sweepTime accessTime => simp [MapUse.step]
  | store handle value =>
    rcases refines.handle handle with ⟨_, atMap⟩ | ⟨_, atMap⟩ | ⟨entry, other, _, atMap, holds⟩
    · simp [MapUse.step, atMap]
    · simp [MapUse.step, atMap]
    · obtain ⟨cell, atCell⟩ := refines.repr.allocated holds.1
      have present := refines.value_of_holds holds atCell
      by_cases same : key = other
      · subst other
        simp [MapUse.step, atMap, present]
      · simp [MapUse.step, atMap, Function.update_of_ne same]

/-- A table that has not run out of room after `done`, and the map it holds. -/
structure Roomy (size : UInt32) (now : UInt64) (done : List (CacheCall α)) (answers : List (Option (Option α)))
    (use : CacheUse α) (map : MapUse α) (chains : List (List Nat)) : Prop where
  ran : Machine.run CacheUse.step ⟨sysmCacheNew α size now, []⟩ done = some (answers, use)
  ranMap : Machine.run (fun map call => some (MapUse.step map call)) ⟨fun _ => none, []⟩ done = some (answers, map)
  refines : use.Refines map chains
  created : ∀ key, map.values key ≠ none ↔ key ∈ createdKeys done
  sized : use.table.size = size
  disabled : use.table.cleanupPeriodMillis = -1

theorem Roomy.start {size : UInt32} (positive : 0 < size.toNat) (now : UInt64) :
    Roomy (α := α) size now [] [] ⟨sysmCacheNew α size now, []⟩ ⟨fun _ => none, []⟩
      (List.replicate size.toNat []) where
  ran := rfl
  ranMap := rfl
  refines := {
    repr := sysmExpiredCacheNew_repr size _ _ now positive
    count := by simp [sysmCacheNew, sysmExpiredCacheNew]
    values := by simp [Cache.Holds]
    handles := .nil }
  created := by simp [createdKeys]
  sized := rfl
  disabled := rfl

theorem Roomy.count {size : UInt32} {now : UInt64} {done : List (CacheCall α)} {answers : List (Option (Option α))}
    {use : CacheUse α} {map : MapUse α} {chains : List (List Nat)} (roomy : Roomy size now done answers use map chains) :
    use.table.count.toNat = (createdKeys done).length := by
  rw [roomy.refines.count]
  exact roomy.refines.length_eq (createdKeys_nodup done) roomy.created

/-- As long as the created keys fit into the array, no rehash takes place. -/
theorem roomy_of_fits {size : UInt32} (positive : 0 < size.toNat) (now : UInt64) (done : List (CacheCall α))
    (fits : (createdKeys done).length ≤ size.toNat) :
    ∃ answers use map chains, Roomy size now done answers use map chains := by
  induction done using List.reverseRecOn with
  | nil => exact ⟨_, _, _, _, .start positive now⟩
  | append_singleton done call ih =>
    have smaller := createdKeys_length_le (List.subset_append_left done [call])
    obtain ⟨answers, use, map, chains, roomy⟩ := ih (smaller.trans fits)
    have room : ∀ key sweepTime accessTime, call = .get key sweepTime accessTime →
        map.values key = none → use.table.count.toNat < use.table.size.toNat := by
      rintro key sweepTime accessTime rfl missing
      have new : key ∉ createdKeys done := fun old => (roomy.created key).mpr old missing
      rw [createdKeys_length_snoc new] at fits
      rw [roomy.count, roomy.sized]
      omega
    obtain ⟨answer, use', chains', stepped, rfl, refines', sized, disabled⟩ :=
      roomy.refines.step roomy.disabled call room
    refine ⟨answers ++ [(map.step call).1], use', (map.step call).2, chains', ?_⟩
    exact {
      ran := Machine.run_snoc_iff.mpr ⟨answers, use, _, roomy.ran, stepped, rfl⟩
      ranMap := Machine.run_snoc_iff.mpr ⟨answers, map, _, roomy.ranMap, rfl, rfl⟩
      refines := refines'
      created := fun key => by rw [roomy.refines.created_step call key, roomy.created key, mem_createdKeys_snoc]
      sized := sized.trans roomy.sized
      disabled := disabled }

/-- The first key too many makes the table drop all the others, or wraps the
counter: either way the map is lost. -/
theorem Roomy.overflow {size : UInt32} {now : UInt64} {done : List (CacheCall α)} {answers : List (Option (Option α))}
    {use use' : CacheUse α} {map map' : MapUse α} {chains chains' : List (List Nat)}
    (roomy : Roomy size now done answers use map chains) (positive : 0 < size.toNat)
    (full : (createdKeys done).length = size.toNat) {key sweepTime accessTime : UInt64}
    (new : key ∉ createdKeys done) {answer : Option (Option α)}
    (stepped : use.step (.get key sweepTime accessTime) = some (answer, use')) : ¬ use'.Refines map' chains' := by
  intro refines'
  have missing : map.values key = none := by
    by_contra present
    exact new ((roomy.created key).mp present)
  have count := roomy.count
  obtain ⟨table', entry, chains'', run, repr, spec⟩ := roomy.refines.repr.getEntry_spec key accessTime
  have swept : sysmCacheGet use.table key sweepTime accessTime = some (table', entry) := by
    simp only [sysmCacheGet, sysmPerformCleanup_disabled roomy.disabled, Option.bind_eq_bind, Option.bind_some, run]
  have atTable : use'.table = table' := by
    simp only [CacheUse.step, swept, Option.bind_eq_bind, Option.bind_some, Option.pure_def] at stepped
    obtain ⟨value, _, same⟩ := Option.bind_eq_some_iff.mp stepped
    cases Option.some.inj same
    rfl
  have same : chains' = chains'' := by
    have repr' := refines'.repr
    rw [atTable] at repr'
    exact repr'.unique repr
  have count' := refines'.count
  rw [atTable, same] at count'
  have bound := size.toNat_lt
  cases spec with
  | @hit cell holds atCell _ =>
    rw [roomy.refines.value_of_holds holds atCell] at missing
    cases missing
  | @grow chain _ fits atChain _ raised _ _ _ =>
    rw [(LinkedHeap.flatten_set_append atChain entry).length_eq, List.length_cons, raised, UInt32.toNat_add,
      UInt32.toNat_one] at count'
    rw [UInt32.le_iff_toNat_le, UInt32.toNat_add, UInt32.toNat_one, roomy.sized] at fits
    omega
  | rehash _ large sized raised _ _ _ =>
    have atNil : (List.replicate table'.size.toNat ([] : List Nat))[(key % table'.size.toUInt64).toNat]? = some [] := by
      rw [List.getElem?_replicate, if_pos (repr.ix_lt key)]
    have length := (LinkedHeap.flatten_set_append atNil entry).length_eq
    simp only [List.nil_append, List.length_cons, List.flatten_replicate_nil, List.length_nil] at length
    rw [length, raised, UInt32.toNat_add, UInt32.toNat_one] at count'
    rw [UInt32.lt_iff_toNat_lt, UInt32.toNat_add, UInt32.toNat_one, roomy.sized] at large
    omega

/-- The table behaves as a finite map exactly as long as no more keys are
created than it was made for. -/
theorem behavesAsMap_iff_createdKeys_fit (size : UInt32) (positive : 1 ≤ size.toNat) (now : UInt64)
    (calls : List (CacheCall α)) :
    BehavesAsMap size now calls ↔ (createdKeys calls).length ≤ size.toNat := by
  constructor
  · intro behaves
    suffices all : ∀ done, done <+: calls → (createdKeys done).length ≤ size.toNat from
      all calls (List.prefix_refl calls)
    intro done isPrefix
    induction done using List.reverseRecOn with
    | nil => simp [createdKeys]
    | append_singleton done call ih =>
      have before := ih ((List.prefix_append done [call]).trans isPrefix)
      obtain ⟨answers, use, map, chains, roomy⟩ := roomy_of_fits positive now done before
      obtain ⟨_, use', map', chains', ran, _, refines'⟩ := behaves _ isPrefix
      obtain ⟨_, use₁, answer, ran₁, stepped, _⟩ := Machine.run_snoc_iff.mp ran
      cases Option.some.inj (roomy.ran.symm.trans ran₁)
      by_cases new : ∃ key sweepTime accessTime, call = .get key sweepTime accessTime ∧ key ∉ createdKeys done
      · obtain ⟨key, sweepTime, accessTime, rfl, absent⟩ := new
        rw [createdKeys_length_snoc absent]
        by_contra tooMany
        exact roomy.overflow positive (by omega) absent stepped refines'
      · refine (createdKeys_subset_length fun key member => ?_).trans before
        rcases mem_createdKeys_snoc.mp member with old | ⟨sweepTime, accessTime, last⟩
        · exact old
        · by_contra absent
          exact new ⟨key, sweepTime, accessTime, last, absent⟩
  · intro fits done isPrefix
    have sub := createdKeys_length_le isPrefix.subset
    obtain ⟨answers, use, map, chains, roomy⟩ := roomy_of_fits positive now done (sub.trans fits)
    exact ⟨answers, use, map, chains, roomy.ran, roomy.ranMap, roomy.refines⟩

/-- A table of one slot in use by two keys. -/
theorem behavesAsMap_two_keys :
    ¬ BehavesAsMap (α := Nat) 1 0 [.get 7 0 0, .get 8 0 0, .find 7 0 0] ∧
      BehavesAsMap (α := Nat) 2 0 [.get 7 0 0, .get 8 0 0, .find 7 0 0] :=
  ⟨fun behaves => absurd ((behavesAsMap_iff_createdKeys_fit 1 (by decide) 0 _).mp behaves) (by decide),
    (behavesAsMap_iff_createdKeys_fit 2 (by decide) 0 _).mpr (by decide)⟩

/-- After the second of two keys the first one is not found any more. -/
theorem sysmCacheFind_loses_key :
    ¬ ∀ (size : UInt32) (now : UInt64) (calls : List (CacheCall Nat)), 1 ≤ size.toNat → BehavesAsMap size now calls := by
  intro claim
  obtain ⟨answers, use, map, chains, ran, ranMap, _⟩ :=
    claim 1 0 [.get 7 0 0, .get 8 0 0, .find 7 0 0] (by decide) _ (List.prefix_refl _)
  have lost : (Machine.run CacheUse.step ⟨sysmCacheNew Nat 1 0, []⟩
      [.get 7 0 0, .get 8 0 0, .find 7 0 0]).map Prod.fst = some [some none, some none, none] := by decide +kernel
  have kept : (Machine.run (fun map call => some (MapUse.step map call)) ⟨fun _ => (none : Option (Option Nat)), []⟩
      [.get 7 0 0, .get 8 0 0, .find 7 0 0]).map Prod.fst = some [some none, some none, some none] := by decide +kernel
  rw [ran] at lost
  rw [ranMap] at kept
  cases lost.symm.trans kept

end Sysm
