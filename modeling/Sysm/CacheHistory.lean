import Sysm.CacheLedger

namespace Sysm
open LinkedHeap

variable {α : Type}

/-- The table has come about from the fresh one by the operations of the cache,
where values were stored only through pointers to entries that a lookup had
returned. These are the entries `known`. -/
inductive Cache.Used (fresh : Cache α) : Cache α → List Nat → Prop
  | fresh : Used fresh fresh []
  | get {table table' : Cache α} {known : List Nat} {key sweepTime accessTime : UInt64} {entry : Nat} :
      Used fresh table known → sysmCacheGet table key sweepTime accessTime = some (table', entry) →
      Used fresh table' (known ++ [entry])
  | find {table table' : Cache α} {known : List Nat} {key sweepTime accessTime : UInt64} {found : Option Nat} :
      Used fresh table known → sysmCacheFind table key sweepTime accessTime = some (table', found) →
      Used fresh table' (known ++ found.toList)
  | store {table table' : Cache α} {known : List Nat} {entry : Nat} {value : Option α} :
      Used fresh table known → entry ∈ known → table.store entry value = some table' → Used fresh table' known

variable {table table' : Cache α} {key sweepTime accessTime : UInt64} {known : List Nat} {entry : Nat}

theorem sysmCacheGet_value (run : sysmCacheGet table key sweepTime accessTime = some (table', entry)) :
    ∃ value, table'.value entry = some value := by
  obtain ⟨cleaned, _, run⟩ := Option.bind_eq_some_iff.mp run
  obtain ⟨value, held, _⟩ := (getEntry_gets run).here
  exact ⟨value, Cache.value_of_heldAt held⟩

theorem sysmCacheFind_value (run : sysmCacheFind table key sweepTime accessTime = some (table', some entry)) :
    ∃ value, table'.value entry = some value := by
  obtain ⟨cleaned, _, run⟩ := Option.bind_eq_some_iff.mp run
  obtain ⟨⟨ptr, stopped⟩, scan, run⟩ := Option.bind_eq_some_iff.mp run
  cases stopped with
  | none => cases run
  | some other =>
    obtain ⟨touched, touch, run⟩ := Option.bind_eq_some_iff.mp run
    cases run
    obtain ⟨cell, atCell, touch⟩ := Option.bind_eq_some_iff.mp touch
    cases touch
    exact ⟨cell.value, by rw [Cache.value, read_write_self _ atCell]; rfl⟩

/-- Such a table is the end of a run of calls. -/
theorem Cache.Used.run {fresh : Cache α} (used : fresh.Used table known) :
    ∃ calls answers use, Machine.run CacheUse.step ⟨fresh, []⟩ calls = some (answers, use) ∧ use.table = table ∧
      ∀ entry ∈ known, some entry ∈ use.handles := by
  induction used with
  | fresh => exact ⟨[], [], _, rfl, rfl, by simp⟩
  | @get table table' known key sweepTime accessTime entry _ got ih =>
    obtain ⟨calls, answers, use, ran, rfl, handles⟩ := ih
    obtain ⟨value, atValue⟩ := sysmCacheGet_value got
    have step : use.step (.get key sweepTime accessTime) = some (some value, ⟨table', use.handles ++ [some entry]⟩) := by
      simp only [CacheUse.step, got, atValue, Option.bind_eq_bind, Option.bind_some, Option.pure_def]
    refine ⟨_, _, _, Machine.run_snoc_iff.mpr ⟨answers, use, _, ran, step, rfl⟩, rfl, fun other member => ?_⟩
    rcases List.mem_append.mp member with old | new
    · exact List.mem_append_left _ (handles other old)
    · rw [List.mem_singleton.mp new]
      exact List.mem_append_right _ (List.mem_singleton_self _)
  | @find table table' known key sweepTime accessTime found _ looked ih =>
    obtain ⟨calls, answers, use, ran, rfl, handles⟩ := ih
    cases found with
    | none =>
      have step : use.step (.find key sweepTime accessTime) = some (none, ⟨table', use.handles ++ [none]⟩) := by
        simp only [CacheUse.step, looked, Option.bind_eq_bind, Option.bind_some, Option.pure_def]
      refine ⟨_, _, _, Machine.run_snoc_iff.mpr ⟨answers, use, _, ran, step, rfl⟩, rfl, fun other member => ?_⟩
      exact List.mem_append_left _ (handles other (by simpa using member))
    | some entry =>
      obtain ⟨value, atValue⟩ := sysmCacheFind_value looked
      have step : use.step (.find key sweepTime accessTime) = some (some value, ⟨table', use.handles ++ [some entry]⟩) := by
        simp only [CacheUse.step, looked, atValue, Option.bind_eq_bind, Option.bind_some, Option.pure_def]
      refine ⟨_, _, _, Machine.run_snoc_iff.mpr ⟨answers, use, _, ran, step, rfl⟩, rfl, fun other member => ?_⟩
      rcases List.mem_append.mp member with old | new
      · exact List.mem_append_left _ (handles other old)
      · rw [List.mem_singleton.mp new]
        exact List.mem_append_right _ (List.mem_singleton_self _)
  | @store table table' known entry value _ member stored ih =>
    obtain ⟨calls, answers, use, ran, rfl, handles⟩ := ih
    obtain ⟨handle, atHandle⟩ := List.mem_iff_getElem?.mp (handles entry member)
    have step : use.step (.store handle value) = some (none, ⟨table', use.handles⟩) := by
      simp only [CacheUse.step, atHandle, stored, Option.bind_eq_bind, Option.bind_some, Option.pure_def]
    exact ⟨_, _, _, Machine.run_snoc_iff.mpr ⟨answers, use, _, ran, step, rfl⟩, rfl, handles⟩

/-- `cells` and `freed` are what `sysm_cache_destroy` leaves of a table after a
run of calls on a new one: the entries that were in it at a resize stay behind,
and each value that was handed over is freed once, in one of them, or has been
overwritten. -/
def Cache.GivenBack (size : UInt32) (cleanUpPeriodMillis entryExpirePeriod : UInt64) (table : Cache α)
    (cells : Heap (CacheEntry α)) (freed : List α) : Prop :=
  ∃ created calls answers ledger, Machine.run Ledger.step
      ⟨⟨sysmExpiredCacheNew α size cleanUpPeriodMillis entryExpirePeriod created, []⟩, [], []⟩ calls =
        some (answers, ledger) ∧ ledger.use.table = table ∧
    (∀ entry, LinkedHeap.read cells entry ≠ none ↔ LostIn size cleanUpPeriodMillis entryExpirePeriod created calls entry) ∧
      ledger.handed.Perm (freed ++ contents CacheEntry.values cells ++ ledger.replaced)

/-- The ledger only watches. -/
theorem run_ledger {calls : List (CacheCall α)} {answers : List (Option (Option α))} {ledger : Ledger α} {use : CacheUse α}
    (run : Machine.run CacheUse.step ledger.use calls = some (answers, use)) :
    ∃ final, Machine.run Ledger.step ledger calls = some (answers, final) ∧ final.use = use := by
  have steps : ∀ (ledger : Ledger α) call,
      (ledger.step call).map (fun result => (result.1, result.2.use)) = ledger.use.step call := by
    intro ledger call
    rw [Ledger.step, Option.map_map]
    exact congrFun Option.map_id (ledger.use.step call)
  have same := Machine.run_project Ledger.use steps ledger calls
  rw [run] at same
  obtain ⟨⟨answers', final⟩, ran, equal⟩ := Option.map_eq_some_iff.mp same
  cases equal
  exact ⟨final, ran, rfl⟩

/-- Whatever is done to a table in this way, it can be destroyed. -/
theorem Cache.Used.destroy {size : UInt32} (positive : 0 < size.toNat) {cleanUpPeriodMillis entryExpirePeriod created : UInt64}
    (used : (sysmExpiredCacheNew α size cleanUpPeriodMillis entryExpirePeriod created).Used table known) :
    ∃ cells freed, sysmCacheDestroy table = some (cells, freed) ∧
      table.GivenBack size cleanUpPeriodMillis entryExpirePeriod cells freed := by
  obtain ⟨calls, answers, use, ran, rfl, _⟩ := used.run
  obtain ⟨_, leaked⟩ := run_leaked_iff positive ran
  obtain ⟨ledger, watched, rfl⟩ := @run_ledger _ calls answers
    ⟨⟨sysmExpiredCacheNew α size cleanUpPeriodMillis entryExpirePeriod created, []⟩, [], []⟩ use ran
  obtain ⟨⟨chains, repr⟩, balanced⟩ := run_balanced positive _ _ _ watched
  obtain ⟨cells, freed, destroyed, left⟩ := repr.destroy_leaked
  refine ⟨cells, freed, destroyed, created, calls, answers, ledger, watched, rfl, fun entry => ?_, ?_⟩
  · exact (left entry).trans (leaked entry)
  · exact balanced.trans ((repr.destroy_values destroyed).append_right _)

end Sysm
