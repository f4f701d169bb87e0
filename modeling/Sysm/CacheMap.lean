import Sysm.Lib.Machine
import Sysm.CacheOps

namespace Sysm
open LinkedHeap

/-- What a user of a table does: look a key up with either call, or store a
value through the pointer that an earlier lookup returned. -/
inductive CacheCall (α : Type) where
  | get (key sweepTime accessTime : UInt64)
  | find (key sweepTime accessTime : UInt64)
  | store (handle : Nat) (value : Option α)

variable {α : Type}

/-- A table in use, with the pointers its lookups have returned so far. -/
structure CacheUse (α : Type) where
  table : Cache α
  handles : List (Option Nat)

/-- The answer is the value seen through the returned entry, if there is one. -/
def CacheUse.step (use : CacheUse α) : CacheCall α → Option (Option (Option α) × CacheUse α)
  | .get key sweepTime accessTime => do
    let (table, entry) ← sysmCacheGet use.table key sweepTime accessTime
    let value ← table.value entry
    return (some value, ⟨table, use.handles ++ [some entry]⟩)
  | .find key sweepTime accessTime => do
    match ← sysmCacheFind use.table key sweepTime accessTime with
    | (table, some entry) =>
      let value ← table.value entry
      return (some value, ⟨table, use.handles ++ [some entry]⟩)
    | (table, none) => return (none, ⟨table, use.handles ++ [none]⟩)
  | .store handle value =>
    match use.handles[handle]? with
    | some (some entry) => do
      let table ← use.table.store entry value
      return (none, { use with table })
    | _ => return (none, use)

/-- The finite map a table stands for: the value last stored for each created
key. The lookups made so far are known by their keys. -/
structure MapUse (α : Type) where
  values : UInt64 → Option (Option α)
  handles : List (Option UInt64)

def MapUse.step (use : MapUse α) : CacheCall α → Option (Option α) × MapUse α
  | .get key _ _ =>
    let value := (use.values key).getD none
    (some value, ⟨Function.update use.values key (some value), use.handles ++ [some key]⟩)
  | .find key _ _ => (use.values key, ⟨use.values, use.handles ++ [(use.values key).map fun _ => key]⟩)
  | .store handle value =>
    match use.handles[handle]? with
    | some (some key) => (none, { use with values := Function.update use.values key (some value) })
    | _ => (none, use)

/-- The table holds the map: each created key has one entry, reachable exactly
once in the chain of its bucket and carrying the value last stored, and `count`
is the number of reachable entries. The pointers given out are these entries. -/
structure CacheUse.Refines (use : CacheUse α) (map : MapUse α) (chains : List (List Nat)) : Prop where
  repr : use.table.Repr chains
  count : use.table.count.toNat = chains.flatten.length
  values : ∀ key value, map.values key = some value ↔
    ∃ entry, use.table.Holds chains key entry ∧ use.table.value entry = some value
  handles : List.Forall₂ (Option.Rel fun entry key => use.table.Holds chains key entry) use.handles map.handles

/-- Along the whole sequence of calls the table answers like a finite map and
holds that map. -/
def BehavesAsMap (size : UInt32) (now : UInt64) (calls : List (CacheCall α)) : Prop :=
  ∀ done, done <+: calls → ∃ answers use map chains,
    Machine.run CacheUse.step ⟨sysmCacheNew α size now, []⟩ done = some (answers, use) ∧
      Machine.run (fun map call => some (MapUse.step map call)) ⟨fun _ => none, []⟩ done = some (answers, map) ∧
        use.Refines map chains

namespace CacheUse.Refines

variable {use : CacheUse α} {map : MapUse α} {chains chains' : List (List Nat)} {table' : Cache α}

theorem absent (refines : use.Refines map chains) {key : UInt64}
    (missing : ∀ entry, ¬ use.table.Holds chains key entry) : map.values key = none := by
  cases value : map.values key with
  | none => rfl
  | some found =>
    obtain ⟨entry, holds, _⟩ := (refines.values key found).mp value
    exact absurd holds (missing entry)

theorem value_of_holds (refines : use.Refines map chains) {key : UInt64} {entry : Nat} {cell : CacheEntry α}
    (holds : use.table.Holds chains key entry) (atCell : read use.table.cells entry = some cell) :
    map.values key = some cell.value := by
  refine (refines.values key cell.value).mpr ⟨entry, holds, ?_⟩
  simp only [Cache.value, atCell, Option.map_some]

theorem handle (refines : use.Refines map chains) (i : Nat) :
    (use.handles[i]? = none ∧ map.handles[i]? = none) ∨ (use.handles[i]? = some none ∧ map.handles[i]? = some none) ∨
      ∃ entry key, use.handles[i]? = some (some entry) ∧ map.handles[i]? = some (some key) ∧
        use.table.Holds chains key entry := by
  have length := refines.handles.length_eq
  by_cases bound : i < use.handles.length
  · have bound' : i < map.handles.length := by omega
    have related := List.Forall₂.get refines.handles bound bound'
    rw [List.getElem?_eq_getElem bound, List.getElem?_eq_getElem bound']
    simp only [List.get_eq_getElem] at related
    generalize use.handles[i] = pointer, map.handles[i] = key at related
    cases related with
    | none => exact Or.inr (Or.inl ⟨rfl, rfl⟩)
    | some holds => exact Or.inr (Or.inr ⟨_, _, rfl, rfl, holds⟩)
  · exact Or.inl ⟨List.getElem?_eq_none (by omega), List.getElem?_eq_none (by omega)⟩

/-- A lookup appends the pointer it returns to the ones given out before. -/
theorem lookup (refines : use.Refines map chains) (repr : table'.Repr chains')
    (count : table'.count.toNat = chains'.flatten.length) {values' : UInt64 → Option (Option α)}
    (values : ∀ key value, values' key = some value ↔
      ∃ entry, table'.Holds chains' key entry ∧ table'.value entry = some value)
    (grows : ∀ key entry, use.table.Holds chains key entry → table'.Holds chains' key entry)
    {pointer : Option Nat} {key : Option UInt64}
    (new : Option.Rel (fun entry key => table'.Holds chains' key entry) pointer key) :
    Refines ⟨table', use.handles ++ [pointer]⟩ ⟨values', map.handles ++ [key]⟩ chains' where
  repr := repr
  count := count
  values := values
  handles := by
    refine List.rel_append (refines.handles.imp fun pointer key old => ?_) (.cons new .nil)
    cases old with
    | none => exact .none
    | some holds => exact .some (grows _ _ holds)

/-- Stamping the entry of a key leaves the map as it is. -/
theorem touched (refines : use.Refines map chains) {key now : UInt64} {entry : Nat} {cell : CacheEntry α}
    (holds : use.table.Holds chains key entry) (atCell : read use.table.cells entry = some cell)
    (update : use.table.Updated table' entry { cell with lastAccessTime := now }) :
    table'.value entry = some cell.value ∧
      Refines ⟨table', use.handles ++ [some entry]⟩ ⟨map.values, map.handles ++ [some key]⟩ chains := by
  have holdsIff : ∀ key other, table'.Holds chains key other ↔ use.table.Holds chains key other :=
    update.holds_iff atCell rfl
  have same : ∀ other, table'.value other = use.table.value other := by
    intro other
    rw [update.value]
    split
    · rename_i here
      rw [here]
      simp only [Cache.value, atCell, Option.map_some]
    · rfl
  refine ⟨by rw [update.value, if_pos rfl], ?_⟩
  refine refines.lookup (refines.repr.updated update atCell rfl rfl) ?_ ?_ ?_ ?_
  · rw [update.same]
    exact refines.count
  · intro key value
    simp only [holdsIff, same]
    exact refines.values key value
  · intro key other old
    exact (holdsIff key other).mpr old
  · exact .some ((holdsIff key entry).mpr holds)

/-- A new entry at the end of a chain is the new key of the map. -/
theorem grown (refines : use.Refines map chains) {key now : UInt64} {entry i : Nat} {chain : List Nat}
    (missing : ∀ other, ¬ use.table.Holds chains key other) (atChain : chains[i]? = some chain)
    (repr : table'.Repr (chains.set i (chain ++ [entry]))) (count : table'.count.toNat = use.table.count.toNat + 1)
    (keeps : use.table.Keeps table') (atNew : read table'.cells entry = some (.fresh key now))
    (unused : read use.table.cells entry = none) :
    Refines ⟨table', use.handles ++ [some entry]⟩
      ⟨Function.update map.values key (some none), map.handles ++ [some key]⟩ (chains.set i (chain ++ [entry])) := by
  have holdsIff := refines.repr.holds_grow keeps atChain atNew unused
  have kept : ∀ key other, use.table.Holds chains key other → table'.value other = use.table.value other := by
    rintro key other ⟨_, cell, atCell, _⟩
    exact keeps.value atCell
  have newValue : table'.value entry = some none := by
    simp only [Cache.value, atNew, Option.map_some, CacheEntry.fresh]
  refine refines.lookup repr ?_ ?_ ?_ ?_
  · rw [count, refines.count, (flatten_set_append atChain entry).length_eq, List.length_cons]
  · intro other value
    simp only [holdsIff]
    by_cases same : other = key
    · subst other
      rw [Function.update_self]
      constructor
      · intro h
        cases Option.some.inj h
        exact ⟨entry, Or.inr ⟨rfl, rfl⟩, newValue⟩
      · rintro ⟨found, holds | ⟨rfl, _⟩, atValue⟩
        · exact absurd holds (missing found)
        · exact newValue.symm.trans atValue
    · rw [Function.update_of_ne same, refines.values other value]
      constructor
      · rintro ⟨found, holds, atValue⟩
        exact ⟨found, Or.inl holds, (kept _ _ holds).trans atValue⟩
      · rintro ⟨found, holds | ⟨_, sameKey⟩, atValue⟩
        · exact ⟨found, holds, (kept _ _ holds).symm.trans atValue⟩
        · exact absurd sameKey same
  · intro other found holds
    exact (holdsIff other found).mpr (Or.inl holds)
  · exact .some ((holdsIff key entry).mpr (Or.inr ⟨rfl, rfl⟩))

/-- A store through a pointer changes the value of its key and of no other. -/
theorem stored (refines : use.Refines map chains) {key : UInt64} {entry : Nat} {cell : CacheEntry α}
    {value : Option α} (holds : use.table.Holds chains key entry)
    (atCell : read use.table.cells entry = some cell) (update : use.table.Updated table' entry { cell with value }) :
    Refines ⟨table', use.handles⟩ ⟨Function.update map.values key (some value), map.handles⟩ chains := by
  have holdsIff : ∀ key other, table'.Holds chains key other ↔ use.table.Holds chains key other :=
    update.holds_iff atCell rfl
  refine ⟨refines.repr.updated update atCell rfl rfl, ?_, ?_, ?_⟩
  · rw [update.same]
    exact refines.count
  · intro other found
    simp only [holdsIff, update.value]
    by_cases same : other = key
    · subst other
      rw [Function.update_self]
      constructor
      · intro h
        exact ⟨entry, holds, by rw [if_pos rfl]; exact h⟩
      · rintro ⟨address, holds', atValue⟩
        rw [if_pos (refines.repr.holds_unique holds' holds)] at atValue
        exact atValue
    · rw [Function.update_of_ne same, refines.values other found]
      have apart : ∀ address, use.table.Holds chains other address → address ≠ entry := by
        rintro address ⟨_, cell', atCell', id'⟩ rfl
        obtain ⟨_, cell'', atCell'', id''⟩ := holds
        cases Option.some.inj (atCell'.symm.trans atCell'')
        exact same (id'.symm.trans id'')
      constructor
      · rintro ⟨address, holds', atValue⟩
        exact ⟨address, holds', by rw [if_neg (apart address holds')]; exact atValue⟩
      · rintro ⟨address, holds', atValue⟩
        rw [if_neg (apart address holds')] at atValue
        exact ⟨address, holds', atValue⟩
  · refine refines.handles.imp fun pointer key old => ?_
    cases old with
    | none => exact .none
    | some old => exact .some ((holdsIff _ _).mpr old)

theorem step_get (refines : use.Refines map chains) (disabled : use.table.cleanupPeriodMillis = -1)
    {key sweepTime accessTime : UInt64}
    (room : map.values key = none → use.table.count.toNat < use.table.size.toNat) :
    ∃ answer use' chains', use.step (.get key sweepTime accessTime) = some (answer, use') ∧ answer = (map.step (.get key sweepTime accessTime)).1 ∧
      use'.Refines (map.step (.get key sweepTime accessTime)).2 chains' ∧ use'.table.size = use.table.size ∧
      use'.table.cleanupPeriodMillis = -1 := by
  obtain ⟨table', entry, chains', run, repr, spec⟩ := refines.repr.getEntry_spec key accessTime
  have swept : sysmCacheGet use.table key sweepTime accessTime = some (table', entry) := by
    simp only [sysmCacheGet, sysmPerformCleanup_disabled disabled, Option.bind_eq_bind, Option.bind_some, run]
  cases spec with
  | @hit cell holds atCell update =>
    obtain ⟨seen, refines'⟩ := refines.touched holds atCell update
    have value := refines.value_of_holds holds atCell
    refine ⟨some cell.value, ⟨table', use.handles ++ [some entry]⟩, chains, ?_, ?_, ?_, ?_, ?_⟩
    · simp only [CacheUse.step, swept, seen, Option.bind_eq_bind, Option.bind_some, Option.pure_def]
    · simp only [MapUse.step, value, Option.getD_some]
    · have unchanged : Function.update map.values key (some cell.value) = map.values := by
        rw [← value, Function.update_eq_self]
      simp only [MapUse.step, value, Option.getD_some, unchanged]
      exact refines'
    · rw [update.same]
    · rw [update.same]
      exact disabled
  | @grow chain missing fits atChain size count keeps atNew unused =>
    have value := refines.absent missing
    have counted : table'.count.toNat = use.table.count.toNat + 1 := by
      have less := room value
      have bound := use.table.size.toNat_lt
      rw [count, UInt32.toNat_add, UInt32.toNat_one]
      omega
    have refines' := refines.grown missing atChain repr counted keeps atNew unused
    refine ⟨some none, ⟨table', use.handles ++ [some entry]⟩,
      chains.set (key % use.table.size.toUInt64).toNat (chain ++ [entry]), ?_, ?_, ?_, size, ?_⟩
    · have seen : table'.value entry = some none := by
        simp only [Cache.value, atNew, Option.map_some, CacheEntry.fresh]
      simp only [CacheUse.step, swept, seen, Option.bind_eq_bind, Option.bind_some, Option.pure_def]
    · simp only [MapUse.step, value, Option.getD_none]
    · simp only [MapUse.step, value, Option.getD_none]
      exact refines'
    · rw [keeps.period]
      exact disabled
  | rehash missing full size count keeps atNew unused =>
    have less := room (refines.absent missing)
    have bound := use.table.size.toNat_lt
    rw [UInt32.lt_iff_toNat_lt, UInt32.toNat_add, UInt32.toNat_one] at full
    omega

theorem step_find (refines : use.Refines map chains) (disabled : use.table.cleanupPeriodMillis = -1)
    {key sweepTime accessTime : UInt64} :
    ∃ answer use' chains', use.step (.find key sweepTime accessTime) = some (answer, use') ∧ answer = (map.step (.find key sweepTime accessTime)).1 ∧
      use'.Refines (map.step (.find key sweepTime accessTime)).2 chains' ∧ use'.table.size = use.table.size ∧
      use'.table.cleanupPeriodMillis = -1 := by
  have swept : sysmCacheFind use.table key sweepTime accessTime = use.table.findEntry key accessTime := by
    simp only [sysmCacheFind, sysmPerformCleanup_disabled disabled, Option.bind_eq_bind, Option.bind_some]
  rcases refines.repr.findEntry_spec key accessTime with
    ⟨table', entry, cell, run, holds, atCell, update⟩ | ⟨run, missing⟩
  · obtain ⟨seen, refines'⟩ := refines.touched holds atCell update
    have value := refines.value_of_holds holds atCell
    refine ⟨some cell.value, ⟨table', use.handles ++ [some entry]⟩, chains, ?_, ?_, ?_, ?_, ?_⟩
    · simp only [CacheUse.step, swept, run, seen, Option.bind_eq_bind, Option.bind_some, Option.pure_def]
    · simp only [MapUse.step, value]
    · simp only [MapUse.step, value, Option.map_some]
      exact refines'
    · rw [update.same]
    · rw [update.same]
      exact disabled
  · have value := refines.absent missing
    refine ⟨none, ⟨use.table, use.handles ++ [none]⟩, chains, ?_, ?_, ?_, rfl, disabled⟩
    · simp only [CacheUse.step, swept, run, Option.bind_eq_bind, Option.bind_some, Option.pure_def]
    · simp only [MapUse.step, value]
    · simp only [MapUse.step, value, Option.map_none]
      exact refines.lookup refines.repr refines.count refines.values (fun _ _ holds => holds) .none

theorem step_store (refines : use.Refines map chains) (disabled : use.table.cleanupPeriodMillis = -1)
    {handle : Nat} {value : Option α} :
    ∃ answer use' chains', use.step (.store handle value) = some (answer, use') ∧ answer = (map.step (.store handle value)).1 ∧
      use'.Refines (map.step (.store handle value)).2 chains' ∧ use'.table.size = use.table.size ∧
      use'.table.cleanupPeriodMillis = -1 := by
  rcases refines.handle handle with ⟨atUse, atMap⟩ | ⟨atUse, atMap⟩ | ⟨entry, key, atUse, atMap, holds⟩
  · refine ⟨none, use, chains, ?_, ?_, ?_, rfl, disabled⟩
    · simp only [CacheUse.step, atUse, Option.pure_def]
    · simp only [MapUse.step, atMap]
    · simpa only [MapUse.step, atMap] using refines
  · refine ⟨none, use, chains, ?_, ?_, ?_, rfl, disabled⟩
    · simp only [CacheUse.step, atUse, Option.pure_def]
    · simp only [MapUse.step, atMap]
    · simpa only [MapUse.step, atMap] using refines
  · obtain ⟨cell, atCell⟩ := refines.repr.allocated holds.1
    obtain ⟨table', run, update⟩ := Cache.store_updated atCell value
    refine ⟨none, ⟨table', use.handles⟩, chains, ?_, ?_, ?_, ?_, ?_⟩
    · simp only [CacheUse.step, atUse, run, Option.bind_eq_bind, Option.bind_some, Option.pure_def]
    · simp only [MapUse.step, atMap]
    · simp only [MapUse.step, atMap]
      exact refines.stored holds atCell update
    · rw [update.same]
    · rw [update.same]
      exact disabled

/-- One call on a table that holds a map, as long as a new key still fits. -/
theorem step (refines : use.Refines map chains) (disabled : use.table.cleanupPeriodMillis = -1)
    (call : CacheCall α) (room : ∀ key sweepTime accessTime, call = .get key sweepTime accessTime →
      map.values key = none → use.table.count.toNat < use.table.size.toNat) :
    ∃ answer use' chains', use.step call = some (answer, use') ∧ answer = (map.step call).1 ∧
      use'.Refines (map.step call).2 chains' ∧ use'.table.size = use.table.size ∧
      use'.table.cleanupPeriodMillis = -1 := by
  cases call with
  | get key sweepTime accessTime => exact refines.step_get disabled (room key sweepTime accessTime rfl)
  | find key sweepTime accessTime => exact refines.step_find disabled
  | store handle value => exact refines.step_store disabled

/-- A table that holds a map has one entry for each of its keys. -/
theorem length_eq (refines : use.Refines map chains) {keys : List UInt64} (distinct : keys.Nodup)
    (created : ∀ key, map.values key ≠ none ↔ key ∈ keys) : chains.flatten.length = keys.length := by
  let idOf : Nat → UInt64 := fun entry => ((read use.table.cells entry).map CacheEntry.id).getD 0
  have atId : ∀ entry cell, read use.table.cells entry = some cell → idOf entry = cell.id := by
    intro entry cell atCell
    simp only [idOf, atCell, Option.map_some, Option.getD_some]
  have nodup : (chains.flatten.map idOf).Nodup := by
    refine List.Nodup.map_on ?_ refines.repr.nodup
    intro entry member other member' same
    obtain ⟨cell, atCell⟩ := refines.repr.allocated member
    obtain ⟨cell', atCell'⟩ := refines.repr.allocated member'
    rw [atId entry cell atCell, atId other cell' atCell'] at same
    exact refines.repr.keyed entry member other member' cell cell' atCell atCell' same
  have mem : ∀ key, key ∈ chains.flatten.map idOf ↔ key ∈ keys := by
    intro key
    rw [← created key, List.mem_map]
    constructor
    · rintro ⟨entry, member, rfl⟩
      obtain ⟨cell, atCell⟩ := refines.repr.allocated member
      rw [atId entry cell atCell, refines.value_of_holds ⟨member, cell, atCell, rfl⟩ atCell]
      simp
    · intro present
      obtain ⟨value, atValue⟩ := Option.ne_none_iff_exists'.mp present
      obtain ⟨entry, ⟨member, cell, atCell, id⟩, _⟩ := (refines.values key value).mp atValue
      exact ⟨entry, member, (atId entry cell atCell).trans id⟩
  have perm := (List.perm_ext_iff_of_nodup nodup distinct).mpr mem
  rw [← perm.length_eq, List.length_map]

end CacheUse.Refines

end Sysm
