import Sysm.CacheRuns
import Sysm.NetStat

namespace Sysm

variable {α : Type} {table : Cache α} {size : UInt32} {keys : List UInt64}

/-- A table that is never cleaned up, with these values for its keys. -/
def Cache.HoldsValues (table : Cache α) (size : UInt32) (values : UInt64 → Option (Option α)) : Prop :=
  ∃ chains, CacheUse.Refines ⟨table, []⟩ ⟨values, []⟩ chains ∧ table.size = size ∧ table.cleanupPeriodMillis = -1

/-- A table that is never cleaned up, with entries for these keys and no others. -/
def Cache.HoldsKeys (table : Cache α) (size : UInt32) (keys : List UInt64) : Prop :=
  ∃ values chains, CacheUse.Refines ⟨table, []⟩ ⟨values, []⟩ chains ∧ table.size = size ∧
    table.cleanupPeriodMillis = -1 ∧ ∀ key, values key ≠ none ↔ key ∈ keys

theorem Cache.holdsKeys_iff : table.HoldsKeys size keys ↔
    ∃ values, table.HoldsValues size values ∧ ∀ key, values key ≠ none ↔ key ∈ keys := by
  constructor
  · rintro ⟨values, chains, refines, sized, disabled, created⟩
    exact ⟨values, ⟨chains, refines, sized, disabled⟩, created⟩
  · rintro ⟨values, ⟨chains, refines, sized, disabled⟩, created⟩
    exact ⟨values, chains, refines, sized, disabled, created⟩

/-- The pointers given out can be forgotten. -/
theorem CacheUse.Refines.forget {use : CacheUse α} {map : MapUse α} {chains : List (List Nat)}
    (refines : use.Refines map chains) : CacheUse.Refines ⟨use.table, []⟩ ⟨map.values, []⟩ chains :=
  ⟨refines.repr, refines.count, refines.values, .nil⟩

theorem Cache.holdsValues_new (positive : 0 < size.toNat) (now : UInt64) :
    (sysmCacheNew α size now).HoldsValues size fun _ => none := by
  have start := Roomy.start (α := α) positive now
  exact ⟨_, start.refines, rfl, rfl⟩

theorem Cache.holdsKeys_new (positive : 0 < size.toNat) (now : UInt64) :
    (sysmCacheNew α size now).HoldsKeys size [] :=
  Cache.holdsKeys_iff.mpr ⟨_, Cache.holdsValues_new positive now, by simp⟩

section Values

variable {values : UInt64 → Option (Option α)} {key : UInt64}

/-- Looking a key up with `sysm_cache_get` and storing a value or not, there is
room for the key or it is known. -/
theorem Cache.HoldsValues.get (holds : table.HoldsValues size values) (created : ∀ key, values key ≠ none ↔ key ∈ keys)
    (fits : (key :: keys).dedup.length ≤ size.toNat) (sweepTime accessTime : UInt64) :
    ∃ table' entry, sysmCacheGet table key sweepTime accessTime = some (table', entry) ∧
      table'.value entry = some ((values key).getD none) ∧
      table'.HoldsValues size (Function.update values key (some ((values key).getD none))) ∧
      ∀ new, ∃ stored, table'.store entry (some new) = some stored ∧
        stored.HoldsValues size (Function.update values key (some (some new))) := by
  obtain ⟨chains, refines, sized, disabled⟩ := holds
  have count := refines.length_eq keys.nodup_dedup fun key => (created key).trans List.mem_dedup.symm
  have room : ∀ other s a, (CacheCall.get key sweepTime accessTime : CacheCall α) = .get other s a → values other = none →
      table.count.toNat < table.size.toNat := by
    intro other s a same missing
    cases same
    have new : key ∉ keys := fun old => (created key).mpr old missing
    rw [List.dedup_cons_of_notMem new, List.length_cons] at fits
    have atCount : table.count.toNat = chains.flatten.length := refines.count
    rw [atCount, sized, count]
    omega
  obtain ⟨answer, use', chains', stepped, answered, refines', sized', disabled'⟩ := refines.step disabled _ room
  obtain ⟨⟨table', entry⟩, get, stepped⟩ := Option.bind_eq_some_iff.mp stepped
  obtain ⟨value, atValue, stepped⟩ := Option.bind_eq_some_iff.mp stepped
  cases stepped
  have sameValue : value = (values key).getD none := Option.some.inj answered
  refine ⟨table', entry, get, by rw [atValue, sameValue], ⟨chains', refines'.forget, sized'.trans sized, disabled'⟩, ?_⟩
  intro new
  obtain ⟨_, use'', chains'', stored, _, refines'', sized'', disabled''⟩ :=
    refines'.step disabled' (.store 0 (some new)) (by simp)
  obtain ⟨table'', store, stored⟩ := Option.bind_eq_some_iff.mp stored
  cases stored
  have overwritten := refines''.forget
  simp only [MapUse.step, List.nil_append, List.getElem?_cons_zero, Function.update_idem] at overwritten
  exact ⟨table'', store, chains'', overwritten, sized''.trans (sized'.trans sized), disabled''⟩

/-- `sysm_cache_find` tells whether the key is there. -/
theorem Cache.HoldsValues.find (holds : table.HoldsValues size values) (key sweepTime accessTime : UInt64) :
    ∃ table' found, sysmCacheFind table key sweepTime accessTime = some (table', found) ∧
      table'.HoldsValues size values ∧ (found.isSome = true ↔ values key ≠ none) := by
  obtain ⟨chains, refines, sized, disabled⟩ := holds
  obtain ⟨answer, use', chains', stepped, answered, refines', sized', disabled'⟩ :=
    refines.step disabled (.find key sweepTime accessTime) (by simp)
  obtain ⟨⟨table', found⟩, find, stepped⟩ := Option.bind_eq_some_iff.mp stepped
  have known : answer ≠ none ↔ values key ≠ none := by
    rw [answered]
    exact Iff.rfl
  cases found with
  | none =>
    cases stepped
    refine ⟨table', none, find, ⟨chains', refines'.forget, sized'.trans sized, disabled'⟩, ?_⟩
    simpa using known
  | some entry =>
    obtain ⟨value, _, stepped⟩ := Option.bind_eq_some_iff.mp stepped
    cases stepped
    refine ⟨table', some entry, find, ⟨chains', refines'.forget, sized'.trans sized, disabled'⟩, ?_⟩
    simpa using known

end Values

theorem Cache.HoldsKeys.get (holds : table.HoldsKeys size keys) {key : UInt64}
    (fits : (key :: keys).dedup.length ≤ size.toNat) (sweepTime accessTime : UInt64) :
    ∃ table' entry value, sysmCacheGet table key sweepTime accessTime = some (table', entry) ∧
      table'.value entry = some value ∧ table'.HoldsKeys size (key :: keys) ∧
        ∀ new, ∃ stored, table'.store entry (some new) = some stored ∧ stored.HoldsKeys size (key :: keys) := by
  obtain ⟨values, holds, created⟩ := Cache.holdsKeys_iff.mp holds
  obtain ⟨table', entry, get, atValue, holds', stores⟩ := holds.get created fits sweepTime accessTime
  have created' (value : Option α) (other : UInt64) :
      Function.update values key (some value) other ≠ none ↔ other ∈ key :: keys := by
    by_cases same : other = key
    · simp [same]
    · rw [Function.update_of_ne same, created other, List.mem_cons]
      simp [same]
  refine ⟨table', entry, _, get, atValue, Cache.holdsKeys_iff.mpr ⟨_, holds', created' _⟩, ?_⟩
  intro new
  obtain ⟨stored, store, holds''⟩ := stores new
  exact ⟨stored, store, Cache.holdsKeys_iff.mpr ⟨_, holds'', created' _⟩⟩

theorem Cache.HoldsKeys.find (holds : table.HoldsKeys size keys) (key sweepTime accessTime : UInt64) :
    ∃ table' found, sysmCacheFind table key sweepTime accessTime = some (table', found) ∧
      table'.HoldsKeys size keys ∧ (found.isSome = true ↔ key ∈ keys) := by
  obtain ⟨values, holds, created⟩ := Cache.holdsKeys_iff.mp holds
  obtain ⟨table', found, find, holds', known⟩ := holds.find key sweepTime accessTime
  exact ⟨table', found, find, Cache.holdsKeys_iff.mpr ⟨values, holds', created⟩, known.trans (created key)⟩

/-- The port of a row in LISTEN state is then in the table. -/
theorem sysmNetListenAddressAdd_spec {netListen : Cache SysmNetAddress} (holds : netListen.HoldsKeys size keys)
    (clock : Clock) {conn : SysmNetConnection} (fits : (conn.loPort :: keys).dedup.length ≤ size.toNat) :
    ∃ netListen', sysmNetListenAddressAdd netListen clock conn = some netListen' ∧
      netListen'.HoldsKeys size (conn.loPort :: keys) := by
  obtain ⟨table', entry, value, get, atValue, holds', stores⟩ := holds.get fits (clock 0) (clock 1)
  obtain ⟨stored, store, holds''⟩ := stores conn.loAddress
  simp only [sysmNetListenAddressAdd, get, atValue, Option.bind_eq_bind, Option.bind_some]
  cases value with
  | none => exact ⟨stored, store, holds''⟩
  | some address =>
    cases inet6 : conn.loAddress.isInet6 with
    | true => exact ⟨table', by simp, holds'⟩
    | false => exact ⟨stored, by simpa using store, holds''⟩

end Sysm
