import Sysm.CacheSweep

namespace Sysm
open LinkedHeap

variable {α : Type} {table table' : Cache α} {chains chains' : List (List Nat)}

/-- The table has an entry with this key, value and time of the last access. -/
def Cache.Has (table : Cache α) (chains : List (List Nat)) (key : UInt64) (value : Option α) (accessed : UInt64) :
    Prop :=
  ∃ entry ∈ chains.flatten, ∃ cell, read table.cells entry = some cell ∧ cell.id = key ∧ cell.value = value ∧
    cell.lastAccessTime = accessed

theorem Cache.Repr.has_unique (repr : table.Repr chains) {key : UInt64} {value value' : Option α}
    {accessed accessed' : UInt64} (has : table.Has chains key value accessed)
    (has' : table.Has chains key value' accessed') : value = value' ∧ accessed = accessed' := by
  obtain ⟨entry, member, cell, atCell, id, rfl, rfl⟩ := has
  obtain ⟨other, member', cell', atCell', id', rfl, rfl⟩ := has'
  have same := repr.keyed entry member other member' cell cell' atCell atCell' (id.trans id'.symm)
  subst same
  cases Option.some.inj (atCell.symm.trans atCell')
  exact ⟨rfl, rfl⟩

theorem Cache.has_nil (table : Cache α) (n : Nat) (key : UInt64) (value : Option α) (accessed : UInt64) :
    ¬ table.Has (List.replicate n []) key value accessed := by
  rintro ⟨entry, member, _⟩
  simp at member

/-- The cleanup at `now` ends with a resize. -/
def Cache.cleanupResizes (table : Cache α) (now : UInt64) : Bool :=
  table.cleanupDue now && (table.sweep now).any fun swept => decide (swept.count < swept.size / 4)

/-- The sweep keeps the keys apart. -/
theorem Cache.Repr.sweep_spec (repr : table.Repr chains) (now : UInt64) :
    ∃ table' gone, table.sweep now = some table' ∧ table'.Repr (chains.map fun chain => chain.filter (table.survives now)) ∧
      Cache.Swept { table with lastCleanupTime := now } table' gone ∧
      Cache.Releases { table with lastCleanupTime := now } table' gone ∧ gone.Nodup ∧
      ∀ entry, entry ∈ gone ↔ entry ∈ chains.flatten ∧ table.survives now entry = false := by
  obtain ⟨table', gone, run, chained, swept, releases, distinct, lost⟩ := repr.chained.sweep_spec now
  refine ⟨table', gone, run, ?_, swept, releases, distinct, lost⟩
  have stays : ∀ entry ∈ (chains.map fun chain => chain.filter (table.survives now)).flatten,
      entry ∈ chains.flatten ∧ ∀ cell, read table'.cells entry = some cell →
        ∃ old, read table.cells entry = some old ∧ old.id = cell.id := by
    intro entry member
    rw [← List.filter_flatten, List.mem_filter] at member
    obtain ⟨member, lives⟩ := member
    obtain ⟨old, atOld⟩ := repr.allocated member
    obtain ⟨link, atEnd⟩ := swept.kept entry old (by simp [lost, lives]) atOld
    refine ⟨member, fun cell atCell => ⟨old, atOld, ?_⟩⟩
    cases Option.some.inj (atEnd.symm.trans atCell)
    rfl
  refine ⟨?_, chained.slots, chained.buckets, chained.linked, chained.placed, ?_⟩
  · rw [swept.size]
    exact repr.positive
  · intro entry member other member' cell cell' atCell atCell' same
    obtain ⟨inside, before⟩ := stays entry member
    obtain ⟨inside', before'⟩ := stays other member'
    obtain ⟨old, atOld, id⟩ := before cell atCell
    obtain ⟨old', atOld', id'⟩ := before' cell' atCell'
    exact repr.keyed entry inside other inside' old old' atOld atOld' (id.trans (same.trans id'.symm))

/-- What the cleanup leaves in a table. -/
structure Cache.Cleaned (table : Cache α) (chains : List (List Nat)) (now : UInt64) (table' : Cache α)
    (chains' : List (List Nat)) : Prop where
  repr : table'.Repr chains'
  expire : table'.entryExpirePeriod = table.entryExpirePeriod
  had : ∀ key value accessed, table'.Has chains' key value accessed → table.Has chains key value accessed
  keeps : table.cleanupResizes now = false → ∀ key value accessed, table.Has chains key value accessed →
    ¬ table.entryExpirePeriod < now - accessed → table'.Has chains' key value accessed
  lost : table.cleanupResizes now = true → ∀ key value accessed, ¬ table'.Has chains' key value accessed

theorem Cache.Swept.has {gone : List Nat} (swept : table.Swept table' gone) (repr : table.Repr chains) (now : UInt64)
    (lost : ∀ entry, entry ∈ gone ↔ entry ∈ chains.flatten ∧ table.survives now entry = false) (key : UInt64)
    (value : Option α) (accessed : UInt64) :
    table'.Has (chains.map fun chain => chain.filter (table.survives now)) key value accessed ↔
      table.Has chains key value accessed ∧ ¬ table.entryExpirePeriod < now - accessed := by
  have stays : ∀ entry, entry ∈ (chains.map fun chain => chain.filter (table.survives now)).flatten ↔
      entry ∈ chains.flatten ∧ table.survives now entry = true := by
    intro entry
    rw [← List.filter_flatten, List.mem_filter]
  constructor
  · rintro ⟨entry, member, cell', atCell', id, atValue, atTime⟩
    obtain ⟨old, lives⟩ := (stays entry).mp member
    obtain ⟨cell, atCell⟩ := repr.allocated old
    obtain ⟨link, atEnd⟩ := swept.kept entry cell (by simp [lost, lives]) atCell
    cases Option.some.inj (atEnd.symm.trans atCell')
    refine ⟨⟨entry, old, cell, atCell, id, atValue, atTime⟩, ?_⟩
    have atCellTime : cell.lastAccessTime = accessed := atTime
    simpa [Cache.survives, atCell, atCellTime] using lives
  · rintro ⟨⟨entry, member, cell, atCell, id, atValue, atTime⟩, fresh⟩
    have lives : table.survives now entry = true := by simpa [Cache.survives, atCell, atTime] using fresh
    obtain ⟨link, atEnd⟩ := swept.kept entry cell (by simp [lost, lives]) atCell
    exact ⟨entry, (stays entry).mpr ⟨member, lives⟩, _, atEnd, id, atValue, atTime⟩

theorem Cache.Repr.cleanup_spec (repr : table.Repr chains) (now : UInt64) :
    ∃ table' chains', sysmPerformCleanupIfNecessary table now = some table' ∧ table.Cleaned chains now table' chains' := by
  simp only [sysmPerformCleanupIfNecessary_eq, Cache.sweepIfDue]
  cases due : table.cleanupDue now with
  | false =>
    refine ⟨table, chains, rfl, repr, rfl, fun _ _ _ has => has, fun _ _ _ _ has _ => has, ?_⟩
    simp [Cache.cleanupResizes, due]
  | true =>
    obtain ⟨table', gone, run, repr', swept, _, _, lost⟩ := repr.sweep_spec now
    have started : Cache.Repr { table with lastCleanupTime := now } chains :=
      repr.congr rfl rfl fun _ cell atCell => ⟨cell, atCell, rfl, rfl⟩
    have holds := swept.has started now lost
    by_cases shrunk : table'.count < table'.size / 4
    · obtain ⟨emptied, rehashed, repr'', _, _, _, frame⟩ := sysmCacheRehash_spec repr'
      have resizes : table.cleanupResizes now = true := by simp [Cache.cleanupResizes, due, run, shrunk]
      refine ⟨emptied, _, ?_, repr'', frame.expire.trans swept.expire, ?_, ?_, ?_⟩
      · simp only [if_true, run, Option.bind_some, true_and, if_pos shrunk, rehashed]
      · intro key value accessed has
        exact absurd has (Cache.has_nil _ _ _ _ _)
      · intro small
        rw [resizes] at small
        cases small
      · intro _ key value accessed
        exact Cache.has_nil _ _ _ _ _
    · refine ⟨table', _, ?_, repr', swept.expire, ?_, ?_, ?_⟩
      · simp only [if_true, run, Option.bind_some, true_and, if_neg shrunk]
      · intro key value accessed has
        exact ((holds key value accessed).mp has).1
      · intro _ key value accessed has fresh
        exact (holds key value accessed).mpr ⟨has, fresh⟩
      · simp [Cache.cleanupResizes, due, run, shrunk]

/-- `sysm_cache_get` resizes the table, either at its cleanup or because the
key is new and the table full. -/
def Cache.getResizes (table : Cache α) (key sweepTime : UInt64) : Bool :=
  table.cleanupResizes sweepTime || (sysmPerformCleanupIfNecessary table sweepTime).any fun cleaned =>
    decide (cleaned.size < cleaned.count + 1) &&
      (scanChain cleaned (fun cell => cell.id == key) cleaned.cells.length (cleaned.ix key)).any fun (_, found) =>
        found.isNone

/-- What `sysm_cache_get` does to a table and to the entry it returns. -/
structure Cache.Got (table : Cache α) (chains : List (List Nat)) (key sweepTime accessTime : UInt64)
    (table' : Cache α) (entry : Nat) (value : Option α) (chains' : List (List Nat)) : Prop where
  repr : table'.Repr chains'
  expire : table'.entryExpirePeriod = table.entryExpirePeriod
  holds : table'.Holds chains' key entry
  atValue : table'.value entry = some value
  has : table'.Has chains' key value accessTime
  others : ∀ other v t, other ≠ key → table'.Has chains' other v t → table.Has chains other v t
  found : value = none ∨ ∃ t, table.Has chains key value t
  keeps : table.getResizes key sweepTime = false → ∀ other v t, table.Has chains other v t →
    ¬ table.entryExpirePeriod < sweepTime - t → (other = key → value = v) ∧ (other ≠ key → table'.Has chains' other v t)
  lost : table.getResizes key sweepTime = true → value = none

theorem Cache.Updated.has_other {entry : Nat} {old cell : CacheEntry α} (update : table.Updated table' entry cell)
    (atOld : read table.cells entry = some old) (id : cell.id = old.id) {other : UInt64} (different : other ≠ old.id)
    (value : Option α) (accessed : UInt64) :
    table'.Has chains other value accessed ↔ table.Has chains other value accessed := by
  constructor
  · rintro ⟨address, member, found, atFound, here, atValue, atTime⟩
    have apart : address ≠ entry := by
      intro same
      rw [same, update.here] at atFound
      cases Option.some.inj atFound
      exact different (here.symm.trans id)
    rw [update.elsewhere address apart] at atFound
    exact ⟨address, member, found, atFound, here, atValue, atTime⟩
  · rintro ⟨address, member, found, atFound, here, atValue, atTime⟩
    have apart : address ≠ entry := by
      intro same
      rw [same, atOld] at atFound
      cases Option.some.inj atFound
      exact different here.symm
    rw [← update.elsewhere address apart] at atFound
    exact ⟨address, member, found, atFound, here, atValue, atTime⟩

/-- The part of `Got` that follows the cleanup. A resize is not harmless. -/
theorem Cache.Repr.getEntry_got (repr : table.Repr chains) (key accessTime : UInt64) :
    ∃ table' entry value chains', table.getEntry key accessTime = some (table', entry) ∧ table'.Repr chains' ∧
      table'.entryExpirePeriod = table.entryExpirePeriod ∧ table'.Holds chains' key entry ∧
      table'.value entry = some value ∧ table'.Has chains' key value accessTime ∧
      (∀ other v t, other ≠ key → table'.Has chains' other v t → table.Has chains other v t) ∧
      (value = none ∨ ∃ t, table.Has chains key value t) ∧
      ((∃ other, table.Holds chains key other) ∨ table.count + 1 ≤ table.size →
        ∀ other v t, table.Has chains other v t →
          (other = key → value = v) ∧ (other ≠ key → table'.Has chains' other v t)) := by
  obtain ⟨table', entry, chains', run, repr', spec⟩ := repr.getEntry_spec key accessTime
  cases spec with
  | @hit cell holds atCell update =>
    obtain ⟨member, cell', atCell', id⟩ := holds
    cases Option.some.inj (atCell.symm.trans atCell')
    have had : table.Has chains key cell.value cell.lastAccessTime := ⟨entry, member, cell, atCell, id, rfl, rfl⟩
    have elsewhere : ∀ other, other ≠ key → ∀ v t, table'.Has chains other v t ↔ table.Has chains other v t := by
      intro other different
      rw [← id] at different
      exact update.has_other atCell rfl different
    refine ⟨table', entry, cell.value, chains, run, repr', by rw [update.same], ⟨member, _, update.here, id⟩, ?_,
      ⟨entry, member, _, update.here, id, rfl, rfl⟩, ?_, Or.inr ⟨_, had⟩, ?_⟩
    · rw [update.value, if_pos rfl]
    · intro other v t different has
      exact (elsewhere other different v t).mp has
    · intro _ other v t has
      refine ⟨fun same => ?_, fun different => (elsewhere other different v t).mpr has⟩
      rw [same] at has
      exact (repr.has_unique had has).1
  | @grow chain missing fits atChain _ _ keeps atNew unused =>
    have members := Cache.Repr.mem_grow atChain entry
    have isNew : entry ∈ (chains.set (key % table.size.toUInt64).toNat (chain ++ [entry])).flatten :=
      (members entry).mpr (Or.inl rfl)
    refine ⟨table', entry, none, _, run, repr', keeps.expire, ⟨isNew, _, atNew, rfl⟩, ?_,
      ⟨entry, isNew, _, atNew, rfl, rfl, rfl⟩, ?_, Or.inl rfl, ?_⟩
    · simp only [Cache.value, atNew, Option.map_some, CacheEntry.fresh]
    · rintro other v t different ⟨address, member, found, atFound, id, atValue, atTime⟩
      rcases (members address).mp member with here | old
      · rw [here, atNew] at atFound
        cases Option.some.inj atFound
        exact absurd id.symm different
      · obtain ⟨before, atBefore, id', value', time'⟩ := keeps.before repr old atFound
        exact ⟨address, old, before, atBefore, id'.symm.trans id, value'.symm.trans atValue, time'.symm.trans atTime⟩
    · rintro _ other v t ⟨address, member, found, atFound, id, atValue, atTime⟩
      refine ⟨fun same => absurd ⟨member, found, atFound, id.trans same⟩ (missing address), fun _ => ?_⟩
      obtain ⟨after, atAfter, id', value', time'⟩ := keeps.kept address found atFound
      exact ⟨address, (members address).mpr (Or.inr member), after, atAfter, id'.trans id, value'.trans atValue,
        time'.trans atTime⟩
  | rehash missing full size _ keeps atNew unused =>
    have atNil : (List.replicate table'.size.toNat ([] : List Nat))[(key % table'.size.toUInt64).toNat]? = some [] := by
      rw [List.getElem?_replicate, if_pos (repr'.ix_lt key)]
    have members := Cache.Repr.mem_grow atNil entry
    simp only [List.nil_append] at members
    have only : ∀ other, other ∈ ((List.replicate table'.size.toNat ([] : List Nat)).set
        (key % table'.size.toUInt64).toNat [entry]).flatten ↔ other = entry := by
      intro other
      rw [members other]
      simp
    refine ⟨table', entry, none, _, run, repr', keeps.expire, ⟨(only entry).mpr rfl, _, atNew, rfl⟩, ?_,
      ⟨entry, (only entry).mpr rfl, _, atNew, rfl, rfl, rfl⟩, ?_, Or.inl rfl, ?_⟩
    · simp only [Cache.value, atNew, Option.map_some, CacheEntry.fresh]
    · rintro other v t different ⟨address, member, found, atFound, id, _⟩
      rw [(only address).mp member, atNew] at atFound
      cases Option.some.inj atFound
      exact absurd id.symm different
    · intro roomy
      rcases roomy with ⟨other, holds⟩ | room
      · exact absurd holds (missing other)
      · exact absurd room (UInt32.not_le.mpr full)

theorem Cache.Has.holds {key accessed : UInt64} {value : Option α} (has : table.Has chains key value accessed) :
    ∃ entry, table.Holds chains key entry := by
  obtain ⟨entry, member, cell, atCell, id, _, _⟩ := has
  exact ⟨entry, member, cell, atCell, id⟩

/-- After the cleanup a resize takes place for want of room, when the key is new. -/
theorem Cache.Repr.getResizes_iff {cleaned : Cache α} (repr : cleaned.Repr chains) {key now : UInt64}
    (cleanup : sysmPerformCleanupIfNecessary table now = some cleaned) :
    table.getResizes key now = true ↔ table.cleanupResizes now = true ∨
      cleaned.size < cleaned.count + 1 ∧ ∀ entry, ¬ cleaned.Holds chains key entry := by
  rw [Cache.getResizes, cleanup, Option.any_some, Bool.or_eq_true, Bool.and_eq_true, decide_eq_true_eq]
  obtain ⟨chain, _, ⟨entry, _, holds, scan⟩ | ⟨missing, _, scan⟩⟩ := repr.scan_key key
  · have known : ¬ ∀ entry, ¬ cleaned.Holds chains key entry := fun missing => missing entry holds
    simp [scan, known]
  · simp [scan, missing]

theorem Cache.Repr.sysmCacheGet_spec (repr : table.Repr chains) (key sweepTime accessTime : UInt64) :
    ∃ table' entry value chains', sysmCacheGet table key sweepTime accessTime = some (table', entry) ∧
      table.Got chains key sweepTime accessTime table' entry value chains' := by
  obtain ⟨cleaned, middle, cleanup, clean⟩ := repr.cleanup_spec sweepTime
  obtain ⟨table', entry, value, chains', run, repr', expire, holds, atValue, has, others, found, keeps⟩ :=
    clean.repr.getEntry_got key accessTime
  have resizes := @Cache.Repr.getResizes_iff _ table middle cleaned clean.repr key sweepTime cleanup
  refine ⟨table', entry, value, chains', ?_, repr', expire.trans clean.expire, holds, atValue, has, ?_, ?_, ?_, ?_⟩
  · simp only [sysmCacheGet, cleanup, Option.bind_eq_bind, Option.bind_some, run]
  · intro other v t different here
    exact clean.had other v t (others other v t different here)
  · rcases found with fresh | ⟨t, old⟩
    · exact Or.inl fresh
    · exact Or.inr ⟨t, clean.had key value t old⟩
  · intro stays other v t had alive
    rw [← Bool.not_eq_true, resizes, not_or] at stays
    have small : table.cleanupResizes sweepTime = false := by simpa using stays.1
    refine keeps ?_ other v t (clean.keeps small other v t had alive)
    by_cases room : cleaned.count + 1 ≤ cleaned.size
    · exact Or.inr room
    · left
      by_contra missing
      exact stays.2 ⟨UInt32.not_le.mp room, not_exists.mp missing⟩
  · intro resized
    rcases found with fresh | ⟨t, old⟩
    · exact fresh
    · rcases resizes.mp resized with small | ⟨_, missing⟩
      · exact absurd old (clean.lost small key value t)
      · obtain ⟨other, known⟩ := old.holds
        exact absurd known (missing other)

/-- A store through the pointer to the entry of a key. -/
theorem Cache.Repr.store_has (repr : table.Repr chains) {key accessed : UInt64} {entry : Nat} {value : Option α}
    (holds : table.Holds chains key entry) (has : table.Has chains key value accessed) (new : Option α) :
    ∃ table', table.store entry new = some table' ∧ table'.Repr chains ∧
      table'.entryExpirePeriod = table.entryExpirePeriod ∧ table'.Holds chains key entry ∧
      table'.Has chains key new accessed ∧
      ∀ other v t, other ≠ key → (table'.Has chains other v t ↔ table.Has chains other v t) := by
  obtain ⟨member, cell, atCell, id⟩ := holds
  obtain ⟨table', run, update⟩ := Cache.store_updated atCell new
  have time : cell.lastAccessTime = accessed :=
    (repr.has_unique ⟨entry, member, cell, atCell, id, rfl, rfl⟩ has).2
  refine ⟨table', run, repr.updated update atCell rfl rfl, by rw [update.same], ⟨member, _, update.here, id⟩,
    ⟨entry, member, _, update.here, id, rfl, time⟩, ?_⟩
  intro other v t different
  rw [← id] at different
  exact update.has_other atCell rfl different v t

end Sysm
