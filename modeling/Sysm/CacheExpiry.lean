import Mathlib.Algebra.Ring.Nat
import Sysm.CacheHas
import Sysm.CacheMap
import Sysm.CacheValues

namespace Sysm
open LinkedHeap

variable {α : Type} {table : Cache α} {chains : List (List Nat)} {now : UInt64}

/-- The entry is in the chain of a slot. -/
def Cache.Linked (table : Cache α) (entry : Nat) : Prop :=
  ∃ (slot : Nat) (head : Option Nat) (chain : List Nat), table.entries[slot]? = some head ∧
    Chain CacheEntry.next table.cells head chain ∧ entry ∈ chain

/-- No more than the expiry period lies between the last access and the reading.
An access stamped later than the reading is fresh. -/
def CacheEntry.FreshAt (cell : CacheEntry α) (expire now : UInt64) : Prop :=
  now.toNat ≤ cell.lastAccessTime.toNat + expire.toNat

/-- A cleanup with this reading of the clock frees no fresh entry. -/
def Cache.SparesFresh (table : Cache α) (now : UInt64) : Prop :=
  ∀ cleaned, sysmPerformCleanupIfNecessary table now = some cleaned → ∀ entry cell, read table.cells entry = some cell →
    cell.FreshAt table.entryExpirePeriod now →
      ∃ cell', read cleaned.cells entry = some cell' ∧ cell'.id = cell.id ∧ cell'.value = cell.value

/-- If the sweep takes place, no entry of the table was last accessed later than the
reading, unless so much later that the age has wrapped around to a small one. -/
def Cache.NoneAhead (table : Cache α) (now : UInt64) : Prop :=
  table.cleanupDue now = true → ∀ entry cell, table.Linked entry → read table.cells entry = some cell →
    cell.lastAccessTime ≤ now ∨
      2 ^ 64 ≤ (cell.lastAccessTime.toNat - now.toNat) + table.entryExpirePeriod.toNat

/-- The reading of the clock by the cleanup of a call. -/
def CacheCall.sweepTime? : CacheCall α → Option UInt64
  | .get _ sweepTime _ => some sweepTime
  | .find _ sweepTime _ => some sweepTime
  | .store _ _ => none

section Runs

variable (size : UInt32) (cleanUpPeriodMillis entryExpirePeriod created : UInt64) (calls : List (CacheCall α))

/-- Every cleanup in a run of calls on a new table has this property. -/
def EachCleanup (P : Cache α → UInt64 → Prop) : Prop :=
  ∀ before call after, calls = before ++ call :: after → ∀ answers use,
    Machine.run CacheUse.step ⟨sysmExpiredCacheNew α size cleanUpPeriodMillis entryExpirePeriod created, []⟩ before =
      some (answers, use) → ∀ now ∈ call.sweepTime?, P use.table now

end Runs

theorem Cache.Repr.linked_iff (repr : table.Repr chains) (entry : Nat) : table.Linked entry ↔ entry ∈ chains.flatten := by
  constructor
  · rintro ⟨slot, head, chain, atHead, linked, member⟩
    have bound : slot < table.size.toNat := by
      rw [← repr.slots]
      exact (List.getElem?_eq_some_iff.mp atHead).1
    obtain ⟨head', chain', atHead', atChain, linked'⟩ := repr.chain_at bound
    cases Option.some.inj (atHead.symm.trans atHead')
    rw [linked.unique linked'] at member
    exact mem_flatten atChain member
  · intro member
    obtain ⟨chain, inChains, inChain⟩ := List.mem_flatten.mp member
    obtain ⟨slot, bound, rfl⟩ := List.mem_iff_getElem.mp inChains
    rw [repr.buckets] at bound
    obtain ⟨head, chain, atHead, atChain, linked⟩ := repr.chain_at bound
    have same := (List.getElem?_eq_some_iff.mp atChain).2
    exact ⟨slot, head, chain, atHead, linked, by rwa [← same]⟩

/-- The rehash allocates nothing. -/
theorem sysmCacheRehash_unused {table' : Cache α} {entry : Nat} (run : sysmCacheRehash table = some table')
    (unused : read table.cells entry = none) : read table'.cells entry = none := by
  rw [← heldAt_eq_none] at unused ⊢
  rw [sysmCacheRehash_heldAt run, unused]

/-- The cleanup frees the linked entries whose age is over the expiry period, the
age as the code computes it, and keeps all others. -/
theorem Cache.Repr.cleanup_frees (repr : table.Repr chains) (now : UInt64) :
    ∃ cleaned, sysmPerformCleanupIfNecessary table now = some cleaned ∧
      ∀ entry cell, read table.cells entry = some cell →
        (table.cleanupDue now = true ∧ entry ∈ chains.flatten ∧ table.entryExpirePeriod < now - cell.lastAccessTime →
          read cleaned.cells entry = none) ∧
        (¬ (table.cleanupDue now = true ∧ entry ∈ chains.flatten ∧
            table.entryExpirePeriod < now - cell.lastAccessTime) →
          ∃ cell', read cleaned.cells entry = some cell' ∧ cell'.id = cell.id ∧ cell'.value = cell.value) := by
  simp only [sysmPerformCleanupIfNecessary_eq, Cache.sweepIfDue]
  cases due : table.cleanupDue now with
  | false =>
    refine ⟨table, rfl, ?_⟩
    intro entry cell atCell
    constructor
    · rintro ⟨idle, _⟩
      cases idle
    · exact fun _ => ⟨cell, atCell, rfl, rfl⟩
  | true =>
    obtain ⟨swept, gone, run, repr', spec, releases, _, lost⟩ := repr.sweep_spec now
    have freed : ∀ entry cell, read table.cells entry = some cell →
        (entry ∈ gone ↔ entry ∈ chains.flatten ∧ table.entryExpirePeriod < now - cell.lastAccessTime) := by
      intro entry cell atCell
      rw [lost entry, Cache.survives, atCell]
      simp
    have after : ∀ entry cell, read table.cells entry = some cell →
        (entry ∈ gone → read swept.cells entry = none) ∧
          (entry ∉ gone → ∃ link, read swept.cells entry = some { cell with next := link }) := by
      intro entry cell atCell
      exact ⟨fun member => releases entry (Or.inr member), fun stays => spec.kept entry cell stays atCell⟩
    by_cases shrunk : swept.count < swept.size / 4
    · obtain ⟨emptied, rehashed, _, _, _, _, keeps⟩ := sysmCacheRehash_spec repr'
      refine ⟨emptied, ?_, ?_⟩
      · simp only [if_true, run, Option.bind_some, true_and, if_pos shrunk, rehashed]
      · intro entry cell atCell
        constructor
        · rintro ⟨_, member, old⟩
          exact sysmCacheRehash_unused rehashed ((after entry cell atCell).1 ((freed entry cell atCell).mpr ⟨member, old⟩))
        · intro stays
          obtain ⟨link, atSwept⟩ := (after entry cell atCell).2 fun member =>
            stays ⟨rfl, (freed entry cell atCell).mp member⟩
          obtain ⟨cell', atEnd, id, value, _⟩ := keeps.kept entry _ atSwept
          exact ⟨cell', atEnd, id, value⟩
    · refine ⟨swept, ?_, ?_⟩
      · simp only [if_true, run, Option.bind_some, true_and, if_neg shrunk]
      · intro entry cell atCell
        constructor
        · rintro ⟨_, member, old⟩
          exact (after entry cell atCell).1 ((freed entry cell atCell).mpr ⟨member, old⟩)
        · intro stays
          obtain ⟨link, atSwept⟩ := (after entry cell atCell).2 fun member =>
            stays ⟨rfl, (freed entry cell atCell).mp member⟩
          exact ⟨_, atSwept, rfl, rfl⟩

/-- The age of an entry that was last accessed later than the reading. -/
theorem age_of_ahead {accessed : UInt64} (ahead : now.toNat < accessed.toNat) :
    (now - accessed).toNat = 2 ^ 64 - (accessed.toNat - now.toNat) := by
  have bound := accessed.toNat_lt
  have bound' := now.toNat_lt
  rw [UInt64.toNat_sub]
  omega

theorem age_of_past {accessed : UInt64} (past : accessed.toNat ≤ now.toNat) :
    (now - accessed).toNat = now.toNat - accessed.toNat := by
  have bound := accessed.toNat_lt
  have bound' := now.toNat_lt
  rw [UInt64.toNat_sub]
  omega

theorem Cache.Repr.sparesFresh_iff (repr : table.Repr chains) (now : UInt64) :
    table.SparesFresh now ↔ table.NoneAhead now := by
  obtain ⟨cleaned, run, frees⟩ := repr.cleanup_frees now
  constructor
  · intro spares due entry cell linked atCell
    by_contra ahead
    rw [not_or, UInt64.not_le, UInt64.lt_iff_toNat_lt] at ahead
    have age := age_of_ahead ahead.1
    have fresh : cell.FreshAt table.entryExpirePeriod now := by
      unfold CacheEntry.FreshAt
      omega
    have old : table.entryExpirePeriod < now - cell.lastAccessTime := by
      rw [UInt64.lt_iff_toNat_lt, age]
      omega
    obtain ⟨cell', atCell', _⟩ := spares cleaned run entry cell atCell fresh
    have freed := (frees entry cell atCell).1 ⟨due, (repr.linked_iff entry).mp linked, old⟩
    rw [freed] at atCell'
    cases atCell'
  · intro missing cleaned' run' entry cell atCell fresh
    rw [run] at run'
    cases run'
    refine (frees entry cell atCell).2 ?_
    rintro ⟨due, member, old⟩
    rw [UInt64.lt_iff_toNat_lt] at old
    unfold CacheEntry.FreshAt at fresh
    rcases missing due entry cell ((repr.linked_iff entry).mpr member) atCell with past | wrapped
    · rw [age_of_past (UInt64.le_iff_toNat_le.mp past)] at old
      omega
    · by_cases past : cell.lastAccessTime.toNat ≤ now.toNat
      · rw [age_of_past past] at old
        omega
      · rw [age_of_ahead (by omega)] at old
        omega

/-- Every call leaves a table whose slots head its chains. -/
theorem CacheUse.repr_step {use next : CacheUse α} {call : CacheCall α} {answer : Option (Option α)}
    (repr : use.table.Repr chains) (run : use.step call = some (answer, next)) : ∃ chains', next.table.Repr chains' := by
  cases call with
  | get key sweepTime accessTime =>
    obtain ⟨table', entry, value, chains', get, got⟩ := repr.sysmCacheGet_spec key sweepTime accessTime
    simp only [CacheUse.step, get, got.atValue, Option.bind_eq_bind, Option.bind_some] at run
    cases run
    exact ⟨chains', got.repr⟩
  | find key sweepTime accessTime =>
    obtain ⟨cleaned, middle, cleanup, clean⟩ := repr.cleanup_spec sweepTime
    rcases clean.repr.findEntry_spec key accessTime with ⟨table', entry, cell, find, holds, atCell, update⟩ | ⟨find, _⟩
    · simp only [CacheUse.step, sysmCacheFind, cleanup, find, Option.bind_eq_bind, Option.bind_some] at run
      obtain ⟨value, _, run⟩ := Option.bind_eq_some_iff.mp run
      cases run
      exact ⟨middle, clean.repr.updated update atCell rfl rfl⟩
    · simp only [CacheUse.step, sysmCacheFind, cleanup, find, Option.bind_eq_bind, Option.bind_some] at run
      cases run
      exact ⟨middle, clean.repr⟩
  | store handle value =>
    simp only [CacheUse.step] at run
    split at run
    · next entry _ =>
        obtain ⟨table', store, run⟩ := Option.bind_eq_some_iff.mp run
        cases run
        obtain ⟨cell, atCell, _⟩ := Option.bind_eq_some_iff.mp store
        obtain ⟨stored, same, update⟩ := Cache.store_updated atCell value
        rw [store] at same
        cases same
        exact ⟨chains, repr.updated update atCell rfl rfl⟩
    · cases run
      exact ⟨chains, repr⟩

/-- No cleanup of a run frees a fresh entry exactly if, whenever a sweep takes
place, no entry of the table was last accessed later than its reading of the clock. -/
theorem eachCleanup_sparesFresh_iff (size : UInt32) (positive : 0 < size.toNat)
    (cleanUpPeriodMillis entryExpirePeriod created : UInt64) (calls : List (CacheCall α)) :
    EachCleanup size cleanUpPeriodMillis entryExpirePeriod created calls Cache.SparesFresh ↔
      EachCleanup size cleanUpPeriodMillis entryExpirePeriod created calls Cache.NoneAhead := by
  have start : ∃ chains, (sysmExpiredCacheNew α size cleanUpPeriodMillis entryExpirePeriod created).Repr chains :=
    ⟨_, sysmExpiredCacheNew_repr size cleanUpPeriodMillis entryExpirePeriod created positive⟩
  have reached (before : List (CacheCall α)) (answers : List (Option (Option α))) (use : CacheUse α)
      (run : Machine.run CacheUse.step ⟨sysmExpiredCacheNew α size cleanUpPeriodMillis entryExpirePeriod created, []⟩
        before = some (answers, use)) : ∃ chains, use.table.Repr chains := by
    refine @Machine.run_invariant _ _ _ CacheUse.step _ _ before answers (fun use => ∃ chains, use.table.Repr chains)
      ?_ start run
    intro state call answer next repr step
    obtain ⟨chains, repr⟩ := repr
    exact CacheUse.repr_step repr step
  constructor
  · intro spares before call after split answers use run now atNow
    obtain ⟨chains, repr⟩ := reached before answers use run
    exact (repr.sparesFresh_iff now).mp (spares before call after split answers use run now atNow)
  · intro missing before call after split answers use run now atNow
    obtain ⟨chains, repr⟩ := reached before answers use run
    exact (repr.sparesFresh_iff now).mpr (missing before call after split answers use run now atNow)

/-- The clock is set back by ten seconds between two calls. -/
def clockSetBack : List (CacheCall Nat) :=
  [.get 1 1000000 1000000, .store 0 (some 7), .find 2 990000 990000]

theorem eachCleanup_sparesFresh_setBack :
    EachCleanup 4 60000 60000 1000000 clockSetBack Cache.SparesFresh ↔
      EachCleanup 4 60000 60000 1000000 clockSetBack Cache.NoneAhead :=
  eachCleanup_sparesFresh_iff 4 (by decide) 60000 60000 1000000 clockSetBack

/-- The entry that was stored last is freed although it is not a minute old. -/
theorem cleanup_frees_fresh : ¬ ∀ (size : UInt32) (cleanUpPeriodMillis entryExpirePeriod created : UInt64)
    (calls : List (CacheCall Nat)), 0 < size.toNat →
      EachCleanup size cleanUpPeriodMillis entryExpirePeriod created calls Cache.SparesFresh := by
  intro claim
  have stored : (Machine.run CacheUse.step ⟨sysmExpiredCacheNew Nat 4 60000 60000 1000000, []⟩
      (clockSetBack.take 2)).map (fun result => (result.2.table.entryExpirePeriod, read result.2.table.cells 0)) =
        some (60000, some ⟨none, 1, some 7, 1000000⟩) := by decide +kernel
  have freed : (Machine.run CacheUse.step ⟨sysmExpiredCacheNew Nat 4 60000 60000 1000000, []⟩
      (clockSetBack.take 2)).bind (fun result => (sysmPerformCleanupIfNecessary result.2.table 990000).map
        fun cleaned => read cleaned.cells 0) = some none := by decide +kernel
  obtain ⟨⟨answers, use⟩, run, stored⟩ := Option.map_eq_some_iff.mp stored
  rw [run, Option.bind_some] at freed
  obtain ⟨cleaned, cleanup, freed⟩ := Option.map_eq_some_iff.mp freed
  have expire : use.table.entryExpirePeriod = 60000 := congrArg Prod.fst stored
  have atCell : read use.table.cells 0 = some ⟨none, 1, some 7, 1000000⟩ := congrArg Prod.snd stored
  have fresh : CacheEntry.FreshAt (⟨none, 1, some 7, 1000000⟩ : CacheEntry Nat) use.table.entryExpirePeriod 990000 := by
    rw [expire]
    show (990000 : UInt64).toNat ≤ (1000000 : UInt64).toNat + (60000 : UInt64).toNat
    decide
  obtain ⟨cell', atCell', _⟩ := claim 4 60000 60000 1000000 clockSetBack (by decide) (clockSetBack.take 2)
    (.find 2 990000 990000) [] rfl answers use run 990000 rfl cleaned cleanup 0 _ atCell fresh
  rw [freed] at atCell'
  cases atCell'

end Sysm
