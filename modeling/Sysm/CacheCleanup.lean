import Sysm.CacheExpiry

namespace Sysm
open LinkedHeap

variable {α : Type} {table table' : Cache α} {chains : List (List Nat)} {now : UInt64}

/-- Every entry is in the chain of its bucket, once, and the count is exact. -/
structure Cache.WellFormed (table : Cache α) (chains : List (List Nat)) : Prop where
  chained : table.Chained chains
  counted : table.count.toNat = chains.flatten.length

/-- More than the expiry period lies between the last access and the reading. -/
def Cache.expiredAt (table : Cache α) (now : UInt64) (entry : Nat) : Bool :=
  (read table.cells entry).any fun cell =>
    decide (cell.lastAccessTime.toNat + table.entryExpirePeriod.toNat < now.toNat)

/-- No entry of the chains was last accessed later than the reading. -/
def Cache.AccessedBefore (table : Cache α) (chains : List (List Nat)) (now : UInt64) : Prop :=
  ∀ entry ∈ chains.flatten, ∀ cell, read table.cells entry = some cell → cell.lastAccessTime ≤ now

/-- `table'` is `table` without its expired entries: they are freed, each with
its value, and the others keep their bucket, their order and their contents. -/
structure Cache.SweptAt (table : Cache α) (chains : List (List Nat)) (now : UInt64) (table' : Cache α) : Prop where
  wellFormed : table'.WellFormed (chains.map fun chain => chain.filter fun entry => !table.expiredAt now entry)
  removed : ∀ entry ∈ chains.flatten, table.expiredAt now entry = true → read table'.cells entry = none
  kept : ∀ entry ∈ chains.flatten, table.expiredAt now entry = false → ∀ cell, read table.cells entry = some cell →
    ∃ link, read table'.cells entry = some { cell with next := link }
  freed : ∃ gone : List Nat, gone.Perm (chains.flatten.filter (table.expiredAt now)) ∧
    table'.freed = table.freed ++ gone.flatMap fun entry => ((read table.cells entry).bind CacheEntry.value).toList
  size : table'.size = table.size
  expire : table'.entryExpirePeriod = table.entryExpirePeriod
  period : table'.cleanupPeriodMillis = table.cleanupPeriodMillis
  cleaned : table'.lastCleanupTime = now

/-- The cleanup is enabled, and its period has passed since the last one. -/
def Cache.PeriodPassed (table : Cache α) (now : UInt64) : Prop :=
  table.cleanupPeriodMillis ≠ -1 ∧ table.lastCleanupTime.toNat + table.cleanupPeriodMillis.toNat ≤ now.toNat

/-- The table is swept if the period has passed, and left alone if not. -/
def Cache.CleansUp (table : Cache α) (chains : List (List Nat)) (now : UInt64) : Prop :=
  (table.PeriodPassed now → ∃ table', table.sweepIfDue now = some table' ∧ table.SweptAt chains now table') ∧
    (¬ table.PeriodPassed now → table.sweepIfDue now = some table)

theorem Cache.AccessedBefore.survives_eq (before : table.AccessedBefore chains now) {entry : Nat} {cell : CacheEntry α}
    (member : entry ∈ chains.flatten) (atCell : read table.cells entry = some cell) :
    table.survives now entry = !table.expiredAt now entry := by
  have past := UInt64.le_iff_toNat_le.mp (before entry member cell atCell)
  have same : table.entryExpirePeriod < now - cell.lastAccessTime ↔
      cell.lastAccessTime.toNat + table.entryExpirePeriod.toNat < now.toNat := by
    rw [UInt64.lt_iff_toNat_lt, age_of_past past]
    omega
  simp [Cache.survives, Cache.expiredAt, atCell, same]

/-- The sweep counts down once for each removed entry, so the count of an exact
table never wraps around. -/
theorem Cache.WellFormed.swept_count (wellFormed : table.WellFormed chains) (p : Nat → Bool) {gone : List Nat}
    (perm : gone.Perm (chains.flatten.filter p)) :
    (table.count - UInt32.ofNat gone.length).toNat =
      (chains.map fun chain => chain.filter fun entry => !p entry).flatten.length := by
  have counted := wellFormed.counted
  have bound := table.count.toNat_lt
  have parts : chains.flatten.length = (chains.flatten.filter p).length +
      (chains.flatten.filter fun entry => !p entry).length := List.length_eq_length_filter_add p
  have lost := perm.length_eq
  rw [← List.filter_flatten, UInt32.toNat_sub, UInt32.toNat_ofNat']
  omega

theorem Cache.WellFormed.sweep_sweptAt (wellFormed : table.WellFormed chains) (before : table.AccessedBefore chains now) :
    ∃ table', table.sweep now = some table' ∧ table.SweptAt chains now table' := by
  obtain ⟨table', gone, run, chained, swept, releases, distinct, lost⟩ := wellFormed.chained.sweep_spec now
  have survives : ∀ entry ∈ chains.flatten, table.survives now entry = !table.expiredAt now entry := by
    intro entry member
    obtain ⟨cell, atCell⟩ := wellFormed.chained.allocated member
    exact before.survives_eq member atCell
  have goneIff : ∀ entry, entry ∈ gone ↔ entry ∈ chains.flatten ∧ table.expiredAt now entry = true := by
    intro entry
    rw [lost entry]
    refine and_congr_right fun member => ?_
    rw [survives entry member, Bool.not_eq_false']
  have perm : gone.Perm (chains.flatten.filter (table.expiredAt now)) := by
    refine (List.perm_ext_iff_of_nodup distinct (wellFormed.chained.nodup.filter _)).mpr fun entry => ?_
    rw [goneIff, List.mem_filter]
  have filtered : (chains.map fun chain => chain.filter (table.survives now)) =
      chains.map fun chain => chain.filter fun entry => !table.expiredAt now entry := by
    refine List.map_congr_left fun chain inChains => List.filter_congr fun entry member => ?_
    exact survives entry (List.mem_flatten.mpr ⟨chain, inChains, member⟩)
  rw [filtered] at chained
  have count : table'.count = table.count - UInt32.ofNat gone.length := swept.count
  refine ⟨table', run, ⟨chained, by rw [count, wellFormed.swept_count _ perm]⟩, ?_, ?_, ⟨gone, perm, swept.freed⟩,
    swept.size, swept.expire, swept.period, swept.cleaned⟩
  · intro entry member old
    exact releases entry (Or.inr ((goneIff entry).mpr ⟨member, old⟩))
  · intro entry _ fresh cell atCell
    refine swept.kept entry cell (fun inGone => ?_) atCell
    have old := ((goneIff entry).mp inGone).2
    rw [fresh] at old
    cases old

/-- The test of the code, with its unsigned difference, agrees with the period
unless the clock was set back behind the last cleanup. -/
theorem Cache.cleanupDue_iff (table : Cache α) (now : UInt64) :
    table.cleanupDue now = true ↔ table.PeriodPassed now ∨
      (table.cleanupPeriodMillis ≠ -1 ∧ now < table.lastCleanupTime ∧
        table.cleanupPeriodMillis ≤ now - table.lastCleanupTime) := by
  unfold Cache.cleanupDue Cache.PeriodPassed
  rw [← and_or_left]
  simp only [Bool.and_eq_true, bne_iff_ne, Bool.not_eq_true', decide_eq_false_iff_not, UInt64.not_lt]
  refine and_congr_right fun _ => ?_
  have bound := table.lastCleanupTime.toNat_lt
  by_cases past : table.lastCleanupTime.toNat ≤ now.toNat
  · have elapsed := age_of_past past
    simp only [UInt64.le_iff_toNat_le, UInt64.lt_iff_toNat_lt, elapsed]
    omega
  · have elapsed := age_of_ahead (Nat.lt_of_not_le past)
    simp only [UInt64.le_iff_toNat_le, UInt64.lt_iff_toNat_lt, elapsed]
    omega

/-- The sweep takes note of its time. -/
theorem Cache.sweepIfDue_changes (wellFormed : table.WellFormed chains) (before : table.AccessedBefore chains now)
    (due : table.cleanupDue now = true) (later : now < table.lastCleanupTime) : table.sweepIfDue now ≠ some table := by
  obtain ⟨table', run, swept⟩ := wellFormed.sweep_sweptAt before
  rw [Cache.sweepIfDue, if_pos due, run]
  intro same
  cases Option.some.inj same
  have cleaned := swept.cleaned
  rw [cleaned] at later
  exact absurd later (by simp)

/-- The cleanup does what it is meant to do exactly if it is disabled, or the
last cleanup was not later than the reading, or so much later that the wrapped
difference still falls short of the period. -/
theorem Cache.cleansUp_iff (wellFormed : table.WellFormed chains) (before : table.AccessedBefore chains now) :
    table.CleansUp chains now ↔ table.cleanupPeriodMillis = -1 ∨ table.lastCleanupTime ≤ now ∨
      now - table.lastCleanupTime < table.cleanupPeriodMillis := by
  have dueIff := table.cleanupDue_iff now
  constructor
  · intro cleansUp
    by_contra outside
    rw [not_or, not_or, UInt64.not_le, UInt64.not_lt] at outside
    obtain ⟨enabled, later, wrapped⟩ := outside
    have short : ¬ table.PeriodPassed now := by
      intro passed
      have bound := UInt64.lt_iff_toNat_lt.mp later
      have elapsed := passed.2
      omega
    exact Cache.sweepIfDue_changes wellFormed before (dueIff.mpr (Or.inr ⟨enabled, later, wrapped⟩)) later
      (cleansUp.2 short)
  · intro condition
    constructor
    · intro passed
      rw [Cache.sweepIfDue, if_pos (dueIff.mpr (Or.inl passed))]
      exact wellFormed.sweep_sweptAt before
    · intro short
      have idle : ¬ table.cleanupDue now = true := by
        rw [dueIff]
        rintro (passed | ⟨enabled, later, wrapped⟩)
        · exact short passed
        · rcases condition with disabled | past | small
          · exact enabled disabled
          · exact absurd later (UInt64.not_lt.mpr past)
          · exact absurd small (UInt64.not_lt.mpr wrapped)
      rw [Cache.sweepIfDue, if_neg idle]

/-- A new table is well-formed. -/
theorem sysmExpiredCacheNew_wellFormed (size : UInt32) (cleanUpPeriodMillis entryExpirePeriod created : UInt64) :
    (sysmExpiredCacheNew α size cleanUpPeriodMillis entryExpirePeriod created).WellFormed
      (List.replicate size.toNat []) where
  chained :=
    { slots := List.length_replicate
      buckets := List.length_replicate
      linked := by
        intro i head chain atHead atChain
        cases (List.mem_replicate.mp (List.mem_of_getElem? atHead)).2
        cases (List.mem_replicate.mp (List.mem_of_getElem? atChain)).2
        exact .nil
      placed := by
        intro i chain atChain entry member
        cases (List.mem_replicate.mp (List.mem_of_getElem? atChain)).2
        cases member }
  counted := by simp [sysmExpiredCacheNew]

theorem sysmExpiredCacheNew_accessedBefore (size : UInt32) (cleanUpPeriodMillis entryExpirePeriod created now : UInt64) :
    (sysmExpiredCacheNew α size cleanUpPeriodMillis entryExpirePeriod created).AccessedBefore
      (List.replicate size.toNat []) now := by
  intro entry member
  simp at member

/-- A bucket of three entries, the middle one of which has expired at 1000000. -/
def threeEntries : Cache Nat where
  entries := [some 0]
  count := 3
  size := 1
  entryExpirePeriod := 60000
  cleanupPeriodMillis := 60000
  lastCleanupTime := 930000
  cells := [some ⟨some 1, 1, some 7, 990000⟩, some ⟨some 2, 2, some 8, 900000⟩, some ⟨none, 3, none, 950000⟩]
  freed := []

theorem threeEntries_wellFormed : threeEntries.WellFormed [[0, 1, 2]] where
  chained :=
    { slots := rfl
      buckets := rfl
      linked := by
        intro i head chain atHead atChain
        cases List.mem_singleton.mp (List.mem_of_getElem? atHead)
        cases List.mem_singleton.mp (List.mem_of_getElem? atChain)
        exact .cons rfl (.cons rfl (.cons rfl .nil))
      placed := by
        intro i chain atChain entry _ cell _
        have bound := (List.getElem?_eq_some_iff.mp atChain).1
        have one : (cell.id % 1).toNat < 1 := by
          rw [UInt64.toNat_mod]
          exact Nat.mod_lt _ Nat.one_pos
        have slot : i < 1 := bound
        show (cell.id % 1).toNat = i
        omega }
  counted := rfl

theorem threeEntries_accessedBefore : threeEntries.AccessedBefore [[0, 1, 2]] 1000000 := by
  intro entry member cell atCell
  have three : entry = 0 ∨ entry = 1 ∨ entry = 2 := by simpa using member
  rcases three with rfl | rfl | rfl
  all_goals
    cases Option.some.inj atCell
    decide

theorem cleansUp_threeEntries : threeEntries.CleansUp [[0, 1, 2]] 1000000 ↔
    threeEntries.cleanupPeriodMillis = -1 ∨ threeEntries.lastCleanupTime ≤ 1000000 ∨
      1000000 - threeEntries.lastCleanupTime < threeEntries.cleanupPeriodMillis :=
  Cache.cleansUp_iff threeEntries_wellFormed threeEntries_accessedBefore

/-- A new table is swept when the clock is set back by ten seconds. -/
theorem sweepIfDue_setBack : ¬ ∀ (table : Cache Nat) (chains : List (List Nat)) (now : UInt64),
    table.WellFormed chains → table.AccessedBefore chains now → table.CleansUp chains now := by
  intro claim
  have cleansUp := claim (sysmExpiredCacheNew Nat 4 60000 60000 1000000) _ 990000
    (sysmExpiredCacheNew_wellFormed 4 60000 60000 1000000) (sysmExpiredCacheNew_accessedBefore 4 60000 60000 1000000 990000)
  have short : ¬ (sysmExpiredCacheNew Nat 4 60000 60000 1000000).PeriodPassed 990000 := by
    rintro ⟨_, elapsed⟩
    exact absurd elapsed (by decide)
  have same := congrArg (Option.map Cache.lastCleanupTime) (cleansUp.2 short)
  have swept : ((sysmExpiredCacheNew Nat 4 60000 60000 1000000).sweepIfDue 990000).map Cache.lastCleanupTime =
      some 990000 := by decide +kernel
  rw [swept] at same
  cases Option.some.inj same

end Sysm
