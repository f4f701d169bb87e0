import Sysm.CacheDestroy

namespace Sysm
open LinkedHeap

variable {α : Type} {table table' cleaned : Cache α} {chains chains' : List (List Nat)} {key now : UInt64}

theorem Cache.valuesAt_eq (table : Cache α) (entries : List Nat) :
    table.valuesAt entries = entries.flatMap fun entry => ((heldAt table.cells entry).bind Prod.snd).toList := by
  refine List.flatMap_congr fun entry _ => ?_
  unfold heldAt
  cases LinkedHeap.read table.cells entry with
  | none => rfl
  | some cell => rfl

/-- What the cleanup does to all entries of the heap: it frees those of the
chains that do not survive, and a resize leaves none of the others in a chain. -/
structure Cache.CleanupTurn (table : Cache α) (chains : List (List Nat)) (now : UInt64) (cleaned : Cache α)
    (chains' : List (List Nat)) (gone : List Nat) : Prop where
  repr : cleaned.Repr chains'
  distinct : gone.Nodup
  evicted : ∀ entry, entry ∈ gone ↔
    table.cleanupDue now = true ∧ entry ∈ chains.flatten ∧ table.survives now entry = false
  held : ∀ entry, heldAt cleaned.cells entry = if entry ∈ gone then none else heldAt table.cells entry
  length : cleaned.cells.length = table.cells.length
  freed : cleaned.freed = table.freed ++ table.valuesAt gone
  linked : ∀ entry, entry ∈ chains'.flatten ↔
    (entry ∈ chains.flatten ∧ entry ∉ gone) ∧ table.cleanupResizes now = false

theorem Cache.Swept.held {gone : List Nat} (swept : table.Swept table' gone) (releases : table.Releases table' gone)
    (entry : Nat) : heldAt table'.cells entry = if entry ∈ gone then none else heldAt table.cells entry := by
  by_cases member : entry ∈ gone
  · rw [if_pos member, heldAt_eq_none]
    exact releases entry (Or.inr member)
  · rw [if_neg member]
    cases atCell : LinkedHeap.read table.cells entry with
    | none =>
      rw [heldAt_eq_none.mpr atCell, heldAt_eq_none]
      exact releases entry (Or.inl atCell)
    | some cell =>
      obtain ⟨link, atEnd⟩ := swept.kept entry cell member atCell
      simp only [heldAt, atCell, atEnd, Option.map_some]

theorem Cache.Repr.cleanup_turn (repr : table.Repr chains) (now : UInt64) :
    ∃ cleaned chains' gone, sysmPerformCleanupIfNecessary table now = some cleaned ∧
      table.CleanupTurn chains now cleaned chains' gone := by
  simp only [sysmPerformCleanupIfNecessary_eq, Cache.sweepIfDue]
  cases due : table.cleanupDue now with
  | false =>
    refine ⟨table, chains, [], rfl, repr, List.nodup_nil, by simp [due], by simp, rfl, by simp [Cache.valuesAt], ?_⟩
    simp [Cache.cleanupResizes, due]
  | true =>
    obtain ⟨swept, gone, run, repr', spec, releases, distinct, lost⟩ := repr.sweep_spec now
    have evicted : ∀ entry, entry ∈ gone ↔
        table.cleanupDue now = true ∧ entry ∈ chains.flatten ∧ table.survives now entry = false := by
      intro entry
      rw [lost entry, due]
      simp
    have stays : ∀ entry, entry ∈ (chains.map fun chain => chain.filter (table.survives now)).flatten ↔
        entry ∈ chains.flatten ∧ entry ∉ gone := by
      intro entry
      rw [← List.filter_flatten, List.mem_filter, lost entry, not_and, Bool.not_eq_false]
      exact and_congr_right fun member => ⟨fun lives _ => lives, fun lives => lives member⟩
    by_cases shrunk : swept.count < swept.size / 4
    · obtain ⟨emptied, rehashed, repr'', _, _, length, _⟩ := sysmCacheRehash_spec repr'
      have resizes : table.cleanupResizes now = true := by simp [Cache.cleanupResizes, due, run, shrunk]
      refine ⟨emptied, _, gone, ?_, repr'', distinct, evicted, ?_, length.trans spec.length, ?_, ?_⟩
      · simp only [if_true, run, Option.bind_some, true_and, if_pos shrunk, rehashed]
      · intro entry
        rw [sysmCacheRehash_heldAt rehashed]
        exact spec.held releases entry
      · have same : emptied.freed = swept.freed := by
          obtain ⟨cells, _, run⟩ := Option.bind_eq_some_iff.mp rehashed
          cases run
          rfl
        exact same.trans spec.freed
      · intro entry
        simp [resizes]
    · have stable : table.cleanupResizes now = false := by simp [Cache.cleanupResizes, due, run, shrunk]
      refine ⟨swept, _, gone, ?_, repr', distinct, evicted, spec.held releases, spec.length, spec.freed, ?_⟩
      · simp only [if_true, run, Option.bind_some, true_and, if_neg shrunk]
      · intro entry
        simp [stays entry, stable]

/-- `sysm_cache_get` resizes the cleaned table for want of room. -/
def Cache.GrowsFor (cleaned : Cache α) (chains : List (List Nat)) (key : UInt64) : Prop :=
  cleaned.size < cleaned.count + 1 ∧ ∀ entry, ¬ cleaned.Holds chains key entry

/-- The entry of the key is in a chain. The others stay in theirs unless the
table grows. -/
theorem Cache.GetSpec.linked {entry : Nat} (spec : table.GetSpec chains key now table' entry chains')
    (repr' : table'.Repr chains') (other : Nat) :
    other ∈ chains'.flatten ↔ other = entry ∨ other ∈ chains.flatten ∧ ¬ table.GrowsFor chains key := by
  cases spec with
  | hit holds _ _ =>
    have stable : ¬ table.GrowsFor chains key := fun grows => grows.2 entry holds
    constructor
    · exact fun member => Or.inr ⟨member, stable⟩
    · rintro (rfl | ⟨member, _⟩)
      · exact holds.1
      · exact member
  | @grow chain _ room atChain _ _ _ _ _ =>
    have stable : ¬ table.GrowsFor chains key := fun grows => absurd room (UInt32.not_le.mpr grows.1)
    rw [Cache.Repr.mem_grow atChain]
    simp only [stable, not_false_iff, and_true]
  | rehash missing full _ _ _ _ _ =>
    have grows : table.GrowsFor chains key := ⟨full, missing⟩
    have atNil : (List.replicate table'.size.toNat ([] : List Nat))[(key % table'.size.toUInt64).toNat]? = some [] := by
      rw [List.getElem?_replicate, if_pos (repr'.ix_lt key)]
    have members := Cache.Repr.mem_grow atNil entry other
    rw [List.nil_append] at members
    rw [members]
    simp [grows]

theorem Cache.Repr.getResizes_growsFor (repr : cleaned.Repr chains)
    (cleanup : sysmPerformCleanupIfNecessary table now = some cleaned) :
    table.getResizes key now = true ↔ table.cleanupResizes now = true ∨ cleaned.GrowsFor chains key :=
  repr.getResizes_iff cleanup

/-- The entry is allocated, and no slot leads to it. -/
def Cache.Leaked (table : Cache α) (entry : Nat) : Prop :=
  heldAt table.cells entry ≠ none ∧ ¬ table.Linked entry

/-- The call resizes the table. -/
def CacheCall.resizes (table : Cache α) : CacheCall α → Bool
  | .get key sweepTime _ => table.getResizes key sweepTime
  | .find _ sweepTime _ => table.cleanupResizes sweepTime
  | .store _ _ => false

/-- The entry is in the table when the call resizes it, and not one of those
that the cleanup of the call frees. -/
def Cache.Loses (table : Cache α) (call : CacheCall α) (entry : Nat) : Prop :=
  table.Linked entry ∧ call.resizes table = true ∧
    ∀ now ∈ call.sweepTime?, table.cleanupDue now = true → table.survives now entry = true

theorem Cache.Repr.leaked_iff (repr : table.Repr chains) (entry : Nat) :
    table.Leaked entry ↔ heldAt table.cells entry ≠ none ∧ entry ∉ chains.flatten := by
  rw [Cache.Leaked, repr.linked_iff]

theorem Cache.Repr.held_ne_none (repr : table.Repr chains) {entry : Nat} (member : entry ∈ chains.flatten) :
    heldAt table.cells entry ≠ none := by
  obtain ⟨cell, atCell⟩ := repr.allocated member
  rw [ne_eq, heldAt_eq_none, atCell]
  exact Option.some_ne_none cell

/-- The cleanup leaks the survivors of the sweep if it resizes. -/
theorem Cache.CleanupTurn.leaked {gone : List Nat} (turn : table.CleanupTurn chains now cleaned chains' gone)
    (repr : table.Repr chains) (entry : Nat) :
    cleaned.Leaked entry ↔ table.Leaked entry ∨
      (entry ∈ chains.flatten ∧ entry ∉ gone) ∧ table.cleanupResizes now = true := by
  have inside : entry ∈ gone → entry ∈ chains.flatten := fun member => ((turn.evicted entry).mp member).2.1
  rw [turn.repr.leaked_iff, repr.leaked_iff, turn.held entry, turn.linked entry]
  by_cases freed : entry ∈ gone
  · simp [freed, inside freed]
  · rw [if_neg freed]
    by_cases member : entry ∈ chains.flatten
    · have here := repr.held_ne_none member
      simp [freed, member, here]
    · simp [freed, member]

/-- The growth leaks what is in the table. -/
theorem Cache.GetSpec.leaked {entry : Nat} (spec : table.GetSpec chains key now table' entry chains')
    (gets : table.Gets key table' entry) (repr : table.Repr chains) (repr' : table'.Repr chains') (other : Nat) :
    table'.Leaked other ↔ table.Leaked other ∨ other ∈ chains.flatten ∧ table.GrowsFor chains key := by
  rw [repr'.leaked_iff, repr.leaked_iff, spec.linked repr' other]
  by_cases same : other = entry
  · subst same
    have here : ¬ (heldAt table.cells other ≠ none ∧ other ∉ chains.flatten) ∧
        ¬ (other ∈ chains.flatten ∧ table.GrowsFor chains key) := by
      cases spec with
      | hit holds _ _ =>
        exact ⟨fun outside => outside.2 holds.1, fun grows => grows.2.2 other holds⟩
      | grow _ _ _ _ _ _ _ unused =>
        have absent := heldAt_eq_none.mpr unused
        exact ⟨fun outside => outside.1 absent, fun inside => repr.held_ne_none inside.1 absent⟩
      | rehash _ _ _ _ _ _ unused =>
        have absent := heldAt_eq_none.mpr unused
        exact ⟨fun outside => outside.1 absent, fun inside => repr.held_ne_none inside.1 absent⟩
    simp only [here.1, here.2, or_false, true_or, not_true, and_false]
  · rw [gets.others other same]
    by_cases member : other ∈ chains.flatten
    · have here := repr.held_ne_none member
      simp [same, member, here]
    · simp [same, member]

/-- Writing to an entry neither allocates nor frees one. -/
theorem Cache.Updated.leaked {entry : Nat} {old cell : CacheEntry α} (update : table.Updated table' entry cell)
    (atOld : LinkedHeap.read table.cells entry = some old) (repr : table.Repr chains) (repr' : table'.Repr chains)
    (other : Nat) : table'.Leaked other ↔ table.Leaked other := by
  have same : heldAt table'.cells other = none ↔ heldAt table.cells other = none := by
    rw [heldAt_eq_none, heldAt_eq_none]
    by_cases here : other = entry
    · simp [here, update.here, atOld]
    · rw [update.elsewhere other here]
  rw [repr'.leaked_iff, repr.leaked_iff, ne_eq, same]

/-- What the cleanup of a call leaks is what it has in the table at a resize. -/
theorem Cache.CleanupTurn.survivors {gone : List Nat} (turn : table.CleanupTurn chains now cleaned chains' gone)
    (repr : table.Repr chains) (entry : Nat) : entry ∈ chains.flatten ∧ entry ∉ gone ↔
      table.Linked entry ∧ (table.cleanupDue now = true → table.survives now entry = true) := by
  rw [repr.linked_iff, turn.evicted entry]
  refine and_congr_right fun member => ?_
  simp only [member, true_and, not_and, Bool.not_eq_false]

theorem CacheUse.leaked_get {use next : CacheUse α} {key sweepTime accessTime : UInt64} {answer : Option (Option α)}
    (repr : use.table.Repr chains) (step : use.step (.get key sweepTime accessTime) = some (answer, next)) (entry : Nat) :
    next.table.Leaked entry ↔ use.table.Leaked entry ∨ use.table.Loses (.get key sweepTime accessTime) entry := by
  obtain ⟨cleaned, middle, gone, cleanup, turn⟩ := repr.cleanup_turn sweepTime
  obtain ⟨table', found, chains', run, repr', spec⟩ := turn.repr.getEntry_spec key accessTime
  have nextTable : next.table = table' := by
    simp only [CacheUse.step, sysmCacheGet, cleanup, run, Option.bind_eq_bind, Option.bind_some] at step
    obtain ⟨value, _, step⟩ := Option.bind_eq_some_iff.mp step
    cases step
    rfl
  have resizes := @Cache.Repr.getResizes_growsFor _ use.table cleaned middle key sweepTime turn.repr cleanup
  have stays := turn.survivors repr entry
  have sweeps : (∀ now ∈ (CacheCall.get key sweepTime accessTime : CacheCall α).sweepTime?,
      use.table.cleanupDue now = true → use.table.survives now entry = true) ↔
        (use.table.cleanupDue sweepTime = true → use.table.survives sweepTime entry = true) := by
    simp [CacheCall.sweepTime?]
  rw [nextTable, spec.leaked (getEntry_gets run) turn.repr repr' entry, turn.leaked repr entry, turn.linked entry,
    Cache.Loses, CacheCall.resizes, resizes, sweeps, stays]
  cases small : use.table.cleanupResizes sweepTime with
  | true => simp only [and_true, reduceCtorEq, and_false, false_and, or_false, true_or, true_and]
  | false =>
    simp only [reduceCtorEq, and_false, or_false, and_true, false_or]
    rw [and_right_comm, and_assoc]

theorem CacheUse.leaked_find {use next : CacheUse α} {key sweepTime accessTime : UInt64} {answer : Option (Option α)}
    (repr : use.table.Repr chains) (step : use.step (.find key sweepTime accessTime) = some (answer, next)) (entry : Nat) :
    next.table.Leaked entry ↔ use.table.Leaked entry ∨ use.table.Loses (.find key sweepTime accessTime) entry := by
  obtain ⟨cleaned, middle, gone, cleanup, turn⟩ := repr.cleanup_turn sweepTime
  have atEnd : next.table.Leaked entry ↔ cleaned.Leaked entry := by
    rcases turn.repr.findEntry_spec key accessTime with ⟨table', found, cell, find, _, atCell, update⟩ | ⟨find, _⟩
    · simp only [CacheUse.step, sysmCacheFind, cleanup, find, Option.bind_eq_bind, Option.bind_some] at step
      obtain ⟨value, _, step⟩ := Option.bind_eq_some_iff.mp step
      cases step
      exact update.leaked atCell turn.repr (turn.repr.updated update atCell rfl rfl) entry
    · simp only [CacheUse.step, sysmCacheFind, cleanup, find, Option.bind_eq_bind, Option.bind_some] at step
      cases step
      rfl
  have sweeps : (∀ now ∈ (CacheCall.find key sweepTime accessTime : CacheCall α).sweepTime?,
      use.table.cleanupDue now = true → use.table.survives now entry = true) ↔
        (use.table.cleanupDue sweepTime = true → use.table.survives sweepTime entry = true) := by
    simp [CacheCall.sweepTime?]
  rw [atEnd, turn.leaked repr entry, Cache.Loses, CacheCall.resizes, sweeps, turn.survivors repr entry, and_right_comm,
    and_assoc]

/-- Only a resize leaks entries: those in the table that its cleanup spares. -/
theorem CacheUse.leaked_step {use next : CacheUse α} {call : CacheCall α} {answer : Option (Option α)}
    (repr : use.table.Repr chains) (step : use.step call = some (answer, next)) (entry : Nat) :
    next.table.Leaked entry ↔ use.table.Leaked entry ∨ use.table.Loses call entry := by
  cases call with
  | get key sweepTime accessTime => exact CacheUse.leaked_get repr step entry
  | find key sweepTime accessTime => exact CacheUse.leaked_find repr step entry
  | store handle value =>
    have keeps : ¬ use.table.Loses (.store handle value) entry := fun loses => Bool.false_ne_true loses.2.1
    simp only [keeps, or_false]
    simp only [CacheUse.step] at step
    split at step
    · next found _ =>
        obtain ⟨table', store, step⟩ := Option.bind_eq_some_iff.mp step
        cases step
        obtain ⟨cell, atCell, _⟩ := Option.bind_eq_some_iff.mp store
        obtain ⟨stored, same, update⟩ := Cache.store_updated atCell value
        rw [store] at same
        cases same
        exact update.leaked atCell repr (repr.updated update atCell rfl rfl) entry
    · cases step
      rfl

/-- What `sysm_cache_destroy` does not give back is what is leaked. -/
theorem Cache.Repr.destroy_leaked (repr : table.Repr chains) : ∃ cells freed,
    sysmCacheDestroy table = some (cells, freed) ∧ ∀ entry, LinkedHeap.read cells entry ≠ none ↔ table.Leaked entry := by
  obtain ⟨cells, destroyed, _, left⟩ := repr.chained.destroy_spec
  refine ⟨cells, _, destroyed, fun entry => ?_⟩
  rw [repr.leaked_iff, left entry, ne_eq, ne_eq, heldAt_eq_none]
  by_cases member : entry ∈ chains.flatten
  · simp [member]
  · simp [member]

section Runs

variable (size : UInt32) (cleanUpPeriodMillis entryExpirePeriod created : UInt64)

/-- The entry was in the table at a resize, at some call of the run. -/
def LostIn (calls : List (CacheCall α)) (entry : Nat) : Prop :=
  ∃ before call after answers use, calls = before ++ call :: after ∧
    Machine.run CacheUse.step ⟨sysmExpiredCacheNew α size cleanUpPeriodMillis entryExpirePeriod created, []⟩ before =
      some (answers, use) ∧ use.table.Loses call entry

variable {size cleanUpPeriodMillis entryExpirePeriod created}

theorem lostIn_snoc {calls : List (CacheCall α)} {call : CacheCall α} {answers : List (Option (Option α))}
    {use : CacheUse α} (run : Machine.run CacheUse.step
      ⟨sysmExpiredCacheNew α size cleanUpPeriodMillis entryExpirePeriod created, []⟩ calls = some (answers, use))
    (entry : Nat) : LostIn size cleanUpPeriodMillis entryExpirePeriod created (calls ++ [call]) entry ↔
      LostIn size cleanUpPeriodMillis entryExpirePeriod created calls entry ∨ use.table.Loses call entry := by
  constructor
  · rintro ⟨before, other, after, answers', use', split, run', loses⟩
    rcases List.eq_nil_or_concat after with rfl | ⟨after, last, rfl⟩
    · obtain ⟨rfl, same⟩ := List.append_inj' split rfl
      cases same
      cases Option.some.inj (run.symm.trans run')
      exact Or.inr loses
    · rw [List.concat_eq_append, ← List.cons_append, ← List.append_assoc] at split
      obtain ⟨rfl, _⟩ := List.append_inj' split rfl
      exact Or.inl ⟨before, other, after, answers', use', rfl, run', loses⟩
  · rintro (⟨before, other, after, answers', use', rfl, run', loses⟩ | loses)
    · exact ⟨before, other, after ++ [call], answers', use', by simp, run', loses⟩
    · exact ⟨calls, call, [], answers, use, rfl, run, loses⟩

/-- What is leaked after a run has been lost at a resize on the way. -/
theorem run_leaked_iff (positive : 0 < size.toNat) {calls : List (CacheCall α)} {answers : List (Option (Option α))}
    {use : CacheUse α} (run : Machine.run CacheUse.step
      ⟨sysmExpiredCacheNew α size cleanUpPeriodMillis entryExpirePeriod created, []⟩ calls = some (answers, use)) :
    (∃ chains, use.table.Repr chains) ∧
      ∀ entry, use.table.Leaked entry ↔ LostIn size cleanUpPeriodMillis entryExpirePeriod created calls entry := by
  induction calls using List.reverseRecOn generalizing answers use with
  | nil =>
    cases Option.some.inj run
    refine ⟨⟨_, sysmExpiredCacheNew_repr size _ _ created positive⟩, fun entry => ?_⟩
    constructor
    · intro leaked
      exact absurd rfl leaked.1
    · rintro ⟨before, call, after, _, _, split, _⟩
      simp at split
  | append_singleton calls call ih =>
    obtain ⟨_, middle, answer, ran, step, _⟩ := Machine.run_snoc_iff.mp run
    obtain ⟨⟨chains, repr⟩, leaked⟩ := ih ran
    refine ⟨CacheUse.repr_step repr step, fun entry => ?_⟩
    rw [CacheUse.leaked_step repr step entry, leaked entry, lostIn_snoc ran entry]

/-- Over the whole life of a table, `sysm_cache_destroy` gives back every entry
except those that were in the table at a resize. -/
theorem sysmCacheDestroy_leaks_iff (positive : 0 < size.toNat) {calls : List (CacheCall α)}
    {answers : List (Option (Option α))} {use : CacheUse α} (run : Machine.run CacheUse.step
      ⟨sysmExpiredCacheNew α size cleanUpPeriodMillis entryExpirePeriod created, []⟩ calls = some (answers, use)) :
    ∃ cells freed, sysmCacheDestroy use.table = some (cells, freed) ∧ ∀ entry, LinkedHeap.read cells entry ≠ none ↔
      LostIn size cleanUpPeriodMillis entryExpirePeriod created calls entry := by
  obtain ⟨⟨chains, repr⟩, leaked⟩ := run_leaked_iff positive run
  obtain ⟨cells, freed, destroyed, left⟩ := repr.destroy_leaked
  exact ⟨cells, freed, destroyed, fun entry => (left entry).trans (leaked entry)⟩

/-- Two keys for one slot: the entry of the first is lost when the second comes. -/
theorem sysmCacheDestroy_twoKeys : ∃ answers use cells freed,
    Machine.run CacheUse.step ⟨sysmExpiredCacheNew Nat 1 (-1) (-1) 0, []⟩ [.get 7 0 0, .get 8 0 0] = some (answers, use) ∧
      sysmCacheDestroy use.table = some (cells, freed) ∧ ∀ entry, LinkedHeap.read cells entry ≠ none ↔
        LostIn 1 (-1) (-1) 0 ([.get 7 0 0, .get 8 0 0] : List (CacheCall Nat)) entry := by
  have runs : (Machine.run CacheUse.step ⟨sysmExpiredCacheNew Nat 1 (-1) (-1) 0, []⟩
      [.get 7 0 0, .get 8 0 0]).isSome = true := by decide +kernel
  obtain ⟨⟨answers, use⟩, run⟩ := Option.isSome_iff_exists.mp runs
  obtain ⟨cells, freed, destroyed, left⟩ := sysmCacheDestroy_leaks_iff (by decide) run
  exact ⟨answers, use, cells, freed, run, destroyed, left⟩

end Runs

end Sysm
