import Sysm.CacheLeaks
import Sysm.Lib.HeapContents

namespace Sysm
open LinkedHeap

variable {α : Type}

/-- The value of an entry, if it is not null. -/
def CacheEntry.values (cell : CacheEntry α) : List α := cell.value.toList

/-- The value that a call hands over to the table. -/
def CacheUse.handed (use : CacheUse α) : CacheCall α → List α
  | .store handle value =>
    match use.handles[handle]? with
    | some (some _) => value.toList
    | _ => []
  | _ => []

/-- The value that a call overwrites without freeing it. -/
def CacheUse.replaced (use : CacheUse α) : CacheCall α → List α
  | .store handle _ =>
    match use.handles[handle]? with
    | some (some entry) => viewAt CacheEntry.values use.table.cells entry
    | _ => []
  | _ => []

/-- A table in use, with all values that were handed over to it and all that
were overwritten. -/
structure Ledger (α : Type) where
  use : CacheUse α
  handed : List α
  replaced : List α

def Ledger.step (ledger : Ledger α) (call : CacheCall α) : Option (Option (Option α) × Ledger α) :=
  (ledger.use.step call).map fun (answer, use) =>
    (answer, ⟨use, ledger.handed ++ ledger.use.handed call, ledger.replaced ++ ledger.use.replaced call⟩)

/-- Each value that was handed over has been freed once, is in an allocated
entry, or has been overwritten. -/
def Ledger.Balanced (ledger : Ledger α) : Prop :=
  ledger.handed.Perm (ledger.use.table.freed ++ contents CacheEntry.values ledger.use.table.cells ++ ledger.replaced)

variable {table table' cleaned : Cache α} {chains chains' : List (List Nat)} {key now : UInt64}

theorem viewAt_values (cells : Heap (CacheEntry α)) (entry : Nat) :
    viewAt CacheEntry.values cells entry = ((heldAt cells entry).bind Prod.snd).toList := by
  unfold viewAt heldAt
  cases LinkedHeap.read cells entry with
  | none => rfl
  | some cell => rfl

theorem Cache.valuesAt_viewAt (table : Cache α) (entries : List Nat) :
    table.valuesAt entries = entries.flatMap (viewAt CacheEntry.values table.cells) := by
  rw [Cache.valuesAt_eq]
  exact List.flatMap_congr fun entry _ => (viewAt_values table.cells entry).symm

/-- What a table has freed and what it still holds. -/
def Cache.allValues (table : Cache α) : List α := table.freed ++ contents CacheEntry.values table.cells

/-- The cleanup frees what it no longer holds. -/
theorem Cache.CleanupTurn.allValues {gone : List Nat} (turn : table.CleanupTurn chains now cleaned chains' gone)
    (repr : table.Repr chains) : cleaned.allValues.Perm table.allValues := by
  have inside : ∀ entry ∈ gone, entry < table.cells.length := by
    intro entry member
    obtain ⟨cell, atCell⟩ := repr.allocated ((turn.evicted entry).mp member).2.1
    exact read_lt atCell
  have drop := @contents_drop _ _ CacheEntry.values table.cells cleaned.cells gone turn.distinct inside turn.length ?_
  · rw [Cache.allValues, turn.freed, Cache.valuesAt_viewAt, List.append_assoc]
    exact drop.symm.append_left _
  · intro entry
    rw [viewAt_values, viewAt_values, turn.held entry]
    split
    · rfl
    · rfl

theorem assign_freed {target : Option Nat} {ptr : Link} (run : table.assign target ptr = some table') :
    table'.freed = table.freed ∧ table'.cells.length = table.cells.length := by
  have swept := Cache.assign_swept run
  exact ⟨by simpa using swept.freed, swept.length⟩

theorem rehash_freed (run : sysmCacheRehash table = some table') : table'.freed = table.freed := by
  obtain ⟨cells, _, run⟩ := Option.bind_eq_some_iff.mp run
  cases run
  rfl

theorem touch_freed {entry : Nat} (run : table.touch entry now = some table') :
    table'.freed = table.freed ∧ table'.cells.length = table.cells.length := by
  obtain ⟨cell, _, run⟩ := Option.bind_eq_some_iff.mp run
  cases run
  exact ⟨rfl, by simp⟩

theorem Cache.allValues_congr (freed : table'.freed = table.freed) (length : table'.cells.length = table.cells.length)
    (held : heldAt table'.cells = heldAt table.cells) : table'.allValues = table.allValues := by
  have same : contents CacheEntry.values table'.cells = contents CacheEntry.values table.cells := by
    refine contents_congr length fun entry => ?_
    rw [viewAt_values, viewAt_values, held]
  rw [Cache.allValues, Cache.allValues, freed, same]

theorem touch_allValues {entry : Nat} (run : table.touch entry now = some table') :
    table'.allValues = table.allValues := by
  obtain ⟨freed, length⟩ := touch_freed run
  exact Cache.allValues_congr freed length (touch_heldAt run)

/-- A new entry has no value. -/
theorem insert_allValues {ptr : Link}
    (run : { table with cells := alloc table.cells (.fresh key now) }.assign (some table.cells.length) ptr = some table') :
    table'.allValues = table.allValues := by
  obtain ⟨freed, length⟩ := assign_freed run
  rw [Cache.allValues_congr freed length (assign_heldAt run), Cache.allValues, Cache.allValues, contents_alloc]
  simp [CacheEntry.values, CacheEntry.fresh]

theorem Cache.Repr.rehash_allValues (repr : table.Repr chains) (run : sysmCacheRehash table = some table') :
    table'.allValues = table.allValues := by
  obtain ⟨rehashed, again, _, _, _, length, _⟩ := sysmCacheRehash_spec repr
  rw [run] at again
  cases again
  exact Cache.allValues_congr (rehash_freed run) length (sysmCacheRehash_heldAt run)

theorem Cache.Repr.getEntry_allValues {entry : Nat} (repr : table.Repr chains)
    (run : table.getEntry key now = some (table', entry)) : table'.allValues = table.allValues := by
  obtain ⟨⟨ptr, found⟩, scan, run⟩ := Option.bind_eq_some_iff.mp run
  cases found with
  | some old =>
    obtain ⟨touched, touch, run⟩ := Option.bind_eq_some_iff.mp run
    cases run
    exact touch_allValues touch
  | none =>
    have counted : Cache.Repr { table with count := table.count + 1 } chains :=
      repr.congr rfl rfl fun _ cell atCell => ⟨cell, atCell, rfl, rfl⟩
    have inserted {middle : Cache α} {link : Link} (before : middle.allValues = table.allValues)
        (run : ({ middle with cells := alloc middle.cells (.fresh key now) }.assign (some middle.cells.length) link).bind
          (fun final => some (final, middle.cells.length)) = some (table', entry)) : table'.allValues = table.allValues := by
      obtain ⟨final, assigned, run⟩ := Option.bind_eq_some_iff.mp run
      cases run
      exact (insert_allValues assigned).trans before
    by_cases full : table.size < table.count + 1
    · simp only [full, if_true] at run
      obtain ⟨rehashed, rehash, run⟩ := Option.bind_eq_some_iff.mp run
      obtain ⟨⟨ptr', _⟩, _, run⟩ := Option.bind_eq_some_iff.mp run
      exact inserted (counted.rehash_allValues rehash) run
    · simp only [full, if_false] at run
      exact @inserted { table with count := table.count + 1 } ptr rfl run

theorem findEntry_allValues {found : Option Nat}
    (run : table.findEntry key now = some (table', found)) : table'.allValues = table.allValues := by
  obtain ⟨⟨ptr, stopped⟩, scan, run⟩ := Option.bind_eq_some_iff.mp run
  cases stopped with
  | some entry =>
    obtain ⟨touched, touch, run⟩ := Option.bind_eq_some_iff.mp run
    cases run
    exact touch_allValues touch
  | none =>
    cases run
    rfl

/-- A store swaps the value of its entry. -/
theorem store_allValues {entry : Nat} {value : Option α} (run : table.store entry value = some table') :
    (viewAt CacheEntry.values table.cells entry ++ table'.allValues).Perm (value.toList ++ table.allValues) := by
  obtain ⟨cell, atCell, run⟩ := Option.bind_eq_some_iff.mp run
  cases run
  have swap := @contents_write _ _ CacheEntry.values table.cells entry cell atCell { cell with value }
  rw [viewAt_of_read atCell, Cache.allValues, Cache.allValues, ← List.append_assoc, ← List.append_assoc]
  have moved : (cell.values ++ table.freed ++ contents CacheEntry.values (LinkedHeap.write table.cells entry { cell with value })).Perm
      (table.freed ++ (cell.values ++ contents CacheEntry.values (LinkedHeap.write table.cells entry { cell with value }))) := by
    rw [← List.append_assoc]
    exact List.perm_append_comm.append_right _
  refine moved.trans ((swap.append_left _).trans ?_)
  rw [← List.append_assoc]
  exact List.perm_append_comm.append_right _

/-- A lookup changes nothing about the values but that the cleanup frees some. -/
theorem CacheUse.lookup_allValues {use next : CacheUse α} {call : CacheCall α} {answer : Option (Option α)}
    (repr : use.table.Repr chains) (step : use.step call = some (answer, next)) (lookup : call.sweepTime? ≠ none) :
    next.table.allValues.Perm use.table.allValues := by
  cases call with
  | get key sweepTime accessTime =>
    obtain ⟨cleaned, middle, gone, cleanup, turn⟩ := repr.cleanup_turn sweepTime
    obtain ⟨⟨table', entry⟩, get, step⟩ := Option.bind_eq_some_iff.mp step
    obtain ⟨value, _, step⟩ := Option.bind_eq_some_iff.mp step
    cases step
    rw [sysmCacheGet, cleanup] at get
    rw [turn.repr.getEntry_allValues get]
    exact turn.allValues repr
  | find key sweepTime accessTime =>
    obtain ⟨cleaned, middle, gone, cleanup, turn⟩ := repr.cleanup_turn sweepTime
    obtain ⟨⟨table', found⟩, find, step⟩ := Option.bind_eq_some_iff.mp step
    have nextTable : next.table = table' := by
      cases found with
      | some entry =>
        obtain ⟨value, _, step⟩ := Option.bind_eq_some_iff.mp step
        cases step
        rfl
      | none =>
        cases step
        rfl
    rw [sysmCacheFind, cleanup] at find
    rw [nextTable, findEntry_allValues find]
    exact turn.allValues repr
  | store handle value => exact absurd rfl lookup

theorem CacheUse.store_allValues {use next : CacheUse α} {handle : Nat} {value : Option α} {answer : Option (Option α)}
    (step : use.step (.store handle value) = some (answer, next)) :
    (use.replaced (.store handle value) ++ next.table.allValues).Perm
      (use.handed (.store handle value) ++ use.table.allValues) := by
  rcases atHandle : use.handles[handle]? with _ | _ | entry
  · simp only [CacheUse.step, atHandle] at step
    cases step
    simp only [CacheUse.handed, CacheUse.replaced, atHandle]
    exact List.Perm.refl _
  · simp only [CacheUse.step, atHandle] at step
    cases step
    simp only [CacheUse.handed, CacheUse.replaced, atHandle]
    exact List.Perm.refl _
  · simp only [CacheUse.step, atHandle] at step
    obtain ⟨table', store, step⟩ := Option.bind_eq_some_iff.mp step
    cases step
    simp only [CacheUse.handed, CacheUse.replaced, atHandle]
    exact Sysm.store_allValues store

theorem Ledger.balanced_step {ledger next : Ledger α} {call : CacheCall α} {answer : Option (Option α)}
    (repr : ledger.use.table.Repr chains) (balanced : ledger.Balanced) (step : ledger.step call = some (answer, next)) :
    next.Balanced := by
  obtain ⟨⟨reply, use⟩, stepped, same⟩ := Option.map_eq_some_iff.mp step
  cases same
  have exchange : (ledger.use.replaced call ++ use.table.allValues).Perm
      (ledger.use.handed call ++ ledger.use.table.allValues) := by
    cases call with
    | get key sweepTime accessTime =>
      simpa only [CacheUse.handed, CacheUse.replaced, List.nil_append] using
        CacheUse.lookup_allValues repr stepped (by simp [CacheCall.sweepTime?])
    | find key sweepTime accessTime =>
      simpa only [CacheUse.handed, CacheUse.replaced, List.nil_append] using
        CacheUse.lookup_allValues repr stepped (by simp [CacheCall.sweepTime?])
    | store handle value => exact CacheUse.store_allValues stepped
  show (ledger.handed ++ ledger.use.handed call).Perm
    (use.table.allValues ++ (ledger.replaced ++ ledger.use.replaced call))
  calc ledger.handed ++ ledger.use.handed call
    _ |>.Perm (ledger.use.table.allValues ++ ledger.replaced ++ ledger.use.handed call) := balanced.append_right _
    _ |>.Perm (ledger.use.handed call ++ ledger.use.table.allValues ++ ledger.replaced) := by
      rw [List.append_assoc (ledger.use.handed call)]
      exact List.perm_append_comm
    _ |>.Perm (ledger.use.replaced call ++ use.table.allValues ++ ledger.replaced) := exchange.symm.append_right _
    _ |>.Perm (use.table.allValues ++ (ledger.replaced ++ ledger.use.replaced call)) := by
      rw [List.append_assoc, ← List.append_assoc use.table.allValues]
      exact List.perm_append_comm

section Runs

variable {size : UInt32} (positive : 0 < size.toNat) (cleanUpPeriodMillis entryExpirePeriod created : UInt64)
  {calls : List (CacheCall α)} {answers : List (Option (Option α))} {ledger : Ledger α}

include positive in
theorem run_balanced (run : Machine.run Ledger.step
    ⟨⟨sysmExpiredCacheNew α size cleanUpPeriodMillis entryExpirePeriod created, []⟩, [], []⟩ calls = some (answers, ledger)) :
    (∃ chains, ledger.use.table.Repr chains) ∧ ledger.Balanced := by
  refine @Machine.run_invariant _ _ _ Ledger.step _ _ calls answers
    (fun ledger => (∃ chains, ledger.use.table.Repr chains) ∧ ledger.Balanced) ?_ ?_ run
  · intro ledger call answer next before step
    obtain ⟨⟨chains, repr⟩, balanced⟩ := before
    obtain ⟨⟨reply, use⟩, stepped, same⟩ := Option.map_eq_some_iff.mp step
    refine ⟨?_, Ledger.balanced_step repr balanced step⟩
    cases same
    exact CacheUse.repr_step repr stepped
  · exact ⟨⟨_, sysmExpiredCacheNew_repr size _ _ created positive⟩, List.Perm.refl _⟩

/-- What `sysm_cache_destroy` frees it no longer holds. -/
theorem Cache.Repr.destroy_values (repr : table.Repr chains) {cells : Heap (CacheEntry α)} {freed : List α}
    (destroyed : sysmCacheDestroy table = some (cells, freed)) :
    table.allValues.Perm (freed ++ contents CacheEntry.values cells) := by
  obtain ⟨cells', again, length, left⟩ := repr.chained.destroy_spec
  rw [destroyed] at again
  cases again
  have inside : ∀ entry ∈ chains.flatten, entry < table.cells.length := by
    intro entry member
    obtain ⟨cell, atCell⟩ := repr.allocated member
    exact read_lt atCell
  have drop := @contents_drop _ _ CacheEntry.values table.cells cells chains.flatten repr.nodup inside length ?_
  · rw [Cache.valuesAt_viewAt, List.append_assoc]
    exact drop.append_left _
  · intro entry
    rw [viewAt, left entry]
    split
    · rfl
    · rfl

include positive in
/-- Every value that was ever handed over to a table has, once the table is
destroyed, been freed exactly once, or overwritten by its user, or is in an
entry that is never given back. -/
theorem sysmCacheDestroy_balances (run : Machine.run Ledger.step
    ⟨⟨sysmExpiredCacheNew α size cleanUpPeriodMillis entryExpirePeriod created, []⟩, [], []⟩ calls = some (answers, ledger)) :
    ∃ cells freed, sysmCacheDestroy ledger.use.table = some (cells, freed) ∧
      ledger.handed.Perm (freed ++ contents CacheEntry.values cells ++ ledger.replaced) := by
  obtain ⟨⟨chains, repr⟩, balanced⟩ := run_balanced positive cleanUpPeriodMillis entryExpirePeriod created run
  obtain ⟨cells, freed, destroyed, _⟩ := repr.destroy_leaked
  exact ⟨cells, freed, destroyed, balanced.trans ((repr.destroy_values destroyed).append_right _)⟩

end Runs

/-- Two keys for one slot: the value of the first is leaked, that of the second
is freed, and a third one has been overwritten. -/
theorem sysmCacheDestroy_twoValues : ∃ answers ledger cells freed,
    Machine.run Ledger.step ⟨⟨sysmExpiredCacheNew Nat 1 (-1) (-1) 0, []⟩, [], []⟩
      [.get 7 0 0, .store 0 (some 70), .get 8 0 0, .store 1 (some 80), .store 1 (some 81)] = some (answers, ledger) ∧
      sysmCacheDestroy ledger.use.table = some (cells, freed) ∧
        ledger.handed.Perm (freed ++ contents CacheEntry.values cells ++ ledger.replaced) := by
  have runs : (Machine.run Ledger.step ⟨⟨sysmExpiredCacheNew Nat 1 (-1) (-1) 0, []⟩, [], []⟩
      [.get 7 0 0, .store 0 (some 70), .get 8 0 0, .store 1 (some 80), .store 1 (some 81)]).isSome = true := by
    decide +kernel
  obtain ⟨⟨answers, ledger⟩, run⟩ := Option.isSome_iff_exists.mp runs
  obtain ⟨cells, freed, destroyed, balanced⟩ := sysmCacheDestroy_balances (by decide) (-1) (-1) 0 run
  exact ⟨answers, ledger, cells, freed, run, destroyed, balanced⟩

end Sysm
