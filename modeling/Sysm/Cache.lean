import Sysm.Lib.LinkedHeap

namespace Sysm
open LinkedHeap

/-- `sysm_cache_entry_t`. A pointer is the address of the entry in the heap
of its table; a null `value` is `none`. -/
structure CacheEntry (α : Type) where
  next : Option Nat
  id : UInt64
  value : Option α
  lastAccessTime : UInt64
deriving Repr, DecidableEq

/-- `sysm_cache_t`, with the entries it has malloc'ed (`cells`) and the
values it has handed to `free_value` so far (`freed`, oldest first). -/
structure Cache (α : Type) where
  entries : List (Option Nat)
  count : UInt32
  size : UInt32
  entryExpirePeriod : UInt64
  cleanupPeriodMillis : UInt64
  lastCleanupTime : UInt64
  cells : Heap (CacheEntry α)
  freed : List α
deriving Repr, DecidableEq

/-- A `sysm_cache_entry_t **`: the place a chain link is stored in. -/
inductive Link where
  | slot (index : Nat)
  | next (entry : Nat)
deriving Repr, DecidableEq

variable {α : Type}

/-- `*ptr`. Reading outside the array or through a dangling pointer is a fault. -/
def Cache.deref (table : Cache α) : Link → Option (Option Nat)
  | .slot index => table.entries[index]?
  | .next entry => (read table.cells entry).map CacheEntry.next

/-- `*ptr = target` -/
def Cache.assign (table : Cache α) (target : Option Nat) : Link → Option (Cache α)
  | .slot index =>
    if index < table.entries.length then some { table with entries := table.entries.set index target } else none
  | .next entry => do
    let cell ← read table.cells entry
    return { table with cells := write table.cells entry { cell with next := target } }

def sysmExpiredCacheNew (α : Type) (size : UInt32) (cleanUpPeriodMillis entryExpirePeriod now : UInt64) : Cache α where
  entries := List.replicate size.toNat none
  count := 0
  size := size
  entryExpirePeriod := entryExpirePeriod
  cleanupPeriodMillis := cleanUpPeriodMillis
  lastCleanupTime := now
  cells := []
  freed := []

/-- Both periods are `-1` cast to 64 bits: the table is never cleaned up. -/
def sysmCacheNew (α : Type) (size : UInt32) (now : UInt64) : Cache α :=
  sysmExpiredCacheNew α size (-1) (-1) now

/-- `SYSM_CACHE_IX`: the place of the head of the chain of a key. -/
def Cache.ix (table : Cache α) (key : UInt64) : Link := .slot (key % table.size.toUInt64).toNat

/-- The `while (entry)` loop of `sysm_cache_rehash` over one old chain. The
new head `newEntries[hash]` becomes the successor of the entry; nothing is
stored back into `newEntries`. -/
def rehashChain (newEntries : List (Option Nat)) (newSize : UInt32) :
    Nat → Heap (CacheEntry α) → Option Nat → Option (Heap (CacheEntry α))
  | _, cells, none => some cells
  | 0, _, some _ => none
  | fuel + 1, cells, some entry => do
    let cell ← read cells entry
    let hash := cell.id % newSize.toUInt64
    let head ← newEntries[hash.toNat]?
    rehashChain newEntries newSize fuel (write cells entry { cell with next := head }) cell.next

def sysmCacheRehash (table : Cache α) : Option (Cache α) := do
  let newSize := table.count * 2 + 1
  let newEntries := List.replicate newSize.toNat none
  let cells ← table.entries.foldlM (rehashChain newEntries newSize table.cells.length) table.cells
  return { table with cells, entries := newEntries, size := newSize }

/-- The expired branch of the sweep: the value and the entry are freed. -/
def Cache.evict (table : Cache α) (entry : Nat) (cell : CacheEntry α) : Cache α :=
  { table with
    cells := free table.cells entry
    freed := table.freed ++ cell.value.toList
    count := table.count - 1 }

/-- The `while (entry)` loop of the sweep over the chain of one slot. `prev`
is `entry_prev`, the last survivor. -/
def sweepChain (currentTime : UInt64) (slot : Nat) :
    Nat → Cache α → Option Nat → Option Nat → Option (Cache α)
  | _, table, _, none => some table
  | 0, _, _, some _ => none
  | fuel + 1, table, prev, some entry => do
    let cell ← read table.cells entry
    if table.entryExpirePeriod < currentTime - cell.lastAccessTime then
      let unlinked ← (table.evict entry cell).assign cell.next (prev.elim (.slot slot) .next)
      sweepChain currentTime slot fuel unlinked prev cell.next
    else
      sweepChain currentTime slot fuel table (some entry) cell.next

/-- The sweep over the chain of one slot. -/
def sweepSlot (currentTime : UInt64) (table : Cache α) (slot : Nat) : Option (Cache α) := do
  let head ← table.deref (.slot slot)
  sweepChain currentTime slot table.cells.length table none head

/-- `sysm_perform_cleanup_if_necessary` up to its resize test. -/
def Cache.sweep (table : Cache α) (currentTime : UInt64) : Option (Cache α) :=
  (List.range table.size.toNat).foldlM (sweepSlot currentTime) { table with lastCleanupTime := currentTime }

/-- The cleanup is enabled, and the last one was long enough ago. -/
def Cache.cleanupDue (table : Cache α) (currentTime : UInt64) : Bool :=
  table.cleanupPeriodMillis != -1 && !decide (currentTime - table.lastCleanupTime < table.cleanupPeriodMillis)

def sysmPerformCleanupIfNecessary (table : Cache α) (currentTime : UInt64) : Option (Cache α) :=
  if table.cleanupDue currentTime then do
    let swept ← table.sweep currentTime
    if swept.count < swept.size / 4 then sysmCacheRehash swept else some swept
  else some table

/-- The chain scan of `sysm_cache_get` and `sysm_cache_find`: it ends at the
entry that passes `stop`, or at the null link that ends the chain. -/
def scanChain (table : Cache α) (stop : CacheEntry α → Bool) : Nat → Link → Option (Link × Option Nat)
  | fuel, ptr => do
    match ← table.deref ptr with
    | none => return (ptr, none)
    | some entry =>
      let cell ← read table.cells entry
      if stop cell then return (ptr, some entry)
      else match fuel with
        | 0 => none
        | fuel + 1 => scanChain table stop fuel (.next entry)

def Cache.touch (table : Cache α) (entry : Nat) (now : UInt64) : Option (Cache α) := do
  let cell ← read table.cells entry
  return { table with cells := write table.cells entry { cell with lastAccessTime := now } }

/-- An entry as `sysm_cache_get` fills it in right after malloc. -/
def CacheEntry.fresh (id accessTime : UInt64) : CacheEntry α where
  next := none
  id := id
  value := none
  lastAccessTime := accessTime

/-- The part of `sysm_cache_get` after the cleanup. The counter is raised
before the table is known to be large enough. -/
def Cache.getEntry (table : Cache α) (key accessTime : UInt64) : Option (Cache α × Nat) := do
  match ← scanChain table (fun cell => cell.id == key) table.cells.length (table.ix key) with
  | (_, some entry) => return (← table.touch entry accessTime, entry)
  | (ptr, none) =>
    let counted := { table with count := table.count + 1 }
    let (table, ptr) ← if counted.size < counted.count then do
        let table ← sysmCacheRehash counted
        let (ptr, _) ← scanChain table (fun _ => false) table.cells.length (table.ix key)
        pure (table, ptr)
      else pure (counted, ptr)
    let entry := table.cells.length
    return (← { table with cells := alloc table.cells (.fresh key accessTime) }.assign (some entry) ptr, entry)

/-- The part of `sysm_cache_find` after the cleanup. -/
def Cache.findEntry (table : Cache α) (key accessTime : UInt64) : Option (Cache α × Option Nat) := do
  match ← scanChain table (fun cell => cell.id == key) table.cells.length (table.ix key) with
  | (_, some entry) => return (← table.touch entry accessTime, some entry)
  | (_, none) => return (table, none)

/-- The two readings of the clock are `sweepTime`, taken by the cleanup, and
`accessTime`, stamped on the entry. -/
def sysmCacheGet (table : Cache α) (key sweepTime accessTime : UInt64) : Option (Cache α × Nat) := do
  (← sysmPerformCleanupIfNecessary table sweepTime).getEntry key accessTime

def sysmCacheFind (table : Cache α) (key sweepTime accessTime : UInt64) : Option (Cache α × Option Nat) := do
  (← sysmPerformCleanupIfNecessary table sweepTime).findEntry key accessTime

/-- The readings of the clock still to come. -/
abbrev Clock := Nat → UInt64

/-- The clock after the two readings of a lookup. -/
def Clock.later (clock : Clock) : Clock := fun i => clock (i + 2)

/-- `entry->value` -/
def Cache.value (table : Cache α) (entry : Nat) : Option (Option α) :=
  (read table.cells entry).map CacheEntry.value

/-- `entry->value = value`, by the caller through a pointer it was given. -/
def Cache.store (table : Cache α) (entry : Nat) (value : Option α) : Option (Cache α) := do
  let cell ← read table.cells entry
  return { table with cells := write table.cells entry { cell with value } }

end Sysm
