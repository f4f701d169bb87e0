import Sysm.CacheExpiry

namespace Sysm
open LinkedHeap

variable {α : Type} {table table' : Cache α} {chains : List (List Nat)}

/-- The `while (entry)` loop of `sysm_cache_destroy` over one chain. The link
is read before its entry is freed. -/
def destroyChain : Nat → Cache α → Option Nat → Option (Cache α)
  | _, table, none => some table
  | 0, _, some _ => none
  | fuel + 1, table, some entry => do
    let cell ← read table.cells entry
    let freed := { table with cells := free table.cells entry, freed := table.freed ++ cell.value.toList }
    destroyChain fuel freed cell.next

def destroySlot (table : Cache α) (slot : Nat) : Option (Cache α) := do
  let head ← table.deref (.slot slot)
  destroyChain table.cells.length table head

/-- `sysm_cache_destroy`, with the entries that are still allocated after it
and the values that have been handed to `free_value` in all. -/
def sysmCacheDestroy (table : Cache α) : Option (Heap (CacheEntry α) × List α) := do
  let table ← (List.range table.size.toNat).foldlM destroySlot table
  return (table.cells, table.freed)

/-- The values of these entries, in their order. -/
def Cache.valuesAt (table : Cache α) (entries : List Nat) : List α :=
  entries.flatMap fun entry => ((read table.cells entry).bind CacheEntry.value).toList

/-- The entries `gone` have been freed, each with its value. -/
structure Cache.Dropped (table table' : Cache α) (gone : List Nat) : Prop where
  entries : table'.entries = table.entries
  length : table'.cells.length = table.cells.length
  freed : table'.freed = table.freed ++ table.valuesAt gone
  cells : ∀ entry, read table'.cells entry = if entry ∈ gone then none else read table.cells entry

theorem Cache.Dropped.refl (table : Cache α) : table.Dropped table [] where
  entries := rfl
  length := rfl
  freed := by simp [Cache.valuesAt]
  cells := by simp

theorem Cache.Dropped.trans {middle : Cache α} {gone later : List Nat} (first : table.Dropped middle gone)
    (second : middle.Dropped table' later) (apart : ∀ entry ∈ later, entry ∉ gone) :
    table.Dropped table' (gone ++ later) where
  entries := second.entries.trans first.entries
  length := second.length.trans first.length
  freed := by
    have same : middle.valuesAt later = table.valuesAt later := by
      refine List.flatMap_congr fun entry member => ?_
      rw [first.cells entry, if_neg (apart entry member)]
    rw [second.freed, first.freed, same, Cache.valuesAt, Cache.valuesAt, Cache.valuesAt, List.flatMap_append,
      List.append_assoc]
  cells entry := by
    rw [second.cells entry, first.cells entry]
    by_cases late : entry ∈ later
    · simp [late]
    · simp [late]

/-- A chain off the freed entries is still there. -/
theorem Cache.Dropped.chain {gone : List Nat} (dropped : table.Dropped table' gone) {head : Option Nat}
    {chain : List Nat} (linked : Chain CacheEntry.next table.cells head chain)
    (apart : ∀ entry ∈ chain, entry ∉ gone) : Chain CacheEntry.next table'.cells head chain := by
  refine linked.congr fun entry member cell atCell => ⟨cell, ?_, rfl⟩
  rw [dropped.cells entry, if_neg (apart entry member), atCell]

theorem destroyChain_spec {start : Option Nat} {chain : List Nat}
    (linked : Chain CacheEntry.next table.cells start chain) {fuel : Nat} (enough : chain.length ≤ fuel) :
    ∃ table', destroyChain fuel table start = some table' ∧ table.Dropped table' chain := by
  induction chain generalizing table start fuel with
  | nil =>
    cases linked
    exact ⟨table, by cases fuel <;> rfl, .refl table⟩
  | cons entry rest ih =>
    have distinct := List.nodup_cons.mp linked.nodup
    cases linked with
    | @cons _ cell _ atCell tail =>
      obtain ⟨fuel, rfl⟩ : ∃ more, fuel = more + 1 := ⟨fuel - 1, by simp only [List.length_cons] at enough; omega⟩
      let freed := { table with cells := free table.cells entry, freed := table.freed ++ cell.value.toList }
      have first : table.Dropped freed [entry] := by
        refine ⟨rfl, length_free _ _, ?_, ?_⟩
        · simp [Cache.valuesAt, freed, atCell]
        · intro other
          by_cases same : other = entry
          · simp [freed, same, read_free_self]
          · simp [freed, same, read_free_other same]
      have behind : Chain CacheEntry.next freed.cells cell.next rest := tail.free_off distinct.1
      obtain ⟨table', run, dropped⟩ := ih behind (Nat.le_of_succ_le_succ enough)
      refine ⟨table', ?_, first.trans dropped ?_⟩
      · simp only [destroyChain, atCell, Option.bind_eq_bind, Option.bind_some]
        exact run
      · intro other member here
        rw [List.mem_singleton.mp here] at member
        exact distinct.1 member

/-- The chain of a slot. -/
def chainAt (chains : List (List Nat)) (slot : Nat) : List Nat := chains[slot]?.getD []

theorem flatMap_chainAt (chains : List (List Nat)) :
    (List.range chains.length).flatMap (chainAt chains) = chains.flatten := by
  have all : (List.range chains.length).map (chainAt chains) = chains := by
    apply List.ext_getElem
    · simp
    · intro i _ inChains
      simp [chainAt, inChains]
  rw [List.flatMap_def, all]

theorem Cache.Chained.destroySlots_spec (chained : table.Chained chains) {slots : List Nat}
    (inside : ∀ slot ∈ slots, slot < table.size.toNat) (distinct : slots.Nodup) {gone : List Nat}
    {middle : Cache α} (dropped : table.Dropped middle gone)
    (apart : ∀ slot ∈ slots, ∀ entry ∈ chainAt chains slot, entry ∉ gone) :
    ∃ table', slots.foldlM destroySlot middle = some table' ∧
      table.Dropped table' (gone ++ slots.flatMap (chainAt chains)) := by
  induction slots generalizing gone middle with
  | nil => exact ⟨middle, rfl, by simpa using dropped⟩
  | cons slot slots ih =>
    obtain ⟨head, chain, atHead, atChain, linked⟩ := chained.chain_at (inside slot (List.mem_cons_self ..))
    have here : chainAt chains slot = chain := by simp [chainAt, atChain]
    have off : ∀ entry ∈ chain, entry ∉ gone := by
      rw [← here]
      exact apart slot (List.mem_cons_self ..)
    have stays := dropped.chain linked off
    obtain ⟨next, run, more⟩ := destroyChain_spec stays stays.length_le
    have step : destroySlot middle slot = some next := by
      rw [destroySlot, Cache.deref, dropped.entries, atHead]
      exact run
    have both := dropped.trans more off
    have later := ih (fun other member => inside other (List.mem_cons_of_mem _ member)) (List.nodup_cons.mp distinct).2 both ?_
    · obtain ⟨table', rest, all⟩ := later
      refine ⟨table', ?_, ?_⟩
      · rw [List.foldlM_cons, step]
        exact rest
      · rw [List.flatMap_cons, here, ← List.append_assoc]
        exact all
    · intro other member entry inOther inBoth
      rcases List.mem_append.mp inBoth with early | inChain
      · exact apart other (List.mem_cons_of_mem _ member) entry inOther early
      · obtain ⟨_, chain', _, atOther, _⟩ := chained.chain_at (inside other (List.mem_cons_of_mem _ member))
        have there : entry ∈ chain' := by simpa [chainAt, atOther] using inOther
        have same := chained.same_slot atOther atChain there inChain
        rw [same] at member
        exact (List.nodup_cons.mp distinct).1 member

/-- Each entry in the chains is freed, once, with its value. -/
theorem Cache.Chained.destroy_spec (chained : table.Chained chains) :
    ∃ cells, sysmCacheDestroy table = some (cells, table.freed ++ table.valuesAt chains.flatten) ∧
      cells.length = table.cells.length ∧
      ∀ entry, read cells entry = if entry ∈ chains.flatten then none else read table.cells entry := by
  have inside : ∀ slot ∈ List.range table.size.toNat, slot < table.size.toNat := fun slot member => List.mem_range.mp member
  obtain ⟨table', run, dropped⟩ := chained.destroySlots_spec inside List.nodup_range (.refl table) (by simp)
  rw [List.nil_append, ← chained.buckets, flatMap_chainAt] at dropped
  refine ⟨table'.cells, ?_, dropped.length, dropped.cells⟩
  rw [sysmCacheDestroy, run, ← dropped.freed]
  rfl

end Sysm
