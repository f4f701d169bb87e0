import Sysm.CacheRepr
import Sysm.Lib.FoldOption

namespace Sysm
open LinkedHeap

variable {α : Type} {table : Cache α} {chains : List (List Nat)}

/-- Cells that differ from the old ones in their links only. -/
def Relinked (cells cells' : Heap (CacheEntry α)) : Prop :=
  cells'.length = cells.length ∧ ∀ entry cell, read cells entry = some cell →
    ∃ link, read cells' entry = some { cell with next := link }

theorem Relinked.refl (cells : Heap (CacheEntry α)) : Relinked cells cells :=
  ⟨rfl, fun _ cell atCell => ⟨cell.next, atCell⟩⟩

theorem Relinked.trans {a b c : Heap (CacheEntry α)} (first : Relinked a b) (second : Relinked b c) :
    Relinked a c := by
  refine ⟨second.1.trans first.1, fun entry cell atCell => ?_⟩
  obtain ⟨_, atMiddle⟩ := first.2 entry cell atCell
  obtain ⟨link, atLast⟩ := second.2 entry _ atMiddle
  exact ⟨link, atLast⟩

theorem Relinked.write {cells : Heap (CacheEntry α)} {entry : Nat} {cell : CacheEntry α}
    (atCell : read cells entry = some cell) (link : Option Nat) :
    Relinked cells (write cells entry { cell with next := link }) := by
  refine ⟨length_write _ _ _, fun other old atOld => ?_⟩
  by_cases same : other = entry
  · subst other
    cases Option.some.inj (atCell.symm.trans atOld)
    exact ⟨link, read_write_self _ atCell⟩
  · exact ⟨old.next, by rw [read_write_other _ same, atOld]⟩

/-- The loop of the rehash over one chain reads the successor before it
overwrites the link, so it visits the whole chain. -/
theorem rehashChain_spec {newSize : UInt32} (positive : 0 < newSize.toNat) {cells : Heap (CacheEntry α)}
    {start : Option Nat} {chain : List Nat} (linked : Chain CacheEntry.next cells start chain)
    {fuel : Nat} (enough : chain.length ≤ fuel) :
    ∃ cells', rehashChain (List.replicate newSize.toNat none) newSize fuel cells start = some cells' ∧
      Relinked cells cells' ∧ ∀ entry, entry ∉ chain → read cells' entry = read cells entry := by
  induction chain generalizing cells start fuel with
  | nil =>
    cases linked
    exact ⟨cells, by cases fuel <;> rfl, .refl cells, fun _ _ => rfl⟩
  | cons entry rest ih =>
    have distinct := linked.nodup
    cases linked with
    | @cons _ cell _ atCell tail =>
      obtain ⟨fuel, rfl⟩ : ∃ n, fuel = n + 1 := ⟨fuel - 1, by simp only [List.length_cons] at enough; omega⟩
      have hash : (cell.id % newSize.toUInt64).toNat < newSize.toNat := by
        simp only [UInt64.toNat_mod, UInt32.toNat_toUInt64]
        exact Nat.mod_lt _ positive
      have head : (List.replicate newSize.toNat (none : Option Nat))[(cell.id % newSize.toUInt64).toNat]? =
          some none := by
        rw [List.getElem?_replicate, if_pos hash]
      have off : entry ∉ rest := (List.nodup_cons.mp distinct).1
      obtain ⟨cells', run, relinked, others⟩ := ih (tail.write_off { cell with next := none } off)
        (by simpa using enough)
      refine ⟨cells', ?_, (Relinked.write atCell none).trans relinked, ?_⟩
      · simp only [rehashChain, atCell, head, Option.bind_eq_bind, Option.bind_some]
        exact run
      · intro other outside
        simp only [List.mem_cons, not_or] at outside
        rw [others other outside.2, read_write_other _ outside.1]

theorem rehash_foldlM {newSize : UInt32} (positive : 0 < newSize.toNat) {entries : List (Option Nat)}
    {cells : Heap (CacheEntry α)} {fuel : Nat} (linked : List.Forall₂ (Chain CacheEntry.next cells) entries chains)
    (distinct : chains.flatten.Nodup) (enough : ∀ chain ∈ chains, chain.length ≤ fuel) :
    ∃ cells', entries.foldlM (rehashChain (List.replicate newSize.toNat none) newSize fuel) cells = some cells' ∧
      Relinked cells cells' := by
  induction entries generalizing cells chains with
  | nil => exact ⟨cells, rfl, .refl cells⟩
  | cons head entries ih =>
    cases linked with
    | @cons _ chain _ rest first later =>
      simp only [List.flatten_cons, List.nodup_append'] at distinct
      obtain ⟨cells₁, run₁, relinked₁, others⟩ :=
        rehashChain_spec positive first (enough chain (List.mem_cons_self ..))
      have later' : List.Forall₂ (Chain CacheEntry.next cells₁) entries rest := by
        refine List.forall₂_iff_get.mpr ⟨later.length_eq, fun i iBound jBound => ?_⟩
        refine (List.Forall₂.get later iBound jBound).congr fun entry member cell atCell => ?_
        have off : entry ∉ chain := fun inChain =>
          distinct.2.2 inChain (List.mem_flatten.mpr ⟨_, List.get_mem rest ⟨i, jBound⟩, member⟩)
        exact ⟨cell, by rw [others entry off, atCell], rfl⟩
      obtain ⟨cells₂, run₂, relinked₂⟩ := ih later' distinct.2.1
        fun chain member => enough chain (List.mem_cons_of_mem _ member)
      exact ⟨cells₂, FoldOption.foldlM_cons_iff.mpr ⟨cells₁, run₁, run₂⟩, relinked₁.trans relinked₂⟩

/-- A table with an empty array represents empty chains, whatever is left in
its memory. -/
theorem Cache.Repr.empty (slots : table.entries = List.replicate table.size.toNat none)
    (positive : 0 < table.size.toNat) : table.Repr (List.replicate table.size.toNat []) where
  positive := positive
  slots := by rw [slots, List.length_replicate]
  buckets := List.length_replicate
  linked i head chain atHead atChain := by
    rw [slots] at atHead
    simp only [List.getElem?_replicate, Option.ite_none_right_eq_some, Option.some.injEq] at atHead atChain
    obtain ⟨_, rfl⟩ := atHead
    obtain ⟨_, rfl⟩ := atChain
    exact .nil
  placed i chain atChain entry member := by
    simp only [List.getElem?_replicate, Option.ite_none_right_eq_some, Option.some.injEq] at atChain
    obtain ⟨_, rfl⟩ := atChain
    simp at member
  keyed entry member := by simp at member

theorem Relinked.keeps {table' : Cache α} (relinked : Relinked table.cells table'.cells)
    (period : table'.cleanupPeriodMillis = table.cleanupPeriodMillis)
    (expire : table'.entryExpirePeriod = table.entryExpirePeriod) : table.Keeps table' where
  period := period
  expire := expire
  kept entry cell atCell := by
    obtain ⟨link, atNew⟩ := relinked.2 entry cell atCell
    exact ⟨_, atNew, rfl, rfl, rfl⟩

/-- The rehash loses every entry: the new array is empty, and the entries are
left behind in memory with their links cleared. -/
theorem sysmCacheRehash_spec (repr : table.Repr chains) :
    ∃ table', sysmCacheRehash table = some table' ∧ table'.Repr (List.replicate table'.size.toNat []) ∧
      table'.size = table.count * 2 + 1 ∧ table'.count = table.count ∧
      table'.cells.length = table.cells.length ∧ table.Keeps table' := by
  have positive : 0 < (table.count * 2 + 1).toNat := by
    simp only [UInt32.toNat_add, UInt32.toNat_mul, UInt32.reduceToNat]
    omega
  have linked : List.Forall₂ (Chain CacheEntry.next table.cells) table.entries chains := by
    refine List.forall₂_iff_get.mpr ⟨by rw [repr.slots, repr.buckets], fun i iBound jBound => ?_⟩
    exact repr.linked i _ _ (List.getElem?_eq_getElem iBound) (List.getElem?_eq_getElem jBound)
  have enough : ∀ chain ∈ chains, chain.length ≤ table.cells.length := by
    intro chain member
    obtain ⟨i, bound, rfl⟩ := List.mem_iff_getElem.mp member
    have inEntries : i < table.entries.length := by rw [repr.slots, ← repr.buckets]; exact bound
    exact (List.Forall₂.get linked inEntries bound).length_le
  obtain ⟨cells', run, relinked⟩ := rehash_foldlM positive linked repr.nodup enough
  refine ⟨{ table with
    cells := cells', size := table.count * 2 + 1
    entries := List.replicate (table.count * 2 + 1).toNat none }, ?_, .empty rfl positive, rfl, rfl, relinked.1,
    relinked.keeps rfl rfl⟩
  simp only [sysmCacheRehash, run, Option.bind_eq_bind, Option.bind_some, Option.pure_def]

theorem sysmExpiredCacheNew_repr (size : UInt32) (period expire now : UInt64) (positive : 0 < size.toNat) :
    (sysmExpiredCacheNew α size period expire now).Repr (List.replicate size.toNat []) :=
  .empty rfl positive

theorem Cache.Repr.mem_grow {i : Nat} {chain : List Nat} (atChain : chains[i]? = some chain) (new entry : Nat) :
    entry ∈ (chains.set i (chain ++ [new])).flatten ↔ entry = new ∨ entry ∈ chains.flatten := by
  rw [(flatten_set_append atChain new).mem_iff, List.mem_cons]

/-- The cell that an entry had before. -/
theorem Cache.Keeps.before {table' : Cache α} (keeps : table.Keeps table') (repr : table.Repr chains) {entry : Nat}
    {cell' : CacheEntry α} (member : entry ∈ chains.flatten) (atCell' : read table'.cells entry = some cell') :
    ∃ cell, read table.cells entry = some cell ∧ cell'.id = cell.id ∧ cell'.value = cell.value ∧
      cell'.lastAccessTime = cell.lastAccessTime := by
  obtain ⟨cell, atCell⟩ := repr.allocated member
  obtain ⟨after, atAfter, same⟩ := keeps.kept entry cell atCell
  cases Option.some.inj (atAfter.symm.trans atCell')
  exact ⟨cell, atCell, same⟩

/-- A new entry whose key is not in its bucket yet may be hung at the end of
the chain of that bucket. -/
theorem Cache.Repr.grow (repr : table.Repr chains) {table' : Cache α} {i new : Nat} {chain : List Nat}
    {cell : CacheEntry α} (atChain : chains[i]? = some chain) (size : table'.size = table.size)
    (slots : table'.entries.length = table.entries.length)
    (here : ∀ head, table'.entries[i]? = some head → Chain CacheEntry.next table'.cells head (chain ++ [new]))
    (elsewhere : ∀ (j : Nat) head old, j ≠ i → table'.entries[j]? = some head → chains[j]? = some old →
      Chain CacheEntry.next table'.cells head old)
    (keeps : table.Keeps table') (atNew : read table'.cells new = some cell)
    (home : (cell.id % table.size.toUInt64).toNat = i)
    (fresh : ∀ entry ∈ chain, ∀ old, read table.cells entry = some old → old.id ≠ cell.id) :
    table'.Repr (chains.set i (chain ++ [new])) where
  positive := by rw [size]; exact repr.positive
  slots := by rw [size, slots]; exact repr.slots
  buckets := by rw [size, List.length_set]; exact repr.buckets
  linked j head found atHead atFound := by
    by_cases same : j = i
    · subst j
      rw [List.getElem?_set_self (List.getElem?_eq_some_iff.mp atChain).1] at atFound
      cases Option.some.inj atFound
      exact here head atHead
    · rw [List.getElem?_set_ne (Ne.symm same)] at atFound
      exact elsewhere j head found same atHead atFound
  placed j found atFound entry member cell' atCell' := by
    rw [size]
    have old (other : List Nat) (atOther : chains[j]? = some other) (inOther : entry ∈ other) :
        (cell'.id % table.size.toUInt64).toNat = j := by
      obtain ⟨before, atBefore, id, _⟩ := keeps.before repr (mem_flatten atOther inOther) atCell'
      rw [id]
      exact repr.placed j other atOther entry inOther before atBefore
    by_cases same : j = i
    · subst j
      rw [List.getElem?_set_self (List.getElem?_eq_some_iff.mp atChain).1] at atFound
      cases Option.some.inj atFound
      rcases List.mem_append.mp member with inChain | last
      · exact old chain atChain inChain
      · cases List.mem_singleton.mp last
        cases Option.some.inj (atNew.symm.trans atCell')
        exact home
    · rw [List.getElem?_set_ne (Ne.symm same)] at atFound
      exact old found atFound member
  keyed entry member other member' cell₁ cell₂ atCell₁ atCell₂ same := by
    have apart (address : Nat) (inside : address ∈ chains.flatten) (found : CacheEntry α)
        (atFound : read table'.cells address = some found) : found.id ≠ cell.id := by
      intro id
      obtain ⟨before, atBefore, kept, _⟩ := keeps.before repr inside atFound
      have sameKey := kept.symm.trans id
      have inChain := repr.mem_bucket inside atBefore (by rw [sameKey, home]; exact atChain)
      exact fresh address inChain before atBefore sameKey
    rcases (mem_grow atChain new entry).mp member with rfl | inside
    · cases Option.some.inj (atNew.symm.trans atCell₁)
      rcases (mem_grow atChain entry other).mp member' with rfl | inside'
      · rfl
      · exact absurd same.symm (apart other inside' cell₂ atCell₂)
    · rcases (mem_grow atChain new other).mp member' with rfl | inside'
      · cases Option.some.inj (atNew.symm.trans atCell₂)
        exact absurd same (apart entry inside cell₁ atCell₁)
      · obtain ⟨old₁, atOld₁, id₁, _⟩ := keeps.before repr inside atCell₁
        obtain ⟨old₂, atOld₂, id₂, _⟩ := keeps.before repr inside' atCell₂
        exact repr.keyed entry inside other inside' old₁ old₂ atOld₁ atOld₂
          (id₁.symm.trans (same.trans id₂))

/-- What hanging the new entry `new` at the end of a chain does to a table. -/
structure Cache.Inserted (table table' : Cache α) (new : Nat) (cell : CacheEntry α) : Prop extends table.Keeps table' where
  size : table'.size = table.size
  count : table'.count = table.count
  atNew : read table'.cells new = some cell

theorem Cache.Repr.insert (repr : table.Repr chains) {i : Nat} {chain : List Nat} (cell : CacheEntry α)
    (atChain : chains[i]? = some chain) (link : cell.next = none)
    (home : (cell.id % table.size.toUInt64).toNat = i)
    (fresh : ∀ entry ∈ chain, ∀ old, read table.cells entry = some old → old.id ≠ cell.id) :
    ∃ table', { table with cells := alloc table.cells cell }.assign (some table.cells.length)
        (endLink (.slot i) chain) = some table' ∧
      table'.Repr (chains.set i (chain ++ [table.cells.length])) ∧
      table.Inserted table' table.cells.length cell := by
  have bound : i < table.entries.length := by
    rw [repr.slots, ← repr.buckets]
    exact (List.getElem?_eq_some_iff.mp atChain).1
  have tail : Chain CacheEntry.next (alloc table.cells cell) (some table.cells.length) [table.cells.length] :=
    .cons (read_alloc_new table.cells cell) (by rw [link]; exact .nil)
  have old (j : Nat) (head : Option Nat) (found : List Nat) (atHead : table.entries[j]? = some head)
      (atFound : chains[j]? = some found) : Chain CacheEntry.next (alloc table.cells cell) head found :=
    (repr.linked j head found atHead atFound).alloc cell
  rcases List.eq_nil_or_concat chain with rfl | ⟨front, last, rfl⟩
  · -- an empty chain: the array slot itself is set
    have keeps : table.Inserted { table with
        cells := alloc table.cells cell, entries := table.entries.set i (some table.cells.length) }
        table.cells.length cell :=
      { period := rfl, expire := rfl, size := rfl, count := rfl, atNew := read_alloc_new table.cells cell
        kept := fun entry found atFound => ⟨found, read_alloc_old cell atFound, rfl, rfl, rfl⟩ }
    refine ⟨_, by simp only [endLink, Cache.assign, if_pos bound], ?_, keeps⟩
    refine repr.grow atChain rfl (by simp) ?_ ?_ keeps.toKeeps keeps.atNew home fresh
    · intro head atHead
      rw [List.getElem?_set_self bound] at atHead
      cases Option.some.inj atHead
      exact tail
    · intro j head found different atHead atFound
      rw [List.getElem?_set_ne (Ne.symm different)] at atHead
      exact old j head found atHead atFound
  · -- a longer chain: the link of its last entry is set
    simp only [List.concat_eq_append] at atChain fresh ⊢
    have inFront : last ∈ front ++ [last] := by simp
    obtain ⟨before, atBefore⟩ := repr.allocated (mem_flatten atChain inFront)
    have atLast := read_alloc_old cell atBefore
    have different : last ≠ table.cells.length := Nat.ne_of_lt (read_lt atBefore)
    have keeps : table.Inserted { table with
        cells := write (alloc table.cells cell) last { before with next := some table.cells.length } }
        table.cells.length cell :=
      { period := rfl, expire := rfl, size := rfl, count := rfl
        atNew := by rw [read_write_other _ (Ne.symm different), read_alloc_new]
        kept := fun entry found atFound => by
          by_cases same : entry = last
          · subst entry
            cases Option.some.inj (atBefore.symm.trans atFound)
            exact ⟨_, read_write_self _ atLast, rfl, rfl, rfl⟩
          · exact ⟨found, by rw [read_write_other _ same, read_alloc_old cell atFound], rfl, rfl, rfl⟩ }
    refine ⟨_, ?_, ?_, keeps⟩
    · simp only [endLink_append_singleton, Cache.assign, atLast, Option.bind_eq_bind, Option.bind_some,
        Option.pure_def]
    · refine repr.grow atChain rfl rfl ?_ ?_ keeps.toKeeps keeps.atNew home fresh
      · intro head atHead
        have link : CacheEntry.next { before with next := some table.cells.length } = some table.cells.length := rfl
        have joined := (old i head _ atHead atChain).relink atLast link tail (by simpa using different)
        simpa using joined
      · intro j head found apart atHead atFound
        refine (old j head found atHead atFound).write_off _ fun inFound => ?_
        have home₁ := repr.placed j found atFound last inFound before atBefore
        have home₂ := repr.placed i _ atChain last inFront before atBefore
        omega

/-- The entries that carry `key`, as far as the chains reach them. -/
def Cache.Holds (table : Cache α) (chains : List (List Nat)) (key : UInt64) (entry : Nat) : Prop :=
  entry ∈ chains.flatten ∧ ∃ cell, read table.cells entry = some cell ∧ cell.id = key

theorem Cache.Repr.holds_unique (repr : table.Repr chains) {key : UInt64} {entry other : Nat}
    (holds : table.Holds chains key entry) (holds' : table.Holds chains key other) : entry = other := by
  obtain ⟨member, cell, atCell, id⟩ := holds
  obtain ⟨member', cell', atCell', id'⟩ := holds'
  exact repr.keyed entry member other member' cell cell' atCell atCell' (id.trans id'.symm)

/-- The scan for a key finds the entry of the key in its bucket, wherever it is in the chain. -/
theorem Cache.Repr.scan_key (repr : table.Repr chains) (key : UInt64) :
    ∃ chain, chains[(key % table.size.toUInt64).toNat]? = some chain ∧
      ((∃ entry ptr, table.Holds chains key entry ∧
          scanChain table (fun cell => cell.id == key) table.cells.length (table.ix key) = some (ptr, some entry)) ∨
        ((∀ entry, ¬ table.Holds chains key entry) ∧
          (∀ entry ∈ chain, ∀ cell, read table.cells entry = some cell → cell.id ≠ key) ∧
          scanChain table (fun cell => cell.id == key) table.cells.length (table.ix key) =
            some (endLink (table.ix key) chain, none))) := by
  obtain ⟨head, chain, atHead, atChain, linked⟩ := repr.bucket key
  refine ⟨chain, atChain, ?_⟩
  rcases scanChain_spec (fun cell => cell.id == key) linked atHead linked.length_le with
    ⟨before, entry, after, cell, split, atCell, same, run⟩ | ⟨missing, run⟩
  · have member : entry ∈ chain := by rw [split]; simp
    exact Or.inl ⟨entry, _, ⟨mem_flatten atChain member, cell, atCell, by simpa using same⟩, run⟩
  · have absent : ∀ entry ∈ chain, ∀ cell, read table.cells entry = some cell → cell.id ≠ key := by
      intro entry member cell atCell
      simpa using missing entry member cell atCell
    refine Or.inr ⟨?_, absent, run⟩
    rintro entry ⟨member, cell, atCell, id⟩
    exact absent entry (repr.mem_bucket member atCell (by rw [id]; exact atChain)) cell atCell id

/-- What stamping an entry, or storing a value in it, does to a table. -/
structure Cache.Updated (table table' : Cache α) (entry : Nat) (cell : CacheEntry α) : Prop where
  same : table' = { table with cells := table'.cells }
  here : read table'.cells entry = some cell
  elsewhere : ∀ other, other ≠ entry → read table'.cells other = read table.cells other

theorem Cache.updated_write {entry : Nat} {old : CacheEntry α} (cell : CacheEntry α)
    (atOld : read table.cells entry = some old) :
    table.Updated { table with cells := write table.cells entry cell } entry cell :=
  ⟨rfl, read_write_self cell atOld, fun _ different => read_write_other cell different⟩

theorem Cache.Repr.updated (repr : table.Repr chains) {table' : Cache α} {entry : Nat} {old cell : CacheEntry α}
    (update : table.Updated table' entry cell) (atOld : read table.cells entry = some old)
    (link : cell.next = old.next) (id : cell.id = old.id) : table'.Repr chains := by
  refine repr.congr (by rw [update.same]) (by rw [update.same]) fun other found atFound => ?_
  by_cases here : other = entry
  · subst other
    cases Option.some.inj (atOld.symm.trans atFound)
    exact ⟨cell, update.here, link, id⟩
  · exact ⟨found, by rw [update.elsewhere other here, atFound], rfl, rfl⟩

theorem Cache.touch_updated {entry : Nat} {cell : CacheEntry α} (atCell : read table.cells entry = some cell)
    (now : UInt64) : ∃ table', table.touch entry now = some table' ∧
      table.Updated table' entry { cell with lastAccessTime := now } := by
  refine ⟨_, ?_, updated_write _ atCell⟩
  simp only [Cache.touch, atCell, Option.bind_eq_bind, Option.bind_some, Option.pure_def]

theorem Cache.store_updated {entry : Nat} {cell : CacheEntry α} (atCell : read table.cells entry = some cell)
    (value : Option α) : ∃ table', table.store entry value = some table' ∧
      table.Updated table' entry { cell with value } := by
  refine ⟨_, ?_, updated_write _ atCell⟩
  simp only [Cache.store, atCell, Option.bind_eq_bind, Option.bind_some, Option.pure_def]

theorem Cache.Repr.findEntry_spec (repr : table.Repr chains) (key now : UInt64) :
    (∃ table' entry cell, table.findEntry key now = some (table', some entry) ∧ table.Holds chains key entry ∧
        read table.cells entry = some cell ∧ table.Updated table' entry { cell with lastAccessTime := now }) ∨
      (table.findEntry key now = some (table, none) ∧ ∀ entry, ¬ table.Holds chains key entry) := by
  obtain ⟨chain, _, ⟨entry, ptr, holds, run⟩ | ⟨absent, _, run⟩⟩ := repr.scan_key key
  · obtain ⟨cell, atCell⟩ := repr.allocated holds.1
    obtain ⟨table', stamp, update⟩ := touch_updated atCell now
    refine Or.inl ⟨table', entry, cell, ?_, holds, atCell, update⟩
    simp only [Cache.findEntry, run, stamp, Option.bind_eq_bind, Option.bind_some, Option.pure_def]
  · refine Or.inr ⟨?_, absent⟩
    simp only [Cache.findEntry, run, Option.bind_eq_bind, Option.bind_some, Option.pure_def]

/-- What `sysm_cache_get` does after the cleanup: it stamps the entry of the
key, hangs a new one at the end of its chain, or, when the counter passes the
size, empties the table first. -/
inductive Cache.GetSpec (table : Cache α) (chains : List (List Nat)) (key now : UInt64) (table' : Cache α)
    (entry : Nat) : List (List Nat) → Prop
  | hit {cell} : table.Holds chains key entry → read table.cells entry = some cell →
      table.Updated table' entry { cell with lastAccessTime := now } →
      GetSpec table chains key now table' entry chains
  | grow {chain} : (∀ other, ¬ table.Holds chains key other) → table.count + 1 ≤ table.size →
      chains[(key % table.size.toUInt64).toNat]? = some chain → table'.size = table.size →
      table'.count = table.count + 1 → table.Keeps table' →
      read table'.cells entry = some (.fresh key now) →
      read table.cells entry = none →
      GetSpec table chains key now table' entry (chains.set (key % table.size.toUInt64).toNat (chain ++ [entry]))
  | rehash : (∀ other, ¬ table.Holds chains key other) → table.size < table.count + 1 →
      table'.size = (table.count + 1) * 2 + 1 → table'.count = table.count + 1 → table.Keeps table' →
      read table'.cells entry = some (.fresh key now) →
      read table.cells entry = none →
      GetSpec table chains key now table' entry
        ((List.replicate table'.size.toNat []).set (key % table'.size.toUInt64).toNat [entry])

theorem Cache.Repr.getEntry_spec (repr : table.Repr chains) (key now : UInt64) :
    ∃ table' entry chains', table.getEntry key now = some (table', entry) ∧ table'.Repr chains' ∧
      table.GetSpec chains key now table' entry chains' := by
  obtain ⟨chain, atChain, ⟨entry, ptr, holds, run⟩ | ⟨absent, fresh, run⟩⟩ := repr.scan_key key
  · obtain ⟨cell, atCell⟩ := repr.allocated holds.1
    obtain ⟨table', stamp, update⟩ := touch_updated atCell now
    refine ⟨table', entry, chains, ?_, repr.updated update atCell rfl rfl, .hit holds atCell update⟩
    simp only [Cache.getEntry, run, stamp, Option.bind_eq_bind, Option.bind_some, Option.pure_def]
  have unused (cells : Heap (CacheEntry α)) : LinkedHeap.read cells cells.length = none := by simp [LinkedHeap.read]
  have counted : Cache.Repr { table with count := table.count + 1 } chains :=
    repr.congr rfl rfl fun _ cell atCell => ⟨cell, atCell, rfl, rfl⟩
  have raised : table.Keeps { table with count := table.count + 1 } :=
    ⟨rfl, rfl, fun _ cell atCell => ⟨cell, atCell, rfl, rfl, rfl⟩⟩
  by_cases full : table.size < table.count + 1
  · obtain ⟨emptied, rehashed, emptyRepr, size, count, length, keeps⟩ := sysmCacheRehash_spec counted
    obtain ⟨head, last, atHead, atNone, linked⟩ := emptyRepr.bucket key
    have slot := atNone
    simp only [List.getElem?_replicate, Option.ite_none_right_eq_some, Option.some.injEq] at slot
    obtain ⟨_, rfl⟩ := slot
    have scan := scanChain_spec (fun _ => false) linked atHead linked.length_le
    simp only [List.nil_eq_append_iff, reduceCtorEq, and_false, false_and, exists_false, false_or] at scan
    obtain ⟨table', inserted, repr', spec⟩ := emptyRepr.insert (.fresh key now) atNone rfl rfl (by simp)
    refine ⟨table', emptied.cells.length, _, ?_, repr', ?_⟩
    · simp only [Cache.getEntry, run, full, if_true, rehashed, scan.2, Option.bind_eq_bind, Option.bind_some,
        Option.pure_def]
      rw [show emptied.ix key = .slot (key % emptied.size.toUInt64).toNat from rfl, inserted]
      rfl
    · rw [← spec.size]
      refine .rehash absent full ?_ ?_ ?_ spec.atNew ?_
      · rw [spec.size, size]
      · rw [spec.count, count]
      · exact raised.trans (keeps.trans spec.toKeeps)
      · rw [length]
        exact unused table.cells
  · obtain ⟨table', inserted, repr', spec⟩ := counted.insert (.fresh key now) atChain rfl rfl fresh
    refine ⟨table', table.cells.length, _, ?_, repr', ?_⟩
    · simp only [Cache.getEntry, run, full, if_false, Option.bind_eq_bind, Option.bind_some, Option.pure_def]
      rw [show table.ix key = .slot (key % table.size.toUInt64).toNat from rfl, inserted]
      rfl
    · exact .grow absent (by simpa using full) atChain spec.size spec.count
        (raised.trans spec.toKeeps) spec.atNew (unused table.cells)

section Holds

variable {table' : Cache α}

theorem Cache.Updated.holds_iff {entry : Nat} {old cell : CacheEntry α} (update : table.Updated table' entry cell)
    (atOld : read table.cells entry = some old) (id : cell.id = old.id) (key : UInt64) (other : Nat) :
    table'.Holds chains key other ↔ table.Holds chains key other := by
  unfold Cache.Holds
  by_cases same : other = entry
  · subst other
    simp only [update.here, atOld, Option.some.injEq, exists_eq_left', id]
  · rw [update.elsewhere other same]

theorem Cache.Updated.value {entry : Nat} {cell : CacheEntry α} (update : table.Updated table' entry cell)
    (other : Nat) : table'.value other = if other = entry then some cell.value else table.value other := by
  unfold Cache.value
  split
  · rename_i same
    rw [same, update.here]
    rfl
  · rename_i different
    rw [update.elsewhere other different]

theorem Cache.Keeps.value (keeps : table.Keeps table') {entry : Nat} {cell : CacheEntry α}
    (atCell : read table.cells entry = some cell) : table'.value entry = table.value entry := by
  obtain ⟨cell', atCell', _, value, _⟩ := keeps.kept entry cell atCell
  simp only [Cache.value, atCell, atCell', Option.map_some, value]

/-- A table that gained one entry holds the old keys and the new one. -/
theorem Cache.Repr.holds_grow (repr : table.Repr chains) (keeps : table.Keeps table') {i new : Nat}
    {chain : List Nat} {cell : CacheEntry α} (atChain : chains[i]? = some chain)
    (atNew : read table'.cells new = some cell) (unused : read table.cells new = none) (key : UInt64) (entry : Nat) :
    table'.Holds (chains.set i (chain ++ [new])) key entry ↔
      table.Holds chains key entry ∨ (entry = new ∧ key = cell.id) := by
  unfold Cache.Holds
  rw [mem_grow atChain]
  constructor
  · rintro ⟨rfl | member, found, atFound, rfl⟩
    · cases Option.some.inj (atNew.symm.trans atFound)
      exact Or.inr ⟨rfl, rfl⟩
    · obtain ⟨old, atOld, id, _⟩ := keeps.before repr member atFound
      exact Or.inl ⟨member, old, atOld, id.symm⟩
  · rintro (⟨member, old, atOld, rfl⟩ | ⟨rfl, rfl⟩)
    · obtain ⟨kept, atKept, id, _⟩ := keeps.kept entry old atOld
      exact ⟨Or.inr member, kept, atKept, id⟩
    · exact ⟨Or.inl rfl, cell, atNew, rfl⟩

/-- The chains a table represents are determined by its links. -/
theorem Cache.Repr.unique {other : List (List Nat)} (repr : table.Repr chains) (repr' : table.Repr other) :
    chains = other := by
  apply List.ext_getElem?
  intro i
  by_cases bound : i < table.size.toNat
  · obtain ⟨head, chain, atHead, atChain, linked⟩ := repr.chain_at bound
    obtain ⟨head', chain', atHead', atChain', linked'⟩ := repr'.chain_at bound
    cases Option.some.inj (atHead.symm.trans atHead')
    rw [atChain, atChain', linked.unique linked']
  · rw [List.getElem?_eq_none (by rw [repr.buckets]; omega), List.getElem?_eq_none (by rw [repr'.buckets]; omega)]

end Holds

theorem sysmPerformCleanup_disabled {table : Cache α} (disabled : table.cleanupPeriodMillis = -1) (now : UInt64) :
    sysmPerformCleanupIfNecessary table now = some table := by
  simp [sysmPerformCleanupIfNecessary, Cache.cleanupDue, disabled]

end Sysm
