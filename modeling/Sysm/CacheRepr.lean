import Sysm.Cache

namespace Sysm
open LinkedHeap

variable {α : Type}

/-- The bucket array heads the chains `chains`, one for each slot, and every
entry sits in the chain of bucket `id % size`. -/
structure Cache.Chained (table : Cache α) (chains : List (List Nat)) : Prop where
  slots : table.entries.length = table.size.toNat
  buckets : chains.length = table.size.toNat
  linked : ∀ (i : Nat) (head : Option Nat) (chain : List Nat), table.entries[i]? = some head →
    chains[i]? = some chain → Chain CacheEntry.next table.cells head chain
  placed : ∀ (i : Nat) (chain : List Nat), chains[i]? = some chain → ∀ entry ∈ chain, ∀ cell,
    read table.cells entry = some cell → (cell.id % table.size.toUInt64).toNat = i

/-- The bucket array heads the chains `chains`, one for each slot. Every entry
sits in the chain of bucket `id % size`, and no key has two entries. -/
structure Cache.Repr (table : Cache α) (chains : List (List Nat)) : Prop where
  positive : 0 < table.size.toNat
  slots : table.entries.length = table.size.toNat
  buckets : chains.length = table.size.toNat
  linked : ∀ (i : Nat) (head : Option Nat) (chain : List Nat), table.entries[i]? = some head →
    chains[i]? = some chain → Chain CacheEntry.next table.cells head chain
  placed : ∀ (i : Nat) (chain : List Nat), chains[i]? = some chain → ∀ entry ∈ chain, ∀ cell,
    read table.cells entry = some cell → (cell.id % table.size.toUInt64).toNat = i
  keyed : ∀ entry ∈ chains.flatten, ∀ other ∈ chains.flatten, ∀ cell cell',
    read table.cells entry = some cell → read table.cells other = some cell' →
      cell.id = cell'.id → entry = other

/-- The entries of `table` are still there, with all but their links. -/
structure Cache.Keeps (table table' : Cache α) : Prop where
  period : table'.cleanupPeriodMillis = table.cleanupPeriodMillis
  expire : table'.entryExpirePeriod = table.entryExpirePeriod
  kept : ∀ entry cell, read table.cells entry = some cell → ∃ cell',
    read table'.cells entry = some cell' ∧ cell'.id = cell.id ∧ cell'.value = cell.value ∧
      cell'.lastAccessTime = cell.lastAccessTime

theorem Cache.Keeps.trans {a b c : Cache α} (first : a.Keeps b) (second : b.Keeps c) : a.Keeps c where
  period := second.period.trans first.period
  expire := second.expire.trans first.expire
  kept entry cell atCell := by
    obtain ⟨cell', at', id', value', time'⟩ := first.kept entry cell atCell
    obtain ⟨cell'', at'', id'', value'', time''⟩ := second.kept entry cell' at'
    exact ⟨cell'', at'', id''.trans id', value''.trans value', time''.trans time'⟩

/-- Where the null link at the end of a chain is stored. -/
def endLink : Link → List Nat → Link
  | ptr, [] => ptr
  | _, entry :: rest => endLink (.next entry) rest

theorem endLink_append_singleton (ptr : Link) (chain : List Nat) (last : Nat) :
    endLink ptr (chain ++ [last]) = .next last := by
  induction chain generalizing ptr with
  | nil => rfl
  | cons entry rest ih => exact ih (.next entry)

/-- The scan ends at the first entry that passes the test, and at the null
link of the chain when there is none. -/
theorem scanChain_spec {table : Cache α} (stop : CacheEntry α → Bool) {start : Option Nat} {chain : List Nat}
    (linked : Chain CacheEntry.next table.cells start chain) {ptr : Link} (head : table.deref ptr = some start)
    {fuel : Nat} (enough : chain.length ≤ fuel) :
    (∃ before entry after cell, chain = before ++ entry :: after ∧ read table.cells entry = some cell ∧
      stop cell = true ∧ scanChain table stop fuel ptr = some (endLink ptr before, some entry)) ∨
    ((∀ entry ∈ chain, ∀ cell, read table.cells entry = some cell → stop cell = false) ∧
      scanChain table stop fuel ptr = some (endLink ptr chain, none)) := by
  induction linked generalizing ptr fuel with
  | nil =>
    refine Or.inr ⟨by simp, ?_⟩
    unfold scanChain
    simp [head, endLink]
  | @cons entry cell rest atCell tail ih =>
    cases passes : stop cell with
    | true =>
      refine Or.inl ⟨[], entry, rest, cell, rfl, atCell, passes, ?_⟩
      unfold scanChain
      simp [head, atCell, passes, endLink]
    | false =>
      obtain ⟨fuel, rfl⟩ : ∃ rest, fuel = rest + 1 := ⟨fuel - 1, by simp only [List.length_cons] at enough; omega⟩
      have next : table.deref (.next entry) = some cell.next := by simp [Cache.deref, atCell]
      have step : scanChain table stop (fuel + 1) ptr = scanChain table stop fuel (.next entry) := by
        conv => lhs; unfold scanChain
        simp [head, atCell, passes]
      rw [step]
      rcases ih next (by simpa using enough) with ⟨before, found, after, hit, split, atHit, ok, run⟩ | ⟨absent, run⟩
      · exact Or.inl ⟨entry :: before, found, after, hit, by rw [split]; rfl, atHit, ok, run⟩
      · refine Or.inr ⟨?_, run⟩
        intro other member cell' at'
        rcases List.mem_cons.mp member with rfl | later
        · cases Option.some.inj (atCell.symm.trans at')
          exact passes
        · exact absent other later cell' at'

theorem Cache.mem_flatten {chains : List (List Nat)} {i : Nat} {chain : List Nat} (atChain : chains[i]? = some chain)
    {entry : Nat} (member : entry ∈ chain) : entry ∈ chains.flatten :=
  List.mem_flatten.mpr ⟨chain, List.mem_of_getElem? atChain, member⟩

namespace Cache.Chained

variable {table table' : Cache α} {chains : List (List Nat)}

theorem chain_at (chained : table.Chained chains) {i : Nat} (bound : i < table.size.toNat) :
    ∃ head chain, table.entries[i]? = some head ∧ chains[i]? = some chain ∧
      Chain CacheEntry.next table.cells head chain := by
  have inEntries : i < table.entries.length := by rw [chained.slots]; exact bound
  have inChains : i < chains.length := by rw [chained.buckets]; exact bound
  have atHead := List.getElem?_eq_getElem inEntries
  have atChain := List.getElem?_eq_getElem inChains
  exact ⟨_, _, atHead, atChain, chained.linked i _ _ atHead atChain⟩

theorem mem_chain (chained : table.Chained chains) {entry : Nat} (member : entry ∈ chains.flatten) :
    ∃ (i : Nat) (head : Option Nat) (chain : List Nat), chains[i]? = some chain ∧ entry ∈ chain ∧
      Chain CacheEntry.next table.cells head chain := by
  obtain ⟨chain, inChains, inChain⟩ := List.mem_flatten.mp member
  obtain ⟨i, bound, rfl⟩ := List.mem_iff_getElem.mp inChains
  obtain ⟨head, chain', _, atChain, linked⟩ := chained.chain_at (by rw [← chained.buckets]; exact bound)
  rw [List.getElem?_eq_getElem bound] at atChain
  cases Option.some.inj atChain
  exact ⟨i, head, _, List.getElem?_eq_getElem bound, inChain, linked⟩

theorem allocated (chained : table.Chained chains) {entry : Nat} (member : entry ∈ chains.flatten) :
    ∃ cell, read table.cells entry = some cell := by
  obtain ⟨_, _, _, _, inChain, linked⟩ := chained.mem_chain member
  exact linked.allocated entry inChain

/-- No entry is reached twice. -/
theorem nodup (chained : table.Chained chains) : chains.flatten.Nodup := by
  refine List.nodup_flatten.mpr ⟨?_, ?_⟩
  · intro chain inChains
    obtain ⟨i, bound, rfl⟩ := List.mem_iff_getElem.mp inChains
    obtain ⟨_, chain', _, atChain, linked⟩ := chained.chain_at (by rw [← chained.buckets]; exact bound)
    rw [List.getElem?_eq_getElem bound] at atChain
    cases Option.some.inj atChain
    exact linked.nodup
  · refine List.pairwise_iff_getElem.mpr fun i j iBound jBound before entry inI inJ => ?_
    have atI := List.getElem?_eq_getElem iBound
    have atJ := List.getElem?_eq_getElem jBound
    obtain ⟨cell, atCell⟩ := chained.allocated (mem_flatten atI inI)
    have same := (chained.placed i _ atI entry inI cell atCell).symm.trans
      (chained.placed j _ atJ entry inJ cell atCell)
    omega

end Cache.Chained

namespace Cache.Repr

variable {table table' : Cache α} {chains : List (List Nat)}

theorem ix_lt (repr : table.Repr chains) (key : UInt64) :
    (key % table.size.toUInt64).toNat < table.size.toNat := by
  simp only [UInt64.toNat_mod, UInt32.toNat_toUInt64]
  exact Nat.mod_lt _ repr.positive

theorem chained (repr : table.Repr chains) : table.Chained chains where
  slots := repr.slots
  buckets := repr.buckets
  linked := repr.linked
  placed := repr.placed

theorem chain_at (repr : table.Repr chains) {i : Nat} (bound : i < table.size.toNat) :
    ∃ head chain, table.entries[i]? = some head ∧ chains[i]? = some chain ∧
      Chain CacheEntry.next table.cells head chain :=
  repr.chained.chain_at bound

/-- The chain that the bucket of a key heads. -/
theorem bucket (repr : table.Repr chains) (key : UInt64) :
    ∃ head chain, table.deref (table.ix key) = some head ∧
      chains[(key % table.size.toUInt64).toNat]? = some chain ∧
      Chain CacheEntry.next table.cells head chain :=
  repr.chain_at (repr.ix_lt key)

theorem mem_chain (repr : table.Repr chains) {entry : Nat} (member : entry ∈ chains.flatten) :
    ∃ (i : Nat) (head : Option Nat) (chain : List Nat), chains[i]? = some chain ∧ entry ∈ chain ∧
      Chain CacheEntry.next table.cells head chain :=
  repr.chained.mem_chain member

theorem allocated (repr : table.Repr chains) {entry : Nat} (member : entry ∈ chains.flatten) :
    ∃ cell, read table.cells entry = some cell :=
  repr.chained.allocated member

/-- An entry is reachable at all only through the bucket of its key. -/
theorem mem_bucket (repr : table.Repr chains) {entry : Nat} {cell : CacheEntry α} {chain : List Nat}
    (member : entry ∈ chains.flatten) (atCell : read table.cells entry = some cell)
    (atChain : chains[(cell.id % table.size.toUInt64).toNat]? = some chain) : entry ∈ chain := by
  obtain ⟨i, _, other, atOther, inOther, _⟩ := repr.mem_chain member
  have same := repr.placed i other atOther entry inOther cell atCell
  rw [same, atOther] at atChain
  cases Option.some.inj atChain
  exact inOther

theorem nodup (repr : table.Repr chains) : chains.flatten.Nodup := repr.chained.nodup

/-- Changes of a table that leave its array, the links and the keys alone
leave the represented chains alone. -/
theorem congr (repr : table.Repr chains) (size : table'.size = table.size)
    (entries : table'.entries = table.entries)
    (cells : ∀ entry cell, read table.cells entry = some cell → ∃ cell',
      read table'.cells entry = some cell' ∧ cell'.next = cell.next ∧ cell'.id = cell.id) :
    table'.Repr chains where
  positive := by rw [size]; exact repr.positive
  slots := by rw [size, entries]; exact repr.slots
  buckets := by rw [size]; exact repr.buckets
  linked i head chain atHead atChain := by
    rw [entries] at atHead
    refine (repr.linked i head chain atHead atChain).congr fun entry _ cell atCell => ?_
    obtain ⟨cell', atCell', link, _⟩ := cells entry cell atCell
    exact ⟨cell', atCell', link⟩
  placed i chain atChain entry member cell' atCell' := by
    obtain ⟨cell, atCell⟩ := repr.allocated (mem_flatten atChain member)
    obtain ⟨found, atFound, _, id⟩ := cells entry cell atCell
    cases Option.some.inj (atFound.symm.trans atCell')
    rw [id, size]
    exact repr.placed i chain atChain entry member cell atCell
  keyed entry member other member' cell cell' atCell atCell' same := by
    obtain ⟨old, atOld⟩ := repr.allocated member
    obtain ⟨old', atOld'⟩ := repr.allocated member'
    obtain ⟨found, atFound, _, id⟩ := cells entry old atOld
    obtain ⟨found', atFound', _, id'⟩ := cells other old' atOld'
    cases Option.some.inj (atFound.symm.trans atCell)
    cases Option.some.inj (atFound'.symm.trans atCell')
    exact repr.keyed entry member other member' old old' atOld atOld' (id.symm.trans (same.trans id'))

end Cache.Repr

end Sysm
