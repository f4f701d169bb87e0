import Sysm.CacheHas

namespace Sysm
open LinkedHeap

variable {α : Type}

/-- The key and the value of an entry. -/
def heldAt (cells : Heap (CacheEntry α)) (entry : Nat) : Option (UInt64 × Option α) :=
  (read cells entry).map fun cell => (cell.id, cell.value)

variable {cells cells' : Heap (CacheEntry α)} {table table' : Cache α} {key now : UInt64} {entry : Nat}

theorem heldAt_eq_none : heldAt cells entry = none ↔ read cells entry = none := Option.map_eq_none_iff

/-- Writing to the link or to the time of an entry changes neither. -/
theorem heldAt_write {old cell : CacheEntry α} (atOld : read cells entry = some old) (id : cell.id = old.id)
    (value : cell.value = old.value) : heldAt (write cells entry cell) = heldAt cells := by
  funext other
  unfold heldAt
  by_cases same : other = entry
  · rw [same, read_write_self cell atOld, atOld, Option.map_some, Option.map_some, id, value]
  · rw [read_write_other cell same]

theorem rehashChain_heldAt {newEntries : List (Option Nat)} {newSize : UInt32} {fuel : Nat} {start : Option Nat}
    (run : rehashChain newEntries newSize fuel cells start = some cells') : heldAt cells' = heldAt cells := by
  induction fuel generalizing cells start with
  | zero =>
    cases start with
    | none =>
      cases run
      rfl
    | some first => cases run
  | succ fuel ih =>
    cases start with
    | none =>
      cases run
      rfl
    | some first =>
      obtain ⟨cell, atCell, run⟩ := Option.bind_eq_some_iff.mp run
      obtain ⟨head, _, run⟩ := Option.bind_eq_some_iff.mp run
      exact (ih run).trans (heldAt_write atCell rfl rfl)

/-- The rehash loses the entries, but their keys and values stay in memory. -/
theorem sysmCacheRehash_heldAt (run : sysmCacheRehash table = some table') : heldAt table'.cells = heldAt table.cells := by
  obtain ⟨cells, fold, run⟩ := Option.bind_eq_some_iff.mp run
  cases run
  refine FoldOption.foldlM_invariant (P := fun cells => heldAt cells = heldAt table.cells)
    (fun head _ before after same first => ?_) rfl fold
  show heldAt after = heldAt table.cells
  rw [rehashChain_heldAt first, same]

theorem assign_heldAt {target : Option Nat} {ptr : Link} (run : table.assign target ptr = some table') :
    heldAt table'.cells = heldAt table.cells := by
  cases ptr with
  | slot index =>
    obtain ⟨_, same⟩ := Option.ite_none_right_eq_some.mp run
    cases same
    rfl
  | next entry =>
    obtain ⟨cell, atCell, run⟩ := Option.bind_eq_some_iff.mp run
    cases run
    exact heldAt_write atCell rfl rfl

theorem touch_heldAt (run : table.touch entry now = some table') : heldAt table'.cells = heldAt table.cells := by
  obtain ⟨cell, atCell, run⟩ := Option.bind_eq_some_iff.mp run
  cases run
  exact heldAt_write atCell rfl rfl

/-- A scan that finds an entry stops at the first one, or goes on behind it. -/
theorem scanChain_found {stop : CacheEntry α → Bool} {fuel : Nat} {ptr ptr' : Link}
    (run : scanChain table stop fuel ptr = some (ptr', some entry)) :
    ∃ other cell, read table.cells other = some cell ∧ ((stop cell = true ∧ other = entry) ∨
      ∃ less, fuel = less + 1 ∧ scanChain table stop less (.next other) = some (ptr', some entry)) := by
  unfold scanChain at run
  obtain ⟨found, _, run⟩ := Option.bind_eq_some_iff.mp run
  cases found with
  | none => cases run
  | some other =>
    obtain ⟨cell, atCell, run⟩ := Option.bind_eq_some_iff.mp run
    refine ⟨other, cell, atCell, ?_⟩
    cases passes : stop cell with
    | true =>
      rw [passes] at run
      cases run
      exact Or.inl ⟨rfl, rfl⟩
    | false =>
      rw [passes] at run
      cases fuel with
      | zero => cases run
      | succ fuel => exact Or.inr ⟨fuel, rfl, run⟩

/-- The scan does not stop at an entry that fails the test. -/
theorem scanChain_stop {stop : CacheEntry α → Bool} {fuel : Nat} {ptr ptr' : Link}
    (run : scanChain table stop fuel ptr = some (ptr', some entry)) :
    ∃ cell, read table.cells entry = some cell ∧ stop cell = true := by
  induction fuel generalizing ptr with
  | zero =>
    obtain ⟨other, cell, atCell, ⟨passes, rfl⟩ | ⟨less, more, -⟩⟩ := scanChain_found run
    · exact ⟨cell, atCell, passes⟩
    · cases more
  | succ fuel ih =>
    obtain ⟨other, cell, atCell, ⟨passes, rfl⟩ | ⟨less, more, later⟩⟩ := scanChain_found run
    · exact ⟨cell, atCell, passes⟩
    · cases more
      exact ih later

/-- What looking a key up does to keys and values: nothing, or there is a new
entry of this key without a value. -/
structure Cache.Gets (table : Cache α) (key : UInt64) (table' : Cache α) (entry : Nat) : Prop where
  others : ∀ other, other ≠ entry → heldAt table'.cells other = heldAt table.cells other
  here : ∃ value, heldAt table'.cells entry = some (key, value) ∧
    (heldAt table.cells entry = some (key, value) ∨ heldAt table.cells entry = none ∧ value = none)

/-- An entry at the end of the heap. -/
theorem gets_alloc (same : heldAt table'.cells = heldAt (alloc cells (.fresh key now)))
    (before : heldAt cells = heldAt table.cells) : table.Gets key table' cells.length where
  others other different := by
    rw [same, ← before]
    have absent : (alloc cells (CacheEntry.fresh key now))[other]? = cells[other]? := by
      simp only [alloc, List.getElem?_append]
      split
      · rfl
      · rename_i outside
        rw [List.getElem?_eq_none (by simp; omega), List.getElem?_eq_none (by omega)]
    rw [heldAt, LinkedHeap.read, absent]
    rfl
  here := by
    refine ⟨none, ?_, Or.inr ⟨?_, rfl⟩⟩
    · rw [same, heldAt, read_alloc_new]
      rfl
    · rw [← before, heldAt_eq_none, LinkedHeap.read, List.getElem?_eq_none (Nat.le_refl _)]
      rfl

theorem getEntry_gets (run : table.getEntry key now = some (table', entry)) : table.Gets key table' entry := by
  obtain ⟨⟨ptr, found⟩, scan, run⟩ := Option.bind_eq_some_iff.mp run
  cases found with
  | some old =>
    obtain ⟨touched, touch, run⟩ := Option.bind_eq_some_iff.mp run
    cases run
    have same := touch_heldAt touch
    obtain ⟨cell, atCell, isKey⟩ := scanChain_stop scan
    have held : heldAt table.cells entry = some (key, cell.value) := by
      rw [heldAt, atCell, Option.map_some, beq_iff_eq.mp isKey]
    exact ⟨fun other _ => by rw [same], cell.value, by rw [same, held], Or.inl held⟩
  | none =>
    have inserted {middle : Cache α} {link : Link} (before : heldAt middle.cells = heldAt table.cells)
        (run : ({ middle with cells := alloc middle.cells (.fresh key now) }.assign (some middle.cells.length) link).bind
          (fun final => some (final, middle.cells.length)) = some (table', entry)) : table.Gets key table' entry := by
      obtain ⟨final, assigned, run⟩ := Option.bind_eq_some_iff.mp run
      cases run
      exact gets_alloc (assign_heldAt assigned) before
    by_cases full : table.size < table.count + 1
    · simp only [full, if_true] at run
      obtain ⟨rehashed, rehash, run⟩ := Option.bind_eq_some_iff.mp run
      obtain ⟨⟨ptr', _⟩, _, run⟩ := Option.bind_eq_some_iff.mp run
      exact inserted (@sysmCacheRehash_heldAt _ { table with count := table.count + 1 } rehashed rehash) run
    · simp only [full, if_false] at run
      exact @inserted { table with count := table.count + 1 } ptr rfl run

variable {chains : List (List Nat)}

/-- A table that is never cleaned up goes on to represent chains, also when the
rehash has emptied it. -/
theorem Cache.Repr.get_gets (repr : table.Repr chains) (disabled : table.cleanupPeriodMillis = -1)
    (key sweepTime accessTime : UInt64) :
    ∃ table' entry chains', sysmCacheGet table key sweepTime accessTime = some (table', entry) ∧ table'.Repr chains' ∧
      table'.cleanupPeriodMillis = -1 ∧ table.Gets key table' entry := by
  obtain ⟨table', entry, chains', run, repr', spec⟩ := repr.getEntry_spec key accessTime
  have period : table'.cleanupPeriodMillis = table.cleanupPeriodMillis := by
    cases spec with
    | hit _ _ update => rw [update.same]
    | grow _ _ _ _ _ keeps _ _ => exact keeps.period
    | rehash _ _ _ _ keeps _ _ => exact keeps.period
  refine ⟨table', entry, chains', ?_, repr', period.trans disabled, getEntry_gets run⟩
  rw [sysmCacheGet, sysmPerformCleanup_disabled disabled]
  exact run

/-- Storing a value through a pointer. -/
theorem Cache.Repr.store_held (repr : table.Repr chains) {old : Option α} (held : heldAt table.cells entry = some (key, old))
    (value : Option α) :
    ∃ table', table.store entry value = some table' ∧ table'.Repr chains ∧
      table'.cleanupPeriodMillis = table.cleanupPeriodMillis ∧ heldAt table'.cells entry = some (key, value) ∧
      ∀ other, other ≠ entry → heldAt table'.cells other = heldAt table.cells other := by
  obtain ⟨cell, atCell, same⟩ := Option.map_eq_some_iff.mp held
  cases same
  obtain ⟨table', run, update⟩ := Cache.store_updated atCell value
  refine ⟨table', run, repr.updated update atCell rfl rfl, by rw [update.same], ?_, ?_⟩
  · rw [heldAt, update.here]
    rfl
  · intro other different
    rw [heldAt, heldAt, update.elsewhere other different]

/-- No entry goes away or changes its key, and no value that is there changes. -/
def Cache.Persists (table table' : Cache α) : Prop :=
  ∀ entry key value, heldAt table.cells entry = some (key, value) →
    ∃ value', heldAt table'.cells entry = some (key, value') ∧ ∀ v, value = some v → value' = some v

theorem Cache.Persists.refl (table : Cache α) : table.Persists table :=
  fun _ _ value held => ⟨value, held, fun _ same => same⟩

theorem Cache.Persists.trans {a b c : Cache α} (first : a.Persists b) (second : b.Persists c) : a.Persists c := by
  intro entry key value held
  obtain ⟨value', held', same⟩ := first entry key value held
  obtain ⟨value'', held'', same'⟩ := second entry key value' held'
  exact ⟨value'', held'', fun v is => same' v (same v is)⟩

/-- A table that is never cleaned up, every value in whose memory suits the key
of its entry. The entries that a rehash has lost count too. -/
structure Cache.Sound (table : Cache α) (suits : UInt64 → α → Prop) : Prop where
  linked : ∃ chains, table.Repr chains
  disabled : table.cleanupPeriodMillis = -1
  values : ∀ entry key v, heldAt table.cells entry = some (key, some v) → suits key v

theorem Cache.sound_new {size : UInt32} (positive : 0 < size.toNat) (now : UInt64) (suits : UInt64 → α → Prop) :
    (sysmCacheNew α size now).Sound suits where
  linked := ⟨_, sysmExpiredCacheNew_repr size (-1) (-1) now positive⟩
  disabled := rfl
  values entry key v held := by
    have nothing : heldAt (sysmCacheNew α size now).cells entry = none := rfl
    rw [nothing] at held
    cases held

namespace Cache.Sound

variable {suits : UInt64 → α → Prop}

theorem mono (sound : table.Sound suits) {suits' : UInt64 → α → Prop} (weaker : ∀ key v, suits key v → suits' key v) :
    table.Sound suits' :=
  ⟨sound.linked, sound.disabled, fun entry key v held => weaker key v (sound.values entry key v held)⟩

theorem get (sound : table.Sound suits) (key sweepTime accessTime : UInt64) :
    ∃ table' entry value, sysmCacheGet table key sweepTime accessTime = some (table', entry) ∧ table'.Sound suits ∧
      table.Persists table' ∧ heldAt table'.cells entry = some (key, value) := by
  obtain ⟨chains, repr⟩ := sound.linked
  obtain ⟨table', entry, chains', run, repr', disabled', gets⟩ := repr.get_gets sound.disabled key sweepTime accessTime
  obtain ⟨value, here, before⟩ := gets.here
  refine ⟨table', entry, value, run, ⟨⟨chains', repr'⟩, disabled', ?_⟩, ?_, here⟩
  · intro other key' v held
    by_cases same : other = entry
    · subst same
      rw [here] at held
      cases held
      rcases before with old | ⟨_, nothing⟩
      · exact sound.values other key v old
      · cases nothing
    · rw [gets.others other same] at held
      exact sound.values other key' v held
  · intro other key' old held
    by_cases same : other = entry
    · subst same
      rcases before with kept | ⟨missing, _⟩
      · rw [kept] at held
        cases held
        exact ⟨value, here, fun _ is => is⟩
      · rw [missing] at held
        cases held
    · exact ⟨old, by rw [gets.others other same, held], fun _ is => is⟩

/-- An entry without a value gets one that suits its key. -/
theorem fill (sound : table.Sound suits) (held : heldAt table.cells entry = some (key, none)) {v : α}
    (suit : suits key v) :
    ∃ table', table.store entry (some v) = some table' ∧ table'.Sound suits ∧ table.Persists table' ∧
      heldAt table'.cells entry = some (key, some v) := by
  obtain ⟨chains, repr⟩ := sound.linked
  obtain ⟨table', run, repr', period, here, others⟩ := repr.store_held held (some v)
  refine ⟨table', run, ⟨⟨chains, repr'⟩, period.trans sound.disabled, ?_⟩, ?_, here⟩
  · intro other key' v' held'
    by_cases same : other = entry
    · subst same
      rw [here] at held'
      cases held'
      exact suit
    · rw [others other same] at held'
      exact sound.values other key' v' held'
  · intro other key' old held'
    by_cases same : other = entry
    · subst same
      rw [held] at held'
      cases held'
      exact ⟨some v, here, by simp⟩
    · exact ⟨old, by rw [others other same, held'], fun _ is => is⟩

end Cache.Sound

theorem Cache.value_of_heldAt {value : Option α} (held : heldAt table.cells entry = some (key, value)) :
    table.value entry = some value := by
  obtain ⟨cell, atCell, same⟩ := Option.map_eq_some_iff.mp held
  cases same
  rw [Cache.value, atCell]
  rfl

/-- Lookups of a key find this entry, which holds this value. The table is never
cleaned up. -/
structure Cache.Binds (table : Cache α) (key : UInt64) (entry : Nat) (value : Option α) : Prop where
  linked : ∃ chains, table.Repr chains ∧ table.Holds chains key entry
  disabled : table.cleanupPeriodMillis = -1
  atValue : table.value entry = some value

/-- The first lookup of a table makes an entry without a value. -/
theorem Cache.binds_new {size : UInt32} (positive : 0 < size.toNat) (now key sweepTime accessTime : UInt64) :
    ∃ table' entry, sysmCacheGet (sysmCacheNew α size now) key sweepTime accessTime = some (table', entry) ∧
      table'.Binds key entry none := by
  have repr := @sysmExpiredCacheNew_repr α size (-1) (-1) now positive
  obtain ⟨table', entry, value, chains', run, got⟩ := repr.sysmCacheGet_spec key sweepTime accessTime
  obtain ⟨other, _, _, run', _, disabled, _⟩ := repr.get_gets rfl key sweepTime accessTime
  cases run.symm.trans run'
  have fresh : value = none := by
    rcases got.found with nothing | ⟨t, old⟩
    · exact nothing
    · exact absurd old (Cache.has_nil _ _ _ _ _)
  subst fresh
  exact ⟨table', entry, run, ⟨chains', got.repr, got.holds⟩, disabled, got.atValue⟩

namespace Cache.Binds

variable {value : Option α}

theorem get (binds : table.Binds key entry value) (sweepTime accessTime : UInt64) :
    ∃ table', sysmCacheGet table key sweepTime accessTime = some (table', entry) ∧ table'.Binds key entry value := by
  obtain ⟨chains, repr, holds⟩ := binds.linked
  obtain ⟨table', found, chains', run, repr', spec⟩ := repr.getEntry_spec key accessTime
  have get : sysmCacheGet table key sweepTime accessTime = some (table', found) := by
    rw [sysmCacheGet, sysmPerformCleanup_disabled binds.disabled]
    exact run
  cases spec with
  | grow missing => exact absurd holds (missing entry)
  | rehash missing => exact absurd holds (missing entry)
  | hit holds' atCell update =>
    have same := repr.holds_unique holds holds'
    subst same
    have atValue := binds.atValue
    rw [Cache.value, atCell, Option.map_some] at atValue
    refine ⟨table', get, ⟨chains, repr', (update.holds_iff atCell rfl key entry).mpr holds⟩, ?_, ?_⟩
    · rw [update.same]
      exact binds.disabled
    · rw [update.value, if_pos rfl]
      exact atValue

theorem store (binds : table.Binds key entry value) (new : Option α) :
    ∃ table', table.store entry new = some table' ∧ table'.Binds key entry new := by
  obtain ⟨chains, repr, holds⟩ := binds.linked
  obtain ⟨cell, atCell⟩ := repr.allocated holds.1
  obtain ⟨table', run, update⟩ := Cache.store_updated atCell new
  refine ⟨table', run, ⟨chains, repr.updated update atCell rfl rfl, (update.holds_iff atCell rfl key entry).mpr holds⟩, ?_, ?_⟩
  · rw [update.same]
    exact binds.disabled
  · rw [update.value, if_pos rfl]

end Cache.Binds

end Sysm
