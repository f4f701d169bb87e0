import Sysm.CacheOps

namespace Sysm
open LinkedHeap

variable {α : Type} {table table' : Cache α} {chains chains' : List (List Nat)}

/-- The sweep at `now` leaves this entry in place. -/
def Cache.survives (table : Cache α) (now : UInt64) (entry : Nat) : Bool :=
  (read table.cells entry).any fun cell => !decide (table.entryExpirePeriod < now - cell.lastAccessTime)

/-- What an eviction of the entries `gone`, one after the other, does to a
table apart from its chains. -/
structure Cache.Swept (table table' : Cache α) (gone : List Nat) : Prop where
  size : table'.size = table.size
  slots : table'.entries.length = table.entries.length
  expire : table'.entryExpirePeriod = table.entryExpirePeriod
  period : table'.cleanupPeriodMillis = table.cleanupPeriodMillis
  cleaned : table'.lastCleanupTime = table.lastCleanupTime
  count : table'.count = table.count - UInt32.ofNat gone.length
  freed : table'.freed = table.freed ++ gone.flatMap fun entry => ((read table.cells entry).bind CacheEntry.value).toList
  length : table'.cells.length = table.cells.length
  kept : ∀ entry cell, entry ∉ gone → read table.cells entry = some cell →
    ∃ link, read table'.cells entry = some { cell with next := link }

theorem Cache.Swept.refl (table : Cache α) : table.Swept table [] where
  size := rfl
  slots := rfl
  expire := rfl
  period := rfl
  cleaned := rfl
  count := by simp
  freed := by simp
  length := rfl
  kept _ cell _ atCell := ⟨cell.next, atCell⟩

theorem Cache.Swept.trans {middle : Cache α} {gone later : List Nat} (first : table.Swept middle gone)
    (second : middle.Swept table' later) (allocated : ∀ entry ∈ later, ∃ cell, read table.cells entry = some cell)
    (apart : ∀ entry ∈ later, entry ∉ gone) : table.Swept table' (gone ++ later) where
  size := second.size.trans first.size
  slots := second.slots.trans first.slots
  expire := second.expire.trans first.expire
  period := second.period.trans first.period
  cleaned := second.cleaned.trans first.cleaned
  count := by
    rw [second.count, first.count, List.length_append, UInt32.ofNat_add]
    grind
  freed := by
    have same : later.flatMap (fun entry => ((read middle.cells entry).bind CacheEntry.value).toList) =
        later.flatMap fun entry => ((read table.cells entry).bind CacheEntry.value).toList := by
      refine List.flatMap_congr fun entry member => ?_
      obtain ⟨cell, atCell⟩ := allocated entry member
      obtain ⟨link, atMiddle⟩ := first.kept entry cell (apart entry member) atCell
      rw [atCell, atMiddle]
      rfl
    rw [second.freed, first.freed, same, List.append_assoc, List.flatMap_append]
  length := second.length.trans first.length
  kept entry cell outside atCell := by
    rw [List.mem_append, not_or] at outside
    obtain ⟨link, atMiddle⟩ := first.kept entry cell outside.1 atCell
    obtain ⟨link', atEnd⟩ := second.kept entry _ outside.2 atMiddle
    exact ⟨link', atEnd⟩

/-- Nothing is allocated, and the entries `gone` are freed. -/
def Cache.Releases (table table' : Cache α) (gone : List Nat) : Prop :=
  ∀ entry, (read table.cells entry = none ∨ entry ∈ gone) → read table'.cells entry = none

theorem Cache.Releases.refl (table : Cache α) : table.Releases table [] := by
  intro entry free
  rcases free with free | gone
  · exact free
  · simp at gone

theorem Cache.Releases.trans {middle : Cache α} {gone later : List Nat} (first : table.Releases middle gone)
    (second : middle.Releases table' later) : table.Releases table' (gone ++ later) := by
  intro entry free
  apply second entry
  rcases free with free | member
  · exact Or.inl (first entry (Or.inl free))
  · rcases List.mem_append.mp member with early | late
    · exact Or.inl (first entry (Or.inr early))
    · exact Or.inr late

theorem Cache.Swept.survives_iff {gone : List Nat} (swept : table.Swept table' gone) (now : UInt64) {entry : Nat}
    {cell : CacheEntry α} (outside : entry ∉ gone) (atCell : read table.cells entry = some cell) :
    table'.survives now entry = table.survives now entry := by
  obtain ⟨link, atEnd⟩ := swept.kept entry cell outside atCell
  simp only [Cache.survives, atCell, atEnd, swept.expire, Option.any_some]

/-- Chains that are made of entries of the old ones are represented as soon as
the links agree. -/
theorem Cache.Chained.subset (chained : table.Chained chains) (size : table'.size = table.size)
    (slots : table'.entries.length = table.entries.length) (buckets : chains'.length = chains.length)
    (sub : ∀ (i : Nat) chain', chains'[i]? = some chain' → ∃ chain, chains[i]? = some chain ∧ chain' ⊆ chain)
    (kept : ∀ entry ∈ chains'.flatten, ∀ cell, read table.cells entry = some cell →
      ∃ cell', read table'.cells entry = some cell' ∧ cell'.id = cell.id)
    (linked : ∀ (i : Nat) head chain, table'.entries[i]? = some head → chains'[i]? = some chain →
      Chain CacheEntry.next table'.cells head chain) : table'.Chained chains' where
  slots := by rw [size, slots]; exact chained.slots
  buckets := by rw [size, buckets]; exact chained.buckets
  linked := linked
  placed i chain' atChain' entry member cell' atCell' := by
    obtain ⟨chain, atChain, subset⟩ := sub i chain' atChain'
    obtain ⟨cell, atCell⟩ := chained.allocated (mem_flatten atChain (subset member))
    obtain ⟨found, atFound, id⟩ := kept entry (mem_flatten atChain' member) cell atCell
    cases Option.some.inj (atFound.symm.trans atCell')
    rw [id, size]
    exact chained.placed i chain atChain entry (subset member) cell atCell

/-- The link that `entry_prev` decides on: the slot, or the last survivor. -/
def prevLink (slot : Nat) (front : List Nat) : Link := front.getLast?.elim (.slot slot) .next

theorem Cache.evict_swept {entry : Nat} {cell : CacheEntry α} (atCell : read table.cells entry = some cell) :
    table.Swept (table.evict entry cell) [entry] where
  size := rfl
  slots := rfl
  expire := rfl
  period := rfl
  cleaned := rfl
  count := by simp [Cache.evict]
  freed := by simp [Cache.evict, atCell]
  length := by simp [Cache.evict]
  kept other found outside atFound :=
    ⟨found.next, by rw [Cache.evict, read_free_other (by simpa using outside), atFound]⟩

theorem Cache.evict_releases {entry : Nat} {cell : CacheEntry α} : table.Releases (table.evict entry cell) [entry] := by
  intro other unused
  by_cases same : other = entry
  · rw [same, Cache.evict, read_free_self]
  · rw [Cache.evict, read_free_other same]
    rcases unused with free | gone
    · exact free
    · exact absurd (List.mem_singleton.mp gone) same

/-- An assignment changes one slot or one link. -/
theorem Cache.assign_swept {target : Option Nat} {ptr : Link} (run : table.assign target ptr = some table') :
    table.Swept table' [] := by
  have same := Cache.Swept.refl table
  cases ptr with
  | slot index =>
    simp only [Cache.assign, Option.ite_none_right_eq_some, Option.some.injEq] at run
    obtain ⟨_, rfl⟩ := run
    exact { same with slots := by simp }
  | next last =>
    obtain ⟨found, atLast, run⟩ := Option.bind_eq_some_iff.mp run
    cases Option.some.inj run
    refine { same with length := by simp, kept := ?_ }
    intro other cell _ atCell
    by_cases here : other = last
    · subst here
      cases Option.some.inj (atLast.symm.trans atCell)
      exact ⟨target, read_write_self _ atLast⟩
    · exact ⟨cell.next, by rw [read_write_other _ here, atCell]⟩

theorem Cache.assign_releases {target : Option Nat} {ptr : Link} (run : table.assign target ptr = some table') :
    table.Releases table' [] := by
  intro other unused
  have free : read table.cells other = none := by simpa using unused
  cases ptr with
  | slot index =>
    simp only [Cache.assign, Option.ite_none_right_eq_some, Option.some.injEq] at run
    obtain ⟨_, rfl⟩ := run
    exact free
  | next last =>
    obtain ⟨found, atLast, run⟩ := Option.bind_eq_some_iff.mp run
    cases Option.some.inj run
    have different : other ≠ last := by
      rintro rfl
      rw [free] at atLast
      cases atLast
    exact (read_write_other _ different).trans free

theorem Cache.unlink_swept {entry : Nat} {cell : CacheEntry α} {target : Option Nat} {ptr : Link}
    (atCell : read table.cells entry = some cell) (run : (table.evict entry cell).assign target ptr = some table') :
    table.Swept table' [entry] ∧ table.Releases table' [entry] :=
  ⟨(Cache.evict_swept atCell).trans (Cache.assign_swept run) (by simp) (by simp),
    Cache.evict_releases.trans (Cache.assign_releases run)⟩

theorem Cache.Chained.same_slot (chained : table.Chained chains) {i j : Nat} {chain other : List Nat}
    (atI : chains[i]? = some chain) (atJ : chains[j]? = some other) {entry : Nat} (inI : entry ∈ chain)
    (inJ : entry ∈ other) : i = j := by
  obtain ⟨cell, atCell⟩ := chained.allocated (mem_flatten atI inI)
  exact (chained.placed i chain atI entry inI cell atCell).symm.trans (chained.placed j other atJ entry inJ cell atCell)

theorem Cache.Chained.nodup_chain (chained : table.Chained chains) {i : Nat} {chain : List Nat} (atChain : chains[i]? = some chain) :
    chain.Nodup :=
  (List.nodup_flatten.mp chained.nodup).1 chain (List.mem_of_getElem? atChain)

/-- What is left of the chains when one entry is taken out of its own. -/
theorem Cache.Chained.unlinked_chain (chained : table.Chained chains) {slot entry : Nat} {front rest : List Nat}
    (atChain : chains[slot]? = some (front ++ entry :: rest)) {j : Nat} {chain' : List Nat}
    (atJ : (chains.set slot (front ++ rest))[j]? = some chain') :
    ∃ chain, chains[j]? = some chain ∧ chain' ⊆ chain ∧ entry ∉ chain' := by
  by_cases here : j = slot
  · subst here
    rw [List.getElem?_set_self (List.getElem?_eq_some_iff.mp atChain).1] at atJ
    cases Option.some.inj atJ
    have distinct := List.nodup_middle.mp (chained.nodup_chain atChain)
    exact ⟨_, atChain, by simp, (List.nodup_cons.mp distinct).1⟩
  · rw [List.getElem?_set_ne (Ne.symm here)] at atJ
    refine ⟨chain', atJ, fun _ member => member, ?_⟩
    exact fun inJ => here (chained.same_slot atJ atChain inJ (by simp))

/-- A table is represented without an entry as soon as its links leave the
entry out. -/
theorem Cache.Chained.unlinked (chained : table.Chained chains) {slot entry : Nat} {front rest : List Nat}
    (atChain : chains[slot]? = some (front ++ entry :: rest)) (swept : table.Swept table' [entry])
    (here : ∀ head, table'.entries[slot]? = some head → Chain CacheEntry.next table'.cells head (front ++ rest))
    (elsewhere : ∀ (j : Nat) head chain, j ≠ slot → table'.entries[j]? = some head → chains[j]? = some chain →
      Chain CacheEntry.next table'.cells head chain) : table'.Chained (chains.set slot (front ++ rest)) := by
  refine chained.subset swept.size swept.slots (by simp) ?_ ?_ ?_
  · intro j chain' atJ
    obtain ⟨chain, atChain', sub, _⟩ := chained.unlinked_chain atChain atJ
    exact ⟨chain, atChain', sub⟩
  · intro other member found atFound
    obtain ⟨chain', inChains, inChain⟩ := List.mem_flatten.mp member
    obtain ⟨j, atJ⟩ := List.mem_iff_getElem?.mp inChains
    obtain ⟨_, _, _, off⟩ := chained.unlinked_chain atChain atJ
    have different : other ∉ [entry] := by
      rw [List.mem_singleton]
      rintro rfl
      exact off inChain
    obtain ⟨link, atEnd⟩ := swept.kept other found different atFound
    exact ⟨_, atEnd, rfl⟩
  · intro j head chain atNew atJ
    by_cases same : j = slot
    · subst same
      rw [List.getElem?_set_self (List.getElem?_eq_some_iff.mp atChain).1] at atJ
      cases Option.some.inj atJ
      exact here head atNew
    · rw [List.getElem?_set_ne (Ne.symm same)] at atJ
      exact elsewhere j head chain same atNew atJ

/-- The first entry of a chain is unlinked through the slot. -/
theorem Cache.Chained.unlink_first (chained : table.Chained chains) {slot entry : Nat} {rest : List Nat} {cell : CacheEntry α}
    (atChain : chains[slot]? = some (entry :: rest)) (atCell : read table.cells entry = some cell) :
    ∃ table', (table.evict entry cell).assign cell.next (.slot slot) = some table' ∧
      table'.Chained (chains.set slot rest) ∧ Chain CacheEntry.next table'.cells cell.next rest := by
  obtain ⟨head, chain, atHead, atSlot, whole⟩ := chained.chain_at
    (by rw [← chained.buckets]; exact (List.getElem?_eq_some_iff.mp atChain).1)
  cases Option.some.inj (atSlot.symm.trans atChain)
  have inSlots : slot < table.entries.length := (List.getElem?_eq_some_iff.mp atHead).1
  have atFront : chains[slot]? = some ([] ++ entry :: rest) := atChain
  have behind : Chain CacheEntry.next table.cells cell.next rest := by
    rw [← List.nil_append (entry :: rest)] at whole
    exact whole.behind atCell
  have tail := behind.free_off (List.nodup_cons.mp (chained.nodup_chain atChain)).1
  have run : (table.evict entry cell).assign cell.next (.slot slot) =
      some { table.evict entry cell with entries := table.entries.set slot cell.next } := by
    simp [Cache.assign, Cache.evict, inSlots]
  refine ⟨_, run, chained.unlinked atFront (Cache.unlink_swept atCell run).1 ?_ ?_, tail⟩
  · intro head atNew
    rw [List.getElem?_set_self inSlots] at atNew
    cases Option.some.inj atNew
    exact tail
  · intro j head chain different atNew atJ
    rw [List.getElem?_set_ne (Ne.symm different)] at atNew
    refine (chained.linked j head chain atNew atJ).free_off fun inJ => different ?_
    exact chained.same_slot atJ atChain inJ (by simp)

/-- Every other entry is unlinked through the entry before it. -/
theorem Cache.Chained.unlink_next (chained : table.Chained chains) {slot entry last : Nat} {before rest : List Nat}
    {cell : CacheEntry α} (atChain : chains[slot]? = some (before ++ last :: entry :: rest))
    (atCell : read table.cells entry = some cell) :
    ∃ table', (table.evict entry cell).assign cell.next (.next last) = some table' ∧
      table'.Chained (chains.set slot (before ++ last :: rest)) ∧ Chain CacheEntry.next table'.cells cell.next rest := by
  obtain ⟨head, chain, atHead, atSlot, whole⟩ := chained.chain_at
    (by rw [← chained.buckets]; exact (List.getElem?_eq_some_iff.mp atChain).1)
  cases Option.some.inj (atSlot.symm.trans atChain)
  obtain ⟨found, atLast⟩ := whole.allocated last (by simp)
  have joined (rest : List Nat) : before ++ last :: rest = (before ++ [last]) ++ rest := by simp
  have behind : Chain CacheEntry.next table.cells cell.next rest := by
    rw [joined] at whole
    exact whole.behind atCell
  have distinct := whole.nodup
  have lastOnce := (List.nodup_cons.mp (List.nodup_middle.mp distinct)).1
  rw [joined] at distinct
  have entryOnce := (List.nodup_cons.mp (List.nodup_middle.mp distinct)).1
  have offLast : last ∉ rest := fun inRest => lastOnce (by simp [inRest])
  have offRest : entry ∉ rest := fun inRest => entryOnce (by simp [inRest])
  have apart : last ≠ entry := fun same => lastOnce (by simp [same])
  have atFreed : read (table.evict entry cell).cells last = some found := by
    rw [Cache.evict, read_free_other apart, atLast]
  have run : (table.evict entry cell).assign cell.next (.next last) = some { table.evict entry cell with
      cells := write (table.evict entry cell).cells last { found with next := cell.next } } := by
    simp only [Cache.assign, atFreed, Option.bind_eq_bind, Option.bind_some]
    rfl
  refine ⟨_, run, ?_, (behind.free_off offRest).write_off _ offLast⟩
  rw [joined] at atChain ⊢
  refine chained.unlinked atChain (Cache.unlink_swept atCell run).1 ?_ ?_
  · intro head' atNew
    have link : CacheEntry.next { found with next := cell.next } = cell.next := rfl
    have linked := (whole.relink atLast link behind offLast).free_off (by rwa [joined])
    rw [← write_free_comm _ _ apart, joined] at linked
    cases Option.some.inj (atHead.symm.trans atNew)
    exact linked
  · intro j head' chain different atNew atJ
    have elsewhere (other : Nat) (inSlot : other ∈ before ++ [last] ++ entry :: rest) : other ∉ chain :=
      fun inJ => different (chained.same_slot atJ atChain inJ inSlot)
    exact ((chained.linked j head' chain atNew atJ).free_off (elsewhere entry (by simp))).write_off _
      (elsewhere last (by simp))

/-- Unlinking an entry and freeing it takes it out of its chain. -/
theorem Cache.Chained.unlink (chained : table.Chained chains) {slot entry : Nat} {front rest : List Nat}
    {cell : CacheEntry α} (atChain : chains[slot]? = some (front ++ entry :: rest))
    (atCell : read table.cells entry = some cell) :
    ∃ table', (table.evict entry cell).assign cell.next (prevLink slot front) = some table' ∧
      table'.Chained (chains.set slot (front ++ rest)) ∧ table.Swept table' [entry] ∧
        Chain CacheEntry.next table'.cells cell.next rest ∧ table.Releases table' [entry] := by
  have unlinked : ∃ table', (table.evict entry cell).assign cell.next (prevLink slot front) = some table' ∧
      table'.Chained (chains.set slot (front ++ rest)) ∧ Chain CacheEntry.next table'.cells cell.next rest := by
    rcases List.eq_nil_or_concat front with rfl | ⟨before, last, rfl⟩
    · exact chained.unlink_first atChain atCell
    · have joined : (before.concat last) ++ rest = before ++ last :: rest := by simp
      have link : prevLink slot (before.concat last) = .next last := by simp [prevLink]
      rw [joined, link]
      exact chained.unlink_next (by simpa using atChain) atCell
  obtain ⟨table', run, chained', tail⟩ := unlinked
  obtain ⟨swept, releases⟩ := Cache.unlink_swept atCell run
  exact ⟨table', run, chained', swept, tail, releases⟩

/-- The sweep of one slot keeps the survivors of its chain in their order. -/
theorem sweepChain_spec (now : UInt64) {slot fuel : Nat} {front rest : List Nat} {start : Option Nat}
    (chained : table.Chained chains) (atChain : chains[slot]? = some (front ++ rest))
    (linked : Chain CacheEntry.next table.cells start rest) (enough : rest.length ≤ fuel) :
    ∃ table', sweepChain now slot fuel table front.getLast? start = some table' ∧
      table'.Chained (chains.set slot (front ++ rest.filter (table.survives now))) ∧
        table.Swept table' (rest.filter fun entry => !table.survives now entry) ∧
        table.Releases table' (rest.filter fun entry => !table.survives now entry) := by
  induction rest generalizing table chains front fuel start with
  | nil =>
    cases linked
    refine ⟨table, by cases fuel <;> rfl, ?_, .refl table, .refl table⟩
    obtain ⟨bound, here⟩ := List.getElem?_eq_some_iff.mp atChain
    rwa [List.filter_nil, ← here, List.set_getElem_self]
  | cons entry rest ih =>
    have distinct := linked.nodup
    cases linked with
    | @cons _ cell _ atCell tail =>
      obtain ⟨fuel, rfl⟩ : ∃ n, fuel = n + 1 := ⟨fuel - 1, by simp only [List.length_cons] at enough; omega⟩
      simp only [List.length_cons, Nat.add_le_add_iff_right] at enough
      have bound := (List.getElem?_eq_some_iff.mp atChain).1
      by_cases expired : table.entryExpirePeriod < now - cell.lastAccessTime
      · have gone : table.survives now entry = false := by simp [Cache.survives, atCell, expired]
        obtain ⟨unlinked, run, chained', swept, tail', releases⟩ := chained.unlink atChain atCell
        obtain ⟨table', later, chained'', swept', releases'⟩ := ih chained' (List.getElem?_set_self bound) tail' enough
        have off : entry ∉ rest := (List.nodup_cons.mp distinct).1
        have same : ∀ other ∈ rest, unlinked.survives now other = table.survives now other := by
          intro other member
          obtain ⟨found, atFound⟩ := tail.allocated other member
          exact swept.survives_iff now (by
            rw [List.mem_singleton]
            rintro rfl
            exact off member) atFound
        have kept : rest.filter (unlinked.survives now) = rest.filter (table.survives now) := List.filter_congr same
        have lost : rest.filter (fun other => !unlinked.survives now other) =
            rest.filter fun other => !table.survives now other :=
          List.filter_congr fun other member => by rw [same other member]
        refine ⟨table', ?_, ?_, ?_, ?_⟩
        · rw [prevLink] at run
          simp only [sweepChain, atCell, expired, if_true, Option.bind_eq_bind, Option.bind_some, run]
          exact later
        · rw [List.set_set, kept] at chained''
          rwa [List.filter_cons_of_neg (by simp [gone])]
        · rw [lost] at swept'
          rw [List.filter_cons_of_pos (by simp [gone])]
          refine swept.trans swept' ?_ ?_
          · intro other member
            exact tail.allocated other (List.mem_filter.mp member).1
          · intro other member inGone
            rw [List.mem_singleton] at inGone
            subst inGone
            exact off (List.mem_filter.mp member).1
        · rw [lost] at releases'
          rw [List.filter_cons_of_pos (by simp [gone])]
          exact releases.trans releases'
      · have stays : table.survives now entry = true := by simp [Cache.survives, atCell, expired]
        have atChain' : chains[slot]? = some ((front ++ [entry]) ++ rest) := by simpa using atChain
        obtain ⟨table', later, chained', swept, releases⟩ := ih chained atChain' tail enough
        have dropped : (entry :: rest).filter (fun other => !table.survives now other) =
            rest.filter fun other => !table.survives now other := List.filter_cons_of_neg (by simp [stays])
        rw [dropped]
        refine ⟨table', ?_, ?_, swept, releases⟩
        · simp only [sweepChain, atCell, expired, if_false, Option.bind_eq_bind, Option.bind_some]
          rwa [List.getLast?_concat] at later
        · rw [List.filter_cons_of_pos stays]
          simpa using chained'

/-- The entries reached after the chain of one slot has been filtered. -/
theorem mem_filtered_slot {chains : List (List Nat)} {slot : Nat} {chain : List Nat} {p : Nat → Bool}
    (atChain : chains[slot]? = some chain) {i entry : Nat} :
    (∃ left, (chains.set slot (chain.filter p))[i]? = some left ∧ entry ∈ left) ↔
      ∃ old, chains[i]? = some old ∧ entry ∈ old ∧ (i = slot → p entry = true) := by
  by_cases here : i = slot
  · subst here
    have bound : i < chains.length := (List.getElem?_eq_some_iff.mp atChain).1
    simp [List.getElem?_set_self bound, atChain, List.mem_filter]
  · simp [List.getElem?_set_ne (Ne.symm here), here]

/-- The sweep of one slot. What is left in the chains has not been evicted, so
the test is still the same for it. -/
theorem sweepSlot_spec (now : UInt64) {slot : Nat} (bound : slot < table.size.toNat) (chained : table.Chained chains) :
    ∃ first chain, chains[slot]? = some chain ∧ chain.Nodup ∧ sweepSlot now table slot = some first ∧
      first.Chained (chains.set slot (chain.filter (table.survives now))) ∧
      table.Swept first (chain.filter fun entry => !table.survives now entry) ∧
      table.Releases first (chain.filter fun entry => !table.survives now entry) ∧
      ∀ (i : Nat) left, (chains.set slot (chain.filter (table.survives now)))[i]? = some left → ∀ entry ∈ left,
        entry ∉ chain.filter (fun entry => !table.survives now entry) ∧ (∃ cell, read table.cells entry = some cell) ∧
          first.survives now entry = table.survives now entry := by
  obtain ⟨head, chain, atHead, atChain, linked⟩ := chained.chain_at bound
  obtain ⟨first, run, chained₁, swept₁, releases₁⟩ := @sweepChain_spec _ _ _ now slot table.cells.length [] chain head chained
    (by simpa using atChain) linked linked.length_le
  rw [List.nil_append] at chained₁
  refine ⟨first, chain, atChain, linked.nodup, ?_, chained₁, swept₁, releases₁, ?_⟩
  · have deref : table.deref (.slot slot) = some head := atHead
    simp only [sweepSlot, deref, Option.bind_eq_bind, Option.bind_some]
    exact run
  · intro i left atLeft entry member
    obtain ⟨old, atOld, inOld, lives⟩ := (mem_filtered_slot atChain).mp ⟨left, atLeft, member⟩
    have off : entry ∉ chain.filter (fun entry => !table.survives now entry) := by
      intro lost
      obtain ⟨inChain, dead⟩ := List.mem_filter.mp lost
      have stays := lives (chained.same_slot atOld atChain inOld inChain)
      simp [stays] at dead
    obtain ⟨cell, atCell⟩ := chained.allocated (Cache.mem_flatten atOld inOld)
    exact ⟨off, ⟨cell, atCell⟩, swept₁.survives_iff now off atCell⟩

/-- The sweep over a list of slots. -/
theorem sweepSlots_spec (now : UInt64) {slots : List Nat} (inside : ∀ i ∈ slots, i < table.size.toNat)
    (chained : table.Chained chains) :
    ∃ table' chains' gone, slots.foldlM (sweepSlot now) table = some table' ∧ table'.Chained chains' ∧
      table.Swept table' gone ∧ table.Releases table' gone ∧ gone.Nodup ∧
      (∀ (i : Nat) chain, chains[i]? = some chain →
        chains'[i]? = some (if i ∈ slots then chain.filter (table.survives now) else chain)) ∧
      ∀ entry, entry ∈ gone ↔ ∃ i ∈ slots, ∃ chain, chains[i]? = some chain ∧ entry ∈ chain ∧
        table.survives now entry = false := by
  induction slots generalizing table chains with
  | nil => exact ⟨table, chains, [], rfl, chained, .refl table, .refl table, List.nodup_nil, by simp, by simp⟩
  | cons slot slots ih =>
    have bound := inside slot (by simp)
    obtain ⟨first, chain, atChain, nodup, one, chained₁, swept₁, releases₁, alive⟩ := sweepSlot_spec now bound chained
    have atSlot : (chains.set slot (chain.filter (table.survives now)))[slot]? =
        some (chain.filter (table.survives now)) := List.getElem?_set_self (List.getElem?_eq_some_iff.mp atChain).1
    have elsewhere : ∀ i, i ≠ slot → (chains.set slot (chain.filter (table.survives now)))[i]? = chains[i]? :=
      fun i different => List.getElem?_set_ne (Ne.symm different)
    have inside₁ : ∀ i ∈ slots, i < first.size.toNat := by
      rw [swept₁.size]
      exact fun i member => inside i (by simp [member])
    obtain ⟨table', chains', gone, rest, chained', swept₂, releases₂, distinct, result, lost⟩ := ih inside₁ chained₁
    have goneInside : ∀ entry ∈ gone, entry ∉ chain.filter (fun entry => !table.survives now entry) ∧
        ∃ cell, read table.cells entry = some cell := by
      intro entry member
      obtain ⟨i, _, left, atLeft, inLeft, _⟩ := (lost entry).mp member
      obtain ⟨off, allocated, _⟩ := alive i left atLeft entry inLeft
      exact ⟨off, allocated⟩
    refine ⟨table', chains', chain.filter (fun entry => !table.survives now entry) ++ gone,
      FoldOption.foldlM_cons_iff.mpr ⟨first, one, rest⟩, chained',
      swept₁.trans swept₂ (fun entry member => (goneInside entry member).2) (fun entry member => (goneInside entry member).1),
      releases₁.trans releases₂, ?_, ?_, ?_⟩
    · refine List.nodup_append.mpr ⟨nodup.filter _, distinct, ?_⟩
      intro entry inFirst other inGone same
      subst same
      exact (goneInside entry inGone).1 inFirst
    · intro i old atOld
      by_cases here : i = slot
      · rw [here] at atOld ⊢
        cases Option.some.inj (atChain.symm.trans atOld)
        have twice : (chain.filter (table.survives now)).filter (first.survives now) =
            chain.filter (table.survives now) := by
          refine List.filter_eq_self.mpr fun entry member => ?_
          rw [(alive slot _ atSlot entry member).2.2]
          exact (List.mem_filter.mp member).2
        have swept : slot ∈ slot :: slots := by simp
        rw [result slot _ atSlot, twice, ite_self, if_pos swept]
      · have atOld₁ := atOld
        rw [← elsewhere i here] at atOld₁
        have same : old.filter (first.survives now) = old.filter (table.survives now) :=
          List.filter_congr fun entry member => (alive i old atOld₁ entry member).2.2
        rw [result i old atOld₁, same]
        simp [here]
    · intro entry
      rw [List.mem_append]
      constructor
      · intro either
        rcases either with inFirst | inGone
        · obtain ⟨inChain, dead⟩ := List.mem_filter.mp inFirst
          exact ⟨slot, by simp, chain, atChain, inChain, by simpa using dead⟩
        · obtain ⟨i, inSlots, left, atLeft, inLeft, dead⟩ := (lost entry).mp inGone
          rw [(alive i left atLeft entry inLeft).2.2] at dead
          obtain ⟨old, atOld, inOld, _⟩ := (mem_filtered_slot atChain).mp ⟨left, atLeft, inLeft⟩
          exact ⟨i, by simp [inSlots], old, atOld, inOld, dead⟩
      · rintro ⟨i, inSlots, old, atOld, inOld, dead⟩
        by_cases here : i = slot
        · rw [here] at atOld
          cases Option.some.inj (atChain.symm.trans atOld)
          exact Or.inl (List.mem_filter.mpr ⟨inOld, by simp [dead]⟩)
        · obtain ⟨left, atLeft, inLeft⟩ := (mem_filtered_slot atChain).mpr ⟨old, atOld, inOld, fun same => absurd same here⟩
          refine Or.inr ((lost entry).mpr ⟨i, by simpa [here] using inSlots, left, atLeft, inLeft, ?_⟩)
          rw [(alive i left atLeft entry inLeft).2.2, dead]

/-- `sysm_perform_cleanup_if_necessary` up to its final resize test. -/
def Cache.sweepIfDue (table : Cache α) (now : UInt64) : Option (Cache α) :=
  if table.cleanupDue now then table.sweep now else some table

/-- What is left of the function is the resize. -/
theorem sysmPerformCleanupIfNecessary_eq (table : Cache α) (now : UInt64) :
    sysmPerformCleanupIfNecessary table now = (table.sweepIfDue now).bind fun swept =>
      if table.cleanupDue now ∧ swept.count < swept.size / 4 then sysmCacheRehash swept else some swept := by
  unfold sysmPerformCleanupIfNecessary Cache.sweepIfDue
  cases table.cleanupDue now with
  | false => simp
  | true => simp only [if_true, true_and]; rfl

/-- The whole sweep: every chain keeps its survivors. -/
theorem Cache.Chained.sweep_spec (chained : table.Chained chains) (now : UInt64) :
    ∃ table' gone, table.sweep now = some table' ∧ table'.Chained (chains.map fun chain => chain.filter (table.survives now)) ∧
      Cache.Swept { table with lastCleanupTime := now } table' gone ∧
      Cache.Releases { table with lastCleanupTime := now } table' gone ∧ gone.Nodup ∧
      ∀ entry, entry ∈ gone ↔ entry ∈ chains.flatten ∧ table.survives now entry = false := by
  have started : Cache.Chained { table with lastCleanupTime := now } chains :=
    ⟨chained.slots, chained.buckets, chained.linked, chained.placed⟩
  have inSlots : ∀ i ∈ List.range table.size.toNat, i < (Cache.size { table with lastCleanupTime := now }).toNat :=
    fun i member => List.mem_range.mp member
  obtain ⟨table', chains', gone, run, chained', swept, releases, distinct, result, lost⟩ := sweepSlots_spec now inSlots started
  have same : chains' = chains.map fun chain => chain.filter (table.survives now) := by
    apply List.ext_getElem?
    intro i
    rw [List.getElem?_map]
    cases atChain : chains[i]? with
    | none =>
      have outside := List.getElem?_eq_none_iff.mp atChain
      have sizes := chained'.buckets
      rw [swept.size, ← chained.buckets] at sizes
      exact List.getElem?_eq_none (by omega)
    | some chain =>
      have inside : i ∈ List.range table.size.toNat := by
        rw [List.mem_range, ← chained.buckets]
        exact (List.getElem?_eq_some_iff.mp atChain).1
      rw [result i chain atChain, if_pos inside]
      rfl
  subst same
  refine ⟨table', gone, run, chained', swept, releases, distinct, fun entry => (lost entry).trans ?_⟩
  constructor
  · rintro ⟨i, _, chain, atChain, inChain, dead⟩
    exact ⟨Cache.mem_flatten atChain inChain, dead⟩
  · rintro ⟨member, dead⟩
    obtain ⟨i, _, chain, atChain, inChain, _⟩ := chained.mem_chain member
    have inside : i < table.size.toNat := by
      rw [← chained.buckets]
      exact (List.getElem?_eq_some_iff.mp atChain).1
    exact ⟨i, List.mem_range.mpr inside, chain, atChain, inChain, dead⟩

end Sysm
