import Sysm.Lib.LinkedHeap

namespace LinkedHeap

variable {β γ κ : Type} {slot : β → κ → Option Nat} {owners : Heap β} {cells : Heap γ} {address : Nat} {old new : β}

theorem read_alloc_lt {heap : Heap β} {address : Nat} (cell : β) (bound : address < heap.length) :
    read (alloc heap cell) address = read heap address := by
  rw [read, alloc, List.getElem?_append_left bound]
  rfl

/-- The block at the address has the cell in the slot. -/
def Holds (slot : β → κ → Option Nat) (owners : Heap β) (address : Nat) (k : κ) (cell : Nat) : Prop :=
  ∃ owner, read owners address = some owner ∧ slot owner k = some cell

/-- The cells that are allocated are those that some block holds, and no two
slots hold the same. -/
structure Owns (slot : β → κ → Option Nat) (owners : Heap β) (cells : Heap γ) : Prop where
  allocated : ∀ {address k cell}, Holds slot owners address k cell → read cells cell ≠ none
  once : ∀ {address k address' k' cell}, Holds slot owners address k cell → Holds slot owners address' k' cell →
    address = address' ∧ k = k'
  held : ∀ {cell}, read cells cell ≠ none → ∃ address k, Holds slot owners address k cell

theorem Holds.of_write {k : κ} {other cell : Nat} (holds : Holds slot (write owners address new) other k cell)
    (atBlock : read owners address = some old) :
    other = address ∧ slot new k = some cell ∨ other ≠ address ∧ Holds slot owners other k cell := by
  obtain ⟨owner, atOwner, inSlot⟩ := holds
  by_cases here : other = address
  · subst here
    rw [read_write_self new atBlock] at atOwner
    cases atOwner
    exact Or.inl ⟨rfl, inSlot⟩
  · rw [read_write_other new here] at atOwner
    exact Or.inr ⟨here, owner, atOwner, inSlot⟩

theorem Holds.write_other {k : κ} {other cell : Nat} (holds : Holds slot owners other k cell)
    (different : other ≠ address) : Holds slot (write owners address new) other k cell := by
  obtain ⟨owner, atOwner, inSlot⟩ := holds
  exact ⟨owner, (read_write_other new different).trans atOwner, inSlot⟩

theorem Holds.write_self {k : κ} {cell : Nat} (atBlock : read owners address = some old)
    (inSlot : slot new k = some cell) : Holds slot (write owners address new) address k cell :=
  ⟨new, read_write_self new atBlock, inSlot⟩

theorem Holds.of_alloc {k : κ} {other cell : Nat} (holds : Holds slot (alloc owners new) other k cell)
    (empty : ∀ k, slot new k = none) : Holds slot owners other k cell := by
  obtain ⟨owner, atOwner, inSlot⟩ := holds
  have bound : other < (alloc owners new).length := read_lt atOwner
  rw [length_alloc] at bound
  by_cases last : other = owners.length
  · subst last
    rw [read_alloc_new] at atOwner
    cases atOwner
    rw [empty k] at inSlot
    cases inSlot
  · refine ⟨owner, ?_, inSlot⟩
    rwa [read_alloc_lt new (by omega)] at atOwner

theorem Holds.alloc {k : κ} {other cell : Nat} (holds : Holds slot owners other k cell) :
    Holds slot (alloc owners new) other k cell := by
  obtain ⟨owner, atOwner, inSlot⟩ := holds
  exact ⟨owner, read_alloc_old new atOwner, inSlot⟩

theorem Holds.of_free {k : κ} {other cell : Nat} (holds : Holds slot (free owners address) other k cell) :
    other ≠ address ∧ Holds slot owners other k cell := by
  obtain ⟨owner, atOwner, inSlot⟩ := holds
  by_cases here : other = address
  · subst here
    rw [read_free_self] at atOwner
    cases atOwner
  · rw [read_free_other here] at atOwner
    exact ⟨here, owner, atOwner, inSlot⟩

theorem Holds.free {k : κ} {other cell : Nat} (holds : Holds slot owners other k cell) (different : other ≠ address) :
    Holds slot (free owners address) other k cell := by
  obtain ⟨owner, atOwner, inSlot⟩ := holds
  exact ⟨owner, (read_free_other different).trans atOwner, inSlot⟩

namespace Owns

/-- A new block that holds nothing. -/
theorem alloc (owns : Owns slot owners cells) (empty : ∀ k, slot new k = none) :
    Owns slot (LinkedHeap.alloc owners new) cells where
  allocated holds := owns.allocated (holds.of_alloc empty)
  once first second := owns.once (first.of_alloc empty) (second.of_alloc empty)
  held allocated := by
    obtain ⟨address, k, holds⟩ := owns.held allocated
    exact ⟨address, k, holds.alloc⟩

/-- A write that leaves the slots of the block as they are. -/
theorem write (owns : Owns slot owners cells) (atBlock : read owners address = some old)
    (same : ∀ k, slot new k = slot old k) : Owns slot (LinkedHeap.write owners address new) cells := by
  have before {other k cell} (holds : Holds slot (LinkedHeap.write owners address new) other k cell) :
      Holds slot owners other k cell := by
    rcases holds.of_write atBlock with ⟨rfl, inSlot⟩ | ⟨_, kept⟩
    · exact ⟨old, atBlock, (same k).symm.trans inSlot⟩
    · exact kept
  refine ⟨fun holds => owns.allocated (before holds), fun first second => owns.once (before first) (before second), ?_⟩
  intro cell allocated
  obtain ⟨other, k, holds⟩ := owns.held allocated
  by_cases here : other = address
  · subst here
    obtain ⟨owner, atOwner, inSlot⟩ := holds
    rw [atBlock] at atOwner
    cases atOwner
    exact ⟨other, k, Holds.write_self atBlock ((same k).trans inSlot)⟩
  · exact ⟨other, k, holds.write_other here⟩

/-- A new cell, put into an empty slot. -/
theorem acquire (owns : Owns slot owners cells) (atBlock : read owners address = some old) {k : κ}
    (empty : slot old k = none) (inSlot : slot new k = some cells.length)
    (others : ∀ k', k' ≠ k → slot new k' = slot old k') (cell : γ) :
    Owns slot (LinkedHeap.write owners address new) (LinkedHeap.alloc cells cell) := by
  have fresh {other k'} (holds : Holds slot owners other k' cells.length) : False := by
    have allocated := owns.allocated holds
    obtain ⟨owner, there⟩ := Option.ne_none_iff_exists'.mp allocated
    exact absurd (read_lt there) (Nat.lt_irrefl _)
  have before {other k' cell} (holds : Holds slot (LinkedHeap.write owners address new) other k' cell) :
      other = address ∧ k' = k ∧ cell = cells.length ∨ Holds slot owners other k' cell := by
    rcases holds.of_write atBlock with ⟨rfl, there⟩ | ⟨_, kept⟩
    · by_cases same : k' = k
      · subst same
        rw [inSlot] at there
        exact Or.inl ⟨rfl, rfl, (Option.some.inj there).symm⟩
      · exact Or.inr ⟨old, atBlock, (others k' same).symm.trans there⟩
    · exact Or.inr kept
  constructor
  · intro other k' cell' holds
    rcases before holds with ⟨_, _, rfl⟩ | kept
    · rw [read_alloc_new]
      exact Option.some_ne_none _
    · obtain ⟨found, there⟩ := Option.ne_none_iff_exists'.mp (owns.allocated kept)
      rw [read_alloc_old cell there]
      exact Option.some_ne_none _
  · intro other k' other' k'' cell' first second
    rcases before first with ⟨rfl, rfl, rfl⟩ | kept
    · rcases before second with ⟨rfl, rfl, _⟩ | kept'
      · exact ⟨rfl, rfl⟩
      · exact absurd kept' fresh
    · rcases before second with ⟨rfl, rfl, rfl⟩ | kept'
      · exact absurd kept fresh
      · exact owns.once kept kept'
  · intro cell' allocated
    by_cases last : cell' = cells.length
    · subst last
      exact ⟨address, k, Holds.write_self atBlock inSlot⟩
    · have there : read cells cell' ≠ none := by
        obtain ⟨found, there⟩ := Option.ne_none_iff_exists'.mp allocated
        have bound := read_lt there
        rw [length_alloc] at bound
        rwa [read_alloc_lt cell (by omega)] at allocated
      obtain ⟨other, k', holds⟩ := owns.held there
      by_cases here : other = address
      · subst here
        obtain ⟨owner, atOwner, found⟩ := holds
        rw [atBlock] at atOwner
        cases atOwner
        have different : k' ≠ k := by
          rintro rfl
          rw [empty] at found
          cases found
        exact ⟨other, k', Holds.write_self atBlock ((others k' different).trans found)⟩
      · exact ⟨other, k', holds.write_other here⟩

/-- The block goes, with all that it holds. -/
theorem release (owns : Owns slot owners cells) (atBlock : read owners address = some old) {left : Heap γ}
    (gone : ∀ cell, (∃ k, slot old k = some cell) → read left cell = none)
    (kept : ∀ cell, (∀ k, slot old k ≠ some cell) → read left cell = read cells cell) :
    Owns slot (free owners address) left := by
  constructor
  · intro other k cell holds
    obtain ⟨different, before⟩ := holds.of_free
    have outside : ∀ k, slot old k ≠ some cell := fun k' inSlot =>
      different (owns.once before ⟨old, atBlock, inSlot⟩).1
    rw [kept cell outside]
    exact owns.allocated before
  · intro other k other' k' cell first second
    exact owns.once first.of_free.2 second.of_free.2
  · intro cell allocated
    have outside : ∀ k, slot old k ≠ some cell := fun k inSlot => allocated (gone cell ⟨k, inSlot⟩)
    rw [kept cell outside] at allocated
    obtain ⟨other, k, holds⟩ := owns.held allocated
    refine ⟨other, k, holds.free ?_⟩
    rintro rfl
    obtain ⟨owner, atOwner, inSlot⟩ := holds
    rw [atBlock] at atOwner
    cases atOwner
    exact outside k inSlot

/-- Where no block is left, no cell is. -/
theorem no_cells (owns : Owns slot owners cells) (noBlocks : ∀ address, read owners address = none) (cell : Nat) :
    read cells cell = none := by
  by_contra allocated
  obtain ⟨address, k, owner, atOwner, _⟩ := owns.held allocated
  rw [noBlocks address] at atOwner
  cases atOwner

end Owns

/-- Frees the cells one after the other, each of which must be allocated. -/
def freeAll (cells : Heap γ) : List Nat → Option (Heap γ)
  | [] => some cells
  | cell :: rest => do
    let _ ← read cells cell
    freeAll (free cells cell) rest

theorem freeAll_spec {gone : List Nat} (distinct : gone.Nodup) (allocated : ∀ cell ∈ gone, read cells cell ≠ none) :
    ∃ left, freeAll cells gone = some left ∧ (∀ cell ∈ gone, read left cell = none) ∧
      ∀ cell, cell ∉ gone → read left cell = read cells cell := by
  induction gone generalizing cells with
  | nil => exact ⟨cells, rfl, by simp, fun _ _ => rfl⟩
  | cons first rest ih =>
    obtain ⟨fresh, distinct⟩ := List.nodup_cons.mp distinct
    obtain ⟨found, there⟩ := Option.ne_none_iff_exists'.mp (allocated first List.mem_cons_self)
    have others : ∀ cell ∈ rest, read (free cells first) cell ≠ none := by
      intro cell member
      have different : cell ≠ first := fun same => fresh (same ▸ member)
      rw [read_free_other different]
      exact allocated cell (List.mem_cons_of_mem _ member)
    obtain ⟨left, run, gone, kept⟩ := ih distinct others
    refine ⟨left, ?_, ?_, ?_⟩
    · rw [freeAll, there]
      exact run
    · intro cell member
      rcases List.mem_cons.mp member with rfl | member
      · rw [kept cell fresh, read_free_self]
      · exact gone cell member
    · intro cell outside
      rw [List.mem_cons, not_or] at outside
      rw [kept cell outside.2, read_free_other outside.1]

end LinkedHeap
