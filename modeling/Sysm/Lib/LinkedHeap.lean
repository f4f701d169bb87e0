import Mathlib.Data.List.Nodup
import Mathlib.Data.List.Perm.Subperm

namespace LinkedHeap

/-- Allocated cells by address. A freed cell leaves a hole, so that an
address is never handed out twice. -/
abbrev Heap (β : Type) := List (Option β)

variable {β : Type}

def read (heap : Heap β) (address : Nat) : Option β := (heap[address]?).join

def write (heap : Heap β) (address : Nat) (cell : β) : Heap β := heap.set address (some cell)

/-- The new cell lives at address `heap.length`. -/
def alloc (heap : Heap β) (cell : β) : Heap β := heap ++ [some cell]

def free (heap : Heap β) (address : Nat) : Heap β := heap.set address none

theorem read_lt {heap : Heap β} {address : Nat} {cell : β} (atCell : read heap address = some cell) :
    address < heap.length := by
  by_contra outside
  have absent : heap[address]? = none := List.getElem?_eq_none (Nat.le_of_not_lt outside)
  simp [read, absent] at atCell

@[simp] theorem length_write (heap : Heap β) (address : Nat) (cell : β) :
    (write heap address cell).length = heap.length := by
  simp [write]

@[simp] theorem length_alloc (heap : Heap β) (cell : β) :
    (alloc heap cell).length = heap.length + 1 := by
  simp [alloc]

@[simp] theorem length_free (heap : Heap β) (address : Nat) : (free heap address).length = heap.length := by
  simp [free]

theorem read_write_self {heap : Heap β} {address : Nat} {old : β} (cell : β)
    (atCell : read heap address = some old) : read (write heap address cell) address = some cell := by
  have bound := read_lt atCell
  simp [read, write, bound]

theorem read_write_other {heap : Heap β} {address other : Nat} (cell : β) (different : other ≠ address) :
    read (write heap address cell) other = read heap other := by
  simp [read, write, Ne.symm different]

theorem read_alloc_new (heap : Heap β) (cell : β) : read (alloc heap cell) heap.length = some cell := by
  simp [read, alloc]

theorem read_alloc_old {heap : Heap β} {address : Nat} {old : β} (cell : β)
    (atCell : read heap address = some old) : read (alloc heap cell) address = some old := by
  have bound := read_lt atCell
  simpa only [read, alloc, List.getElem?_append_left bound] using atCell

theorem read_free_self (heap : Heap β) (address : Nat) : read (free heap address) address = none := by
  by_cases bound : address < heap.length
  · simp [read, free, bound]
  · have outside : (free heap address)[address]? = none := List.getElem?_eq_none (by simpa using bound)
    rw [read, outside]
    rfl

theorem read_free_other {heap : Heap β} {address other : Nat} (different : other ≠ address) :
    read (free heap address) other = read heap other := by
  simp [read, free, Ne.symm different]

theorem write_free_comm (heap : Heap β) {address other : Nat} (cell : β) (different : other ≠ address) :
    write (free heap address) other cell = free (write heap other cell) address :=
  List.set_comm _ _ (Ne.symm different)

/-- Following `next` from `start` meets exactly `addresses`, then a null link. -/
inductive Chain (next : β → Option Nat) (heap : Heap β) : Option Nat → List Nat → Prop
  | nil : Chain next heap none []
  | cons {address cell rest} : read heap address = some cell →
      Chain next heap (next cell) rest → Chain next heap (some address) (address :: rest)

namespace Chain

variable {next : β → Option Nat} {heap heap' : Heap β} {start : Option Nat} {addresses : List Nat}

/-- A start address determines its chain. -/
theorem unique {other : List Nat} (chain : Chain next heap start addresses)
    (chain' : Chain next heap start other) : addresses = other := by
  induction chain generalizing other with
  | nil => cases chain'; rfl
  | cons atCell _ ih =>
    cases chain' with
    | cons at' tail' =>
      cases Option.some.inj (atCell.symm.trans at')
      exact congrArg (List.cons _) (ih tail')

theorem allocated (chain : Chain next heap start addresses) :
    ∀ address ∈ addresses, ∃ cell, read heap address = some cell := by
  induction chain with
  | nil => simp
  | @cons address cell rest atCell _ ih =>
    intro other member
    rcases List.mem_cons.mp member with rfl | later
    · exact ⟨cell, atCell⟩
    · exact ih other later

/-- From every address on a chain hangs a chain of at most the same length. -/
theorem suffix (chain : Chain next heap start addresses) {address : Nat} (member : address ∈ addresses) :
    ∃ rest, Chain next heap (some address) (address :: rest) ∧ rest.length < addresses.length := by
  induction chain with
  | nil => simp at member
  | @cons first cell rest atCell tail ih =>
    rcases List.mem_cons.mp member with rfl | later
    · exact ⟨rest, .cons atCell tail, by simp⟩
    · obtain ⟨rest', chain', shorter⟩ := ih later
      exact ⟨rest', chain', by simp only [List.length_cons]; omega⟩

/-- A chain never returns to an address: the second visit would have the
same suffix as the first, which is longer. -/
theorem nodup (chain : Chain next heap start addresses) : addresses.Nodup := by
  induction chain with
  | nil => exact List.nodup_nil
  | @cons first cell rest atCell tail ih =>
    refine List.nodup_cons.mpr ⟨?_, ih⟩
    intro again
    obtain ⟨rest', chain', shorter⟩ := tail.suffix again
    have same := (Chain.cons atCell tail).unique chain'
    have lengths := congrArg List.length same
    simp only [List.length_cons] at lengths
    omega

/-- A chain has at most as many cells as the heap. -/
theorem length_le (chain : Chain next heap start addresses) : addresses.length ≤ heap.length := by
  have bound : addresses ⊆ List.range heap.length := by
    intro address member
    obtain ⟨cell, atCell⟩ := chain.allocated address member
    exact List.mem_range.mpr (read_lt atCell)
  simpa using (List.subperm_of_subset chain.nodup bound).length_le

/-- Only the links of a chain's own cells matter. -/
theorem congr (chain : Chain next heap start addresses)
    (same : ∀ address ∈ addresses, ∀ cell, read heap address = some cell →
      ∃ cell', read heap' address = some cell' ∧ next cell' = next cell) :
    Chain next heap' start addresses := by
  induction chain with
  | nil => exact .nil
  | @cons first cell rest atCell tail ih =>
    obtain ⟨cell', at', link⟩ := same first (List.mem_cons_self ..) cell atCell
    refine .cons at' ?_
    rw [link]
    exact ih fun address member => same address (List.mem_cons_of_mem _ member)

theorem alloc (chain : Chain next heap start addresses) (cell : β) :
    Chain next (alloc heap cell) start addresses :=
  chain.congr fun _ _ _ atCell => ⟨_, read_alloc_old cell atCell, rfl⟩

/-- Writing a cell off the chain leaves the chain alone. -/
theorem write_off (chain : Chain next heap start addresses) {address : Nat} (cell : β)
    (off : address ∉ addresses) : Chain next (write heap address cell) start addresses := by
  refine chain.congr fun other member old atCell => ⟨old, ?_, rfl⟩
  rw [read_write_other cell (by rintro rfl; exact off member), atCell]

theorem free_off (chain : Chain next heap start addresses) {address : Nat} (off : address ∉ addresses) :
    Chain next (free heap address) start addresses := by
  refine chain.congr fun other member old atCell => ⟨old, ?_, rfl⟩
  rw [read_free_other (by rintro rfl; exact off member), atCell]

/-- The chain that hangs from a cell in the middle of a chain. -/
theorem behind {front rest : List Nat} {address : Nat} {cell : β} (chain : Chain next heap start (front ++ address :: rest))
    (atCell : read heap address = some cell) : Chain next heap (next cell) rest := by
  induction front generalizing start with
  | nil =>
    cases chain with
    | cons at' tail =>
      cases Option.some.inj (atCell.symm.trans at')
      exact tail
  | cons first others ih =>
    cases chain with
    | cons _ tail => exact ih tail

/-- Hanging a chain at the link of a cell replaces what hung there before. -/
theorem relink {front old rest : List Nat} {last : Nat} {before cell : β} {start' : Option Nat}
    (chain : Chain next heap start (front ++ last :: old)) (atCell : read heap last = some before)
    (link : next cell = start') (tail : Chain next heap start' rest) (off : last ∉ rest) :
    Chain next (write heap last cell) start (front ++ last :: rest) := by
  have tail' := tail.write_off cell off
  induction front generalizing start with
  | nil =>
    cases chain with
    | cons _ _ => exact .cons (read_write_self cell atCell) (by rw [link]; exact tail')
  | cons first others ih =>
    have distinct := chain.nodup
    cases chain with
    | @cons _ found _ atFirst behind =>
      have different : first ≠ last := by
        rintro rfl
        simp at distinct
      refine .cons ?_ (ih behind)
      rw [read_write_other cell different, atFirst]

end Chain

/-- Appending an address to one chain of a bucket array adds it to the
addresses of the whole array. -/
theorem flatten_set_append {chains : List (List Nat)} {i : Nat} {chain : List Nat}
    (atChain : chains[i]? = some chain) (address : Nat) :
    (chains.set i (chain ++ [address])).flatten.Perm (address :: chains.flatten) := by
  induction chains generalizing i with
  | nil => simp at atChain
  | cons first rest ih =>
    cases i with
    | zero =>
      cases Option.some.inj atChain
      simp only [List.set_cons_zero, List.flatten_cons, List.append_assoc, List.singleton_append]
      exact List.perm_middle
    | succ i =>
      simp only [List.set_cons_succ, List.flatten_cons]
      exact ((ih atChain).append_left first).trans List.perm_middle

end LinkedHeap
