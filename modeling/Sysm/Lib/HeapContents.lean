import Sysm.Lib.LinkedHeap

namespace LinkedHeap

variable {β γ : Type} (view : β → List γ) {heap heap' : Heap β} {address : Nat} {old cell : β}

/-- What is seen of a cell, and nothing where there is none. -/
def viewAt (heap : Heap β) (address : Nat) : List γ := ((read heap address).map view).getD []

/-- What is seen of all cells, in the order of their addresses. -/
def contents (heap : Heap β) : List γ := (List.range heap.length).flatMap (viewAt view heap)

variable {view}

theorem viewAt_of_read (atCell : read heap address = some cell) : viewAt view heap address = view cell := by
  simp only [viewAt, atCell, Option.map_some, Option.getD_some]

theorem viewAt_of_unused (unused : read heap address = none) : viewAt view heap address = [] := by
  simp only [viewAt, unused, Option.map_none, Option.getD_none]

theorem contents_congr (length : heap'.length = heap.length)
    (same : ∀ address, viewAt view heap' address = viewAt view heap address) :
    contents view heap' = contents view heap := by
  unfold contents
  rw [length]
  exact List.flatMap_congr fun address _ => same address

/-- Some of the cells have been taken out: they and what is left make up the whole. -/
theorem contents_drop {gone : List Nat} (distinct : gone.Nodup) (inside : ∀ address ∈ gone, address < heap.length)
    (length : heap'.length = heap.length)
    (left : ∀ address, viewAt view heap' address = if address ∈ gone then [] else viewAt view heap address) :
    (contents view heap).Perm (gone.flatMap (viewAt view heap) ++ contents view heap') := by
  let taken : Nat → Bool := fun address => decide (address ∈ gone)
  have parts : ((List.range heap.length).filter taken ++ (List.range heap.length).filter fun address => !taken address).Perm
      (List.range heap.length) := List.filter_append_perm taken _
  have same : ((List.range heap.length).filter taken).Perm gone := by
    refine (List.perm_ext_iff_of_nodup (List.nodup_range.filter _) distinct).mpr fun address => ?_
    simp only [List.mem_filter, List.mem_range, taken, decide_eq_true_eq]
    exact ⟨And.right, fun member => ⟨inside address member, member⟩⟩
  have before := parts.flatMap_right (viewAt view heap)
  have after := parts.flatMap_right (viewAt view heap')
  rw [List.flatMap_append] at before after
  have empty : ((List.range heap.length).filter taken).flatMap (viewAt view heap') = [] := by
    refine List.flatMap_eq_nil_iff.mpr fun address member => ?_
    rw [left address, if_pos (of_decide_eq_true (List.mem_filter.mp member).2)]
  have rest : ((List.range heap.length).filter fun address => !taken address).flatMap (viewAt view heap') =
      ((List.range heap.length).filter fun address => !taken address).flatMap (viewAt view heap) := by
    refine List.flatMap_congr fun address member => ?_
    have kept : address ∉ gone := by simpa [taken] using (List.mem_filter.mp member).2
    rw [left address, if_neg kept]
  rw [empty, rest, List.nil_append] at after
  unfold contents
  rw [length]
  exact before.symm.trans ((same.flatMap_right _).append after)

theorem contents_free (atCell : read heap address = some old) :
    (contents view heap).Perm (view old ++ contents view (free heap address)) := by
  have drop := @contents_drop _ _ view heap (free heap address) [address] (List.nodup_singleton _)
    (by simpa using read_lt atCell) (length_free _ _) ?_
  · rwa [List.flatMap_singleton, viewAt_of_read atCell] at drop
  · intro other
    by_cases same : other = address
    · subst same
      rw [viewAt_of_unused (read_free_self _ _), if_pos (List.mem_singleton_self _)]
    · rw [viewAt, read_free_other same, if_neg (by simpa using same)]
      rfl

/-- The old contents of a cell make room for the new ones. -/
theorem contents_write (atCell : read heap address = some old) (cell : β) :
    (view old ++ contents view (write heap address cell)).Perm (view cell ++ contents view heap) := by
  have before := @contents_free _ _ view heap address old atCell
  have after := @contents_free _ _ view _ address cell (read_write_self cell atCell)
  have same : contents view (free (write heap address cell) address) = contents view (free heap address) := by
    refine contents_congr (by simp) fun other => ?_
    by_cases here : other = address
    · rw [here, viewAt_of_unused (read_free_self _ _), viewAt_of_unused (read_free_self _ _)]
    · rw [viewAt, viewAt, read_free_other here, read_free_other here, read_write_other cell here]
  rw [same] at after
  refine ((after.append_left (view old)).trans ?_).trans (before.append_left (view cell)).symm
  rw [← List.append_assoc, ← List.append_assoc]
  exact List.perm_append_comm.append_right _

theorem contents_alloc (heap : Heap β) (cell : β) : contents view (alloc heap cell) = contents view heap ++ view cell := by
  unfold contents
  rw [length_alloc, List.range_succ, List.flatMap_append, List.flatMap_singleton,
    viewAt_of_read (read_alloc_new heap cell)]
  refine congrArg (· ++ view cell) (List.flatMap_congr fun address member => ?_)
  have bound := List.mem_range.mp member
  simp only [viewAt, read, alloc, List.getElem?_append_left bound]

end LinkedHeap
