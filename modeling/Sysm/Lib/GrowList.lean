import Mathlib.Data.List.Basic

/-- An array on the heap, with the number of elements in use. -/
structure GrowList (α : Type) where
  number : Nat
  cells : List α

namespace GrowList

variable {α : Type}

/-- The number of elements there is room for. -/
def size (list : GrowList α) : Nat := list.cells.length

/-- Room for `max` elements, which hold what is in the memory. -/
def create (max : Nat) (memory : Nat → α) : GrowList α := ⟨0, (List.range max).map memory⟩

/-- Room for `max` more elements. -/
def grow (max : Nat) (memory : Nat → α) (list : GrowList α) : GrowList α :=
  { list with cells := list.cells ++ (List.range max).map fun i => memory (list.size + i) }

/-- Grows an array that is full. -/
def growFull (max : Nat) (memory : Nat → α) (list : GrowList α) : GrowList α :=
  if list.size ≤ list.number then list.grow max memory else list

def read (list : GrowList α) (index : Nat) : Option α := list.cells[index]?

/-- A write outside of the array is a fault. -/
def write (list : GrowList α) (index : Nat) (element : α) : Option (GrowList α) :=
  if index < list.size then some { list with cells := list.cells.set index element } else none

/-- `GROW(list); list->data[list->number++] = element` -/
def push (max : Nat) (memory : Nat → α) (list : GrowList α) (element : α) : Option (GrowList α) := do
  let list := list.growFull max memory
  let list ← list.write list.number element
  return { list with number := list.number + 1 }

/-- The elements in use. -/
def items (list : GrowList α) : List α := list.cells.take list.number

/-- No element in use is outside of the array. -/
def InBounds (list : GrowList α) : Prop := list.number ≤ list.size

variable {list : GrowList α} {max : Nat} {memory : Nat → α}

@[simp] theorem create_number : (create max memory).number = 0 := rfl

@[simp] theorem create_size : (create max memory).size = max := by simp [create, size]

@[simp] theorem growFull_number : (list.growFull max memory).number = list.number := by
  unfold growFull
  split
  · rfl
  · rfl

/-- There is room for one more element then. -/
theorem growFull_room (bound : list.InBounds) (positive : 0 < max) (memory : Nat → α) :
    list.number < (list.growFull max memory).size := by
  unfold InBounds at bound
  unfold growFull
  split
  · have longer : (list.grow max memory).size = list.size + max := by simp [grow, size]
    omega
  · omega

theorem growFull_read (bound : list.InBounds) (positive : 0 < max) (memory : Nat → α) :
    ∃ cell, (list.growFull max memory).read list.number = some cell :=
  ⟨_, List.getElem?_eq_getElem (growFull_room bound positive memory)⟩

theorem growFull_items (bound : list.InBounds) : (list.growFull max memory).items = list.items := by
  have same := @growFull_number α list max memory
  rw [items, items, same]
  unfold growFull
  split
  · exact List.take_append_of_le_length bound
  · rfl

theorem write_some {index : Nat} (inside : index < list.size) (element : α) :
    ∃ list', list.write index element = some list' ∧ list'.number = list.number ∧ list'.size = list.size :=
  ⟨_, if_pos inside, rfl, List.length_set⟩

theorem write_number {list' : GrowList α} {index : Nat} {element : α} (write : list.write index element = some list') :
    list'.number = list.number := by
  obtain ⟨_, same⟩ := Option.ite_none_right_eq_some.mp write
  cases same
  rfl

/-- A write to an element in use changes it alone. -/
theorem write_items {index : Nat} (used : index < list.number) (bound : list.InBounds) (element : α) :
    ∃ list', list.write index element = some list' ∧ list'.number = list.number ∧ list'.InBounds ∧
      list'.items = list.items.set index element := by
  have inside : index < list.size := Nat.lt_of_lt_of_le used bound
  refine ⟨{ list with cells := list.cells.set index element }, if_pos inside, rfl, ?_, ?_⟩
  · show list.number ≤ (list.cells.set index element).length
    rw [List.length_set]
    exact bound
  · show (list.cells.set index element).take list.number = (list.cells.take list.number).set index element
    exact List.take_set

theorem items_getElem? {index : Nat} (used : index < list.number) : list.items[index]? = list.read index := by
  rw [items, read, List.getElem?_take_of_lt used]

theorem length_items (bound : list.InBounds) : list.items.length = list.number := by
  rw [items, List.length_take]
  exact Nat.min_eq_left bound

theorem read_write {list' : GrowList α} {index : Nat} {element : α} (write : list.write index element = some list')
    (other : Nat) : list'.read other = if other = index then some element else list.read other := by
  obtain ⟨inside, same⟩ := Option.ite_none_right_eq_some.mp write
  cases same
  by_cases here : other = index
  · rw [if_pos here, here]
    exact List.getElem?_set_self inside
  · rw [if_neg here]
    exact List.getElem?_set_ne (Ne.symm here)

/-- The cell behind the elements in use can be written, if there is one. The
elements stay as they are, and with the cell there is one more. -/
theorem write_behind (room : list.number < list.size) (element : α) :
    ∃ list', list.write list.number element = some list' ∧ list'.number = list.number ∧ list'.size = list.size ∧
      list'.items = list.items ∧ ({ list' with number := list'.number + 1 } : GrowList α).items = list.items ++ [element] := by
  obtain ⟨written, write, same, size⟩ := write_some room element
  have cells : written.cells = list.cells.set list.number element := by
    obtain ⟨_, atWritten⟩ := Option.ite_none_right_eq_some.mp write
    cases atWritten
    rfl
  have inside : list.number < list.cells.length := room
  refine ⟨written, write, same, size, ?_, ?_⟩
  · rw [items, same, cells, List.take_set_of_le (Nat.le_refl _), items]
  · show written.cells.take (written.number + 1) = list.cells.take list.number ++ [element]
    rw [cells, same, List.take_add_one, List.take_set_of_le (Nat.le_refl _), List.getElem?_set_self inside,
      Option.toList_some]

/-- So it can in an array that has grown. -/
theorem growFull_write (bound : list.InBounds) (positive : 0 < max) (memory : Nat → α) (element : α) :
    ∃ list', (list.growFull max memory).write list.number element = some list' ∧ list'.number = list.number ∧
      list'.number + 1 ≤ list'.size ∧ list'.items = list.items ∧
        ({ list' with number := list'.number + 1 } : GrowList α).items = list.items ++ [element] := by
  have number := @growFull_number α list max memory
  have room := growFull_room bound positive memory
  rw [← number] at room
  obtain ⟨written, write, same, size, items, pushed⟩ := write_behind room element
  rw [growFull_items bound] at items pushed
  rw [number] at write same room
  exact ⟨written, write, same, by omega, items, pushed⟩

/-- A cell of an array that has grown was there before or comes from the memory. -/
theorem growFull_read_cases {index : Nat} {cell : α} (atCell : (list.growFull max memory).read index = some cell) :
    list.read index = some cell ∨ ∃ i, cell = memory i := by
  unfold growFull at atCell
  split at atCell
  · have atCell : (list.cells ++ (List.range max).map fun i => memory (list.size + i))[index]? = some cell := atCell
    rw [List.getElem?_append] at atCell
    split at atCell
    · exact Or.inl atCell
    · rw [List.getElem?_map] at atCell
      obtain ⟨i, _, same⟩ := Option.map_eq_some_iff.mp atCell
      exact Or.inr ⟨_, same.symm⟩
  · exact Or.inl atCell

theorem growFull_read_some {index : Nat} {cell : α} (atCell : list.read index = some cell) :
    (list.growFull max memory).read index = some cell := by
  unfold growFull
  split
  · obtain ⟨inside, _⟩ := List.getElem?_eq_some_iff.mp atCell
    show (list.cells ++ (List.range max).map fun i => memory (list.size + i))[index]? = some cell
    rw [List.getElem?_append_left inside]
    exact atCell
  · exact atCell

/-- An element that is written behind the others and then counted, with room
for the next one. -/
theorem write_growFull (room : list.number < list.size) (positive : 0 < max) (memory : Nat → α) (element : α) :
    ∃ written, list.write list.number element = some written ∧
      ∃ next, next = ({ written with number := written.number + 1 } : GrowList α).growFull max memory ∧
        next.number = list.number + 1 ∧ next.number < next.size ∧ (∀ k < list.number, next.read k = list.read k) ∧
          next.read list.number = some element ∧
            ∀ index cell, next.read index = some cell → cell = element ∨ list.read index = some cell ∨ ∃ i, cell = memory i := by
  obtain ⟨written, write, same, size⟩ := write_some room element
  have pushed : ({ written with number := written.number + 1 } : GrowList α).InBounds := by
    show written.number + 1 ≤ written.size
    omega
  have grown : (({ written with number := written.number + 1 } : GrowList α).growFull max memory).number = list.number + 1 := by
    rw [growFull_number]
    exact congrArg (· + 1) same
  refine ⟨written, write, _, rfl, grown, ?_, fun k old => ?_, ?_, fun index cell atCell => ?_⟩
  · rw [growFull_number]
    exact growFull_room pushed positive memory
  · have inside : k < list.cells.length := Nat.lt_trans old room
    have atCell : list.read k = some list.cells[k] := List.getElem?_eq_getElem inside
    rw [atCell]
    refine growFull_read_some ?_
    show written.read k = some list.cells[k]
    rw [read_write write, if_neg (by omega), atCell]
  · refine growFull_read_some ?_
    show written.read list.number = some element
    rw [read_write write, if_pos rfl]
  · rcases growFull_read_cases atCell with old | fresh
    · have old : written.read index = some cell := old
      rw [read_write write] at old
      split at old
      · exact Or.inl (Option.some.inj old).symm
      · exact Or.inr (Or.inl old)
    · exact Or.inr (Or.inr fresh)

/-- One more element is in use. -/
theorem push_some (bound : list.InBounds) (positive : 0 < max) (memory : Nat → α) (element : α) :
    ∃ list', list.push max memory element = some list' ∧ list'.InBounds ∧ list'.number = list.number + 1 ∧
      list'.items = list.items ++ [element] := by
  obtain ⟨written, write, same, inRange, _, items⟩ := growFull_write bound positive memory element
  have number := @growFull_number α list max memory
  rw [← number] at write
  refine ⟨{ written with number := written.number + 1 }, ?_, inRange, by rw [same], items⟩
  simp only [push, write, Option.bind_eq_bind, Option.bind_some, Option.pure_def]

end GrowList
