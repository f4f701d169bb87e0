import Mathlib.Data.List.Basic

/-- A list on the heap: the elements in use, the number there is room for, and
the cells that are allocated. -/
structure HeapList (α : Type) where
  number : Nat
  size : Nat
  data : List α

namespace HeapList

/-- A statement of a loop that fills a list: it grows if it is full, an element
is written at `number` or right before, and `number` is counted up or down. -/
inductive Op (α : Type) where
  | grow (max : Nat)
  | store (element : α)
  | storeLast (element : α)
  | next
  | back

variable {α : Type}

/-- `count` cells with what is in `data`, and the memory behind. -/
def realloc (memory : Nat → α) (data : List α) (count : Nat) : List α :=
  data.take count ++ (List.range (count - data.length)).map fun i => memory (data.length + i)

def create (max : Nat) (memory : Nat → α) : HeapList α := ⟨0, max, realloc memory [] max⟩

/-- A write outside of the cells is a fault. -/
def write (list : HeapList α) (index : Nat) (element : α) : Option (HeapList α) :=
  if index < list.data.length then some { list with data := list.data.set index element } else none

/-- The elements in use. -/
def items (list : HeapList α) : List α := list.data.take list.number

/-- The index that a statement writes to. -/
def target (list : HeapList α) : Op α → Option Nat
  | .store _ => some list.number
  | .storeLast _ => some (list.number - 1)
  | _ => none

/-- All elements in use are inside, and there are as many cells as `size` says. -/
structure Sound (list : HeapList α) : Prop where
  bounded : list.number ≤ list.size
  allocated : list.data.length = list.size

section Run

variable (memory : Nat → α)

/-- There is no element before the first one, and `number` is not negative. -/
def step (list : HeapList α) : Op α → Option (HeapList α)
  | .grow max =>
    if list.size ≤ list.number then
      some { list with size := list.size + max, data := realloc memory list.data (list.size + max) }
    else some list
  | .store element => list.write list.number element
  | .storeLast element => if list.number = 0 then none else list.write (list.number - 1) element
  | .next => some { list with number := list.number + 1 }
  | .back => if list.number = 0 then none else some { list with number := list.number - 1 }

def run (list : HeapList α) : List (Op α) → Option (HeapList α)
  | [] => some list
  | op :: ops => do
    let list ← list.step memory op
    list.run ops

/-- Every statement can be made, with a sound list before and after, and what
holds in the end. -/
def Safe (list : HeapList α) : List (Op α) → (HeapList α → Prop) → Prop
  | [], post => list.Sound ∧ post list
  | op :: ops, post => list.Sound ∧ ∃ list', list.step memory op = some list' ∧ list'.Safe ops post

/-- What a loop that fills a list keeps: the list is sound at each step, each
write is inside of it, growth keeps what is there, and in the end it has exactly
the elements that were accepted. -/
structure Fills (start : HeapList α) (ops : List (Op α)) (accepted : List α) : Prop where
  sound : ∀ done rest, ops = done ++ rest → ∃ list, start.run memory done = some list ∧ list.Sound
  inside : ∀ done op rest list, ops = done ++ op :: rest → start.run memory done = some list →
    ∀ index ∈ list.target op, index < list.size
  kept : ∀ done max rest list, ops = done ++ .grow max :: rest → start.run memory done = some list →
    ∃ grown, list.step memory (.grow max) = some grown ∧ grown.number = list.number ∧ list.data <+: grown.data
  final : ∃ list, start.run memory ops = some list ∧ list.number = accepted.length ∧ list.items = accepted

end Run

variable {memory : Nat → α} {list list' : HeapList α} {ops more : List (Op α)} {post : HeapList α → Prop} {max : Nat}
  {items : List α}

theorem length_realloc (memory : Nat → α) (data : List α) (count : Nat) : (realloc memory data count).length = count := by
  rw [realloc, List.length_append, List.length_take, List.length_map, List.length_range]
  omega

/-- More cells keep what the cells had. -/
theorem prefix_realloc {data : List α} {count : Nat} (longer : data.length ≤ count) : data <+: realloc memory data count := by
  rw [realloc, List.take_of_length_le longer]
  exact List.prefix_append ..

theorem create_sound (max : Nat) (memory : Nat → α) : (create max memory).Sound where
  bounded := Nat.zero_le _
  allocated := length_realloc memory [] max

theorem Sound.length_items (sound : list.Sound) : list.items.length = list.number := by
  have bounded := sound.bounded
  rw [HeapList.items, List.length_take, sound.allocated]
  omega

theorem run_append : list.run memory (ops ++ more) = (list.run memory ops).bind fun list => list.run memory more := by
  induction ops generalizing list with
  | nil => rfl
  | cons op ops ih =>
    simp only [List.cons_append, run, Option.bind_eq_bind, Option.bind_assoc, ih]

theorem Safe.sound (safe : list.Safe memory ops post) : list.Sound := by
  cases ops with
  | nil => exact safe.1
  | cons op ops => exact safe.1

theorem Safe.mono {post' : HeapList α → Prop} (safe : list.Safe memory ops post) (weaker : ∀ list, post list → post' list) :
    list.Safe memory ops post' := by
  induction ops generalizing list with
  | nil => exact ⟨safe.1, weaker list safe.2⟩
  | cons op ops ih =>
    obtain ⟨sound, next, step, rest⟩ := safe
    exact ⟨sound, next, step, ih rest⟩

/-- Two pieces of a loop, one behind the other. -/
theorem Safe.append {middle : HeapList α → Prop} (first : list.Safe memory ops middle)
    (second : ∀ list, middle list → list.Safe memory more post) : list.Safe memory (ops ++ more) post := by
  induction ops generalizing list with
  | nil => exact second list first.2
  | cons op ops ih =>
    obtain ⟨sound, next, step, rest⟩ := first
    exact ⟨sound, next, step, ih rest⟩

theorem Safe.run (safe : list.Safe memory ops post) : ∃ list', list.run memory ops = some list' ∧ list'.Sound ∧ post list' := by
  induction ops generalizing list with
  | nil => exact ⟨list, rfl, safe⟩
  | cons op ops ih =>
    obtain ⟨sound, next, step, rest⟩ := safe
    obtain ⟨final, run, holds⟩ := ih rest
    exact ⟨final, by rw [HeapList.run, step]; exact run, holds⟩

/-- A state on the way is sound, and safe for the rest. -/
theorem Safe.reached {done rest : List (Op α)} (safe : list.Safe memory (done ++ rest) post) :
    ∃ list', list.run memory done = some list' ∧ list'.Safe memory rest post := by
  induction done generalizing list with
  | nil => exact ⟨list, rfl, safe⟩
  | cons op done ih =>
    obtain ⟨sound, next, step, later⟩ := safe
    obtain ⟨reached, run, rest⟩ := ih later
    exact ⟨reached, by rw [HeapList.run, step]; exact run, rest⟩

theorem Sound.inside {op : Op α} (sound : list.Sound) (step : list.step memory op = some list') :
    ∀ index ∈ list.target op, index < list.size := by
  intro index atIndex
  rw [← sound.allocated]
  cases op with
  | store element =>
    cases atIndex
    exact (Option.ite_none_right_eq_some.mp step).1
  | storeLast element =>
    cases atIndex
    exact (Option.ite_none_right_eq_some.mp (Option.ite_none_left_eq_some.mp step).2).1
  | grow max => cases atIndex
  | next => cases atIndex
  | back => cases atIndex

/-- Growth of a sound list changes neither the elements in use nor their number. -/
theorem Sound.grow (sound : list.Sound) (max : Nat) (memory : Nat → α) :
    ∃ grown, list.step memory (.grow max) = some grown ∧ grown.Sound ∧ grown.number = list.number ∧
      (0 < max → grown.number < grown.size) ∧ list.data <+: grown.data := by
  have bounded := sound.bounded
  have allocated := sound.allocated
  by_cases full : list.size ≤ list.number
  · refine ⟨_, if_pos full, ⟨?_, length_realloc memory list.data _⟩, rfl, ?_, prefix_realloc (by omega)⟩
    · exact Nat.le_add_right_of_le bounded
    · intro positive
      exact Nat.lt_of_le_of_lt bounded (Nat.lt_add_of_pos_right positive)
  · exact ⟨list, if_neg full, sound, rfl, fun _ => Nat.lt_of_not_le full, List.prefix_refl _⟩

theorem Safe.fills (safe : list.Safe memory ops fun list => list.items = items) : Fills memory list ops items where
  sound := by
    rintro done rest rfl
    obtain ⟨list', run, later⟩ := safe.reached
    exact ⟨list', run, later.sound⟩
  inside := by
    rintro done op rest list' rfl run
    obtain ⟨reached, run', sound, next, step, -⟩ := safe.reached
    rw [run] at run'
    cases run'
    exact sound.inside step
  kept := by
    rintro done max rest list' rfl run
    obtain ⟨reached, run', sound, -⟩ := safe.reached
    rw [run] at run'
    cases run'
    obtain ⟨grown, step, -, number, -, kept⟩ := sound.grow max memory
    exact ⟨grown, step, number, kept⟩
  final := by
    obtain ⟨final, run, sound, same⟩ := safe.run
    exact ⟨final, run, by rw [← same, sound.length_items], same⟩

/-- The list is sound and has these elements. -/
def Has (list : HeapList α) (items : List α) : Prop := list.Sound ∧ list.items = items

section Rules

variable {element last : α}

theorem create_has (max : Nat) (memory : Nat → α) : (create max memory).Has [] := ⟨create_sound max memory, rfl⟩

theorem Safe.fills_has (safe : list.Safe memory ops (Has · items)) : Fills memory list ops items :=
  (safe.mono fun _ has => has.2).fills

theorem Has.safe (has : list.Has items) : list.Safe memory [] (Has · items) := ⟨has.1, has⟩

/-- An element behind the others, where there is room. -/
def pushed (list : HeapList α) (element : α) : HeapList α := ⟨list.number + 1, list.size, list.data.set list.number element⟩

theorem Has.pushed (has : list.Has items) (room : list.number < list.size) (element : α) :
    (list.pushed element).Has (items ++ [element]) := by
  obtain ⟨⟨bounded, allocated⟩, same⟩ := has
  have inside : list.number < list.data.length := by rwa [allocated]
  refine ⟨⟨room, ?_⟩, ?_⟩
  · rw [HeapList.pushed, List.length_set]
    exact allocated
  · rw [HeapList.items, HeapList.pushed, List.take_add_one, List.take_set_of_le (Nat.le_refl _), List.getElem?_set_self inside,
      Option.toList_some, ← same]
    rfl

/-- What is written behind the others is no element before it is counted. -/
theorem Has.written (has : list.Has items) (element : α) :
    ({ list with data := list.data.set list.number element } : HeapList α).Has items := by
  obtain ⟨⟨bounded, allocated⟩, same⟩ := has
  refine ⟨⟨bounded, ?_⟩, ?_⟩
  · rw [List.length_set]
    exact allocated
  · rw [← same, HeapList.items, HeapList.items, List.take_set_of_le (Nat.le_refl _)]

theorem write_room (sound : list.Sound) (room : list.number < list.size) (element : α) :
    list.write list.number element = some { list with data := list.data.set list.number element } :=
  if_pos (by rwa [sound.allocated])

/-- A piece of a loop that begins with the growth of the list. -/
theorem Has.grow (has : list.Has items) (positive : 0 < max)
    (rest : ∀ grown : HeapList α, grown.Has items → grown.number < grown.size → grown.Safe memory ops post) :
    list.Safe memory (.grow max :: ops) post := by
  obtain ⟨sound, same⟩ := has
  obtain ⟨grown, step, sound', number, room, kept⟩ := sound.grow max memory
  refine ⟨sound, grown, step, rest grown ⟨sound', ?_⟩ (room positive)⟩
  have inside : list.number ≤ list.data.length := by
    rw [sound.allocated]
    exact sound.bounded
  obtain ⟨behind, data⟩ := kept
  rw [HeapList.items, number, ← data, List.take_append_of_le_length inside, ← same, HeapList.items]

/-- `list->data[list->number++] = element` -/
theorem Has.store_next (has : list.Has items) (room : list.number < list.size) (element : α) :
    list.Safe memory [.store element, .next] (Has · (items ++ [element])) := by
  refine ⟨has.1, _, write_room has.1 room element, (has.written element).1, _, rfl, ?_⟩
  exact (has.pushed room element).safe

/-- `p = &list->data[list->number++]; *p = element` -/
theorem Has.next_store (has : list.Has items) (room : list.number < list.size)
    (rest : (list.pushed element).Safe memory ops post) : list.Safe memory (.next :: .storeLast element :: ops) post := by
  have counted : ({ list with number := list.number + 1 } : HeapList α).Sound := ⟨room, has.1.allocated⟩
  refine ⟨has.1, _, rfl, counted, list.pushed element, ?_, rest⟩
  rw [step, if_neg (Nat.succ_ne_zero _), Nat.add_sub_cancel]
  exact if_pos (by rw [has.1.allocated]; exact room)

/-- A write to the last element. -/
theorem Has.replace (has : list.Has (items ++ [last])) (element : α) :
    list.Safe memory [.storeLast element] (Has · (items ++ [element])) := by
  obtain ⟨sound, same⟩ := has
  have number := sound.length_items
  rw [same, List.length_append, List.length_singleton] at number
  have bounded := sound.bounded
  have allocated := sound.allocated
  refine ⟨sound, { list with data := list.data.set (list.number - 1) element }, ?_, ?_⟩
  · rw [step, if_neg (by omega)]
    exact if_pos (by omega)
  · have kept : ({ list with data := list.data.set (list.number - 1) element } : HeapList α).Sound := by
      refine ⟨bounded, ?_⟩
      rw [List.length_set]
      exact allocated
    refine ⟨kept, kept, ?_⟩
    have place : list.number - 1 = items.length := by omega
    rw [HeapList.items] at same ⊢
    rw [List.take_set, same, place, List.set_append_right _ _ (Nat.le_refl _), Nat.sub_self, List.set_cons_zero]

/-- An element that is taken back is none. -/
theorem Has.retract (has : list.Has items) (room : list.number < list.size) (element : α) :
    list.Safe memory [.next, .storeLast element, .back] (Has · items) := by
  have back : (list.pushed element).step memory .back = some { list with data := list.data.set list.number element } := by
    have counted : (list.pushed element).number ≠ 0 := Nat.succ_ne_zero list.number
    rw [step, if_neg counted]
    rfl
  exact has.next_store room ⟨(has.pushed room element).1, _, back, (has.written element).safe⟩

/-- A loop over rows, of which each has its own piece and brings its own elements. -/
theorem Has.rows {ρ : Type} {piece : ρ → List (Op α)} {each : ρ → List α}
    (round : ∀ (list : HeapList α) (items : List α) (row : ρ), list.Has items →
      list.Safe memory (piece row) (Has · (items ++ each row)))
    (has : list.Has items) (rows : List ρ) :
    list.Safe memory (rows.flatMap piece) (Has · (items ++ rows.flatMap each)) := by
  induction rows generalizing list items with
  | nil =>
    simp only [List.flatMap_nil, List.append_nil]
    exact has.safe
  | cons row rows ih =>
    rw [List.flatMap_cons, List.flatMap_cons, ← List.append_assoc]
    exact (round list items row has).append fun _ has' => ih has'

end Rules

end HeapList
