import Mathlib.Data.List.Basic

namespace Groups

variable {α : Type} {width : Nat} {xs : List α}

/-- The number of groups of `width` elements. The last group may be shorter. -/
def count (width n : Nat) : Nat := (n + width - 1) / width

/-- The elements of a group. -/
def group (width k : Nat) (xs : List α) : List α := (xs.drop (k * width)).take width

theorem count_zero (positive : 0 < width) : count width 0 = 0 := by
  rw [count, Nat.div_eq_zero_iff]
  omega

/-- The first element of a group is one more group. -/
theorem count_of_dvd {n : Nat} (positive : 0 < width) (full : n % width = 0) : count width n = n / width := by
  have parts := Nat.div_add_mod n width
  have sum : n + width - 1 = width - 1 + width * (n / width) := by omega
  rw [count, sum, Nat.add_mul_div_left _ _ positive, Nat.div_eq_of_lt (by omega), Nat.zero_add]

theorem count_of_not_dvd {n : Nat} (positive : 0 < width) (notFull : n % width ≠ 0) : count width n = n / width + 1 := by
  have parts := Nat.div_add_mod n width
  have less := Nat.mod_lt n positive
  have sum : n + width - 1 = n % width - 1 + width * (n / width + 1) := by
    rw [Nat.mul_add]
    omega
  rw [count, sum, Nat.add_mul_div_left _ _ positive, Nat.div_eq_of_lt (by omega), Nat.zero_add]

theorem count_succ {n : Nat} (positive : 0 < width) : count width (n + 1) = n / width + 1 := by
  rw [count, show n + 1 + width - 1 = n + width by omega, Nat.add_div_right n positive]

/-- There is a group for each start inside. -/
theorem lt_count_iff {k n : Nat} (positive : 0 < width) : k < count width n ↔ k * width < n := by
  have parts := Nat.div_add_mod n width
  have less := Nat.mod_lt n positive
  rw [Nat.mul_comm] at parts
  by_cases full : n % width = 0
  · rw [count_of_dvd positive full, Nat.lt_div_iff_mul_lt_of_dvd (by omega) (Nat.dvd_of_mod_eq_zero full)]
  · rw [count_of_not_dvd positive full, Nat.lt_succ_iff, Nat.le_div_iff_mul_le positive]
    refine ⟨fun bound => Nat.lt_of_le_of_ne bound fun same => full ?_, Nat.le_of_lt⟩
    rw [← same, Nat.mul_mod_left]

/-- A group that is full gets nothing more. -/
theorem group_append_full (k : Nat) (full : (k + 1) * width ≤ xs.length) (ys : List α) :
    group width k (xs ++ ys) = group width k xs := by
  rw [Nat.add_mul, Nat.one_mul] at full
  rw [group, group, List.drop_append_of_le_length (by omega), List.take_append_of_le_length]
  rw [List.length_drop]
  omega

/-- The last group gets what is added while there is room in it. -/
theorem group_append_last {k : Nat} (started : k * width ≤ xs.length) (room : xs.length < (k + 1) * width) (x : α) :
    group width k (xs ++ [x]) = group width k xs ++ [x] := by
  rw [Nat.add_mul, Nat.one_mul] at room
  have short : (xs.drop (k * width)).length < width := by
    rw [List.length_drop]
    omega
  have longer : (xs.drop (k * width) ++ [x]).length ≤ width := by
    rw [List.length_append, List.length_singleton]
    omega
  rw [group, group, List.drop_append_of_le_length started, List.take_of_length_le longer,
    List.take_of_length_le (Nat.le_of_lt short)]

theorem group_beyond {k : Nat} (beyond : xs.length ≤ k * width) : group width k xs = [] := by
  rw [group, List.drop_eq_nil_of_le beyond, List.take_nil]

/-- Up to any group, the groups have the elements in their order. -/
theorem flatMap_groups_take (n : Nat) (xs : List α) :
    ((List.range n).flatMap fun k => group width k xs) = xs.take (n * width) := by
  induction n with
  | zero => simp
  | succ n ih =>
    rw [List.range_succ, List.flatMap_append, ih, List.flatMap_singleton, Nat.add_mul, Nat.one_mul, List.take_add]
    rfl

/-- No element is lost, and none is in two groups. -/
theorem flatMap_groups (positive : 0 < width) (xs : List α) :
    ((List.range (count width xs.length)).flatMap fun k => group width k xs) = xs := by
  rw [flatMap_groups_take, List.take_of_length_le]
  have parts := Nat.div_add_mod xs.length width
  have less := Nat.mod_lt xs.length positive
  rw [Nat.mul_comm]
  by_cases full : xs.length % width = 0
  · rw [count_of_dvd positive full]
    omega
  · rw [count_of_not_dvd positive full, Nat.mul_add]
    omega

/-- What is made of the groups. -/
def foldGroups {β : Type} (f : β → α → β) (init : β) (width : Nat) (xs : List α) : List β :=
  (List.range (count width xs.length)).map fun k => (group width k xs).foldl f init

section Fold

variable {β : Type} {f : β → α → β} {init : β}

theorem length_foldGroups : (foldGroups f init width xs).length = count width xs.length := by
  rw [foldGroups, List.length_map, List.length_range]

/-- With the first element of a group comes one more result. -/
theorem foldGroups_push (positive : 0 < width) (full : xs.length % width = 0) (x : α) :
    foldGroups f init width (xs ++ [x]) = foldGroups f init width xs ++ [f init x] := by
  have parts := Nat.div_add_mod xs.length width
  rw [foldGroups, foldGroups, List.length_append, List.length_singleton, count_succ positive, count_of_dvd positive full,
    List.range_succ, List.map_append, List.map_singleton]
  refine congrArg₂ _ (List.map_congr_left fun k member => ?_) ?_
  · have before : (k + 1) * width ≤ xs.length / width * width := Nat.mul_le_mul_right width (List.mem_range.mp member)
    rw [group_append_full k (Nat.le_trans before (Nat.div_mul_le_self _ _))]
  · have last : xs.length = xs.length / width * width := by
      rw [Nat.mul_comm]
      omega
    rw [group_append_last (by omega) (by rw [Nat.add_mul]; omega), group_beyond (by omega)]
    rfl

/-- Another element of a group changes the last result. -/
theorem foldGroups_last (positive : 0 < width) (notFull : xs.length % width ≠ 0) (x : α) :
    ∃ last, (foldGroups f init width xs)[count width xs.length - 1]? = some last ∧
      foldGroups f init width (xs ++ [x]) =
        (foldGroups f init width xs).set (count width xs.length - 1) (f last x) := by
  have parts := Nat.div_add_mod xs.length width
  have less := Nat.mod_lt xs.length positive
  have groups := count_of_not_dvd positive notFull
  rw [Nat.mul_comm] at parts
  refine ⟨(group width (xs.length / width) xs).foldl f init, ?_, ?_⟩
  · rw [foldGroups, List.getElem?_map, groups, Nat.add_sub_cancel, List.getElem?_range (by omega), Option.map_some]
  · have more : foldGroups f init width xs =
        ((List.range (xs.length / width)).map fun k => (group width k xs).foldl f init) ++
          [(group width (xs.length / width) xs).foldl f init] := by
      rw [foldGroups, groups, List.range_succ, List.map_append, List.map_singleton]
    have length : ((List.range (xs.length / width)).map fun k => (group width k xs).foldl f init).length =
        xs.length / width := by rw [List.length_map, List.length_range]
    rw [more, groups, Nat.add_sub_cancel, List.set_append_right _ _ (by omega), length, Nat.sub_self,
      List.set_cons_zero, foldGroups, List.length_append, List.length_singleton, count_succ positive, List.range_succ,
      List.map_append, List.map_singleton]
    refine congrArg₂ _ (List.map_congr_left fun k member => ?_) ?_
    · have before : (k + 1) * width ≤ xs.length / width * width := Nat.mul_le_mul_right width (List.mem_range.mp member)
      rw [group_append_full k (Nat.le_trans before (Nat.div_mul_le_self _ _))]
    · rw [group_append_last (by omega) (by rw [Nat.add_mul]; omega), List.foldl_append]
      rfl

end Fold

end Groups
