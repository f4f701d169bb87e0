import Mathlib.Data.List.Infix

namespace JavaString

/-- A `String` is a list of UTF-16 code units. -/
abbrev JString := List UInt16

/-- A literal of the source, which has ASCII characters only. -/
def literal (s : String) : JString := s.toList.map fun c => UInt16.ofNat c.toNat

variable {α : Type} {pattern s : List α} {i stop : Nat}

/-- A pattern that is not empty ends inside of the string. -/
theorem place_add_length_le (nonempty : pattern ≠ []) (here : pattern <+: s.drop i) : i + pattern.length ≤ s.length := by
  have length := here.length_le
  rw [List.length_drop] at length
  have positive := List.length_pos_of_ne_nil nonempty
  omega

/-- The pattern and what is behind it, up to some place, stand in the string. -/
theorem append_substring_present (here : pattern <+: s.drop i) (range : i + pattern.length ≤ stop) :
    pattern ++ (s.take stop).drop (i + pattern.length) <:+: s := by
  have shorter : pattern <+: (s.take stop).drop i := by
    rw [List.drop_take, List.prefix_take_iff]
    exact ⟨here, by omega⟩
  have whole : pattern ++ (s.take stop).drop (i + pattern.length) = (s.take stop).drop i := by
    rw [← List.drop_drop]
    exact List.prefix_append_drop shorter |>.symm
  rw [whole]
  exact (List.drop_suffix ..).isInfix.trans (List.take_prefix ..).isInfix

variable [DecidableEq α]

def contains (s pattern : List α) : Bool := decide (pattern <:+: s)

def endsWith (s pattern : List α) : Bool := decide (pattern <:+ s)

/-- The place of the first occurrence. -/
def indexOf (pattern : List α) : List α → Option Nat
  | [] => if pattern = [] then some 0 else none
  | c :: s => if pattern <+: c :: s then some 0 else (indexOf pattern s).map (· + 1)

/-- The place of the last occurrence. -/
def lastIndexOf (pattern : List α) : List α → Option Nat
  | [] => if pattern = [] then some 0 else none
  | c :: s => match lastIndexOf pattern s with
    | some i => some (i + 1)
    | none => if pattern <+: c :: s then some 0 else none

/-- Fails on a range that is reversed or goes beyond the end. -/
def substring (s : List α) (start stop : Nat) : Option (List α) :=
  if start ≤ stop ∧ stop ≤ s.length then some ((s.take stop).drop start) else none

@[simp] theorem contains_iff : contains s pattern = true ↔ pattern <:+: s := decide_eq_true_iff

@[simp] theorem endsWith_iff : endsWith s pattern = true ↔ pattern <:+ s := decide_eq_true_iff

theorem contains_eq_false (absent : ¬pattern <:+: s) : contains s pattern = false := decide_eq_false absent

theorem endsWith_eq_false (other : ¬pattern <:+ s) : endsWith s pattern = false := decide_eq_false other

theorem indexOf_eq_none_iff : indexOf pattern s = none ↔ ¬pattern <:+: s := by
  induction s with
  | nil => simp [indexOf]
  | cons c s ih =>
    rw [indexOf, List.infix_cons_iff]
    by_cases first : pattern <+: c :: s
    · simp [first]
    · simp [first, ih]

theorem indexOf_some (found : indexOf pattern s = some i) : pattern <+: s.drop i := by
  induction s generalizing i with
  | nil =>
    obtain ⟨rfl, -⟩ := Option.ite_none_right_eq_some.mp found
    exact List.nil_prefix
  | cons c s ih =>
    rw [indexOf] at found
    by_cases first : pattern <+: c :: s
    · rw [if_pos first] at found
      cases found
      exact first
    · rw [if_neg first] at found
      obtain ⟨j, later, rfl⟩ := Option.map_eq_some_iff.mp found
      exact ih later

theorem lastIndexOf_some (found : lastIndexOf pattern s = some i) : pattern <+: s.drop i := by
  induction s generalizing i with
  | nil =>
    obtain ⟨rfl, -⟩ := Option.ite_none_right_eq_some.mp found
    exact List.nil_prefix
  | cons c s ih =>
    rw [lastIndexOf] at found
    cases later : lastIndexOf pattern s with
    | some j =>
      rw [later] at found
      cases found
      exact ih later
    | none =>
      rw [later] at found
      obtain ⟨first, same⟩ := Option.ite_none_right_eq_some.mp found
      cases same
      exact first

end JavaString
