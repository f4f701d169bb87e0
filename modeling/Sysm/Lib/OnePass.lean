import Mathlib.Data.List.Basic

namespace OnePass

variable {α κ : Type} (marks : α → Bool) (key : α → κ)

/-- Goes once over the rows with the keys seen so far. A marked row adds its
key; for any other row the answer is whether its key has been seen. -/
def answers [DecidableEq κ] : List κ → List α → List Bool
  | _, [] => []
  | seen, row :: rows =>
    if marks row then answers (key row :: seen) rows else decide (key row ∈ seen) :: answers seen rows

/-- The keys seen after the rows. -/
def seenAfter (seen : List κ) (rows : List α) : List κ := ((rows.filter marks).map key).reverse ++ seen

/-- Some marked row of the table has the key. -/
def Marked (table : List α) (k : κ) : Prop := ∃ row ∈ table, marks row = true ∧ key row = k

instance [DecidableEq κ] (table : List α) (k : κ) : Decidable (Marked marks key table k) :=
  inferInstanceAs (Decidable (∃ row ∈ table, marks row = true ∧ key row = k))

/-- The answers by a look at the whole table for each row. -/
def lookups [DecidableEq κ] (table rows : List α) : List Bool :=
  (rows.filter fun row => !marks row).map fun row => decide (Marked marks key table (key row))

/-- At each row without a mark, its key has been seen exactly if the table has
a marked row for it. -/
def InTurn (seen : List κ) (table rows : List α) : Prop :=
  ∀ before row after, rows = before ++ row :: after → marks row = false →
    (key row ∈ seenAfter marks key seen before ↔ Marked marks key table (key row))

variable {marks key}

theorem seenAfter_cons (seen : List κ) (row : α) (rows : List α) :
    seenAfter marks key seen (row :: rows) = seenAfter marks key (if marks row then key row :: seen else seen) rows := by
  cases marked : marks row with
  | true => simp [seenAfter, marked]
  | false => simp [seenAfter, marked]

theorem mem_seenAfter {seen : List κ} {rows : List α} {k : κ} :
    k ∈ seenAfter marks key seen rows ↔ Marked marks key rows k ∨ k ∈ seen := by
  simp only [seenAfter, Marked, List.mem_append, List.mem_reverse, List.mem_map, List.mem_filter, and_assoc]

theorem seenAfter_append (seen : List κ) (rows others : List α) :
    seenAfter marks key seen (rows ++ others) = seenAfter marks key (seenAfter marks key seen rows) others := by
  simp [seenAfter]

theorem answers_append [DecidableEq κ] (seen : List κ) (rows others : List α) :
    answers marks key seen (rows ++ others) =
      answers marks key seen rows ++ answers marks key (seenAfter marks key seen rows) others := by
  induction rows generalizing seen with
  | nil => simp [answers, seenAfter]
  | cons row rows ih =>
    cases marked : marks row with
    | true => simp only [List.cons_append, answers, marked, if_true, ih, seenAfter_cons]
    | false =>
      simp only [List.cons_append, answers, marked, Bool.false_eq_true, if_false, ih, seenAfter_cons]

theorem inTurn_cons {seen : List κ} {table rows : List α} {row : α} :
    InTurn marks key seen table (row :: rows) ↔
      (marks row = false → (key row ∈ seen ↔ Marked marks key table (key row))) ∧
        InTurn marks key (if marks row then key row :: seen else seen) table rows := by
  constructor
  · intro inTurn
    refine ⟨fun unmarked => inTurn [] row rows rfl unmarked, ?_⟩
    intro before other after split unmarked
    have here := inTurn (row :: before) other after (by rw [split]; rfl) unmarked
    rwa [seenAfter_cons] at here
  · rintro ⟨first, later⟩ before other after split unmarked
    cases before with
    | nil =>
      cases split
      exact first unmarked
    | cons head before =>
      cases split
      rw [seenAfter_cons]
      exact later before other after rfl unmarked

/-- One pass is enough exactly for rows in turn. -/
theorem inTurn_iff_answers [DecidableEq κ] {seen : List κ} {table rows : List α} :
    InTurn marks key seen table rows ↔ answers marks key seen rows = lookups marks key table rows := by
  induction rows generalizing seen with
  | nil =>
    refine iff_of_true ?_ rfl
    intro before row after split
    simp at split
  | cons row rows ih =>
    rw [inTurn_cons, ih]
    cases marked : marks row with
    | true => simp [answers, lookups, marked]
    | false => simp [answers, lookups, marked]

theorem count_lookups [DecidableEq κ] (table rows : List α) (answer : Bool) :
    (lookups marks key table rows).count answer =
      rows.countP fun row => !marks row && decide (Marked marks key table (key row)) == answer := by
  rw [lookups, List.count, List.countP_map, List.countP_filter]
  refine List.countP_congr fun row _ => ?_
  rw [Function.comp_apply, Bool.and_comm]

end OnePass
