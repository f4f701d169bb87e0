import Mathlib.Data.List.Basic

namespace FoldOption

variable {σ α : Type} {f : σ → α → Option σ} {xs : List α} {s t : σ}

/-- The steps are taken one after the other. -/
theorem foldlM_cons_iff {x : α} : (x :: xs).foldlM f s = some t ↔ ∃ next, f s x = some next ∧ xs.foldlM f next = some t := by
  rw [List.foldlM_cons]
  exact Option.bind_eq_some_iff

/-- What each step keeps holds at the end. -/
theorem foldlM_invariant {P : σ → Prop} (step : ∀ x ∈ xs, ∀ s t, P s → f s x = some t → P t) (start : P s)
    (run : xs.foldlM f s = some t) : P t := by
  induction xs generalizing s with
  | nil =>
    cases run
    exact start
  | cons x xs ih =>
    obtain ⟨next, here, later⟩ := foldlM_cons_iff.mp run
    have kept := step x (List.mem_cons_self ..) s next start here
    exact ih (fun y member => step y (List.mem_cons_of_mem _ member)) kept later

/-- If each step can be taken where the last one ends, all of them can. -/
theorem foldlM_total {P : σ → Prop} (step : ∀ x ∈ xs, ∀ s, P s → ∃ t, f s x = some t ∧ P t) (start : P s) :
    ∃ t, xs.foldlM f s = some t ∧ P t := by
  induction xs generalizing s with
  | nil => exact ⟨s, rfl, start⟩
  | cons x xs ih =>
    obtain ⟨next, here, kept⟩ := step x (List.mem_cons_self ..) s start
    obtain ⟨t, later, final⟩ := ih (fun y member => step y (List.mem_cons_of_mem _ member)) kept
    exact ⟨t, foldlM_cons_iff.mpr ⟨next, here, later⟩, final⟩

/-- Each step of a run that ends has been taken. -/
theorem foldlM_step {x : α} (run : xs.foldlM f s = some t) (member : x ∈ xs) : ∃ before after, f before x = some after := by
  induction xs generalizing s with
  | nil => cases member
  | cons y xs ih =>
    obtain ⟨next, here, later⟩ := foldlM_cons_iff.mp run
    rcases List.mem_cons.mp member with same | behind
    · exact ⟨s, next, same ▸ here⟩
    · exact ih later behind

end FoldOption
