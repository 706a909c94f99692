import Mathlib.Data.List.Basic

/-!
# Texts that can be taken apart

* `split_last`: a text is split at its last separator in one way only.
* `intercalate_inj`: fields without the separator can be told from the text that joins them.
-/

namespace TrimRouter.Separated

universe u v

variable {α : Type u} {β : Type v} {x : α} {front front' field field' : List α}

theorem split_last (clean : x ∉ field) (clean' : x ∉ field')
    (same : front ++ x :: field = front' ++ x :: field') : front = front' ∧ field = field' := by
  rcases List.append_eq_append_iff.mp same with ⟨rest, fronts, fields⟩ | ⟨rest, fronts, fields⟩
  · cases rest with
    | nil => exact ⟨by rw [fronts, List.append_nil], (List.cons.inj fields).2⟩
    | cons first rest =>
      refine absurd ?_ clean
      rw [(List.cons.inj fields).2]
      exact List.mem_append_right _ List.mem_cons_self
  · cases rest with
    | nil => exact ⟨by rw [fronts, List.append_nil], (List.cons.inj fields).2.symm⟩
    | cons first rest =>
      refine absurd ?_ clean'
      rw [(List.cons.inj fields).2]
      exact List.mem_append_right _ List.mem_cons_self

theorem map_intercalate {f : α → β} {fields : List (List α)} :
    ([x].intercalate fields).map f = [f x].intercalate (fields.map (List.map f)) := by
  induction fields with
  | nil => rfl
  | cons first rest ih =>
    cases rest with
    | nil => simp
    | cons second rest =>
      have rest := ih
      rw [List.map_cons] at rest
      rw [List.map_cons, List.map_cons, List.intercalate_cons_cons,
        List.intercalate_cons_cons, List.map_append, List.map_append, rest]
      rfl

/-- A text that joins fields begins with the first one. -/
theorem intercalate_ne_nil {fields : List (List α)} (written : field ≠ []) :
    [x].intercalate (field :: fields) ≠ [] := by
  cases fields with
  | nil =>
    rw [List.intercalate_singleton]
    exact written
  | cons second rest =>
    rw [List.intercalate_cons_cons]
    simp

/-- Fields that are not empty and do not have the separator are the same when the texts that join
them are. -/
theorem intercalate_inj [DecidableEq α] {fields others : List (List α)}
    (clean : ∀ field ∈ fields, x ∉ field ∧ field ≠ [])
    (clean' : ∀ field ∈ others, x ∉ field ∧ field ≠ [])
    (same : [x].intercalate fields = [x].intercalate others) : fields = others := by
  have undotted : ∀ field ∈ fields, x ∉ field := fun field member => (clean field member).1
  have undotted' : ∀ field ∈ others, x ∉ field := fun field member => (clean' field member).1
  cases fields with
  | nil =>
    cases others with
    | nil => rfl
    | cons first rest =>
      exact absurd same.symm (intercalate_ne_nil (clean' first List.mem_cons_self).2)
  | cons first rest =>
    cases others with
    | nil => exact absurd same (intercalate_ne_nil (clean first List.mem_cons_self).2)
    | cons other more =>
      rw [← List.splitOn_intercalate x undotted (List.cons_ne_nil _ _), same,
        List.splitOn_intercalate x undotted' (List.cons_ne_nil _ _)]

end TrimRouter.Separated
