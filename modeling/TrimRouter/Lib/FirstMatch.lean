import Mathlib.Data.List.Nodup

/-!
# Lists in which at most one element matches

A list that is searched for its first match is a function of its elements, and not of their
order, when no two of them can match the same query.
-/

namespace TrimRouter.FirstMatch

universe u v

variable {α : Type u} {κ : Type v} {p : α → Bool} {items other : List α} {a b : α}

/-- No two places of the list match. -/
def AtMostOne (p : α → Bool) (items : List α) : Prop := (items.filter p).length ≤ 1

theorem AtMostOne.eq (once : AtMostOne p items) (left : a ∈ items) (right : b ∈ items)
    (matchLeft : p a = true) (matchRight : p b = true) : a = b := by
  have inLeft : a ∈ items.filter p := List.mem_filter.mpr ⟨left, matchLeft⟩
  have inRight : b ∈ items.filter p := List.mem_filter.mpr ⟨right, matchRight⟩
  unfold AtMostOne at once
  rcases single : items.filter p with _ | ⟨c, rest⟩
  · rw [single] at inLeft
    cases inLeft
  · rw [single, List.length_cons] at once
    have nothing : rest = [] := List.eq_nil_of_length_eq_zero (by omega)
    rw [single, nothing, List.mem_singleton] at inLeft inRight
    rw [inLeft, inRight]

/-- Elements that match the same query have the same key, and no key occurs twice. -/
theorem AtMostOne.of_keys (key : α → κ) (distinct : (items.map key).Nodup)
    (keyed : ∀ a b, p a = true → p b = true → key a = key b) : AtMostOne p items := by
  unfold AtMostOne
  have matching : ((items.filter p).map key).Nodup :=
    distinct.sublist (List.filter_sublist.map key)
  rcases found : items.filter p with _ | ⟨a, _ | ⟨b, rest⟩⟩
  · exact Nat.zero_le 1
  · exact Nat.le_refl 1
  · have matchA : p a = true := (List.mem_filter.mp (found ▸ List.mem_cons_self)).2
    have matchB : p b = true :=
      (List.mem_filter.mp (found ▸ List.mem_cons_of_mem _ List.mem_cons_self)).2
    rw [found, List.map_cons, List.map_cons, keyed a b matchA matchB, List.nodup_cons] at matching
    exact absurd List.mem_cons_self matching.1

theorem AtMostOne.find?_eq_some (once : AtMostOne p items) :
    items.find? p = some a ↔ a ∈ items ∧ p a = true := by
  constructor
  · intro found
    exact ⟨List.mem_of_find?_eq_some found, List.find?_some found⟩
  · intro ⟨listed, matches'⟩
    cases found : items.find? p with
    | none => exact absurd matches' (List.find?_eq_none.mp found a listed)
    | some b =>
      rw [once.eq (List.mem_of_find?_eq_some found) listed (List.find?_some found) matches']

theorem AtMostOne.perm (once : AtMostOne p items) (same : other.Perm items) :
    AtMostOne p other := by
  unfold AtMostOne at once ⊢
  rw [(same.filter p).length_eq]
  exact once

theorem AtMostOne.find?_perm (once : AtMostOne p items) (same : other.Perm items) :
    other.find? p = items.find? p := by
  ext a
  rw [once.find?_eq_some, (once.perm same).find?_eq_some, same.mem_iff]

end TrimRouter.FirstMatch
