import Mathlib.Data.List.Basic

/-!
# Histories

A history is the list of the events so far, the latest one last.  `Each P` says of every event
that it has `P` together with what came before it, which is how a safety property of traces is
stated; it is kept by adding events that have `P`.
-/

namespace TrimRouter.History

universe u v

variable {α : Type u} {β : Type v}

/-- Every event has `P` together with the events before it. -/
def Each (P : List α → α → Prop) (history : List α) : Prop :=
  ∀ before a after, history = before ++ a :: after → P before a

variable {P : List α → α → Prop} {history new : List α} {a : α}

theorem Each.nil : Each P [] := by
  intro before a after split
  simp at split

theorem Each.concat (each : Each P history) (now : P history a) : Each P (history ++ [a]) := by
  intro before b after split
  rcases List.eq_nil_or_concat after with last | ⟨front, c, more⟩
  · subst last
    obtain ⟨rfl, rest⟩ := List.append_inj' split rfl
    cases rest
    exact now
  · subst more
    have longer : history ++ [a] = (before ++ b :: front) ++ [c] := by
      rw [split, List.concat_eq_append, List.append_assoc, List.cons_append]
    obtain ⟨same, -⟩ := List.append_inj' longer rfl
    exact each before b front same

/-- Events about which `P` says nothing can be added. -/
theorem Each.append_free (each : Each P history) (free : ∀ a ∈ new, ∀ before, P before a) :
    Each P (history ++ new) := by
  induction new generalizing history with
  | nil =>
    rw [List.append_nil]
    exact each
  | cons a new ih =>
    rw [List.append_cons]
    refine ih (each.concat (free a List.mem_cons_self history)) ?_
    intro b listed
    exact free b (List.mem_cons_of_mem a listed)

/-- The latest value that an event has. -/
def lastSome (value : α → Option β) (history : List α) : Option β :=
  history.reverse.findSome? value

variable {value : α → Option β} {b : β}

theorem lastSome_concat :
    lastSome value (history ++ [a]) = (value a).or (lastSome value history) := by
  unfold lastSome
  rw [List.reverse_append, List.reverse_singleton, List.singleton_append, List.findSome?_cons]
  cases value a <;> rfl

theorem lastSome_concat_some (has : value a = some b) :
    lastSome value (history ++ [a]) = some b := by
  rw [lastSome_concat, has, Option.some_or]

end TrimRouter.History
