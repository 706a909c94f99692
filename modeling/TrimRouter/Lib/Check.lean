import Mathlib.Data.List.Basic

/-!
# Checked computations

Validation code is a sequence of checks, each of which may end it with an error.  It is
written in `Except` with `ensure` (a condition) and `require` (a value that may be missing).
The lemmas take an accepted computation apart, and `foldlM_ok` is the invariant rule for a
loop over a list that stops at the first error.
-/

namespace TrimRouter.Check

universe u

variable {ε α β σ : Type u}

/-- Stop with `e` unless the condition holds. -/
def ensure (condition : Bool) (e : ε) : Except ε PUnit.{u + 1} :=
  if condition then .ok ⟨⟩ else .error e

/-- The value, or the error `e` when there is none. -/
def require (value : Option α) (e : ε) : Except ε α :=
  match value with
  | some a => .ok a
  | none => .error e

theorem bind_eq_ok {x : Except ε α} {f : α → Except ε β} {b : β} :
    x >>= f = .ok b ↔ ∃ a, x = .ok a ∧ f a = .ok b := by
  cases x with
  | error e => exact ⟨nofun, nofun⟩
  | ok a =>
    refine ⟨fun h => ⟨a, rfl, h⟩, ?_⟩
    intro ⟨a', same, h⟩
    cases same
    exact h

theorem ensure_eq_ok {condition : Bool} {e : ε} {u : PUnit} :
    ensure condition e = .ok u ↔ condition = true := by
  unfold ensure
  split
  · rename_i holds
    exact ⟨fun _ => holds, fun _ => rfl⟩
  · rename_i fails
    exact ⟨nofun, fun holds => absurd holds fails⟩

theorem require_eq_ok {value : Option α} {e : ε} {a : α} :
    require value e = .ok a ↔ value = some a := by
  cases value with
  | none => exact ⟨nofun, nofun⟩
  | some b => simp [require]

theorem mapError_eq_ok {ε' : Type u} {f : ε → ε'} {x : Except ε α} {a : α} :
    x.mapError f = .ok a ↔ x = .ok a := by
  cases x with
  | error e => exact ⟨nofun, nofun⟩
  | ok b => exact Iff.rfl.trans (by simp [Except.mapError])

theorem toOption_eq_some {x : Except ε α} {a : α} : x.toOption = some a ↔ x = .ok a := by
  cases x with
  | error e => exact ⟨nofun, nofun⟩
  | ok b => simp [Except.toOption]

/-- What every accepted round of a checked loop keeps holds after an accepted loop. -/
theorem foldlM_ok {f : σ → α → Except ε σ} {inv : σ → Prop}
    (keep : ∀ s a t, inv s → f s a = .ok t → inv t) {as : List α} {s t : σ} (start : inv s)
    (h : as.foldlM f s = .ok t) : inv t := by
  induction as generalizing s with
  | nil =>
    cases h
    exact start
  | cons a as ih =>
    rw [List.foldlM_cons, bind_eq_ok] at h
    obtain ⟨r, first, rest⟩ := h
    exact ih (keep s a r start first) rest

end TrimRouter.Check
