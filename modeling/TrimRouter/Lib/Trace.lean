import TrimRouter.Lib.Run
import Mathlib.Data.Nat.Init

/-!
# Infinite runs and weak fairness

A `Trace` is an infinite run of a step function that may also pause.  A label is treated
weakly fairly if it is taken whenever it stays possible from some time on, so a trace that
pauses for ever is fair exactly to what is not possible where it pauses.
-/

namespace TrimRouter.Run

universe u v

variable {σ : Type u} {ℓ : Type v}

/-- An infinite run, in which `none` is a pause. -/
structure Trace (step : σ → ℓ → Option σ) where
  state : Nat → σ
  label : Nat → Option ℓ
  next : ∀ n, match label n with
    | some l => step (state n) l = some (state (n + 1))
    | none => state (n + 1) = state n

namespace Trace

variable {step : σ → ℓ → Option σ} {l : ℓ} {n : Nat} {P Q : σ → Prop}

variable {ρ : Trace step}

theorem step_of_label (taken : ρ.label n = some l) :
    step (ρ.state n) l = some (ρ.state (n + 1)) := by
  have next := ρ.next n
  rw [taken] at next
  exact next

/-- What each step of the trace from `n` on keeps stays. -/
theorem stays (keep : ∀ m l, n ≤ m → ρ.label m = some l → P (ρ.state m) → P (ρ.state (m + 1)))
    (here : P (ρ.state n)) : ∀ m, n ≤ m → P (ρ.state m) := by
  intro m later
  induction m, later using Nat.le_induction with
  | base => exact here
  | succ m later ih =>
    cases taken : ρ.label m with
    | none =>
      have next := ρ.next m
      rw [taken] at next
      exact next ▸ ih
    | some l => exact keep m l later taken ih

/-- What every step of the system keeps stays. -/
theorem always (keep : ∀ s m t, P s → step s m = some t → P t) (here : P (ρ.state n)) :
    ∀ m, n ≤ m → P (ρ.state m) :=
  stays (fun _ m _ taken now => keep _ m _ now (step_of_label taken)) here

/-- A rank that always gets smaller while `P` lasts leads to `Q`. -/
theorem leadsTo_rank (rank : σ → Nat)
    (descend : ∀ k, n ≤ k → P (ρ.state k) →
      ∃ m, k ≤ m ∧ (Q (ρ.state m) ∨ P (ρ.state m) ∧ rank (ρ.state m) < rank (ρ.state k)))
    (here : P (ρ.state n)) : ∃ m, n ≤ m ∧ Q (ρ.state m) := by
  induction bound : rank (ρ.state n) using Nat.strongRecOn generalizing n with
  | ind r ih =>
    obtain ⟨m, later, reached | ⟨still, less⟩⟩ := descend n (Nat.le_refl n) here
    · exact ⟨m, later, reached⟩
    · have descend_later := fun k after => descend k (Nat.le_trans later after)
      obtain ⟨k, after, reached⟩ := ih _ (bound ▸ less) descend_later still rfl
      exact ⟨k, Nat.le_trans later after, reached⟩

/-! ## Finite runs -/

variable {s t : σ} {ls : List ℓ}

/-- A run that goes through goes through up to any of its labels. -/
theorem exec_take (run : exec step s ls = some t) (n : Nat) :
    ∃ r, exec step s (ls.take n) = some r ∧ exec step r (ls.drop n) = some t := by
  rw [← List.take_append_drop n ls, exec_append] at run
  exact Option.bind_eq_some_iff.mp run

/-- The run, and then a pause for ever. -/
def ofRun (run : exec step s ls = some t) : Trace step where
  state := fun n => (exec step s (ls.take n)).getD s
  label := fun n => ls[n]?
  next := by
    intro n
    obtain ⟨r, before, after⟩ := exec_take run n
    cases label : ls[n]? with
    | none =>
      have past : ls.length ≤ n := List.getElem?_eq_none_iff.mp label
      simp only [List.take_of_length_le past, List.take_of_length_le (Nat.le_succ_of_le past)]
    | some l =>
      obtain ⟨short, here⟩ := List.getElem?_eq_some_iff.mp label
      rw [List.drop_eq_getElem_cons short, here] at after
      obtain ⟨u, taken, -⟩ := exec_cons_eq_some.mp after
      have reached : exec step s (ls.take (n + 1)) = some u := by
        rw [List.take_add_one, label, exec_append, before]
        simpa using taken
      simp only [before, reached, Option.getD_some]
      exact taken

/-- Where the run has ended. -/
theorem state_ofRun {run : exec step s ls = some t} (past : ls.length ≤ n) :
    (ofRun run).state n = t := by
  simp only [ofRun, List.take_of_length_le past, run, Option.getD_some]

/-- What holds at every point of the run holds for ever. -/
theorem forall_state_ofRun {run : exec step s ls = some t}
    (each : ∀ n, n ≤ ls.length → ∃ r, exec step s (ls.take n) = some r ∧ P r) (n : Nat) :
    P ((ofRun run).state n) := by
  rcases Nat.le_total n ls.length with inside | past
  · obtain ⟨r, part, holds⟩ := each n inside
    simpa only [ofRun, part, Option.getD_some] using holds
  · obtain ⟨r, all, holds⟩ := each ls.length (Nat.le_refl _)
    rw [List.take_length, run] at all
    cases all
    rw [state_ofRun past]
    exact holds

end Trace

end TrimRouter.Run
