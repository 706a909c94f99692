import Mathlib.Data.List.Basic
import Mathlib.Data.List.Induction
import Mathlib.Data.Option.Basic

/-!
# Runs of a partial step function

A system is a step function `step : σ → ℓ → Option σ`: a label fixes one choice of the scheduler and
of the environment, and `none` says that the choice is not possible in that state.  `exec` runs a
list of labels, and `Meets` says that every step of such a run is taken in a state where a side
condition holds.  `Inductive.exec` is the invariant rule.  Where a step keeps a property exactly
when it meets the side condition, so does a run (`prefixes_iff_meets`).
-/

namespace TrimRouter.Run

universe u v

variable {σ : Type u} {ℓ : Type v}

/-- Run the labels in order; `none` as soon as one of them is not enabled. -/
def exec (step : σ → ℓ → Option σ) : σ → List ℓ → Option σ
  | s, [] => some s
  | s, l :: ls => (step s l).bind fun t => exec step t ls

/-- Every step of the run meets `ok` in the state it is taken from. -/
def Meets (step : σ → ℓ → Option σ) (ok : σ → ℓ → Prop) : σ → List ℓ → Prop
  | _, [] => True
  | s, l :: ls => ok s l ∧ ∀ t ∈ step s l, Meets step ok t ls

/-- Some run leads from `s` to `t`. -/
def Reaches (step : σ → ℓ → Option σ) (s t : σ) : Prop :=
  ∃ ls, exec step s ls = some t

/-- `inv` is kept by every step that meets `ok`. -/
def Inductive (step : σ → ℓ → Option σ) (ok : σ → ℓ → Prop) (inv : σ → Prop) : Prop :=
  ∀ s l t, inv s → ok s l → step s l = some t → inv t

variable {step : σ → ℓ → Option σ} {ok ok' : σ → ℓ → Prop} {inv : σ → Prop}
  {s t u : σ} {l : ℓ} {ls ms : List ℓ}

/-- Whether a computation ends in such a value is found out by running it. -/
instance decidableExistsSome {α : Type u} (p : α → Prop) [DecidablePred p] :
    ∀ o : Option α, Decidable (∃ a, o = some a ∧ p a)
  | none => .isFalse fun ⟨_, same, _⟩ => Option.some_ne_none _ same.symm
  | some a => decidable_of_iff (p a) (by simp)

@[simp]
theorem exec_nil : exec step s [] = some s := rfl

@[simp]
theorem exec_cons : exec step s (l :: ls) = (step s l).bind fun t => exec step t ls := rfl

theorem exec_cons_eq_some :
    exec step s (l :: ls) = some u ↔ ∃ t, step s l = some t ∧ exec step t ls = some u := by
  simp [Option.bind_eq_some_iff]

theorem exec_append :
    exec step s (ls ++ ms) = (exec step s ls).bind fun t => exec step t ms := by
  induction ls generalizing s with
  | nil => simp
  | cons l ls ih =>
    cases h : step s l with
    | none => simp [h]
    | some t => simp [h, ih]

@[simp]
theorem meets_nil : Meets step ok s [] := trivial

@[simp]
theorem meets_cons :
    Meets step ok s (l :: ls) ↔ ok s l ∧ ∀ t ∈ step s l, Meets step ok t ls := Iff.rfl

/-- A condition that always holds is met by every run. -/
theorem Meets.of_forall (always : ∀ s l, ok s l) : Meets step ok s ls := by
  induction ls generalizing s with
  | nil => trivial
  | cons l ls ih => exact ⟨always s l, fun _ _ => ih⟩

theorem Meets.mono (weaker : ∀ s l, ok s l → ok' s l) (meets : Meets step ok s ls) :
    Meets step ok' s ls := by
  induction ls generalizing s with
  | nil => trivial
  | cons l ls ih => exact ⟨weaker s l meets.1, fun t taken => ih (meets.2 t taken)⟩

/-- A run meets a condition when both of its parts do. -/
theorem meets_append (run : exec step s ls = some t) :
    Meets step ok s (ls ++ ms) ↔ Meets step ok s ls ∧ Meets step ok t ms := by
  induction ls generalizing s with
  | nil =>
    cases run
    simp
  | cons l ls ih =>
    obtain ⟨next, first, rest⟩ := exec_cons_eq_some.mp run
    simp only [List.cons_append, meets_cons, first, Option.mem_def, Option.some.injEq,
      forall_eq', ih rest, and_assoc]

/-- The rest of a run that meets a condition meets it from where the first part ends. -/
theorem Meets.rest (meets : Meets step ok s (ls ++ ms)) (run : exec step s ls = some t) :
    Meets step ok t ms :=
  ((meets_append run).mp meets).2

/-- What every step meeting `ok` keeps holds after every run whose steps meet `ok`. -/
theorem Inductive.exec (keep : Inductive step ok inv) (start : inv s)
    (meets : Meets step ok s ls) (run : exec step s ls = some t) : inv t := by
  induction ls generalizing s with
  | nil =>
    cases run
    exact start
  | cons l ls ih =>
    obtain ⟨r, first, rest⟩ := exec_cons_eq_some.mp run
    exact ih (keep s l r start meets.1 first) (meets.2 r first) rest

/-- What every step keeps holds after every run. -/
theorem exec_keeps (inv : σ → Prop) (keep : ∀ s l t, inv s → step s l = some t → inv t)
    (start : inv s) (run : exec step s ls = some t) : inv t := by
  have always : Inductive step (fun _ _ => True) inv := fun s l t holds _ => keep s l t holds
  exact always.exec start (.of_forall fun _ _ => trivial) run

/-- A property that holds at the end of a run, but not at its start, holds from some step on. -/
theorem exists_last_start {P : σ → Prop} (start : ¬P s) (final : P t)
    (run : exec step s ls = some t) :
    ∃ done l rest u v, ls = done ++ l :: rest ∧ exec step s done = some u ∧ ¬P u ∧
      step u l = some v ∧ P v ∧ exec step v rest = some t ∧ Meets step (fun s _ => P s) v rest := by
  induction ls using List.reverseRecOn generalizing t with
  | nil =>
    cases run
    exact absurd final start
  | append_singleton ls l ih =>
    rw [exec_append] at run
    obtain ⟨u, part, taken⟩ := Option.bind_eq_some_iff.mp run
    rw [exec_cons, Option.bind_eq_some_iff] at taken
    obtain ⟨v, taken, last⟩ := taken
    obtain rfl : v = t := Option.some.inj last
    by_cases holds : P u
    · obtain ⟨done, l', rest, u', v', rfl, before, not, rises, since, onward, meets⟩ :=
        ih holds part
      refine ⟨done, l', rest ++ [l], u', v', by simp, before, not, rises, since, ?_, ?_⟩
      · simp [exec_append, onward, taken]
      · exact (meets_append onward).mpr ⟨meets, holds, fun _ _ => trivial⟩
    · exact ⟨ls, l, [], u, v, rfl, part, holds, taken, final, rfl, trivial⟩

/-- For an invariant of the steps that meet `ok`, and a property that it gives and that a step
keeps exactly when it meets `ok`: the property holds after every part of a run from its start
exactly when all steps of the run meet `ok`. -/
theorem prefixes_iff_meets_of {good : σ → Prop} (gives : ∀ s, inv s → good s)
    (keep : Inductive step ok inv)
    (exact : ∀ s l t, inv s → step s l = some t → good t → ok s l)
    (start : inv s) (run : exec step s ls = some u) :
    (∀ done t, done <+: ls → exec step s done = some t → good t) ↔ Meets step ok s ls := by
  induction ls generalizing s with
  | nil =>
    refine iff_of_true ?_ trivial
    intro done t before part
    rw [List.prefix_nil.mp before] at part
    cases part
    exact gives s start
  | cons l ls ih =>
    obtain ⟨next, first, rest⟩ := exec_cons_eq_some.mp run
    rw [meets_cons, first]
    simp only [Option.mem_def, Option.some.injEq, forall_eq']
    constructor
    · intro right
      have nextGood : good next := right [l] next (by simp) (by simp [first])
      have meets : ok s l := exact s l next start first nextGood
      refine ⟨meets, (ih (keep s l next start meets first) rest).mp ?_⟩
      intro done t before part
      exact right (l :: done) t (List.cons_prefix_cons.mpr ⟨rfl, before⟩)
        (by simpa [first] using part)
    · intro ⟨meets, later⟩ done t before part
      cases done with
      | nil =>
        cases part
        exact gives s start
      | cons head done =>
        obtain ⟨rfl, inside⟩ := List.cons_prefix_cons.mp before
        rw [exec_cons, first, Option.bind_some] at part
        exact (ih (keep s head next start meets first) rest).mpr later done t inside part

/-- For a step that keeps `inv` exactly when it meets `ok`: `inv` holds after every part of
a run from its start exactly when all steps of the run meet `ok`. -/
theorem prefixes_iff_meets (exact : ∀ s l t, inv s → step s l = some t → (inv t ↔ ok s l))
    (start : inv s) (run : exec step s ls = some u) :
    (∀ done t, done <+: ls → exec step s done = some t → inv t) ↔ Meets step ok s ls := by
  refine prefixes_iff_meets_of (fun _ holds => holds) ?_ ?_ start run
  · intro s l t before meets taken
    exact (exact s l t before taken).mpr meets
  · intro s l t before taken after
    exact (exact s l t before taken).mp after

/-- A condition on the labels alone is met by a run when all its labels meet it. -/
theorem meets_labels {good : ℓ → Prop} (run : exec step s ls = some u) :
    Meets step (fun _ l => good l) s ls ↔ ∀ l ∈ ls, good l := by
  induction ls generalizing s with
  | nil => simp
  | cons l ls ih =>
    obtain ⟨next, first, rest⟩ := exec_cons_eq_some.mp run
    rw [meets_cons, first, List.forall_mem_cons]
    simp only [Option.mem_def, Option.some.injEq, forall_eq', ih rest]

/-- Decide a side condition along a run by running it. -/
instance Meets.decidable [∀ s l, Decidable (ok s l)] :
    ∀ (s : σ) (ls : List ℓ), Decidable (Meets step ok s ls)
  | _, [] => .isTrue trivial
  | s, l :: ls =>
    haveI := fun t => Meets.decidable t ls
    inferInstanceAs (Decidable (ok s l ∧ ∀ t ∈ step s l, Meets step ok t ls))

end TrimRouter.Run
