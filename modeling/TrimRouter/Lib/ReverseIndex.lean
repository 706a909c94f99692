import Mathlib.Logic.Function.Basic

/-!
# A map with an index of its keys by value

A map gives each key at most one value, and the index gives each value at most one of the keys that
have it.  When a key loses its value, the index forgets the value, whichever key it had for it.
-/

namespace TrimRouter

universe u v

/-- The values of a map and the index. -/
@[ext]
structure ReverseIndex (κ : Type u) (ν : Type v) where
  value : κ → Option ν
  key : ν → Option κ

namespace ReverseIndex

variable {κ : Type u} {ν : Type v}

/-- What the index has for a value is a key with that value. -/
def Sound (x : ReverseIndex κ ν) : Prop := ∀ v k, x.key v = some k → x.value k = some v

/-- The index has a key for every value. -/
def Complete (x : ReverseIndex κ ν) : Prop := ∀ k v, x.value k = some v → x.key v ≠ none

/-- No other key has the value of the key. -/
def Alone (x : ReverseIndex κ ν) (k : κ) (v : ν) : Prop := ∀ k', x.value k' = some v → k' = k

variable [DecidableEq κ] [DecidableEq ν]

/-- Take the value of a key away. -/
def release (x : ReverseIndex κ ν) (k : κ) : ReverseIndex κ ν :=
  match x.value k with
  | some v => ⟨Function.update x.value k none, Function.update x.key v none⟩
  | none => x

/-- Give a key a value, in place of the one that it has. -/
def assign (x : ReverseIndex κ ν) (k : κ) (v : ν) : ReverseIndex κ ν :=
  ⟨Function.update (x.release k).value k (some v), Function.update (x.release k).key v (some k)⟩

variable {x : ReverseIndex κ ν} {k : κ} {v : ν}

theorem release_of_some (has : x.value k = some v) :
    x.release k = ⟨Function.update x.value k none, Function.update x.key v none⟩ := by
  rw [release, has]

theorem release_of_none (none' : x.value k = none) : x.release k = x := by
  rw [release, none']

/-- After a release the key has no value, and the others have theirs. -/
theorem value_release : (x.release k).value = Function.update x.value k none := by
  cases has : x.value k with
  | some v => rw [release_of_some has]
  | none => rw [release_of_none has, ← has, Function.update_eq_self]

theorem value_assign : (x.assign k v).value = Function.update x.value k (some v) := by
  rw [assign, value_release, Function.update_idem]

/-! ## Soundness -/

theorem Sound.release (sound : x.Sound) : (x.release k).Sound := by
  cases has : x.value k with
  | none =>
    rw [release_of_none has]
    exact sound
  | some v =>
    rw [release_of_some has]
    intro v' k' found
    simp only [Function.update_apply] at found ⊢
    split at found
    · cases found
    · rename_i other
      have value := sound v' k' found
      have different : k' ≠ k := by
        rintro rfl
        exact other (Option.some.inj (value.symm.trans has))
      rw [if_neg different]
      exact value

theorem Sound.assign (sound : x.Sound) : (x.assign k v).Sound := by
  have released : (x.release k).Sound := sound.release
  intro v' k' found
  rw [value_assign]
  simp only [ReverseIndex.assign, Function.update_apply] at found ⊢
  split at found
  · rename_i same
    cases found
    rw [if_pos rfl, same]
  · have value := released v' k' found
    rw [value_release, Function.update_apply] at value
    split at value
    · cases value
    · rename_i different
      rw [if_neg different]
      exact value

/-! ## Completeness -/

/-- What a release leaves of the index. -/
theorem complete_release_iff (complete : x.Complete) :
    (x.release k).Complete ↔ ∀ v, x.value k = some v → x.Alone k v := by
  cases has : x.value k with
  | none =>
    rw [release_of_none has]
    exact iff_of_true complete nofun
  | some v =>
    simp only [Option.some.injEq, forall_eq']
    rw [release_of_some has]
    constructor
    · intro still k' shares
      by_contra other
      refine still k' v ?_ (Function.update_self v none x.key)
      exact (Function.update_of_ne other none x.value).trans shares
    · intro alone k' v' value
      simp only [Function.update_apply] at value ⊢
      split at value
      · cases value
      · rename_i other
        rw [if_neg]
        · exact complete k' v' value
        · rintro rfl
          exact other (alone k' value)

/-- The same for a new value, which may also be the old one. -/
theorem complete_assign_iff (complete : x.Complete) :
    (x.assign k v).Complete ↔ ∀ old, x.value k = some old → old = v ∨ x.Alone k old := by
  cases has : x.value k with
  | none =>
    refine iff_of_true ?_ nofun
    intro k' v' value
    rw [value_assign, Function.update_apply] at value
    simp only [assign, release_of_none has, Function.update_apply]
    split
    · simp
    · rename_i different
      split at value
      · cases value
        exact absurd rfl different
      · exact complete k' v' value
  | some old =>
    simp only [Option.some.injEq, forall_eq']
    constructor
    · intro still
      by_contra neither
      obtain ⟨changed, shared⟩ := not_or.mp neither
      obtain ⟨k', value, other⟩ : ∃ k', x.value k' = some old ∧ k' ≠ k := by
        simpa [Alone] using shared
      refine still k' old ?_ ?_
      · rw [value_assign, Function.update_of_ne other, value]
      · simp [assign, release_of_some has, changed]
    · intro fine k' v' value
      rw [value_assign, Function.update_apply] at value
      simp only [assign, release_of_some has, Function.update_apply]
      split
      · simp
      · rename_i different
        split at value
        · cases value
          exact absurd rfl different
        · rename_i other
          rw [if_neg]
          · exact complete k' v' value
          · rintro rfl
            rcases fine with same | alone
            · exact different same
            · exact other (alone k' value)

end ReverseIndex

end TrimRouter
