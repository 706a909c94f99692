import Mathlib.Data.List.Basic

/-!
# Wildcards of module aliases

`wildcard_match` of `init/kmod.rs`: an alias of a kernel module is a pattern, and the loop over the
input goes back to the last star only.  `Matches` is the language of a pattern.  Between two rounds
the rest of the pattern and the rest of the input stand for the whole, or the last star takes more
of the input (`Inv`).
-/

namespace TrimRouter.Kmod

/-- The inputs of a pattern: a star stands for any text, and a question mark for any character. -/
inductive Matches : List Char → List Char → Prop
  | nil : Matches [] []
  | star {pattern input : List Char} (skipped : List Char) (rest : Matches pattern input) :
      Matches ('*' :: pattern) (skipped ++ input)
  | any {pattern input : List Char} (c : Char) (rest : Matches pattern input) :
      Matches ('?' :: pattern) (c :: input)
  | char {pattern input : List Char} (c : Char) (noStar : c ≠ '*') (noAny : c ≠ '?')
      (rest : Matches pattern input) : Matches (c :: pattern) (c :: input)

/-- The variables of the loops. -/
structure Cursor where
  pIdx : Nat
  sIdx : Nat
  starIdx : Option Nat
  matchIdx : Nat
deriving DecidableEq

/-- A round of the loop over the input; `none` is its `return false`. -/
def Cursor.round (pattern input : List Char) (c : Cursor) : Option Cursor :=
  if pattern[c.pIdx]?.any fun x => x = '?' ∨ input[c.sIdx]? = some x then
    some { c with pIdx := c.pIdx + 1, sIdx := c.sIdx + 1 }
  else if pattern[c.pIdx]? = some '*' then
    some { c with starIdx := some c.pIdx, pIdx := c.pIdx + 1, matchIdx := c.sIdx }
  else
    c.starIdx.map fun star =>
      { c with pIdx := star + 1, matchIdx := c.matchIdx + 1, sIdx := c.matchIdx + 1 }

/-- Both loops from these variables on; `none` if they take more iterations. -/
def loops (pattern input : List Char) : Nat → Cursor → Option Bool
  | 0, c =>
    if c.sIdx < input.length ∨ pattern[c.pIdx]? = some '*' then none
    else some (c.pIdx == pattern.length)
  | iterations + 1, c =>
    if c.sIdx < input.length then
      match c.round pattern input with
      | some c => loops pattern input iterations c
      | none => some false
    else if pattern[c.pIdx]? = some '*' then
      loops pattern input iterations { c with pIdx := c.pIdx + 1 }
    else some (c.pIdx == pattern.length)

/-- `wildcard_match`, if it takes no more than so many iterations. -/
def wildcardMatch (iterations : Nat) (pattern input : List Char) : Option Bool :=
  loops pattern input iterations ⟨0, 0, none, 0⟩

/-! ## The language -/

variable {pattern input : List Char} {c d : Cursor} {x y : Char} {i k m : Nat}

theorem drop_of_getElem? (here : pattern[i]? = some x) :
    pattern.drop i = x :: pattern.drop (i + 1) := by
  obtain ⟨inside, rfl⟩ := List.getElem?_eq_some_iff.mp here
  exact List.drop_eq_getElem_cons inside

theorem Matches.cons {rest left : List Char} (matched : Matches rest left)
    (fits : x = '?' ∨ x = y) : Matches (x :: rest) (y :: left) := by
  rcases fits with rfl | rfl
  · exact .any y matched
  · by_cases star : x = '*'
    · subst star
      exact .star ['*'] matched
    · by_cases any : x = '?'
      · subst any
        exact .any '?' matched
      · exact .char x star any matched

/-- A pattern that does not begin with a star takes one character. -/
theorem Matches.of_cons {rest left : List Char} (matched : Matches (x :: rest) left)
    (noStar : x ≠ '*') : ∃ y left', left = y :: left' ∧ (x = '?' ∨ x = y) ∧ Matches rest left' := by
  cases matched with
  | star => exact absurd rfl noStar
  | any y matched => exact ⟨y, _, rfl, .inl rfl, matched⟩
  | char _ _ _ matched => exact ⟨x, _, rfl, .inr rfl, matched⟩

/-- A star takes what is between two positions of the input. -/
theorem matches_star_iff {rest : List Char} (inside : k ≤ input.length) :
    Matches ('*' :: rest) (input.drop k) ↔
      ∃ m, k ≤ m ∧ m ≤ input.length ∧ Matches rest (input.drop m) := by
  constructor
  · intro matched
    generalize whole : input.drop k = left at matched
    cases matched with
    | star skipped matched =>
      have length := congrArg List.length whole
      rw [List.length_drop, List.length_append] at length
      refine ⟨k + skipped.length, Nat.le_add_right _ _, by omega, ?_⟩
      rw [← List.drop_drop, whole, List.drop_left]
      exact matched
    | char _ noStar => exact absurd rfl noStar
  · intro ⟨m, later, _, matched⟩
    have split : input.drop k = (input.drop k).take (m - k) ++ input.drop m := by
      rw [← Nat.add_sub_cancel' later, ← List.drop_drop, Nat.add_sub_cancel_left,
        List.take_append_drop]
    rw [split]
    exact .star _ matched

/-- A part of the pattern without stars takes as many characters. -/
theorem Matches.drop_segment (matched : Matches (pattern.drop i) (input.drop m))
    (inside : i + k ≤ pattern.length) (noStar : ∀ j < k, pattern[i + j]? ≠ some '*')
    (start : m ≤ input.length) :
    m + k ≤ input.length ∧ Matches (pattern.drop (i + k)) (input.drop (m + k)) := by
  induction k with
  | zero => exact ⟨start, matched⟩
  | succ k ih =>
    obtain ⟨-, matched⟩ := ih (by omega) (fun j less => noStar j (by omega))
    have here : pattern[i + k]? = some (pattern[i + k]) := List.getElem?_eq_getElem (by omega)
    rw [drop_of_getElem? here] at matched
    obtain ⟨y, left, whole, -, matched⟩ := matched.of_cons fun star =>
      noStar k (Nat.lt_succ_self k) (here.trans (congrArg some star))
    have room : m + k < input.length := by
      by_contra past
      rw [List.drop_eq_nil_of_le (Nat.le_of_not_lt past)] at whole
      cases whole
    rw [List.drop_eq_getElem_cons room, List.cons.injEq] at whole
    refine ⟨room, ?_⟩
    rw [← whole.2] at matched
    exact matched

/-! ## The loop over the input -/

/-- What holds between two rounds.  With the last star at `star`, the pattern after it has been
compared with the input from `matchIdx` on. -/
structure Inv (pattern input : List Char) (c : Cursor) : Prop where
  inPattern : c.pIdx ≤ pattern.length
  inInput : c.sIdx ≤ input.length
  behind : c.matchIdx ≤ c.sIdx
  aligned : ∀ star ∈ c.starIdx, c.pIdx = star + 1 + (c.sIdx - c.matchIdx)
  sound : Matches (pattern.drop c.pIdx) (input.drop c.sIdx) → Matches pattern input
  soundStar : ∀ star ∈ c.starIdx, ∀ m, c.matchIdx ≤ m → m ≤ input.length →
    Matches (pattern.drop (star + 1)) (input.drop m) → Matches pattern input
  complete : '*' ∉ input → Matches pattern input →
    Matches (pattern.drop c.pIdx) (input.drop c.sIdx) ∨
      ∃ star ∈ c.starIdx, ∃ m, c.matchIdx < m ∧ m ≤ input.length ∧
        Matches (pattern.drop (star + 1)) (input.drop m)
  segment : '*' ∉ input → ∀ star ∈ c.starIdx, ∀ i, star < i → i < c.pIdx →
    pattern[i]? ≠ some '*'

theorem Inv.char (inv : Inv pattern input c) (here : pattern[c.pIdx]? = some x)
    (there : input[c.sIdx]? = some y) (fits : x = '?' ∨ x = y) :
    Inv pattern input { c with pIdx := c.pIdx + 1, sIdx := c.sIdx + 1 } := by
  have rest := drop_of_getElem? here
  have left := drop_of_getElem? there
  have behind := inv.behind
  have noStar : '*' ∉ input → x ≠ '*' := by
    intro plain star
    rcases fits with rfl | rfl
    · cases star
    · exact plain (star ▸ List.mem_of_getElem? there)
  refine ⟨?_, ?_, Nat.le_succ_of_le behind, fun star last => ?_, fun matched => ?_, inv.soundStar,
    fun plain whole => ?_, fun plain star last i after before => ?_⟩
  · exact (List.getElem?_eq_some_iff.mp here).1
  · exact (List.getElem?_eq_some_iff.mp there).1
  · have := inv.aligned star last
    dsimp only at behind ⊢
    omega
  · apply inv.sound
    rw [rest, left]
    exact matched.cons fits
  · rcases inv.complete plain whole with matched | later
    · rw [rest, left] at matched
      obtain ⟨y', left', same, -, matched⟩ := matched.of_cons (noStar plain)
      cases same
      exact .inl matched
    · exact .inr later
  · rcases Nat.lt_succ_iff_lt_or_eq.mp before with before | rfl
    · exact inv.segment plain star last i after before
    · rw [here]
      exact fun star => noStar plain (Option.some.inj star)

theorem Inv.star (inv : Inv pattern input c) (here : pattern[c.pIdx]? = some '*') :
    Inv pattern input
      { c with starIdx := some c.pIdx, pIdx := c.pIdx + 1, matchIdx := c.sIdx } := by
  have rest := drop_of_getElem? here
  have inInput := inv.inInput
  have takes := fun m (later : c.sIdx ≤ m) (inside : m ≤ input.length)
      (matched : Matches (pattern.drop (c.pIdx + 1)) (input.drop m)) =>
    inv.sound (rest ▸ (matches_star_iff inInput).mpr ⟨m, later, inside, matched⟩)
  refine ⟨(List.getElem?_eq_some_iff.mp here).1, inInput, Nat.le_refl _, ?_,
    takes _ (Nat.le_refl _) inInput, ?_, fun plain whole => ?_, ?_⟩
  · intro star last
    cases last
    dsimp only
    omega
  · intro star last
    cases last
    exact takes
  · rcases inv.complete plain whole with matched | ⟨star, last, m, more, inside, matched⟩
    · rw [rest] at matched
      obtain ⟨m, later, inside, matched⟩ := (matches_star_iff inInput).mp matched
      rcases Nat.eq_or_lt_of_le later with rfl | more
      · exact .inl matched
      · exact .inr ⟨_, rfl, m, more, inside, matched⟩
    · -- what the star before would take, this one can take as well
      have aligned := inv.aligned star last
      have behind := inv.behind
      have segment : ∀ j < c.sIdx - c.matchIdx, pattern[star + 1 + j]? ≠ some '*' :=
        fun j less => inv.segment plain star last _ (by omega) (by omega)
      obtain ⟨room, matched⟩ := matched.drop_segment (aligned ▸ inv.inPattern) segment inside
      rw [← aligned, rest] at matched
      obtain ⟨m', later, inside, matched⟩ := (matches_star_iff room).mp matched
      exact .inr ⟨_, rfl, m', by dsimp only; omega, inside, matched⟩
  · intro plain star last i after before
    cases last
    dsimp only at after before
    omega

/-- Where the next character fits neither a character of the pattern nor a star. -/
theorem not_matches_of_stuck (inside : k < input.length)
    (noChar : ¬ (pattern[i]?.any fun x => x = '?' ∨ input[k]? = some x) = true)
    (noStar : pattern[i]? ≠ some '*') : ¬ Matches (pattern.drop i) (input.drop k) := by
  rw [List.drop_eq_getElem_cons inside]
  intro matched
  cases here : pattern[i]? with
  | none =>
    rw [List.drop_eq_nil_of_le (List.getElem?_eq_none_iff.mp here)] at matched
    cases matched
  | some x =>
    rw [drop_of_getElem? here] at matched
    obtain ⟨y, left, whole, fits, -⟩ := matched.of_cons fun star => noStar (star ▸ here)
    cases whole
    apply noChar
    rw [here, Option.any_some, decide_eq_true_eq, List.getElem?_eq_getElem inside]
    exact fits.imp id fun same => congrArg some same.symm

theorem Inv.back {star : Nat} (inv : Inv pattern input c) (last : star ∈ c.starIdx)
    (inside : c.sIdx < input.length)
    (stuck : ¬ Matches (pattern.drop c.pIdx) (input.drop c.sIdx)) :
    Inv pattern input
      { c with pIdx := star + 1, matchIdx := c.matchIdx + 1, sIdx := c.matchIdx + 1 } := by
  have aligned := inv.aligned star last
  have behind := inv.behind
  have inPattern := inv.inPattern
  have next : c.matchIdx + 1 ≤ input.length := by omega
  refine ⟨by dsimp only; omega, next, Nat.le_refl _, ?_, ?_, ?_, fun plain whole => ?_, ?_⟩
  · intro other last'
    cases Option.mem_unique last last'
    dsimp only
    omega
  · exact inv.soundStar star last _ (Nat.le_succ _) next
  · intro other last' m later
    exact inv.soundStar other last' m (Nat.le_of_succ_le later)
  · rcases inv.complete plain whole with matched | ⟨other, last', m, more, bound, matched⟩
    · exact absurd matched stuck
    · cases Option.mem_unique last last'
      rcases Nat.eq_or_lt_of_le more with rfl | more
      · exact .inl matched
      · exact .inr ⟨star, last, m, more, bound, matched⟩
  · intro plain other last' i after before
    cases Option.mem_unique last last'
    dsimp only at before
    omega

/-- The iterations that are left: the positions that the star may still take, with the pattern for
each of them. -/
def Cursor.rank (pattern input : List Char) (c : Cursor) : Nat :=
  (input.length - c.matchIdx) * (pattern.length + 1) + (pattern.length - c.pIdx)

theorem Inv.round (inv : Inv pattern input c) (inside : c.sIdx < input.length)
    (next : c.round pattern input = some d) :
    Inv pattern input d ∧ d.rank pattern input < c.rank pattern input := by
  have behind := inv.behind
  have inPattern := inv.inPattern
  unfold Cursor.round at next
  split at next
  · rename_i char
    cases next
    obtain ⟨x, here, fits⟩ : ∃ x, pattern[c.pIdx]? = some x ∧
        (x = '?' ∨ input[c.sIdx]? = some x) := by
      simpa only [Option.any_eq_true, decide_eq_true_eq] using char
    have there := List.getElem?_eq_getElem inside
    refine ⟨inv.char here there (fits.imp id fun same => ?_), ?_⟩
    · exact Option.some.inj (same.symm.trans there)
    · have room := (List.getElem?_eq_some_iff.mp here).1
      unfold Cursor.rank
      dsimp only
      omega
  · rename_i noChar
    split at next
    · rename_i here
      cases next
      refine ⟨inv.star here, ?_⟩
      have room := (List.getElem?_eq_some_iff.mp here).1
      have less : (input.length - c.sIdx) * (pattern.length + 1) ≤
          (input.length - c.matchIdx) * (pattern.length + 1) :=
        Nat.mul_le_mul_right _ (by omega)
      unfold Cursor.rank
      dsimp only
      omega
    · rename_i noStar
      obtain ⟨star, last, rfl⟩ := Option.map_eq_some_iff.mp next
      refine ⟨inv.back last inside (not_matches_of_stuck inside noChar noStar), ?_⟩
      have split : input.length - c.matchIdx = (input.length - (c.matchIdx + 1)) + 1 := by omega
      unfold Cursor.rank
      dsimp only
      rw [split, Nat.succ_mul]
      omega

theorem Inv.round_none (inv : Inv pattern input c) (inside : c.sIdx < input.length)
    (refused : c.round pattern input = none) (plain : '*' ∉ input) : ¬ Matches pattern input := by
  unfold Cursor.round at refused
  split at refused
  · cases refused
  · rename_i noChar
    split at refused
    · cases refused
    · rename_i noStar
      intro whole
      rcases inv.complete plain whole with matched | ⟨star, last, -⟩
      · exact not_matches_of_stuck inside noChar noStar matched
      · rw [Option.map_eq_none_iff.mp refused] at last
        cases last

/-! ## The end of the input -/

theorem matches_nil_iff (noStar : pattern[i]? ≠ some '*') (inPattern : i ≤ pattern.length) :
    (i == pattern.length) = true ↔ Matches (pattern.drop i) [] := by
  rw [beq_iff_eq]
  constructor
  · intro all
    rw [all, List.drop_length]
    exact .nil
  · intro matched
    by_contra more
    have here := List.getElem?_eq_getElem (by omega : i < pattern.length)
    rw [drop_of_getElem? here] at matched
    obtain ⟨y, left, whole, -⟩ := matched.of_cons fun same =>
      noStar (here.trans (congrArg some same))
    cases whole

/-- The second loop finds out whether only stars are left. -/
theorem loops_of_end {n : Nat} (done : input.length ≤ c.sIdx) (inPattern : c.pIdx ≤ pattern.length)
    (enough : pattern.length - c.pIdx ≤ n) :
    ∃ r, loops pattern input n c = some r ∧ (r = true ↔ Matches (pattern.drop c.pIdx) []) := by
  have past : ¬ c.sIdx < input.length := Nat.not_lt.mpr done
  induction n generalizing c with
  | zero =>
    have noStar : pattern[c.pIdx]? ≠ some '*' := by
      intro star
      have room := (List.getElem?_eq_some_iff.mp star).1
      omega
    refine ⟨_, if_neg (not_or.mpr ⟨past, noStar⟩), matches_nil_iff noStar inPattern⟩
  | succ n ih =>
    rw [loops, if_neg past]
    split
    · rename_i star
      have room := (List.getElem?_eq_some_iff.mp star).1
      obtain ⟨r, result, iff⟩ := @ih { c with pIdx := c.pIdx + 1 } done room
        (by dsimp only; omega) past
      refine ⟨r, result, iff.trans ?_⟩
      rw [drop_of_getElem? star]
      constructor
      · intro matched
        exact .star [] matched
      · intro matched
        obtain ⟨m, -, -, matched⟩ := (@matches_star_iff [] 0 _ (Nat.le_refl 0)).mp matched
        rwa [List.drop_nil] at matched
    · rename_i noStar
      exact ⟨_, rfl, matches_nil_iff noStar inPattern⟩

/-- At the end of the input, what the last star could take more is not there. -/
theorem Inv.matches_iff (inv : Inv pattern input c) (done : input.length ≤ c.sIdx) :
    (Matches (pattern.drop c.pIdx) [] → Matches pattern input) ∧
      ('*' ∉ input → Matches pattern input → Matches (pattern.drop c.pIdx) []) := by
  have rest : input.drop c.sIdx = [] := List.drop_eq_nil_of_le done
  refine ⟨rest ▸ inv.sound, fun plain whole => ?_⟩
  rcases inv.complete plain whole with matched | ⟨star, last, m, more, inside, matched⟩
  · exact rest ▸ matched
  · have aligned := inv.aligned star last
    have behind := inv.behind
    obtain ⟨room, -⟩ := matched.drop_segment (aligned ▸ inv.inPattern)
      (fun j less => inv.segment plain star last _ (by omega) (by omega)) inside
    omega

theorem loops_correct {n : Nat} (inv : Inv pattern input c) (enough : c.rank pattern input < n) :
    ∃ r, loops pattern input n c = some r ∧ (r = true → Matches pattern input) ∧
      ('*' ∉ input → Matches pattern input → r = true) := by
  induction n generalizing c with
  | zero => omega
  | succ n ih =>
    by_cases inside : c.sIdx < input.length
    · rw [loops, if_pos inside]
      cases next : c.round pattern input with
      | some d =>
        obtain ⟨inv', less⟩ := inv.round inside next
        exact ih inv' (by omega)
      | none =>
        exact ⟨false, rfl, nofun, fun plain whole =>
          absurd whole (inv.round_none inside next plain)⟩
    · have done := Nat.le_of_not_lt inside
      obtain ⟨sound, complete⟩ := inv.matches_iff done
      obtain ⟨r, result, iff⟩ := loops_of_end (n := n + 1) done inv.inPattern (by
        unfold Cursor.rank at enough
        omega)
      exact ⟨r, result, fun accepted => sound (iff.mp accepted),
        fun plain whole => iff.mpr (complete plain whole)⟩

/-- The loops end within that number of iterations.  They accept only inputs of the language, and
all of these that contain no star. -/
theorem wildcard_match_correct (pattern input : List Char) :
    ∃ r, wildcardMatch ((pattern.length + 1) * (input.length + 1) + pattern.length) pattern input =
        some r ∧
      (r = true → Matches pattern input) ∧ ('*' ∉ input → Matches pattern input → r = true) := by
  apply loops_correct
  · refine ⟨Nat.zero_le _, Nat.zero_le _, Nat.le_refl _, nofun, id, nofun, fun _ => .inl, ?_⟩
    intro _ _ last
    cases last
  · rw [Nat.mul_comm, Nat.succ_mul]
    unfold Cursor.rank
    rw [Nat.sub_zero]
    omega

end TrimRouter.Kmod
