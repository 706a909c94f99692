import Mathlib.Algebra.Order.Field.Basic
import Mathlib.Data.List.Pairwise
import Mathlib.Tactic.Linarith
import Mathlib.Tactic.Ring

/-!
# Token buckets

A token bucket fills at a constant rate up to its size, and a request is granted if there is a whole
token, which it takes.  The bucket itself is its content at the time of the last request; what it
holds later is computed from that.  In no interval of time more requests are granted than the bucket
holds and flow in over the interval (`granted_between_le`).
-/

namespace TrimRouter

universe u

variable {K : Type u} [Field K] [LinearOrder K]

/-- The rate and the size of a token bucket. -/
structure TokenBucket (K : Type u) [Field K] [LinearOrder K] where
  rate : K
  burst : K
  rate_nonneg : 0 ≤ rate
  burst_nonneg : 0 ≤ burst

namespace TokenBucket

/-- What is in the bucket after the time `d`. -/
def refill (b : TokenBucket K) (level d : K) : K := min (level + d * b.rate) b.burst

/-- A request after the time `d`: whether it is granted, and what is left. -/
def request (b : TokenBucket K) (level d : K) : Bool × K :=
  if 1 ≤ b.refill level d then (true, b.refill level d - 1) else (false, b.refill level d)

/-- What becomes of the requests at the given times, if the bucket had `level` at `last`. -/
def decisions (b : TokenBucket K) : K → K → List K → List (K × Bool)
  | _, _, [] => []
  | level, last, t :: ts =>
    (t, (b.request level (t - last)).1) :: b.decisions (b.request level (t - last)).2 t ts

/-- The number of requests between two times that are granted. -/
def grantedBetween (start stop : K) (made : List (K × Bool)) : Nat :=
  made.countP fun x => x.2 && decide (start ≤ x.1) && decide (x.1 ≤ stop)

/-- A possible content of the bucket. -/
structure Holds (b : TokenBucket K) (level : K) : Prop where
  nonneg : 0 ≤ level
  le_burst : level ≤ b.burst

variable {b : TokenBucket K} {level last d start stop t : K} {ts : List K}

/-! ## What is computed -/

theorem holds_burst : b.Holds b.burst := ⟨b.burst_nonneg, le_rfl⟩

theorem refill_zero (holds : b.Holds level) : b.refill level 0 = level := by
  rw [refill, zero_mul, add_zero]
  exact min_eq_left holds.le_burst

theorem request_snd :
    (b.request level d).2 = b.refill level d - if (b.request level d).1 then 1 else 0 := by
  unfold request
  split
  · simp
  · simp

/-- What is left and what was granted were there before, or have flown in since. -/
theorem request_add_le :
    (b.request level d).2 + (if (b.request level d).1 then 1 else 0) ≤ level + d * b.rate := by
  rw [request_snd, sub_add_cancel]
  exact min_le_left _ _

theorem map_fst_decisions : (b.decisions level last ts).map Prod.fst = ts := by
  induction ts generalizing level last with
  | nil => rfl
  | cons t ts ih => rw [decisions, List.map_cons, ih]

theorem grantedBetween_cons {granted : Bool} {made : List (K × Bool)} :
    (grantedBetween start stop ((t, granted) :: made) : K) =
      grantedBetween start stop made +
        if granted && decide (start ≤ t) && decide (t ≤ stop) then 1 else 0 := by
  unfold grantedBetween
  rw [List.countP_cons]
  push_cast
  rfl

/-- Nothing is granted up to a time that is before all the requests. -/
theorem grantedBetween_eq_zero (sorted : (t :: ts).Pairwise (· ≤ ·)) (late : stop < t) :
    grantedBetween start stop (b.decisions level last (t :: ts)) = 0 := by
  refine List.countP_eq_zero.mpr ?_
  rintro ⟨t', granted⟩ made
  have listed : t' ∈ t :: ts := by
    have times : (b.decisions level last (t :: ts)).map Prod.fst = t :: ts := map_fst_decisions
    rw [← times]
    exact List.mem_map_of_mem made
  have after : stop < t' := by
    rcases List.mem_cons.mp listed with rfl | later
    · exact late
    · exact lt_of_lt_of_le late ((List.pairwise_cons.mp sorted).1 t' later)
  simp [not_le_of_gt after]

variable [IsStrictOrderedRing K]

/-! ## One request -/

theorem Holds.refill (holds : b.Holds level) (later : 0 ≤ d) : b.Holds (b.refill level d) where
  nonneg := by
    have flow := mul_nonneg later b.rate_nonneg
    exact le_min (add_nonneg holds.nonneg flow) b.burst_nonneg
  le_burst := min_le_right _ _

/-- A bucket that has had the time to fill is full. -/
theorem refill_of_long (holds : b.Holds level) (long : b.burst ≤ d * b.rate) :
    b.refill level d = b.burst := by
  apply min_eq_right
  have := holds.nonneg
  linarith

theorem Holds.request (holds : b.Holds level) (later : 0 ≤ d) :
    b.Holds (b.request level d).2 := by
  have filled := holds.refill later
  unfold TokenBucket.request
  split
  · rename_i whole
    have := filled.le_burst
    exact ⟨by linarith, by linarith⟩
  · exact filled

/-! ## Many requests -/

/-- The requests granted up to `stop` are paid by what is in the bucket and what flows in. -/
theorem granted_le (holds : b.Holds level) (sorted : (last :: ts).Pairwise (· ≤ ·))
    (before : last ≤ stop) :
    (grantedBetween start stop (b.decisions level last ts) : K) ≤
      level + (stop - last) * b.rate := by
  have flow := mul_nonneg (sub_nonneg.mpr before) b.rate_nonneg
  have nonneg := holds.nonneg
  induction ts generalizing level last with
  | nil =>
    simp only [decisions, grantedBetween, List.countP_nil, Nat.cast_zero]
    linarith
  | cons t ts ih =>
    obtain ⟨first, sorted⟩ := List.pairwise_cons.mp sorted
    have next := sub_nonneg.mpr (first t List.mem_cons_self)
    by_cases inside : t ≤ stop
    · have left := holds.request next
      have rest := ih left sorted inside
        (mul_nonneg (sub_nonneg.mpr inside) b.rate_nonneg) left.nonneg
      have paid : (b.request level (t - last)).2 +
          (if (b.request level (t - last)).1 then 1 else 0) ≤ level + (t - last) * b.rate :=
        request_add_le
      have counted : (if (b.request level (t - last)).1 && decide (start ≤ t) &&
          decide (t ≤ stop) then 1 else 0 : K) ≤
            if (b.request level (t - last)).1 then 1 else 0 := by
        cases (b.request level (t - last)).1 with
        | false => simp
        | true =>
          simp only [Bool.true_and, if_true]
          split
          · exact le_rfl
          · exact zero_le_one
      rw [decisions, grantedBetween_cons]
      calc (grantedBetween start stop
              (b.decisions (b.request level (t - last)).2 t ts) : K) + _
          ≤ (b.request level (t - last)).2 + (stop - t) * b.rate +
              if (b.request level (t - last)).1 then 1 else 0 := add_le_add rest counted
        _ ≤ level + (t - last) * b.rate + (stop - t) * b.rate := by linarith
        _ = level + (stop - last) * b.rate := by ring
    · rw [grantedBetween_eq_zero sorted (lt_of_not_ge inside), Nat.cast_zero]
      linarith

/-- In an interval of time, at most what the bucket holds and what flows in is granted. -/
theorem granted_between_le (holds : b.Holds level) (sorted : (last :: ts).Pairwise (· ≤ ·))
    (interval : start ≤ stop) :
    (grantedBetween start stop (b.decisions level last ts) : K) ≤
      b.burst + (stop - start) * b.rate := by
  have flow := mul_nonneg (sub_nonneg.mpr interval) b.rate_nonneg
  have size := b.burst_nonneg
  induction ts generalizing level last with
  | nil =>
    simp only [decisions, grantedBetween, List.countP_nil, Nat.cast_zero]
    linarith
  | cons t ts ih =>
    obtain ⟨first, later⟩ := List.pairwise_cons.mp sorted
    have next := sub_nonneg.mpr (first t List.mem_cons_self)
    by_cases early : t < start
    · have rest := ih (holds.request next) later
      rw [decisions, grantedBetween_cons]
      simpa [not_le_of_gt early] using rest
    · by_cases inside : t ≤ stop
      · -- the first request of the interval finds a bucket that is full at best
        have filled := holds.refill next
        have same : b.decisions level last (t :: ts) =
            b.decisions (b.refill level (t - last)) t (t :: ts) := by
          simp only [decisions, request, sub_self, refill_zero filled]
        have again : (t :: t :: ts).Pairwise (· ≤ ·) := by
          refine List.pairwise_cons.mpr ⟨?_, later⟩
          exact List.forall_mem_cons.mpr ⟨le_rfl, (List.pairwise_cons.mp later).1⟩
        have paid : (grantedBetween start stop
            (b.decisions (b.refill level (t - last)) t (t :: ts)) : K) ≤
              b.refill level (t - last) + (stop - t) * b.rate := granted_le filled again inside
        have shorter : (stop - t) * b.rate ≤ (stop - start) * b.rate :=
          mul_le_mul_of_nonneg_right (sub_le_sub_left (le_of_not_gt early) stop) b.rate_nonneg
        have full := filled.le_burst
        rw [same]
        linarith
      · rw [grantedBetween_eq_zero later (lt_of_not_ge inside), Nat.cast_zero]
        linarith

end TokenBucket

end TrimRouter
