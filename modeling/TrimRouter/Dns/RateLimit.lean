import Mathlib.Tactic.NormNum
import TrimRouter.Dns.RateLimiter
import TrimRouter.Lib.TokenBucket

/-!
# What the rate limiter lets through

The limiter keeps a token bucket for each client that it has seen.  A client without one starts with
a full bucket, and `retain_recent` forgets the buckets of clients that were idle for ten seconds.
In ten seconds a bucket fills from any level, so a client cannot tell whether its own was forgotten:
for one client the limiter is a token bucket that is never forgotten.  `accepted_le` and
`decisions_isolated` follow from what is known of one bucket.
-/

namespace TrimRouter.Dns

/-- An instant in seconds. -/
def secs (t : Nat) : ℚ := (t : ℚ) / 1000000000

/-- A call of the limiter. -/
inductive LimiterCall where
  | check (clientIp : Ipv4Addr)
  | retainRecent
deriving DecidableEq

/-- The calls, each with its time, are in the order of time. -/
def Chronological (history : List (Nat × LimiterCall)) : Prop :=
  (history.map Prod.fst).Pairwise (· ≤ ·)

/-- The times of the checks of a client. -/
def checkTimes (client : Ipv4Addr) (history : List (Nat × LimiterCall)) : List Nat :=
  history.filterMap fun call => if call.2 = .check client then some call.1 else none

variable {call : Nat × LimiterCall}

theorem checkTimes_cons {client : Ipv4Addr} {rest : List (Nat × LimiterCall)} :
    checkTimes client (call :: rest) =
      if call.2 = .check client then call.1 :: checkTimes client rest
      else checkTimes client rest := by
  unfold checkTimes
  rw [List.filterMap_cons]
  by_cases own : call.2 = .check client
  · simp only [if_pos own]
  · simp only [if_neg own]

namespace DnsRateLimiter

/-- The limiter after a call. -/
def apply (limiter : DnsRateLimiter) (call : Nat × LimiterCall) : DnsRateLimiter :=
  match call.2 with
  | .check clientIp => (limiter.check call.1 clientIp).2
  | .retainRecent => limiter.retainRecent call.1

/-- The limiter after a history of calls. -/
def run (limiter : DnsRateLimiter) (history : List (Nat × LimiterCall)) : DnsRateLimiter :=
  history.foldl apply limiter

/-- The decisions for the checks of a client, each with its time. -/
def decisionsFor (client : Ipv4Addr) :
    DnsRateLimiter → List (Nat × LimiterCall) → List (Nat × Bool)
  | _, [] => []
  | limiter, call :: rest =>
    if call.2 = .check client then
      (call.1, (limiter.check call.1 client).1) :: decisionsFor client (limiter.apply call) rest
    else decisionsFor client (limiter.apply call) rest

/-- The number of checks of a client that were let through between two times, in seconds. -/
def accepted (client : Ipv4Addr) (history : List (Nat × LimiterCall)) (start stop : ℚ) : Nat :=
  (decisionsFor client default history).countP fun x =>
    x.2 && decide (start ≤ secs x.1) && decide (secs x.1 ≤ stop)

/-! ## One call -/

variable {limiter : DnsRateLimiter} {b : TokenBucket ℚ} {client clientIp : Ipv4Addr}
  {now t since : Nat} {level last : ℚ}

theorem secs_le (le : since ≤ now) : secs since ≤ secs now := by
  unfold secs
  gcongr

theorem secs_injective : Function.Injective secs := by
  intro t t' same
  unfold secs at same
  exact Nat.cast_injective ((div_left_inj' (by norm_num)).mp same)

theorem elapsedSecs_eq (le : since ≤ now) : elapsedSecs since now = secs now - secs since := by
  rw [elapsedSecs, Rat.mkRat_eq_div, secs, secs, ← sub_div, Nat.cast_sub le]
  push_cast
  rfl

/-- The limiter has the rate and the size of the bucket. -/
structure Uses (limiter : DnsRateLimiter) (b : TokenBucket ℚ) : Prop where
  rate : limiter.ratePerSec = b.rate
  burst : limiter.maxBurst = b.burst

theorem Uses.check_eq (uses : limiter.Uses b) {bucket : ClientBucket}
    (found : (limiter.clients.lookup client).getD ⟨limiter.maxBurst, t⟩ = bucket) :
    limiter.check t client =
      ((b.request bucket.tokens (elapsedSecs bucket.lastUpdate t)).1,
        { limiter with
          clients := limiter.clients.insert client
            ⟨(b.request bucket.tokens (elapsedSecs bucket.lastUpdate t)).2, t⟩ }) := by
  have filled : min (bucket.tokens + elapsedSecs bucket.lastUpdate t * limiter.ratePerSec)
      limiter.maxBurst = b.refill bucket.tokens (elapsedSecs bucket.lastUpdate t) := by
    rw [uses.rate, uses.burst, TokenBucket.refill]
  unfold check TokenBucket.request
  simp only [found, filled]
  by_cases whole : 1 ≤ b.refill bucket.tokens (elapsedSecs bucket.lastUpdate t)
  · simp only [if_pos whole]
  · simp only [if_neg whole]

/-- The bucket with `level` at the time `last`, both as the client sees them at the time `now`:
the limiter has it, or has forgotten it and it is full. -/
structure Tracks (b : TokenBucket ℚ) (client : Ipv4Addr) (limiter : DnsRateLimiter) (now : Nat)
    (level last : ℚ) : Prop where
  uses : limiter.Uses b
  holds : b.Holds level
  past : last ≤ secs now
  known : ∀ bucket, limiter.clients.lookup client = some bucket →
    bucket.tokens = level ∧ secs bucket.lastUpdate = last ∧ bucket.lastUpdate ≤ now
  forgotten : limiter.clients.lookup client = none →
    ∀ t, now ≤ t → b.refill level (secs t - last) = b.burst

theorem Tracks.of_insert (uses : limiter.Uses b) (holds : b.Holds level) :
    Tracks b client { limiter with clients := limiter.clients.insert client ⟨level, t⟩ } t level
      (secs t) where
  uses := ⟨uses.rate, uses.burst⟩
  holds := holds
  past := le_rfl
  known bucket found := by
    rw [AList.lookup_insert] at found
    cases found
    exact ⟨rfl, rfl, Nat.le_refl t⟩
  forgotten missing := by
    rw [AList.lookup_insert] at missing
    cases missing

section

variable (tracks : Tracks b client limiter now level last)

include tracks

theorem Tracks.check_self (le : now ≤ t) :
    (limiter.check t client).1 = (b.request level (secs t - last)).1 ∧
      Tracks b client (limiter.check t client).2 t (b.request level (secs t - last)).2
        (secs t) := by
  have waited : 0 ≤ secs t - last := sub_nonneg.mpr (tracks.past.trans (secs_le le))
  have checked : limiter.check t client =
      ((b.request level (secs t - last)).1,
        { limiter with
          clients := limiter.clients.insert client ⟨(b.request level (secs t - last)).2, t⟩ }) := by
    cases found : limiter.clients.lookup client with
    | some bucket =>
      obtain ⟨rfl, rfl, before⟩ := tracks.known bucket found
      have own : (limiter.clients.lookup client).getD ⟨limiter.maxBurst, t⟩ = bucket := by
        rw [found, Option.getD_some]
      rw [tracks.uses.check_eq own, elapsedSecs_eq (before.trans le)]
    | none =>
      have fresh : (limiter.clients.lookup client).getD ⟨limiter.maxBurst, t⟩ = ⟨b.burst, t⟩ := by
        rw [found, Option.getD_none, tracks.uses.burst]
      have full : b.refill level (secs t - last) = b.refill b.burst 0 := by
        rw [tracks.forgotten found t le, TokenBucket.refill_zero TokenBucket.holds_burst]
      rw [tracks.uses.check_eq fresh, elapsedSecs_eq (Nat.le_refl t), sub_self]
      simp only [TokenBucket.request, full]
  rw [checked]
  exact ⟨rfl, .of_insert tracks.uses (tracks.holds.request waited)⟩

theorem Tracks.of_lookup {clients : HashMap Ipv4Addr ClientBucket} (le : now ≤ t)
    (same : clients.lookup client = limiter.clients.lookup client) :
    Tracks b client { limiter with clients := clients } t level last where
  uses := ⟨tracks.uses.rate, tracks.uses.burst⟩
  holds := tracks.holds
  past := tracks.past.trans (secs_le le)
  known bucket found := by
    obtain ⟨tokens, update, before⟩ := tracks.known bucket (same ▸ found)
    exact ⟨tokens, update, before.trans le⟩
  forgotten missing t' later := tracks.forgotten (same ▸ missing) t' (le.trans later)

theorem Tracks.check_other (le : now ≤ t) (other : clientIp ≠ client) :
    Tracks b client (limiter.check t clientIp).2 t level last := by
  rw [tracks.uses.check_eq rfl]
  exact tracks.of_lookup le (AList.lookup_insert_ne other.symm)

/-- A bucket that is forgotten would be full. -/
theorem Tracks.retainRecent (quick : b.burst ≤ secs idleClientTimeout * b.rate) (le : now ≤ t) :
    Tracks b client (limiter.retainRecent t) t level last := by
  have retained : (limiter.retainRecent t).clients.lookup client =
      (limiter.clients.lookup client).filter fun bucket =>
        decide (t - bucket.lastUpdate ≤ idleClientTimeout) :=
    HashMap.lookup_retain
  by_cases same : (limiter.retainRecent t).clients.lookup client = limiter.clients.lookup client
  · exact tracks.of_lookup le same
  · cases found : limiter.clients.lookup client with
    | none =>
      rw [found] at retained same
      exact absurd retained same
    | some bucket =>
      rw [found] at retained same
      by_cases recent : t - bucket.lastUpdate ≤ idleClientTimeout
      · rw [Option.filter_some, if_pos (decide_eq_true recent)] at retained
        exact absurd retained same
      · rw [Option.filter_some, if_neg (by simpa using recent)] at retained
        obtain ⟨-, rfl, before⟩ := tracks.known bucket found
        refine ⟨⟨tracks.uses.rate, tracks.uses.burst⟩, tracks.holds,
          tracks.past.trans (secs_le le), ?_, ?_⟩
        · intro bucket present
          rw [retained] at present
          cases present
        · intro _ t' later
          apply TokenBucket.refill_of_long tracks.holds
          have idle : bucket.lastUpdate + idleClientTimeout ≤ t' := by omega
          have waited : secs idleClientTimeout ≤ secs t' - secs bucket.lastUpdate := by
            have := secs_le idle
            unfold secs at this ⊢
            push_cast at this
            linarith
          calc b.burst ≤ secs idleClientTimeout * b.rate := quick
            _ ≤ (secs t' - secs bucket.lastUpdate) * b.rate :=
              mul_le_mul_of_nonneg_right waited b.rate_nonneg

theorem Tracks.apply_other (quick : b.burst ≤ secs idleClientTimeout * b.rate) (le : now ≤ call.1)
    (other : call.2 ≠ .check client) : Tracks b client (limiter.apply call) call.1 level last := by
  obtain ⟨t, call⟩ := call
  cases call with
  | check clientIp =>
    refine tracks.check_other le ?_
    rintro rfl
    exact other rfl
  | retainRecent => exact tracks.retainRecent quick le

end

theorem apply_of_check (own : call.2 = .check client) :
    limiter.apply call = (limiter.check call.1 client).2 := by
  rw [apply, own]

/-! ## All calls -/

variable {history : List (Nat × LimiterCall)}

theorem later_of_chronological
    (ordered : Chronological (call :: history)) : ∀ next ∈ history, call.1 ≤ next.1 :=
  fun next listed => (List.pairwise_cons.mp ordered).1 next.1 (List.mem_map_of_mem listed)

theorem Tracks.run (quick : b.burst ≤ secs idleClientTimeout * b.rate)
    (tracks : Tracks b client limiter now level last) (ordered : Chronological history)
    (later : ∀ call ∈ history, now ≤ call.1) :
    ∃ now level last, Tracks b client (limiter.run history) now level last := by
  induction history generalizing limiter now level last with
  | nil => exact ⟨now, level, last, tracks⟩
  | cons call rest ih =>
    have le := later call List.mem_cons_self
    have after := later_of_chronological ordered
    have sorted : Chronological rest := (List.pairwise_cons.mp ordered).2
    by_cases own : call.2 = .check client
    · have next := (tracks.check_self le).2
      rw [← apply_of_check own] at next
      exact ih next sorted after
    · exact ih (tracks.apply_other quick le own) sorted after

theorem Tracks.decisionsFor_eq (quick : b.burst ≤ secs idleClientTimeout * b.rate)
    (tracks : Tracks b client limiter now level last) (ordered : Chronological history)
    (later : ∀ call ∈ history, now ≤ call.1) :
    (decisionsFor client limiter history).map (Prod.map secs id) =
      b.decisions level last ((checkTimes client history).map secs) := by
  -- the bucket of the client changes with its own checks only
  induction history generalizing limiter now level last with
  | nil => rfl
  | cons call rest ih =>
    have le := later call List.mem_cons_self
    have after := later_of_chronological ordered
    have sorted : Chronological rest := (List.pairwise_cons.mp ordered).2
    rw [decisionsFor, checkTimes_cons]
    by_cases own : call.2 = .check client
    · obtain ⟨same, next⟩ := tracks.check_self le
      rw [if_pos own, if_pos own, List.map_cons, List.map_cons, TokenBucket.decisions,
        apply_of_check own, ih next sorted after, Prod.map_apply, id_eq, same]
    · rw [if_neg own, if_neg own]
      exact ih (tracks.apply_other quick le own) sorted after

/-! ## The default limiter -/

/-- The bucket of the default limiter. -/
def defaultBucket : TokenBucket ℚ where
  rate := defaultDnsRateLimitPerSec
  burst := defaultDnsBurstQuota
  rate_nonneg := by decide +kernel
  burst_nonneg := by decide +kernel

theorem quick_defaultBucket :
    defaultBucket.burst ≤ secs idleClientTimeout * defaultBucket.rate := by
  decide +kernel

theorem tracks_default : Tracks defaultBucket client default 0 defaultBucket.burst 0 where
  uses := ⟨by decide +kernel, by decide +kernel⟩
  holds := TokenBucket.holds_burst
  past := by decide +kernel
  known _ found := by cases found
  forgotten _ t _ := by
    apply min_eq_right
    have waited : 0 ≤ secs t := div_nonneg (Nat.cast_nonneg t) (by norm_num)
    have flow := mul_nonneg (sub_nonneg.mpr waited) defaultBucket.rate_nonneg
    linarith

theorem decisionsFor_default (ordered : Chronological history) :
    (decisionsFor client default history).map (Prod.map secs id) =
      defaultBucket.decisions defaultBucket.burst 0 ((checkTimes client history).map secs) :=
  tracks_default.decisionsFor_eq quick_defaultBucket ordered fun _ _ => Nat.zero_le _

theorem checkTimes_sorted (ordered : Chronological history) :
    (checkTimes client history).Pairwise (· ≤ ·) := by
  refine List.Pairwise.sublist ?_ ordered
  induction history with
  | nil => exact List.Sublist.refl []
  | cons call rest ih =>
    have sub := ih (List.pairwise_cons.mp ordered).2
    rw [checkTimes_cons, List.map_cons]
    split
    · exact sub.cons_cons _
    · exact sub.cons _

/-- However its checks are spread in time, and whatever happens in between, a client is let
through at most 150 times and 100 times a second in any interval of time, and every bucket holds
between 0 and 150 tokens. -/
theorem accepted_le (ordered : Chronological history) (client : Ipv4Addr) {start stop : ℚ}
    (interval : start ≤ stop) :
    (accepted client history start stop : ℚ) ≤ 150 + 100 * (stop - start) ∧
      ∀ clientIp bucket, (default.run history).clients.lookup clientIp = some bucket →
        0 ≤ bucket.tokens ∧ bucket.tokens ≤ 150 := by
  constructor
  · have sorted : (0 :: (checkTimes client history).map secs).Pairwise (· ≤ ·) := by
      refine List.pairwise_cons.mpr ⟨?_, ?_⟩
      · intro t listed
        obtain ⟨t, -, rfl⟩ := List.mem_map.mp listed
        exact div_nonneg (Nat.cast_nonneg t) (by norm_num)
      · exact (checkTimes_sorted ordered).map secs fun _ _ => secs_le
    have full : defaultBucket.Holds defaultBucket.burst := TokenBucket.holds_burst
    have bound := TokenBucket.granted_between_le full sorted interval
    rw [← decisionsFor_default ordered, TokenBucket.grantedBetween, List.countP_map] at bound
    have size : defaultBucket.burst = 150 := rfl
    have rate : defaultBucket.rate = 100 := rfl
    rw [size, rate] at bound
    calc (accepted client history start stop : ℚ) ≤ 150 + (stop - start) * 100 := bound
      _ = 150 + 100 * (stop - start) := by ring
  · intro clientIp bucket found
    have start : Tracks defaultBucket clientIp default 0 defaultBucket.burst 0 := tracks_default
    obtain ⟨now, level, last, tracks⟩ :=
      start.run quick_defaultBucket ordered fun _ _ => Nat.zero_le _
    obtain ⟨rfl, -, -⟩ := tracks.known bucket found
    exact ⟨tracks.holds.nonneg, tracks.holds.le_burst⟩

/-- Of 151 checks at one instant all but one are let through. -/
theorem accepted_le_of_burst :
    accepted (.new 192 168 1 10) (List.replicate 151 (0, .check (.new 192 168 1 10))) 0 0 = 150 ∧
      ((accepted (.new 192 168 1 10) (List.replicate 151 (0, .check (.new 192 168 1 10))) 0 0 :
        Nat) : ℚ) ≤ 150 + 100 * (0 - 0) := by
  have ordered : Chronological (List.replicate 151 (0, .check (.new 192 168 1 10))) := by
    rw [Chronological, List.map_replicate]
    exact List.pairwise_replicate.mpr (.inr (Nat.le_refl 0))
  exact ⟨by decide +kernel, (accepted_le ordered (.new 192 168 1 10) le_rfl).1⟩

/-- The decisions for a client are the same in every two histories in which it makes its checks
at the same times. -/
theorem decisions_isolated {other : List (Nat × LimiterCall)} (ordered : Chronological history)
    (ordered' : Chronological other) (same : checkTimes client history = checkTimes client other) :
    decisionsFor client default history = decisionsFor client default other := by
  have injective : Function.Injective (Prod.map secs (id : Bool → Bool)) :=
    secs_injective.prodMap Function.injective_id
  apply List.map_injective_iff.mpr injective
  rw [decisionsFor_default ordered, decisionsFor_default ordered', same]

/-- A client checks twice, with eleven seconds in between. -/
def quietChecks : List (Nat × LimiterCall) :=
  [(0, .check (.new 192 168 1 10)), (fromSecs 11, .check (.new 192 168 1 10))]

/-- In the meantime another client checks, and the buckets of idle clients are forgotten. -/
def busyChecks : List (Nat × LimiterCall) :=
  [(0, .check (.new 192 168 1 10)), (fromSecs 1, .check (.new 192 168 1 11)),
    (fromSecs 11, .retainRecent), (fromSecs 11, .check (.new 192 168 1 10))]

/-- The client's bucket is forgotten, and it is let through as before. -/
theorem decisions_isolated_after_sweep :
    (default.run (busyChecks.take 3)).clients.lookup (.new 192 168 1 10) = none ∧
      decisionsFor (.new 192 168 1 10) default quietChecks =
        decisionsFor (.new 192 168 1 10) default busyChecks := by
  refine ⟨by decide +kernel, decisions_isolated ?_ ?_ (by decide)⟩
  · show (quietChecks.map Prod.fst).Pairwise (· ≤ ·)
    decide
  · show (busyChecks.map Prod.fst).Pairwise (· ≤ ·)
    decide

end DnsRateLimiter

end TrimRouter.Dns
