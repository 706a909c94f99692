import TrimRouter.Dns.CacheHits

/-!
# What an insertion evicts

A new key in a full cache first drops what is expired.  If the cache is still full, one entry has to
go that would still be good; it is one that expires first, whichever order the map is iterated in.
The result is `evicts_first_to_expire`; the cache of the worker goes through such a sequence of
operations (`exec_cache`).
-/

namespace TrimRouter.Dns

open Run
open Uncompressed (library emit minuteAnswer)

/-- An operation of the cache, with the time that it reads and, where it iterates over the map,
the order in which it does so. -/
inductive CacheOp where
  | insert (now : Nat) (order : List String) (key : String) (response : Bytes)
  | lookup (now : Nat) (key : String)
  | sweep (now : Nat)
deriving DecidableEq

/-- The cache after an operation; the order has to be one of the map. -/
def Cache.apply (lib : Hickory) (cache : Cache) : CacheOp → Option Cache
  | .insert now order key response =>
    if cache.IsOrder order then some (insertCache lib now order key response cache) else none
  | .lookup now key => some (lookupCache now key cache).2
  | .sweep now => some (evictExpiredCache now cache)

/-- The number of entries that have not expired. -/
def Cache.liveCount (now : Nat) (cache : Cache) : Nat :=
  cache.entries.countP fun e => now < e.2.expiry

variable {lib : Hickory} {now : Nat} {order : List String} {key k : String} {response : Bytes}
  {cache after : Cache} {entry : CacheEntry}

/-! ## Making room -/

theorem length_evictExpiredCache :
    (evictExpiredCache now cache).entries.length = cache.liveCount now :=
  List.countP_eq_length_filter.symm

theorem liveCount_le : cache.liveCount now ≤ cache.entries.length := List.countP_le_length

theorem lookup_evictExpiredCache_eq_some :
    (evictExpiredCache now cache).lookup k = some entry ↔
      cache.lookup k = some entry ∧ now < entry.expiry := by
  rw [evictExpiredCache, HashMap.lookup_retain_eq_some, decide_eq_true_eq]

/-- The entry that is evicted is one that expires first. -/
structure IsOldest (cache : Cache) (k : String) (entry : CacheEntry) : Prop where
  found : cache.lookup k = some entry
  least : ∀ k' entry', cache.lookup k' = some entry' → entry.expiry ≤ entry'.expiry

/-- The minimum over an iteration is the oldest entry. -/
theorem argmin_isOldest (listed : ∀ k entry, cache.lookup k = some entry → k ∈ order)
    (some' : cache.entries ≠ []) :
    ∃ oldest entry, (cache.iter order).argmin (fun e => e.2.expiry) = some (oldest, entry) ∧
      IsOldest cache oldest entry := by
  cases least : (cache.iter order).argmin (fun e => e.2.expiry) with
  | none =>
    obtain ⟨⟨k, entry⟩, member⟩ := List.exists_mem_of_ne_nil _ some'
    have found := HashMap.mem_entries_iff.mp member
    have visited := HashMap.mem_iter_of_mem (listed k entry found) found
    rw [List.argmin_eq_none.mp least] at visited
    cases visited
  | some oldest =>
    obtain ⟨k, entry⟩ := oldest
    refine ⟨k, entry, rfl, HashMap.lookup_of_mem_iter (List.argmin_mem least), ?_⟩
    intro k' entry' found
    have visited := HashMap.mem_iter_of_mem (listed k' entry' found) found
    have before := List.le_of_mem_argmin visited least
    exact before

theorem makeRoom_cases (visits : cache.IsOrder order) :
    makeRoom now order key cache = cache ∧
        (cache.entries.length < maxCacheEntries ∨ ∃ entry, cache.lookup key = some entry) ∨
      makeRoom now order key cache = evictExpiredCache now cache ∧
        cache.liveCount now < maxCacheEntries ∨
      cache.lookup key = none ∧ maxCacheEntries ≤ cache.liveCount now ∧
        ∃ oldest entry, IsOldest (evictExpiredCache now cache) oldest entry ∧
          makeRoom now order key cache = (evictExpiredCache now cache).erase oldest := by
  unfold makeRoom
  split
  · rename_i full
    rw [Bool.and_eq_true, decide_eq_true_eq, Option.isNone_iff_eq_none] at full
    simp only [length_evictExpiredCache]
    split
    · rename_i still
      have listed : ∀ k entry, (evictExpiredCache now cache).lookup k = some entry → k ∈ order := by
        intro k entry found
        have kept := (lookup_evictExpiredCache_eq_some.mp found).1
        exact visits.mem_iff.mpr (HashMap.mem_keys_iff.mpr ⟨entry, kept⟩)
      have some' : (evictExpiredCache now cache).entries ≠ [] := by
        intro empty
        have := congrArg List.length empty
        rw [length_evictExpiredCache] at this
        rw [this] at still
        exact absurd still (by decide)
      obtain ⟨oldest, entry, least, isOldest⟩ := argmin_isOldest listed some'
      rw [least]
      exact .inr (.inr ⟨full.2, still, oldest, entry, isOldest, rfl⟩)
    · rename_i room
      exact .inr (.inl ⟨rfl, Nat.lt_of_not_le room⟩)
  · rename_i room
    refine .inl ⟨rfl, ?_⟩
    rw [Bool.and_eq_true, decide_eq_true_eq, Option.isNone_iff_eq_none, not_and_or] at room
    rcases room with few | known
    · exact .inl (Nat.lt_of_not_le few)
    · exact .inr (Option.ne_none_iff_exists'.mp known)

/-! ## One operation -/

/-- The cache has at most 4096 entries. -/
def Cache.Bounded (cache : Cache) : Prop := cache.entries.length ≤ maxCacheEntries

theorem insertCache_cases (lib : Hickory) (now : Nat) (order : List String) (key : String)
    (response : Bytes) (cache : Cache) :
    insertCache lib now order key response cache = cache ∨
      ∃ entry, entry.response = response ∧ insertCache lib now order key response cache =
        (makeRoom now order key cache).insert key entry := by
  unfold insertCache
  split
  · exact .inl rfl
  · split
    · exact .inl rfl
    · split
      · exact .inl rfl
      · exact .inr ⟨_, rfl, rfl⟩

theorem length_insert_makeRoom (visits : cache.IsOrder order) (bounded : cache.Bounded) :
    Cache.Bounded ((makeRoom now order key cache).insert key entry) := by
  have added : ∀ m : Cache, (m.insert key entry).entries.length ≤ m.entries.length + 1 :=
    fun _ => HashMap.length_insert_le
  unfold Cache.Bounded at bounded ⊢
  rcases makeRoom_cases visits with ⟨same, few | ⟨old, known⟩⟩ | ⟨swept, room⟩ |
    ⟨-, -, oldest, victim, isOldest, erased⟩
  · rw [same]
    exact (added cache).trans few
  · rw [same, HashMap.length_insert_of_some known]
    exact bounded
  · rw [swept]
    exact (added _).trans (by rw [length_evictExpiredCache]; exact room)
  · rw [erased]
    calc _ ≤ ((evictExpiredCache now cache).erase oldest).entries.length + 1 := added _
      _ = (evictExpiredCache now cache).entries.length :=
        (HashMap.length_erase isOldest.found).symm
      _ = cache.liveCount now := length_evictExpiredCache
      _ ≤ cache.entries.length := liveCount_le
      _ ≤ maxCacheEntries := bounded

theorem Cache.Bounded.insertCache (visits : cache.IsOrder order) (bounded : cache.Bounded) :
    (insertCache lib now order key response cache).Bounded := by
  rcases insertCache_cases lib now order key response cache with same | ⟨entry, -, inserted⟩
  · rw [same]
    exact bounded
  · rw [inserted]
    exact length_insert_makeRoom visits bounded

theorem length_erase_le : (cache.erase key).entries.length ≤ cache.entries.length := by
  cases found : cache.lookup key with
  | none => rw [HashMap.entries_erase_of_none found]
  | some entry =>
    rw [HashMap.length_erase found]
    exact Nat.le_succ _

theorem Cache.Bounded.lookupCache (bounded : cache.Bounded) :
    (lookupCache now key cache).2.Bounded := by
  unfold Dns.lookupCache
  split
  · split
    · exact bounded
    · exact length_erase_le.trans bounded
  · exact bounded

theorem Cache.Bounded.evictExpiredCache (bounded : cache.Bounded) :
    (evictExpiredCache now cache).Bounded := by
  unfold Bounded
  rw [length_evictExpiredCache]
  exact liveCount_le.trans bounded

theorem Cache.Bounded.apply {op : CacheOp} (bounded : cache.Bounded)
    (applied : cache.apply lib op = some after) : after.Bounded := by
  cases op with
  | insert now order key response =>
    obtain ⟨visits, inserted⟩ := Option.ite_none_right_eq_some.mp applied
    cases inserted
    exact bounded.insertCache visits
  | lookup now key =>
    cases applied
    exact bounded.lookupCache
  | sweep now =>
    cases applied
    exact bounded.evictExpiredCache

/-! ## All operations -/

variable {ops : List CacheOp}

theorem bounded_of_exec (run : exec (Cache.apply lib) ∅ ops = some cache) : cache.Bounded := by
  have start : Cache.Bounded ∅ := Nat.zero_le _
  exact exec_keeps Cache.Bounded (fun _ _ _ bounded => bounded.apply) start run

theorem Cache.Bounded.live_of_full (bounded : cache.Bounded)
    (full : maxCacheEntries ≤ cache.liveCount now) (found : cache.lookup k = some entry) :
    now < entry.expiry := by
  have all : cache.liveCount now = cache.entries.length :=
    Nat.le_antisymm liveCount_le (Nat.le_trans bounded full)
  exact of_decide_eq_true (List.countP_eq_length.mp all _ (HashMap.mem_entries_iff.mpr found))

/-- The insertion takes an unexpired entry under another key out of the cache. -/
structure Evicts (lib : Hickory) (now : Nat) (order : List String) (key : String)
    (response : Bytes) (cache : Cache) (k : String) (entry : CacheEntry) : Prop where
  other : k ≠ key
  found : cache.lookup k = some entry
  live : now < entry.expiry
  gone : (insertCache lib now order key response cache).lookup k = none

/-- The response can be cached. -/
def Cacheable (lib : Hickory) (response : Bytes) : Prop :=
  dnsHeaderSize ≤ response.length ∧ ∃ packet, lib.fromBytes response = some packet ∧
    ∃ ttl, calculateCacheTtl packet = some ttl

theorem insertCache_of_cacheable (cacheable : Cacheable lib response) :
    ∃ entry, insertCache lib now order key response cache =
      (makeRoom now order key cache).insert key entry := by
  obtain ⟨long, packet, parsed, ttl, lifetime⟩ := cacheable
  refine ⟨⟨response, now + fromSecs ttl⟩, ?_⟩
  rw [insertCache, if_neg (Nat.not_lt_of_le long)]
  simp only [parsed, lifetime]

theorem Evicts.makeRoom_eq (visits : cache.IsOrder order)
    (evicts : Evicts lib now order key response cache k entry) :
    cache.lookup key = none ∧ maxCacheEntries ≤ cache.liveCount now ∧
      IsOldest (evictExpiredCache now cache) k entry ∧
      ∃ added, insertCache lib now order key response cache =
        ((evictExpiredCache now cache).erase k).insert key added := by
  obtain ⟨other, found, live, gone⟩ := evicts
  have swept : (evictExpiredCache now cache).lookup k = some entry :=
    lookup_evictExpiredCache_eq_some.mpr ⟨found, live⟩
  rcases insertCache_cases lib now order key response cache with same | ⟨added, -, inserted⟩
  · rw [same, found] at gone
    cases gone
  · rw [inserted, AList.lookup_insert_ne other] at gone
    rcases makeRoom_cases visits with ⟨same, -⟩ | ⟨same, -⟩ |
      ⟨new, full, oldest, victim, isOldest, erased⟩
    · rw [same, found] at gone
      cases gone
    · rw [same, swept] at gone
      cases gone
    · rw [erased, HashMap.lookup_erase_eq] at gone
      split at gone
      · rename_i same
        subst same
        obtain rfl := Option.some.inj (swept.symm.trans isOldest.found)
        exact ⟨new, full, isOldest, added, by rw [inserted, erased]⟩
      · rw [swept] at gone
        cases gone

/-- After any sequence of operations the cache has at most 4096 entries.  An insertion evicts an
unexpired entry under another key only if 4096 entries are unexpired and its key is new.  Then it
evicts exactly one entry, and none expires before that one. -/
theorem evicts_first_to_expire (run : exec (Cache.apply lib) ∅ ops = some cache) :
    cache.entries.length ≤ maxCacheEntries ∧
      ∀ now order key response, cache.IsOrder order →
        (∀ k entry, Evicts lib now order key response cache k entry →
          cache.liveCount now = maxCacheEntries ∧ cache.lookup key = none ∧
            (∀ k' entry', cache.lookup k' = some entry' → entry.expiry ≤ entry'.expiry) ∧
            ∀ k' entry', k' ≠ k → cache.lookup k' = some entry' →
              (insertCache lib now order key response cache).lookup k' = some entry') ∧
        (cache.liveCount now = maxCacheEntries → cache.lookup key = none →
          Cacheable lib response → ∃ k entry, Evicts lib now order key response cache k entry) := by
  have bounded := bounded_of_exec run
  refine ⟨bounded, fun now order key response visits => ⟨?_, ?_⟩⟩
  · intro k entry evicts
    obtain ⟨new, full, isOldest, added, inserted⟩ := evicts.makeRoom_eq visits
    have stays : ∀ {k' entry'}, cache.lookup k' = some entry' →
        (evictExpiredCache now cache).lookup k' = some entry' := fun found =>
      lookup_evictExpiredCache_eq_some.mpr ⟨found, bounded.live_of_full full found⟩
    have count : cache.liveCount now = maxCacheEntries :=
      Nat.le_antisymm (liveCount_le.trans bounded) full
    refine ⟨count, new, ?_, ?_⟩
    · intro k' entry' found
      exact isOldest.least k' entry' (stays found)
    · intro k' entry' other found
      have old : k' ≠ key := by
        rintro rfl
        rw [new] at found
        cases found
      rw [inserted, AList.lookup_insert_ne old, AList.lookup_erase_ne other]
      exact stays found
  · intro full new cacheable
    obtain ⟨added, inserted⟩ := insertCache_of_cacheable cacheable
    rcases makeRoom_cases visits with ⟨-, few | ⟨old, known⟩⟩ | ⟨-, room⟩ |
      ⟨-, -, oldest, victim, isOldest, erased⟩
    · exact absurd (full ▸ liveCount_le) (Nat.not_le_of_lt few)
    · rw [new] at known
      cases known
    · exact absurd full (Nat.ne_of_lt room)
    · obtain ⟨found, live⟩ := lookup_evictExpiredCache_eq_some.mp isOldest.found
      have other : oldest ≠ key := by
        rintro rfl
        rw [new] at found
        cases found
      refine ⟨oldest, victim, other, found, live, ?_⟩
      rw [inserted, erased, AList.lookup_insert_ne other, AList.lookup_erase]

theorem insertCache_minuteAnswer (room : cache.entries.length < maxCacheEntries) :
    insertCache library now order key (emit (minuteAnswer 7)) cache =
      cache.insert key ⟨emit (minuteAnswer 7), now + fromSecs 60⟩ := by
  have long : ¬ (emit (minuteAnswer 7)).length < dnsHeaderSize := by decide +kernel
  have parsed : library.fromBytes (emit (minuteAnswer 7)) =
      some (minuteAnswer 7) := by decide +kernel
  have lifetime : calculateCacheTtl (minuteAnswer 7) = some 60 := by decide +kernel
  have same : makeRoom now order key cache = cache := by
    rw [makeRoom, decide_eq_false (Nat.not_le_of_lt room), Bool.false_and]
    rfl
  rw [insertCache, if_neg long]
  simp only [parsed, lifetime, same]

/-- Keys of growing length. -/
def fillerKey (n : Nat) : String := String.ofList (List.replicate n 'a')

theorem length_fillerKey (n : Nat) : (fillerKey n).length = n := by
  rw [fillerKey, String.length_ofList, List.length_replicate]

theorem lookup_fillerKey {n : Nat}
    (shorter : ∀ k entry, cache.lookup k = some entry → k.length < n) :
    cache.lookup (fillerKey n) = none := by
  by_contra known
  obtain ⟨entry, found⟩ := Option.ne_none_iff_exists'.mp known
  exact absurd (shorter _ entry found) (Nat.not_lt_of_le (length_fillerKey n).ge)

theorem exists_filled (n : Nat) (few : n ≤ maxCacheEntries) :
    ∃ ops cache, exec (Cache.apply library) ∅ ops = some cache ∧
      cache.entries.length = n ∧
      ∀ k entry, cache.lookup k = some entry → k.length < n ∧ entry.expiry = fromSecs 60 := by
  induction n with
  | zero => exact ⟨[], ∅, rfl, rfl, nofun⟩
  | succ n ih =>
    obtain ⟨ops, cache, run, length, entries⟩ := ih (Nat.le_of_succ_le few)
    have new := lookup_fillerKey fun k entry found => (entries k entry found).1
    have visits : cache.IsOrder cache.keys := List.Perm.refl _
    refine ⟨ops ++ [.insert 0 cache.keys (fillerKey n) (emit (minuteAnswer 7))],
      cache.insert (fillerKey n) ⟨emit (minuteAnswer 7), 0 + fromSecs 60⟩,
      ?_, ?_, ?_⟩
    · rw [exec_append, run, Option.bind_some, exec_cons, Cache.apply,
        if_pos visits, insertCache_minuteAnswer (length ▸ few)]
      rfl
    · rw [HashMap.entries_insert, HashMap.entries_erase_of_none new, List.length_cons, length]
    · intro k entry found
      rw [HashMap.lookup_insert_eq] at found
      split at found
      · rename_i same
        cases found
        rw [same, length_fillerKey]
        exact ⟨Nat.lt_succ_self n, Nat.zero_add _⟩
      · obtain ⟨shorter, expiry⟩ := entries k entry found
        exact ⟨Nat.lt_succ_of_lt shorter, expiry⟩

/-- A full cache loses one entry to a new key, and no other. -/
theorem evicts_from_full :
    ∃ ops cache, exec (Cache.apply library) ∅ ops = some cache ∧
      cache.liveCount 0 = maxCacheEntries ∧
      ∃ k entry, Evicts library 0 cache.keys (fillerKey maxCacheEntries)
        (emit (minuteAnswer 7)) cache k entry ∧
          ∀ k' entry', k' ≠ k → cache.lookup k' = some entry' →
            (insertCache library 0 cache.keys (fillerKey maxCacheEntries)
              (emit (minuteAnswer 7)) cache).lookup k' = some entry' := by
  obtain ⟨ops, cache, run, length, entries⟩ := exists_filled maxCacheEntries (Nat.le_refl _)
  have full : cache.liveCount 0 = maxCacheEntries := by
    rw [← length]
    refine List.countP_eq_length.mpr ?_
    rintro ⟨k, entry⟩ member
    rw [(entries k entry (HashMap.mem_entries_iff.mp member)).2]
    decide
  have new := lookup_fillerKey fun k entry found => (entries k entry found).1
  have cacheable : Cacheable library (emit (minuteAnswer 7)) :=
    ⟨by decide +kernel, minuteAnswer 7, by decide +kernel, 60, by decide +kernel⟩
  obtain ⟨only, some'⟩ := (evicts_first_to_expire run).2 0 cache.keys (fillerKey maxCacheEntries)
    (emit (minuteAnswer 7)) (List.Perm.refl _)
  obtain ⟨k, entry, evicts⟩ := some' full new cacheable
  exact ⟨ops, cache, run, full, k, entry, evicts, (only k entry evicts).2.2.2⟩

/-! ## The worker -/

variable {env : Env} {w w' : Worker} {query : Bytes} {origin : ClientOrigin} {cacheKey : String}
  {sent : List Output} {event : Event} {ticket : Nat}

/-- What can become of the cache in one step: it is left as it is, or there is one operation. -/
def Cache.Next (lib : Hickory) (cache after : Cache) : Prop :=
  after = cache ∨ ∃ op, cache.apply lib op = some after

theorem resolveUpstream_cache :
    (resolveUpstream lib env w query origin cacheKey).1.cache = w.cache := by
  unfold resolveUpstream
  split
  · rfl
  · simp only
    split
    · rfl
    · split
      · rfl
      · unfold forwardNewClientQuery
        split
        · rfl
        · simp only
          split
          · rfl
          · rfl

theorem answerFromCache_cache :
    (answerFromCache lib env w query origin cacheKey).1.cache =
      (lookupCache env.now cacheKey w.cache).2 := by
  unfold answerFromCache
  split
  · rename_i looked
    rw [looked]
  · rename_i looked
    rw [resolveUpstream_cache, looked]

theorem Cache.Next.of_looked (looked : cache.Looked after) :
    cache.Next lib after := by
  rcases looked with same | ⟨now, key, found⟩
  · exact .inl same
  · exact .inr ⟨.lookup now key, congrArg some found.symm⟩

theorem Step.next (step : Step lib env ticket w event w' sent)
    (visits : w.cache.IsOrder env.cacheOrder) : w.cache.Next lib w'.cache := by
  cases step with
  | quiet keeps | localReply keeps | hit keeps | join keeps | forward keeps =>
    exact .of_looked keeps.cache
  | settle _ _ _ _ _ _ => exact .inr ⟨.insert env.now env.cacheOrder _ _, if_pos visits⟩
  | @tcpEvent report _ _ =>
    cases report with
    | resolved key reply clients =>
      exact .inr ⟨.insert env.now env.cacheOrder key reply, if_pos visits⟩
    | failed fallbackReply clients => exact .inl rfl
  | tick => exact .inr ⟨.sweep env.now, rfl⟩
  | _ => exact .inl rfl

/-- In every run of the worker, its cache goes through a sequence of operations, and it never has
more than 4096 entries. -/
theorem exec_cache {labels : List (Env × Event)} {s : System}
    (run : exec (System.step lib) .init labels = some s) :
    (∃ ops, exec (Cache.apply lib) ∅ ops = some s.worker.cache) ∧
      s.worker.cache.entries.length ≤ 4096 := by
  obtain ⟨ops, applied⟩ : ∃ ops, exec (Cache.apply lib) ∅ ops = some s.worker.cache := by
    refine exec_keeps (fun s => ∃ ops, exec (Cache.apply lib) ∅ ops = some s.worker.cache) ?_
      ⟨[], rfl⟩ run
    intro s label t ⟨ops, before⟩ taken
    obtain ⟨allowed, w, sent, step, rfl⟩ := Step.of_system taken
    rcases step.next allowed.2.2.2 with same | ⟨op, applied⟩
    · exact ⟨ops, before.trans (congrArg some same.symm)⟩
    · exact ⟨ops ++ [op], by simp [exec_append, before, applied]⟩
  exact ⟨⟨ops, applied⟩, bounded_of_exec applied⟩

/-- A reply is cached, and the second client gets it from there. -/
theorem exec_cache_askedTwice :
    ∃ s, exec (System.step library) .init (askedTwice (minuteAnswer 7)) = some s ∧
      s.worker.cache.keys = ["www.org.:A:IN"] ∧
      ∃ ops, exec (Cache.apply library) ∅ ops = some s.worker.cache := by
  obtain ⟨s, run, keys⟩ : ∃ s, exec (System.step library) .init
      (askedTwice (minuteAnswer 7)) = some s ∧ s.worker.cache.keys = ["www.org.:A:IN"] := by
    decide +kernel
  exact ⟨s, run, keys, (exec_cache run).1⟩

end TrimRouter.Dns
