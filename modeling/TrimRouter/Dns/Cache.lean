import TrimRouter.Dns.Message
import TrimRouter.Lib.HashMap
import Mathlib.Data.List.MinMax

/-!
# The answer cache

The cache of `services/dns_forwarder/worker.rs`: the key of a question, the time for which
a response may be kept, and the operations on the map.
-/

namespace TrimRouter.Dns

/-- `DNS_HEADER_SIZE`. -/
def dnsHeaderSize : Nat := 12

/-- `MAX_TTL_SECS`. -/
def maxTtlSecs : Nat := 3600

/-- `DEFAULT_NEGATIVE_TTL_SECS`. -/
def defaultNegativeTtlSecs : Nat := 60

/-- `MIN_NEGATIVE_TTL_SECS`. -/
def minNegativeTtlSecs : Nat := 5

/-- `MAX_NEGATIVE_TTL_SECS`. -/
def maxNegativeTtlSecs : Nat := 300

/-- `MAX_CACHE_ENTRIES`. -/
def maxCacheEntries : Nat := 4096

/-- `CacheEntry`. -/
structure CacheEntry where
  response : Bytes
  expiry : Nat
deriving DecidableEq

/-- The cache, by cache key.  The code keeps the UTF-8 bytes of a key. -/
abbrev Cache := HashMap String CacheEntry

/-! ## Keys -/

/-- The key of a question: its name in lower case, its type and its class. -/
def questionKey (lib : Hickory) (question : Query) : String :=
  String.ofList ((lib.toAscii question.name).toList.map Char.toLower) ++ ":" ++
    lib.typeDebug question.queryType ++ ":" ++ lib.classDebug question.queryClass

/-- `get_cache_key`. -/
def getCacheKey (lib : Hickory) (queryBytes : Bytes) : Option String := do
  let packet ← lib.fromBytes queryBytes
  let question ← packet.queries.head?
  if packet.opCode ≠ .query then none
  some (questionKey lib question)

/-! ## Lifetimes -/

/-- The first record that is an SOA, with its time to live and its minimum. -/
def firstSoa : List Record → Option (BitVec 32 × BitVec 32)
  | [] => none
  | record :: rest =>
    match record.data with
    | .soa minimum => some (record.ttl, minimum)
    | _ => firstSoa rest

/-- `calculate_negative_ttl`, in seconds. -/
def calculateNegativeTtl (packet : Message) : Nat :=
  match firstSoa packet.authorities with
  | some (soaTtl, minimum) =>
    max minNegativeTtlSecs (min (min soaTtl.toNat minimum.toNat) maxNegativeTtlSecs)
  | none => defaultNegativeTtlSecs

/-- `calculate_cache_ttl`, in seconds. -/
def calculateCacheTtl (packet : Message) : Option Nat :=
  if packet.truncation || packet.messageType != .response then none
  else
    match packet.responseCode with
    | .noError =>
      if packet.answers.isEmpty then some (calculateNegativeTtl packet)
      else
        let rawTtl := ((packet.answers.map (·.ttl.toNat)).min?).getD defaultTtlSecs.toNat
        if rawTtl = 0 then none else some (min maxTtlSecs rawTtl)
    | .nxDomain => some (calculateNegativeTtl packet)
    | _ => none

/-! ## The map -/

/-- `evict_expired_cache`. -/
def evictExpiredCache (now : Nat) (cache : Cache) : Cache :=
  cache.retain fun _ entry => now < entry.expiry

/-- `lookup_cache`, which takes an expired entry out. -/
def lookupCache (now : Nat) (key : String) (cache : Cache) : Option Bytes × Cache :=
  match cache.lookup key with
  | some entry =>
    if now < entry.expiry then (some entry.response, cache) else (none, cache.erase key)
  | none => (none, cache)

/-- Make room for a new key: drop what is expired, and then, if that does not help, the
entry that expires first. -/
def makeRoom (now : Nat) (order : List String) (key : String) (cache : Cache) : Cache :=
  if maxCacheEntries ≤ cache.entries.length && (cache.lookup key).isNone then
    let cache := evictExpiredCache now cache
    if maxCacheEntries ≤ cache.entries.length then
      match (cache.iter order).argmin (fun e => e.2.expiry) with
      | some oldest => cache.erase oldest.1
      | none => cache
    else cache
  else cache

/-- `insert_cache`.  An iteration visits the map in the order of the keys in `order`. -/
def insertCache (lib : Hickory) (now : Nat) (order : List String) (key : String)
    (response : Bytes) (cache : Cache) : Cache :=
  if response.length < dnsHeaderSize then cache
  else
    match lib.fromBytes response with
    | none => cache
    | some packet =>
      match calculateCacheTtl packet with
      | none => cache
      | some ttl =>
        (makeRoom now order key cache).insert key ⟨response, now + fromSecs ttl⟩

/-! ## What is in the cache -/

variable {lib : Hickory} {now : Nat} {order : List String} {key k : String} {response : Bytes}
  {cache : Cache} {entry : CacheEntry}

theorem mem_evictExpiredCache (found : (evictExpiredCache now cache).lookup k = some entry) :
    cache.lookup k = some entry :=
  (HashMap.lookup_retain_eq_some.mp found).1

theorem mem_erase (found : (cache.erase key).lookup k = some entry) :
    cache.lookup k = some entry := by
  rw [HashMap.lookup_erase_eq] at found
  split at found
  · cases found
  · exact found

theorem mem_lookupCache (found : (lookupCache now key cache).2.lookup k = some entry) :
    cache.lookup k = some entry := by
  unfold lookupCache at found
  split at found
  · split at found
    · exact found
    · exact mem_erase found
  · exact found

theorem lookupCache_hit (hit : (lookupCache now key cache).1 = some response) :
    ∃ entry, cache.lookup key = some entry ∧ now < entry.expiry ∧ entry.response = response := by
  unfold lookupCache at hit
  split at hit
  · rename_i entry found
    split at hit
    · rename_i live
      cases hit
      exact ⟨entry, found, live, rfl⟩
    · cases hit
  · cases hit

theorem mem_makeRoom (found : (makeRoom now order key cache).lookup k = some entry) :
    cache.lookup k = some entry := by
  unfold makeRoom at found
  split at found
  · simp only at found
    split at found
    · split at found
      · exact mem_evictExpiredCache (mem_erase found)
      · exact mem_evictExpiredCache found
    · exact mem_evictExpiredCache found
  · exact found

/-- The response was admitted for caching at the time `since`, until `entry.expiry`. -/
structure CacheEntry.AdmittedAt (lib : Hickory) (entry : CacheEntry) (since : Nat) : Prop where
  long : dnsHeaderSize ≤ entry.response.length
  parsed : ∃ packet, lib.fromBytes entry.response = some packet ∧
    ∃ ttl, calculateCacheTtl packet = some ttl ∧ entry.expiry = since + fromSecs ttl

/-- An insertion adds at most the new response, under the given key. -/
theorem mem_insertCache
    (found : (insertCache lib now order key response cache).lookup k = some entry) :
    cache.lookup k = some entry ∨
      k = key ∧ entry.response = response ∧ entry.AdmittedAt lib now := by
  unfold insertCache at found
  split at found
  · exact .inl found
  · rename_i long
    split at found
    · exact .inl found
    · rename_i packet parsed
      split at found
      · exact .inl found
      · rename_i ttl lifetime
        rw [HashMap.lookup_insert_eq] at found
        split at found
        · rename_i same
          cases found
          exact .inr ⟨same, rfl, Nat.le_of_not_lt long, packet, parsed, ttl, lifetime, rfl⟩
        · exact .inl (mem_makeRoom found)

theorem messageType_of_calculateCacheTtl {packet : Message} {ttl : Nat}
    (admitted : calculateCacheTtl packet = some ttl) : packet.messageType = .response := by
  unfold calculateCacheTtl at admitted
  split at admitted
  · cases admitted
  · rename_i plain
    simp only [Bool.or_eq_true, bne_iff_ne, ne_eq, not_or, Decidable.not_not] at plain
    exact plain.2

end TrimRouter.Dns
