import TrimRouter.Dns.CacheEviction

/-!
# Which responses are cached, and for how long

A response is kept for a time that its records give: the smallest time to live of the answers, or
for a negative response what the start of authority says.  `KeptFor` states that time on its own
terms, and the cache of the worker is compared with it over whole runs.  The result is
`cached_for_its_time`.
-/

namespace TrimRouter.Dns

open Run
open Uncompressed (library emit askFor answer ofText minuteAnswer laptop phone)

/-! ## The time for which a response is kept -/

/-- The smallest time to live of some records. -/
def IsLeastTtl (records : List Record) (least : Nat) : Prop :=
  (∃ record ∈ records, record.ttl.toNat = least) ∧ ∀ record ∈ records, least ≤ record.ttl.toNat

/-- The first start of authority among some records. -/
def IsFirstSoa (records : List Record) (ttl minimum : BitVec 32) : Prop :=
  ∃ before soa after, records = before ++ soa :: after ∧ soa.ttl = ttl ∧
    soa.data = .soa minimum ∧ ∀ record ∈ before, ∀ minimum, record.data ≠ .soa minimum

/-- A response without the records that were asked for. -/
def IsNegative (packet : Message) : Prop :=
  packet.responseCode = .nxDomain ∨ packet.responseCode = .noError ∧ packet.answers = []

/-- The time for which a response may be kept, in seconds. -/
inductive KeptFor (packet : Message) : Nat → Prop
  | positive {least : Nat} (code : packet.responseCode = .noError)
      (answers : IsLeastTtl packet.answers least) (pos : 0 < least) :
      KeptFor packet (min 3600 least)
  | negative {ttl minimum : BitVec 32} (code : IsNegative packet)
      (soa : IsFirstSoa packet.authorities ttl minimum) :
      KeptFor packet (max 5 (min (min ttl.toNat minimum.toNat) 300))
  | unknown (code : IsNegative packet)
      (noSoa : ∀ record ∈ packet.authorities, ∀ minimum, record.data ≠ .soa minimum) :
      KeptFor packet 60

variable {packet : Message} {records : List Record} {ttl minimum : BitVec 32} {seconds : Nat}

theorem firstSoa_eq_some (found : firstSoa records = some (ttl, minimum)) :
    IsFirstSoa records ttl minimum := by
  induction records with
  | nil => cases found
  | cons record rest ih =>
    cases data : record.data with
    | soa first =>
      simp only [firstSoa, data] at found
      cases found
      exact ⟨[], record, rest, rfl, rfl, data, nofun⟩
    | _ =>
      simp only [firstSoa, data] at found
      obtain ⟨before, soa, after, rfl, sameTtl, sameData, none'⟩ := ih found
      refine ⟨record :: before, soa, after, rfl, sameTtl, sameData, ?_⟩
      exact List.forall_mem_cons.mpr ⟨by simp [data], none'⟩

theorem firstSoa_eq_none (missing : firstSoa records = none) :
    ∀ record ∈ records, ∀ minimum, record.data ≠ .soa minimum := by
  induction records with
  | nil => exact nofun
  | cons record rest ih =>
    intro other listed
    cases data : record.data with
    | soa first =>
      simp only [firstSoa, data] at missing
      cases missing
    | _ =>
      simp only [firstSoa, data] at missing
      rcases List.mem_cons.mp listed with rfl | later
      · simp [data]
      · exact ih missing other later

theorem keptFor_negative (code : IsNegative packet) :
    KeptFor packet (calculateNegativeTtl packet) := by
  unfold calculateNegativeTtl
  split
  · rename_i found
    exact .negative code (firstSoa_eq_some found)
  · rename_i missing
    exact .unknown code (firstSoa_eq_none missing)

theorem isLeastTtl_of_min? {least : Nat}
    (least' : (packet.answers.map (·.ttl.toNat)).min? = some least) :
    IsLeastTtl packet.answers least := by
  obtain ⟨member, bound⟩ := List.min?_eq_some_iff.mp least'
  obtain ⟨record, listed, same⟩ := List.mem_map.mp member
  refine ⟨⟨record, listed, same⟩, ?_⟩
  intro other listed'
  exact bound _ (List.mem_map_of_mem listed')

/-- What is admitted is an untruncated response, for the time that its records give. -/
theorem keptFor_of_calculateCacheTtl (admitted : calculateCacheTtl packet = some seconds) :
    packet.truncation = false ∧ packet.messageType = .response ∧ KeptFor packet seconds := by
  unfold calculateCacheTtl at admitted
  split at admitted
  · cases admitted
  · rename_i plain
    simp only [Bool.or_eq_true, bne_iff_ne, ne_eq, not_or, Bool.not_eq_true,
      Decidable.not_not] at plain
    refine ⟨plain.1, plain.2, ?_⟩
    split at admitted
    · rename_i code
      split at admitted
      · rename_i empty
        cases admitted
        exact keptFor_negative (.inr ⟨code, List.isEmpty_iff.mp empty⟩)
      · rename_i some'
        cases least : (packet.answers.map (·.ttl.toNat)).min? with
        | none =>
          rw [List.min?_eq_none_iff, List.map_eq_nil_iff] at least
          exact absurd (List.isEmpty_iff.mpr least) some'
        | some ttl =>
          rw [least, Option.getD_some] at admitted
          simp only at admitted
          split at admitted
          · cases admitted
          · rename_i pos
            cases admitted
            exact .positive code (isLeastTtl_of_min? least) (Nat.pos_of_ne_zero pos)
    · rename_i code
      cases admitted
      exact keptFor_negative (.inl code)
    · cases admitted

/-! ## One step -/

variable {lib : Hickory} {env : Env} {w w' : Worker} {query : Bytes} {origin : ClientOrigin}
  {key : String} {entry : CacheEntry} {ticket : Nat} {event : Event} {sent : List Output}

/-- The step puts the entry into the cache. -/
structure Inserts (lib : Hickory) (env : Env) (w w' : Worker) (key : String) (entry : CacheEntry) :
    Prop where
  inserted : w'.cache = insertCache lib env.now env.cacheOrder key entry.response w.cache
  admitted : entry.AdmittedAt lib env.now

theorem Step.inserts (step : Step lib env ticket w event w' sent)
    (new : w.cache.lookup key ≠ some entry) (found : w'.cache.lookup key = some entry) :
    Inserts lib env w w' key entry := by
  rcases step.sources.cache found with before | ⟨-, admitted, inserted⟩
  · exact absurd before new
  · exact ⟨inserted, admitted⟩

/-- The query gets as far as the cache, and is looked up there under the key. -/
structure LooksUp (lib : Hickory) (w : Worker) (query : Bytes) (key : String) : Prop where
  long : dnsHeaderSize ≤ query.length
  external : tryResolveLocalQuery lib w.localTable query = none
  asks : getCacheKey lib query = some key

theorem lookup_lookupCache {now : Nat} {cache : Cache}
    (stale : ∀ entry, cache.lookup key = some entry → entry.expiry ≤ now) :
    (lookupCache now key cache).2.lookup key = none := by
  unfold lookupCache
  split
  · rename_i entry found
    rw [if_neg (Nat.not_lt_of_le (stale entry found))]
    exact AList.lookup_erase key cache
  · rename_i missing
    exact missing

/-- A query without an unexpired entry takes an expired one out. -/
theorem LooksUp.removes (looks : LooksUp lib w query key)
    (stale : ∀ entry, w.cache.lookup key = some entry → entry.expiry ≤ env.now) :
    (handleIncomingQuery lib env w query origin).1.cache.lookup key = none := by
  have fits : ¬ query.length < dnsHeaderSize := Nat.not_lt_of_le looks.long
  simp only [handleIncomingQuery, fits, if_false, looks.external, looks.asks,
    answerFromCache_cache]
  exact lookup_lookupCache stale

theorem LooksUp.misses {transport : Transport} {peer : SocketAddr} (looks : LooksUp lib w query key)
    (stale : ∀ entry, w.cache.lookup key = some entry → entry.expiry ≤ env.now)
    (step : Step lib env ticket w (.query transport peer query) w' sent) :
    ∀ client response, Output.reply client response ∉ sent := by
  intro client response
  cases step with
  | quiet | join => exact List.not_mem_nil
  | localReply _ resolved =>
    rw [looks.external] at resolved
    cases resolved
  | hit _ _ asks found live =>
    obtain rfl := Option.some.inj (looks.asks.symm.trans asks)
    exact absurd (stale _ found) (Nat.not_le_of_lt live)
  | forward _ _ _ _ => simp

/-! ## A run -/

variable {labels : List (Env × Event)} {s t : System}

/-- A step of the run puts the entry into the cache at the given time. -/
def InsertedAt (lib : Hickory) (labels : List (Env × Event)) (key : String) (entry : CacheEntry)
    (since : Nat) : Prop :=
  ∃ done label rest u v, labels = done ++ label :: rest ∧
    exec (System.step lib) .init done = some u ∧ System.step lib u label = some v ∧
    label.1.now = since ∧ Inserts lib label.1 u.worker v.worker key entry

theorem exists_insertedAt (run : exec (System.step lib) .init labels = some s)
    (found : s.worker.cache.lookup key = some entry) :
    ∃ since, InsertedAt lib labels key entry since ∧ entry.AdmittedAt lib since := by
  have start : ¬ System.init.worker.cache.lookup key = some entry := nofun
  obtain ⟨done, label, rest, u, v, split, before, new, taken, present, -, -⟩ :=
    exists_last_start (P := fun s : System => s.worker.cache.lookup key = some entry) start found
      run
  obtain ⟨-, w, sent, turn, rfl⟩ := Step.of_system taken
  have inserts := turn.inserts new present
  exact ⟨_, ⟨done, label, rest, u, _, split, before, taken, rfl, inserts⟩, inserts.admitted⟩

/-- In every run, each entry of the cache was inserted at some time `since` of the run.  It is an
untruncated response with a code and records that give it `seconds` to be kept, and it expires that
long after `since`.  A query for it is answered with it before that time; from then on it is not
answered from the cache, and the entry is taken out. -/
theorem cached_for_its_time (run : exec (System.step lib) .init labels = some s) :
    (∀ key entry, s.worker.cache.lookup key = some entry →
      ∃ since packet seconds, InsertedAt lib labels key entry since ∧
        lib.fromBytes entry.response = some packet ∧ packet.truncation = false ∧
        packet.messageType = .response ∧ KeptFor packet seconds ∧
        entry.expiry = since + fromSecs seconds) ∧
    ∀ env transport peer query key t, LooksUp lib s.worker query key →
      System.step lib s (env, .query transport peer query) = some t →
      (∀ entry, s.worker.cache.lookup key = some entry → env.now < entry.expiry →
        t.sent = s.sent ++ [sendReply lib (transport.origin s.received.length peer)
          (setXid (xid query) entry.response) (some (extractClientMaxPayload lib query))]) ∧
      ((∀ entry, s.worker.cache.lookup key = some entry → entry.expiry ≤ env.now) →
        t.worker.cache.lookup key = none ∧
          ∃ sent, t.sent = s.sent ++ sent ∧ ∀ client response, .reply client response ∉ sent) := by
  refine ⟨?_, ?_⟩
  · intro key entry found
    obtain ⟨since, inserted, admitted⟩ := exists_insertedAt run found
    obtain ⟨packet, parsed, seconds, ttl, expiry⟩ := admitted.parsed
    obtain ⟨whole, response, kept⟩ := keptFor_of_calculateCacheTtl ttl
    exact ⟨since, packet, seconds, inserted, parsed, whole, response, kept, expiry⟩
  · intro env transport peer query key t looks step
    obtain ⟨allowed, w, sent, turn, result⟩ := Step.of_system step
    have handled : System.step lib s (env, .query transport peer query) =
        some ⟨env.now, (handleIncomingQuery lib env s.worker query
            (transport.origin s.received.length peer)).1,
          s.received ++ [⟨transport.origin s.received.length peer, query⟩],
          s.sent ++ (handleIncomingQuery lib env s.worker query
            (transport.origin s.received.length peer)).2⟩ := by
      rw [System.step, if_pos allowed]
      rfl
    have same := Option.some.inj (handled.symm.trans step)
    constructor
    · intro entry found live
      rw [← same, handleIncomingQuery_hit looks.long looks.external looks.asks found live]
    · intro stale
      refine ⟨?_, sent, ?_, looks.misses stale turn⟩
      · rw [← same]
        exact looks.removes stale
      · rw [result]

/-- The first client asks again. -/
def askedAgain (now : Nat) : Env × Event :=
  (⟨now, [8], true, [], ["www.org.:A:IN"]⟩,
    .query .udp laptop (emit (askFor 1 ["www", "org"] .a)))

/-- Two clients get a response, the second one from the cache, and so does the first one when it
asks again in the same minute; a minute later the entry is taken out. -/
theorem cached_minute_answer :
    ∃ s hit miss entry since packet seconds,
      exec (System.step library) .init (askedTwice (minuteAnswer 7)) = some s ∧
      s.worker.cache.lookup "www.org.:A:IN" = some entry ∧
      InsertedAt library (askedTwice (minuteAnswer 7)) "www.org.:A:IN" entry since ∧
      library.fromBytes entry.response = some packet ∧ KeptFor packet seconds ∧
      entry.expiry = since + fromSecs seconds ∧
      System.step library s (askedAgain (fromSecs 60)) = some hit ∧
      hit.sent = s.sent ++ [.reply (.udp 2 laptop) (emit (minuteAnswer 1))] ∧
      System.step library s (askedAgain (fromSecs 61)) = some miss ∧
      miss.worker.cache.lookup "www.org.:A:IN" = none := by
  obtain ⟨s, run, present, external, two, hits, misses⟩ :
      ∃ s, exec (System.step library) .init (askedTwice (minuteAnswer 7)) = some s ∧
        s.worker.cache.lookup "www.org.:A:IN" = some ⟨emit (minuteAnswer 7), 1 + fromSecs 60⟩ ∧
        tryResolveLocalQuery library s.worker.localTable (emit (askFor 1 ["www", "org"] .a)) =
          none ∧
        s.received.length = 2 ∧
        (System.step library s (askedAgain (fromSecs 60))).isSome ∧
        (System.step library s (askedAgain (fromSecs 61))).isSome := by
    decide +kernel
  obtain ⟨hit, hits⟩ := Option.isSome_iff_exists.mp hits
  obtain ⟨miss, misses⟩ := Option.isSome_iff_exists.mp misses
  obtain ⟨entries, queries⟩ := cached_for_its_time run
  obtain ⟨since, packet, seconds, inserted, parsed, -, -, kept, expiry⟩ := entries _ _ present
  have looks : LooksUp library s.worker (emit (askFor 1 ["www", "org"] .a)) "www.org.:A:IN" :=
    ⟨by decide +kernel, external, by decide +kernel⟩
  have sent := (queries _ _ _ _ _ hit looks hits).1 _ present (by decide)
  have removed := (queries _ _ _ _ _ miss looks misses).2 fun entry found => by
    rw [present] at found
    cases found
    decide
  refine ⟨s, hit, miss, _, since, packet, seconds, run, present, inserted, parsed, kept, expiry,
    hits, ?_, misses, removed.1⟩
  rw [sent, two]
  refine congrArg (s.sent ++ ·) ?_
  decide +kernel

/-- The name is an alias of one that does not exist, and the alias may not be kept. -/
def danglingAlias : Message :=
  { answer 7 ["www", "org"] 0 (.new 0 0 0 0) with
    responseCode := .nxDomain
    answers := [⟨⟨["www", "org"].map ofText, true⟩, 0,
      .other 5 (Uncompressed.writeName ⟨["gone", "org"].map ofText, true⟩)⟩] }

/-- It is cached, and the second client gets it from the cache. -/
theorem zero_ttl_answer_cached :
    ∃ s, exec (System.step library) .init (askedTwice danglingAlias) = some s ∧
      s.worker.cache.lookup "www.org.:A:IN" = some ⟨emit danglingAlias, 1 + fromSecs 60⟩ ∧
      library.fromBytes (emit danglingAlias) = some danglingAlias ∧
      IsLeastTtl danglingAlias.answers 0 ∧
      s.sent.getLast? = some (.reply (.udp 1 phone) (setXid 2 (emit danglingAlias))) := by
  obtain ⟨s, run, cached, sent⟩ : ∃ s, exec (System.step library) .init
      (askedTwice danglingAlias) = some s ∧ s.worker.cache.lookup "www.org.:A:IN" =
        some ⟨emit danglingAlias, 1 + fromSecs 60⟩ ∧
      s.sent.getLast? = some (.reply (.udp 1 phone) (setXid 2 (emit danglingAlias))) := by
    decide +kernel
  refine ⟨s, run, cached, by decide +kernel, ⟨?_, ?_⟩, sent⟩
  · exact ⟨_, List.mem_singleton.mpr rfl, rfl⟩
  · exact fun _ _ => Nat.zero_le _

end TrimRouter.Dns
