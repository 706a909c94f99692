import TrimRouter.Dns.Questions

/-!
# What a cache hit sends

A response is kept for at most the smallest time to live of its answers, and a hit sends it as it
is, apart from the transaction id and the size of the client.  The times to live in it are those of
the moment when it was cached.  That every entry was admitted at some time of the run is
`exists_insertedAt`.  `hit_ttls_aged_iff` says when they are still right.
-/

namespace TrimRouter.Dns

open Run
open Uncompressed (library emit askFor documented minuteAnswer laptop)

variable {lib : Hickory} {env : Env} {w w' : Worker} {query : Bytes} {origin : ClientOrigin}
  {key : String} {entry : CacheEntry} {ticket : Nat} {event : Event} {sent : List Output}

/-! ## What is sent -/

theorem length_of_getCacheKey (doc : lib.Documented) (asks : getCacheKey lib query = some key) :
    dnsHeaderSize ≤ query.length := by
  simp only [getCacheKey, Option.bind_eq_bind, Option.bind_eq_some_iff] at asks
  obtain ⟨packet, parsed, -⟩ := asks
  exact (doc.header parsed).1

theorem handleIncomingQuery_hit (long : dnsHeaderSize ≤ query.length)
    (external : tryResolveLocalQuery lib w.localTable query = none)
    (asks : getCacheKey lib query = some key) (found : w.cache.lookup key = some entry)
    (live : env.now < entry.expiry) :
    (handleIncomingQuery lib env w query origin).2 =
      [sendReply lib origin (setXid (xid query) entry.response)
        (some (extractClientMaxPayload lib query))] := by
  have fits : ¬ query.length < dnsHeaderSize := Nat.not_lt_of_le long
  simp only [handleIncomingQuery, fits, if_false, external, asks, answerFromCache, lookupCache,
    found, live, if_true]

/-- Of a client of the given size the response gets only what is left of it when it is
truncated. -/
def CutFor (lib : Hickory) (query response : Bytes) : ClientOrigin → Prop
  | .udp _ _ => extractClientMaxPayload lib query < response.length
  | .tcp _ _ => False

instance {response : Bytes} : DecidablePred (CutFor lib query response) := by
  intro x
  unfold CutFor
  split <;> infer_instance

theorem prepareClientResponse_cut (doc : lib.Documented) {response : Bytes} {maxPayload : Nat}
    {message : Message} (long : dnsHeaderSize ≤ response.length)
    (cut : maxPayload < response.length)
    (parsed : lib.fromBytes (prepareClientResponse lib response maxPayload) = some message) :
    message.answers = [] := by
  rw [prepareClientResponse, if_neg (Nat.not_le_of_lt cut)] at parsed
  split at parsed
  · rename_i original read
    simp only at parsed
    split at parsed
    · exact (doc.truncated read parsed).2
    · exact (doc.headerOnly parsed (length_cutToHeader long)).2
  · exact (doc.headerOnly parsed (length_cutToHeader long)).2

/-- A client that obeys the times to live in the reply keeps no record beyond the time that
it was given when it was cached. -/
def Aged (lib : Hickory) (since now : Nat) (cached : Message) (reply : Bytes) : Prop :=
  ∀ message, lib.fromBytes reply = some message → ∀ (i : Nat) (record original : Record),
    message.answers[i]? = some record → cached.answers[i]? = some original →
      now + fromSecs record.ttl.toNat ≤ since + fromSecs original.ttl.toNat

/-- The answers of the message are the same under every id: no name in it points into the id. -/
def AnswersApart (lib : Hickory) (response : Bytes) : Prop :=
  ∀ n, (lib.fromBytes (setXid n response)).map Message.answers =
    (lib.fromBytes response).map Message.answers

theorem answersApart_uncompressed (response : Bytes) :
    AnswersApart library response := by
  intro n
  rw [Uncompressed.fromBytes_setXid, Option.map_map]
  rfl

theorem aged_whole_iff {since now : Nat} {packet : Message} {response : Bytes}
    (apart : AnswersApart lib response) (parsed : lib.fromBytes response = some packet)
    (early : since ≤ now) (n : BitVec 16) :
    Aged lib since now packet (setXid n response) ↔ now = since ∨ packet.answers = [] := by
  obtain ⟨again, reread, answers⟩ :
      ∃ again, lib.fromBytes (setXid n response) = some again ∧ again.answers = packet.answers := by
    have same := apart n
    rw [parsed] at same
    exact Option.map_eq_some_iff.mp same
  constructor
  · intro aged
    cases listed : packet.answers with
    | nil => exact .inr rfl
    | cons record rest =>
      have first : packet.answers[0]? = some record := by rw [listed]; rfl
      have bound := aged _ reread 0 record record (answers ▸ first) first
      exact .inl (Nat.le_antisymm (Nat.le_of_add_le_add_right bound) early)
  · intro fresh message parsed' i record original sent cached
    rw [reread] at parsed'
    cases parsed'
    rw [answers] at sent
    rcases fresh with same | nothing
    · have equal := Option.some.inj (sent.symm.trans cached)
      rw [same, equal]
    · rw [nothing] at cached
      cases cached

/-- A hit on a response that was cached at `since`, and whose answers do not depend on its id, sends
records that are old enough exactly when it happens at that very time, or sends no answer. -/
theorem hit_ttls_aged_iff (doc : lib.Documented) {since : Nat} {packet : Message}
    (external : tryResolveLocalQuery lib w.localTable query = none)
    (asks : getCacheKey lib query = some key) (found : w.cache.lookup key = some entry)
    (live : env.now < entry.expiry) (admitted : entry.AdmittedAt lib since)
    (early : since ≤ env.now) (parsed : lib.fromBytes entry.response = some packet)
    (apart : AnswersApart lib entry.response) :
    ∃ reply, (handleIncomingQuery lib env w query origin).2 = [.reply origin reply] ∧
      (Aged lib since env.now packet reply ↔
        env.now = since ∨ packet.answers = [] ∨ CutFor lib query entry.response origin) := by
  have whole := aged_whole_iff apart parsed early (xid query)
  rw [handleIncomingQuery_hit (length_of_getCacheKey doc asks) external asks found live]
  cases origin with
  | tcp ticket peerAddr =>
    refine ⟨_, rfl, whole.trans ?_⟩
    simp only [CutFor, or_false]
  | udp ticket src =>
    by_cases cut : extractClientMaxPayload lib query < entry.response.length
    · refine ⟨_, rfl, iff_of_true ?_ (.inr (.inr cut))⟩
      intro message reread i record original sent
      have nothing := prepareClientResponse_cut doc (by rw [length_setXid]; exact admitted.long)
        (by rw [length_setXid]; exact cut) reread
      rw [nothing] at sent
      cases sent
    · have same : prepareClientResponse lib (setXid (xid query) entry.response)
          (extractClientMaxPayload lib query) = setXid (xid query) entry.response := by
        rw [prepareClientResponse, length_setXid, if_pos (Nat.le_of_not_lt cut)]
      refine ⟨setXid (xid query) entry.response, ?_, whole.trans ?_⟩
      · rw [sendReply, same]
      · simp only [CutFor, cut, or_false]

/-- A worker that has cached it at the given time. -/
def minuteWorker (since : Nat) : Worker :=
  { Worker.init with
    cache := insertCache library since [] "www.org.:A:IN" (emit (minuteAnswer 7)) ∅ }

/-- A client asks for it. -/
def minuteQuery : Bytes := emit (askFor 2 ["www", "org"] .a)

/-- A hit at the time of the insertion is not too long. -/
theorem hit_aged_at_once :
    ∃ reply, (handleIncomingQuery library ⟨0, [8], true, [], ["www.org.:A:IN"]⟩
        (minuteWorker 0) minuteQuery (.tcp 0 laptop)).2 = [.reply (.tcp 0 laptop) reply] ∧
      Aged library 0 0 (minuteAnswer 7) reply := by
  have entry : (minuteWorker 0).cache.lookup "www.org.:A:IN" =
      some ⟨emit (minuteAnswer 7), fromSecs 60⟩ := by decide +kernel
  have parsed : library.fromBytes (emit (minuteAnswer 7)) = some (minuteAnswer 7) := by
    decide +kernel
  have external : tryResolveLocalQuery library (minuteWorker 0).localTable minuteQuery = none := by
    decide +kernel
  have asks : getCacheKey library minuteQuery = some "www.org.:A:IN" := by decide +kernel
  have admitted : CacheEntry.AdmittedAt library ⟨emit (minuteAnswer 7), fromSecs 60⟩ 0 :=
    ⟨by decide +kernel, _, parsed, 60, by decide +kernel, rfl⟩
  have live : (⟨0, [8], true, [], ["www.org.:A:IN"]⟩ : Env).now < fromSecs 60 := by decide
  obtain ⟨reply, sends, aged⟩ := hit_ttls_aged_iff documented external asks entry live
    admitted (Nat.le_refl 0) parsed (answersApart_uncompressed _)
  exact ⟨reply, sends, aged.mpr (.inl rfl)⟩

/-- Half a minute after the insertion the hit still gives the answer a whole minute. -/
theorem hit_gives_full_ttl_again :
    ∃ reply, (handleIncomingQuery library
        ⟨fromSecs 30, [8], true, [], ["www.org.:A:IN"]⟩ (minuteWorker 0) minuteQuery
        (.udp 0 laptop)).2 = [.reply (.udp 0 laptop) reply] ∧
      (library.fromBytes reply).map (fun message => message.answers.map (·.ttl)) = some [60] ∧
      ¬ Aged library 0 (fromSecs 30) (minuteAnswer 7) reply := by
  refine ⟨emit (minuteAnswer 2), by decide +kernel, by decide +kernel, ?_⟩
  intro aged
  have bound := aged (minuteAnswer 2) (by decide +kernel) 0 _ _ rfl rfl
  exact absurd bound (by decide)

end TrimRouter.Dns
