import TrimRouter.Dns.PendingQueries
import TrimRouter.Dns.Uncompressed

/-!
# Joining a query in flight

A query that is neither local nor cached nor over the limit of its client joins a pending query for
the same question, up to 64 clients each.  Once one is full another one is forwarded for the same
question, and from then on several pending queries have the same key.  `try_join_in_flight_query`
takes the first of them that the map yields, whether or not it has room.  `joins_first_iff` says
when that is right.
-/

namespace TrimRouter.Dns

open Run
open Uncompressed (library emit askFor)

/-- The query under the id is for the key and has room for a client. -/
structure HasRoom (pending : HashMap (BitVec 16) PendingQuery) (key : String) (x : BitVec 16)
    (q : PendingQuery) : Prop where
  present : pending.lookup x = some q
  same : q.cacheKey = key
  room : q.clients.length < maxJoinedClientsPerQuery

/-- If a pending query with the key has room, the order comes to such a one before any other with
the key. -/
def RoomComesFirst (order : List (BitVec 16)) (pending : HashMap (BitVec 16) PendingQuery)
    (key : String) : Prop :=
  (∃ x q, HasRoom pending key x q) →
    ∃ front x back q, order = front ++ x :: back ∧ HasRoom pending key x q ∧
      ∀ y ∈ front, ∀ q', pending.lookup y = some q' → q'.cacheKey ≠ key

/-- The query has the key and is neither local nor cached nor over the limit of its client. -/
structure Misses (lib : Hickory) (env : Env) (w : Worker) (query : Bytes) (origin : ClientOrigin)
    (key : String) : Prop where
  long : dnsHeaderSize ≤ query.length
  unlisted : tryResolveLocalQuery lib w.localTable query = none
  asks : getCacheKey lib query = some key
  uncached : (lookupCache env.now key w.cache).1 = none
  allowed : ∃ clientIp, origin.peerAddr.ip = .v4 clientIp ∧
    (w.rateLimiter.check env.now clientIp).1 = true

/-- The result of a query for the key: it is forwarded only if all pending queries with the key
are full, and otherwise it is added to one with room. -/
def JoinsFirst (lib : Hickory) (w : Worker) (query : Bytes) (origin : ClientOrigin) (key : String)
    (result : Worker × List Output) : Prop :=
  (result.2 ≠ [] → ∀ x q, w.pending.lookup x = some q → q.cacheKey = key →
    maxJoinedClientsPerQuery ≤ q.clients.length) ∧
  ((∃ x q, HasRoom w.pending key x q) → ∃ x q, HasRoom w.pending key x q ∧
    result.1.pending = w.pending.insert x
      { q with clients := q.clients ++ [newClient lib query origin] } ∧ result.2 = [])

variable {lib : Hickory} {env : Env} {w : Worker} {query : Bytes} {origin : ClientOrigin}
  {key : String} {order : List (BitVec 16)} {pending joined : HashMap (BitVec 16) PendingQuery}
  {x : BitVec 16} {q : PendingQuery}

/-! ## The first pending query with the key -/

/-- The iteration finds a query exactly if it comes to it before any other with the key. -/
theorem find?_iter_eq_some (visits : pending.IsOrder order) :
    (pending.iter order).find? (fun e => e.2.cacheKey == key) = some (x, q) ↔
      ∃ front back, order = front ++ x :: back ∧ pending.lookup x = some q ∧ q.cacheKey = key ∧
        ∀ y ∈ front, ∀ q', pending.lookup y = some q' → q'.cacheKey ≠ key := by
  constructor
  · intro found
    obtain ⟨same, front, back, split, others⟩ := List.find?_eq_some_iff_append.mp found
    have present := HashMap.lookup_of_mem_iter (List.mem_of_find?_eq_some found)
    refine ⟨front.map Prod.fst, back.map Prod.fst, ?_, present, beq_iff_eq.mp same, ?_⟩
    · rw [← HashMap.map_fst_iter visits, split, List.map_append, List.map_cons]
    · intro y member q' here
      obtain ⟨⟨y, old⟩, early, rfl⟩ := List.mem_map.mp member
      have visited : (y, old) ∈ pending.iter order := split ▸ List.mem_append_left _ early
      obtain rfl : old = q' :=
        Option.some.inj ((HashMap.lookup_of_mem_iter visited).symm.trans here)
      simpa using others (y, old) early
  · rintro ⟨front, back, rfl, present, same, others⟩
    have none : (pending.iter front).find? (fun e => e.2.cacheKey == key) = none := by
      apply List.find?_eq_none.mpr
      rintro ⟨y, q'⟩ visited
      have other := HashMap.lookup_of_mem_iter visited
      have early : y ∈ front := by
        simp only [HashMap.iter, List.mem_filterMap, Option.map_eq_some_iff, Prod.mk.injEq]
          at visited
        obtain ⟨z, member, v, -, rfl, -⟩ := visited
        exact member
      simpa using others y early q' other
    have here : pending.iter (x :: back) = (x, q) :: pending.iter back := by
      simp [HashMap.iter, present]
    rw [HashMap.iter_append, List.find?_append, none, here, List.find?_cons_of_pos (by simp [same])]
    rfl

theorem tryJoinInFlightQuery_eq_some_iff (visits : pending.IsOrder order) :
    tryJoinInFlightQuery lib order pending key query origin = some joined ↔
      ∃ front x back q, (order = front ++ x :: back ∧ HasRoom pending key x q ∧
        ∀ y ∈ front, ∀ q', pending.lookup y = some q' → q'.cacheKey ≠ key) ∧
        joined = pending.insert x
          { q with clients := q.clients ++ [newClient lib query origin] } := by
  unfold tryJoinInFlightQuery
  cases found : (pending.iter order).find? fun e => e.2.cacheKey == key with
  | none =>
    refine iff_of_false nofun ?_
    rintro ⟨front, x, back, q, ⟨split, room, others⟩, -⟩
    have hit := (find?_iter_eq_some visits).mpr
      ⟨front, back, split, room.present, room.same, others⟩
    cases found.symm.trans hit
  | some first =>
    obtain ⟨x, q⟩ := first
    obtain ⟨front, back, split, present, same, others⟩ := (find?_iter_eq_some visits).mp found
    simp only
    split
    · rename_i full
      refine iff_of_false nofun ?_
      rintro ⟨front', x', back', q', ⟨split', room, others'⟩, -⟩
      have hit := (find?_iter_eq_some visits).mpr
        ⟨front', back', split', room.present, room.same, others'⟩
      cases found.symm.trans hit
      exact absurd room.room (Nat.not_lt_of_le full)
    · rename_i space
      constructor
      · rintro ⟨⟩
        exact ⟨front, x, back, q, ⟨split, ⟨present, same, Nat.lt_of_not_le space⟩, others⟩, rfl⟩
      · rintro ⟨front', x', back', q', ⟨split', room, others'⟩, rfl⟩
        have hit := (find?_iter_eq_some visits).mpr
          ⟨front', back', split', room.present, room.same, others'⟩
        cases found.symm.trans hit
        rfl

theorem handleIncomingQuery_of_misses (misses : Misses lib env w query origin key) :
    ∃ w', w'.pending = w.pending ∧ handleIncomingQuery lib env w query origin =
      match tryJoinInFlightQuery lib env.pendingOrder w.pending key query origin with
      | some joined => ({ w' with pending := joined }, [])
      | none => forwardNewClientQuery lib env w' query origin key := by
  obtain ⟨long, unlisted, asks, uncached, clientIp, peer, allowed⟩ := misses
  cases looked : lookupCache env.now key w.cache with
  | mk response cache =>
    rw [looked] at uncached
    subst uncached
    refine ⟨{ w with
      dnsStats.queriesTotal := saturatingInc w.dnsStats.queriesTotal
      cache := cache
      rateLimiter := (w.rateLimiter.check env.now clientIp).2 }, rfl, ?_⟩
    rw [handleIncomingQuery, if_neg (Nat.not_lt_of_le long)]
    simp only [unlisted, asks, answerFromCache, looked, resolveUpstream, peer, allowed]
    rfl

/-- A query that is not sent to a resolver is not kept. -/
theorem pending_of_forward_silent
    (silent : (forwardNewClientQuery lib env w query origin key).2 = []) :
    (forwardNewClientQuery lib env w query origin key).1.pending = w.pending := by
  unfold forwardNewClientQuery at silent ⊢
  split
  · rfl
  · rename_i upstreamXid drawn
    simp only [drawn] at silent ⊢
    split
    · rename_i sent
      rw [if_pos sent] at silent
      cases silent
    · rfl

/-- A client that is added shows. -/
theorem insert_client_ne {client : PendingClient} (present : pending.lookup x = some q) :
    pending ≠ pending.insert x { q with clients := q.clients ++ [client] } := by
  intro same
  have found := congrArg (AList.lookup x) same
  rw [present, HashMap.lookup_insert_eq, if_pos rfl] at found
  have clients := congrArg (fun q => q.clients.length) (Option.some.inj found)
  simp at clients

/-- In every state and for every iteration order: a query that misses is forwarded only if every
pending query with its key is full, and otherwise added to one with room, exactly if the order
comes to one with room before any other with the key. -/
theorem joins_first_iff (visits : w.pending.IsOrder env.pendingOrder)
    (misses : Misses lib env w query origin key) :
    JoinsFirst lib w query origin key (handleIncomingQuery lib env w query origin) ↔
      RoomComesFirst env.pendingOrder w.pending key := by
  obtain ⟨w', same, result⟩ := handleIncomingQuery_of_misses misses
  rw [result]
  cases join : tryJoinInFlightQuery lib env.pendingOrder w.pending key query origin with
  | some joined =>
    obtain ⟨front, x, back, q, first, rfl⟩ := (tryJoinInFlightQuery_eq_some_iff visits).mp join
    refine iff_of_true ⟨fun sent => absurd rfl sent, fun _ => ?_⟩ fun _ => ?_
    · exact ⟨x, q, first.2.1, rfl, rfl⟩
    · exact ⟨front, x, back, q, first⟩
  | none =>
    -- the first one with the key is full, or there is none
    constructor
    · intro joins spare
      obtain ⟨x, q, room, added, silent⟩ := joins.2 spare
      have kept := (pending_of_forward_silent silent).trans same
      exact absurd (kept.symm.trans added) (insert_client_ne room.present)
    · intro roomFirst
      have noRoom : ¬∃ x q, HasRoom w.pending key x q := by
        intro spare
        obtain ⟨front, x, back, q, first⟩ := roomFirst spare
        have joins : tryJoinInFlightQuery lib env.pendingOrder w.pending key query origin =
            some _ :=
          (tryJoinInFlightQuery_eq_some_iff visits).mpr ⟨front, x, back, q, first, rfl⟩
        cases join.symm.trans joins
      refine ⟨?_, fun spare => absurd spare noRoom⟩
      intro sent x q present sameKey
      by_contra space
      exact noRoom ⟨x, q, present, sameKey, Nat.lt_of_not_le space⟩

/-! ## A full query in the way -/

/-- The question that all clients ask. -/
def wwwQuery : Bytes := emit (askFor 0x1111 ["www", "org"] .a)

/-- The clients have different addresses. -/
def crowdPeer (i : Nat) : SocketAddr := ⟨.v4 (0xc0a80100 + BitVec.ofNat 32 i), 5000⟩

/-- A query of a client, with the id and the iteration order that the worker uses. -/
def crowdQuery (i : Nat) (upstreamXid : BitVec 16) (order : List (BitVec 16)) : Env × Event :=
  (⟨0, [upstreamXid], true, order, []⟩, .query .udp (crowdPeer i) wwwQuery)

/-- Sixty-five clients ask: the first query is full, and the second one has one client. -/
def crowdQueries : List (Env × Event) :=
  crowdQuery 0 7 [] :: (List.range 64).map fun i => crowdQuery (i + 1) 8 [7]

theorem crowd_has_room :
    ∃ s, exec (System.step library) .init crowdQueries = some s ∧
      (∀ order, Misses library (crowdQuery 65 9 order).1 s.worker wwwQuery
        (.udp 65 (crowdPeer 65)) "www.org.:A:IN") ∧
      s.worker.pending.IsOrder [7, 8] ∧
      (∃ q, HasRoom s.worker.pending "www.org.:A:IN" 8 q) ∧
      (handleIncomingQuery library (crowdQuery 65 9 [7, 8]).1 s.worker wwwQuery
        (.udp 65 (crowdPeer 65))).2.length = 1 := by
  obtain ⟨s, run, unlisted, uncached, allowed, visits, second, forwarded⟩ :
      ∃ s, exec (System.step library) .init crowdQueries = some s ∧
        tryResolveLocalQuery library s.worker.localTable wwwQuery = none ∧
        (lookupCache 0 "www.org.:A:IN" s.worker.cache).1 = none ∧
        (s.worker.rateLimiter.check 0 (0xc0a80100 + BitVec.ofNat 32 65)).1 = true ∧
        s.worker.pending.IsOrder [7, 8] ∧
        (s.worker.pending.lookup 8).map (fun q => (q.cacheKey, q.clients.length)) =
          some ("www.org.:A:IN", 1) ∧
        (handleIncomingQuery library (crowdQuery 65 9 [7, 8]).1 s.worker
          wwwQuery (.udp 65 (crowdPeer 65))).2.length = 1 := by
    decide +kernel
  have asks : getCacheKey library wwwQuery = some "www.org.:A:IN" := by
    decide +kernel
  obtain ⟨q, present, counts⟩ := Option.map_eq_some_iff.mp second
  obtain ⟨same, one⟩ := Prod.mk.inj counts
  refine ⟨s, run, fun order => ?_, visits, ⟨q, present, same, ?_⟩, forwarded⟩
  · exact ⟨by decide +kernel, unlisted, asks, uncached, _, rfl, allowed⟩
  · rw [one]
    decide

/-- The map yields the query with room first, and the client joins it. -/
theorem joins_second_query :
    ∃ s, exec (System.step library) .init crowdQueries = some s ∧
      JoinsFirst library s.worker wwwQuery (.udp 65 (crowdPeer 65)) "www.org.:A:IN"
        (handleIncomingQuery library (crowdQuery 65 9 [8, 7]).1 s.worker wwwQuery
          (.udp 65 (crowdPeer 65))) := by
  obtain ⟨s, run, misses, visits, ⟨q, room⟩, -⟩ := crowd_has_room
  have swapped : s.worker.pending.IsOrder [8, 7] := (List.Perm.swap 7 8 []).trans visits
  refine ⟨s, run, (joins_first_iff swapped (misses [8, 7])).mpr fun _ => ?_⟩
  exact ⟨[], 8, [7], q, rfl, room, nofun⟩

/-- The map yields the full query first, and the client causes a third one, although the second
has room. -/
theorem forwarded_despite_room :
    ∃ s, exec (System.step library) .init crowdQueries = some s ∧
      s.worker.pending.IsOrder [7, 8] ∧
      Misses library (crowdQuery 65 9 [7, 8]).1 s.worker wwwQuery
        (.udp 65 (crowdPeer 65)) "www.org.:A:IN" ∧
      ¬JoinsFirst library s.worker wwwQuery (.udp 65 (crowdPeer 65))
        "www.org.:A:IN"
        (handleIncomingQuery library (crowdQuery 65 9 [7, 8]).1 s.worker wwwQuery
          (.udp 65 (crowdPeer 65))) := by
  obtain ⟨s, run, misses, visits, ⟨q, room⟩, forwarded⟩ := crowd_has_room
  refine ⟨s, run, visits, misses [7, 8], ?_⟩
  rintro ⟨onlyIfFull, -⟩
  have full := onlyIfFull (List.ne_nil_of_length_pos (forwarded ▸ Nat.one_pos)) 8 q room.present
    room.same
  exact absurd room.room (Nat.not_lt_of_le full)

end TrimRouter.Dns
