import TrimRouter.Dns.PendingQueries
import TrimRouter.Dns.Replies

/-!
# The handlers of the DNS worker do not panic

The handlers index into messages, into the questions of a message and into the resolvers of a
pending query, and they `expect` a query to be pending and the origin of a client to be there.  A
panic ends the process.  `Checked` has the handlers once more, with every such place as the code has
it; `none` is a panic.  The results are `pending_sound` and `unsolicited_reply_ignored`.
-/

namespace TrimRouter.Dns

open Uncompressed (library emit askFor minuteAnswer laptop)

/-- What code that can panic returns; `none` is a panic. -/
abbrev Checked (α : Type) := Option α

namespace Checked

/-! ## Bytes -/

/-- `bytes[i] = byte`. -/
def store (bytes : Bytes) (i : Nat) (byte : BitVec 8) : Checked Bytes :=
  if i < bytes.length then some (bytes.set i byte) else none

/-- `u16::from_be_bytes([bytes[0], bytes[1]])`. -/
def readXid (bytes : Bytes) : Checked (BitVec 16) := do
  let hi ← bytes[0]?
  let lo ← bytes[1]?
  some (hi ++ lo)

/-- The bytes of an id written to `bytes[0]` and `bytes[1]`. -/
def writeXid (n : BitVec 16) (bytes : Bytes) : Checked Bytes := do
  let bytes ← store bytes 0 (n.extractLsb' 8 8)
  store bytes 1 (n.extractLsb' 0 8)

/-- The same, if there are two bytes. -/
def writeXidIfLong (n : BitVec 16) (bytes : Bytes) : Checked Bytes :=
  if 2 ≤ bytes.length then writeXid n bytes else some bytes

/-- `response[0] = query[0]`, `response[1] = query[1]`. -/
def copyXid (query response : Bytes) : Checked Bytes := do
  let first ← query[0]?
  let response ← store response 0 first
  let second ← query[1]?
  store response 1 second

/-! ## Replies -/

variable (lib : Hickory)

/-- The end of `prepare_client_response`. -/
def cutToHeader (response : Bytes) : Checked Bytes :=
  if dnsHeaderSize ≤ response.length then do
    let flags ← response[2]?
    let marked ← store response 2 (flags ||| 0x02)
    some (marked.take dnsHeaderSize)
  else some response

/-- `prepare_client_response`. -/
def prepareClientResponse (response : Bytes) (maxPayload : Nat) : Checked Bytes :=
  if response.length ≤ maxPayload then some response
  else
    match lib.fromBytes response with
    | some msg =>
      let buf := lib.emit (lib.truncate msg)
      if buf.length ≤ maxPayload then some buf else cutToHeader response
    | none => cutToHeader response

/-- `send_reply`. -/
def sendReply (origin : ClientOrigin) (response : Bytes) (maxPayload : Option Nat) :
    Checked Output :=
  match origin with
  | .udp _ _ =>
    match maxPayload with
    | some cap => (prepareClientResponse lib response cap).map (.reply origin)
    | none => some (.reply origin response)
  | .tcp _ _ => some (.reply origin response)

/-- `fanout_client_replies`. -/
def fanoutClientReplies (clients : List PendingClient) (reply : Bytes) : Checked (List Output) :=
  clients.mapM fun client => do
    let response ← writeXid client.clientXid reply
    sendReply lib client.origin response (some client.clientMaxPayload)

/-! ## Client queries -/

/-- `get_cache_key`. -/
def getCacheKey (queryBytes : Bytes) : Checked (Option String) :=
  match lib.fromBytes queryBytes with
  | none => some none
  | some packet =>
    if packet.queries.isEmpty || packet.opCode != .query then some none
    else do
      let question ← packet.queries[0]?
      some (some (questionKey lib question))

/-- `try_resolve_local_query`. -/
def tryResolveLocalQuery (table : LocalDnsTable) (queryBytes : Bytes) : Checked (Option Bytes) :=
  match lib.fromBytes queryBytes with
  | none => some none
  | some queryMsg =>
    if queryMsg.opCode != .query || queryMsg.queries.isEmpty then some none
    else do
      let question ← queryMsg.queries[0]?
      some ((resolveQuestion lib table queryMsg question).map lib.emit)

/-- `try_join_in_flight_query`: whether the client joins, the pending queries after it, and what
is left of the origin. -/
def tryJoinInFlightQuery (order : List (BitVec 16)) (pending : HashMap (BitVec 16) PendingQuery)
    (cacheKey : String) (query : Bytes) (origin : Option ClientOrigin) :
    Checked (Bool × HashMap (BitVec 16) PendingQuery × Option ClientOrigin) :=
  match (pending.iter order).find? fun e => e.2.cacheKey == cacheKey with
  | none => some (false, pending, origin)
  | some (upstreamXid, existing) =>
    if maxJoinedClientsPerQuery ≤ existing.clients.length then some (false, pending, origin)
    else
      match origin with
      | none => some (false, pending, none)
      | some orig => do
          let clientXid ← readXid query
          let client : PendingClient := ⟨orig, clientXid, extractClientMaxPayload lib query⟩
          some (true, pending.insert upstreamXid
            { existing with clients := existing.clients ++ [client] }, none)

/-- `forward_new_client_query`. -/
def forwardNewClientQuery (env : Env) (w : Worker) (query : Bytes) (origin : ClientOrigin)
    (cacheKey : String) : Checked (Worker × List Output) :=
  match allocateUniqueXid w.pending env.draws with
  | none => some (w, [])
  | some upstreamXid => do
    let clientXid ← readXid query
    let servers := getUpstreamResolvers w.upstreamServers
    let target ← servers[0]?
    let forwarded ← writeXid upstreamXid query
    if env.sent then
      some ({ w with
          pending := w.pending.insert upstreamXid
            { clients := [⟨origin, clientXid, extractClientMaxPayload lib query⟩]
              cacheKey := cacheKey
              queryPayload := query
              upstreamServers := servers
              currentServerIdx := 0
              deadline := env.now + upstreamTimeout } },
        [.upstream target forwarded])
    else some (w, [])

/-- The end of `handle_incoming_query`, for a question that is neither local nor cached. -/
def resolveUpstream (env : Env) (w : Worker) (query : Bytes) (origin : ClientOrigin)
    (cacheKey : String) : Checked (Worker × List Output) :=
  match origin.peerAddr.ip with
  | .v6 _ => some (w, [])
  | .v4 clientIp =>
    let (allowed, rateLimiter) := w.rateLimiter.check env.now clientIp
    let w := { w with rateLimiter := rateLimiter }
    if !allowed then
      some ({ w with
          dnsStats.rateLimitedDropsTotal := saturatingInc w.dnsStats.rateLimitedDropsTotal },
        [])
    else do
      let (joined, pending, originOpt) ←
        tryJoinInFlightQuery lib env.pendingOrder w.pending cacheKey query (some origin)
      if joined then some ({ w with pending := pending }, [])
      else do
        -- `expect("origin must be present if not joined")`
        let origin ← originOpt
        forwardNewClientQuery lib env { w with pending := pending } query origin cacheKey

/-- `handle_incoming_query` after the local tables, for a question with a cache key. -/
def answerFromCache (env : Env) (w : Worker) (query : Bytes) (origin : ClientOrigin)
    (cacheKey : String) : Checked (Worker × List Output) :=
  match lookupCache env.now cacheKey w.cache with
  | (some response, cache) => do
      let response ← copyXid query response
      let sent ← sendReply lib origin response (some (extractClientMaxPayload lib query))
      some ({ w with
          cache := cache
          dnsStats.cacheHitsTotal := saturatingInc w.dnsStats.cacheHitsTotal },
        [sent])
  | (none, cache) => resolveUpstream lib env { w with cache := cache } query origin cacheKey

/-- `handle_incoming_query`. -/
def handleIncomingQuery (env : Env) (w : Worker) (query : Bytes) (origin : ClientOrigin) :
    Checked (Worker × List Output) :=
  if query.length < dnsHeaderSize then some (w, [])
  else do
    let w := { w with dnsStats.queriesTotal := saturatingInc w.dnsStats.queriesTotal }
    let resolved ← tryResolveLocalQuery lib w.localTable query
    match resolved with
    | some localResp => do
        let sent ← sendReply lib origin localResp none
        some (w, [sent])
    | none => do
        let key ← getCacheKey lib query
        match key with
        | none => some (w, [])
        | some cacheKey => answerFromCache lib env w query origin cacheKey

/-! ## Upstream replies -/

/-- `try_failover_upstream_query`: the query with its next resolver in charge, and what is sent
to that, if there is a further one. -/
def tryFailoverUpstreamQuery (now : Nat) (query : PendingQuery) (upstreamXid : BitVec 16) :
    Checked (Option (PendingQuery × Output)) :=
  if query.upstreamServers.length ≤ query.currentServerIdx + 1 then some none
  else do
    let target ← query.upstreamServers[query.currentServerIdx + 1]?
    let forwarded ← writeXidIfLong upstreamXid query.queryPayload
    some (some ({ query with
        currentServerIdx := query.currentServerIdx + 1
        deadline := now + upstreamTimeout },
      .upstream target forwarded))

/-- `spawn_upstream_tcp_fallback`. -/
def spawnUpstreamTcpFallback (query : PendingQuery) (upstreamXid : BitVec 16)
    (fallbackReply : Bytes) : Checked Fallback := do
  let target ← query.upstreamServers[query.currentServerIdx]?
  some (Dns.spawnUpstreamTcpFallback query target upstreamXid fallbackReply)

/-- The part of `handle_upstream_reply` for a reply with `SERVFAIL` or `REFUSED`: the query that
is pending under the id moves on, if it can. -/
def failOver (env : Env) (w : Worker) (upstreamXid : BitVec 16) (msg : Message) :
    Checked (Option (PendingQuery × Output)) :=
  if msg.responseCode.failsOver then
    match w.pending.lookup upstreamXid with
    | none => some none
    | some query => tryFailoverUpstreamQuery env.now query upstreamXid
  else some none

/-- `handle_upstream_reply` for a reply from the resolver in charge of the query. -/
def acceptUpstreamReply (env : Env) (w : Worker) (upstreamXid : BitVec 16) (reply : Bytes) :
    Checked (Worker × List Output) := do
  let flags ← reply[2]?
  if flags &&& 0x02 ≠ 0 then do
    -- `expect("query exists in pending")`
    let queryMeta ← w.pending.lookup upstreamXid
    let task ← spawnUpstreamTcpFallback queryMeta upstreamXid reply
    some ({ w with
        pending := w.pending.erase upstreamXid
        fallbacks := w.fallbacks ++ [task] },
      [])
  else
    match lib.fromBytes reply with
    | none => some (w, [])
    | some msg => do
        let moved ← failOver env w upstreamXid msg
        match moved with
        | some (query, sent) =>
          some ({ w with pending := w.pending.insert upstreamXid query }, [sent])
        | none => do
            -- `expect("query exists in pending")`
            let queryMeta ← w.pending.lookup upstreamXid
            let sent ← fanoutClientReplies lib queryMeta.clients reply
            some ({ w with
                pending := w.pending.erase upstreamXid
                cache := insertCache lib env.now env.cacheOrder queryMeta.cacheKey reply w.cache },
              sent)

/-- `handle_upstream_reply`. -/
def handleUpstreamReply (env : Env) (w : Worker) (reply : Bytes) (fromAddr : SocketAddr) :
    Checked (Worker × List Output) :=
  if reply.length < dnsHeaderSize then some (w, [])
  else do
    let upstreamXid ← readXid reply
    match w.pending.lookup upstreamXid with
    | none => some (w, [])
    | some queryMeta => do
        let expectedIp ← queryMeta.upstreamServers[queryMeta.currentServerIdx]?
        if fromAddr ≠ ⟨.v4 expectedIp, dnsPort⟩ then some (w, [])
        else acceptUpstreamReply lib env w upstreamXid reply

/-- The request of `fetch_upstream_tcp`. -/
def fetchRequest (task : Fallback) : Checked Bytes :=
  writeXidIfLong task.upstreamXid task.queryPayload

/-- `handle_upstream_tcp_event`. -/
def handleUpstreamTcpEvent (env : Env) (w : Worker) :
    UpstreamTcpEvent → Checked (Worker × List Output)
  | .resolved cacheKey reply clients => do
      let sent ← fanoutClientReplies lib clients reply
      some ({ w with cache := insertCache lib env.now env.cacheOrder cacheKey reply w.cache }, sent)
  | .failed fallbackReply clients => do
      let sent ← fanoutClientReplies lib clients fallbackReply
      some (w, sent)

/-! ## The cleanup timer and the loop -/

/-- One query of the list that `check_pending_timeouts` retries. -/
def retryQuery (now : Nat) (acc : HashMap (BitVec 16) PendingQuery × List Output)
    (upstreamXid : BitVec 16) : Checked (HashMap (BitVec 16) PendingQuery × List Output) :=
  match acc.1.lookup upstreamXid with
  | none => some acc
  | some query => do
      let moved ← tryFailoverUpstreamQuery now query upstreamXid
      match moved with
      | none => some acc
      | some (query, sent) => some (acc.1.insert upstreamXid query, acc.2 ++ [sent])

/-- `check_pending_timeouts`. -/
def checkPendingTimeouts (now : Nat) (order : List (BitVec 16))
    (pending : HashMap (BitVec 16) PendingQuery) :
    Checked (HashMap (BitVec 16) PendingQuery × List Output) :=
  let retained := pending.retain fun _ query => !query.timedOut now || query.hasNext
  let retryList := ((pending.iter order).filter fun e => e.2.timedOut now && e.2.hasNext).map
    Prod.fst
  retryList.foldlM (retryQuery now) (retained, [])

/-- The branch of the cleanup timer. -/
def cleanupTick (env : Env) (w : Worker) : Checked (Worker × List Output) := do
  let stats := { w.dnsStats with cachedEntriesCount := w.cache.entries.length }
  let (pending, sent) ← checkPendingTimeouts env.now env.pendingOrder w.pending
  some ({ w with
      dnsStats := stats
      cache := evictExpiredCache env.now w.cache
      rateLimiter := w.rateLimiter.retainRecent env.now
      pending := pending },
    .heartbeat stats :: sent)

/-- The end of a fallback task, after its request. -/
def finish (w : Worker) (task : Nat) (reply : Option Bytes) : Checked (Option Worker) :=
  match w.fallbacks[task]? with
  | none => some none
  | some fallback => do
      let _ ← fetchRequest fallback
      some (w.finish task reply)

/-- The handler of an event; it returns nothing if the event is not possible. -/
def handle (env : Env) (ticket : Nat) (w : Worker) :
    Event → Checked (Option (Worker × List Output))
  | .query transport peer query =>
    (handleIncomingQuery lib env w query (transport.origin ticket peer)).map some
  | .upstreamReply reply fromAddr => (handleUpstreamReply lib env w reply fromAddr).map some
  | .fetched task reply => (finish w task reply).map fun done => done.map fun w => (w, [])
  | .tcpEvent =>
    match w.tcpEvents.pop with
    | none => some none
    | some (event, tcpEvents) =>
      (handleUpstreamTcpEvent lib env { w with tcpEvents := tcpEvents } event).map some
  | .tick => (cleanupTick env w).map some
  | event => some (w.handle lib env ticket event)

/-! ## The checked handlers and the model -/

variable {lib} {bytes query response reply : Bytes} {n : BitVec 16}

theorem readXid_eq (long : 2 ≤ bytes.length) : readXid bytes = some (xid bytes) := by
  rcases bytes with - | ⟨hi, - | ⟨lo, rest⟩⟩
  · cases long
  · cases long with | step short => cases short
  · rfl

theorem writeXid_eq (long : 2 ≤ bytes.length) : writeXid n bytes = some (setXid n bytes) := by
  rcases bytes with - | ⟨hi, - | ⟨lo, rest⟩⟩
  · cases long
  · cases long with | step short => cases short
  · simp [writeXid, store, setXid, toBeBytes]

theorem writeXidIfLong_eq : writeXidIfLong n bytes = some (setXid n bytes) := by
  unfold writeXidIfLong
  split
  · rename_i long
    exact writeXid_eq long
  · rename_i short
    rcases bytes with - | ⟨hi, - | ⟨lo, rest⟩⟩
    · rfl
    · rfl
    · simp at short

theorem copyXid_eq (long : 2 ≤ query.length) (whole : 2 ≤ response.length) :
    copyXid query response = some (setXid (xid query) response) := by
  rw [← writeXid_eq whole]
  rcases query with - | ⟨hi, - | ⟨lo, rest⟩⟩
  · cases long
  · cases long with | step short => cases short
  · have high : BitVec.extractLsb' 8 8 (hi ++ lo) = hi := BitVec.extractLsb'_append_eq_left
    have low : BitVec.extractLsb' 0 8 (hi ++ lo) = lo := BitVec.extractLsb'_append_eq_right
    simp [copyXid, writeXid, xid, high, low]

theorem cutToHeader_eq : cutToHeader response = some (Dns.cutToHeader response) := by
  unfold cutToHeader Dns.cutToHeader
  split
  · rename_i long
    have inside : 2 < response.length := Nat.lt_of_lt_of_le (by decide) long
    simp [store, inside, List.modify_eq_set_getElem?]
  · rfl

theorem prepareClientResponse_eq {maxPayload : Nat} :
    prepareClientResponse lib response maxPayload =
      some (Dns.prepareClientResponse lib response maxPayload) := by
  unfold prepareClientResponse Dns.prepareClientResponse
  split
  · rfl
  · cases lib.fromBytes response with
    | none => exact cutToHeader_eq
    | some msg =>
      simp only
      split
      · rfl
      · exact cutToHeader_eq

theorem sendReply_eq {origin : ClientOrigin} {maxPayload : Option Nat} :
    sendReply lib origin response maxPayload =
      some (Dns.sendReply lib origin response maxPayload) := by
  cases origin with
  | udp ticket src =>
    cases maxPayload with
    | none => rfl
    | some cap => simp only [sendReply, Dns.sendReply, prepareClientResponse_eq, Option.map_some]
  | tcp ticket peerAddr => rfl

theorem fanoutClientReplies_eq {clients : List PendingClient}
    (long : dnsHeaderSize ≤ reply.length) :
    fanoutClientReplies lib clients reply = some (Dns.fanoutClientReplies lib clients reply) := by
  have two : 2 ≤ reply.length := le_trans (by decide) long
  induction clients with
  | nil => rfl
  | cons client rest ih =>
    unfold fanoutClientReplies at ih ⊢
    rw [List.mapM_cons, ih, writeXid_eq two]
    simp only [Option.bind_eq_bind, Option.bind_some, sendReply_eq]
    rfl

theorem getCacheKey_eq : getCacheKey lib query = some (Dns.getCacheKey lib query) := by
  unfold getCacheKey Dns.getCacheKey
  cases lib.fromBytes query with
  | none => rfl
  | some packet =>
    cases first : packet.queries with
    | nil => simp [first]
    | cons question rest =>
      by_cases code : packet.opCode = .query <;> simp [first, code]

theorem tryResolveLocalQuery_eq {table : LocalDnsTable} :
    tryResolveLocalQuery lib table query = some (Dns.tryResolveLocalQuery lib table query) := by
  unfold tryResolveLocalQuery Dns.tryResolveLocalQuery
  cases lib.fromBytes query with
  | none => rfl
  | some queryMsg =>
    cases first : queryMsg.queries with
    | nil => by_cases code : queryMsg.opCode = .query <;> simp [first, code]
    | cons question rest =>
      by_cases code : queryMsg.opCode = .query
      · cases resolved : resolveQuestion lib table queryMsg question <;>
          simp [first, code, resolved]
      · simp [first, code]

variable {env : Env} {w : Worker} {origin : ClientOrigin} {cacheKey : String}

/-- The origin is left exactly if the client does not join. -/
theorem tryJoinInFlightQuery_eq {order : List (BitVec 16)}
    {pending : HashMap (BitVec 16) PendingQuery} (long : dnsHeaderSize ≤ query.length) :
    tryJoinInFlightQuery lib order pending cacheKey query (some origin) =
      match Dns.tryJoinInFlightQuery lib order pending cacheKey query origin with
      | some joined => some (true, joined, none)
      | none => some (false, pending, some origin) := by
  have two : 2 ≤ query.length := le_trans (by decide) long
  unfold tryJoinInFlightQuery Dns.tryJoinInFlightQuery
  cases (pending.iter order).find? fun e => e.2.cacheKey == cacheKey with
  | none => rfl
  | some found =>
    simp only
    split
    · rfl
    · rw [readXid_eq two]
      rfl

theorem forwardNewClientQuery_eq (long : dnsHeaderSize ≤ query.length) :
    forwardNewClientQuery lib env w query origin cacheKey =
      some (Dns.forwardNewClientQuery lib env w query origin cacheKey) := by
  have two : 2 ≤ query.length := le_trans (by decide) long
  have first : (getUpstreamResolvers w.upstreamServers)[0]? =
      some ((getUpstreamResolvers w.upstreamServers).headD fallbackDnsServer) := by
    cases servers : getUpstreamResolvers w.upstreamServers with
    | nil => exact absurd servers getUpstreamResolvers_ne_nil
    | cons server rest => rfl
  unfold forwardNewClientQuery Dns.forwardNewClientQuery
  cases allocateUniqueXid w.pending env.draws with
  | none => rfl
  | some upstreamXid =>
    simp only [readXid_eq two, writeXid_eq two, first, Option.bind_eq_bind, Option.bind_some]
    split <;> rfl

theorem resolveUpstream_eq (long : dnsHeaderSize ≤ query.length) :
    resolveUpstream lib env w query origin cacheKey =
      some (Dns.resolveUpstream lib env w query origin cacheKey) := by
  unfold resolveUpstream Dns.resolveUpstream
  cases origin.peerAddr.ip with
  | v6 ip => rfl
  | v4 clientIp =>
    simp only
    cases (w.rateLimiter.check env.now clientIp).1 with
    | false => rfl
    | true =>
      simp only [Bool.not_true, Bool.false_eq_true, if_false, tryJoinInFlightQuery_eq long]
      cases Dns.tryJoinInFlightQuery lib env.pendingOrder w.pending cacheKey query origin with
      | some joined => rfl
      | none => exact forwardNewClientQuery_eq long

theorem answerFromCache_eq (framed : w.Framed) (long : dnsHeaderSize ≤ query.length) :
    answerFromCache lib env w query origin cacheKey =
      some (Dns.answerFromCache lib env w query origin cacheKey) := by
  unfold answerFromCache Dns.answerFromCache
  cases looked : lookupCache env.now cacheKey w.cache with
  | mk response cache =>
    cases response with
    | some response =>
      have hit : (lookupCache env.now cacheKey w.cache).1 = some response := by rw [looked]
      obtain ⟨entry, found, -, rfl⟩ := lookupCache_hit hit
      have whole : 2 ≤ entry.response.length := le_trans (by decide) (framed.cache found)
      simp only [copyXid_eq (le_trans (by decide) long) whole, Option.bind_eq_bind,
        Option.bind_some, sendReply_eq]
    | none => exact resolveUpstream_eq long

theorem handleIncomingQuery_eq (framed : w.Framed) :
    handleIncomingQuery lib env w query origin =
      some (Dns.handleIncomingQuery lib env w query origin) := by
  unfold handleIncomingQuery Dns.handleIncomingQuery
  split
  · rfl
  · rename_i short
    have long : dnsHeaderSize ≤ query.length := Nat.le_of_not_lt short
    simp only [tryResolveLocalQuery_eq, getCacheKey_eq, Option.bind_eq_bind, Option.bind_some,
      sendReply_eq]
    cases Dns.tryResolveLocalQuery lib w.localTable query with
    | some response => rfl
    | none =>
      cases Dns.getCacheKey lib query with
      | none => rfl
      | some cacheKey =>
        exact answerFromCache_eq ⟨framed.cache, framed.fallbacks, framed.tcpEvents⟩ long

theorem and_two_ne_zero (flags : BitVec 8) : flags &&& 0x02 ≠ 0 ↔ flags.getLsbD 1 = true := by
  revert flags
  decide +kernel

theorem tryFailoverUpstreamQuery_eq {now : Nat} {q : PendingQuery} {x : BitVec 16} :
    tryFailoverUpstreamQuery now q x = some (Dns.tryFailoverUpstreamQuery now q x) := by
  unfold tryFailoverUpstreamQuery Dns.tryFailoverUpstreamQuery
  cases next : q.upstreamServers[q.currentServerIdx + 1]? with
  | none =>
    rw [if_pos (List.getElem?_eq_none_iff.mp next)]
  | some target =>
    have inside := (List.getElem?_eq_some_iff.mp next).1
    rw [if_neg (Nat.not_le_of_lt inside), writeXidIfLong_eq]
    rfl

theorem spawnUpstreamTcpFallback_eq {q : PendingQuery} {server : Ipv4Addr} {x : BitVec 16}
    (inCharge : q.currentServer = some server) :
    spawnUpstreamTcpFallback q x reply = some (Dns.spawnUpstreamTcpFallback q server x reply) := by
  have found : q.upstreamServers[q.currentServerIdx]? = some server := inCharge
  rw [spawnUpstreamTcpFallback, found]
  rfl

theorem acceptUpstreamReply_eq {q : PendingQuery} {server : Ipv4Addr} {x : BitVec 16}
    (long : dnsHeaderSize ≤ reply.length) (present : w.pending.lookup x = some q)
    (inCharge : q.currentServer = some server) :
    acceptUpstreamReply lib env w x reply =
      some (Dns.acceptUpstreamReply lib env w x q server reply) := by
  have inside : 2 < reply.length := Nat.lt_of_lt_of_le (by decide) long
  unfold acceptUpstreamReply Dns.acceptUpstreamReply
  simp only [tcBit, List.getElem?_eq_getElem inside, Option.bind_eq_bind, Option.bind_some,
    and_two_ne_zero, Option.any_some]
  split
  · simp only [present, spawnUpstreamTcpFallback_eq inCharge, Option.bind_some]
  · cases lib.fromBytes reply with
    | none => rfl
    | some msg =>
      simp only [failOver, present, tryFailoverUpstreamQuery_eq, Option.bind_some,
        fanoutClientReplies_eq long]
      split
      · cases Dns.tryFailoverUpstreamQuery env.now q x with
        | none => rfl
        | some moved => rfl
      · rfl

theorem handleUpstreamReply_eq {fromAddr : SocketAddr}
    (inCharge : ∀ x q, w.pending.lookup x = some q →
      q.currentServerIdx < q.upstreamServers.length) :
    handleUpstreamReply lib env w reply fromAddr =
      some (Dns.handleUpstreamReply lib env w reply fromAddr) := by
  unfold handleUpstreamReply Dns.handleUpstreamReply
  split
  · rfl
  · rename_i short
    have long : dnsHeaderSize ≤ reply.length := Nat.le_of_not_lt short
    rw [readXid_eq (le_trans (by decide) long)]
    simp only [Option.bind_eq_bind, Option.bind_some]
    cases present : w.pending.lookup (xid reply) with
    | none => rfl
    | some q =>
      have found := List.getElem?_eq_getElem (inCharge _ _ present)
      have server : q.currentServer = some _ := found
      simp only [found, server, Option.bind_some, ne_eq, ite_not,
        acceptUpstreamReply_eq long present server]
      split <;> rfl

theorem handleUpstreamTcpEvent_eq {event : UpstreamTcpEvent}
    (long : dnsHeaderSize ≤ event.reply.length) :
    handleUpstreamTcpEvent lib env w event = some (Dns.handleUpstreamTcpEvent lib env w event) := by
  cases event with
  | resolved cacheKey reply clients =>
    have whole : dnsHeaderSize ≤ reply.length := long
    simp only [handleUpstreamTcpEvent, fanoutClientReplies_eq whole, Option.bind_eq_bind,
      Option.bind_some]
    rfl
  | failed fallbackReply clients =>
    have whole : dnsHeaderSize ≤ fallbackReply.length := long
    simp only [handleUpstreamTcpEvent, fanoutClientReplies_eq whole, Option.bind_eq_bind,
      Option.bind_some]
    rfl

theorem retryQuery_eq {now : Nat} {acc : HashMap (BitVec 16) PendingQuery × List Output}
    {x : BitVec 16} : retryQuery now acc x = some (Dns.retryQuery now acc x) := by
  unfold retryQuery Dns.retryQuery
  cases acc.1.lookup x with
  | none => rfl
  | some q =>
    simp only [tryFailoverUpstreamQuery_eq, Option.bind_eq_bind, Option.bind_some]
    cases Dns.tryFailoverUpstreamQuery now q x with
    | none => rfl
    | some moved => rfl

theorem foldlM_retryQuery {now : Nat} {list : List (BitVec 16)}
    {acc : HashMap (BitVec 16) PendingQuery × List Output} :
    list.foldlM (retryQuery now) acc = some (list.foldl (Dns.retryQuery now) acc) := by
  induction list generalizing acc with
  | nil => rfl
  | cons x rest ih =>
    rw [List.foldlM_cons, retryQuery_eq, List.foldl_cons]
    exact ih

theorem cleanupTick_eq : cleanupTick env w = some (Dns.cleanupTick env w) := by
  simp only [cleanupTick, checkPendingTimeouts, foldlM_retryQuery, Option.bind_eq_bind,
    Option.bind_some]
  rfl

theorem finish_eq {task : Nat} {fetched : Option Bytes} :
    finish w task fetched = some (w.finish task fetched) := by
  unfold finish
  cases found : w.fallbacks[task]? with
  | none => simp [Worker.finish, found]
  | some fallback =>
    simp only [fetchRequest, writeXidIfLong_eq, Option.bind_eq_bind, Option.bind_some]

/-- A worker whose messages have whole headers and whose pending queries have a resolver in
charge panics in no handler, whatever it is given. -/
theorem handle_eq {ticket : Nat} {event : Event} (framed : w.Framed)
    (inCharge : ∀ x q, w.pending.lookup x = some q →
      q.currentServerIdx < q.upstreamServers.length) :
    handle lib env ticket w event = some (w.handle lib env ticket event) := by
  cases event with
  | query transport peer query =>
    simp only [handle, handleIncomingQuery_eq framed, Option.map_some, Worker.handle]
  | upstreamReply reply fromAddr =>
    simp only [handle, handleUpstreamReply_eq inCharge, Option.map_some, Worker.handle]
  | fetched task reply => simp only [handle, finish_eq, Option.map_some, Worker.handle]
  | tcpEvent =>
    simp only [handle, Worker.handle]
    cases popped : w.tcpEvents.pop with
    | none => rfl
    | some next =>
      have member : next.1 ∈ w.tcpEvents.items := (Fifo.mem_of_pop popped).mpr (.inl rfl)
      simp only [handleUpstreamTcpEvent_eq (framed.tcpEvents member), Option.map_some]
  | tick => simp only [handle, cleanupTick_eq, Option.map_some, Worker.handle]
  | setUpstreamResolvers | registerLocalHost | deregisterLocalHost => rfl

end Checked

/-! ## Reachable states -/

open Run

section

variable {lib : Hickory} {env : Env} {w : Worker} {reply : Bytes} {fromAddr : SocketAddr}
  {labels : List (Env × Event)} {s : System}

theorem framed_of_run (run : exec (System.step lib) .init labels = some s) : s.worker.Framed := by
  refine exec_keeps (fun s => s.worker.Framed) ?_ ⟨nofun, nofun, nofun⟩ run
  intro s label t framed taken
  obtain ⟨-, w, sent, turn, rfl⟩ := Step.of_system taken
  exact turn.framed framed

/-- In every reachable state every pending query has resolvers with the one in charge among them,
between one client and 64, a payload of a header or more, and an id that is not zero; there are
not too many; and no handler panics, whatever the event and its bytes are. -/
theorem pending_sound (run : exec (System.step lib) .init labels = some s) :
    (∀ x q, s.worker.pending.lookup x = some q →
      x ≠ 0 ∧ q.upstreamServers ≠ [] ∧ q.currentServerIdx < q.upstreamServers.length ∧
        1 ≤ q.clients.length ∧ q.clients.length ≤ maxJoinedClientsPerQuery ∧
        dnsHeaderSize ≤ q.queryPayload.length) ∧
      s.worker.pending.entries.length ≤ maxPendingQueries ∧
      ∀ env event, Checked.handle lib env s.received.length s.worker event =
        some (s.worker.handle lib env s.received.length event) := by
  have sound := soundPending_of_run run
  refine ⟨?_, sound.size, ?_⟩
  · intro x q present
    obtain ⟨inCharge, served, room, long⟩ := sound.queries x q present
    have some : q.upstreamServers ≠ [] := List.ne_nil_of_length_pos (Nat.zero_lt_of_lt inCharge)
    exact ⟨sound.ids x q present, some, inCharge, List.length_pos_iff.mpr served, room, long⟩
  · intro env event
    exact Checked.handle_eq (framed_of_run run) fun x q present =>
      (sound.queries x q present).inCharge

/-- Two clients wait for one answer. -/
theorem joined_clients_sound :
    ∃ s, exec (System.step library) .init (joinedRun.take 2) = some s ∧
      (s.worker.pending.lookup 7).map (·.clients.length) = some 2 ∧
      (∀ x q, s.worker.pending.lookup x = some q →
        x ≠ 0 ∧ q.upstreamServers ≠ [] ∧ q.currentServerIdx < q.upstreamServers.length ∧
          1 ≤ q.clients.length ∧ q.clients.length ≤ maxJoinedClientsPerQuery ∧
          dnsHeaderSize ≤ q.queryPayload.length) ∧
      s.worker.pending.entries.length ≤ maxPendingQueries ∧
      ∀ env event, Checked.handle library env s.received.length s.worker event =
        some (s.worker.handle library env s.received.length event) := by
  have waiting : (exec (System.step library) .init (joinedRun.take 2)).map
      (fun s => (s.worker.pending.lookup 7).map (·.clients.length)) = some (some 2) := by
    decide +kernel
  obtain ⟨s, run, two⟩ := Option.map_eq_some_iff.mp waiting
  exact ⟨s, run, two, pending_sound run⟩

/-! ## Datagrams that nobody asked for -/

/-- Why the worker ignores a datagram on the upstream socket. -/
inductive Unsolicited (lib : Hickory) (w : Worker) (reply : Bytes) (fromAddr : SocketAddr) : Prop
  | short (cut : reply.length < dnsHeaderSize)
  | unknown (missing : w.pending.lookup (xid reply) = none)
  | stranger {q : PendingQuery} (present : w.pending.lookup (xid reply) = some q)
      (other : ∀ server, q.currentServer = some server → fromAddr ≠ ⟨.v4 server, dnsPort⟩)
  | unreadable (tc : tcBit reply = false) (garbled : lib.fromBytes reply = none)

/-- Whatever the state of the worker is: a datagram that is too short, that nobody waits for,
that is not from the resolver in charge of its query, or that is neither truncated nor a message
leaves the worker as it is and sends nothing; and it makes no worker in a reachable state
panic. -/
theorem unsolicited_reply_ignored (unsolicited : Unsolicited lib w reply fromAddr) :
    handleUpstreamReply lib env w reply fromAddr = (w, []) ∧
      ∀ labels s, exec (System.step lib) .init labels = some s → s.worker = w →
        Checked.handleUpstreamReply lib env w reply fromAddr = some (w, []) := by
  have ignored : handleUpstreamReply lib env w reply fromAddr = (w, []) := by
    unfold handleUpstreamReply
    split
    · rfl
    · rename_i long
      split
      · rfl
      · rename_i q present
        split
        · rfl
        · rename_i server inCharge
          split
          · rename_i source
            cases unsolicited with
            | short cut => exact absurd cut long
            | unknown missing => cases missing.symm.trans present
            | stranger here other =>
              cases here.symm.trans present
              exact absurd source (other server inCharge)
            | unreadable tc garbled =>
              rw [acceptUpstreamReply, tc, garbled]
              rfl
          · rfl
  refine ⟨ignored, ?_⟩
  rintro labels s run rfl
  have sound := soundPending_of_run run
  rw [Checked.handleUpstreamReply_eq fun x q present => (sound.queries x q present).inCharge,
    ignored]

/-- A query goes to the first of two resolvers, and moves to the second one when that has not
answered for three seconds. -/
def movedRun : List (Env × Event) :=
  [(⟨0, [7], true, [], []⟩, .setUpstreamResolvers [.new 9 9 9 9, .new 1 1 1 1]),
   (⟨0, [7], true, [], []⟩, .query .udp laptop (emit (askFor 0x1111 ["www", "org"] .a))),
   (⟨fromSecs 3, [8], true, [7], []⟩, .tick)]

/-- The late answer of the first resolver has no effect. -/
theorem late_answer_ignored :
    ∃ s, exec (System.step library) .init movedRun = some s ∧
      handleUpstreamReply library ⟨fromSecs 4, [8], true, [7], []⟩ s.worker
        (emit (minuteAnswer 7))
        ⟨.v4 (.new 9 9 9 9), dnsPort⟩ = (s.worker, []) := by
  have moved : (exec (System.step library) .init movedRun).map
      (fun s => (s.worker.pending.lookup 7).bind PendingQuery.currentServer) =
        some (some (.new 1 1 1 1)) := by
    decide +kernel
  have id : xid (emit (minuteAnswer 7)) = 7 := by
    decide +kernel
  obtain ⟨s, run, now⟩ := Option.map_eq_some_iff.mp moved
  obtain ⟨q, present, inCharge⟩ := Option.bind_eq_some_iff.mp now
  refine ⟨s, run, (unsolicited_reply_ignored (.stranger (id.symm ▸ present) ?_)).1⟩
  intro server current
  cases inCharge.symm.trans current
  decide

end

end TrimRouter.Dns
