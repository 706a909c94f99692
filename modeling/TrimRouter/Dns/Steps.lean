import TrimRouter.Dns.Worker

/-!
# What a step of the DNS worker can do

`Step` has one constructor for each way in which the worker handles an event, with the
conditions under which it does so.  Invariants of the worker are proved by cases on it.
-/

namespace TrimRouter.Dns

/-- The cache is left as it is, or a key has been looked up in it. -/
def Cache.Looked (cache after : Cache) : Prop :=
  after = cache ∨ ∃ now key, after = (lookupCache now key cache).2

theorem Cache.Looked.lookup {cache after : Cache} (looked : cache.Looked after) {key : String}
    {entry : CacheEntry} (found : after.lookup key = some entry) :
    cache.lookup key = some entry := by
  rcases looked with rfl | ⟨now, other, rfl⟩
  · exact found
  · exact mem_lookupCache found

/-- The events that do not come from the parent. -/
def Event.ofOutside : Event → Bool
  | .setUpstreamResolvers _ => false
  | .registerLocalHost _ _ => false
  | .deregisterLocalHost _ => false
  | _ => true

/-- The resolvers and the tables of local names are the same. -/
structure Worker.SameNames (w w' : Worker) : Prop where
  upstreamServers : w'.upstreamServers = w.upstreamServers
  localTable : w'.localTable = w.localTable

/-- The workers have the same clients, and the second one has cached nothing new.  What comes from
outside leaves the names alone. -/
structure Worker.Keeps (w : Worker) (outside : Bool) (w' : Worker) : Prop where
  cache : w.cache.Looked w'.cache
  pending : w'.pending = w.pending
  fallbacks : w'.fallbacks = w.fallbacks
  tcpEvents : w'.tcpEvents = w.tcpEvents
  names : outside = true → w.SameNames w'

theorem Worker.Keeps.rfl {w : Worker} {outside : Bool} : w.Keeps outside w :=
  ⟨.inl (Eq.refl _), Eq.refl _, Eq.refl _, Eq.refl _, fun _ => ⟨Eq.refl _, Eq.refl _⟩⟩

variable (lib : Hickory) (env : Env) (ticket : Nat)

/-- The client of a query. -/
def newClient (query : Bytes) (origin : ClientOrigin) : PendingClient :=
  ⟨origin, xid query, extractClientMaxPayload lib query⟩

/-- The pending query of a query that is forwarded. -/
def newPendingQuery (w : Worker) (query : Bytes) (origin : ClientOrigin) (cacheKey : String) :
    PendingQuery where
  clients := [newClient lib query origin]
  cacheKey := cacheKey
  queryPayload := query
  upstreamServers := getUpstreamResolvers w.upstreamServers
  currentServerIdx := 0
  deadline := env.now + upstreamTimeout

/-- The step of an event from `w` to another worker, with what is sent. -/
inductive Step (w : Worker) : Event → Worker → List Output → Prop
  /-- the event is dropped, or it is a message of the parent -/
  | quiet {event : Event} {w' : Worker} (keeps : w.Keeps event.ofOutside w') : Step w event w' []
  | localReply {transport : Transport} {peer : SocketAddr} {query response : Bytes} {w' : Worker}
      (keeps : w.Keeps true w')
      (resolved : tryResolveLocalQuery lib w.localTable query = some response) :
      Step w (.query transport peer query) w'
        [sendReply lib (transport.origin ticket peer) response none]
  | hit {transport : Transport} {peer : SocketAddr} {query : Bytes} {w' : Worker}
      {cacheKey : String} {entry : CacheEntry} (keeps : w.Keeps true w')
      (long : dnsHeaderSize ≤ query.length) (key : getCacheKey lib query = some cacheKey)
      (found : w.cache.lookup cacheKey = some entry) (live : env.now < entry.expiry) :
      Step w (.query transport peer query) w'
        [sendReply lib (transport.origin ticket peer) (setXid (xid query) entry.response)
          (some (extractClientMaxPayload lib query))]
  | join {transport : Transport} {peer : SocketAddr} {query : Bytes} {w' : Worker}
      {cacheKey : String} {upstreamXid : BitVec 16} {existing : PendingQuery}
      (keeps : w.Keeps true w') (long : dnsHeaderSize ≤ query.length)
      (key : getCacheKey lib query = some cacheKey)
      (present : w.pending.lookup upstreamXid = some existing)
      (same : existing.cacheKey = cacheKey)
      (room : existing.clients.length < maxJoinedClientsPerQuery) :
      Step w (.query transport peer query)
        { w' with
          pending := w.pending.insert upstreamXid
            { existing with
              clients := existing.clients ++
                [newClient lib query (transport.origin ticket peer)] } } []
  | forward {transport : Transport} {peer : SocketAddr} {query : Bytes} {w' : Worker}
      {cacheKey : String} {upstreamXid : BitVec 16} (keeps : w.Keeps true w')
      (long : dnsHeaderSize ≤ query.length) (key : getCacheKey lib query = some cacheKey)
      (drawn : allocateUniqueXid w.pending env.draws = some upstreamXid) :
      Step w (.query transport peer query)
        { w' with
          pending := w.pending.insert upstreamXid
            (newPendingQuery lib env w query (transport.origin ticket peer) cacheKey) }
        [.upstream ((getUpstreamResolvers w.upstreamServers).headD fallbackDnsServer)
          (setXid upstreamXid query)]
  | truncated {reply : Bytes} {pendingQuery : PendingQuery} {expectedIp : Ipv4Addr}
      (long : dnsHeaderSize ≤ reply.length)
      (present : w.pending.lookup (xid reply) = some pendingQuery)
      (server : pendingQuery.currentServer = some expectedIp) (tc : tcBit reply = true) :
      Step w (.upstreamReply reply ⟨.v4 expectedIp, dnsPort⟩)
        { w with
          pending := w.pending.erase (xid reply)
          fallbacks := w.fallbacks ++
            [spawnUpstreamTcpFallback pendingQuery expectedIp (xid reply) reply] } []
  | failover {reply : Bytes} {pendingQuery next : PendingQuery} {expectedIp : Ipv4Addr}
      {msg : Message} {sent : Output} (long : dnsHeaderSize ≤ reply.length)
      (present : w.pending.lookup (xid reply) = some pendingQuery)
      (server : pendingQuery.currentServer = some expectedIp) (tc : tcBit reply = false)
      (parsed : lib.fromBytes reply = some msg) (code : msg.responseCode.failsOver = true)
      (retry : tryFailoverUpstreamQuery env.now pendingQuery (xid reply) = some (next, sent)) :
      Step w (.upstreamReply reply ⟨.v4 expectedIp, dnsPort⟩)
        { w with pending := w.pending.insert (xid reply) next } [sent]
  | settle {reply : Bytes} {pendingQuery : PendingQuery} {expectedIp : Ipv4Addr} {msg : Message}
      (long : dnsHeaderSize ≤ reply.length)
      (present : w.pending.lookup (xid reply) = some pendingQuery)
      (server : pendingQuery.currentServer = some expectedIp) (tc : tcBit reply = false)
      (parsed : lib.fromBytes reply = some msg)
      (final : msg.responseCode.failsOver = true →
        tryFailoverUpstreamQuery env.now pendingQuery (xid reply) = none) :
      Step w (.upstreamReply reply ⟨.v4 expectedIp, dnsPort⟩)
        (settleQuery lib env w (xid reply) pendingQuery reply).1
        (settleQuery lib env w (xid reply) pendingQuery reply).2
  | fetched {task : Nat} {reply : Option Bytes} {fallback : Fallback}
      {tcpEvents : Fifo UpstreamTcpEvent 128} (found : w.fallbacks[task]? = some fallback)
      (framed : reply.all isFramed = true)
      (pushed : w.tcpEvents.push (fallback.report reply) = some tcpEvents) :
      Step w (.fetched task reply)
        { w with fallbacks := w.fallbacks.eraseIdx task, tcpEvents := tcpEvents } []
  | tcpEvent {event : UpstreamTcpEvent} {tcpEvents : Fifo UpstreamTcpEvent 128}
      (popped : w.tcpEvents.pop = some (event, tcpEvents)) :
      Step w .tcpEvent
        (handleUpstreamTcpEvent lib env { w with tcpEvents := tcpEvents } event).1
        (handleUpstreamTcpEvent lib env { w with tcpEvents := tcpEvents } event).2
  | tick : Step w .tick (cleanupTick env w).1 (cleanupTick env w).2

variable {lib env ticket} {w w' : Worker} {sent : List Output}

/-- A message that was read over TCP has a whole header. -/
theorem long_of_isFramed {reply : Bytes} (framed : (some reply).all isFramed = true) :
    dnsHeaderSize ≤ reply.length := by
  simp only [Option.all_some, isFramed, Bool.and_eq_true, decide_eq_true_eq] at framed
  exact framed.1

/-! ## Client queries -/

variable {transport : Transport} {peer : SocketAddr} {query : Bytes} {cacheKey : String}

theorem tryJoinInFlightQuery_eq_some {order : List (BitVec 16)} {origin : ClientOrigin}
    {pending joined : HashMap (BitVec 16) PendingQuery}
    (join : tryJoinInFlightQuery lib order pending cacheKey query origin = some joined) :
    ∃ upstreamXid existing, pending.lookup upstreamXid = some existing ∧
      existing.cacheKey = cacheKey ∧ existing.clients.length < maxJoinedClientsPerQuery ∧
      joined = pending.insert upstreamXid
        { existing with clients := existing.clients ++ [newClient lib query origin] } := by
  unfold tryJoinInFlightQuery at join
  split at join
  · cases join
  · rename_i upstreamXid existing found
    split at join
    · cases join
    · rename_i room
      cases join
      have present := HashMap.lookup_of_mem_iter (List.mem_of_find?_eq_some found)
      have same := List.find?_some found
      exact ⟨upstreamXid, existing, present, beq_iff_eq.mp same, Nat.lt_of_not_le room, rfl⟩

theorem Step.of_resolveUpstream {w₁ : Worker} (keeps : w.Keeps true w₁)
    (long : dnsHeaderSize ≤ query.length)
    (key : getCacheKey lib query = some cacheKey) :
    Step lib env ticket w (.query transport peer query)
      (resolveUpstream lib env w₁ query (transport.origin ticket peer) cacheKey).1
      (resolveUpstream lib env w₁ query (transport.origin ticket peer) cacheKey).2 := by
  rcases w₁ with ⟨cache, pending, upstreamServers, localTable, limiter, stats, fallbacks, events⟩
  obtain ⟨looked, rfl, rfl, rfl, names⟩ := keeps
  obtain ⟨rfl, rfl⟩ := names rfl
  unfold resolveUpstream
  split
  · exact .quiet ⟨looked, rfl, rfl, rfl, fun _ => ⟨rfl, rfl⟩⟩
  · rename_i clientIp _
    generalize limiter.check env.now clientIp = checked
    rcases checked with ⟨allowed, rateLimiter⟩
    have limited : w.Keeps true ⟨cache, w.pending, w.upstreamServers, w.localTable, rateLimiter,
        stats, w.fallbacks, w.tcpEvents⟩ := ⟨looked, rfl, rfl, rfl, fun _ => ⟨rfl, rfl⟩⟩
    simp only
    split
    · exact .quiet ⟨looked, rfl, rfl, rfl, fun _ => ⟨rfl, rfl⟩⟩
    · split
      · rename_i joined join
        obtain ⟨upstreamXid, existing, present, same, room, rfl⟩ :=
          tryJoinInFlightQuery_eq_some join
        exact .join limited long key present same room
      · unfold forwardNewClientQuery
        simp only
        split
        · exact .quiet limited
        · rename_i upstreamXid drawn
          split
          · exact .forward limited long key drawn
          · exact .quiet limited

theorem Step.of_query :
    Step lib env ticket w (.query transport peer query)
      (handleIncomingQuery lib env w query (transport.origin ticket peer)).1
      (handleIncomingQuery lib env w query (transport.origin ticket peer)).2 := by
  unfold handleIncomingQuery
  split
  · exact .quiet .rfl
  · rename_i short
    have long : dnsHeaderSize ≤ query.length := Nat.le_of_not_lt short
    simp only
    split
    · rename_i response resolved
      exact .localReply ⟨.inl rfl, rfl, rfl, rfl, fun _ => ⟨rfl, rfl⟩⟩ resolved
    · split
      · exact .quiet ⟨.inl rfl, rfl, rfl, rfl, fun _ => ⟨rfl, rfl⟩⟩
      · rename_i cacheKey key
        have after : ∀ {response cache stats}, lookupCache env.now cacheKey w.cache =
            (response, cache) → w.Keeps true { w with cache := cache, dnsStats := stats } := by
          intro response cache stats looked
          refine ⟨.inr ⟨env.now, cacheKey, ?_⟩, rfl, rfl, rfl, fun _ => ⟨rfl, rfl⟩⟩
          rw [looked]
        unfold answerFromCache
        simp only
        split
        · rename_i response cache looked
          have hit : (lookupCache env.now cacheKey w.cache).1 = some response := by rw [looked]
          obtain ⟨entry, found, live, rfl⟩ := lookupCache_hit hit
          exact .hit (after looked) long key found live
        · rename_i cache looked
          exact .of_resolveUpstream (after looked) long key

/-! ## Upstream replies and the rest -/

theorem Step.of_upstreamReply {reply : Bytes} {fromAddr : SocketAddr} :
    Step lib env ticket w (.upstreamReply reply fromAddr)
      (handleUpstreamReply lib env w reply fromAddr).1
      (handleUpstreamReply lib env w reply fromAddr).2 := by
  unfold handleUpstreamReply
  split
  · exact .quiet .rfl
  · rename_i short
    have long : dnsHeaderSize ≤ reply.length := Nat.le_of_not_lt short
    split
    · exact .quiet .rfl
    · rename_i pendingQuery present
      split
      · exact .quiet .rfl
      · rename_i expectedIp server
        split
        · rename_i source
          subst source
          unfold acceptUpstreamReply
          split
          · rename_i tc
            exact .truncated long present server tc
          · rename_i whole
            have tc : tcBit reply = false := Bool.eq_false_iff.mpr whole
            split
            · exact .quiet .rfl
            · rename_i msg parsed
              split
              · rename_i code
                split
                · rename_i next sent retry
                  exact .failover long present server tc parsed code retry
                · rename_i last
                  exact .settle long present server tc parsed fun _ => last
              · rename_i other
                exact .settle long present server tc parsed fun code => absurd code other
        · exact .quiet .rfl

theorem Step.of_result {event : Event} {result : Worker × List Output}
    (step : Step lib env ticket w event result.1 result.2) (same : result = (w', sent)) :
    Step lib env ticket w event w' sent := by
  rw [same] at step
  exact step

theorem Step.of_handle {event : Event}
    (handled : w.handle lib env ticket event = some (w', sent)) :
    Step lib env ticket w event w' sent := by
  cases event with
  | query transport peer query => exact of_result .of_query (Option.some.inj handled)
  | upstreamReply reply fromAddr =>
    exact of_result .of_upstreamReply (Option.some.inj handled)
  | fetched task reply =>
    simp only [Worker.handle, Option.map_eq_some_iff] at handled
    obtain ⟨w₁, finish, same⟩ := handled
    cases same
    obtain ⟨fallback, tcpEvents, found, framed, pushed, rfl⟩ := Worker.finish_eq_some.mp finish
    exact .fetched found framed pushed
  | tcpEvent =>
    simp only [Worker.handle, Option.map_eq_some_iff] at handled
    obtain ⟨⟨event, tcpEvents⟩, popped, same⟩ := handled
    exact of_result (.tcpEvent popped) same
  | tick => exact of_result .tick (Option.some.inj handled)
  | setUpstreamResolvers | registerLocalHost | deregisterLocalHost =>
    cases handled
    exact .quiet ⟨.inl rfl, rfl, rfl, rfl, nofun⟩

theorem Step.of_system {s t : System} {label : Env × Event}
    (taken : System.step lib s label = some t) :
    label.1.Allowed s ∧ ∃ w sent,
      Step lib label.1 s.received.length s.worker label.2 w sent ∧
        t = ⟨label.1.now, w, s.received ++ label.2.arrival s.received.length, s.sent ++ sent⟩ := by
  unfold System.step at taken
  split at taken
  · rename_i allowed
    obtain ⟨⟨w, sent⟩, handled, rfl⟩ := Option.map_eq_some_iff.mp taken
    exact ⟨allowed, w, sent, .of_handle handled, rfl⟩
  · cases taken

/-! ## The cleanup timer -/

variable {now : Nat} {order : List (BitVec 16)} {pending : HashMap (BitVec 16) PendingQuery}
  {upstreamXid : BitVec 16} {old next : PendingQuery} {output : Output}

/-- A failover changes the resolver and the deadline only, and asks the resolver again. -/
theorem tryFailoverUpstreamQuery_eq_some
    (retry : tryFailoverUpstreamQuery now old upstreamXid = some (next, output)) :
    ∃ target, old.upstreamServers[old.currentServerIdx + 1]? = some target ∧
      next = { old with
        currentServerIdx := old.currentServerIdx + 1, deadline := now + upstreamTimeout } ∧
      output = .upstream target (setXid upstreamXid old.queryPayload) := by
  unfold tryFailoverUpstreamQuery at retry
  split at retry
  · cases retry
  · rename_i target found
    cases retry
    exact ⟨target, found, rfl, rfl⟩

/-- The queries have the same clients and the same question. -/
def PendingQuery.Like (query old : PendingQuery) : Prop :=
  query.clients = old.clients ∧ query.cacheKey = old.cacheKey

theorem PendingQuery.Like.rfl {query : PendingQuery} : query.Like query :=
  ⟨Eq.refl _, Eq.refl _⟩

theorem tryFailoverUpstreamQuery_like
    (retry : tryFailoverUpstreamQuery now old upstreamXid = some (next, output)) :
    next.Like old := by
  obtain ⟨_, _, rfl, _⟩ := tryFailoverUpstreamQuery_eq_some retry
  exact ⟨rfl, rfl⟩

theorem retryQuery_lookup {acc : HashMap (BitVec 16) PendingQuery × List Output}
    {retried : BitVec 16} (found : (retryQuery now acc retried).1.lookup upstreamXid = some next) :
    ∃ old, acc.1.lookup upstreamXid = some old ∧ next.Like old := by
  unfold retryQuery at found
  split at found
  · exact ⟨next, found, .rfl⟩
  · rename_i query present
    split at found
    · exact ⟨next, found, .rfl⟩
    · rename_i retry
      rw [HashMap.lookup_insert_eq] at found
      split at found
      · rename_i same
        cases found
        rw [same]
        exact ⟨query, present, tryFailoverUpstreamQuery_like retry⟩
      · exact ⟨next, found, .rfl⟩

theorem mem_retryQuery {acc : HashMap (BitVec 16) PendingQuery × List Output}
    {retried : BitVec 16} (sent : output ∈ (retryQuery now acc retried).2) :
    output ∈ acc.2 ∨ ∃ dest payload, output = .upstream dest payload := by
  unfold retryQuery at sent
  split at sent
  · exact .inl sent
  · split at sent
    · exact .inl sent
    · rename_i retry
      rcases List.mem_append.mp sent with before | new
      · exact .inl before
      · obtain ⟨target, _, _, rfl⟩ := tryFailoverUpstreamQuery_eq_some retry
        exact .inr ⟨_, _, List.mem_singleton.mp new⟩

/-- What the cleanup leaves of the pending queries, and that it sends to resolvers only. -/
theorem retryQueries_spec (list : List (BitVec 16))
    (acc : HashMap (BitVec 16) PendingQuery × List Output) :
    (∀ upstreamXid next, (list.foldl (retryQuery now) acc).1.lookup upstreamXid = some next →
      ∃ old, acc.1.lookup upstreamXid = some old ∧ next.Like old) ∧
    ∀ output ∈ (list.foldl (retryQuery now) acc).2,
      output ∈ acc.2 ∨ ∃ dest payload, output = .upstream dest payload := by
  induction list generalizing acc with
  | nil => exact ⟨fun _ next found => ⟨next, found, .rfl⟩, fun _ sent => .inl sent⟩
  | cons retried list ih =>
    obtain ⟨lookups, outputs⟩ := ih (retryQuery now acc retried)
    constructor
    · intro upstreamXid next found
      obtain ⟨middle, found', like⟩ := lookups upstreamXid next found
      obtain ⟨old, found'', like'⟩ := retryQuery_lookup found'
      exact ⟨old, found'', like.1.trans like'.1, like.2.trans like'.2⟩
    · intro output sent
      rcases outputs output sent with before | upstream
      · exact mem_retryQuery before
      · exact .inr upstream

theorem mem_checkPendingTimeouts (sent : output ∈ (checkPendingTimeouts now order pending).2) :
    ∃ dest payload, output = .upstream dest payload := by
  rcases (retryQueries_spec _ _).2 output sent with none' | upstream
  · cases none'
  · exact upstream

/-! ## Where the contents of the worker come from -/

/-- The event is a query of the client for the key. -/
def Event.Asks (lib : Hickory) (ticket : Nat) (event : Event) (key : String)
    (client : PendingClient) : Prop :=
  ∃ transport peer query, event = .query transport peer query ∧
    getCacheKey lib query = some key ∧ client = newClient lib query (transport.origin ticket peer)

/-- The event brings the reply for the query, from the resolver in charge. -/
def Worker.Hears (w : Worker) (event : Event) (query : PendingQuery) (reply : Bytes) : Prop :=
  ∃ expectedIp, event = .upstreamReply reply ⟨.v4 expectedIp, dnsPort⟩ ∧
    dnsHeaderSize ≤ reply.length ∧ w.pending.lookup (xid reply) = some query ∧
    query.currentServer = some expectedIp

/-- The event brings the reply that is cached under the key. -/
def Worker.Brings (w : Worker) (event : Event) (key : String) (reply : Bytes) : Prop :=
  (∃ query, w.Hears event query reply ∧ query.cacheKey = key) ∨
    ∃ clients, .resolved key reply clients ∈ w.tcpEvents.items

/-- What the worker has after a step it had before, or the event has brought it. -/
structure Sources (lib : Hickory) (env : Env) (ticket : Nat) (w : Worker) (event : Event)
    (w' : Worker) : Prop where
  cache : ∀ {key entry}, w'.cache.lookup key = some entry → w.cache.lookup key = some entry ∨
    w.Brings event key entry.response ∧ entry.AdmittedAt lib env.now ∧
      w'.cache = insertCache lib env.now env.cacheOrder key entry.response w.cache
  pending : ∀ {upstreamXid query}, w'.pending.lookup upstreamXid = some query →
    ∀ client ∈ query.clients, event.Asks lib ticket query.cacheKey client ∨
      ∃ old, w.pending.lookup upstreamXid = some old ∧ client ∈ old.clients ∧
        old.cacheKey = query.cacheKey
  fallbacks : ∀ {task}, task ∈ w'.fallbacks → task ∈ w.fallbacks ∨
    ∃ query, w.Hears event query task.fallbackReply ∧ task.clients = query.clients ∧
      task.cacheKey = query.cacheKey
  tcpEvents : ∀ {tcpEvent}, tcpEvent ∈ w'.tcpEvents.items → tcpEvent ∈ w.tcpEvents.items ∨
    ∃ task fallback fetched, event = .fetched task fetched ∧ w.fallbacks[task]? = some fallback ∧
      fetched.all isFramed = true ∧ tcpEvent = fallback.report fetched

namespace Sources

variable {event : Event} {key : String} {reply : Bytes} {query' : PendingQuery}

theorem of_keeps {outside : Bool} (keeps : w.Keeps outside w') :
    Sources lib env ticket w event w' where
  cache found := .inl (keeps.cache.lookup found)
  pending found _ member := .inr ⟨_, keeps.pending ▸ found, member, rfl⟩
  fallbacks member := .inl (keeps.fallbacks ▸ member)
  tcpEvents member := .inl (keeps.tcpEvents ▸ member)

/-- One pending query is another one. -/
theorem of_insert (keeps : w.Keeps true w') (clients : ∀ client ∈ next.clients,
      event.Asks lib ticket next.cacheKey client ∨ ∃ old, w.pending.lookup upstreamXid = some old ∧
        client ∈ old.clients ∧ old.cacheKey = next.cacheKey) :
    Sources lib env ticket w event
      { w' with pending := w.pending.insert upstreamXid next } := by
  have kept : Sources lib env ticket w event w' := of_keeps keeps
  refine ⟨kept.cache, ?_, kept.fallbacks, kept.tcpEvents⟩
  intro other query found
  rw [HashMap.lookup_insert_eq] at found
  split at found
  · rename_i same
    cases found
    exact same ▸ clients
  · exact fun _ member => .inr ⟨query, found, member, rfl⟩

theorem pending_erase {other : BitVec 16} {query : PendingQuery}
    (found : (w.pending.erase upstreamXid).lookup other = some query) :
    ∀ client ∈ query.clients, event.Asks lib ticket query.cacheKey client ∨
      ∃ old, w.pending.lookup other = some old ∧ client ∈ old.clients ∧
        old.cacheKey = query.cacheKey := by
  rw [HashMap.lookup_erase_eq] at found
  split at found
  · cases found
  · exact fun _ member => .inr ⟨query, found, member, rfl⟩

theorem cache_insert {entry : CacheEntry} (brings : w.Brings event cacheKey reply)
    (found : (insertCache lib env.now env.cacheOrder cacheKey reply w.cache).lookup key =
      some entry) :
    w.cache.lookup key = some entry ∨
      w.Brings event key entry.response ∧ entry.AdmittedAt lib env.now ∧
        insertCache lib env.now env.cacheOrder cacheKey reply w.cache =
          insertCache lib env.now env.cacheOrder key entry.response w.cache := by
  rcases mem_insertCache found with before | ⟨rfl, rfl, admitted⟩
  · exact .inl before
  · exact .inr ⟨brings, admitted, rfl⟩

end Sources

theorem Step.sources {event : Event} (step : Step lib env ticket w event w' sent) :
    Sources lib env ticket w event w' := by
  have same : ∀ event, Sources lib env ticket w event w :=
    fun _ => .of_keeps (@Worker.Keeps.rfl w true)
  cases step with
  | quiet keeps | localReply keeps | hit keeps => exact .of_keeps keeps
  | join keeps _ asks present same _ =>
    refine .of_insert keeps fun client member => ?_
    rcases List.mem_append.mp member with old | new
    · exact .inr ⟨_, present, old, rfl⟩
    · exact .inl ⟨_, _, _, rfl, same ▸ asks, List.mem_singleton.mp new⟩
  | forward keeps _ asks _ =>
    refine .of_insert keeps fun client member => .inl ?_
    exact ⟨_, _, _, rfl, asks, List.mem_singleton.mp member⟩
  | truncated long present server _ =>
    refine ⟨(same _).cache, Sources.pending_erase, ?_, (same _).tcpEvents⟩
    rw [List.forall_mem_append, List.forall_mem_singleton]
    exact ⟨fun _ => .inl, .inr ⟨_, ⟨_, rfl, long, present, server⟩, rfl, rfl⟩⟩
  | failover _ present _ _ _ _ retry =>
    obtain ⟨clients, key⟩ := tryFailoverUpstreamQuery_like retry
    refine .of_insert .rfl fun client member => .inr ⟨_, present, clients ▸ member, key.symm⟩
  | settle long present server _ _ _ =>
    exact ⟨Sources.cache_insert (.inl ⟨_, ⟨_, rfl, long, present, server⟩, rfl⟩),
      Sources.pending_erase, (same _).fallbacks, (same _).tcpEvents⟩
  | fetched found framed pushed =>
    refine ⟨(same _).cache, (same _).pending,
      fun member => .inl (List.mem_of_mem_eraseIdx member), fun member => ?_⟩
    rcases (Fifo.mem_of_push pushed).mp member with old | new
    · exact .inl old
    · exact .inr ⟨_, _, _, rfl, found, framed, new⟩
  | @tcpEvent tcpEvent tcpEvents popped =>
    have first : tcpEvent ∈ w.tcpEvents.items := (Fifo.mem_of_pop popped).mpr (.inl rfl)
    cases tcpEvent with
    | resolved cacheKey reply clients =>
      exact ⟨Sources.cache_insert (.inr ⟨clients, first⟩), (same _).pending, (same _).fallbacks,
        fun member => .inl ((Fifo.mem_of_pop popped).mpr (.inr member))⟩
    | failed fallbackReply clients =>
      exact ⟨(same _).cache, (same _).pending, (same _).fallbacks,
        fun member => .inl ((Fifo.mem_of_pop popped).mpr (.inr member))⟩
  | tick =>
    refine ⟨fun found => .inl (mem_evictExpiredCache found), fun found client member => ?_,
      (same _).fallbacks, (same _).tcpEvents⟩
    obtain ⟨old, kept, clients, key⟩ := (retryQueries_spec _ _).1 _ _ found
    exact .inr ⟨old, (HashMap.lookup_retain_eq_some.mp kept).1, clients ▸ member, key.symm⟩

/-- Every message that the worker holds for its clients has a whole header. -/
structure Worker.Framed (w : Worker) : Prop where
  cache : ∀ {key entry}, w.cache.lookup key = some entry → dnsHeaderSize ≤ entry.response.length
  fallbacks : ∀ {task}, task ∈ w.fallbacks → dnsHeaderSize ≤ task.fallbackReply.length
  tcpEvents : ∀ {event}, event ∈ w.tcpEvents.items → dnsHeaderSize ≤ event.reply.length

/-- Every message that comes in for the clients has a whole header. -/
theorem Step.framed {event : Event} (step : Step lib env ticket w event w' sent)
    (framed : w.Framed) : w'.Framed where
  cache found := by
    rcases step.sources.cache found with before | ⟨-, admitted, -⟩
    · exact framed.cache before
    · exact admitted.long
  fallbacks member := by
    rcases step.sources.fallbacks member with before | ⟨query, ⟨_, -, long, -⟩, -⟩
    · exact framed.fallbacks before
    · exact long
  tcpEvents member := by
    rcases step.sources.tcpEvents member with
      before | ⟨task, fallback, fetched, -, found, whole, rfl⟩
    · exact framed.tcpEvents before
    · cases fetched with
      | none => exact framed.fallbacks (List.mem_of_getElem? found)
      | some reply => exact long_of_isFramed whole

/-! ## What a step sends -/

/-- The event brings a response for the clients: it is the reply of a resolver to their query, the
result of the fallback to TCP, or what is cached. -/
inductive Delivers (lib : Hickory) (ticket : Nat) (w : Worker) :
    Event → List PendingClient → Bytes → Prop
  | upstream {reply : Bytes} {fromAddr : SocketAddr} {q : PendingQuery}
      (present : w.pending.lookup (xid reply) = some q) :
      Delivers lib ticket w (.upstreamReply reply fromAddr) q.clients reply
  | fallback {event : UpstreamTcpEvent} {rest : Fifo UpstreamTcpEvent 128}
      (popped : w.tcpEvents.pop = some (event, rest)) :
      Delivers lib ticket w .tcpEvent event.clients event.reply
  | cached {transport : Transport} {peer : SocketAddr} {query : Bytes} {key : String}
      {entry : CacheEntry} (asks : getCacheKey lib query = some key)
      (found : w.cache.lookup key = some entry) :
      Delivers lib ticket w (.query transport peer query)
        [newClient lib query (transport.origin ticket peer)] entry.response

/-- The event is a query that is answered from the local tables. -/
def AnsweredLocally (lib : Hickory) (ticket : Nat) (w : Worker) (event : Event)
    (sent : List Output) : Prop :=
  ∃ transport peer query response, event = .query transport peer query ∧
    tryResolveLocalQuery lib w.localTable query = some response ∧
    sent = [.reply (transport.origin ticket peer) response]

theorem Step.delivers {event : Event} (step : Step lib env ticket w event w' sent)
    (framed : w.Framed) :
    (∀ origin reply, .reply origin reply ∉ sent) ∨ AnsweredLocally lib ticket w event sent ∨
      ∃ clients response, Delivers lib ticket w event clients response ∧
        dnsHeaderSize ≤ response.length ∧ sent = fanoutClientReplies lib clients response := by
  cases step with
  | quiet | join | truncated | fetched =>
    exact .inl fun _ _ => List.not_mem_nil
  | localReply keeps resolved =>
    rename_i transport peer query response
    refine .inr (.inl ⟨transport, peer, query, response, rfl, resolved, ?_⟩)
    cases transport <;> rfl
  | hit _ _ asks found _ =>
    exact .inr (.inr ⟨_, _, .cached asks found, framed.cache found, rfl⟩)
  | forward _ _ _ _ => exact .inl (by simp)
  | failover _ _ _ _ _ _ retry =>
    obtain ⟨_, _, _, rfl⟩ := tryFailoverUpstreamQuery_eq_some retry
    exact .inl (by simp)
  | settle long present _ _ _ _ => exact .inr (.inr ⟨_, _, .upstream present, long, rfl⟩)
  | tcpEvent popped =>
    rename_i event tcpEvents
    have long := framed.tcpEvents ((Fifo.mem_of_pop popped).mpr (.inl rfl))
    refine .inr (.inr ⟨_, _, .fallback popped, long, ?_⟩)
    cases event <;> rfl
  | tick =>
    refine .inl fun origin reply replied => ?_
    rcases List.mem_cons.mp replied with heartbeat | retried
    · cases heartbeat
    · obtain ⟨_, _, upstream⟩ := mem_checkPendingTimeouts retried
      cases upstream

/-- What a step sends for a reply is for the query that the reply is from the resolver of. -/
theorem Step.hears {reply response : Bytes} {fromAddr : SocketAddr} {origin : ClientOrigin}
    (step : Step lib env ticket w (.upstreamReply reply fromAddr) w' sent)
    (replied : .reply origin response ∈ sent) :
    ∃ query, w.Hears (.upstreamReply reply fromAddr) query reply := by
  cases step with
  | quiet | truncated => cases replied
  | failover _ _ _ _ _ _ retry =>
    obtain ⟨_, _, _, rfl⟩ := tryFailoverUpstreamQuery_eq_some retry
    cases List.mem_singleton.mp replied
  | settle long present server _ _ _ => exact ⟨_, _, rfl, long, present, server⟩

end TrimRouter.Dns
