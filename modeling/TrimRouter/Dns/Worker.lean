import TrimRouter.Dns.Cache
import TrimRouter.Dns.Local
import TrimRouter.Dns.RateLimiter
import TrimRouter.Lib.Fifo
import TrimRouter.Lib.Run

/-!
# The DNS forwarder worker

The worker process of `services/dns_forwarder/worker.rs`: its main loop with the handlers
of client queries, upstream replies, results of the fallback to TCP and the cleanup timer,
and the tasks of the fallback, which report through a bounded channel.

A branch of the loop runs to its end before the next one, so a step is a whole branch; it
reads the clock once.  A handler returns the worker after it and what it has sent.

`System` is the worker with the history of its clients: the queries that it received and
the replies that it sent.

Left out: the TCP connections themselves, which are in `TrimRouter.Dns.TcpFraming`, the log
messages, and the end of the loop when the parent is gone.
-/

namespace TrimRouter.Dns

/-! ## Constants -/

/-- `RFC1035_MAX_UDP_PAYLOAD`. -/
def rfc1035MaxUdpPayload : Nat := 512

/-- `MAX_EDNS_PAYLOAD_SIZE`. -/
def maxEdnsPayloadSize : Nat := 4096

/-- `UPSTREAM_TIMEOUT`. -/
def upstreamTimeout : Nat := fromSecs 3

/-- `FALLBACK_DNS_SERVER`. -/
def fallbackDnsServer : Ipv4Addr := .new 8 8 8 8

/-- `MAX_PENDING_QUERIES`. -/
def maxPendingQueries : Nat := 4096

/-- `MAX_JOINED_CLIENTS_PER_QUERY`. -/
def maxJoinedClientsPerQuery : Nat := 64

/-- `TCP_MAX_MESSAGE_SIZE`. -/
def tcpMaxMessageSize : Nat := 65535

/-- `services::utils::DNS_PORT`. -/
def dnsPort : BitVec 16 := 53

/-! ## Clients -/

/-- `IpAddr`. -/
inductive IpAddr where
  | v4 (ip : Ipv4Addr)
  | v6 (ip : BitVec 128)
deriving DecidableEq

/-- `SocketAddr`. -/
structure SocketAddr where
  ip : IpAddr
  port : BitVec 16
deriving DecidableEq

/-- `ClientOrigin`.  The code moves these values and never copies one; the ticket tells the
value made for one query from that of another, and for TCP it stands for the channel of the
reply. -/
inductive ClientOrigin where
  | udp (ticket : Nat) (src : SocketAddr)
  | tcp (ticket : Nat) (peerAddr : SocketAddr)
deriving DecidableEq

def ClientOrigin.ticket : ClientOrigin → Nat
  | .udp ticket _ => ticket
  | .tcp ticket _ => ticket

/-- `peer_addr`. -/
def ClientOrigin.peerAddr : ClientOrigin → SocketAddr
  | .udp _ src => src
  | .tcp _ peerAddr => peerAddr

/-- `PendingClient`. -/
structure PendingClient where
  origin : ClientOrigin
  clientXid : BitVec 16
  clientMaxPayload : Nat
deriving DecidableEq

/-- `PendingQuery`. -/
structure PendingQuery where
  clients : List PendingClient
  cacheKey : String
  queryPayload : Bytes
  upstreamServers : List Ipv4Addr
  currentServerIdx : Nat
  deadline : Nat
deriving DecidableEq

/-- `upstream_servers[current_server_idx]`; the code panics when there is none. -/
def PendingQuery.currentServer (query : PendingQuery) : Option Ipv4Addr :=
  query.upstreamServers[query.currentServerIdx]?

/-- A task spawned by `spawn_upstream_tcp_fallback`. -/
structure Fallback where
  target : Ipv4Addr
  queryPayload : Bytes
  upstreamXid : BitVec 16
  cacheKey : String
  fallbackReply : Bytes
  clients : List PendingClient
deriving DecidableEq

/-- `UpstreamTcpEvent`. -/
inductive UpstreamTcpEvent where
  | resolved (cacheKey : String) (reply : Bytes) (clients : List PendingClient)
  | failed (fallbackReply : Bytes) (clients : List PendingClient)
deriving DecidableEq

/-- `DnsStatsInfo`. -/
structure DnsStatsInfo where
  queriesTotal : BitVec 64
  cacheHitsTotal : BitVec 64
  cachedEntriesCount : Nat
  rateLimitedDropsTotal : BitVec 64
deriving DecidableEq

/-- `DnsStatsInfo::default`. -/
def DnsStatsInfo.default : DnsStatsInfo := ⟨0, 0, 0, 0⟩

/-- `saturating_add(1)`. -/
def saturatingInc (n : BitVec 64) : BitVec 64 := if n = BitVec.allOnes 64 then n else n + 1

/-- What the worker sends. -/
inductive Output where
  /-- a reply to a client -/
  | reply (origin : ClientOrigin) (response : Bytes)
  /-- a datagram to a resolver -/
  | upstream (dest : Ipv4Addr) (payload : Bytes)
  /-- a heartbeat to the parent -/
  | heartbeat (stats : DnsStatsInfo)
deriving DecidableEq

/-- The worker process: its main loop and the tasks of the fallback to TCP. -/
structure Worker where
  cache : Cache
  pending : HashMap (BitVec 16) PendingQuery
  upstreamServers : List Ipv4Addr
  localTable : LocalDnsTable
  rateLimiter : DnsRateLimiter
  dnsStats : DnsStatsInfo
  fallbacks : List Fallback
  tcpEvents : Fifo UpstreamTcpEvent 128

/-- The worker when its loop begins. -/
def Worker.init : Worker where
  cache := ∅
  pending := ∅
  upstreamServers := []
  localTable := .empty
  rateLimiter := .default
  dnsStats := .default
  fallbacks := []
  tcpEvents := .empty

/-! ## Replies -/

variable (lib : Hickory)

/-- `extract_client_max_payload`. -/
def extractClientMaxPayload (queryBytes : Bytes) : Nat :=
  match (lib.fromBytes queryBytes).bind (·.edns) with
  | some size => max rfc1035MaxUdpPayload (min size.toNat maxEdnsPayloadSize)
  | none => rfc1035MaxUdpPayload

/-- Mark a response as truncated and cut it after the header. -/
def cutToHeader (response : Bytes) : Bytes :=
  if dnsHeaderSize ≤ response.length then
    (response.modify 2 (· ||| 0x02)).take dnsHeaderSize
  else response

/-- `prepare_client_response`. -/
def prepareClientResponse (response : Bytes) (maxPayload : Nat) : Bytes :=
  if response.length ≤ maxPayload then response
  else
    match lib.fromBytes response with
    | some msg =>
      let buf := lib.emit (lib.truncate msg)
      if buf.length ≤ maxPayload then buf else cutToHeader response
    | none => cutToHeader response

/-- `send_reply`. -/
def sendReply (origin : ClientOrigin) (response : Bytes) (maxPayload : Option Nat) : Output :=
  match origin with
  | .udp _ _ =>
    match maxPayload with
    | some cap => .reply origin (prepareClientResponse lib response cap)
    | none => .reply origin response
  | .tcp _ _ => .reply origin response

/-- `fanout_client_replies`. -/
def fanoutClientReplies (clients : List PendingClient) (reply : Bytes) : List Output :=
  clients.map fun client =>
    sendReply lib client.origin (setXid client.clientXid reply) (some client.clientMaxPayload)

/-! ## Client queries -/

/-- What a handler takes from outside. -/
structure Env where
  now : Nat
  /-- the numbers that `allocate_unique_xid` draws -/
  draws : List (BitVec 16)
  /-- whether the send to the resolver succeeds -/
  sent : Bool
  /-- the orders in which iterations visit the pending queries and the cache -/
  pendingOrder : List (BitVec 16)
  cacheOrder : List String
deriving DecidableEq

/-- `get_upstream_resolvers`. -/
def getUpstreamResolvers (configured : List Ipv4Addr) : List Ipv4Addr :=
  let valid := configured.filter isValidUpstreamResolver
  if valid.isEmpty then [fallbackDnsServer] else valid

/-- `try_join_in_flight_query`: the pending queries with the client added, if it joins. -/
def tryJoinInFlightQuery (order : List (BitVec 16)) (pending : HashMap (BitVec 16) PendingQuery)
    (cacheKey : String) (query : Bytes) (origin : ClientOrigin) :
    Option (HashMap (BitVec 16) PendingQuery) :=
  match (pending.iter order).find? fun e => e.2.cacheKey == cacheKey with
  | none => none
  | some (upstreamXid, existing) =>
    if maxJoinedClientsPerQuery ≤ existing.clients.length then none
    else
      let client : PendingClient := ⟨origin, xid query, extractClientMaxPayload lib query⟩
      some (pending.insert upstreamXid { existing with clients := existing.clients ++ [client] })

/-- `allocate_unique_xid`, with the numbers that its loop draws.  The result is `none` too if none
of them ends the loop; `Env.Allowed` excludes that. -/
def allocateUniqueXid (pending : HashMap (BitVec 16) PendingQuery) (draws : List (BitVec 16)) :
    Option (BitVec 16) :=
  if maxPendingQueries ≤ pending.entries.length then none
  else draws.find? fun rngXid => !(rngXid == 0 || (pending.lookup rngXid).isSome)

/-- The id is not zero and not in use. -/
theorem allocateUniqueXid_eq_some {pending : HashMap (BitVec 16) PendingQuery}
    {draws : List (BitVec 16)} {upstreamXid : BitVec 16}
    (drawn : allocateUniqueXid pending draws = some upstreamXid) :
    pending.entries.length < maxPendingQueries ∧ upstreamXid ≠ 0 ∧
      pending.lookup upstreamXid = none := by
  obtain ⟨room, found⟩ := Option.ite_none_left_eq_some.mp drawn
  have ends := List.find?_some found
  simp only [Bool.not_eq_true', Bool.or_eq_false_iff, beq_eq_false_iff_ne, ne_eq,
    Option.isSome_eq_false_iff, Option.isNone_iff_eq_none] at ends
  exact ⟨Nat.lt_of_not_le room, ends⟩

/-- `forward_new_client_query`. -/
def forwardNewClientQuery (env : Env) (w : Worker) (query : Bytes) (origin : ClientOrigin)
    (cacheKey : String) : Worker × List Output :=
  match allocateUniqueXid w.pending env.draws with
  | none => (w, [])
  | some upstreamXid =>
    let servers := getUpstreamResolvers w.upstreamServers
    let target := servers.headD fallbackDnsServer
    let forwarded := setXid upstreamXid query
    if env.sent then
      ({ w with
          pending := w.pending.insert upstreamXid
            { clients := [⟨origin, xid query, extractClientMaxPayload lib query⟩]
              cacheKey := cacheKey
              queryPayload := query
              upstreamServers := servers
              currentServerIdx := 0
              deadline := env.now + upstreamTimeout } },
        [.upstream target forwarded])
    else (w, [])

/-- The end of `handle_incoming_query`, for a question that is neither local nor cached. -/
def resolveUpstream (env : Env) (w : Worker) (query : Bytes) (origin : ClientOrigin)
    (cacheKey : String) : Worker × List Output :=
  match origin.peerAddr.ip with
  | .v6 _ => (w, [])
  | .v4 clientIp =>
    let (allowed, rateLimiter) := w.rateLimiter.check env.now clientIp
    let w := { w with rateLimiter := rateLimiter }
    if !allowed then
      ({ w with
          dnsStats.rateLimitedDropsTotal := saturatingInc w.dnsStats.rateLimitedDropsTotal },
        [])
    else
      match tryJoinInFlightQuery lib env.pendingOrder w.pending cacheKey query origin with
      | some pending => ({ w with pending := pending }, [])
      | none => forwardNewClientQuery lib env w query origin cacheKey

/-- `handle_incoming_query` after the local tables, for a question with a cache key. -/
def answerFromCache (env : Env) (w : Worker) (query : Bytes) (origin : ClientOrigin)
    (cacheKey : String) : Worker × List Output :=
  match lookupCache env.now cacheKey w.cache with
  | (some response, cache) =>
    ({ w with
        cache := cache
        dnsStats.cacheHitsTotal := saturatingInc w.dnsStats.cacheHitsTotal },
      [sendReply lib origin (setXid (xid query) response)
        (some (extractClientMaxPayload lib query))])
  | (none, cache) => resolveUpstream lib env { w with cache := cache } query origin cacheKey

/-- `handle_incoming_query`. -/
def handleIncomingQuery (env : Env) (w : Worker) (query : Bytes) (origin : ClientOrigin) :
    Worker × List Output :=
  if query.length < dnsHeaderSize then (w, [])
  else
    let w := { w with dnsStats.queriesTotal := saturatingInc w.dnsStats.queriesTotal }
    match tryResolveLocalQuery lib w.localTable query with
    | some localResp => (w, [sendReply lib origin localResp none])
    | none =>
      match getCacheKey lib query with
      | none => (w, [])
      | some cacheKey => answerFromCache lib env w query origin cacheKey

/-! ## Upstream replies -/

/-- `try_failover_upstream_query`: the query with its next resolver in charge, and what is
sent to that; `none` when there is no further one. -/
def tryFailoverUpstreamQuery (now : Nat) (query : PendingQuery) (upstreamXid : BitVec 16) :
    Option (PendingQuery × Output) :=
  match query.upstreamServers[query.currentServerIdx + 1]? with
  | none => none
  | some target =>
    some ({ query with
        currentServerIdx := query.currentServerIdx + 1
        deadline := now + upstreamTimeout },
      .upstream target (setXid upstreamXid query.queryPayload))

/-- `spawn_upstream_tcp_fallback`. -/
def spawnUpstreamTcpFallback (query : PendingQuery) (target : Ipv4Addr)
    (upstreamXid : BitVec 16) (fallbackReply : Bytes) : Fallback where
  target := target
  queryPayload := query.queryPayload
  upstreamXid := upstreamXid
  cacheKey := query.cacheKey
  fallbackReply := fallbackReply
  clients := query.clients

/-- The end of `handle_upstream_reply`: the reply is cached and passed on. -/
def settleQuery (env : Env) (w : Worker) (upstreamXid : BitVec 16) (query : PendingQuery)
    (reply : Bytes) : Worker × List Output :=
  ({ w with
      pending := w.pending.erase upstreamXid
      cache := insertCache lib env.now env.cacheOrder query.cacheKey reply w.cache },
    fanoutClientReplies lib query.clients reply)

/-- The response code asks for another resolver. -/
def ResponseCode.failsOver : ResponseCode → Bool
  | .servFail => true
  | .refused => true
  | _ => false

/-- `handle_upstream_reply` for a reply from the resolver in charge of the query. -/
def acceptUpstreamReply (env : Env) (w : Worker) (upstreamXid : BitVec 16)
    (query : PendingQuery) (expectedIp : Ipv4Addr) (reply : Bytes) : Worker × List Output :=
  if tcBit reply then
    ({ w with
        pending := w.pending.erase upstreamXid
        fallbacks := w.fallbacks ++
          [spawnUpstreamTcpFallback query expectedIp upstreamXid reply] },
      [])
  else
    match lib.fromBytes reply with
    | none => (w, [])
    | some msg =>
      if msg.responseCode.failsOver then
        match tryFailoverUpstreamQuery env.now query upstreamXid with
        | some (query, sent) => ({ w with pending := w.pending.insert upstreamXid query }, [sent])
        | none => settleQuery lib env w upstreamXid query reply
      else settleQuery lib env w upstreamXid query reply

/-- `handle_upstream_reply`. -/
def handleUpstreamReply (env : Env) (w : Worker) (reply : Bytes) (fromAddr : SocketAddr) :
    Worker × List Output :=
  if reply.length < dnsHeaderSize then (w, [])
  else
    match w.pending.lookup (xid reply) with
    | none => (w, [])
    | some query =>
      match query.currentServer with
      | none => (w, [])
      | some expectedIp =>
        if fromAddr = ⟨.v4 expectedIp, dnsPort⟩ then
          acceptUpstreamReply lib env w (xid reply) query expectedIp reply
        else (w, [])

/-- The clients of an event, and the reply that they get. -/
def UpstreamTcpEvent.clients : UpstreamTcpEvent → List PendingClient
  | .resolved _ _ clients => clients
  | .failed _ clients => clients

def UpstreamTcpEvent.reply : UpstreamTcpEvent → Bytes
  | .resolved _ reply _ => reply
  | .failed fallbackReply _ => fallbackReply

/-- `handle_upstream_tcp_event`. -/
def handleUpstreamTcpEvent (env : Env) (w : Worker) : UpstreamTcpEvent → Worker × List Output
  | .resolved cacheKey reply clients =>
    ({ w with cache := insertCache lib env.now env.cacheOrder cacheKey reply w.cache },
      fanoutClientReplies lib clients reply)
  | .failed fallbackReply clients => (w, fanoutClientReplies lib clients fallbackReply)

/-- What a task of the fallback reports: the reply of `fetch_upstream_tcp`, or that there
is none. -/
def Fallback.report (task : Fallback) : Option Bytes → UpstreamTcpEvent
  | some reply => .resolved task.cacheKey reply task.clients
  | none => .failed task.fallbackReply task.clients

/-! ## The cleanup timer -/

/-- The deadline of the query has passed. -/
def PendingQuery.timedOut (now : Nat) (query : PendingQuery) : Bool := query.deadline ≤ now

/-- There is a further resolver. -/
def PendingQuery.hasNext (query : PendingQuery) : Bool :=
  query.currentServerIdx + 1 < query.upstreamServers.length

/-- One query of the list that `check_pending_timeouts` retries. -/
def retryQuery (now : Nat) (acc : HashMap (BitVec 16) PendingQuery × List Output)
    (upstreamXid : BitVec 16) : HashMap (BitVec 16) PendingQuery × List Output :=
  match acc.1.lookup upstreamXid with
  | none => acc
  | some query =>
    match tryFailoverUpstreamQuery now query upstreamXid with
    | none => acc
    | some (query, sent) => (acc.1.insert upstreamXid query, acc.2 ++ [sent])

/-- `check_pending_timeouts`. -/
def checkPendingTimeouts (now : Nat) (order : List (BitVec 16))
    (pending : HashMap (BitVec 16) PendingQuery) :
    HashMap (BitVec 16) PendingQuery × List Output :=
  let retained := pending.retain fun _ query => !query.timedOut now || query.hasNext
  let retryList := ((pending.iter order).filter fun e => e.2.timedOut now && e.2.hasNext).map
    Prod.fst
  retryList.foldl (retryQuery now) (retained, [])

/-- The branch of the cleanup timer. -/
def cleanupTick (env : Env) (w : Worker) : Worker × List Output :=
  let stats := { w.dnsStats with cachedEntriesCount := w.cache.entries.length }
  let (pending, sent) := checkPendingTimeouts env.now env.pendingOrder w.pending
  ({ w with
      dnsStats := stats
      cache := evictExpiredCache env.now w.cache
      rateLimiter := w.rateLimiter.retainRecent env.now
      pending := pending },
    .heartbeat stats :: sent)

/-! ## The system -/

/-- The protocol of a client query. -/
inductive Transport where
  | udp
  | tcp
deriving DecidableEq

/-- The origin of a query. -/
def Transport.origin (transport : Transport) (ticket : Nat) (peer : SocketAddr) : ClientOrigin :=
  match transport with
  | .udp => .udp ticket peer
  | .tcp => .tcp ticket peer

/-- A query that the worker has received. -/
structure Received where
  origin : ClientOrigin
  query : Bytes
deriving DecidableEq

/-- The worker, and the history of what it received and sent, which it never reads. -/
structure System where
  now : Nat
  worker : Worker
  received : List Received
  sent : List Output

/-- One step. -/
inductive Event where
  /-- a query arrives, on the UDP socket or from the task of a TCP connection -/
  | query (transport : Transport) (peer : SocketAddr) (query : Bytes)
  /-- a datagram arrives on the upstream socket -/
  | upstreamReply (reply : Bytes) (fromAddr : SocketAddr)
  /-- the task of a fallback to TCP ends, with the reply that it read or without one -/
  | fetched (task : Nat) (reply : Option Bytes)
  /-- the loop takes an event from the channel of these tasks -/
  | tcpEvent
  /-- the cleanup timer fires -/
  | tick
  /-- the messages of the parent -/
  | setUpstreamResolvers (servers : List Ipv4Addr)
  | registerLocalHost (name : String) (ip : Ipv4Addr)
  | deregisterLocalHost (name : String)
deriving DecidableEq

/-- What comes from outside is possible in the state: time does not run backwards, the loop of
`allocate_unique_xid` ends, and the orders list the keys of the maps. -/
def Env.Allowed (env : Env) (s : System) : Prop :=
  s.now ≤ env.now ∧ (s.worker.pending.entries.length < maxPendingQueries →
    (allocateUniqueXid s.worker.pending env.draws).isSome = true) ∧
    s.worker.pending.IsOrder env.pendingOrder ∧ s.worker.cache.IsOrder env.cacheOrder
deriving Decidable

/-- A message that `read_tcp_dns_query` can return. -/
def isFramed (reply : Bytes) : Bool :=
  dnsHeaderSize ≤ reply.length && reply.length ≤ tcpMaxMessageSize

/-- The end of a fallback task, which waits while the channel is full. -/
def Worker.finish (w : Worker) (task : Nat) (reply : Option Bytes) : Option Worker := do
  let fallback ← w.fallbacks[task]?
  if !reply.all isFramed then none
  let tcpEvents ← w.tcpEvents.push (fallback.report reply)
  some { w with fallbacks := w.fallbacks.eraseIdx task, tcpEvents := tcpEvents }

/-- The handler of an event, in a worker that is about to receive the query with the given
ticket. -/
def Worker.handle (env : Env) (ticket : Nat) (w : Worker) : Event → Option (Worker × List Output)
  | .query transport peer query =>
    some (handleIncomingQuery lib env w query (transport.origin ticket peer))
  | .upstreamReply reply fromAddr => some (handleUpstreamReply lib env w reply fromAddr)
  | .fetched task reply => (w.finish task reply).map fun w => (w, [])
  | .tcpEvent =>
    w.tcpEvents.pop.map fun (event, tcpEvents) =>
      handleUpstreamTcpEvent lib env { w with tcpEvents := tcpEvents } event
  | .tick => some (cleanupTick env w)
  | .setUpstreamResolvers servers => some ({ w with upstreamServers := servers }, [])
  | .registerLocalHost name ip =>
    some ({ w with localTable := w.localTable.register name ip }, [])
  | .deregisterLocalHost name =>
    some ({ w with localTable := w.localTable.deregister name }, [])

theorem Fallback.clients_report (task : Fallback) (reply : Option Bytes) :
    (task.report reply).clients = task.clients := by
  cases reply <;> rfl

theorem Worker.finish_eq_some {w w' : Worker} {task : Nat} {reply : Option Bytes} :
    w.finish task reply = some w' ↔
      ∃ fallback tcpEvents, w.fallbacks[task]? = some fallback ∧ reply.all isFramed = true ∧
        w.tcpEvents.push (fallback.report reply) = some tcpEvents ∧
        w' = { w with fallbacks := w.fallbacks.eraseIdx task, tcpEvents := tcpEvents } := by
  simp only [Worker.finish, Option.bind_eq_bind, Option.bind_eq_some_iff]
  constructor
  · intro ⟨fallback, found, h⟩
    split at h
    · simp at h
    · rename_i framed
      simp only [Option.bind_eq_some_iff, Option.some.injEq] at h
      obtain ⟨tcpEvents, pushed, same⟩ := h
      exact ⟨fallback, tcpEvents, found, by simpa using framed, pushed, same.symm⟩
  · intro ⟨fallback, tcpEvents, found, framed, pushed, same⟩
    refine ⟨fallback, found, ?_⟩
    simp [framed, pushed, same]

/-- The queries that an event brings. -/
def Event.arrival (ticket : Nat) : Event → List Received
  | .query transport peer bytes => [⟨transport.origin ticket peer, bytes⟩]
  | _ => []

/-- One step of the system. -/
def System.step (s : System) (label : Env × Event) : Option System :=
  if label.1.Allowed s then
    (s.worker.handle lib label.1 s.received.length label.2).map fun result =>
      { now := label.1.now
        worker := result.1
        received := s.received ++ label.2.arrival s.received.length
        sent := s.sent ++ result.2 }
  else none

/-- The system when the loop begins. -/
def System.init : System := ⟨0, .init, [], []⟩

end TrimRouter.Dns
