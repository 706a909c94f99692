import TrimRouter.Dns.Steps
import TrimRouter.Dns.Uncompressed
import Mathlib.Data.Multiset.OrderedMonoid

/-!
# One reply for one query

Every query that the worker receives is answered at most once, at its own origin and under
its own transaction id, however the worker moves its client between the pending queries, a
failover, a fallback to TCP and the fan-out of a reply.

A client of the worker is a claim: the origin of its query, and the two bytes with which its reply
has to begin.  The argument counts claims.  What the worker owes together with what it has settled
never exceeds what it has received (`Step.owed` for a step, `accounted_exec` for a run), and the
claims received are all different.  The result is `one_reply_per_query`.
-/

namespace TrimRouter.Dns

open Run
open Uncompressed (library emit askFor documented minuteAnswer laptop phone)

/-! ## Claims -/

/-- What a query may claim: a reply to its origin, beginning with its transaction id. -/
abbrev Claim := ClientOrigin × Bytes

def PendingClient.claim (client : PendingClient) : Claim :=
  (client.origin, toBeBytes client.clientXid)

def Received.claim (received : Received) : Claim := (received.origin, received.query.take 2)

def Output.claim : Output → Option Claim
  | .reply origin response => some (origin, response.take 2)
  | _ => none

/-- The ticket of the query that an output replies to. -/
def Output.ticket : Output → Option Nat
  | .reply origin _ => some origin.ticket
  | _ => none

/-- The claims of a list of clients. -/
def claims (clients : List PendingClient) : Multiset Claim := clients.map PendingClient.claim

/-- The claims that a list of outputs settles. -/
def settled (sent : List Output) : Multiset Claim := sent.filterMap Output.claim

/-- The claims of the clients of the pending queries. -/
def pendingClaims (pending : HashMap (BitVec 16) PendingQuery) : Multiset Claim :=
  HashMap.total (fun query => claims query.clients) pending

/-- The claims of the clients that the worker holds. -/
def Worker.owed (w : Worker) : Multiset Claim :=
  pendingClaims w.pending +
    (w.fallbacks.map fun task => claims task.clients).sum +
    (w.tcpEvents.items.map fun event => claims event.clients).sum

/-! ## The first two bytes of a reply -/

variable {lib : Hickory} {response reply : Bytes} {n : BitVec 16}

theorem take_two_setXid (long : dnsHeaderSize ≤ response.length) :
    (setXid n response).take 2 = toBeBytes n := by
  have two : 2 ≤ response.length := le_trans (by decide) long
  rw [take_two_eq (by rwa [length_setXid]), xid_setXid two]

theorem take_two_cutToHeader : (cutToHeader response).take 2 = response.take 2 := by
  unfold cutToHeader
  split
  · rw [List.take_take]
    rcases response with - | ⟨first, - | ⟨second, rest⟩⟩ <;> simp [dnsHeaderSize]
  · rfl

theorem take_two_prepareClientResponse (doc : lib.Documented) {maxPayload : Nat} :
    (prepareClientResponse lib response maxPayload).take 2 = response.take 2 := by
  unfold prepareClientResponse
  split
  · rfl
  · split
    · rename_i msg parsed
      simp only
      split
      · obtain ⟨long, same⟩ := doc.header parsed
        obtain ⟨emitted, id, -⟩ := doc.emit (lib.truncate msg)
        rw [take_two_eq (le_trans (by decide) emitted), take_two_eq (le_trans (by decide) long),
          id, same, (doc.truncate msg).1]
      · exact take_two_cutToHeader
    · exact take_two_cutToHeader

theorem claim_sendReply (doc : lib.Documented) (origin : ClientOrigin) (response : Bytes)
    (cap : Option Nat) :
    (sendReply lib origin response cap).claim = some (origin, response.take 2) := by
  unfold sendReply
  split
  · split
    · simp only [Output.claim, take_two_prepareClientResponse doc]
    · rfl
  · rfl

theorem settled_sendReply (doc : lib.Documented) {origin : ClientOrigin} {cap : Option Nat} :
    settled [sendReply lib origin response cap] = {(origin, response.take 2)} := by
  simp only [settled, List.filterMap_cons, claim_sendReply doc, List.filterMap_nil,
    Multiset.coe_singleton]

theorem settled_fanoutClientReplies (doc : lib.Documented) {clients : List PendingClient}
    (long : dnsHeaderSize ≤ reply.length) :
    settled (fanoutClientReplies lib clients reply) = claims clients := by
  unfold settled claims fanoutClientReplies
  rw [List.filterMap_map]
  congr 1
  rw [← List.filterMap_eq_map]
  congr 1
  funext client
  simp only [Function.comp_apply, claim_sendReply doc, take_two_setXid long, PendingClient.claim]

/-! ## The claims of pending queries -/

variable {env : Env} {ticket : Nat} {w w' : Worker} {event : Event} {sent : List Output}
  {query : Bytes} {origin : ClientOrigin} {pending : HashMap (BitVec 16) PendingQuery}
  {upstreamXid : BitVec 16} {pendingQuery next : PendingQuery} {output : Output}

@[simp]
theorem settled_nil : settled [] = 0 := rfl

@[simp]
theorem settled_upstream {dest : Ipv4Addr} {payload : Bytes} :
    settled [.upstream dest payload] = 0 := rfl

theorem settled_append {later : List Output} :
    settled (sent ++ later) = settled sent + settled later := by
  simp [settled, List.filterMap_append]

theorem claims_append {clients more : List PendingClient} :
    claims (clients ++ more) = claims clients + claims more := by
  simp [claims]

theorem claims_newClient (long : dnsHeaderSize ≤ query.length) :
    claims [newClient lib query origin] = {(origin, query.take 2)} := by
  rw [take_two_eq (le_trans (by decide) long)]
  rfl

theorem pendingClaims_join (present : pending.lookup upstreamXid = some pendingQuery)
    (client : PendingClient) :
    pendingClaims (pending.insert upstreamXid
      { pendingQuery with clients := pendingQuery.clients ++ [client] }) =
        pendingClaims pending + claims [client] := by
  apply add_right_cancel (b := claims pendingQuery.clients)
  unfold pendingClaims
  rw [HashMap.total_insert_of_some present, claims_append]
  ac_rfl

theorem tryFailoverUpstreamQuery_clients {now : Nat}
    (retry : tryFailoverUpstreamQuery now pendingQuery upstreamXid = some (next, output)) :
    next.clients = pendingQuery.clients ∧ settled [output] = 0 := by
  unfold tryFailoverUpstreamQuery at retry
  split at retry
  · cases retry
  · cases retry
    exact ⟨rfl, rfl⟩

theorem pendingClaims_failover {now : Nat}
    (present : pending.lookup upstreamXid = some pendingQuery)
    (retry : tryFailoverUpstreamQuery now pendingQuery upstreamXid = some (next, output)) :
    pendingClaims (pending.insert upstreamXid next) = pendingClaims pending := by
  have moved := HashMap.total_insert_of_some (f := fun query : PendingQuery => claims query.clients)
    (w := next) present
  simp only [(tryFailoverUpstreamQuery_clients retry).1] at moved
  exact add_right_cancel moved

theorem pendingClaims_erase (present : pending.lookup upstreamXid = some pendingQuery) :
    claims pendingQuery.clients + pendingClaims (pending.erase upstreamXid) =
      pendingClaims pending :=
  HashMap.total_erase (f := fun query : PendingQuery => claims query.clients) present

theorem retryQuery_claims (now : Nat) (acc : HashMap (BitVec 16) PendingQuery × List Output)
    (upstreamXid : BitVec 16) :
    pendingClaims (retryQuery now acc upstreamXid).1 = pendingClaims acc.1 ∧
      settled (retryQuery now acc upstreamXid).2 = settled acc.2 := by
  unfold retryQuery
  split
  · exact ⟨rfl, rfl⟩
  · rename_i present
    split
    · exact ⟨rfl, rfl⟩
    · rename_i retry
      refine ⟨pendingClaims_failover present retry, ?_⟩
      rw [settled_append, (tryFailoverUpstreamQuery_clients retry).2, add_zero]

theorem retryQueries_claims (now : Nat) (list : List (BitVec 16))
    (acc : HashMap (BitVec 16) PendingQuery × List Output) :
    pendingClaims (list.foldl (retryQuery now) acc).1 = pendingClaims acc.1 ∧
      settled (list.foldl (retryQuery now) acc).2 = settled acc.2 := by
  induction list generalizing acc with
  | nil => exact ⟨rfl, rfl⟩
  | cons upstreamXid list ih =>
    obtain ⟨totals, outputs⟩ := retryQuery_claims now acc upstreamXid
    rw [List.foldl_cons, (ih _).1, (ih _).2]
    exact ⟨totals, outputs⟩

/-- Dropping and retrying queries adds no claim and settles none. -/
theorem checkPendingTimeouts_claims (now : Nat) (order : List (BitVec 16))
    (pending : HashMap (BitVec 16) PendingQuery) :
    pendingClaims (checkPendingTimeouts now order pending).1 ≤ pendingClaims pending ∧
      settled (checkPendingTimeouts now order pending).2 = 0 := by
  unfold checkPendingTimeouts
  simp only [retryQueries_claims]
  exact ⟨HashMap.total_retain_le, rfl⟩

/-! ## One step -/

/-- The claims that come in with an event. -/
def Event.claims (ticket : Nat) (event : Event) : Multiset Claim :=
  (event.arrival ticket).map Received.claim

theorem Worker.Keeps.owed {outside : Bool} (keeps : w.Keeps outside w') : w'.owed = w.owed := by
  unfold Worker.owed
  rw [keeps.pending, keeps.fallbacks, keeps.tcpEvents]

/-- The worker with other pending queries owes the difference. -/
theorem owed_pending {more : Multiset Claim} (keeps : w.Keeps true w')
    (total : pendingClaims pending = pendingClaims w.pending + more) :
    { w' with pending := pending }.owed = w.owed + more := by
  simp only [Worker.owed, total, keeps.fallbacks, keeps.tcpEvents]
  ac_rfl

theorem handleUpstreamTcpEvent_owed (doc : lib.Documented) {event : UpstreamTcpEvent}
    (long : dnsHeaderSize ≤ event.reply.length) :
    (handleUpstreamTcpEvent lib env w event).1.owed +
      settled (handleUpstreamTcpEvent lib env w event).2 = w.owed + claims event.clients := by
  cases event with
  | resolved cacheKey reply clients =>
    have whole : dnsHeaderSize ≤ reply.length := long
    simp only [handleUpstreamTcpEvent, settled_fanoutClientReplies doc whole]
    rfl
  | failed fallbackReply clients =>
    have whole : dnsHeaderSize ≤ fallbackReply.length := long
    simp only [handleUpstreamTcpEvent, settled_fanoutClientReplies doc whole]
    rfl

theorem Step.owed (doc : lib.Documented) (step : Step lib env ticket w event w' sent)
    (framed : w.Framed) :
    w'.owed + settled sent ≤ w.owed + event.claims ticket := by
  cases step with
  | quiet keeps =>
    rw [keeps.owed, settled_nil, add_zero]
    exact le_self_add
  | localReply keeps resolved =>
    rw [keeps.owed, settled_sendReply doc, take_two_tryResolveLocalQuery doc resolved]
    exact le_rfl
  | hit keeps long _ found _ =>
    rw [keeps.owed, settled_sendReply doc, take_two_setXid (framed.cache found),
      ← take_two_eq (le_trans (by decide) long)]
    exact le_rfl
  | join keeps long _ present _ _ =>
    rw [settled_nil, add_zero, owed_pending keeps (pendingClaims_join present _),
      claims_newClient long]
    exact le_rfl
  | forward keeps long key drawn =>
    rename_i transport peer query w' cacheKey upstreamXid
    have total : pendingClaims (w.pending.insert upstreamXid
        (newPendingQuery lib env w query (transport.origin ticket peer) cacheKey)) =
          pendingClaims w.pending +
            claims [newClient lib query (transport.origin ticket peer)] := by
      unfold pendingClaims
      rw [HashMap.total_insert_of_none (allocateUniqueXid_eq_some drawn).2.2, add_comm]
      rfl
    rw [settled_upstream, add_zero, owed_pending keeps total, claims_newClient long]
    exact le_rfl
  | truncated _ present _ _ =>
    -- the clients move from the pending query to the task
    apply le_of_eq
    simp only [Worker.owed, ← pendingClaims_erase present, settled_nil, List.map_append,
      List.sum_append, List.map_cons, List.map_nil, List.sum_singleton, add_zero]
    simp only [spawnUpstreamTcpFallback, Event.claims, Event.arrival, List.map_nil,
      Multiset.coe_nil, add_zero]
    ac_rfl
  | failover _ present _ _ _ _ retry =>
    rw [(tryFailoverUpstreamQuery_clients retry).2, add_zero]
    simp only [Worker.owed, pendingClaims_failover present retry]
    exact le_self_add
  | settle long present _ _ _ _ =>
    apply le_of_eq
    simp only [settleQuery, settled_fanoutClientReplies doc long, Worker.owed,
      ← pendingClaims_erase present]
    simp only [Event.claims, Event.arrival, List.map_nil, Multiset.coe_nil, add_zero]
    ac_rfl
  | fetched found whole pushed =>
    rename_i task reply fallback tcpEvents
    obtain ⟨inside, rfl⟩ := List.getElem?_eq_some_iff.mp found
    have moved := ((List.getElem_cons_eraseIdx_perm inside).map
      fun task => claims task.clients).sum_eq
    rw [List.map_cons, List.sum_cons] at moved
    apply le_of_eq
    simp only [Worker.owed, (Fifo.push_eq_some.mp pushed).2, List.map_append, List.sum_append,
      List.map_cons, List.map_nil, List.sum_singleton, Fallback.clients_report, ← moved,
      settled_nil, Event.claims, Event.arrival, Multiset.coe_nil, add_zero]
    generalize ((w.fallbacks.eraseIdx task).map fun task => claims task.clients).sum = tasks
    generalize (w.tcpEvents.items.map fun event => claims event.clients).sum = events
    ac_rfl
  | tcpEvent popped =>
    rename_i event tcpEvents
    have items := Fifo.pop_eq_some.mp popped
    have whole : dnsHeaderSize ≤ event.reply.length :=
      framed.tcpEvents ((Fifo.mem_of_pop popped).mpr (.inl rfl))
    apply le_of_eq
    rw [handleUpstreamTcpEvent_owed doc whole]
    simp only [Worker.owed, items, List.map_cons, List.sum_cons, Event.claims, Event.arrival,
      List.map_nil, Multiset.coe_nil, add_zero]
    ac_rfl
  | tick =>
    obtain ⟨totals, nothing⟩ := checkPendingTimeouts_claims env.now env.pendingOrder w.pending
    have silent : settled (cleanupTick env w).2 = 0 := nothing
    rw [silent, add_zero]
    apply le_trans _ le_self_add
    exact add_le_add (add_le_add totals le_rfl) le_rfl

/-! ## A run -/

/-- What is owed and what was settled was received, and the queries received have their
places as tickets. -/
structure System.Accounted (s : System) : Prop where
  framed : s.worker.Framed
  owed : s.worker.owed + settled s.sent ≤ (s.received.map Received.claim : List Claim)
  tickets : s.received.map (·.origin.ticket) = List.range s.received.length

theorem accounted_init : System.init.Accounted where
  framed := ⟨nofun, nofun, nofun⟩
  owed := le_rfl
  tickets := rfl

theorem Transport.ticket_origin (transport : Transport) (ticket : Nat) (peer : SocketAddr) :
    (transport.origin ticket peer).ticket = ticket := by
  cases transport <;> rfl

theorem Event.tickets_arrival (event : Event) (received : List Received)
    (tickets : received.map (·.origin.ticket) = List.range received.length) :
    (received ++ event.arrival received.length).map (·.origin.ticket) =
      List.range (received ++ event.arrival received.length).length := by
  cases event with
  | query transport peer bytes =>
    simp only [Event.arrival, List.map_append, tickets, List.map_cons, List.map_nil,
      Transport.ticket_origin, List.length_append, List.length_singleton, List.range_succ]
  | _ => simpa [Event.arrival] using tickets

theorem accounted_step (doc : lib.Documented) {s t : System} {label : Env × Event}
    (accounted : s.Accounted) (step : System.step lib s label = some t) : t.Accounted := by
  obtain ⟨allowed, w, sent, turn, rfl⟩ := Step.of_system step
  refine ⟨turn.framed accounted.framed, ?_, label.2.tickets_arrival _ accounted.tickets⟩
  have added := turn.owed doc accounted.framed
  rw [settled_append, List.map_append, ← Multiset.coe_add]
  calc w.owed + (settled s.sent + settled sent)
      = (w.owed + settled sent) + settled s.sent := by ac_rfl
    _ ≤ (s.worker.owed + label.2.claims s.received.length) + settled s.sent :=
        add_le_add added le_rfl
    _ = (s.worker.owed + settled s.sent) + label.2.claims s.received.length := by ac_rfl
    _ ≤ _ := add_le_add accounted.owed le_rfl

theorem accounted_exec (doc : lib.Documented) {labels : List (Env × Event)} {s : System}
    (run : exec (System.step lib) .init labels = some s) : s.Accounted :=
  exec_keeps System.Accounted (fun _ _ _ accounted => accounted_step doc accounted) accounted_init
    run

theorem settled_tickets (sent : List Output) :
    (settled sent).map (·.1.ticket) = (sent.filterMap Output.ticket : List Nat) := by
  unfold settled
  rw [Multiset.map_coe, List.map_filterMap]
  congr 2
  funext output
  cases output <;> rfl

/-- In every run the replies belong to different queries, and each goes to the origin of its
query and begins with the transaction id of its query. -/
theorem one_reply_per_query (doc : lib.Documented) {labels : List (Env × Event)} {s : System}
    (run : exec (System.step lib) .init labels = some s) :
    (s.sent.filterMap Output.ticket).Nodup ∧
      ∀ origin response, .reply origin response ∈ s.sent →
        ∃ query, s.received[origin.ticket]? = some ⟨origin, query⟩ ∧
          response.take 2 = query.take 2 := by
  have accounted := accounted_exec doc run
  have claimed : settled s.sent ≤ (s.received.map Received.claim : List Claim) :=
    le_trans le_add_self accounted.owed
  constructor
  · have tickets := Multiset.map_le_map (f := fun claim : Claim => claim.1.ticket) claimed
    rw [settled_tickets, Multiset.map_coe, List.map_map] at tickets
    apply Multiset.coe_nodup.mp
    apply Multiset.nodup_of_le tickets
    have range : s.received.map ((fun claim : Claim => claim.1.ticket) ∘ Received.claim) =
        List.range s.received.length := accounted.tickets
    rw [range]
    exact Multiset.coe_nodup.mpr List.nodup_range
  · intro origin response replied
    have settledHere : (origin, response.take 2) ∈ settled s.sent :=
      Multiset.mem_coe.mpr (List.mem_filterMap.mpr ⟨_, replied, rfl⟩)
    have received := Multiset.mem_coe.mp (Multiset.mem_of_le claimed settledHere)
    obtain ⟨⟨origin', query⟩, member, same⟩ := List.mem_map.mp received
    obtain ⟨rfl, bytes⟩ := Prod.ext_iff.mp same
    obtain ⟨i, inside, found⟩ := List.getElem_of_mem member
    refine ⟨query, ?_, bytes.symm⟩
    have place := congrArg (fun tickets => tickets[i]?) accounted.tickets
    simp only [List.getElem?_map, List.getElem?_eq_getElem inside, found, Option.map_some,
      List.getElem?_range inside, Option.some.injEq] at place
    change s.received[origin'.ticket]? = some ⟨origin', query⟩
    rw [place, List.getElem?_eq_getElem inside, found]

/-- A client asks over UDP, another one joins it over TCP, and the resolver answers. -/
def joinedRun : List (Env × Event) :=
  [(⟨0, [7], true, [], []⟩, .query .udp laptop (emit (askFor 0x1111 ["www", "org"] .a))),
   (⟨1, [8], true, [7], []⟩, .query .tcp phone (emit (askFor 0x2222 ["WWW", "org"] .a))),
   (⟨2, [8], true, [7], []⟩, .upstreamReply (emit (minuteAnswer 7))
      ⟨.v4 fallbackDnsServer, dnsPort⟩)]

/-- Both clients are answered once, each under its own id. -/
theorem joined_clients_answered_once :
    ∃ s, exec (System.step library) .init joinedRun = some s ∧
      s.sent.filterMap Output.claim =
        [(.udp 0 laptop, [0x11, 0x11]), (.tcp 1 phone, [0x22, 0x22])] ∧
      (s.sent.filterMap Output.ticket).Nodup ∧
      ∀ origin response, .reply origin response ∈ s.sent →
        ∃ query, s.received[origin.ticket]? = some ⟨origin, query⟩ ∧
          response.take 2 = query.take 2 := by
  have replies : (exec (System.step library) .init joinedRun).map
      (fun s => s.sent.filterMap Output.claim) =
        some [(.udp 0 laptop, [0x11, 0x11]), (.tcp 1 phone, [0x22, 0x22])] := by
    decide +kernel
  obtain ⟨s, run, claims⟩ := Option.map_eq_some_iff.mp replies
  exact ⟨s, run, claims, one_reply_per_query documented run⟩

end TrimRouter.Dns
