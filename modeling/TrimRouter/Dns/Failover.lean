import TrimRouter.Dns.PanicFree
import Mathlib.Data.List.Chain

/-!
# The order of the resolvers

A pending query goes through its resolvers one after the other.  What moves it on is a reply of the
resolver in charge or the cleanup timer, and the two come in any order.  The lifetime of a query is
the part of a run from the step that forwards it to the step that ends it; the contacts under its id
in that time are all the datagrams that are sent for it.  The result is `failover_in_order`; every
pending query of a reachable state is in its lifetime (`exists_lifetime`).
-/

namespace TrimRouter.Dns

open Run
open Uncompressed (library)

/-- A datagram to a resolver, with the time and the event of the step that sends it. -/
structure Contact where
  time : Nat
  cause : Event
  dest : Ipv4Addr
  payload : Bytes
deriving DecidableEq

/-- The contact that an output makes under an id. -/
def Output.contact (x : BitVec 16) (label : Env × Event) : Output → Option Contact
  | .upstream dest payload =>
    if xid payload = x then some ⟨label.1.now, label.2, dest, payload⟩ else none
  | _ => none

/-- The contacts that a run makes under an id. -/
def contacts (lib : Hickory) (x : BitVec 16) : System → List (Env × Event) → List Contact
  | _, [] => []
  | s, label :: labels =>
    match System.step lib s label with
    | none => []
    | some t =>
      (t.sent.drop s.sent.length).filterMap (Output.contact x label) ++ contacts lib x t labels

/-- The second contact follows because the first one failed: it had three seconds for an answer,
or it has just answered that it failed or refuses. -/
def FollowsFailure (lib : Hickory) (x : BitVec 16) (c c' : Contact) : Prop :=
  c'.cause = .tick ∧ c.time + upstreamTimeout ≤ c'.time ∨
    ∃ reply msg, c'.cause = .upstreamReply reply ⟨.v4 c.dest, dnsPort⟩ ∧ xid reply = x ∧
      tcBit reply = false ∧ lib.fromBytes reply = some msg ∧ msg.responseCode.failsOver = true

/-- The contacts are the first `k` resolvers of the list, in order and once each, with the bytes
of the query under the id, and each but the first follows a failure. -/
structure InOrder (lib : Hickory) (x : BitVec 16) (query : Bytes) (servers : List Ipv4Addr)
    (k : Nat) (log : List Contact) : Prop where
  sent : log.map (fun c => (c.dest, c.payload)) =
    (servers.take k).map fun server => (server, setXid x query)
  failures : log.IsChain (FollowsFailure lib x)

/-- The part of a run in which a query is pending under the id: a reachable state, the step that
forwards the query, and a run that goes on at most up to the step that ends it. -/
structure Lifetime (lib : Hickory) (x : BitVec 16) (s₀ : System) (first : Env × Event)
    (s₁ : System) (labels : List (Env × Event)) (t : System) : Prop where
  reached : Reaches (System.step lib) .init s₀
  free : s₀.worker.pending.lookup x = none
  forwarded : System.step lib s₀ first = some s₁
  present : s₁.worker.pending.lookup x ≠ none
  run : exec (System.step lib) s₁ labels = some t
  pending : Meets (System.step lib) (fun s _ => s.worker.pending.lookup x ≠ none) s₁ labels

/-! ## One step -/

variable {lib : Hickory} {env : Env} {ticket : Nat} {w : Worker} {x : BitVec 16} {event : Event}
  {query : Bytes} {servers : List Ipv4Addr} {q q' : PendingQuery} {log : List Contact}
  {sent outputs : List Output} {before after : Option PendingQuery}

theorem filterMap_contact_under {label : Env × Event} :
    sent.filterMap (Output.contact x label) =
      (sent.filter (Output.under x)).filterMap (Output.contact x label) := by
  rw [List.filterMap_filter]
  apply List.filterMap_congr
  intro output member
  cases output with
  | upstream dest payload =>
    by_cases same : xid payload = x <;> simp [Output.contact, Output.under, same]
  | reply | heartbeat => rfl

/-- The query under the id is the one whose contacts are in the log, the last of them with its
resolver in charge, which has time until the deadline. -/
structure Logged (lib : Hickory) (x : BitVec 16) (query : Bytes) (servers : List Ipv4Addr)
    (q : PendingQuery) (log : List Contact) : Prop where
  listed : q.upstreamServers = servers
  payload : q.queryPayload = query
  inOrder : InOrder lib x query servers (q.currentServerIdx + 1) log
  latest : ∃ c, log.getLast? = some c ∧ q.currentServer = some c.dest ∧
    q.deadline = c.time + upstreamTimeout

/-- The query moves on because its resolver has failed. -/
theorem Fails.followsFailure {c : Contact} {dest : Ipv4Addr} {payload : Bytes}
    (fails : Fails lib env x q event) (inCharge : q.currentServer = some c.dest)
    (deadline : q.deadline = c.time + upstreamTimeout) :
    FollowsFailure lib x c ⟨env.now, event, dest, payload⟩ := by
  cases fails with
  | timedOut late => exact .inl ⟨rfl, deadline ▸ late⟩
  | @refused reply server msg same current tc parsed code =>
    cases inCharge.symm.trans current
    exact .inr ⟨reply, msg, rfl, same, tc, parsed, code⟩

theorem Logged.move {target : Ipv4Addr} (logged : Logged lib x query servers q log)
    (fails : Fails lib env x q event)
    (next : q.upstreamServers[q.currentServerIdx + 1]? = some target) :
    Logged lib x query servers
      { q with
        currentServerIdx := q.currentServerIdx + 1, deadline := env.now + upstreamTimeout }
      (log ++ [⟨env.now, event, target, setXid x query⟩]) := by
  obtain ⟨rfl, payload, ⟨sent, failures⟩, c, last, inCharge, deadline⟩ := logged
  refine ⟨rfl, payload, ⟨?_, ?_⟩, _, List.getLast?_concat, next, rfl⟩
  · have longer : q.upstreamServers.take (q.currentServerIdx + 1 + 1) =
        q.upstreamServers.take (q.currentServerIdx + 1) ++ [target] := by
      refine List.take_add_one.trans ?_
      rw [next]
      rfl
    rw [List.map_append, sent]
    change _ = List.map _ (List.take (q.currentServerIdx + 1 + 1) _)
    rw [longer, List.map_append]
    rfl
  · refine List.isChain_append.mpr ⟨failures, List.isChain_singleton _, ?_⟩
    intro c' here c'' there
    cases last.symm.trans here
    cases there
    exact fails.followsFailure inCharge deadline

theorem Logged.step (logged : Logged lib x query servers q log)
    (long : dnsHeaderSize ≤ query.length)
    (evolves : Evolves lib env ticket w x event (some q) after outputs) :
    (∀ q', after = some q' → Logged lib x query servers q'
      (log ++ outputs.filterMap (Output.contact x (env, event)))) ∧
      (after = none → outputs = []) := by
  have two : 2 ≤ query.length := le_trans (by decide) long
  cases evolves with
  | stays =>
    refine ⟨?_, nofun⟩
    rintro q' ⟨⟩
    simpa using logged
  | joined client room =>
    refine ⟨?_, nofun⟩
    rintro q' ⟨⟩
    rw [List.filterMap_nil, List.append_nil]
    exact ⟨logged.listed, logged.payload, logged.inOrder, logged.latest⟩
  | @moved _ target fails next =>
    refine ⟨?_, nofun⟩
    rintro q' ⟨⟩
    have datagram : [Output.upstream target (setXid x q.queryPayload)].filterMap
        (Output.contact x (env, event)) = [⟨env.now, event, target, setXid x query⟩] := by
      simp [Output.contact, logged.payload, xid_setXid two]
    rw [datagram]
    exact logged.move fails next
  | closed => exact ⟨nofun, fun _ => rfl⟩

/-- The log of a query begins with the first resolver of its list. -/
theorem Logged.of_opened (evolves : Evolves lib env ticket w x event none (some q) outputs) :
    ∃ transport peer query, event = .query transport peer query ∧
      dnsHeaderSize ≤ query.length ∧
      Logged lib x query (getUpstreamResolvers w.upstreamServers) q
        (outputs.filterMap (Output.contact x (env, event))) := by
  cases evolves with
  | @opened transport peer query cacheKey asked long drawn =>
    have two : 2 ≤ query.length := le_trans (by decide) long
    refine ⟨transport, peer, query, asked, long, ?_⟩
    cases servers : getUpstreamResolvers w.upstreamServers with
    | nil => exact absurd servers getUpstreamResolvers_ne_nil
    | cons server rest =>
      have datagram : [Output.upstream ((server :: rest).headD fallbackDnsServer)
          (setXid x query)].filterMap (Output.contact x (env, event)) =
            [⟨env.now, event, server, setXid x query⟩] := by
        simp [Output.contact, xid_setXid two]
      rw [datagram]
      exact ⟨servers, rfl, ⟨rfl, List.isChain_singleton _⟩, _, rfl,
        congrArg (fun list : List Ipv4Addr => list[0]?) servers, rfl⟩

/-! ## A lifetime -/

variable {s s₀ s₁ t u : System} {label first : Env × Event} {labels : List (Env × Event)}

theorem System.evolves (sound : s.worker.SoundPending) (taken : System.step lib s label = some t)
    (x : BitVec 16) :
    ∃ outputs, Evolves lib label.1 s.received.length s.worker x label.2
        (s.worker.pending.lookup x) (t.worker.pending.lookup x) outputs ∧
      (t.sent.drop s.sent.length).filterMap (Output.contact x label) =
        outputs.filterMap (Output.contact x label) := by
  obtain ⟨⟨-, -, visits, -⟩, w, sent, turn, rfl⟩ := Step.of_system taken
  refine ⟨_, turn.evolves visits (fun y q present => (sound.queries y q present).long) x, ?_⟩
  rw [List.drop_left, filterMap_contact_under]

theorem contacts_cons (taken : System.step lib s label = some t) :
    contacts lib x s (label :: labels) =
      (t.sent.drop s.sent.length).filterMap (Output.contact x label) ++
        contacts lib x t labels := by
  rw [contacts, taken]

theorem Logged.run (logged : Logged lib x query servers q log)
    (long : dnsHeaderSize ≤ query.length) (sound : s.worker.SoundPending)
    (present : s.worker.pending.lookup x = some q)
    (run : exec (System.step lib) s labels = some t)
    (pending : Meets (System.step lib) (fun s _ => s.worker.pending.lookup x ≠ none) s labels) :
    (∀ q', t.worker.pending.lookup x = some q' →
      Logged lib x query servers q' (log ++ contacts lib x s labels)) ∧
      ∃ k, 0 < k ∧ k ≤ servers.length ∧
        InOrder lib x query servers k (log ++ contacts lib x s labels) := by
  have inside : q.currentServerIdx + 1 ≤ servers.length :=
    logged.listed ▸ (sound.queries x q present).inCharge
  induction labels generalizing s q log with
  | nil =>
    cases run
    rw [contacts, List.append_nil]
    refine ⟨?_, q.currentServerIdx + 1, Nat.succ_pos _, inside, logged.inOrder⟩
    intro q' here
    cases present.symm.trans here
    exact logged
  | cons label rest ih =>
    obtain ⟨u, taken, onward⟩ := exec_cons_eq_some.mp run
    obtain ⟨outputs, evolves, new⟩ := System.evolves sound taken x
    rw [present] at evolves
    obtain ⟨goesOn, ends⟩ := logged.step long evolves
    have soundNext := System.soundPending_step sound taken
    rw [contacts_cons taken, new, ← List.append_assoc]
    cases found : u.worker.pending.lookup x with
    | some q' =>
      have loggedNext := goesOn q' found
      exact ih loggedNext soundNext found onward (pending.2 u taken)
        (loggedNext.listed ▸ (soundNext.queries x q' found).inCharge)
    | none =>
      -- the query has ended, so this is the last step
      cases rest with
      | cons next rest => exact absurd found (pending.2 u taken).1
      | nil =>
        cases onward
        rw [ends found, List.filterMap_nil, List.append_nil, contacts, List.append_nil]
        refine ⟨?_, q.currentServerIdx + 1, Nat.succ_pos _, inside, logged.inOrder⟩
        intro q' here
        cases found.symm.trans here

/-- A failure that clients get comes from a resolver without a next one. -/
theorem Step.passed {w' : Worker} {reply response : Bytes}
    {fromAddr : SocketAddr} {msg : Message} {origin : ClientOrigin}
    (step : Step lib env ticket w (.upstreamReply reply fromAddr) w' sent)
    (tc : tcBit reply = false) (parsed : lib.fromBytes reply = some msg)
    (code : msg.responseCode.failsOver = true) (passed : .reply origin response ∈ sent) :
    ∃ q server, w.pending.lookup (xid reply) = some q ∧ q.currentServer = some server ∧
      fromAddr = ⟨.v4 server, dnsPort⟩ ∧ q.upstreamServers[q.currentServerIdx + 1]? = none := by
  cases step with
  | quiet keeps => cases passed
  | truncated long present inCharge cut => cases tc.symm.trans cut
  | failover long present inCharge whole read fails retry =>
    obtain ⟨target, -, -, rfl⟩ := tryFailoverUpstreamQuery_eq_some retry
    cases List.mem_singleton.mp passed
  | @settle reply q server msg' long present inCharge whole read final =>
    cases parsed.symm.trans read
    refine ⟨q, server, present, inCharge, rfl, ?_⟩
    have last := final code
    unfold tryFailoverUpstreamQuery at last
    split at last
    · assumption
    · cases last

/-- The resolver in charge of a query without a further one is the last of its list. -/
theorem getLast?_of_last {server : Ipv4Addr} (inCharge : q.currentServer = some server)
    (last : q.upstreamServers[q.currentServerIdx + 1]? = none) :
    q.upstreamServers.getLast? = some server := by
  have inside := (List.getElem?_eq_some_iff.mp inCharge).1
  have outside := List.getElem?_eq_none_iff.mp last
  have place : q.upstreamServers.length - 1 = q.currentServerIdx := by omega
  rw [List.getLast?_eq_getElem?, place]
  exact inCharge

/-- In every lifetime of a pending query, whatever replies and timeouts come: the datagrams sent
for it go to a front part of its resolver list, in order and once to each position, with the bytes
of the client under the one id; each resolver but the first is asked because the one before it
timed out or answered `SERVFAIL` or `REFUSED`; and such an answer, if it is not truncated, is
passed on to clients only if it came from the last resolver of the list. -/
theorem failover_in_order (life : Lifetime lib x s₀ first s₁ labels t) :
    ∃ transport peer query, first.2 = .query transport peer query ∧
      (∃ k, 0 < k ∧ k ≤ (getUpstreamResolvers s₀.worker.upstreamServers).length ∧
        (contacts lib x s₀ (first :: labels)).map (fun c => (c.dest, c.payload)) =
          ((getUpstreamResolvers s₀.worker.upstreamServers).take k).map
            fun server => (server, setXid x query)) ∧
      (contacts lib x s₀ (first :: labels)).IsChain (FollowsFailure lib x) ∧
      ∀ done label rest s u reply fromAddr msg origin response,
        labels = done ++ label :: rest → exec (System.step lib) s₁ done = some s →
        System.step lib s label = some u → label.2 = .upstreamReply reply fromAddr →
        xid reply = x → tcBit reply = false → lib.fromBytes reply = some msg →
        msg.responseCode.failsOver = true →
        .reply origin response ∈ u.sent.drop s.sent.length →
          ∃ last, (getUpstreamResolvers s₀.worker.upstreamServers).getLast? = some last ∧
            fromAddr = ⟨.v4 last, dnsPort⟩ := by
  obtain ⟨⟨before, reached⟩, free, forwarded, present, run, pending⟩ := life
  have sound₀ := soundPending_of_run reached
  have sound₁ := System.soundPending_step sound₀ forwarded
  obtain ⟨outputs, evolves, new⟩ := System.evolves sound₀ forwarded x
  obtain ⟨q, found⟩ := Option.ne_none_iff_exists'.mp present
  rw [free, found] at evolves
  obtain ⟨transport, peer, query, asked, long, logged⟩ := Logged.of_opened evolves
  refine ⟨transport, peer, query, asked, ?_, ?_, ?_⟩
  · obtain ⟨k, positive, inside, inOrder⟩ := (logged.run long sound₁ found run pending).2
    rw [contacts_cons forwarded, new]
    exact ⟨k, positive, inside, inOrder.sent⟩
  · obtain ⟨k, -, -, inOrder⟩ := (logged.run long sound₁ found run pending).2
    rw [contacts_cons forwarded, new]
    exact inOrder.failures
  · rintro done label rest s u reply fromAddr msg origin response rfl part taken event rfl tc
      parsed code passed
    obtain ⟨-, w, sent, turn, rfl⟩ := Step.of_system taken
    rw [List.drop_left] at passed
    rw [event] at turn
    obtain ⟨q', server, here, inCharge, source, last⟩ := turn.passed tc parsed code passed
    have loggedHere := (logged.run long sound₁ found part
      ((meets_append part).mp pending).1).1 q' here
    refine ⟨server, ?_, source⟩
    rw [← loggedHere.listed]
    exact getLast?_of_last inCharge last

/-- The query of a client goes to the first of two resolvers, which does not answer for three
seconds, and then to the second one. -/
theorem moved_query_in_order :
    ∃ s₀ s₁ t, Lifetime library 7 s₀ (movedRun[1]) s₁ [movedRun[2]] t ∧
      (contacts library 7 s₀ [movedRun[1], movedRun[2]]).map (·.dest) =
        [.new 9 9 9 9, .new 1 1 1 1] ∧
      (contacts library 7 s₀ [movedRun[1], movedRun[2]]).IsChain
        (FollowsFailure library 7) := by
  obtain ⟨s₀, reached, free, s₁, forwarded, present, runs, dests⟩ :
      ∃ s₀, exec (System.step library) .init [movedRun[0]] = some s₀ ∧
        s₀.worker.pending.lookup 7 = none ∧
        ∃ s₁, System.step library s₀ (movedRun[1]) = some s₁ ∧
          (s₁.worker.pending.lookup 7).isSome ∧
          (exec (System.step library) s₁ [movedRun[2]]).isSome ∧
          (contacts library 7 s₀ [movedRun[1], movedRun[2]]).map (·.dest) =
            [.new 9 9 9 9, .new 1 1 1 1] := by
    decide +kernel
  obtain ⟨t, run⟩ := Option.isSome_iff_exists.mp runs
  have life : Lifetime library 7 s₀ (movedRun[1]) s₁ [movedRun[2]] t :=
    ⟨⟨_, reached⟩, free, forwarded, Option.isSome_iff_ne_none.mp present, run,
      Option.isSome_iff_ne_none.mp present, fun _ _ => trivial⟩
  obtain ⟨-, -, -, -, -, failures, -⟩ := failover_in_order life
  exact ⟨s₀, s₁, t, life, dests, failures⟩

/-- Every pending query of a reachable state is in its lifetime. -/
theorem exists_lifetime (run : exec (System.step lib) .init labels = some t)
    (present : t.worker.pending.lookup x ≠ none) :
    ∃ before first after s₀ s₁, labels = before ++ first :: after ∧
      exec (System.step lib) .init before = some s₀ ∧ Lifetime lib x s₀ first s₁ after t := by
  have start : ¬(System.init.worker.pending.lookup x ≠ none) := fun found => found rfl
  obtain ⟨before, first, after, s₀, s₁, split, reached, free, forwarded, since, onward, pending⟩ :=
    exists_last_start (P := fun s : System => s.worker.pending.lookup x ≠ none) start present run
  exact ⟨before, first, after, s₀, s₁, split, reached, ⟨before, reached⟩, not_not.mp free,
    forwarded, since, onward, pending⟩

end TrimRouter.Dns
