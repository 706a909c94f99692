import TrimRouter.Dns.Questions
import TrimRouter.Dns.Replies

/-!
# The size of a forwarded answer

One response can go to many clients, each with its own id and its own limit on the size of a
datagram.  The limit of a client is that of the query that it sent, wherever the client has been in
the meantime: in a pending query, moved to another resolver, in a task of the fallback to TCP or in
its report.  The result is `replies_fit_clients`.
-/

namespace TrimRouter.Dns

open Run
open Uncompressed (library emit ofText documented minuteAnswer laptop phone)

/-! ## One client -/

/-- The size of the datagrams that the sender of a query takes. -/
def IsLimit (lib : Hickory) (query : Bytes) (limit : Nat) : Prop :=
  ∃ message, lib.fromBytes query = some message ∧
    (message.edns = none ∧ limit = 512 ∨
      ∃ size, message.edns = some size ∧ limit = max 512 (min size.toNat 4096))

/-- What the sender of a query gets of a response: over TCP all of it, and over UDP what fits into
a datagram, either all of it or a reply that says that there is more. -/
def ReplyTo (lib : Hickory) (received : Received) (response reply : Bytes) : Prop :=
  match received.origin with
  | .tcp _ _ => reply = setXid (xid received.query) response
  | .udp _ _ => ∃ limit, IsLimit lib received.query limit ∧ reply.length ≤ limit ∧
      (response.length ≤ limit → reply = setXid (xid received.query) response) ∧
      (limit < response.length → tcBit reply = true ∧ xid reply = xid received.query)

variable {lib : Hickory} {response reply query : Bytes} {limit : Nat} {n : BitVec 16}
  {received : Received}

theorem tcBit_cutToHeader (long : dnsHeaderSize ≤ response.length) :
    tcBit (cutToHeader response) = true := by
  rw [cutToHeader, if_pos long]
  rcases response with - | ⟨a, - | ⟨b, - | ⟨c, rest⟩⟩⟩
  · simp [dnsHeaderSize] at long
  · simp [dnsHeaderSize] at long
  · simp [dnsHeaderSize] at long
  · simp [tcBit, dnsHeaderSize]

theorem xid_eq_of_take_two {bytes other : Bytes} (long : 2 ≤ bytes.length)
    (long' : 2 ≤ other.length) (same : bytes.take 2 = other.take 2) : xid bytes = xid other := by
  rw [take_two_eq long, take_two_eq long'] at same
  have ids := congrArg xid same
  have written : ∀ n : BitVec 16, xid (toBeBytes n) = n := fun n => by
    simpa using xid_toBeBytes_append (n := n) []
  rwa [written, written] at ids

theorem prepareClientResponse_of_lt (doc : lib.Documented) (long : dnsHeaderSize ≤ response.length)
    (room : dnsHeaderSize ≤ limit) (cut : limit < response.length) :
    (prepareClientResponse lib response limit).length ≤ limit ∧
      dnsHeaderSize ≤ (prepareClientResponse lib response limit).length ∧
      tcBit (prepareClientResponse lib response limit) = true := by
  have header : (cutToHeader response).length = dnsHeaderSize := length_cutToHeader long
  have marked := tcBit_cutToHeader long
  rw [prepareClientResponse, if_neg (Nat.not_le_of_lt cut)]
  split
  · rename_i message _
    simp only
    split
    · rename_i fits
      obtain ⟨whole, -, tc⟩ := doc.emit (lib.truncate message)
      exact ⟨fits, whole, tc.trans (doc.truncate message).2⟩
    · exact ⟨header.le.trans room, header.ge, marked⟩
  · exact ⟨header.le.trans room, header.ge, marked⟩

theorem extractClientMaxPayload_isLimit (parsed : lib.fromBytes query ≠ none) :
    IsLimit lib query (extractClientMaxPayload lib query) := by
  obtain ⟨message, read⟩ := Option.ne_none_iff_exists'.mp parsed
  refine ⟨message, read, ?_⟩
  rw [extractClientMaxPayload, read, Option.bind_some]
  cases edns : message.edns with
  | none => exact .inl ⟨rfl, rfl⟩
  | some size => exact .inr ⟨size, rfl, rfl⟩

theorem IsLimit.header_le (isLimit : IsLimit lib query limit) : dnsHeaderSize ≤ limit := by
  obtain ⟨message, -, ⟨-, rfl⟩ | ⟨size, -, rfl⟩⟩ := isLimit
  · decide
  · exact le_trans (by decide) (le_max_left 512 _)

theorem replyTo_sendReply (doc : lib.Documented) (long : dnsHeaderSize ≤ response.length)
    (parsed : lib.fromBytes received.query ≠ none) :
    ∃ reply, sendReply lib received.origin (setXid (xid received.query) response)
        (some (extractClientMaxPayload lib received.query)) = .reply received.origin reply ∧
      ReplyTo lib received response reply := by
  obtain ⟨origin, query⟩ := received
  cases origin with
  | tcp ticket peerAddr => exact ⟨_, rfl, rfl⟩
  | udp ticket src =>
    have isLimit := extractClientMaxPayload_isLimit parsed
    have whole : dnsHeaderSize ≤ (setXid (xid query) response).length :=
      length_setXid.symm ▸ long
    refine ⟨_, rfl, extractClientMaxPayload lib query, isLimit, ?_⟩
    by_cases fits : response.length ≤ extractClientMaxPayload lib query
    · have same : prepareClientResponse lib (setXid (xid query) response)
          (extractClientMaxPayload lib query) = setXid (xid query) response := by
        rw [prepareClientResponse, length_setXid, if_pos fits]
      rw [same, length_setXid]
      exact ⟨fits, fun _ => rfl, fun cut => absurd fits (Nat.not_le_of_lt cut)⟩
    · obtain ⟨small, header, marked⟩ := prepareClientResponse_of_lt doc whole isLimit.header_le
        (length_setXid.symm ▸ Nat.lt_of_not_le fits)
      refine ⟨small, fun fits' => absurd fits' fits, fun _ => ⟨marked, ?_⟩⟩
      have two : 2 ≤ dnsHeaderSize := by decide
      have id : xid (setXid (xid query) response) = xid query := xid_setXid (two.trans long)
      have kept := xid_eq_of_take_two (two.trans header) (two.trans whole)
        (take_two_prepareClientResponse doc)
      exact kept.trans id

/-! ## The clients that the worker holds -/

variable {env : Env} {w w' : Worker} {event : Event} {sent : List Output} {ticket : Nat}
  {arrived more : List Received} {clients : List PendingClient} {client : PendingClient}

/-- The client of a query that was received and could be read. -/
def ClientOf (lib : Hickory) (arrived : List Received) (client : PendingClient) : Prop :=
  ∃ received ∈ arrived, lib.fromBytes received.query ≠ none ∧
    client = newClient lib received.query received.origin

/-- All clients that the worker holds are those of queries that it received. -/
structure Worker.Serves (lib : Hickory) (arrived : List Received) (w : Worker) : Prop where
  pending : ∀ {x q}, w.pending.lookup x = some q → ∀ client ∈ q.clients, ClientOf lib arrived client
  fallbacks : ∀ {task}, task ∈ w.fallbacks → ∀ client ∈ task.clients, ClientOf lib arrived client
  tcpEvents : ∀ {event}, event ∈ w.tcpEvents.items →
    ∀ client ∈ event.clients, ClientOf lib arrived client

theorem ClientOf.append (isClient : ClientOf lib arrived client) :
    ClientOf lib (arrived ++ more) client := by
  obtain ⟨received, member, readable, same⟩ := isClient
  exact ⟨received, List.mem_append_left _ member, readable, same⟩

theorem parsed_of_getCacheKey {key : String} (asks : getCacheKey lib query = some key) :
    lib.fromBytes query ≠ none := by
  intro unreadable
  simp [getCacheKey, unreadable] at asks

theorem clientOf_arrival {transport : Transport} {peer : SocketAddr} {key : String}
    (asks : getCacheKey lib query = some key) :
    ClientOf lib (arrived ++ Event.arrival ticket (.query transport peer query))
      (newClient lib query (transport.origin ticket peer)) := by
  refine ⟨⟨transport.origin ticket peer, query⟩, ?_, parsed_of_getCacheKey asks, rfl⟩
  exact List.mem_append_right _ List.mem_cons_self

/-- However its clients are moved, the worker serves queries that it received. -/
theorem Step.serves (step : Step lib env ticket w event w' sent) (serves : w.Serves lib arrived) :
    w'.Serves lib (arrived ++ event.arrival ticket) where
  pending found client member := by
    rcases step.sources.pending found client member with
      ⟨transport, peer, query, rfl, asks, rfl⟩ | ⟨old, present, before, -⟩
    · exact clientOf_arrival asks
    · exact (serves.pending present client before).append
  fallbacks listed client member := by
    rcases step.sources.fallbacks listed with before | ⟨query, ⟨_, -, -, present, -⟩, clients, -⟩
    · exact (serves.fallbacks before client member).append
    · exact (serves.pending present client (clients ▸ member)).append
  tcpEvents listed client member := by
    rcases step.sources.tcpEvents listed with
      before | ⟨task, fallback, fetched, -, found, -, rfl⟩
    · exact (serves.tcpEvents before client member).append
    · rw [Fallback.clients_report] at member
      exact (serves.fallbacks (List.mem_of_getElem? found) client member).append

/-- The clients of a delivery are those of queries that were received. -/
theorem Delivers.clientOf (delivers : Delivers lib ticket w event clients response)
    (serves : w.Serves lib arrived) :
    ∀ client ∈ clients, ClientOf lib (arrived ++ event.arrival ticket) client := by
  intro client member
  cases delivers with
  | upstream present => exact (serves.pending present client member).append
  | fallback popped =>
    exact (serves.tcpEvents ((Fifo.mem_of_pop popped).mpr (.inl rfl)) client member).append
  | cached asks found =>
    rw [List.mem_singleton.mp member]
    exact clientOf_arrival asks

/-- The fan-out gives every client a reply to its own query. -/
theorem forall₂_fanoutClientReplies (doc : lib.Documented) (long : dnsHeaderSize ≤ response.length)
    (own : ∀ client ∈ clients, ClientOf lib arrived client) :
    List.Forall₂ (fun client output => ∃ received ∈ arrived, client.origin = received.origin ∧
      ∃ reply, output = .reply received.origin reply ∧ ReplyTo lib received response reply)
      clients (fanoutClientReplies lib clients response) := by
  unfold fanoutClientReplies
  rw [List.forall₂_map_right_iff, List.forall₂_same]
  intro client member
  obtain ⟨received, listed, readable, rfl⟩ := own client member
  exact ⟨received, listed, rfl, replyTo_sendReply doc long readable⟩

/-! ## A run -/

variable {labels : List (Env × Event)} {s t : System} {label : Env × Event}

theorem serves_of_run (run : exec (System.step lib) .init labels = some s) :
    s.worker.Serves lib s.received := by
  have start : System.init.worker.Serves lib System.init.received := ⟨nofun, nofun, nofun⟩
  refine exec_keeps (fun s => s.worker.Serves lib s.received) ?_ start run
  intro s label t serves step
  obtain ⟨-, w, sent, turn, rfl⟩ := Step.of_system step
  exact turn.serves serves

/-- A step sends no replies, or a local answer, or a response with a whole header to all the
clients that wait for it.  Each of these clients has sent a query, and gets a reply that suits its
own query. -/
def RepliesFit (lib : Hickory) (s : System) (event : Event) (t : System) : Prop :=
  ∃ sent, t.sent = s.sent ++ sent ∧
    ((∀ origin reply, .reply origin reply ∉ sent) ∨
      AnsweredLocally lib s.received.length s.worker event sent ∨
      ∃ clients response, Delivers lib s.received.length s.worker event clients response ∧
        dnsHeaderSize ≤ response.length ∧
        List.Forall₂ (fun client output =>
          ∃ received ∈ t.received, client.origin = received.origin ∧
            ∃ reply, output = .reply received.origin reply ∧ ReplyTo lib received response reply)
          clients sent)

/-- In every run the replies of every step fit their clients. -/
theorem replies_fit_clients (doc : lib.Documented)
    (run : exec (System.step lib) .init labels = some s)
    (step : System.step lib s label = some t) : RepliesFit lib s label.2 t := by
  obtain ⟨-, w, sent, turn, rfl⟩ := Step.of_system step
  refine ⟨sent, rfl, ?_⟩
  rcases turn.delivers (accounted_exec doc run).framed with silent | local' |
    ⟨clients, response, delivers, long, rfl⟩
  · exact .inl silent
  · exact .inr (.inl local')
  · have own := delivers.clientOf (serves_of_run run)
    exact .inr (.inr ⟨clients, response, delivers, long, forall₂_fanoutClientReplies doc long own⟩)

/-- A response that is too long for a datagram without EDNS. -/
def longAnswer : Message :=
  { minuteAnswer 7 with
    answers := List.replicate 40
      ⟨⟨["www", "org"].map ofText, true⟩, 60, .a (.new 1 2 3 4)⟩ }

/-- The client that asked over UDP gets the question back, and the one that joined it over TCP gets
all forty answers. -/
theorem long_answer_fits :
    ∃ s t, exec (System.step library) .init (joinedRun.take 2) = some s ∧
      System.step library s (⟨2, [8], true, [7], []⟩,
        .upstreamReply (emit longAnswer) ⟨.v4 fallbackDnsServer, dnsPort⟩) = some t ∧
      t.sent.drop s.sent.length =
        [.reply (.udp 0 laptop)
            (emit { longAnswer with id := 0x1111, truncation := true, answers := [] }),
          .reply (.tcp 1 phone) (emit { longAnswer with id := 0x2222 })] ∧
      RepliesFit library s
        (.upstreamReply (emit longAnswer) ⟨.v4 fallbackDnsServer, dnsPort⟩) t := by
  obtain ⟨s, run, t, step, sent⟩ :
      ∃ s, exec (System.step library) .init (joinedRun.take 2) = some s ∧
        ∃ t, System.step library s (⟨2, [8], true, [7], []⟩,
          .upstreamReply (emit longAnswer) ⟨.v4 fallbackDnsServer, dnsPort⟩) = some t ∧
        t.sent.drop s.sent.length =
          [.reply (.udp 0 laptop)
              (emit { longAnswer with id := 0x1111, truncation := true, answers := [] }),
            .reply (.tcp 1 phone) (emit { longAnswer with id := 0x2222 })] := by
    decide +kernel
  exact ⟨s, t, run, step, sent, replies_fit_clients documented run step⟩

end TrimRouter.Dns
