import TrimRouter.Dns.Steps
import TrimRouter.Dns.Uncompressed

/-!
# Answers and their questions

The cache key comes from the query of a client, the response under it from the network.  The worker
checks the source and the transaction id of a reply, but not that the reply is about the question
that was asked (over TCP it does not look at the id either).  `cached_answers_match` is about
resolvers that answer what they were asked.
-/

namespace TrimRouter.Dns

open Run
open Uncompressed (library emit askFor answer documented minuteAnswer laptop phone)

variable {lib : Hickory} {key : String} {response reply : Bytes} {s t : System}

/-! ## Answering a question -/

/-- The first question of the message, if it can be read, is the one of the key. -/
def Fits (lib : Hickory) (key : String) (reply : Bytes) : Prop :=
  ∀ message, lib.fromBytes reply = some message →
    ∃ question, message.queries.head? = some question ∧ questionKey lib question = key

theorem fits_iff : Fits lib key reply ↔ ((lib.fromBytes reply).all fun message =>
    (message.queries.head?.map (questionKey lib)) == some key) = true := by
  unfold Fits
  cases lib.fromBytes reply with
  | none => simp
  | some message => simp

instance : Decidable (Fits lib key reply) := decidable_of_iff' _ fits_iff

/-- The message is not about another question than the one of the key. -/
def NamesNoOther (lib : Hickory) (key : String) (response : Bytes) : Prop :=
  ∀ message question, lib.fromBytes response = some message →
    message.queries.head? = some question → questionKey lib question = key

/-- The message is a response, and its first question is the one of the key. -/
structure IsAnswerTo (lib : Hickory) (key : String) (response : Bytes) : Prop where
  long : dnsHeaderSize ≤ response.length
  read : ∃ message question, lib.fromBytes response = some message ∧
    message.messageType = .response ∧ message.queries.head? = some question ∧
    questionKey lib question = key

theorem IsAnswerTo.fits (answer : IsAnswerTo lib key response) : Fits lib key response := by
  obtain ⟨-, message, question, parsed, -, first, same⟩ := answer
  intro message' parsed'
  rw [parsed] at parsed'
  cases parsed'
  exact ⟨question, first, same⟩

theorem Fits.namesNoOther (fits : Fits lib key reply) : NamesNoOther lib key reply := by
  intro message question parsed first
  obtain ⟨question', first', same⟩ := fits message parsed
  rw [first] at first'
  cases first'
  exact same

/-- The message fits under whichever id it is sent on.  The library follows the pointers of names
into the id too, so what it reads can depend on it. -/
def FitsAnyId (lib : Hickory) (key : String) (reply : Bytes) : Prop :=
  ∀ n, Fits lib key (setXid n reply)

theorem FitsAnyId.fits (any : FitsAnyId lib key reply) (long : dnsHeaderSize ≤ reply.length) :
    Fits lib key reply :=
  setXid_xid (Nat.le_trans (by decide) long) ▸ any (xid reply)

theorem Fits.anyId_uncompressed (fits : Fits library key reply) :
    FitsAnyId library key reply := by
  intro n message parsed
  rw [Uncompressed.fromBytes_setXid] at parsed
  obtain ⟨original, read, rfl⟩ := Option.map_eq_some_iff.mp parsed
  exact fits original read

theorem namesNoOther_of_length (doc : lib.Documented) (cut : response.length = 12) :
    NamesNoOther lib key response := by
  intro message question parsed first
  rw [(doc.headerOnly parsed cut).1] at first
  cases first

theorem length_cutToHeader (long : dnsHeaderSize ≤ response.length) :
    (cutToHeader response).length = 12 := by
  rw [cutToHeader, if_pos long, List.length_take, List.length_modify]
  exact Nat.min_eq_left long

theorem Fits.prepareClientResponse (doc : lib.Documented) (fits : Fits lib key response)
    (long : dnsHeaderSize ≤ response.length) (maxPayload : Nat) :
    NamesNoOther lib key (prepareClientResponse lib response maxPayload) := by
  unfold Dns.prepareClientResponse
  split
  · exact fits.namesNoOther
  · split
    · rename_i message parsed
      simp only
      split
      · intro rest question reread first
        rw [(doc.truncated parsed reread).1] at first
        exact fits.namesNoOther message question parsed first
      · exact namesNoOther_of_length doc (length_cutToHeader long)
    · exact namesNoOther_of_length doc (length_cutToHeader long)

/-- What a client gets of a reply is not about another question. -/
theorem Fits.sendReply (doc : lib.Documented) (fits : Fits lib key response)
    (long : dnsHeaderSize ≤ response.length) (origin : ClientOrigin) (maxPayload : Nat) :
    ∃ served, sendReply lib origin response (some maxPayload) = .reply origin served ∧
      NamesNoOther lib key served := by
  cases origin with
  | udp ticket src => exact ⟨_, rfl, fits.prepareClientResponse doc long maxPayload⟩
  | tcp ticket peerAddr => exact ⟨_, rfl, fits.namesNoOther⟩

theorem CacheEntry.AdmittedAt.isAnswerTo {entry : CacheEntry} {since : Nat}
    (admitted : entry.AdmittedAt lib since) (fits : Fits lib key entry.response) :
    IsAnswerTo lib key entry.response := by
  obtain ⟨long, packet, parsed, ttl, lifetime, -⟩ := admitted
  obtain ⟨question, first, same⟩ := fits packet parsed
  exact ⟨long, packet, question, parsed, messageType_of_calculateCacheTtl lifetime, first, same⟩

/-! ## The clients of a reply -/

variable {received more : List Received} {origin : ClientOrigin} {clients : List PendingClient}
  {env : Env} {w w' : Worker} {event : Event} {sent : List Output}

/-- The origin is that of a query for the key. -/
def Asked (lib : Hickory) (received : List Received) (key : String) (origin : ClientOrigin) :
    Prop :=
  ∃ query, received[origin.ticket]? = some ⟨origin, query⟩ ∧ getCacheKey lib query = some key

/-- A reply that is meant for clients that asked for it. -/
structure Batch (lib : Hickory) (received : List Received) (key : String) (reply : Bytes)
    (clients : List PendingClient) : Prop where
  long : dnsHeaderSize ≤ reply.length
  fits : FitsAnyId lib key reply
  asked : ∀ client ∈ clients, Asked lib received key client.origin

/-- The event is to be cached under the key, if at all. -/
def UpstreamTcpEvent.Under (key : String) : UpstreamTcpEvent → Prop
  | .resolved cacheKey _ _ => cacheKey = key
  | .failed _ _ => True

/-- The worker holds the answers and the clients of each question apart. -/
structure Worker.Matched (lib : Hickory) (received : List Received) (w : Worker) : Prop where
  cache : ∀ key entry, w.cache.lookup key = some entry →
    IsAnswerTo lib key entry.response ∧ FitsAnyId lib key entry.response
  pending : ∀ upstreamXid query, w.pending.lookup upstreamXid = some query →
    ∀ client ∈ query.clients, Asked lib received query.cacheKey client.origin
  fallbacks : ∀ task ∈ w.fallbacks,
    Batch lib received task.cacheKey task.fallbackReply task.clients
  tcpEvents : ∀ event ∈ w.tcpEvents.items,
    ∃ key, event.Under key ∧ Batch lib received key event.reply event.clients

/-- The reply is a local answer, or it is not about another question than that of its
client. -/
def Answers (lib : Hickory) (received : List Received) (origin : ClientOrigin)
    (response : Bytes) : Prop :=
  ∃ query, received[origin.ticket]? = some ⟨origin, query⟩ ∧
    ((∃ table, tryResolveLocalQuery lib table query = some response) ∨
      ∃ key, getCacheKey lib query = some key ∧ NamesNoOther lib key response)

/-- Every reply among the outputs answers the question of its client. -/
def AllAnswer (lib : Hickory) (received : List Received) (sent : List Output) : Prop :=
  ∀ origin response, .reply origin response ∈ sent → Answers lib received origin response

theorem getElem?_append_of_some {α : Type} {as bs : List α} {i : Nat} {a : α}
    (found : as[i]? = some a) : (as ++ bs)[i]? = some a := by
  obtain ⟨inside, -⟩ := List.getElem?_eq_some_iff.mp found
  rw [List.getElem?_append_left inside, found]

theorem Asked.append (asked : Asked lib received key origin) :
    Asked lib (received ++ more) key origin := by
  obtain ⟨query, found, same⟩ := asked
  exact ⟨query, getElem?_append_of_some found, same⟩

theorem Batch.append (batch : Batch lib received key reply clients) :
    Batch lib (received ++ more) key reply clients :=
  ⟨batch.long, batch.fits, fun client member => (batch.asked client member).append⟩

theorem AllAnswer.append (answer : AllAnswer lib received sent) :
    AllAnswer lib (received ++ more) sent := by
  intro origin response replied
  obtain ⟨query, found, about⟩ := answer origin response replied
  exact ⟨query, getElem?_append_of_some found, about⟩

theorem Batch.fanout (doc : lib.Documented) (batch : Batch lib received key reply clients) :
    AllAnswer lib received (fanoutClientReplies lib clients reply) := by
  intro origin response replied
  obtain ⟨client, member, same⟩ := List.mem_map.mp replied
  obtain ⟨served, sends, about⟩ := (batch.fits client.clientXid).sendReply doc
    (by rw [length_setXid]; exact batch.long) client.origin client.clientMaxPayload
  rw [sends] at same
  cases same
  obtain ⟨query, found, asked⟩ := batch.asked client member
  exact ⟨query, found, .inr ⟨key, asked, about⟩⟩

/-! ## One step -/

/-- The pending query that a datagram is accepted for: it has the id of the query, and
comes from the resolver in charge. -/
def Worker.accepts (w : Worker) (reply : Bytes) (fromAddr : SocketAddr) : Option PendingQuery :=
  (w.pending.lookup (xid reply)).filter fun query =>
    query.currentServer.any fun expectedIp => fromAddr == ⟨.v4 expectedIp, dnsPort⟩

/-- What arrives for a pending query, or over TCP for a task, with the key of that query. -/
def Worker.arriving (w : Worker) : Event → Option (String × Bytes)
  | .upstreamReply reply fromAddr =>
    (w.accepts reply fromAddr).map fun query => (query.cacheKey, reply)
  | .fetched task (some reply) =>
    (w.fallbacks[task]?).map fun fallback => (fallback.cacheKey, reply)
  | _ => none

/-- The resolver in charge answers the question that it was asked, whatever the id. -/
def Honest (lib : Hickory) (w : Worker) (event : Event) : Prop :=
  ∀ arrived ∈ w.arriving event, FitsAnyId lib arrived.1 arrived.2

theorem asked_arrival {transport : Transport} {peer : SocketAddr} {query : Bytes}
    (asks : getCacheKey lib query = some key) :
    Asked lib (received ++ Event.arrival received.length (.query transport peer query)) key
      (transport.origin received.length peer) := by
  refine ⟨query, ?_, asks⟩
  cases transport <;> simp [Event.arrival, Transport.origin, ClientOrigin.ticket]

theorem Batch.report {fallback : Fallback} {fetched : Option Bytes}
    (batch : Batch lib received fallback.cacheKey fallback.fallbackReply fallback.clients)
    (framed : fetched.all isFramed = true)
    (fits : ∀ reply, fetched = some reply → FitsAnyId lib fallback.cacheKey reply) :
    (fallback.report fetched).Under fallback.cacheKey ∧
      Batch lib received fallback.cacheKey (fallback.report fetched).reply
        (fallback.report fetched).clients := by
  cases fetched with
  | none => exact ⟨trivial, batch⟩
  | some reply => exact ⟨rfl, long_of_isFramed framed, fits reply rfl, batch.asked⟩

theorem Worker.Matched.framed (matched : w.Matched lib received) : w.Framed where
  cache found := (matched.cache _ _ found).1.long
  fallbacks member := (matched.fallbacks _ member).long
  tcpEvents member := by
    obtain ⟨key, -, batch⟩ := matched.tcpEvents _ member
    exact batch.long

theorem Worker.Matched.fits (matched : w.Matched lib received) (honest : Honest lib w event)
    (brings : w.Brings event key reply) : FitsAnyId lib key reply := by
  rcases brings with ⟨query, ⟨expectedIp, rfl, -, present, server⟩, rfl⟩ | ⟨clients, queued⟩
  · exact honest (query.cacheKey, reply) (by
      simp [Worker.arriving, Worker.accepts, present, server])
  · obtain ⟨key, under, batch⟩ := matched.tcpEvents _ queued
    cases under
    exact batch.fits

/-- While the resolvers are honest, a step keeps the questions apart. -/
theorem Step.matched (step : Step lib env received.length w event w' sent)
    (matched : w.Matched lib received) (honest : Honest lib w event) :
    w'.Matched lib (received ++ event.arrival received.length) where
  cache key entry found := by
    rcases step.sources.cache found with before | ⟨brings, admitted, -⟩
    · exact matched.cache key entry before
    · have fits := matched.fits honest brings
      exact ⟨admitted.isAnswerTo (fits.fits admitted.long), fits⟩
  pending upstreamXid query found client member := by
    rcases step.sources.pending found client member with
      ⟨transport, peer, bytes, rfl, asks, rfl⟩ | ⟨old, present, before, same⟩
    · exact asked_arrival asks
    · exact same ▸ (matched.pending upstreamXid old present client before).append
  fallbacks task member := by
    rcases step.sources.fallbacks member with before | ⟨query, hears, clients, same⟩
    · exact (matched.fallbacks task before).append
    · have ⟨_, _, long, present, _⟩ := hears
      refine Batch.append ⟨long, matched.fits honest (.inl ⟨query, hears, same.symm⟩), ?_⟩
      rw [clients, same]
      exact matched.pending _ query present
  tcpEvents tcpEvent member := by
    rcases step.sources.tcpEvents member with
      before | ⟨task, fallback, fetched, rfl, found, framed, rfl⟩
    · obtain ⟨key, under, batch⟩ := matched.tcpEvents tcpEvent before
      exact ⟨key, under, batch.append⟩
    · have batch := matched.fallbacks fallback (List.mem_of_getElem? found)
      obtain ⟨under, batch⟩ := batch.report framed (by
        rintro reply rfl
        exact honest (fallback.cacheKey, reply) (by simp [Worker.arriving, found]))
      exact ⟨fallback.cacheKey, under, batch.append⟩

/-- And what it sends answers the questions of the clients. -/
theorem Step.allAnswer (doc : lib.Documented)
    (step : Step lib env received.length w event w' sent) (matched : w.Matched lib received)
    (honest : Honest lib w event) :
    AllAnswer lib (received ++ event.arrival received.length) sent := by
  intro origin response replied
  rcases step.delivers matched.framed with silent |
    ⟨transport, peer, query, answer, rfl, resolved, rfl⟩ |
    ⟨clients, reply, delivers, long, rfl⟩
  · exact absurd replied (silent origin response)
  · cases List.mem_singleton.mp replied
    refine ⟨query, ?_, .inl ⟨_, resolved⟩⟩
    cases transport <;> simp [Event.arrival, Transport.origin, ClientOrigin.ticket]
  · obtain ⟨key, batch⟩ : ∃ key, Batch lib (received ++ event.arrival received.length) key reply
        clients := by
      cases delivers with
      | @upstream _ fromAddr query present =>
        obtain ⟨heard, hears⟩ := step.hears replied
        have ⟨_, _, _, present', _⟩ := hears
        cases present.symm.trans present'
        exact ⟨query.cacheKey, Batch.append ⟨long, matched.fits honest (.inl ⟨query, hears, rfl⟩),
          matched.pending _ query present⟩⟩
      | fallback popped =>
        obtain ⟨key, -, batch⟩ := matched.tcpEvents _ ((Fifo.mem_of_pop popped).mpr (.inl rfl))
        exact ⟨key, batch.append⟩
      | cached asks found =>
        refine ⟨_, long, (matched.cache _ _ found).2, List.forall_mem_singleton.mpr ?_⟩
        exact asked_arrival asks
    exact batch.fanout doc origin response replied

/-! ## A run -/

/-- The worker is matched with the queries received, and so are the replies sent. -/
structure System.Matched (lib : Hickory) (s : System) : Prop where
  worker : s.worker.Matched lib s.received
  sent : AllAnswer lib s.received s.sent

theorem matched_init : System.init.Matched lib :=
  ⟨⟨nofun, nofun, nofun, nofun⟩, nofun⟩

theorem matched_step (doc : lib.Documented) {label : Env × Event} (matched : s.Matched lib)
    (honest : Honest lib s.worker label.2) (step : System.step lib s label = some t) :
    t.Matched lib := by
  obtain ⟨-, w, sent, turn, rfl⟩ := Step.of_system step
  refine ⟨turn.matched matched.worker honest, ?_⟩
  intro origin response replied
  rcases List.mem_append.mp replied with old | new
  · exact matched.sent.append origin response old
  · exact turn.allAnswer doc matched.worker honest origin response new

/-- In every run in which the resolvers in charge answer the question that they were asked, in
bytes that are about it under every id, every cached response is a response to the question of its
key, and every reply to a client is a local answer or not about another question than that of the
client. -/
theorem cached_answers_match (doc : lib.Documented) {labels : List (Env × Event)}
    (run : exec (System.step lib) .init labels = some s)
    (honest : Meets (System.step lib) (fun s label => Honest lib s.worker label.2) .init labels) :
    (∀ key entry, s.worker.cache.lookup key = some entry → IsAnswerTo lib key entry.response) ∧
      AllAnswer lib s.received s.sent := by
  have keep : Inductive (System.step lib) (fun s label => Honest lib s.worker label.2)
      (System.Matched lib) := fun _ _ _ matched honest => matched_step doc matched honest
  have matched := keep.exec matched_init honest run
  exact ⟨fun key entry found => (matched.worker.cache key entry found).1, matched.sent⟩

/-- Two clients ask for an address, and the resolver sends a reply in between. -/
def askedTwice (reply : Message) : List (Env × Event) :=
  [(⟨0, [7], true, [], []⟩, .query .udp laptop (emit (askFor 1 ["www", "org"] .a))),
   (⟨1, [8], true, [7], []⟩, .upstreamReply (emit reply) ⟨.v4 fallbackDnsServer, dnsPort⟩),
   (⟨2, [8], true, [], ["www.org.:A:IN"]⟩, .query .udp phone
      (emit (askFor 2 ["www", "org"] .a)))]

/-- The reply is about the name that was asked for, and both clients get it. -/
theorem answers_match_of_honest_reply :
    ∃ s, exec (System.step library) .init (askedTwice (minuteAnswer 7)) = some s ∧
      (s.worker.cache.lookup "www.org.:A:IN").isSome ∧
      (∀ key entry, s.worker.cache.lookup key = some entry →
        IsAnswerTo library key entry.response) ∧
      AllAnswer library s.received s.sent := by
  have cached : (exec (System.step library) .init (askedTwice (minuteAnswer 7))).map
      (fun s => (s.worker.cache.lookup "www.org.:A:IN").isSome) = some true := by
    decide +kernel
  obtain ⟨s, run, found⟩ := Option.map_eq_some_iff.mp cached
  have fits : Meets (System.step library) (fun s label =>
      ∀ arrived ∈ s.worker.arriving label.2, Fits library arrived.1 arrived.2) .init
      (askedTwice (minuteAnswer 7)) := by
    decide +kernel
  have honest := fits.mono fun s label each arrived member =>
    (each arrived member).anyId_uncompressed
  exact ⟨s, run, found, cached_answers_match documented run honest⟩

def foreignAnswer : Message := answer 7 ["bad", "net"] 60 (.new 6 6 6 6)

/-- The resolver answers another question: both clients get that answer, the second one
from the cache. -/
theorem foreign_answer_cached :
    ∃ s response, exec (System.step library) .init (askedTwice foreignAnswer) = some s ∧
      (s.worker.cache.lookup "www.org.:A:IN").map (·.response) = some response ∧
      ¬ IsAnswerTo library "www.org.:A:IN" response ∧
      s.sent.getLast? = some (.reply (.udp 1 phone) (setXid 2 response)) := by
  have result : (exec (System.step library) .init (askedTwice foreignAnswer)).map
      (fun s => ((s.worker.cache.lookup "www.org.:A:IN").map (·.response), s.sent.getLast?)) =
        some (some (emit foreignAnswer),
          some (.reply (.udp 1 phone) (setXid 2 (emit foreignAnswer)))) := by
    decide +kernel
  obtain ⟨s, run, outcome⟩ := Option.map_eq_some_iff.mp result
  obtain ⟨cached, replied⟩ := Prod.ext_iff.mp outcome
  refine ⟨s, _, run, cached, ?_, replied⟩
  intro about
  have other : ¬ Fits library "www.org.:A:IN" (emit foreignAnswer) := by
    decide +kernel
  exact other about.fits

end TrimRouter.Dns
