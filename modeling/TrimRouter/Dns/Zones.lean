import TrimRouter.Dns.Uncompressed
import TrimRouter.Dns.Worker

/-!
# The zones that stay inside

Names below `lan` and `local` are meant to be answered by the worker and never to reach a resolver.
Whether one does is decided in `try_resolve_local_query`: below `lan` it takes one label for a host
and gives every other name up, and it answers a PTR question before it looks at the zone `local`.
`lan_answered_iff` and `mdns_answered_iff` say which names are answered in every state.
-/

namespace TrimRouter.Dns

open Uncompressed (library emit askFor ofText documented laptop)

variable {lib : Hickory} {env : Env} {w : Worker} {query : Bytes} {origin : ClientOrigin}
  {message : Message} {question : Query} {before : List Label} {last : Label}

/-! ## Local answers -/

/-- The name under which the table has the host of a label. -/
def hostName (lib : Hickory) (label : Label) : String :=
  String.ofList ((lib.labelToUtf8 label).map Char.toLower)

/-- The responses that the worker may give for a name of its own zones: the registered
address of the host, no data, or that there is no such name. -/
inductive ZoneAnswer (lib : Hickory) (hosts : HashMap String Ipv4Addr) (message : Message)
    (question : Query) : Message → Prop
  | address {label : Label} {ip : Ipv4Addr} (host : question.name.labels.head? = some label)
      (registered : hosts.lookup (hostName lib label) = some ip) :
      ZoneAnswer lib hosts message question (aResponse message question.name ip)
  | nodata : ZoneAnswer lib hosts message question (nodataResponse message)
  | nxdomain : ZoneAnswer lib hosts message question (nxdomainResponse message)

variable {table : LocalDnsTable}

/-- The worker has nothing to say about the question. -/
theorem tryResolveLocalQuery_eq_none (parsed : lib.fromBytes query = some message)
    (first : message.queries.head? = some question)
    (unresolved : resolveQuestion lib table message question = none) :
    tryResolveLocalQuery lib table query = none := by
  rw [Option.eq_none_iff_forall_ne_some]
  intro bytes resolved
  obtain ⟨message', question', response, parsed', -, first', answer, -⟩ :=
    tryResolveLocalQuery_eq_some.mp resolved
  rw [parsed] at parsed'
  cases parsed'
  rw [first] at first'
  cases first'
  rw [unresolved] at answer
  cases answer

/-- What the worker resolves itself is all that it sends. -/
theorem handleIncomingQuery_local (doc : lib.Documented)
    (parsed : lib.fromBytes query = some message) (opCode : message.opCode = .query)
    (first : message.queries.head? = some question) {response : Message}
    (resolved : resolveQuestion lib w.localTable message question = some response) :
    (handleIncomingQuery lib env w query origin).2 = [.reply origin (lib.emit response)] := by
  have long : ¬ query.length < dnsHeaderSize := Nat.not_lt_of_le (doc.header parsed).1
  have answer : tryResolveLocalQuery lib w.localTable query = some (lib.emit response) :=
    tryResolveLocalQuery_eq_some.mpr
      ⟨message, question, response, parsed, opCode, first, resolved, rfl⟩
  simp only [handleIncomingQuery, long, if_false, answer]
  cases origin <;> rfl

/-- The worker that has just begun, with the given hosts. -/
def Worker.started (hosts : HashMap String Ipv4Addr) : Worker :=
  { Worker.init with localTable := ⟨hosts, ∅⟩ }

theorem handleIncomingQuery_forwards (doc : lib.Documented)
    (parsed : lib.fromBytes query = some message) (opCode : message.opCode = .query)
    (first : message.queries.head? = some question) {hosts : HashMap String Ipv4Addr}
    (unresolved : resolveQuestion lib ⟨hosts, ∅⟩ message question = none) (clientIp : Ipv4Addr) :
    (handleIncomingQuery lib ⟨0, [1], true, [], []⟩ (.started hosts) query
      (.udp 0 ⟨.v4 clientIp, 53⟩)).2 = [.upstream fallbackDnsServer (setXid 1 query)] := by
  have long : ¬ query.length < dnsHeaderSize := Nat.not_lt_of_le (doc.header parsed).1
  have external : tryResolveLocalQuery lib ⟨hosts, ∅⟩ query = none :=
    tryResolveLocalQuery_eq_none parsed first unresolved
  have asks : getCacheKey lib query = some (questionKey lib question) := by
    simp [getCacheKey, parsed, first, opCode]
  have allowed := DnsRateLimiter.check_default_new 0 clientIp
  simp only [handleIncomingQuery, long, if_false, Worker.started, Worker.init, external, asks,
    answerFromCache, lookupCache, AList.lookup_empty, resolveUpstream, ClientOrigin.peerAddr,
    allowed, tryJoinInFlightQuery, HashMap.iter, List.filterMap_nil, List.find?_nil,
    forwardNewClientQuery, allocateUniqueXid]
  rfl

theorem resolvePtr_eq_none (doc : lib.Documented) {zone : String}
    (labels : question.name.labels = before ++ [last]) (spells : last.Spells zone)
    (other : zone.toList ≠ "arpa".toList) :
    resolvePtr lib table message question.name = none := by
  have unread : lib.parseArpaName question.name = none := by
    rw [Option.eq_none_iff_forall_ne_some]
    intro net read
    obtain ⟨label, isLast, arpa⟩ := doc.arpa read
    rw [labels, List.getLast?_concat] at isLast
    cases isLast
    exact other (spells.symm.trans arpa)
  simp [resolvePtr, unread]

/-! ## The zone `lan` -/

/-- The worker answers the query itself and sends nothing else. -/
def AnswersItself (lib : Hickory) (w : Worker) (message : Message) (question : Query)
    (origin : ClientOrigin) (sent : List Output) : Prop :=
  ∃ response, ZoneAnswer lib w.localTable.hosts message question response ∧
    sent = [.reply origin (lib.emit response)]

theorem resolveQuestion_lan (doc : lib.Documented)
    (labels : question.name.labels = before ++ [last]) (lan : last.Spells localDomain)
    (host : ∃ host, before = [host] ∧ (lib.labelToUtf8 host).contains '.' = false) :
    ∃ response, ZoneAnswer lib table.hosts message question response ∧
      resolveQuestion lib table message question = some response := by
  obtain ⟨host, rfl, undotted⟩ := host
  have extracted : extractLocalForwardName (lib.toUtf8 question.name) =
      some (hostName lib host, true) := by
    rw [extractLocalForwardName_lan doc labels lan]
    simp only [undotted, Bool.false_eq_true, if_false, hostName]
  simp only [resolveQuestion, extracted]
  cases registered : table.hosts.lookup (hostName lib host) with
  | none => exact ⟨_, .nxdomain, by simp⟩
  | some ip =>
    by_cases address : question.queryType = .a
    · exact ⟨_, .address (by rw [labels]; rfl) registered, by simp [address]⟩
    · exact ⟨_, .nodata, by simp [address]⟩

/-- Every other name below `lan` is given up. -/
theorem resolveQuestion_lan_eq_none (doc : lib.Documented)
    (labels : question.name.labels = before ++ [last]) (lan : last.Spells localDomain)
    (noHost : ¬ ∃ host, before = [host] ∧ (lib.labelToUtf8 host).contains '.' = false) :
    resolveQuestion lib table message question = none := by
  have extracted : extractLocalForwardName (lib.toUtf8 question.name) = none := by
    rw [extractLocalForwardName_lan doc labels lan]
    rcases before with - | ⟨host, - | ⟨second, rest⟩⟩
    · rfl
    · apply if_pos
      by_contra undotted
      exact noHost ⟨host, rfl, Bool.eq_false_iff.mpr undotted⟩
    · rfl
  simp only [resolveQuestion, extracted, resolveZones, isMdnsLocalDomain_lan doc labels lan,
    resolvePtr_eq_none doc labels lan (by decide)]
  simp

/-- A query for a name below `lan` is answered by the worker itself, whatever its tables,
its cache and its pending queries, exactly when the name has one label before `lan`, with no
dot in its text. -/
theorem lan_answered_iff (doc : lib.Documented) (parsed : lib.fromBytes query = some message)
    (opCode : message.opCode = .query) (first : message.queries.head? = some question)
    (labels : question.name.labels = before ++ [last]) (lan : last.Spells localDomain) :
    (∀ env w origin, AnswersItself lib w message question origin
      (handleIncomingQuery lib env w query origin).2) ↔
      ∃ host, before = [host] ∧ (lib.labelToUtf8 host).contains '.' = false := by
  constructor
  · intro answers
    by_contra noHost
    have unresolved : resolveQuestion lib ⟨∅, ∅⟩ message question = none :=
      resolveQuestion_lan_eq_none doc labels lan noHost
    obtain ⟨response, -, sent⟩ := answers ⟨0, [1], true, [], []⟩ (.started ∅)
      (.udp 0 ⟨.v4 .unspecified, 53⟩)
    rw [handleIncomingQuery_forwards doc parsed opCode first unresolved] at sent
    cases sent
  · intro host env w origin
    obtain ⟨response, answer, resolved⟩ := resolveQuestion_lan doc labels lan host
    exact ⟨response, answer, handleIncomingQuery_local doc parsed opCode first resolved⟩

/-- A question for the address of `printer.LAN` is answered in every state. -/
theorem printer_lan_answered :
    (ofText "LAN").Spells localDomain ∧
    ∀ env w origin, AnswersItself library w
      (askFor 5 ["printer", "LAN"] .a)
      ⟨⟨[ofText "printer", ofText "LAN"], true⟩, .a, 1⟩ origin
      (handleIncomingQuery library env w
        (emit (askFor 5 ["printer", "LAN"] .a)) origin).2 := by
  have lan : (ofText "LAN").Spells localDomain := by decide
  have labels : [ofText "printer", ofText "LAN"] = [ofText "printer"] ++ [ofText "LAN"] := rfl
  refine ⟨lan, ?_⟩
  exact (lan_answered_iff documented (by decide +kernel) rfl rfl labels lan).mpr
    ⟨ofText "printer", rfl, by decide⟩

/-- The names `a.b.lan` and `lan` are sent to a resolver. -/
theorem nested_lan_forwarded :
    (handleIncomingQuery library ⟨0, [1], true, [], []⟩ .init
        (emit (askFor 5 ["a", "b", "lan"] .a)) (.udp 0 laptop)).2 =
      [.upstream fallbackDnsServer (emit (askFor 1 ["a", "b", "lan"] .a))] ∧
    (handleIncomingQuery library ⟨0, [1], true, [], []⟩ .init
        (emit (askFor 5 ["lan"] .a)) (.udp 0 laptop)).2 =
      [.upstream fallbackDnsServer (emit (askFor 1 ["lan"] .a))] := by
  decide +kernel

/-! ## The zone `local` -/

/-- The worker answers that the name does not exist, unless the name is that of a host. -/
def AnswersMdns (lib : Hickory) (hosts : HashMap String Ipv4Addr) (message : Message)
    (question : Query) (origin : ClientOrigin) (sent : List Output) : Prop :=
  ∃ response, sent = [.reply origin (lib.emit response)] ∧
    (response = nxdomainResponse message ∨
      question.name.labels.length = 1 ∧ (hosts.lookup mdnsDomain).isSome ∧
        ZoneAnswer lib hosts message question response)

theorem resolveQuestion_mdns (doc : lib.Documented)
    (labels : question.name.labels = before ++ [last]) (mdns : last.Spells mdnsDomain) :
    resolveQuestion lib table message question =
      if before.isEmpty && (table.hosts.lookup mdnsDomain).isSome then
        (table.hosts.lookup mdnsDomain).map fun ip =>
          if question.queryType == .a then aResponse message question.name ip
          else nodataResponse message
      else if question.queryType == .ptr then none
      else some (nxdomainResponse message) := by
  have zones : resolveZones lib table message question =
      if question.queryType == .ptr then none else some (nxdomainResponse message) := by
    simp only [resolveZones, resolvePtr_eq_none doc labels mdns (by decide),
      isMdnsLocalDomain_mdns doc labels mdns, if_true]
  rw [resolveQuestion, extractLocalForwardName_mdns doc labels mdns]
  cases before with
  | nil =>
    cases registered : table.hosts.lookup mdnsDomain with
    | none => simp [registered, zones]
    | some ip => simp [registered]; split <;> rfl
  | cons host rest => simp [zones]

/-- With the given hosts, a query for a name below `local` is answered by the worker itself,
whatever its cache and its pending queries, exactly when it is no PTR question or the name
is that of a registered host. -/
theorem mdns_answered_iff (doc : lib.Documented) (parsed : lib.fromBytes query = some message)
    (opCode : message.opCode = .query) (first : message.queries.head? = some question)
    (labels : question.name.labels = before ++ [last]) (mdns : last.Spells mdnsDomain)
    (hosts : HashMap String Ipv4Addr) :
    (∀ env w origin, w.localTable.hosts = hosts → AnswersMdns lib hosts message question origin
      (handleIncomingQuery lib env w query origin).2) ↔
      question.queryType ≠ .ptr ∨ before = [] ∧ (hosts.lookup mdnsDomain).isSome := by
  constructor
  · intro answers
    by_contra neither
    push Not at neither
    obtain ⟨ptr, unregistered⟩ := neither
    have unresolved : resolveQuestion lib ⟨hosts, ∅⟩ message question = none := by
      rw [resolveQuestion_mdns doc labels mdns]
      cases before with
      | nil => simp [ptr, unregistered rfl]
      | cons host rest => simp [ptr]
    obtain ⟨response, sent, -⟩ := answers ⟨0, [1], true, [], []⟩ (.started hosts)
      (.udp 0 ⟨.v4 .unspecified, 53⟩) rfl
    rw [handleIncomingQuery_forwards doc parsed opCode first unresolved] at sent
    cases sent
  · intro answerable env w origin same
    subst same
    have resolved : resolveQuestion lib w.localTable message question = _ :=
      resolveQuestion_mdns doc labels mdns
    by_cases host : before = [] ∧ (w.localTable.hosts.lookup mdnsDomain).isSome
    · obtain ⟨rfl, registered⟩ := host
      obtain ⟨ip, found⟩ := Option.isSome_iff_exists.mp registered
      have single : question.name.labels.length = 1 := by rw [labels]; rfl
      have named : hostName lib last = mdnsDomain := by
        rw [hostName, doc.utf8_spells mdns (by decide), String.ofList_toList]
      rw [found] at resolved
      by_cases address : question.queryType = .a
      · have answer : ZoneAnswer lib w.localTable.hosts message question
            (aResponse message question.name ip) :=
          .address (by rw [labels]; rfl) (named ▸ found)
        exact ⟨_, handleIncomingQuery_local doc parsed opCode first
          (by simpa [address] using resolved), .inr ⟨single, registered, answer⟩⟩
      · exact ⟨_, handleIncomingQuery_local doc parsed opCode first
          (by simpa [address] using resolved), .inr ⟨single, registered, .nodata⟩⟩
    · have noPtr : question.queryType ≠ .ptr := answerable.resolve_right host
      have none' : (before.isEmpty && (w.localTable.hosts.lookup mdnsDomain).isSome) = false := by
        rw [Bool.eq_false_iff]
        intro both
        rw [Bool.and_eq_true, List.isEmpty_iff] at both
        exact host both
      refine ⟨_, handleIncomingQuery_local doc parsed opCode first ?_, .inl rfl⟩
      rw [resolved, none', if_neg (by simp), if_neg (by simpa using noPtr)]

/-- A question for the address of `host.local` is answered whatever the cache holds. -/
theorem host_local_answered :
    (ofText "local").Spells mdnsDomain ∧
    ∀ env w origin, w.localTable.hosts = ∅ → AnswersMdns library ∅
      (askFor 5 ["host", "local"] .a)
      ⟨⟨[ofText "host", ofText "local"], true⟩, .a, 1⟩ origin
      (handleIncomingQuery library env w
        (emit (askFor 5 ["host", "local"] .a)) origin).2 := by
  have mdns : (ofText "local").Spells mdnsDomain := by decide
  have labels : [ofText "host", ofText "local"] = [ofText "host"] ++ [ofText "local"] := rfl
  refine ⟨mdns, ?_⟩
  exact (mdns_answered_iff documented (by decide +kernel) rfl rfl labels mdns ∅).mpr
    (.inl (by decide))

/-- The PTR question with which printers are looked for is sent to a resolver. -/
theorem service_discovery_forwarded :
    (handleIncomingQuery library ⟨0, [1], true, [], []⟩ .init
        (emit (askFor 5 ["_ipp", "_tcp", "local"] .ptr)) (.udp 0 laptop)).2 =
      [.upstream fallbackDnsServer (emit (askFor 1 ["_ipp", "_tcp", "local"] .ptr))] := by
  decide +kernel

end TrimRouter.Dns
