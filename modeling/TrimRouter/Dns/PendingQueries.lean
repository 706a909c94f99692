import TrimRouter.Dns.Steps

/-!
# What becomes of a pending query

The pending queries change in six places: a client joins, a query is forwarded, a reply ends or
moves one, and the cleanup timer ends or moves those that have timed out.  `Evolves` says once what
a step can make of the query under one id and what it sends under that id.  Every step is one of
these changes at every id (`Step.evolves`).
-/

namespace TrimRouter.Dns

variable {now : Nat} {order list : List (BitVec 16)}
  {pending : HashMap (BitVec 16) PendingQuery} {x : BitVec 16} {q : PendingQuery}

/-! ## The cleanup timer, query by query -/

theorem tryFailoverUpstreamQuery_isSome :
    (tryFailoverUpstreamQuery now q x).isSome = q.hasNext := by
  unfold tryFailoverUpstreamQuery PendingQuery.hasNext
  cases found : q.upstreamServers[q.currentServerIdx + 1]? with
  | none => simp [List.getElem?_eq_none_iff.mp found]
  | some target => simp [(List.getElem?_eq_some_iff.mp found).1]

/-- What the cleanup makes of a query: it stays until its deadline, and then moves to its next
resolver or ends. -/
def PendingQuery.swept (now : Nat) (x : BitVec 16) (q : PendingQuery) : Option PendingQuery :=
  if q.timedOut now then (tryFailoverUpstreamQuery now q x).map Prod.fst else some q

/-- What the cleanup sends for a query. -/
def PendingQuery.sweepSent (now : Nat) (x : BitVec 16) (q : PendingQuery) : Option Output :=
  if q.timedOut now then (tryFailoverUpstreamQuery now q x).map Prod.snd else none

/-- The query after an attempt to move it. -/
def PendingQuery.retried (now : Nat) (x : BitVec 16) (q : PendingQuery) : PendingQuery :=
  ((tryFailoverUpstreamQuery now q x).map Prod.fst).getD q

variable {acc : HashMap (BitVec 16) PendingQuery × List Output} {y : BitVec 16}

theorem lookup_retryQuery :
    (retryQuery now acc y).1.lookup x =
      if x = y then (acc.1.lookup x).map (PendingQuery.retried now x) else acc.1.lookup x := by
  unfold retryQuery
  split
  · rename_i missing
    split
    · rename_i same
      rw [same, missing, Option.map_none]
    · rfl
  · rename_i query present
    split
    · rename_i last
      split
      · rename_i same
        rw [same, present, Option.map_some, PendingQuery.retried, last]
        rfl
      · rfl
    · rename_i next sent retry
      rw [HashMap.lookup_insert_eq]
      split
      · rename_i same
        rw [same, present, Option.map_some, PendingQuery.retried, retry]
        rfl
      · rfl

theorem retryQuery_sent :
    (retryQuery now acc y).2 = acc.2 ++ ((acc.1.lookup y).bind fun q =>
      (tryFailoverUpstreamQuery now q y).map Prod.snd).toList := by
  unfold retryQuery
  split
  · rename_i missing
    simp [missing]
  · rename_i query present
    split
    · rename_i last
      simp [present, last]
    · rename_i retry
      simp [present, retry]

theorem lookup_retryQueries (unique : list.Nodup) :
    (list.foldl (retryQuery now) acc).1.lookup x =
      if x ∈ list then (acc.1.lookup x).map (PendingQuery.retried now x) else acc.1.lookup x := by
  induction list generalizing acc with
  | nil => simp
  | cons y rest ih =>
    obtain ⟨once, unique⟩ := List.nodup_cons.mp unique
    rw [List.foldl_cons, ih unique, lookup_retryQuery]
    by_cases same : x = y
    · simp [same, once]
    · simp [same]

theorem retryQueries_sent (unique : list.Nodup) :
    (list.foldl (retryQuery now) acc).2 = acc.2 ++ list.filterMap fun y =>
      (acc.1.lookup y).bind fun q => (tryFailoverUpstreamQuery now q y).map Prod.snd := by
  induction list generalizing acc with
  | nil => simp
  | cons y rest ih =>
    obtain ⟨once, unique⟩ := List.nodup_cons.mp unique
    have others : ∀ z ∈ rest, (retryQuery now acc y).1.lookup z = acc.1.lookup z := by
      intro z member
      rw [lookup_retryQuery, if_neg]
      rintro rfl
      exact once member
    rw [List.foldl_cons, ih unique, retryQuery_sent, List.append_assoc,
      List.filterMap_congr fun z member => by rw [others z member]]
    congr 1
    rw [List.filterMap_cons]
    cases (acc.1.lookup y).bind fun q => (tryFailoverUpstreamQuery now q y).map Prod.snd <;> rfl

variable (visits : pending.IsOrder order)

include visits

theorem mem_retryList :
    x ∈ ((pending.iter order).filter fun e => e.2.timedOut now && e.2.hasNext).map Prod.fst ↔
      ∃ q, pending.lookup x = some q ∧ q.timedOut now = true ∧ q.hasNext = true := by
  simp only [List.mem_map, List.mem_filter, Bool.and_eq_true, Prod.exists, HashMap.mem_iter visits]
  constructor
  · rintro ⟨y, q, ⟨present, due⟩, rfl⟩
    exact ⟨q, present, due⟩
  · rintro ⟨q, present, due⟩
    exact ⟨x, q, ⟨present, due⟩, rfl⟩

theorem nodup_retryList :
    (((pending.iter order).filter fun e => e.2.timedOut now && e.2.hasNext).map Prod.fst).Nodup :=
  (HashMap.nodup_iter visits).sublist (List.filter_sublist.map _)

/-- The cleanup deals with every query on its own. -/
theorem lookup_checkPendingTimeouts :
    (checkPendingTimeouts now order pending).1.lookup x =
      (pending.lookup x).bind (PendingQuery.swept now x) := by
  unfold checkPendingTimeouts
  simp only [lookup_retryQueries (nodup_retryList visits), mem_retryList visits,
    HashMap.lookup_retain]
  cases present : pending.lookup x with
  | none => simp
  | some q =>
    have next : (tryFailoverUpstreamQuery now q x).isSome = q.hasNext :=
      tryFailoverUpstreamQuery_isSome
    cases due : q.timedOut now with
    | false => simp [PendingQuery.swept, due]
    | true =>
      cases retry : tryFailoverUpstreamQuery now q x with
      | none =>
        rw [retry] at next
        simp [PendingQuery.swept, due, ← next, retry]
      | some moved =>
        rw [retry] at next
        simp [PendingQuery.swept, PendingQuery.retried, due, ← next, retry]

/-- The cleanup sends what it sends for every query on its own. -/
theorem checkPendingTimeouts_sent :
    (checkPendingTimeouts now order pending).2 =
      order.filterMap fun x => (pending.lookup x).bind (PendingQuery.sweepSent now x) := by
  unfold checkPendingTimeouts
  rw [retryQueries_sent (nodup_retryList visits), List.nil_append, HashMap.iter,
    List.filterMap_map, List.filterMap_filter, List.filterMap_filterMap]
  apply List.filterMap_congr
  intro y member
  simp only [Function.comp_apply, HashMap.lookup_retain]
  cases present : pending.lookup y with
  | none => rfl
  | some q =>
    have next : (tryFailoverUpstreamQuery now q y).isSome = q.hasNext :=
      tryFailoverUpstreamQuery_isSome
    cases due : q.timedOut now with
    | false => simp [PendingQuery.sweepSent, due]
    | true =>
      cases retry : tryFailoverUpstreamQuery now q y with
      | none =>
        rw [retry] at next
        simp [PendingQuery.sweepSent, due, ← next, retry]
      | some moved =>
        rw [retry] at next
        simp [PendingQuery.sweepSent, present, Option.filter_some, due, ← next, retry]

omit visits

/-! ## One id -/

/-- The output is a datagram to a resolver under the id. -/
def Output.under (x : BitVec 16) : Output → Bool
  | .upstream _ payload => xid payload == x
  | _ => false

section

variable (lib : Hickory) (env : Env) (ticket : Nat)

/-- The resolver in charge of a query lets it down: it has not answered in time, or it answers
that it failed or refuses. -/
inductive Fails (x : BitVec 16) (q : PendingQuery) : Event → Prop
  | timedOut (late : q.deadline ≤ env.now) : Fails x q .tick
  | refused {reply : Bytes} {server : Ipv4Addr} {msg : Message} (same : xid reply = x)
      (inCharge : q.currentServer = some server) (tc : tcBit reply = false)
      (parsed : lib.fromBytes reply = some msg) (code : msg.responseCode.failsOver = true) :
      Fails x q (.upstreamReply reply ⟨.v4 server, dnsPort⟩)

/-- What a step makes of the pending query under an id, and what it sends under that id. -/
inductive Evolves (w : Worker) (x : BitVec 16) (event : Event) :
    Option PendingQuery → Option PendingQuery → List Output → Prop
  | stays {before : Option PendingQuery} : Evolves w x event before before []
  | joined {q : PendingQuery} (client : PendingClient)
      (room : q.clients.length < maxJoinedClientsPerQuery) :
      Evolves w x event (some q) (some { q with clients := q.clients ++ [client] }) []
  | opened {transport : Transport} {peer : SocketAddr} {query : Bytes} {cacheKey : String}
      (asked : event = .query transport peer query) (long : dnsHeaderSize ≤ query.length)
      (drawn : allocateUniqueXid w.pending env.draws = some x) :
      Evolves w x event none
        (some (newPendingQuery lib env w query (transport.origin ticket peer) cacheKey))
        [.upstream ((getUpstreamResolvers w.upstreamServers).headD fallbackDnsServer)
          (setXid x query)]
  | moved {q : PendingQuery} {target : Ipv4Addr} (fails : Fails lib env x q event)
      (next : q.upstreamServers[q.currentServerIdx + 1]? = some target) :
      Evolves w x event (some q)
        (some { q with
          currentServerIdx := q.currentServerIdx + 1, deadline := env.now + upstreamTimeout })
        [.upstream target (setXid x q.queryPayload)]
  | closed {q : PendingQuery} : Evolves w x event (some q) none []

end

variable {lib : Hickory} {env : Env} {ticket : Nat} {w w' : Worker} {event : Event}
  {sent : List Output}

theorem under_sendReply {origin : ClientOrigin} {response : Bytes} {maxPayload : Option Nat} :
    (sendReply lib origin response maxPayload).under x = false := by
  unfold sendReply
  split
  · split <;> rfl
  · rfl

theorem filter_under_fanoutClientReplies {clients : List PendingClient} {reply : Bytes} :
    (fanoutClientReplies lib clients reply).filter (Output.under x) = [] := by
  apply List.filter_eq_nil_iff.mpr
  intro output member
  obtain ⟨client, -, rfl⟩ := List.mem_map.mp member
  rw [under_sendReply]
  exact Bool.false_ne_true

theorem under_upstream {dest : Ipv4Addr} {payload : Bytes} (long : dnsHeaderSize ≤ payload.length) :
    (Output.upstream dest (setXid y payload)).under x = decide (y = x) := by
  have two : 2 ≤ payload.length := le_trans (by decide) long
  simp only [Output.under, xid_setXid two]
  rfl

/-- In a list without repetition one element is met once at most. -/
theorem filterMap_only {found : Option Output} (unique : list.Nodup)
    (missing : x ∉ list → found = none) :
    (list.filterMap fun y => if y = x then found else none) = found.toList := by
  induction list with
  | nil => rw [missing List.not_mem_nil, List.filterMap_nil, Option.toList_none]
  | cons y rest ih =>
    obtain ⟨once, unique⟩ := List.nodup_cons.mp unique
    by_cases same : y = x
    · subst same
      have others : (rest.filterMap fun z => if z = y then found else none) = [] := by
        apply List.filterMap_eq_nil_iff.mpr
        intro z member
        rw [if_neg]
        rintro rfl
        exact once member
      rw [List.filterMap_cons, others, if_pos rfl]
      cases found <;> rfl
    · have later : x ∉ rest → found = none := by
        intro absent
        apply missing
        rw [List.mem_cons, not_or]
        exact ⟨Ne.symm same, absent⟩
      rw [List.filterMap_cons, if_neg same, ih unique later]

theorem under_sweepSent {output : Output} (long : dnsHeaderSize ≤ q.queryPayload.length)
    (sends : q.sweepSent now y = some output) : output.under x = decide (y = x) := by
  unfold PendingQuery.sweepSent at sends
  split at sends
  · obtain ⟨⟨next, output⟩, retry, rfl⟩ := Option.map_eq_some_iff.mp sends
    obtain ⟨target, -, -, rfl⟩ := tryFailoverUpstreamQuery_eq_some retry
    exact under_upstream long
  · cases sends

/-- The cleanup sends at most one datagram under an id. -/
theorem filter_under_checkPendingTimeouts (visits : pending.IsOrder order)
    (long : ∀ y q, pending.lookup y = some q → dnsHeaderSize ≤ q.queryPayload.length) :
    (checkPendingTimeouts now order pending).2.filter (Output.under x) =
      ((pending.lookup x).bind (PendingQuery.sweepSent now x)).toList := by
  have each : ∀ y ∈ order, ((pending.lookup y).bind (PendingQuery.sweepSent now y)).filter
      (Output.under x) =
        if y = x then (pending.lookup x).bind (PendingQuery.sweepSent now x) else none := by
    intro y _
    cases sends : (pending.lookup y).bind (PendingQuery.sweepSent now y) with
    | none =>
      split
      · rename_i same
        rw [← same, sends, Option.filter_none]
      · rfl
    | some output =>
      obtain ⟨q, present, sentHere⟩ := Option.bind_eq_some_iff.mp sends
      rw [Option.filter_some, under_sweepSent (long y q present) sentHere]
      by_cases same : y = x
      · rw [if_pos (decide_eq_true same), if_pos same, ← same, sends]
      · rw [if_neg (mt of_decide_eq_true same), if_neg same]
  have missing : x ∉ order → (pending.lookup x).bind (PendingQuery.sweepSent now x) = none := by
    intro absent
    cases present : pending.lookup x with
    | none => rfl
    | some q => exact absurd (visits.mem_iff.mpr (HashMap.mem_keys_iff.mpr ⟨q, present⟩)) absent
  rw [checkPendingTimeouts_sent visits, List.filter_filterMap, List.filterMap_congr each]
  exact filterMap_only (visits.nodup_iff.mpr pending.keys_nodup) missing

theorem Evolves.of_failover {next : PendingQuery} {output : Output}
    (fails : Fails lib env x q event)
    (retry : tryFailoverUpstreamQuery env.now q x = some (next, output)) :
    Evolves lib env ticket w x event (some q) (some next) [output] := by
  obtain ⟨target, further, rfl, rfl⟩ := tryFailoverUpstreamQuery_eq_some retry
  exact .moved fails further

theorem Evolves.of_sweep :
    Evolves lib env ticket w x .tick (some q) (q.swept env.now x)
      (q.sweepSent env.now x).toList := by
  unfold PendingQuery.swept PendingQuery.sweepSent
  split
  · rename_i due
    cases retry : tryFailoverUpstreamQuery env.now q x with
    | none => exact .closed
    | some moved =>
      have late : q.deadline ≤ env.now := of_decide_eq_true due
      exact .of_failover (.timedOut late) retry
  · exact .stays

theorem Step.evolves (step : Step lib env ticket w event w' sent)
    (visits : w.pending.IsOrder env.pendingOrder)
    (long : ∀ y q, w.pending.lookup y = some q → dnsHeaderSize ≤ q.queryPayload.length)
    (x : BitVec 16) :
    Evolves lib env ticket w x event (w.pending.lookup x) (w'.pending.lookup x)
      (sent.filter (Output.under x)) := by
  cases step with
  | quiet keeps =>
    rw [keeps.pending]
    exact .stays
  | localReply keeps | hit keeps =>
    rw [keeps.pending, List.filter_singleton, under_sendReply]
    exact .stays
  | @join transport peer query w₁ cacheKey upstreamXid existing keeps whole key present same room =>
    simp only [HashMap.lookup_insert_eq]
    split
    · rename_i here
      rw [here, present]
      exact .joined _ room
    · exact .stays
  | @forward transport peer query w₁ cacheKey upstreamXid keeps whole key drawn =>
    simp only [HashMap.lookup_insert_eq]
    rw [List.filter_singleton, under_upstream whole]
    by_cases here : x = upstreamXid
    · rw [if_pos here, here, (allocateUniqueXid_eq_some drawn).2.2, decide_eq_true rfl]
      exact .opened rfl whole drawn
    · rw [if_neg here, decide_eq_false (Ne.symm here)]
      exact .stays
  | @truncated reply q server whole present inCharge tc =>
    simp only [HashMap.lookup_erase_eq]
    split
    · rename_i here
      rw [here, present]
      exact .closed
    · exact .stays
  | @failover reply q next server msg output whole present inCharge tc parsed code retry =>
    simp only [HashMap.lookup_insert_eq]
    obtain ⟨target, further, moved, rfl⟩ := tryFailoverUpstreamQuery_eq_some retry
    rw [List.filter_singleton, under_upstream (long _ _ present)]
    by_cases here : x = xid reply
    · rw [if_pos here, here, present, decide_eq_true rfl]
      exact .of_failover (.refused rfl inCharge tc parsed code) retry
    · rw [if_neg here, decide_eq_false (Ne.symm here)]
      exact .stays
  | @settle reply q server msg whole present inCharge tc parsed final =>
    simp only [settleQuery, filter_under_fanoutClientReplies, HashMap.lookup_erase_eq]
    split
    · rename_i here
      rw [here, present]
      exact .closed
    · exact .stays
  | fetched found framed pushed => exact .stays
  | @tcpEvent event tcpEvents popped =>
    cases event with
    | resolved | failed =>
      simp only [handleUpstreamTcpEvent, filter_under_fanoutClientReplies]
      exact .stays
  | tick =>
    simp only [cleanupTick, lookup_checkPendingTimeouts visits]
    rw [List.filter_cons_of_neg Bool.false_ne_true,
      filter_under_checkPendingTimeouts visits long]
    cases w.pending.lookup x with
    | none => exact .stays
    | some q => exact .of_sweep

/-! ## Sound pending queries -/

/-- A pending query has a resolver in charge, clients but not too many, and a whole header. -/
structure PendingQuery.Sound (q : PendingQuery) : Prop where
  inCharge : q.currentServerIdx < q.upstreamServers.length
  served : q.clients ≠ []
  room : q.clients.length ≤ maxJoinedClientsPerQuery
  long : dnsHeaderSize ≤ q.queryPayload.length

/-- All pending queries are sound, their ids are not zero, and they are not too many. -/
structure Worker.SoundPending (w : Worker) : Prop where
  queries : ∀ x q, w.pending.lookup x = some q → q.Sound
  ids : ∀ x q, w.pending.lookup x = some q → x ≠ 0
  size : w.pending.entries.length ≤ maxPendingQueries

theorem getUpstreamResolvers_ne_nil {configured : List Ipv4Addr} :
    getUpstreamResolvers configured ≠ [] := by
  unfold getUpstreamResolvers
  simp only
  split
  · exact List.cons_ne_nil _ _
  · rename_i some
    simpa using some

variable {before after : Option PendingQuery} {outputs : List Output}

theorem Evolves.sound (evolves : Evolves lib env ticket w x event before after outputs)
    (sound : ∀ q, before = some q → q.Sound) : ∀ q, after = some q → q.Sound := by
  intro q found
  cases evolves with
  | stays => exact sound q found
  | @joined old client room =>
    cases found
    obtain ⟨inCharge, served, -, long⟩ := sound old rfl
    refine ⟨inCharge, ?_, ?_, long⟩
    · exact List.append_ne_nil_of_right_ne_nil _ (List.cons_ne_nil _ _)
    · rw [List.length_append]
      exact room
  | opened asked long drawn =>
    cases found
    exact ⟨List.length_pos_iff.mpr getUpstreamResolvers_ne_nil, List.cons_ne_nil _ _,
      (by decide : 1 ≤ maxJoinedClientsPerQuery), long⟩
  | @moved old target fails next =>
    cases found
    obtain ⟨-, served, room, long⟩ := sound old rfl
    exact ⟨(List.getElem?_eq_some_iff.mp next).1, served, room, long⟩
  | closed => cases found

/-- A query that was not pending before has the new id. -/
theorem Evolves.fresh (evolves : Evolves lib env ticket w x event before after outputs)
    (missing : before = none) (found : after ≠ none) :
    allocateUniqueXid w.pending env.draws = some x := by
  cases evolves with
  | stays => exact absurd missing found
  | joined | moved | closed => cases missing
  | opened asked long drawn => exact drawn

theorem Worker.SoundPending.step (sound : w.SoundPending)
    (step : Step lib env ticket w event w' sent) (visits : w.pending.IsOrder env.pendingOrder) :
    w'.SoundPending := by
  have evolves := step.evolves visits fun y q present => (sound.queries y q present).long
  have known : ∀ x, w'.pending.lookup x ≠ none → w.pending.lookup x = none →
      allocateUniqueXid w.pending env.draws = some x :=
    fun x found missing => (evolves x).fresh missing found
  have keys : w'.pending.keys ⊆
      (allocateUniqueXid w.pending env.draws).toList ++ w.pending.keys := by
    intro x member
    obtain ⟨q, found⟩ := HashMap.mem_keys_iff.mp member
    cases present : w.pending.lookup x with
    | none =>
      rw [known x (by simp [found]) present]
      exact List.mem_cons_self
    | some old => exact List.mem_append_right _ (HashMap.mem_keys_iff.mpr ⟨old, present⟩)
  refine ⟨fun x => (evolves x).sound (sound.queries x), ?_, ?_⟩
  · intro x q found
    cases present : w.pending.lookup x with
    | none => exact (allocateUniqueXid_eq_some (known x (by simp [found]) present)).2.1
    | some old => exact sound.ids x old present
  · -- at most the new id has been added, and there was room for it
    have fewer := HashMap.length_le_of_subset keys
    rw [List.length_append, AList.keys, List.keys, List.length_map] at fewer
    cases drawn : allocateUniqueXid w.pending env.draws with
    | none =>
      rw [drawn, Option.toList_none, List.length_nil, Nat.zero_add] at fewer
      exact le_trans fewer sound.size
    | some x =>
      rw [drawn, Option.toList_some, List.length_singleton, Nat.add_comm] at fewer
      exact le_trans fewer (allocateUniqueXid_eq_some drawn).1

theorem Worker.SoundPending.init : Worker.init.SoundPending where
  queries _ _ found := nomatch found
  ids _ _ found := nomatch found
  size := Nat.zero_le _

theorem System.soundPending_step {s t : System} {label : Env × Event}
    (sound : s.worker.SoundPending) (taken : System.step lib s label = some t) :
    t.worker.SoundPending := by
  obtain ⟨allowed, w, sent, turn, rfl⟩ := Step.of_system taken
  exact sound.step turn allowed.2.2.1

/-- The pending queries are sound in every reachable state. -/
theorem soundPending_of_run {labels : List (Env × Event)} {s : System}
    (run : Run.exec (System.step lib) .init labels = some s) : s.worker.SoundPending :=
  Run.exec_keeps (fun s => s.worker.SoundPending) (fun _ _ _ => System.soundPending_step) .init run

end TrimRouter.Dns
