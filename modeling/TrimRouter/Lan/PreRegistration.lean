import TrimRouter.Config.Documents
import TrimRouter.Dns.Replication
import TrimRouter.Lan.Coherence

/-!
# The names announced at boot

`configure_networking_and_services` of `init/mod.rs` queues the name of the router and those of the
reservations with `try_send`, before the DNS forwarder is started.  The channel has room for 64
events, and what does not fit is dropped.  The result is `preregistered_iff`.
-/

namespace TrimRouter.Lan

open Dns

/-! ## The forwarder works through the queue -/

variable {cap : Nat} {lib : Hickory} {customDns : List Ipv4Addr}

/-- A worker that has met nothing but messages of its parent. -/
def quietWorker (servers : List Ipv4Addr) (table : LocalDnsTable) : System :=
  { System.init with worker.upstreamServers := servers, worker.localTable := table }

/-- The forwarder waits in its loop, with such a worker and nothing on the way to it. -/
structure Waiting (s : Forwarder cap) : Prop where
  monitor : s.monitor = .select
  socket : s.toWorker = .empty
  worker : ∃ servers table, s.worker = some (quietWorker servers table)

theorem step_quietWorker {servers : List Ipv4Addr} {table : LocalDnsTable} {msg : ParentMsg} :
    ∃ servers' table', System.step lib (quietWorker servers table) (calm, msg.event) =
      some (quietWorker servers' table') := by
  have allowed : calm.Allowed (quietWorker servers table) :=
    ⟨Nat.le_refl 0, fun _ => rfl, .nil, .nil⟩
  unfold System.step
  rw [if_pos allowed]
  cases msg with
  | setUpstreamResolvers new => exact ⟨new, table, rfl⟩
  | registerLocalHost name ip => exact ⟨servers, table.register name ip, rfl⟩
  | deregisterLocalHost name => exact ⟨servers, table.deregister name, rfl⟩

theorem exec_event {s : Forwarder (cap + 1)} {event : LocalHostEvent}
    {rest : Fifo LocalHostEvent 64} (waiting : Waiting s)
    (popped : s.localHosts.pop = some (event, rest)) :
    ∃ t, Run.exec (Forwarder.step lib customDns) s [.takeEvent, .send, .workerRecv calm] = some t ∧
      Waiting t ∧ t.localHosts = rest ∧ t.processed = s.processed ++ [event] := by
  rcases s with ⟨lease, localHosts, cache, processed, monitor, last, leaseRx, worker, toWorker⟩
  obtain ⟨rfl, rfl, servers, table, rfl⟩ := waiting
  obtain ⟨servers', table', received⟩ :=
    @step_quietWorker lib servers table (.ofLocalHost event)
  have taken : Forwarder.step lib customDns
      ⟨lease, localHosts, cache, processed, .select, last, leaseRx,
        some (quietWorker servers table), (.empty : Fifo ParentMsg (cap + 1))⟩ .takeEvent =
      some ⟨lease, rest, cache.handle event, processed ++ [event], .sendHost event, last, leaseRx,
        some (quietWorker servers table), .empty⟩ := by
    simp only [Forwarder.step, if_true]
    rw [show localHosts.pop = some (event, rest) from popped]
    rfl
  refine ⟨⟨lease, rest, cache.handle event, processed ++ [event], .select, last, leaseRx,
    some (quietWorker servers' table'), .empty⟩, ?_, ⟨rfl, rfl, servers', table', rfl⟩, rfl, rfl⟩
  rw [Run.exec_cons, taken]
  change ((System.step lib (quietWorker servers table) (calm, _)).map _).bind _ = _
  rw [received]
  rfl

/-- The forwarder starts a worker and reaches its loop. -/
theorem exec_start {queued : Fifo LocalHostEvent 64} :
    ∃ labels s, Run.exec (Forwarder.step lib customDns)
        (Forwarder.init queued : Forwarder (cap + 1)) labels = some s ∧
      Waiting s ∧ s.localHosts = queued ∧ s.processed = [] := by
  cases customDns with
  | nil =>
    refine ⟨[.spawn, .begin, .clone [], .send], _, rfl, ⟨rfl, rfl, [], .empty, rfl⟩, rfl, rfl⟩
  | cons first others =>
    refine ⟨[.spawn, .begin, .send, .workerRecv calm, .clone [], .send], _, rfl,
      ⟨rfl, rfl, first :: others, .empty, rfl⟩, rfl, rfl⟩

/-- The forwarder works through the whole queue. -/
theorem exec_drain {s : Forwarder (cap + 1)} (waiting : Waiting s) :
    ∃ labels t, Run.exec (Forwarder.step lib customDns) s labels = some t ∧ Waiting t ∧
      t.processed = s.processed ++ s.localHosts.items := by
  generalize queue : s.localHosts.items = events
  induction events generalizing s with
  | nil => exact ⟨[], s, rfl, waiting, (List.append_nil _).symm⟩
  | cons event later ih =>
    have bounded : later.length ≤ 64 := by
      have := s.localHosts.bounded
      rw [queue, List.length_cons] at this
      omega
    have popped : s.localHosts.pop = some (event, ⟨later, bounded⟩) :=
      Fifo.pop_eq_some.mpr queue
    obtain ⟨u, first, waiting', rest, processed⟩ :=
      @exec_event cap lib customDns s event _ waiting popped
    obtain ⟨labels, t, run, waiting'', processed'⟩ := ih waiting' (congrArg Fifo.items rest)
    refine ⟨[ForwarderLabel.takeEvent, .send, .workerRecv calm] ++ labels, t, ?_, waiting'', ?_⟩
    · rw [Run.exec_append, first]
      exact run
    · rw [processed', processed, List.append_assoc, List.singleton_append]

theorem exec_boot_drain {queued : Fifo LocalHostEvent 64} :
    ∃ labels s sys, Run.exec (Forwarder.step lib customDns)
        (Forwarder.init queued : Forwarder (cap + 1)) labels = some s ∧
      s.worker = some sys ∧ s.Settled ∧ s.processed = queued.items := by
  obtain ⟨before, s, start, waiting, queue, none⟩ := @exec_start cap lib customDns queued
  obtain ⟨after, t, drain, waiting', processed⟩ := @exec_drain cap lib customDns s waiting
  obtain ⟨servers, table, running⟩ := waiting'.worker
  refine ⟨before ++ after, t, _, ?_, running, ⟨.inl waiting'.monitor, ?_⟩, ?_⟩
  · rw [Run.exec_append, start]
    exact drain
  · rw [waiting'.socket]
    rfl
  · rw [processed, none, queue, List.nil_append]

/-! ## What the worker then knows -/

/-- The table has the router and every reservation with a name. -/
structure PreRegistered (cfg : RouterConfig) (table : LocalDnsTable) : Prop where
  router : table.hosts.lookup routerHostname = some cfg.lanIp.addr
  reservations : ∀ lease ∈ cfg.staticLeases, ∀ name ∈ lease.hostname,
    table.hosts.lookup name = some lease.ip

variable {cfg : RouterConfig} {hosts : Hosts} {name : String} {ip : Ipv4Addr}

theorem announcedNames_nodup (wf : cfg.WellFormed) :
    ((announcements cfg.lanIp.addr cfg.staticLeases).map LocalHostEvent.name).Nodup := by
  rw [map_name_announcements]
  exact List.nodup_cons.mpr ⟨wf.notRouter, wf.hostnames⟩

theorem length_announcements :
    (announcements cfg.lanIp.addr cfg.staticLeases).length =
      (cfg.staticLeases.filterMap StaticLease.hostname).length + 1 := by
  rw [← List.length_map LocalHostEvent.name, map_name_announcements]
  rfl

theorem mem_announcements {lease : StaticLease} (listed : lease ∈ cfg.staticLeases)
    (named : name ∈ lease.hostname) :
    .register name lease.ip ∈ announcements cfg.lanIp.addr cfg.staticLeases := by
  refine List.mem_cons_of_mem _ (List.mem_filterMap.mpr ⟨lease, listed, ?_⟩)
  rw [Option.mem_def.mp named]
  rfl

/-- What is announced after the router is a reservation. -/
theorem mem_announcements_tail {event : LocalHostEvent}
    (later : event ∈ (announcements cfg.lanIp.addr cfg.staticLeases).tail) :
    ∃ lease ∈ cfg.staticLeases, event.name ∈ lease.hostname := by
  obtain ⟨lease, listed, made⟩ := List.mem_filterMap.mp later
  obtain ⟨name, named, rfl⟩ := Option.map_eq_some_iff.mp made
  exact ⟨lease, listed, named⟩

theorem exists_dropped (wf : cfg.WellFormed)
    (many : 63 < (cfg.staticLeases.filterMap StaticLease.hostname).length) :
    ∃ lease ∈ cfg.staticLeases, ∃ name ∈ lease.hostname,
      ((State.boot cfg).localHosts.items.foldl Hosts.handle ∅).lookup name = none := by
  have distinct := announcedNames_nodup wf
  have length := @length_announcements cfg
  rw [State.items_boot]
  generalize split : announcements cfg.lanIp.addr cfg.staticLeases = events at distinct length
  cases rest : events.drop 64 with
  | nil =>
    have short := List.drop_eq_nil_iff.mp rest
    omega
  | cons event others =>
    have dropped : event ∈ events.drop 64 := by
      rw [rest]
      exact List.mem_cons_self
    have later : event ∈ events.tail := by
      rw [← List.drop_one]
      exact List.drop_subset_drop_left events (by decide) dropped
    rw [← split] at later
    obtain ⟨lease, listed, named⟩ := mem_announcements_tail later
    refine ⟨lease, listed, event.name, named, lookup_foldl_of_other ?_⟩
    intro queued inside same
    rw [← List.take_append_drop 64 events, List.map_append] at distinct
    exact List.disjoint_of_nodup_append distinct (List.mem_map_of_mem inside)
      (same ▸ List.mem_map_of_mem dropped)

/-- For every accepted configuration: once the worker has everything that was queued at boot,
it knows the router and all reservations by their names, if and only if at most 63 of them
have one. -/
theorem preregistered_iff {parsers : Parsers} {doc : ConfigToml} {config : RouterConfig}
    (accepted : RouterConfig.parse parsers doc = .ok config) (lib : Hickory) (cap : Nat) :
    (∀ (labels : List ForwarderLabel) (s : Forwarder (cap + 1)) (sys : System),
      Run.exec (Forwarder.step lib config.dnsServers) (.init (State.boot config).localHosts)
        labels = some s →
      s.worker = some sys → s.Settled → s.processed = (State.boot config).localHosts.items →
        PreRegistered config sys.worker.localTable) ↔
      (config.staticLeases.filterMap StaticLease.hostname).length ≤ 63 := by
  have wf := RouterConfig.parse_wellFormed accepted
  have known : ∀ {labels : List ForwarderLabel} {s : Forwarder (cap + 1)} {sys : System},
      Run.exec (Forwarder.step lib config.dnsServers) (.init (State.boot config).localHosts)
        labels = some s →
      s.worker = some sys → s.Settled → s.processed = (State.boot config).localHosts.items →
        ∀ name, sys.worker.localTable.hosts.lookup name =
          ((State.boot config).localHosts.items.foldl Hosts.handle ∅).lookup name := by
    intro labels s sys run running settled processed name
    have synced := Forwarder.Synced.keep.exec .init (.of_forall fun _ _ => trivial) run
    rw [synced.lookup_hosts settled running, processed]
  constructor
  · intro complete
    by_contra many
    obtain ⟨lease, listed, name, named, missing⟩ := exists_dropped wf (by omega)
    obtain ⟨labels, s, sys, run, running, settled, processed⟩ :=
      @exec_boot_drain cap lib config.dnsServers (State.boot config).localHosts
    have found := (complete labels s sys run running settled processed).reservations lease listed
      name named
    rw [known run running settled processed, missing] at found
    cases found
  · intro few labels s sys run running settled processed
    have distinct := announcedNames_nodup wf
    have queued : (State.boot config).localHosts.items =
        announcements config.lanIp.addr config.staticLeases := by
      rw [State.items_boot]
      apply List.take_of_length_le
      rw [length_announcements]
      omega
    have names := known run running settled processed
    rw [queued] at names
    refine ⟨?_, ?_⟩
    · rw [names]
      exact lookup_foldl_register distinct List.mem_cons_self
    · intro lease listed name named
      rw [names]
      exact lookup_foldl_register distinct (mem_announcements listed named)

/-! ## A configuration with 64 names -/

/-- Names of two letters. -/
def shortName (i : Nat) : String :=
  String.ofList [Char.ofNat (97 + i / 8), Char.ofNat (97 + i % 8)]

theorem shortName_nodup : ((List.range 64).map shortName).Nodup := by decide +kernel

theorem shortName_valid :
    ∀ i < 64, sanitizeHostname (shortName i) = some (shortName i) ∧
      shortName i ≠ routerHostname := by
  decide +kernel

/-- Reservations with names. -/
def named (n : Nat) : List StaticLease := crowd (fun i => some (shortName i)) n

theorem hostnames_named {n : Nat} :
    (named n).filterMap StaticLease.hostname = (List.range n).map shortName := by
  rw [named, crowd, List.filterMap_map, ← List.filterMap_eq_map]
  rfl

theorem parse_named {n : Nat} (few : n ≤ 64) :
    RouterConfig.parse .std (crowdDocWith (named n)) = .ok (crowdConfigWith (named n)) := by
  have range : (List.range n).filterMap (fun i => some (shortName i)) =
      (List.range n).map shortName := congrFun List.filterMap_eq_map _
  refine parse_crowd (by omega) ?_ ?_ ?_
  · intro i inside host same
    cases same
    exact (shortName_valid i (by omega)).1
  · rw [range]
    exact shortName_nodup.sublist ((List.range_sublist.mpr few).map shortName)
  · rw [range]
    intro listed
    obtain ⟨i, inside, same⟩ := List.mem_map.mp listed
    exact (shortName_valid i (by have := List.mem_range.mp inside; omega)).2 same

/-- Sixty-three names all reach the worker. -/
theorem preregistered_for_63 :
    RouterConfig.parse .std (crowdDocWith (named 63)) = .ok (crowdConfigWith (named 63)) ∧
      ∀ (labels : List ForwarderLabel) (s : Forwarder 16) (sys : System),
        Run.exec (Forwarder.step Uncompressed.library [])
          (.init (State.boot (crowdConfigWith (named 63))).localHosts) labels = some s →
        s.worker = some sys → s.Settled →
        s.processed =
          (State.boot (crowdConfigWith (named 63))).localHosts.items →
          PreRegistered (crowdConfigWith (named 63)) sys.worker.localTable := by
  have accepted := parse_named (n := 63) (by decide)
  refine ⟨accepted, (preregistered_iff accepted Uncompressed.library 15).mpr ?_⟩
  rw [crowdConfigWith, hostnames_named, List.length_map, List.length_range]

/-- Of 64 names the last one is dropped: the forwarder works through the queue, and its worker
does not know it. -/
theorem last_name_dropped :
    RouterConfig.parse .std (crowdDocWith (named 64)) = .ok (crowdConfigWith (named 64)) ∧
      ∃ (labels : List ForwarderLabel) (s : Forwarder 16) (sys : System),
        Run.exec (Forwarder.step Uncompressed.library [])
          (.init (State.boot (crowdConfigWith (named 64))).localHosts) labels = some s ∧
        s.worker = some sys ∧ s.Settled ∧
        s.processed = (State.boot (crowdConfigWith (named 64))).localHosts.items ∧
        ∃ lease ∈ named 64, ∃ name ∈ lease.hostname,
          sys.worker.localTable.hosts.lookup name = none := by
  have accepted := parse_named (n := 64) (by decide)
  have wf := RouterConfig.parse_wellFormed accepted
  refine ⟨accepted, ?_⟩
  obtain ⟨labels, s, sys, run, running, settled, processed⟩ :=
    @exec_boot_drain 15 Uncompressed.library []
      (State.boot (crowdConfigWith (named 64))).localHosts
  have many : 63 < ((named 64).filterMap StaticLease.hostname).length := by
    rw [hostnames_named, List.length_map, List.length_range]
    decide
  obtain ⟨lease, listed, name, called, missing⟩ := exists_dropped wf many
  have synced := Forwarder.Synced.keep.exec .init (.of_forall fun _ _ => trivial) run
  refine ⟨labels, s, sys, run, running, settled, processed, lease, listed, name, called, ?_⟩
  rw [synced.lookup_hosts settled running, processed]
  exact missing

end TrimRouter.Lan
