import TrimRouter.Dns.Steps
import TrimRouter.Dns.Uncompressed
import TrimRouter.Lan.Manager
import TrimRouter.Lib.Watch

/-!
# Replication of the local names and the resolvers

The parent of the DNS forwarder (`run_parent_dns_monitor` of `services/dns_forwarder/manager.rs`)
and its worker.  The parent keeps the local names in a cache, which outlives its workers, and
the resolvers follow the WAN lease, which it reads from a watch channel.  A new worker starts
with nothing and is sent both before the loop begins; after that each change is sent on.  The
worker may be gone at any time, and then a send fails.

`View` is what the worker knows of the two, and what the messages on the way to it will make of
that.  `replicas_agree` is about a worker that is not behind.

Left out: the heartbeats of the worker, which change neither, and the log messages.
-/

namespace TrimRouter.Dns

open Lan

/-! ## The two processes -/

/-- `DnsParentToWorkerMsg`. -/
inductive ParentMsg where
  | setUpstreamResolvers (servers : List Ipv4Addr)
  | registerLocalHost (name : String) (ip : Ipv4Addr)
  | deregisterLocalHost (name : String)
deriving DecidableEq

/-- The event that a message is for the worker. -/
def ParentMsg.event : ParentMsg → Event
  | .setUpstreamResolvers servers => .setUpstreamResolvers servers
  | .registerLocalHost name ip => .registerLocalHost name ip
  | .deregisterLocalHost name => .deregisterLocalHost name

/-- The message that the parent makes of a local-host event. -/
def ParentMsg.ofLocalHost : LocalHostEvent → ParentMsg
  | .register name ip => .registerLocalHost name ip
  | .deregister name => .deregisterLocalHost name

/-- Where the parent is. -/
inductive MonitorPc where
  /-- no worker is supervised -/
  | off
  /-- before the initial sync -/
  | starting
  /-- in the send of the initial resolvers -/
  | sendInitial (servers : List Ipv4Addr)
  /-- before the clone of the cache -/
  | clone
  /-- in the loop over the clone, with these entries left -/
  | replay (entries : List (String × Ipv4Addr))
  /-- in `select!` -/
  | select
  /-- in `update_upstream_resolvers` -/
  | sendResolvers (servers : List Ipv4Addr)
  /-- in the send of a local-host event -/
  | sendHost (event : LocalHostEvent)
  /-- after the loop, before `terminate_worker` -/
  | leaving
deriving DecidableEq

/-- The DNS forwarder and the channels that it reads.  `processed` is the history of the
events taken from the channel, which the code never reads. -/
structure Forwarder (cap : Nat) where
  lease : Watch WanLease
  localHosts : Fifo LocalHostEvent 64
  cache : Hosts
  processed : List LocalHostEvent
  monitor : MonitorPc
  lastDnsServers : List Ipv4Addr
  leaseRx : Watch.Receiver
  worker : Option System
  toWorker : Fifo ParentMsg cap

/-- One step. -/
inductive ForwarderLabel where
  /-- the DHCP server or the LAN manager puts an event into the channel -/
  | localHost (event : LocalHostEvent)
  /-- the DHCP client changes the lease -/
  | wanLease (lease : WanLease)
  /-- the DHCP client is gone -/
  | dropLease
  /-- the supervisor starts a worker and its monitor -/
  | spawn
  /-- the worker is gone -/
  | crash
  /-- the worker handles an event from outside -/
  | worker (env : Env) (event : Event)
  /-- the worker receives a message of the parent -/
  | workerRecv (env : Env)
  /-- the parent begins the initial sync -/
  | begin
  /-- the parent clones the cache, whose iteration visits the names in this order -/
  | clone (order : List String)
  /-- the parent goes on from its send -/
  | send
  /-- `lease_rx.changed` -/
  | leaseChanged
  /-- the parent takes an event from the channel -/
  | takeEvent
  /-- the parent finds the socket closed -/
  | ipcClosed
  | shutdown
  /-- `terminate_worker`, and the end of the monitor -/
  | terminate

/-- What a step puts into the channel of local-host events. -/
def ForwarderLabel.puts : ForwarderLabel → List LocalHostEvent
  | .localHost event => [event]
  | _ => []

namespace Forwarder

variable {cap : Nat}

/-- The service with the given events in the channel, before its first worker. -/
def init (queued : Fifo LocalHostEvent 64) : Forwarder cap where
  lease := (Watch.channel WanLease.default).1
  localHosts := queued
  cache := ∅
  processed := []
  monitor := .off
  lastDnsServers := []
  leaseRx := (Watch.channel WanLease.default).2
  worker := none
  toWorker := .empty

/-- `ipc.send`, and whether it succeeds; it waits while the socket is full. -/
def transmit (s : Forwarder cap) (msg : ParentMsg) : Option (Bool × Forwarder cap) :=
  match s.worker with
  | none => some (false, s)
  | some _ => (s.toWorker.push msg).map fun toWorker => (true, { s with toWorker })

/-- The parent goes on from its send.  Only `update_upstream_resolvers` in the loop ends it
with an error. -/
def send (s : Forwarder cap) : Option (Forwarder cap) :=
  match s.monitor with
  | .sendInitial servers =>
    (s.transmit (.setUpstreamResolvers servers)).map fun (_, s) =>
      { s with lastDnsServers := servers, monitor := .clone }
  | .replay [] => some { s with monitor := .select }
  | .replay ((name, ip) :: rest) =>
    (s.transmit (.registerLocalHost name ip)).map fun (_, s) =>
      { s with monitor := .replay rest }
  | .sendResolvers servers =>
    (s.transmit (.setUpstreamResolvers servers)).map fun (ok, s) =>
      if ok then { s with lastDnsServers := servers, monitor := .select }
      else { s with monitor := .leaving }
  | .sendHost event =>
    (s.transmit (.ofLocalHost event)).map fun (_, s) => { s with monitor := .select }
  | .off | .starting | .clone | .select | .leaving => none

variable (lib : Hickory) (customDns : List Ipv4Addr)

/-- The first step of the initial sync: the custom resolvers, or those of the lease. -/
def begin (s : Forwarder cap) : Forwarder cap :=
  if customDns = [] then
    let (lease, leaseRx) := s.lease.borrowAndUpdate
    { s with
      leaseRx
      monitor := if lease.dnsServers = [] then .clone else .sendInitial lease.dnsServers }
  else { s with monitor := .sendInitial customDns }

/-- The branch of `lease_rx.changed`. -/
def leaseChanged (s : Forwarder cap) : Option (Forwarder cap) :=
  match s.lease.changed s.leaseRx with
  | none => none
  | some (false, _) => some { s with monitor := .leaving }
  | some (true, leaseRx) =>
    if customDns = [] then
      let (lease, leaseRx) := s.lease.borrowAndUpdate
      if lease.dnsServers = s.lastDnsServers then some { s with leaseRx }
      else some { s with leaseRx, monitor := .sendResolvers lease.dnsServers }
    else some { s with leaseRx }

/-- One step of the service. -/
def step (s : Forwarder cap) : ForwarderLabel → Option (Forwarder cap)
  | .localHost event => (s.localHosts.push event).map fun localHosts => { s with localHosts }
  | .wanLease lease => some { s with lease := s.lease.send lease }
  | .dropLease => some { s with lease := s.lease.close }
  | .spawn =>
    -- a new socket pair, and a clone of the receiver that the service was built with
    if s.monitor = .off then
      some { s with
        worker := some .init, toWorker := .empty, monitor := .starting, lastDnsServers := [],
        leaseRx := (Watch.channel WanLease.default).2 }
    else none
  | .crash => if s.worker.isSome then some { s with worker := none } else none
  | .worker env event =>
    if event.ofOutside then
      s.worker.bind fun sys =>
        (sys.step lib (env, event)).map fun sys => { s with worker := some sys }
    else none
  | .workerRecv env =>
    s.worker.bind fun sys =>
      s.toWorker.pop.bind fun (msg, toWorker) =>
        (sys.step lib (env, msg.event)).map fun sys => { s with worker := some sys, toWorker }
  | .begin => if s.monitor = .starting then some (s.begin customDns) else none
  | .clone order =>
    if s.monitor = .clone ∧ s.cache.IsOrder order then
      some { s with monitor := .replay (s.cache.iter order) }
    else none
  | .send => s.send
  | .leaseChanged => if s.monitor = .select then s.leaseChanged customDns else none
  | .takeEvent =>
    if s.monitor = .select then
      s.localHosts.pop.map fun (event, localHosts) =>
        { s with
          localHosts, cache := s.cache.handle event, processed := s.processed ++ [event],
          monitor := .sendHost event }
    else none
  | .ipcClosed =>
    if s.monitor = .select ∧ s.worker.isNone then some { s with monitor := .leaving } else none
  | .shutdown => if s.monitor = .select then some { s with monitor := .leaving } else none
  | .terminate =>
    if s.monitor = .leaving then some { s with worker := none, monitor := .off } else none

end Forwarder

/-! ## What the worker knows -/

/-- The resolvers and the names, as functions of the messages of the parent. -/
structure View where
  resolvers : List Ipv4Addr
  host : String → Option Ipv4Addr

namespace View

/-- The view of a new worker. -/
def empty : View := ⟨[], fun _ => none⟩

/-- What a message does to it. -/
def apply (v : View) : ParentMsg → View
  | .setUpstreamResolvers servers => { v with resolvers := servers }
  | .registerLocalHost name ip => { v with host := Function.update v.host name (some ip) }
  | .deregisterLocalHost name => { v with host := Function.update v.host name none }

end View

/-- What a worker knows. -/
def Worker.view (w : Worker) : View := ⟨w.upstreamServers, w.localTable.hosts.lookup⟩

section

variable {lib : Hickory} {env : Env} {w w' : Worker} {ticket : Nat} {event : Event}
  {sent : List Output}

/-- What comes from outside changes neither the names nor the resolvers. -/
theorem Step.sameNames (step : Step lib env ticket w event w' sent)
    (outside : event.ofOutside = true) : w.SameNames w' := by
  cases step with
  | quiet keeps => exact keeps.names outside
  | localReply keeps | hit keeps => exact keeps.names rfl
  | join keeps | forward keeps => exact ⟨(keeps.names rfl).1, (keeps.names rfl).2⟩
  | @tcpEvent report _ _ => cases report <;> exact ⟨rfl, rfl⟩
  | _ => exact ⟨rfl, rfl⟩

theorem LocalDnsTable.lookup_register {table : LocalDnsTable} {name : String} {ip : Ipv4Addr} :
    (table.register name ip).hosts.lookup = Function.update table.hosts.lookup name (some ip) := by
  funext other
  rw [Function.update_apply]
  exact HashMap.lookup_insert_eq

theorem LocalDnsTable.lookup_deregister {table : LocalDnsTable} {name : String} :
    (table.deregister name).hosts.lookup = Function.update table.hosts.lookup name none := by
  funext other
  rw [Function.update_apply]
  unfold deregister
  split
  · exact HashMap.lookup_erase_eq
  · rename_i missing
    split
    · rename_i same
      rw [same, missing]
    · rfl

theorem Worker.view_handle {msg : ParentMsg}
    (handled : w.handle lib env ticket msg.event = some (w', sent)) :
    w'.view = w.view.apply msg := by
  cases msg with
  | setUpstreamResolvers servers =>
    cases handled
    rfl
  | registerLocalHost name ip =>
    cases handled
    exact congrArg (View.mk w.upstreamServers) LocalDnsTable.lookup_register
  | deregisterLocalHost name =>
    cases handled
    exact congrArg (View.mk w.upstreamServers) LocalDnsTable.lookup_deregister

theorem System.worker_of_step {s t : System}
    (taken : System.step lib s (env, event) = some t) :
    ∃ sent, s.worker.handle lib env s.received.length event = some (t.worker, sent) := by
  obtain ⟨-, taken⟩ := Option.ite_none_right_eq_some.mp taken
  obtain ⟨⟨w, sent⟩, handled, rfl⟩ := Option.map_eq_some_iff.mp taken
  exact ⟨sent, handled⟩

theorem System.view_of_outside {s t : System} (outside : event.ofOutside = true)
    (taken : System.step lib s (env, event) = some t) : t.worker.view = s.worker.view := by
  obtain ⟨sent, handled⟩ := System.worker_of_step taken
  obtain ⟨servers, table⟩ := (Step.of_handle handled).sameNames outside
  unfold Worker.view
  rw [servers, table]

theorem System.view_of_recv {s t : System} {msg : ParentMsg}
    (taken : System.step lib s (env, msg.event) = some t) :
    t.worker.view = s.worker.view.apply msg := by
  obtain ⟨sent, handled⟩ := System.worker_of_step taken
  exact Worker.view_handle handled

end

/-! ## How far behind the worker is -/

namespace Forwarder

variable {cap : Nat} {lib : Hickory} {customDns : List Ipv4Addr} {s t : Forwarder cap}

/-- What the messages on the way will make of what a worker knows. -/
def ahead (s : Forwarder cap) (sys : System) : View :=
  s.toWorker.items.foldl View.apply sys.worker.view

/-- These are the resolvers to use, as far as the parent has seen the lease. -/
def Current (customDns : List Ipv4Addr) (s : Forwarder cap) (servers : List Ipv4Addr) : Prop :=
  if customDns = [] then s.leaseRx.seen = s.lease.version → servers = s.lease.value.dnsServers
  else servers = customDns

/-- The worker will know the names of the cache and the resolvers that were sent last. -/
structure Level (customDns : List Ipv4Addr) (s : Forwarder cap) (v : View) : Prop where
  hosts : v.host = s.cache.lookup
  resolvers : v.resolvers = s.lastDnsServers
  current : s.Current customDns s.lastDnsServers

/-- What the worker will know, at each point of the parent: what is missing is what the parent
still has to send. -/
inductive Agrees (customDns : List Ipv4Addr) (s : Forwarder cap) (v : View) : MonitorPc → Prop where
  | starting (blank : v = .empty) (last : s.lastDnsServers = []) : Agrees customDns s v .starting
  | sendInitial {servers : List Ipv4Addr} (hosts : v.host = fun _ => none)
      (current : s.Current customDns servers) : Agrees customDns s v (.sendInitial servers)
  | clone (hosts : v.host = fun _ => none) (resolvers : v.resolvers = s.lastDnsServers)
      (current : s.Current customDns s.lastDnsServers) : Agrees customDns s v .clone
  | replay {entries : List (String × Ipv4Addr)}
      (level : s.Level customDns { v with host := entries.foldl HashMap.write v.host }) :
      Agrees customDns s v (.replay entries)
  | select (level : s.Level customDns v) : Agrees customDns s v .select
  | sendResolvers {servers : List Ipv4Addr} (hosts : v.host = s.cache.lookup)
      (current : s.Current customDns servers) : Agrees customDns s v (.sendResolvers servers)
  | sendHost {event : LocalHostEvent} (level : s.Level customDns (v.apply (.ofLocalHost event))) :
      Agrees customDns s v (.sendHost event)
  | leaving (level : s.Level customDns v) : Agrees customDns s v .leaving

/-- The state of the service. -/
structure Synced (customDns : List Ipv4Addr) (s : Forwarder cap) : Prop where
  cache : s.cache = s.processed.foldl Hosts.handle ∅
  seen : s.leaseRx.seen ≤ s.lease.version
  alive : ∀ sys, s.worker = some sys → Agrees customDns s (s.ahead sys) s.monitor

/-- A step elsewhere leaves the parent where it is. -/
theorem Agrees.mono {v : View} {pc : MonitorPc} (agrees : Agrees customDns s v pc)
    (last : t.lastDnsServers = s.lastDnsServers) (cache : t.cache = s.cache)
    (still : ∀ servers, s.Current customDns servers → t.Current customDns servers) :
    Agrees customDns t v pc := by
  have levels : ∀ {v : View}, s.Level customDns v → t.Level customDns v := by
    intro v ⟨hosts, resolvers, current⟩
    rw [← last] at resolvers current
    exact ⟨cache ▸ hosts, resolvers, still _ current⟩
  cases agrees with
  | starting blank noneSent => exact .starting blank (last.trans noneSent)
  | sendInitial hosts current => exact .sendInitial hosts (still _ current)
  | clone hosts resolvers current =>
    rw [← last] at resolvers current
    exact .clone hosts resolvers (still _ current)
  | replay level => exact .replay (levels level)
  | select level => exact .select (levels level)
  | sendResolvers hosts current => exact .sendResolvers (cache ▸ hosts) (still _ current)
  | sendHost level => exact .sendHost (levels level)
  | leaving level => exact .leaving (levels level)

/-- After a new lease no resolvers are known to be the ones to use. -/
theorem Current.send {lease : WanLease} {servers : List Ipv4Addr}
    (seen : s.leaseRx.seen ≤ s.lease.version) (current : s.Current customDns servers) :
    ({ s with lease := s.lease.send lease } : Forwarder cap).Current customDns servers := by
  unfold Current at current ⊢
  split at current
  · rename_i noCustom
    rw [if_pos noCustom]
    intro same
    change s.leaseRx.seen = s.lease.version + 1 at same
    omega
  · rename_i custom
    rw [if_neg custom]
    exact current

variable {msg : ParentMsg}

theorem transmit_eq_some {ok : Bool} (h : s.transmit msg = some (ok, t)) :
    (s.worker = none ∧ ok = false ∧ t = s) ∨
      ∃ toWorker : Fifo ParentMsg cap, ok = true ∧
        toWorker.items = s.toWorker.items ++ [msg] ∧ t = { s with toWorker } := by
  unfold transmit at h
  split at h
  · rename_i gone
    cases h
    exact .inl ⟨gone, rfl, rfl⟩
  · obtain ⟨toWorker, pushed, same⟩ := Option.map_eq_some_iff.mp h
    cases same
    exact .inr ⟨toWorker, rfl, (Fifo.push_eq_some.mp pushed).2, rfl⟩

variable {sys : System}

theorem ahead_push {toWorker : Fifo ParentMsg cap}
    (pushed : toWorker.items = s.toWorker.items ++ [msg]) :
    ({ s with toWorker } : Forwarder cap).ahead sys = (s.ahead sys).apply msg := by
  unfold ahead
  rw [pushed, List.foldl_append]
  rfl

theorem ahead_pop {sys' : System} {toWorker : Fifo ParentMsg cap}
    {worker : Option System} (popped : s.toWorker.items = msg :: toWorker.items)
    (received : sys'.worker.view = sys.worker.view.apply msg) :
    ({ s with worker, toWorker } : Forwarder cap).ahead sys' = s.ahead sys := by
  unfold ahead
  rw [popped, received, List.foldl_cons]

theorem view_init : System.init.worker.view = .empty := by
  unfold Worker.view View.empty
  congr 1

/-- The parent goes on from a send: a worker that is there will know of it. -/
theorem Synced.transmit {ok : Bool} {last : List Ipv4Addr} {pc : MonitorPc}
    (synced : Synced customDns s) (h : s.transmit msg = some (ok, t))
    (next : ∀ v, Agrees customDns s v s.monitor →
      Agrees customDns { s with lastDnsServers := last } (v.apply msg) pc) :
    Synced customDns { t with lastDnsServers := last, monitor := pc } := by
  obtain ⟨cache, seen, alive⟩ := synced
  rcases transmit_eq_some h with ⟨gone, -, rfl⟩ | ⟨toWorker, -, pushed, rfl⟩
  · refine ⟨cache, seen, ?_⟩
    intro sys worker
    cases gone.symm.trans worker
  · refine ⟨cache, seen, ?_⟩
    intro sys worker
    have sent : ({ s with toWorker } : Forwarder cap).ahead sys = (s.ahead sys).apply msg :=
      ahead_push pushed
    have agrees := next _ (alive sys worker)
    rw [← sent] at agrees
    exact agrees.mono rfl rfl fun _ current => current

theorem lastDnsServers_transmit {ok : Bool} (h : s.transmit msg = some (ok, t)) :
    t.lastDnsServers = s.lastDnsServers := by
  rcases transmit_eq_some h with ⟨-, -, rfl⟩ | ⟨toWorker, -, -, rfl⟩ <;> rfl

section

variable (synced : Synced customDns s)

include synced

/-- The same for a send that is not about the resolvers. -/
theorem Synced.transmitHost {ok : Bool} {pc : MonitorPc} (h : s.transmit msg = some (ok, t))
    (next : ∀ v, Agrees customDns s v s.monitor → Agrees customDns s (v.apply msg) pc) :
    Synced customDns { t with monitor := pc } := by
  have kept : Synced customDns { t with lastDnsServers := s.lastDnsServers, monitor := pc } :=
    synced.transmit h next
  rw [← lastDnsServers_transmit h] at kept
  exact kept

theorem Synced.send (h : s.send = some t) : Synced customDns t := by
  unfold Forwarder.send at h
  split at h
  · -- the initial resolvers
    rename_i servers pc
    obtain ⟨⟨ok, s'⟩, sent, rfl⟩ := Option.map_eq_some_iff.mp h
    refine synced.transmit sent ?_
    intro v agrees
    rw [pc] at agrees
    cases agrees with
    | sendInitial hosts current => exact .clone hosts rfl current
  · -- the end of the replay
    rename_i pc
    cases h
    refine ⟨synced.cache, synced.seen, ?_⟩
    intro sys worker
    have agrees := synced.alive sys worker
    rw [pc] at agrees
    cases agrees with
    | replay level => exact .select ⟨level.hosts, level.resolvers, level.current⟩
  · -- one entry of the cache
    rename_i name ip rest pc
    obtain ⟨⟨ok, s'⟩, sent, rfl⟩ := Option.map_eq_some_iff.mp h
    refine synced.transmitHost sent ?_
    intro v agrees
    rw [pc] at agrees
    cases agrees with
    | replay level => exact .replay level
  · -- new resolvers
    rename_i servers pc
    obtain ⟨⟨ok, s'⟩, sent, rfl⟩ := Option.map_eq_some_iff.mp h
    simp only
    split
    · refine synced.transmit sent ?_
      intro v agrees
      rw [pc] at agrees
      cases agrees with
      | sendResolvers hosts current => exact .select ⟨hosts, rfl, current⟩
    · -- the send failed, so there is no worker
      rename_i failed
      rcases transmit_eq_some sent with ⟨gone, -, rfl⟩ | ⟨toWorker, ok, -, -⟩
      · refine ⟨synced.cache, synced.seen, ?_⟩
        intro sys worker
        cases gone.symm.trans worker
      · exact absurd ok failed
  · -- a local-host event
    rename_i event pc
    obtain ⟨⟨ok, s'⟩, sent, rfl⟩ := Option.map_eq_some_iff.mp h
    refine synced.transmitHost sent ?_
    intro v agrees
    rw [pc] at agrees
    cases agrees with
    | sendHost level => exact .select level
  all_goals cases h

theorem Synced.begin (pc : s.monitor = .starting) :
    Synced customDns (s.begin customDns) := by
  obtain ⟨cache, seen, alive⟩ := synced
  have blank : ∀ sys, s.worker = some sys → s.ahead sys = .empty ∧ s.lastDnsServers = [] := by
    intro sys worker
    have agrees := alive sys worker
    rw [pc] at agrees
    cases agrees with
    | starting blank last => exact ⟨blank, last⟩
  by_cases noCustom : customDns = []
  · have seenNow : ∀ servers, servers = s.lease.value.dnsServers →
        ({ s with leaseRx := ⟨s.lease.version⟩ } : Forwarder cap).Current customDns servers := by
      intro servers same
      simp only [Current, if_pos noCustom, same, implies_true]
    by_cases noServers : s.lease.value.dnsServers = []
    · have begun : s.begin customDns =
          { s with leaseRx := ⟨s.lease.version⟩, monitor := .clone } := by
        simp [Forwarder.begin, noCustom, noServers, Watch.borrowAndUpdate]
      rw [begun]
      refine ⟨cache, Nat.le_refl _, ?_⟩
      intro sys worker
      obtain ⟨blank, last⟩ := blank sys worker
      exact .clone (congrArg View.host blank) ((congrArg View.resolvers blank).trans last.symm)
        (seenNow _ (last.trans noServers.symm))
    · have begun : s.begin customDns =
          { s with
            leaseRx := ⟨s.lease.version⟩, monitor := .sendInitial s.lease.value.dnsServers } := by
        simp [Forwarder.begin, noCustom, noServers, Watch.borrowAndUpdate]
      rw [begun]
      refine ⟨cache, Nat.le_refl _, ?_⟩
      intro sys worker
      exact .sendInitial (congrArg View.host (blank sys worker).1) (seenNow _ rfl)
  · have begun : s.begin customDns = { s with monitor := .sendInitial customDns } := by
      simp [Forwarder.begin, noCustom]
    rw [begun]
    refine ⟨cache, seen, ?_⟩
    intro sys worker
    refine .sendInitial (congrArg View.host (blank sys worker).1) ?_
    simp only [Current, if_neg noCustom]

/-- Between two sends the worker is level with the parent. -/
theorem Synced.level_of_select (pc : s.monitor = .select) (worker : s.worker = some sys) :
    s.Level customDns (s.ahead sys) := by
  have agrees := synced.alive sys worker
  rw [pc] at agrees
  cases agrees with
  | select level => exact level

theorem Synced.leaseChanged (pc : s.monitor = .select) (h : s.leaseChanged customDns = some t) :
    Synced customDns t := by
  obtain ⟨cache, seen, alive⟩ := synced
  have level : ∀ sys, s.worker = some sys → s.Level customDns (s.ahead sys) :=
    fun _ => Synced.level_of_select ⟨cache, seen, alive⟩ pc
  unfold Forwarder.leaseChanged at h
  split at h
  · cases h
  · cases h
    refine ⟨cache, seen, ?_⟩
    intro sys worker
    obtain ⟨hosts, resolvers, current⟩ := level sys worker
    exact .leaving ⟨hosts, resolvers, current⟩
  · rename_i leaseRx changed
    cases Watch.changed_ok changed
    split at h
    · rename_i noCustom
      by_cases same : s.lease.value.dnsServers = s.lastDnsServers
      · have unchanged : t = { s with leaseRx := ⟨s.lease.version⟩ } := by
          simpa [Watch.borrowAndUpdate, same] using h.symm
        rw [unchanged]
        refine ⟨cache, Nat.le_refl _, ?_⟩
        intro sys worker
        obtain ⟨hosts, resolvers, -⟩ := level sys worker
        simp only [pc]
        refine .select ⟨hosts, resolvers, ?_⟩
        simp only [Current, if_pos noCustom, same, implies_true]
      · have moved : t = { s with
            leaseRx := ⟨s.lease.version⟩
            monitor := .sendResolvers s.lease.value.dnsServers } := by
          simpa [Watch.borrowAndUpdate, same] using h.symm
        rw [moved]
        refine ⟨cache, Nat.le_refl _, ?_⟩
        intro sys worker
        refine .sendResolvers (level sys worker).hosts ?_
        simp only [Current, if_pos noCustom, implies_true]
    · rename_i custom
      cases h
      refine ⟨cache, Nat.le_refl _, ?_⟩
      intro sys worker
      obtain ⟨hosts, resolvers, current⟩ := level sys worker
      simp only [pc]
      refine .select ⟨hosts, resolvers, ?_⟩
      simp only [Current, if_neg custom] at current ⊢
      exact current

end

/-- The cache after an event has the names that the worker will have after its message. -/
theorem host_ofLocalHost {v : View} {event : LocalHostEvent} {hosts : Hosts}
    (same : v.host = hosts.lookup) :
    (v.apply (.ofLocalHost event)).host = (hosts.handle event).lookup := by
  funext name
  rw [lookup_handle, ← congrFun same name]
  cases event with
  | register | deregister => exact Function.update_apply _ _ _ _

theorem Synced.keep :
    Run.Inductive (step lib customDns) (fun _ _ => True)
      (Synced customDns : Forwarder cap → Prop) := by
  intro s l t synced _ h
  obtain ⟨cache, seen, alive⟩ := synced
  cases l with
  | localHost event =>
    obtain ⟨localHosts, -, rfl⟩ := Option.map_eq_some_iff.mp h
    exact ⟨cache, seen, fun sys worker => (alive sys worker).mono rfl rfl fun _ now => now⟩
  | wanLease lease =>
    cases h
    refine ⟨cache, Nat.le_succ_of_le seen, ?_⟩
    intro sys worker
    exact (alive sys worker).mono rfl rfl fun _ now => now.send seen
  | dropLease =>
    cases h
    exact ⟨cache, seen, fun sys worker => (alive sys worker).mono rfl rfl fun _ now => now⟩
  | spawn =>
    obtain ⟨-, h⟩ := Option.ite_none_right_eq_some.mp h
    cases h
    refine ⟨cache, Nat.zero_le _, ?_⟩
    intro sys worker
    cases worker
    exact .starting view_init rfl
  | crash | terminate =>
    obtain ⟨-, h⟩ := Option.ite_none_right_eq_some.mp h
    cases h
    refine ⟨cache, seen, ?_⟩
    intro sys worker
    cases worker
  | worker env event =>
    obtain ⟨outside, h⟩ := Option.ite_none_right_eq_some.mp h
    obtain ⟨sys, running, h⟩ := Option.bind_eq_some_iff.mp h
    obtain ⟨sys', taken, rfl⟩ := Option.map_eq_some_iff.mp h
    refine ⟨cache, seen, ?_⟩
    intro sys'' worker
    cases worker
    have same : ({ s with worker := some sys' } : Forwarder cap).ahead sys' = s.ahead sys := by
      unfold ahead
      rw [System.view_of_outside outside taken]
    rw [same]
    exact (alive sys running).mono rfl rfl fun _ now => now
  | workerRecv env =>
    obtain ⟨sys, running, h⟩ := Option.bind_eq_some_iff.mp h
    obtain ⟨⟨msg, toWorker⟩, popped, h⟩ := Option.bind_eq_some_iff.mp h
    obtain ⟨sys', taken, rfl⟩ := Option.map_eq_some_iff.mp h
    refine ⟨cache, seen, ?_⟩
    intro sys'' worker
    cases worker
    rw [ahead_pop (Fifo.pop_eq_some.mp popped) (System.view_of_recv taken)]
    exact (alive sys running).mono rfl rfl fun _ now => now
  | begin =>
    obtain ⟨pc, h⟩ := Option.ite_none_right_eq_some.mp h
    cases h
    exact Synced.begin ⟨cache, seen, alive⟩ pc
  | clone order =>
    obtain ⟨⟨pc, visits⟩, h⟩ := Option.ite_none_right_eq_some.mp h
    cases h
    refine ⟨cache, seen, ?_⟩
    intro sys worker
    have agrees := alive sys worker
    rw [pc] at agrees
    cases agrees with
    | clone hosts resolvers current =>
      refine .replay ⟨?_, resolvers, current⟩
      change (s.cache.iter order).foldl HashMap.write (s.ahead sys).host = _
      rw [hosts, HashMap.foldl_update_iter visits]
  | send => exact Synced.send ⟨cache, seen, alive⟩ h
  | leaseChanged =>
    obtain ⟨pc, h⟩ := Option.ite_none_right_eq_some.mp h
    exact Synced.leaseChanged ⟨cache, seen, alive⟩ pc h
  | takeEvent =>
    obtain ⟨pc, h⟩ := Option.ite_none_right_eq_some.mp h
    obtain ⟨⟨event, localHosts⟩, -, rfl⟩ := Option.map_eq_some_iff.mp h
    refine ⟨?_, seen, ?_⟩
    · rw [List.foldl_append, ← cache]
      rfl
    · intro sys worker
      have level := Synced.level_of_select ⟨cache, seen, alive⟩ pc worker
      refine .sendHost ⟨host_ofLocalHost level.hosts, ?_, level.current⟩
      cases event <;> exact level.resolvers
  | ipcClosed =>
    obtain ⟨⟨-, gone⟩, h⟩ := Option.ite_none_right_eq_some.mp h
    cases h
    refine ⟨cache, seen, ?_⟩
    intro sys worker
    change s.worker = some sys at worker
    simp [worker] at gone
  | shutdown =>
    obtain ⟨pc, h⟩ := Option.ite_none_right_eq_some.mp h
    cases h
    refine ⟨cache, seen, ?_⟩
    intro sys worker
    have level := Synced.level_of_select ⟨cache, seen, alive⟩ pc worker
    exact .leaving ⟨level.hosts, level.resolvers, level.current⟩

theorem Synced.init {queued : Fifo LocalHostEvent 64} :
    Synced customDns (init queued : Forwarder cap) := by
  refine ⟨rfl, Nat.le_refl _, ?_⟩
  intro sys worker
  cases worker

/-- Nothing is on the way to the worker: the parent has nothing left to send, and the socket
is empty. -/
structure Settled (s : Forwarder cap) : Prop where
  monitor : s.monitor = .select ∨ s.monitor = .leaving
  socket : s.toWorker.items = []

theorem Synced.level (synced : Synced customDns s) (settled : s.Settled)
    (running : s.worker = some sys) : s.Level customDns sys.worker.view := by
  have agrees := synced.alive sys running
  have arrived : s.ahead sys = sys.worker.view := by
    unfold ahead
    rw [settled.socket]
    rfl
  rw [arrived] at agrees
  rcases settled.monitor with pc | pc
  · rw [pc] at agrees
    cases agrees with
    | select level => exact level
  · rw [pc] at agrees
    cases agrees with
    | leaving level => exact level

/-- A worker with nothing on the way has the names that all events so far leave. -/
theorem Synced.lookup_hosts (synced : Synced customDns s) (settled : s.Settled)
    (running : s.worker = some sys) (name : String) :
    sys.worker.localTable.hosts.lookup name = (s.processed.foldl Hosts.handle ∅).lookup name := by
  rw [← synced.cache]
  exact congrFun (synced.level settled running).hosts name

/-! ## The channel of events -/

/-- What a step does to the channel, and to the events that the parent has taken from it. -/
inductive Queued (s t : Forwarder cap) : ForwarderLabel → Prop where
  | put {event : LocalHostEvent} (items : t.localHosts.items = s.localHosts.items ++ [event])
      (processed : t.processed = s.processed) : Queued s t (.localHost event)
  | take {event : LocalHostEvent} (items : s.localHosts.items = event :: t.localHosts.items)
      (processed : t.processed = s.processed ++ [event]) : Queued s t .takeEvent
  | keep {l : ForwarderLabel} (other : l.puts = []) (localHosts : t.localHosts = s.localHosts)
      (processed : t.processed = s.processed) : Queued s t l

theorem Queued.of_send (h : s.send = some t) : Queued s t .send := by
  have sent : ∀ {msg : ParentMsg} {result : Bool × Forwarder cap}, s.transmit msg = some result →
      result.2.localHosts = s.localHosts ∧ result.2.processed = s.processed := by
    intro msg result h
    rcases transmit_eq_some h with ⟨-, -, same⟩ | ⟨toWorker, -, -, same⟩
    · rw [same]
      exact ⟨rfl, rfl⟩
    · rw [same]
      exact ⟨rfl, rfl⟩
  unfold Forwarder.send at h
  split at h
  case h_2 =>
    cases h
    exact .keep rfl rfl rfl
  case h_4 =>
    obtain ⟨result, taken, rfl⟩ := Option.map_eq_some_iff.mp h
    dsimp only
    split <;> exact .keep rfl (sent taken).1 (sent taken).2
  case h_1 | h_3 | h_5 =>
    obtain ⟨result, taken, rfl⟩ := Option.map_eq_some_iff.mp h
    exact .keep rfl (sent taken).1 (sent taken).2
  all_goals cases h

theorem Queued.of_leaseChanged (h : s.leaseChanged customDns = some t) :
    Queued s t .leaseChanged := by
  unfold Forwarder.leaseChanged at h
  split at h
  · cases h
  · cases h
    exact .keep rfl rfl rfl
  · split at h
    · dsimp only at h
      split at h <;> cases h <;> exact .keep rfl rfl rfl
    · cases h
      exact .keep rfl rfl rfl

theorem Queued.of_step {l : ForwarderLabel} (h : s.step lib customDns l = some t) :
    Queued s t l := by
  cases l with
  | localHost event =>
    obtain ⟨localHosts, pushed, rfl⟩ := Option.map_eq_some_iff.mp h
    exact .put (Fifo.push_eq_some.mp pushed).2 rfl
  | takeEvent =>
    obtain ⟨-, h⟩ := Option.ite_none_right_eq_some.mp h
    obtain ⟨⟨event, localHosts⟩, popped, rfl⟩ := Option.map_eq_some_iff.mp h
    exact .take (Fifo.pop_eq_some.mp popped) rfl
  | send => exact .of_send h
  | leaseChanged =>
    obtain ⟨-, h⟩ := Option.ite_none_right_eq_some.mp h
    exact .of_leaseChanged h
  | begin =>
    obtain ⟨-, h⟩ := Option.ite_none_right_eq_some.mp h
    cases h
    unfold Forwarder.begin
    split <;> exact .keep rfl rfl rfl
  | worker env event =>
    obtain ⟨-, h⟩ := Option.ite_none_right_eq_some.mp h
    obtain ⟨sys, -, h⟩ := Option.bind_eq_some_iff.mp h
    obtain ⟨sys', -, rfl⟩ := Option.map_eq_some_iff.mp h
    exact .keep rfl rfl rfl
  | workerRecv env =>
    obtain ⟨sys, -, h⟩ := Option.bind_eq_some_iff.mp h
    obtain ⟨⟨msg, toWorker⟩, -, h⟩ := Option.bind_eq_some_iff.mp h
    obtain ⟨sys', -, rfl⟩ := Option.map_eq_some_iff.mp h
    exact .keep rfl rfl rfl
  | wanLease | dropLease =>
    cases h
    exact .keep rfl rfl rfl
  | spawn | crash | clone order | ipcClosed | shutdown | terminate =>
    obtain ⟨-, h⟩ := Option.ite_none_right_eq_some.mp h
    cases h
    exact .keep rfl rfl rfl

/-- Events are processed in the order in which they are put into the channel. -/
theorem Queued.history {l : ForwarderLabel} (queued : Queued s t l) :
    t.processed ++ t.localHosts.items = s.processed ++ s.localHosts.items ++ l.puts := by
  cases queued with
  | put items processed =>
    rw [items, processed, List.append_assoc]
    rfl
  | take items processed =>
    rw [items, processed]
    simp [ForwarderLabel.puts]
  | keep other localHosts processed => rw [other, localHosts, processed, List.append_nil]

/-- Only the events of a step are added to the channel. -/
theorem Queued.length_le {l : ForwarderLabel} (queued : Queued s t l) :
    t.localHosts.items.length ≤ s.localHosts.items.length + l.puts.length := by
  cases queued with
  | put items processed =>
    rw [items, List.length_append]
    exact Nat.le_refl _
  | take items processed =>
    rw [items, List.length_cons]
    omega
  | keep other localHosts processed =>
    rw [localHosts]
    omega

end Forwarder

open Forwarder

variable {cap : Nat} {lib : Hickory} {s : Forwarder cap}

/-- A change of the lease that the parent has not seen is on its way: in `select!` the parent can
take it, and has then seen the lease and sends its resolvers, if they are not those sent last. -/
theorem unread_lease_taken (looping : s.monitor = .select)
    (unread : s.leaseRx.seen ≠ s.lease.version) :
    ∃ t, s.step lib [] .leaseChanged = some t ∧ t.leaseRx.seen = t.lease.version ∧
      t.lease = s.lease ∧ (t.monitor = .sendResolvers s.lease.value.dnsServers ∨
        t = { s with leaseRx := t.leaseRx } ∧ s.lease.value.dnsServers = s.lastDnsServers) := by
  have changed : s.lease.changed s.leaseRx = some (true, ⟨s.lease.version⟩) :=
    if_pos (Ne.symm unread)
  simp only [step, looping, if_true, leaseChanged, changed, Watch.borrowAndUpdate]
  split
  · rename_i same
    exact ⟨_, rfl, rfl, rfl, .inr ⟨rfl, same⟩⟩
  · exact ⟨_, rfl, rfl, rfl, .inl rfl⟩

/-- After every run of the service, with any workers lost on the way: when nothing is on the
way to the worker, it has the names that all events so far leave, and the resolvers of the
configuration, or of the lease once the parent has seen it. -/
theorem replicas_agree {customDns : List Ipv4Addr} {queued : Fifo LocalHostEvent 64}
    {labels : List ForwarderLabel} {sys : System}
    (run : Run.exec (step lib customDns) (init queued) labels = some s)
    (running : s.worker = some sys) (settled : s.Settled) :
    (∀ name, sys.worker.localTable.hosts.lookup name =
        (s.processed.foldl Hosts.handle ∅).lookup name) ∧
      (customDns ≠ [] → sys.worker.upstreamServers = customDns) ∧
      (customDns = [] → s.leaseRx.seen = s.lease.version →
        sys.worker.upstreamServers = s.lease.value.dnsServers) := by
  have synced := Synced.keep.exec .init (.of_forall fun _ _ => trivial) run
  obtain ⟨-, resolvers, current⟩ := synced.level settled running
  unfold Current at current
  refine ⟨synced.lookup_hosts settled running, ?_, ?_⟩
  · intro custom
    rw [if_neg custom] at current
    exact resolvers.trans current
  · intro noCustom seen
    rw [if_pos noCustom] at current
    exact resolvers.trans (current seen)

/-- What the worker meets in the run below. -/
def calm : Env := ⟨0, [1], true, [], []⟩

/-- A name and a lease, a worker that is lost, another name, and the next worker. -/
def crashRun : List ForwarderLabel :=
  [.wanLease ⟨none, none, none, [.new 9 9 9 9]⟩, .localHost (.register "nas" (.new 10 0 0 5)),
    .spawn, .begin, .send, .clone [], .send, .takeEvent, .send, .workerRecv calm, .crash,
    .localHost (.register "tv" (.new 10 0 0 6)), .takeEvent, .send, .ipcClosed, .terminate,
    .spawn, .begin, .send, .clone ["tv", "nas"], .send, .send, .send, .workerRecv calm,
    .workerRecv calm, .workerRecv calm]

/-- The second worker has both names and the resolver. -/
theorem replicas_agree_after_crash :
    ∃ (s : Forwarder 4) (sys : System),
      Run.exec (step Uncompressed.library []) (init .empty) crashRun = some s ∧
        s.worker = some sys ∧ s.Settled ∧ s.processed.length = 2 ∧
        (∀ name, sys.worker.localTable.hosts.lookup name =
          (s.processed.foldl Hosts.handle ∅).lookup name) ∧
        sys.worker.upstreamServers = s.lease.value.dnsServers := by
  obtain ⟨s, run, there, monitor, socket, processed, lease⟩ :
      ∃ s, Run.exec (step Uncompressed.library []) (init .empty : Forwarder 4) crashRun = some s ∧
        s.worker.isSome ∧ s.monitor = .select ∧ s.toWorker.items = [] ∧
        s.processed.length = 2 ∧ s.leaseRx.seen = s.lease.version := by
    decide +kernel
  obtain ⟨sys, running⟩ := Option.isSome_iff_exists.mp there
  have settled : s.Settled := ⟨.inl monitor, socket⟩
  obtain ⟨names, -, resolvers⟩ := replicas_agree run running settled
  exact ⟨s, sys, run, running, settled, processed, names, resolvers rfl lease⟩

end TrimRouter.Dns
