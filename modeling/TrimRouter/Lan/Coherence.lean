import TrimRouter.Config.Documents
import TrimRouter.Lan.Manager
import TrimRouter.Lib.Run

/-!
# The LAN and what follows it

After every shift of the LAN the firewall and the local names are to point into the new subnet.  The
state of both, once the channel is drained and the actions of a shift are taken, is the *outlook* of
a state (`State.outlook`); a step that goes as intended leaves the outlook as it is or makes it that
of the new subnet.  `lan_coherent` is about the runs without the disturbances listed in
`Undisturbed`.
-/

namespace TrimRouter.Lan

variable {cfg : RouterConfig} {lanNet backupNet net : Ipv4Net} {ip : Ipv4Addr} {hosts : Hosts}
  {events : List LocalHostEvent} {name : String} {leases : List StaticLease}

/-! ## Rules in another subnet -/

/-- A reservation in another subnet. -/
def translateLease (source target : Ipv4Net) (lease : StaticLease) : StaticLease :=
  { lease with ip := source.translate target lease.ip }

/-- A port forward in another subnet. -/
def translateRule (source target : Ipv4Net) (rule : PortForwardRule) : PortForwardRule :=
  { rule with internalIp := source.translate target rule.internalIp }

theorem translateLease_self : translateLease net net = id := by
  funext lease
  simp [translateLease, Ipv4Net.translate_self]

theorem translateRule_self : translateRule net net = id := by
  funext rule
  simp [translateRule, Ipv4Net.translate_self]

/-- A validated target has its place in the fallback network. -/
theorem translateIpToSubnet_of_valid (valid : ValidTarget lanNet backupNet ip) :
    translateIpToSubnet ip lanNet backupNet = some (lanNet.translate backupNet ip) := by
  have inLan := valid.inLan
  have inBackup := valid.inBackup
  simp only [isClientIp, Bool.and_eq_true, bne_iff_ne] at inLan inBackup
  obtain ⟨⟨⟨inside, -⟩, notBroadcast⟩, notGateway⟩ := inBackup
  have reachable : lanNet.contains ip = true := inLan.1.1.1
  have fits := valid.fits
  unfold Ipv4Net.translate at *
  simp only [translateIpToSubnet, reachable, Bool.not_true, Bool.false_eq_true, if_false,
    Ipv4Addr.checkedSub, if_pos valid.above, Ipv4Addr.checkedAdd, if_pos fits,
    Option.bind_eq_bind, Option.bind_some, inside, Bool.true_and]
  rw [if_pos]
  simp [notGateway, notBroadcast]

/-- Reservations with validated targets are all moved. -/
theorem remapStaticLeases_of_valid
    (valid : ∀ lease ∈ leases, ValidTarget lanNet backupNet lease.ip) :
    remapStaticLeasesForSubnet leases lanNet backupNet =
      leases.map (translateLease lanNet backupNet) := by
  unfold remapStaticLeasesForSubnet
  split
  · rename_i same
    rw [← same]
    rw [translateLease_self, List.map_id]
  · rw [← List.filterMap_eq_map]
    apply List.filterMap_congr
    intro lease listed
    rw [translateIpToSubnet_of_valid (valid lease listed)]
    rfl

theorem remapPortForwards_of_valid {rules : List PortForwardRule}
    (valid : ∀ rule ∈ rules, ValidTarget lanNet backupNet rule.internalIp) :
    remapPortForwardsForSubnet rules lanNet backupNet =
      rules.map (translateRule lanNet backupNet) := by
  unfold remapPortForwardsForSubnet
  split
  · rename_i same
    rw [← same]
    rw [translateRule_self, List.map_id]
  · rw [← List.filterMap_eq_map]
    apply List.filterMap_congr
    intro rule listed
    rw [translateIpToSubnet_of_valid (valid rule listed)]
    rfl

theorem remapStaticLeases_eq (wf : cfg.WellFormed) :
    remapStaticLeasesForSubnet cfg.staticLeases cfg.lanIp cfg.backupLanIp =
      cfg.staticLeases.map (translateLease cfg.lanIp cfg.backupLanIp) :=
  remapStaticLeases_of_valid wf.targets

theorem remapPortForwards_eq (wf : cfg.WellFormed) :
    remapPortForwardsForSubnet cfg.portForwards cfg.lanIp cfg.backupLanIp =
      cfg.portForwards.map (translateRule cfg.lanIp cfg.backupLanIp) :=
  remapPortForwards_of_valid wf.forwardTargets

/-! ## Local names -/

theorem lookup_foldl_of_other (other : ∀ event ∈ events, name ≠ event.name) :
    (events.foldl Hosts.handle hosts).lookup name = hosts.lookup name := by
  induction events generalizing hosts with
  | nil => rfl
  | cons event rest ih =>
    have first := other event List.mem_cons_self
    rw [List.foldl_cons, ih fun e listed => other e (List.mem_cons_of_mem _ listed)]
    rw [lookup_handle, if_neg first]

/-- The names that `announcements` registers. -/
def announcedNames (leases : List StaticLease) : List String :=
  routerHostname :: leases.filterMap StaticLease.hostname

theorem map_name_announcements {routerIp : Ipv4Addr} :
    (announcements routerIp leases).map LocalHostEvent.name = announcedNames leases := by
  unfold announcements announcedNames
  rw [List.map_cons, List.map_filterMap]
  congr 1
  apply List.filterMap_congr
  intro lease _
  cases lease.hostname <;> rfl

/-- Registrations of different names all take effect. -/
theorem lookup_foldl_register (distinct : (events.map LocalHostEvent.name).Nodup)
    (listed : .register name ip ∈ events) :
    (events.foldl Hosts.handle hosts).lookup name = some ip := by
  induction events generalizing hosts with
  | nil => cases listed
  | cons event rest ih =>
    rw [List.map_cons, List.nodup_cons] at distinct
    rw [List.foldl_cons]
    rcases List.mem_cons.mp listed with rfl | later
    · rw [lookup_foldl_of_other]
      · rw [lookup_handle]
        exact if_pos rfl
      · intro e inRest same
        have again := List.mem_map_of_mem (f := LocalHostEvent.name) inRest
        rw [← same] at again
        exact distinct.1 again
    · exact ih distinct.2 later

/-! ## The outlook of a state -/

/-- The firewall and the local names point into the subnet of `net`. -/
structure Follows (cfg : RouterConfig) (net : Ipv4Net) (firewall : Option (List PortForwardRule))
    (hosts : Hosts) : Prop where
  forwards : firewall = some (cfg.portForwards.map (translateRule cfg.lanIp net))
  router : hosts.lookup routerHostname = some net.addr
  reservations : ∀ lease ∈ cfg.staticLeases, ∀ name ∈ lease.hostname,
    hosts.lookup name = some (cfg.lanIp.translate net lease.ip)
  others : ∀ name ip, hosts.lookup name = some ip → name ∉ announcedNames cfg.staticLeases →
    net.contains ip = true

theorem announcedNames_translate {source target : Ipv4Net} :
    announcedNames (leases.map (translateLease source target)) = announcedNames leases := by
  unfold announcedNames
  rw [List.filterMap_map]
  rfl

theorem Follows.of_announcements (wf : cfg.WellFormed)
    (others : ∀ name ip, hosts.lookup name = some ip →
      name ∉ announcedNames cfg.staticLeases → net.contains ip = true) :
    Follows cfg net (some (cfg.portForwards.map (translateRule cfg.lanIp net)))
      ((announcements net.addr (cfg.staticLeases.map (translateLease cfg.lanIp net))).foldl
        Hosts.handle hosts) := by
  have names : (announcements net.addr
      (cfg.staticLeases.map (translateLease cfg.lanIp net))).map LocalHostEvent.name =
      announcedNames cfg.staticLeases := by
    rw [map_name_announcements, announcedNames_translate]
  have distinct : ((announcements net.addr
      (cfg.staticLeases.map (translateLease cfg.lanIp net))).map LocalHostEvent.name).Nodup := by
    rw [names]
    exact List.nodup_cons.mpr ⟨wf.notRouter, wf.hostnames⟩
  refine ⟨rfl, lookup_foldl_register distinct List.mem_cons_self, ?_, ?_⟩
  · intro lease listed name named
    apply lookup_foldl_register distinct
    refine List.mem_cons_of_mem _ (List.mem_filterMap.mpr ?_)
    refine ⟨translateLease cfg.lanIp net lease, List.mem_map_of_mem listed, ?_⟩
    have named : lease.hostname = some name := named
    simp [translateLease, named]
  · intro name ip found unannounced
    rw [lookup_foldl_of_other] at found
    · exact others name ip found unannounced
    · intro event listed same
      rw [← names] at unannounced
      exact unannounced (same ▸ List.mem_map_of_mem listed)

/-- The event registers the router or a reservation at its address in the subnet of `net`, or it is
about a client name and a registration lies in that subnet. -/
def ClientEvent (cfg : RouterConfig) (net : Ipv4Net) (event : LocalHostEvent) : Prop :=
  event ∈ announcements net.addr (cfg.staticLeases.map (translateLease cfg.lanIp net)) ∨
    event.name ∉ announcedNames cfg.staticLeases ∧ ∀ ip ∈ event.target, net.contains ip = true
deriving Decidable

/-- What the firewall and the local names become by one action of a shift. -/
def effect (firewall : Option (List PortForwardRule)) (hosts : Hosts) :
    Action → Option (List PortForwardRule) × Hosts
  | .notify event => (firewall, hosts.handle event)
  | .updateFirewall forwards => (some forwards, hosts)
  | _ => (firewall, hosts)

/-- What they become by a list of actions. -/
def effects (firewall : Option (List PortForwardRule)) (hosts : Hosts) (actions : List Action) :
    Option (List PortForwardRule) × Hosts :=
  actions.foldl (fun outlook action => effect outlook.1 outlook.2 action) (firewall, hosts)

variable {firewall : Option (List PortForwardRule)} {actions rest : List Action}

theorem effects_append :
    effects firewall hosts (actions ++ rest) =
      effects (effects firewall hosts actions).1 (effects firewall hosts actions).2 rest := by
  unfold effects
  rw [List.foldl_append]

theorem effects_notify :
    effects firewall hosts (events.map .notify) = (firewall, events.foldl Hosts.handle hosts) := by
  induction events generalizing hosts with
  | nil => rfl
  | cons event rest ih => exact ih

theorem effects_shift :
    effects firewall hosts (shiftLanSubnet cfg net) =
      (some (remapPortForwardsForSubnet cfg.portForwards cfg.lanIp net),
        (announcements net.addr
          (remapStaticLeasesForSubnet cfg.staticLeases cfg.lanIp net)).foldl Hosts.handle
            hosts) := by
  unfold shiftLanSubnet
  rw [effects_append, effects_append, effects_notify]
  rfl

/-- The firewall that a list of actions leads to does not depend on the names, and a name
that none of them is about stays as it is. -/
theorem effects_fst {hosts' : Hosts} :
    (effects firewall hosts actions).1 = (effects firewall hosts' actions).1 := by
  induction actions generalizing firewall hosts hosts' with
  | nil => rfl
  | cons action rest ih => cases action <;> exact ih

theorem lookup_effects_congr {hosts' : Hosts} (agree : hosts.lookup name = hosts'.lookup name) :
    (effects firewall hosts actions).2.lookup name =
      (effects firewall hosts' actions).2.lookup name := by
  induction actions generalizing firewall hosts hosts' with
  | nil => exact agree
  | cons action rest ih =>
    cases action with
    | notify event =>
      refine ih ?_
      change (hosts.handle event).lookup name = (hosts'.handle event).lookup name
      rw [lookup_handle, lookup_handle, agree]
    | stopServices | setCurrentIp | updateFirewall | restartDhcpServer | restartObservability =>
      exact ih agree

theorem lookup_effects_of_other (other : ∀ event, .notify event ∈ actions → name ≠ event.name) :
    (effects firewall hosts actions).2.lookup name = hosts.lookup name := by
  induction actions generalizing firewall hosts with
  | nil => rfl
  | cons action rest ih =>
    have later : ∀ event, .notify event ∈ rest → name ≠ event.name := fun event listed =>
      other event (List.mem_cons_of_mem _ listed)
    cases action with
    | notify event =>
      have first := other event List.mem_cons_self
      refine (ih later).trans ?_
      change (hosts.handle event).lookup name = hosts.lookup name
      rw [lookup_handle, if_neg first]
    | stopServices | setCurrentIp | updateFirewall | restartDhcpServer | restartObservability =>
      exact ih later

variable {event : LocalHostEvent}

/-- A name that one of them is about is what they make of it. -/
theorem lookup_effects_of_notified {hosts' : Hosts} (listed : .notify event ∈ actions) :
    (effects firewall hosts actions).2.lookup event.name =
      (effects firewall hosts' actions).2.lookup event.name := by
  induction actions generalizing firewall hosts hosts' with
  | nil => cases listed
  | cons action rest ih =>
    rcases List.mem_cons.mp listed with rfl | later
    · change (effects firewall (hosts.handle event) rest).2.lookup event.name =
        (effects firewall (hosts'.handle event) rest).2.lookup event.name
      apply lookup_effects_congr
      rw [lookup_handle, lookup_handle, if_pos rfl, if_pos rfl]
    · cases action <;> exact ih later

variable (hosts name firewall actions event) in
/-- An event before them is about its name only, if it matters at all. -/
theorem lookup_effects_handle :
    (effects firewall (hosts.handle event) actions).2.lookup name =
        (effects firewall hosts actions).2.lookup name ∨
      name = event.name ∧
        (effects firewall (hosts.handle event) actions).2.lookup name = event.target := by
  by_cases about : name = event.name
  · by_cases pending : ∃ e, .notify e ∈ actions ∧ name = e.name
    · obtain ⟨e, listed, rfl⟩ := pending
      exact .inl (lookup_effects_of_notified listed)
    · refine .inr ⟨about, ?_⟩
      rw [lookup_effects_of_other, lookup_handle, if_pos about]
      exact fun e listed named => pending ⟨e, listed, named⟩
  · refine .inl (lookup_effects_congr ?_)
    rw [lookup_handle, if_neg about]

theorem Follows.lookup_announced (follows : Follows cfg net firewall hosts)
    (own : event ∈ announcements net.addr (cfg.staticLeases.map (translateLease cfg.lanIp net))) :
    hosts.lookup event.name = event.target := by
  rcases List.mem_cons.mp own with rfl | reserved
  · exact follows.router
  · obtain ⟨_, translated, made⟩ := List.mem_filterMap.mp reserved
    obtain ⟨lease, listed, rfl⟩ := List.mem_map.mp translated
    obtain ⟨name, named, rfl⟩ := Option.map_eq_some_iff.mp made
    exact follows.reservations lease listed name named

/-- A client event does not change what a shift leads to. -/
theorem Follows.clientEvent (client : ClientEvent cfg net event)
    (follows : Follows cfg net (effects firewall hosts actions).1
      (effects firewall hosts actions).2) :
    Follows cfg net (effects firewall (hosts.handle event) actions).1
      (effects firewall (hosts.handle event) actions).2 := by
  have kept : ∀ name ∈ announcedNames cfg.staticLeases,
      (effects firewall (hosts.handle event) actions).2.lookup name =
        (effects firewall hosts actions).2.lookup name := by
    intro name listed
    rcases lookup_effects_handle hosts name firewall actions event with same | ⟨rfl, now⟩
    · exact same
    · rcases client with own | client
      · rw [now, follows.lookup_announced own]
      · exact absurd listed client.1
  refine ⟨effects_fst.trans follows.forwards, (kept _ List.mem_cons_self).trans follows.router,
    ?_, ?_⟩
  · intro lease listed name named
    rw [kept name (List.mem_cons_of_mem _ (List.mem_filterMap.mpr ⟨lease, listed, named⟩))]
    exact follows.reservations lease listed name named
  · intro name ip found unannounced
    rcases lookup_effects_handle hosts name firewall actions event with same | ⟨rfl, now⟩
    · exact follows.others name ip (same ▸ found) unannounced
    · rcases client with own | client
      · have named := List.mem_map_of_mem (f := LocalHostEvent.name) own
        rw [map_name_announcements, announcedNames_translate] at named
        exact absurd named unannounced
      · exact client.2 ip (now ▸ found)

/-! ## Runs -/

/-- The actions that the runner has yet to take. -/
def Runner.pending : Runner → List Action
  | .shifting _ actions => actions
  | _ => []

namespace State

variable {s t : State}

/-- The local names once the channel is drained. -/
def settled (s : State) : Hosts := s.localHosts.items.foldl Hosts.handle s.hosts

/-- The firewall and the local names once the channel is drained and the actions of a shift
are taken. -/
def outlook (s : State) : Option (List PortForwardRule) × Hosts :=
  effects s.firewall s.settled s.runner.pending

/-- The subnet of the last shift, or the initial one. -/
def subnet (cfg : RouterConfig) (s : State) : Ipv4Net :=
  if s.shifted then cfg.backupLanIp else cfg.lanIp

/-- The client names, with those in the channel, all lie in the subnet of `net`. -/
def clientsIn (cfg : RouterConfig) (net : Ipv4Net) (s : State) : Bool :=
  s.settled.entries.all fun entry =>
    (announcedNames cfg.staticLeases).contains entry.1 || net.contains entry.2

/-- The step is not one of these:

* a first check that leaves the LAN on the initial subnet although it was shifted before,
* a shift while a client name lies outside the backup subnet,
* an announcement that finds the channel full,
* a failing update of the firewall,
* an event of the DHCP server that is about the router or a reservation and does not register it at
  its address in the subnet, or that registers an address outside the subnet. -/
def undisturbed (cfg : RouterConfig) (s : State) : Label → Bool
  | .check =>
    match s.runner with
    | .starting currentIp =>
      if (checkAndResolve s.wanLease currentIp cfg.backupLanIp).isSome then
        s.clientsIn cfg cfg.backupLanIp
      else !s.shifted
    | .idle currentIp =>
      !(checkAndResolve s.wanLease currentIp cfg.backupLanIp).isSome ||
        s.clientsIn cfg cfg.backupLanIp
    | _ => true
  | .act firewall =>
    match s.runner with
    | .shifting _ (.notify _ :: _) => decide (s.localHosts.items.length < 64)
    | .shifting _ (.updateFirewall _ :: _) => firewall == .replaced
    | _ => true
  | .clientEvent event => decide (ClientEvent cfg (s.subnet cfg) event)
  | _ => true

/-- The runner's own address fits the subnet. -/
def Placed (cfg : RouterConfig) (s : State) : Prop :=
  match s.runner with
  | .off => True
  | .starting currentIp => currentIp = cfg.lanIp
  | .idle currentIp => currentIp = s.subnet cfg
  | .shifting currentIp actions =>
    s.shifted = true ∧ actions.foldl currentAfter currentIp = cfg.backupLanIp

/-- The invariant of the undisturbed runs. -/
structure Sound (cfg : RouterConfig) (s : State) : Prop where
  placed : s.Placed cfg
  follows : Follows cfg (s.subnet cfg) s.outlook.1 s.outlook.2

theorem clientsIn_iff : s.clientsIn cfg net = true ↔
    ∀ name ip, s.settled.lookup name = some ip → name ∉ announcedNames cfg.staticLeases →
      net.contains ip = true := by
  unfold clientsIn
  rw [List.all_eq_true]
  refine ⟨fun all name ip found unannounced => ?_, fun all entry listed => ?_⟩
  · have inside := all ⟨name, ip⟩ (HashMap.mem_entries_iff.mpr found)
    simpa [unannounced] using inside
  · by_cases announced : entry.1 ∈ announcedNames cfg.staticLeases
    · simp [announced]
    · have inside := all entry.1 entry.2 (HashMap.mem_entries_iff.mp listed) announced
      simp [inside]

/-- Of the names announced at boot, the channel holds those for which it has room. -/
theorem items_boot : (State.boot cfg).localHosts.items =
    (announcements cfg.lanIp.addr cfg.staticLeases).take 64 :=
  Fifo.items_foldl_tryPush

theorem Sound.boot (wf : cfg.WellFormed)
    (fewNames : (announcedNames cfg.staticLeases).length ≤ 64) : (boot cfg).Sound cfg := by
  have queued : (State.boot cfg).localHosts.items =
      announcements cfg.lanIp.addr cfg.staticLeases := by
    have length : (announcements cfg.lanIp.addr cfg.staticLeases).length ≤ 64 := by
      rw [← List.length_map LocalHostEvent.name, map_name_announcements]
      exact fewNames
    rw [items_boot, List.take_of_length_le length]
  refine ⟨trivial, ?_⟩
  have nobody : ∀ name ip, (∅ : Hosts).lookup name = some ip →
      name ∉ announcedNames cfg.staticLeases → cfg.lanIp.contains ip = true := by
    simp
  have follows := Follows.of_announcements wf nobody
  rw [translateLease_self, translateRule_self, List.map_id, List.map_id] at follows
  change Follows cfg cfg.lanIp (some cfg.portForwards)
    ((State.boot cfg).localHosts.items.foldl Hosts.handle ∅)
  rw [queued]
  exact follows

/-- Everything that a step can do. -/
inductive Step (cfg : RouterConfig) (s : State) : Label → State → Prop where
  | wanLease {lease : WanLease} : Step cfg s (.wanLease lease) { s with wanLease := lease }
  | start {outcome : StartOutcome} (off : s.runner = .off) :
      Step cfg s (.start outcome) (s.start cfg outcome)
  | check {currentIp : Ipv4Net}
      (running : s.runner = .starting currentIp ∨ s.runner = .idle currentIp) :
      Step cfg s .check (s.check cfg currentIp)
  | act {firewall : FirewallOutcome} {currentIp : Ipv4Net} {action : Action} {rest : List Action}
      (shifting : s.runner = .shifting currentIp (action :: rest)) :
      Step cfg s (.act firewall)
        { s.perform currentIp firewall action with
          runner := .shifting (currentAfter currentIp action) rest }
  | arrive {firewall : FirewallOutcome} {currentIp : Ipv4Net}
      (shifting : s.runner = .shifting currentIp []) :
      Step cfg s (.act firewall) { s with runner := .idle currentIp }
  | stop {currentIp : Ipv4Net} (idle : s.runner = .idle currentIp) :
      Step cfg s .stop { s with runner := .off, dhcpServer := none, observability := none }
  | clientEvent {event : LocalHostEvent} {localHosts : Fifo LocalHostEvent 64}
      (serving : s.dhcpServer.isSome) (pushed : s.localHosts.push event = some localHosts) :
      Step cfg s (.clientEvent event) { s with localHosts }
  | consume {event : LocalHostEvent} {localHosts : Fifo LocalHostEvent 64}
      (popped : s.localHosts.pop = some (event, localHosts)) :
      Step cfg s .consume { s with localHosts, hosts := s.hosts.handle event }

theorem Step.of_step {l : Label} (h : s.step cfg l = some t) : Step cfg s l t := by
  cases l with
  | wanLease lease =>
    cases h
    exact .wanLease
  | start outcome =>
    simp only [step] at h
    split at h
    · cases h
      exact .start ‹_›
    · cases h
  | check =>
    simp only [step] at h
    split at h
    · cases h
      exact .check (.inl ‹_›)
    · cases h
      exact .check (.inr ‹_›)
    · cases h
  | act firewall =>
    simp only [step] at h
    split at h
    · cases h
      exact .act ‹_›
    · cases h
      exact .arrive ‹_›
    · cases h
  | stop =>
    simp only [step] at h
    split at h
    · cases h
      exact .stop ‹_›
    · cases h
  | clientEvent event =>
    simp only [step] at h
    split at h
    · obtain ⟨localHosts, pushed, rfl⟩ := Option.map_eq_some_iff.mp h
      exact .clientEvent ‹_› pushed
    · cases h
  | consume =>
    simp only [step] at h
    obtain ⟨⟨event, localHosts⟩, popped, rfl⟩ := Option.map_eq_some_iff.mp h
    exact .consume popped

variable {currentIp : Ipv4Net}

theorem checkAndResolve_eq {lease : WanLease} {newIp : Ipv4Net}
    (h : checkAndResolve lease currentIp backupNet = some newIp) : newIp = backupNet := by
  unfold checkAndResolve at h
  simp only [Option.bind_eq_bind, Option.bind_eq_some_iff] at h
  obtain ⟨wanIp, -, wanMask, -, wanPrefix, -, h⟩ := h
  split at h
  · cases h
  · obtain ⟨wanNet, -, h⟩ := Option.bind_eq_some_iff.mp h
    split at h
    · cases h
    · split at h
      · cases h
      · split at h
        · cases h
        · exact (Option.some.inj h).symm

theorem foldl_currentAfter_shift :
    (shiftLanSubnet cfg net).foldl currentAfter currentIp = net := by
  have stays : ∀ (events : List LocalHostEvent) (c : Ipv4Net),
      (events.map Action.notify).foldl currentAfter c = c := by
    intro events c
    induction events with
    | nil => rfl
    | cons event rest ih => exact ih
  unfold shiftLanSubnet
  rw [List.foldl_append, List.foldl_append, stays]
  rfl

theorem Sound.shift (wf : cfg.WellFormed) (clients : s.clientsIn cfg cfg.backupLanIp = true) :
    { s with
      runner := .shifting currentIp (shiftLanSubnet cfg cfg.backupLanIp)
      shifted := true }.Sound cfg := by
  refine ⟨⟨rfl, foldl_currentAfter_shift⟩, ?_⟩
  have follows := Follows.of_announcements wf (clientsIn_iff.mp clients)
  rw [← remapStaticLeases_eq wf, ← remapPortForwards_eq wf] at follows
  change Follows cfg cfg.backupLanIp
    (effects s.firewall s.settled (shiftLanSubnet cfg cfg.backupLanIp)).1
    (effects s.firewall s.settled (shiftLanSubnet cfg cfg.backupLanIp)).2
  rw [effects_shift]
  exact follows

theorem Sound.stay (sound : s.Sound cfg)
    (running : s.runner = .starting currentIp ∨ s.runner = .idle currentIp)
    (ok : s.undisturbed cfg .check = true)
    (noShift : checkAndResolve s.wanLease currentIp cfg.backupLanIp = none) :
    { s with runner := .idle currentIp }.Sound cfg := by
  have placed := sound.placed
  have follows := sound.follows
  unfold Placed at placed
  unfold outlook at follows
  rcases running with starting | idle
  · have home : currentIp = cfg.lanIp := by simpa only [starting] using placed
    have unshifted : s.shifted = false := by
      simpa [undisturbed, starting, noShift] using ok
    rw [starting] at follows
    refine ⟨?_, follows⟩
    change currentIp = s.subnet cfg
    unfold subnet
    rw [unshifted]
    exact home
  · have here : currentIp = s.subnet cfg := by simpa only [idle] using placed
    rw [idle] at follows
    exact ⟨here, follows⟩

theorem Sound.check (wf : cfg.WellFormed) (sound : s.Sound cfg)
    (running : s.runner = .starting currentIp ∨ s.runner = .idle currentIp)
    (ok : s.undisturbed cfg .check = true) : (s.check cfg currentIp).Sound cfg := by
  unfold State.check
  cases decision : checkAndResolve s.wanLease currentIp cfg.backupLanIp with
  | none => exact sound.stay running ok decision
  | some newIp =>
    have target := checkAndResolve_eq decision
    have clients : s.clientsIn cfg cfg.backupLanIp = true := by
      rcases running with starting | idle
      · simpa [undisturbed, starting, decision] using ok
      · simpa [undisturbed, idle, decision] using ok
    rw [target]
    exact Sound.shift wf clients

variable {outcome : FirewallOutcome}

theorem perform_effect {action : Action}
    (shifting : s.runner = .shifting currentIp (action :: rest))
    (ok : s.undisturbed cfg (.act outcome) = true) :
    ((s.perform currentIp outcome action).firewall, (s.perform currentIp outcome action).settled) =
      effect s.firewall s.settled action := by
  cases action with
  | notify event =>
    have room : s.localHosts.items.length < 64 := by
      simpa [undisturbed, shifting] using ok
    have pushed : (s.localHosts.tryPush event).items = s.localHosts.items ++ [event] := by
      rw [Fifo.items_tryPush, if_pos room]
    change (s.firewall, (s.localHosts.tryPush event).items.foldl Hosts.handle s.hosts) =
      (s.firewall, s.settled.handle event)
    rw [pushed, List.foldl_append]
    rfl
  | updateFirewall forwards =>
    have replaced : outcome = .replaced := by
      simpa [undisturbed, shifting] using ok
    rw [replaced]
    rfl
  | stopServices | setCurrentIp | restartDhcpServer | restartObservability => rfl

theorem shifted_perform {action : Action} :
    (s.perform currentIp outcome action).shifted = s.shifted := by
  cases action with
  | updateFirewall forwards => cases outcome <;> rfl
  | _ => rfl

theorem Sound.act {action : Action}
    (sound : s.Sound cfg) (shifting : s.runner = .shifting currentIp (action :: rest))
    (ok : s.undisturbed cfg (.act outcome) = true) :
    { s.perform currentIp outcome action with
      runner := .shifting (currentAfter currentIp action) rest }.Sound cfg := by
  have placed := sound.placed
  have follows := sound.follows
  have performed := perform_effect shifting ok
  unfold Placed at placed
  unfold outlook at follows
  simp only [shifting] at placed follows
  refine ⟨⟨shifted_perform.trans placed.1, placed.2⟩, ?_⟩
  have same : subnet cfg { s.perform currentIp outcome action with
      runner := .shifting (currentAfter currentIp action) rest } = s.subnet cfg := by
    unfold subnet
    rw [shifted_perform]
  have outlook : effects (s.perform currentIp outcome action).firewall
      (s.perform currentIp outcome action).settled rest =
        effects s.firewall s.settled (action :: rest) := by
    unfold effects
    rw [performed]
    rfl
  rw [same]
  change Follows cfg (s.subnet cfg)
    (effects (s.perform currentIp outcome action).firewall
      (s.perform currentIp outcome action).settled rest).1
    (effects (s.perform currentIp outcome action).firewall
      (s.perform currentIp outcome action).settled rest).2
  rw [outlook]
  exact follows

theorem Sound.arrive (sound : s.Sound cfg) (shifting : s.runner = .shifting currentIp []) :
    { s with runner := .idle currentIp }.Sound cfg := by
  have placed := sound.placed
  have follows := sound.follows
  unfold Placed at placed
  unfold outlook at follows
  simp only [shifting] at placed follows
  refine ⟨?_, follows⟩
  change currentIp = s.subnet cfg
  unfold subnet
  rw [placed.1]
  exact placed.2

theorem settled_push {localHosts : Fifo LocalHostEvent 64}
    (pushed : s.localHosts.push event = some localHosts) :
    settled { s with localHosts } = s.settled.handle event := by
  change localHosts.items.foldl Hosts.handle s.hosts = _
  rw [(Fifo.push_eq_some.mp pushed).2, List.foldl_append]
  rfl

theorem settled_pop {localHosts : Fifo LocalHostEvent 64}
    (popped : s.localHosts.pop = some (event, localHosts)) :
    settled { s with localHosts, hosts := s.hosts.handle event } = s.settled := by
  unfold settled
  rw [Fifo.pop_eq_some.mp popped]
  rfl

theorem Sound.keep (wf : cfg.WellFormed) :
    Run.Inductive (step cfg) (fun s l => s.undisturbed cfg l = true) (Sound cfg) := by
  intro s l t sound ok h
  cases Step.of_step h with
  | wanLease => exact ⟨sound.placed, sound.follows⟩
  | @start outcome off =>
    have follows := sound.follows
    unfold outlook at follows
    rw [off] at follows
    cases outcome with
    | running => exact ⟨rfl, follows⟩
    | notStarted | noNetlink => exact sound
  | check running => exact sound.check wf running ok
  | act shifting => exact sound.act shifting ok
  | arrive shifting => exact sound.arrive shifting
  | stop idle =>
    have follows := sound.follows
    unfold outlook at follows
    rw [idle] at follows
    exact ⟨trivial, follows⟩
  | clientEvent serving pushed =>
    refine ⟨sound.placed, ?_⟩
    unfold outlook
    rw [settled_push pushed]
    exact sound.follows.clientEvent (of_decide_eq_true ok)
  | consume popped =>
    refine ⟨sound.placed, ?_⟩
    unfold outlook
    rw [settled_pop popped]
    exact sound.follows

end State

/-- Whenever the LAN manager is idle and the channel is drained, the firewall and the local
names follow its current address. -/
theorem lan_coherent {lib : Parsers} {doc : ConfigToml} {s : State} {c : Ipv4Net}
    {labels : List Label} (accepted : RouterConfig.parse lib doc = .ok cfg)
    (fewNames : (announcedNames cfg.staticLeases).length ≤ 64)
    (undisturbed : Run.Meets (State.step cfg) (fun s l => s.undisturbed cfg l = true)
      (State.boot cfg) labels)
    (run : Run.exec (State.step cfg) (State.boot cfg) labels = some s)
    (idle : s.runner = .idle c) (drained : s.localHosts.items = []) :
    Follows cfg c s.firewall s.hosts := by
  have wf := RouterConfig.parse_wellFormed accepted
  have sound := (State.Sound.keep wf).exec (State.Sound.boot wf fewNames) undisturbed run
  have placed := sound.placed
  have follows := sound.follows
  unfold State.Placed at placed
  simp only [idle] at placed
  unfold State.outlook State.settled at follows
  rw [idle, drained, ← placed] at follows
  exact follows

/-! ### A shift, and a restart after it -/

/-- A document with the default subnets, a reservation and a port forward. -/
def sampleDoc : ConfigToml :=
  { crowdDoc with
    lan := none
    reservations := some [⟨"02:00:00:00:00:01", some "192.168.1.50", some "nas"⟩]
    portForwarding := some [⟨none, some 8080, some "192.168.1.60", none, none⟩] }

/-- The configuration that `sampleDoc` is accepted as. -/
def sampleConfig : RouterConfig :=
  { crowdConfig with
    lanIp := .slash24 (.new 192 168 1 1)
    backupLanIp := .slash24 (.new 10 0 0 1)
    staticLeases := [⟨0x020000000001, .new 192 168 1 50, some "nas"⟩]
    portForwards := [⟨.tcp, 8080, .new 192 168 1 60, 8080, none⟩] }

theorem parse_sampleDoc : RouterConfig.parse .std sampleDoc = .ok sampleConfig := by decide +kernel

/-- A WAN lease with a network of 256 addresses. -/
def sampleLease (ip : Ipv4Addr) : WanLease :=
  ⟨some ip, some (.new 255 255 255 0), none, []⟩

/-- The WAN gets an address of the LAN's own subnet, the LAN manager is started and moves the
LAN to the backup subnet, and the DNS forwarder handles all names. -/
def shiftRun : List Label :=
  [Label.wanLease (sampleLease (.new 192 168 1 77)), .start .running, .check] ++
    List.replicate 8 (Label.act .replaced) ++ List.replicate 4 Label.consume

theorem lan_coherent_after_shift :
    RouterConfig.parse .std sampleDoc = .ok sampleConfig ∧
      ∃ s, Run.exec (State.step sampleConfig) (State.boot sampleConfig) shiftRun = some s ∧
        s.runner = .idle sampleConfig.backupLanIp ∧
        Follows sampleConfig sampleConfig.backupLanIp s.firewall s.hosts := by
  have undisturbed : Run.Meets (State.step sampleConfig)
      (fun s l => s.undisturbed sampleConfig l = true) (State.boot sampleConfig) shiftRun := by
    decide +kernel
  obtain ⟨s, run, idle, drained⟩ : ∃ s, Run.exec (State.step sampleConfig)
      (State.boot sampleConfig) shiftRun = some s ∧
      s.runner = .idle sampleConfig.backupLanIp ∧ s.localHosts.items = [] := by
    decide +kernel
  exact ⟨parse_sampleDoc, s, run, idle,
    lan_coherent parse_sampleDoc (by decide) undisturbed run idle drained⟩

/-- After the shift the LAN is unplugged, the WAN gets another address and the LAN is plugged
in again. -/
def replugRun : List Label :=
  shiftRun ++ [Label.stop, .wanLease (sampleLease (.new 100 64 0 5)), .start .running, .check]

/-- The LAN manager is idle on the initial address with nothing in the channel, but the port
forward, the router's name and the reservation still point into the backup subnet. -/
theorem replug_leaves_backup_rules :
    RouterConfig.parse .std sampleDoc = .ok sampleConfig ∧
      ∃ s, Run.exec (State.step sampleConfig) (State.boot sampleConfig) replugRun = some s ∧
        s.runner = .idle sampleConfig.lanIp ∧ s.localHosts.items = [] ∧
        s.firewall = some [⟨.tcp, 8080, .new 10 0 0 60, 8080, none⟩] ∧
        s.hosts.lookup routerHostname = some (.new 10 0 0 1) ∧
        s.hosts.lookup "nas" = some (.new 10 0 0 50) := by
  decide +kernel

end TrimRouter.Lan
