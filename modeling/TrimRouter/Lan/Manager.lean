import TrimRouter.Config
import TrimRouter.Lib.Fifo
import TrimRouter.Lib.HashMap

/-!
# The LAN manager

`services/lan/manager.rs` with the state around it that it keeps in step with the LAN
subnet: the port forwards in the firewall, the DHCP server, and the local names, which
travel through a bounded channel to the table of the DNS forwarder.  The table survives
restarts of the DNS worker, because its parent keeps a copy (`LocalHostsState`).

A shift of the subnet is a list of actions that the runner takes one at a time, so that the
DNS forwarder, the DHCP server and the WAN run in between.

Left out: the addresses of the LAN interface, the heartbeats and the log messages.
-/

namespace TrimRouter.Lan

/-! ## Subnets -/

/-- `is_valid_subnet_prefix`. -/
def isValidSubnetPrefix (len : Nat) : Bool := 8 ≤ len && len ≤ 30

/-- `is_subnet_overlap`. -/
def isSubnetOverlap (net1 net2 : Ipv4Net) : Bool :=
  net1.contains net2.network || net2.contains net1.network

/-- `translate_ip_to_subnet`. -/
def translateIpToSubnet (ip : Ipv4Addr) (fromNet toNet : Ipv4Net) : Option Ipv4Addr :=
  if !fromNet.contains ip then none
  else do
    let offset ← ip.checkedSub fromNet.network
    let mappedIp ← toNet.network.checkedAdd offset
    if toNet.contains mappedIp && mappedIp != toNet.addr && mappedIp != toNet.broadcast then
      some mappedIp
    else none

/-- `remap_static_leases_for_subnet`. -/
def remapStaticLeasesForSubnet (staticLeases : List StaticLease) (primaryNet targetNet : Ipv4Net) :
    List StaticLease :=
  if primaryNet = targetNet then staticLeases
  else staticLeases.filterMap fun lease =>
    (translateIpToSubnet lease.ip primaryNet targetNet).map fun mappedIp =>
      { lease with ip := mappedIp }

/-- `remap_port_forwards_for_subnet`. -/
def remapPortForwardsForSubnet (portForwards : List PortForwardRule)
    (primaryNet targetNet : Ipv4Net) : List PortForwardRule :=
  if primaryNet = targetNet then portForwards
  else portForwards.filterMap fun rule =>
    (translateIpToSubnet rule.internalIp primaryNet targetNet).map fun mappedIp =>
      { rule with internalIp := mappedIp }

/-- `check_and_resolve`: the address to shift to, if the WAN overlaps the LAN and the backup
subnet helps. -/
def checkAndResolve (lease : WanLease) (currentIp backupIp : Ipv4Net) : Option Ipv4Net := do
  let wanIp ← lease.ip
  let wanMask ← lease.mask
  let wanPrefix ← maskToPrefixLen wanMask
  if !isValidSubnetPrefix wanPrefix then none
  else
    let wanNet ← Ipv4Net.new wanIp wanPrefix
    if !isSubnetOverlap wanNet currentIp then none
    else if currentIp = backupIp then none
    else if isSubnetOverlap wanNet backupIp then none
    else some backupIp

/-! ## Local names -/

/-- `services::LocalHostEvent`. -/
inductive LocalHostEvent where
  | register (name : String) (ip : Ipv4Addr)
  | deregister (name : String)
deriving DecidableEq

/-- The name that an event is about. -/
def LocalHostEvent.name : LocalHostEvent → String
  | .register name _ => name
  | .deregister name => name

/-- The local names of the DNS forwarder. -/
abbrev Hosts := HashMap String Ipv4Addr

/-- The DNS forwarder handles an event. -/
def Hosts.handle (hosts : Hosts) : LocalHostEvent → Hosts
  | .register name ip => hosts.insert name ip
  | .deregister name => hosts.erase name

/-- What an event leaves its name with. -/
def LocalHostEvent.target : LocalHostEvent → Option Ipv4Addr
  | .register _ ip => some ip
  | .deregister _ => none

theorem lookup_handle {hosts : Hosts} {event : LocalHostEvent} {name : String} :
    (hosts.handle event).lookup name =
      if name = event.name then event.target else hosts.lookup name := by
  cases event with
  | register n ip => exact HashMap.lookup_insert_eq
  | deregister n => exact HashMap.lookup_erase_eq

/-- The names of the router and of its reservations, in the order in which `init` and the
LAN manager register them. -/
def announcements (routerIp : Ipv4Addr) (leases : List StaticLease) : List LocalHostEvent :=
  .register routerHostname routerIp ::
    leases.filterMap fun lease => lease.hostname.map fun name => .register name lease.ip

/-! ## The runner -/

/-- One action of `shift_lan_subnet`. -/
inductive Action where
  | stopServices
  /-- `reconfigure_lan_interface_ip`, and the assignment of `current_ip` -/
  | setCurrentIp (newIp : Ipv4Net)
  /-- one `try_send` of `notify_router_dns_host` or `notify_static_lease_dns_hosts` -/
  | notify (event : LocalHostEvent)
  | updateFirewall (forwards : List PortForwardRule)
  | restartDhcpServer (leases : List StaticLease)
  | restartObservability
deriving DecidableEq

/-- `shift_lan_subnet`. -/
def shiftLanSubnet (cfg : RouterConfig) (newIp : Ipv4Net) : List Action :=
  let remappedLeases := remapStaticLeasesForSubnet cfg.staticLeases cfg.lanIp newIp
  let remappedForwards := remapPortForwardsForSubnet cfg.portForwards cfg.lanIp newIp
  [Action.stopServices, .setCurrentIp newIp] ++
    (announcements newIp.addr remappedLeases).map Action.notify ++
    [Action.updateFirewall remappedForwards, .restartDhcpServer remappedLeases,
      .restartObservability]

/-- Where the LAN manager is. -/
inductive Runner where
  /-- not running -/
  | off
  /-- `run`, before its first check -/
  | starting (currentIp : Ipv4Net)
  /-- `run`, in its `select!` -/
  | idle (currentIp : Ipv4Net)
  /-- `run`, in `shift_lan_subnet` with these actions left -/
  | shifting (currentIp : Ipv4Net) (actions : List Action)
deriving DecidableEq

/-- The LAN manager and the state that it keeps in step. -/
structure State where
  runner : Runner
  wanLease : WanLease
  /-- the port forwards in the firewall, if its table exists -/
  firewall : Option (List PortForwardRule)
  /-- the subnet and the reservations of a running DHCP server -/
  dhcpServer : Option (Ipv4Net × List StaticLease)
  observability : Option Ipv4Net
  /-- the channel of local-host events -/
  localHosts : Fifo LocalHostEvent 64
  hosts : Hosts
  /-- the LAN has been shifted since boot (for statements about runs, never read) -/
  shifted : Bool

/-- How far `run` gets before its first check. -/
inductive StartOutcome where
  | running
  /-- `configure_interface_ip` or the start of the DHCP server fails, and `run` returns -/
  | notStarted
  /-- there is no multicast netlink connection, and `run` stops its services again -/
  | noNetlink
deriving DecidableEq

/-- What `configure_firewall` does to the table: replace it, fail before deleting the old
one, or fail after that. -/
inductive FirewallOutcome where
  | replaced
  | kept
  | deleted
deriving DecidableEq

/-- One step. -/
inductive Label where
  /-- the DHCP client changes the WAN lease -/
  | wanLease (lease : WanLease)
  | start (outcome : StartOutcome)
  /-- `check_and_resolve`: the first one, or after a lease or netlink event -/
  | check
  /-- the next action of a shift, with the result of `configure_firewall` if it is that -/
  | act (firewall : FirewallOutcome)
  /-- `stop`, or the end of the lease channel -/
  | stop
  /-- the DHCP server registers or deregisters a client name -/
  | clientEvent (event : LocalHostEvent)
  /-- the DNS forwarder takes an event from the channel -/
  | consume
deriving DecidableEq

namespace State

/-- `configure_networking_and_services` before the LAN manager is started: the firewall has
the configured forwards, and the configured names are queued before anything reads the
channel. -/
def boot (cfg : RouterConfig) : State where
  runner := .off
  wanLease := WanLease.default
  firewall := some cfg.portForwards
  dhcpServer := none
  observability := none
  localHosts := (announcements cfg.lanIp.addr cfg.staticLeases).foldl Fifo.tryPush .empty
  hosts := ∅
  shifted := false

/-- `LanManager::start`: a new runner on the initial address. -/
def start (cfg : RouterConfig) (s : State) : StartOutcome → State
  | .running =>
    { s with
      runner := .starting cfg.lanIp
      dhcpServer := some (cfg.lanIp, cfg.staticLeases)
      observability := some cfg.lanIp }
  | .notStarted => s
  | .noNetlink => s

/-- `check_and_resolve` with the current address. -/
def check (cfg : RouterConfig) (s : State) (currentIp : Ipv4Net) : State :=
  match checkAndResolve s.wanLease currentIp cfg.backupLanIp with
  | some newIp =>
    { s with runner := .shifting currentIp (shiftLanSubnet cfg newIp), shifted := true }
  | none => { s with runner := .idle currentIp }

/-- One action of a shift, except for the runner's own state. -/
def perform (s : State) (currentIp : Ipv4Net) (firewall : FirewallOutcome) : Action → State
  | .stopServices => { s with dhcpServer := none, observability := none }
  | .setCurrentIp _ => s
  | .notify event => { s with localHosts := s.localHosts.tryPush event }
  | .updateFirewall forwards =>
    match firewall with
    | .replaced => { s with firewall := some forwards }
    | .kept => s
    | .deleted => { s with firewall := none }
  | .restartDhcpServer leases => { s with dhcpServer := some (currentIp, leases) }
  | .restartObservability => { s with observability := some currentIp }

/-- The address of the runner after an action. -/
def currentAfter (currentIp : Ipv4Net) : Action → Ipv4Net
  | .setCurrentIp newIp => newIp
  | _ => currentIp

/-- One step of the LAN. -/
def step (cfg : RouterConfig) (s : State) : Label → Option State
  | .wanLease lease => some { s with wanLease := lease }
  | .start outcome =>
    match s.runner with
    | .off => some (s.start cfg outcome)
    | _ => none
  | .check =>
    match s.runner with
    | .starting currentIp => some (s.check cfg currentIp)
    | .idle currentIp => some (s.check cfg currentIp)
    | _ => none
  | .act firewall =>
    match s.runner with
    | .shifting currentIp (action :: rest) =>
      some { s.perform currentIp firewall action with
        runner := .shifting (currentAfter currentIp action) rest }
    | .shifting currentIp [] => some { s with runner := .idle currentIp }
    | _ => none
  | .stop =>
    match s.runner with
    | .idle _ => some { s with runner := .off, dhcpServer := none, observability := none }
    | _ => none
  | .clientEvent event =>
    if s.dhcpServer.isSome then
      (s.localHosts.push event).map fun localHosts => { s with localHosts }
    else none
  | .consume =>
    s.localHosts.pop.map fun (event, localHosts) =>
      { s with localHosts, hosts := s.hosts.handle event }

end State

end TrimRouter.Lan
