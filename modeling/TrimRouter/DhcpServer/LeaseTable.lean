import Mathlib.Data.Finset.Basic
import Mathlib.Data.Finset.Image
import TrimRouter.Lib.HashMap
import TrimRouter.Config

/-!
# The DHCP server's lease table

The table of `services/dhcp_server/lease_table.rs` and the commands of the lease
actor that owns it.  Every method takes the instant at which it runs (`now`): the
source reads the clock inside the method.  A method that iterates over a hash map
and whose result depends on the order takes that order (`IterOrder`).

`handleLeaseCommand` is the actor's dispatch: the table after the command and the
reply that goes back to the task that sent it.
-/

namespace TrimRouter.DhcpServer

/-- `CANDIDATE_HOLD_DURATION`. -/
def candidateHoldDuration : Nat := fromSecs 10

/-- `NEIGHBOR_HOLD_DURATION`. -/
def neighborHoldDuration : Nat := fromSecs 300

/-- An entry of the table: the lease of one client. -/
structure ClientLease where
  ip : Ipv4Addr
  expiry : Nat
  hostname : Option String
deriving DecidableEq

/-- What `validate_and_confirm` grants. -/
structure LeaseConfirmation where
  ip : Ipv4Addr
  hostname : Option String
  oldHostnameToDeregister : Option String
deriving DecidableEq

/-- `services::ipc::DhcpLeaseInfo`: a lease as the status page shows it. -/
structure DhcpLeaseInfo where
  mac : MacAddr
  ip : Ipv4Addr
  hostname : Option String
  expiresInSeconds : Nat
  isStatic : Bool
deriving DecidableEq

/-- The leases by MAC address, the index of allocated addresses, the conflict holds and
the reservations with their index. -/
structure LeaseTable where
  byMac : HashMap MacAddr ClientLease
  allocatedIps : Finset Ipv4Addr
  conflicts : HashMap Ipv4Addr Nat
  staticLeases : HashMap MacAddr StaticLease
  reservedIps : Finset Ipv4Addr
deriving DecidableEq

/-- The orders in which iterations visit the table's hash maps. -/
structure IterOrder where
  byMac : List MacAddr
  staticLeases : List MacAddr
deriving DecidableEq

/-- The orders list the keys of the table they are used on. -/
def IterOrder.Visits (order : IterOrder) (t : LeaseTable) : Prop :=
  t.byMac.IsOrder order.byMac ∧ t.staticLeases.IsOrder order.staticLeases
deriving Decidable

/-- `ClientLease` is past its expiry unless `expiry > now`. -/
def ClientLease.isLive (lease : ClientLease) (now : Nat) : Bool := decide (now < lease.expiry)

namespace LeaseTable

/-- `LeaseTable::new`. -/
def new : LeaseTable := ⟨∅, ∅, ∅, ∅, ∅⟩

/-- `LeaseTable::get`. -/
def get (t : LeaseTable) (mac : MacAddr) : Option ClientLease := t.byMac.lookup mac

/-- `LeaseTable::insert`: the index loses the address of the entry that is replaced. -/
def insert (t : LeaseTable) (mac : MacAddr) (lease : ClientLease) : LeaseTable :=
  let allocatedIps := match t.get mac with
    | some old => t.allocatedIps.erase old.ip
    | none => t.allocatedIps
  { t with
    allocatedIps := Insert.insert lease.ip allocatedIps
    byMac := t.byMac.insert mac lease }

/-- `LeaseTable::remove`. -/
def remove (t : LeaseTable) (mac : MacAddr) : LeaseTable × Option ClientLease :=
  match t.get mac with
  | none => (t, none)
  | some lease =>
    ({ t with byMac := t.byMac.erase mac, allocatedIps := t.allocatedIps.erase lease.ip },
      some lease)

/-- The body of the loop in `set_static_leases`: an entry of the reserved client on
another address is removed. -/
def dropMoved (t : LeaseTable) (lease : StaticLease) : LeaseTable :=
  match t.get lease.mac with
  | some existing => if existing.ip ≠ lease.ip then (t.remove lease.mac).1 else t
  | none => t

/-- `LeaseTable::set_static_leases`. -/
def setStaticLeases (t : LeaseTable) (staticLeases : List StaticLease) : LeaseTable :=
  { staticLeases.foldl dropMoved t with
    reservedIps := (staticLeases.map StaticLease.ip).toFinset
    staticLeases := staticLeases.foldl (fun map lease => map.insert lease.mac lease) ∅ }

/-- `LeaseTable::is_hostname_taken_by_other`. -/
def isHostnameTakenByOther (t : LeaseTable) (now : Nat) (hostname : String)
    (clientMac : MacAddr) : Bool :=
  t.byMac.entries.any fun e =>
    e.1 != clientMac && e.2.isLive now && e.2.hostname == some hostname

/-- `LeaseTable::is_conflict_active`. -/
def isConflictActive (t : LeaseTable) (now : Nat) (ip : Ipv4Addr) : Bool :=
  (t.conflicts.lookup ip).any fun expiry => decide (now < expiry)

/-- `LeaseTable::is_ip_available`. -/
def isIpAvailable (t : LeaseTable) (now : Nat) (ip : Ipv4Addr) : Bool :=
  decide (ip ∉ t.allocatedIps) && !t.isConflictActive now ip

/-- `LeaseTable::is_ip_available_for_dynamic`. -/
def isIpAvailableForDynamic (t : LeaseTable) (now : Nat) (ip : Ipv4Addr) : Bool :=
  t.isIpAvailable now ip && decide (ip ∉ t.reservedIps)

/-- `LeaseTable::record_conflict`. -/
def recordConflict (t : LeaseTable) (now : Nat) (ip : Ipv4Addr) (duration : Nat) :
    LeaseTable :=
  { t with conflicts := t.conflicts.insert ip (now + duration) }

/-- `LeaseTable::is_ip_taken_by_other`. -/
def isIpTakenByOther (t : LeaseTable) (now : Nat) (ip : Ipv4Addr) (clientMac : MacAddr) :
    Bool :=
  t.byMac.entries.any fun e => e.2.ip == ip && e.2.isLive now && e.1 != clientMac

/-- The clients whose entry has expired, with the host name that `evict_expired` reports
for them, in the order in which it visits them. -/
def expiredHostnames (t : LeaseTable) (now : Nat) (order : IterOrder) :
    List (MacAddr × String) :=
  (t.byMac.iter order.byMac).filterMap fun (mac, lease) =>
    if lease.isLive now then none else lease.hostname.map fun hostname => (mac, hostname)

/-- `LeaseTable::evict_expired` without the list of host names that it returns. -/
def evictExpired (t : LeaseTable) (now : Nat) : LeaseTable :=
  let byMac := t.byMac.retain fun _ lease => lease.isLive now
  { t with
    byMac := byMac
    allocatedIps := (byMac.values.map ClientLease.ip).toFinset
    conflicts := t.conflicts.retain fun _ expiry => decide (now < expiry) }

/-- The search of `next_available_ip`, after its eviction. -/
def findHost (t : LeaseTable) (now : Nat) (net : Ipv4Net) (serverIp : Ipv4Addr) :
    Option Ipv4Addr :=
  net.hosts.find? fun ip => ip != serverIp && t.isIpAvailableForDynamic now ip

/-- `LeaseTable::next_available_ip`. -/
def nextAvailableIp (t : LeaseTable) (now : Nat) (net : Ipv4Net) (serverIp : Ipv4Addr) :
    LeaseTable × Option Ipv4Addr :=
  let evicted := t.evictExpired now
  (evicted, evicted.findHost now net serverIp)

/-- `LeaseTable::get_mac_by_ip`: the first entry that the iteration meets. -/
def getMacByIp (t : LeaseTable) (now : Nat) (order : IterOrder) (ip : Ipv4Addr) :
    Option MacAddr :=
  ((t.byMac.iter order.byMac).find? fun e => e.2.ip == ip && e.2.isLive now).map Prod.fst

/-- `LeaseTable::allocate_candidate`. -/
def allocateCandidate (t : LeaseTable) (now : Nat) (clientMac : MacAddr) (net : Ipv4Net)
    (serverIp : Ipv4Addr) : LeaseTable × Option Ipv4Addr :=
  match t.staticLeases.lookup clientMac with
  | some staticLease =>
    if net.contains staticLease.ip && staticLease.ip != serverIp &&
        !t.isIpTakenByOther now staticLease.ip clientMac then
      (t.insert clientMac ⟨staticLease.ip, now + candidateHoldDuration, staticLease.hostname⟩,
        some staticLease.ip)
    else (t, none)
  | none =>
    match t.nextAvailableIp now net serverIp with
    | (evicted, none) => (evicted, none)
    | (evicted, some ip) =>
      (evicted.insert clientMac ⟨ip, now + candidateHoldDuration, none⟩, some ip)

/-- The old host name that a confirmation takes out of the DNS. -/
def oldHostnameToDeregister : Option String → Option String → Option String
  | some old, some new => if old ≠ new then some old else none
  | some old, none => some old
  | none, _ => none

/-- The reservation check of `validate_and_confirm`: a reserved client gets its own address
only, and nobody else gets a reserved one. -/
def reservationRefuses (t : LeaseTable) (clientMac : MacAddr) (targetIp : Ipv4Addr) : Bool :=
  match t.staticLeases.lookup clientMac with
  | some staticLease => targetIp != staticLease.ip
  | none => decide (targetIp ∈ t.reservedIps)

/-- `LeaseTable::validate_and_confirm`. -/
def validateAndConfirm (t : LeaseTable) (now : Nat) (clientMac : MacAddr)
    (requestedIp : Option Ipv4Addr) (serverIp : Ipv4Addr) (net : Ipv4Net) (duration : Nat)
    (requestedHostname : Option String) : LeaseTable × Option LeaseConfirmation :=
  match requestedIp.or ((t.get clientMac).map ClientLease.ip) with
  | none => (t, none)
  | some targetIp =>
    if targetIp == serverIp || targetIp == net.network || targetIp == net.broadcast ||
        !net.contains targetIp || t.isIpTakenByOther now targetIp clientMac then
      (t, none)
    else if t.reservationRefuses clientMac targetIp then (t, none)
    else
      let oldHostname := (t.get clientMac).bind ClientLease.hostname
      let targetHostname :=
        ((t.staticLeases.lookup clientMac).bind StaticLease.hostname).or requestedHostname
      let hostname := targetHostname.filter fun base =>
        !t.isHostnameTakenByOther now base clientMac
      (t.insert clientMac ⟨targetIp, now + duration, hostname⟩,
        some ⟨targetIp, hostname, oldHostnameToDeregister oldHostname hostname⟩)

/-- The cases in which `update_from_neighbor` leaves the table alone. -/
def ignoresNeighbor (t : LeaseTable) (mac : MacAddr) (ip : Ipv4Addr) : Bool :=
  mac == MacAddr.zero || mac == MacAddr.broadcast ||
    (t.staticLeases.lookup mac).any (fun staticLease => ip != staticLease.ip) ||
    (t.get mac).any fun existing => existing.ip == ip

/-- `LeaseTable::update_from_neighbor`. -/
def updateFromNeighbor (t : LeaseTable) (now : Nat) (mac : MacAddr) (ip : Ipv4Addr) :
    LeaseTable :=
  if t.ignoresNeighbor mac ip then t
  else
    t.insert mac
      ⟨ip, now + neighborHoldDuration, (t.staticLeases.lookup mac).bind StaticLease.hostname⟩

/-- `LeaseTable::get_active_leases`: the live entries, then the reservations of clients
without one. -/
def getActiveLeases (t : LeaseTable) (now : Nat) (order : IterOrder) : List DhcpLeaseInfo :=
  let active := (t.byMac.iter order.byMac).filter fun e => e.2.isLive now
  let idle := (t.staticLeases.iter order.staticLeases).filter fun e =>
    !(active.map Prod.fst).contains e.1
  (active.map fun (mac, lease) =>
    { mac, ip := lease.ip, hostname := lease.hostname
      expiresInSeconds := asSecs (lease.expiry - now)
      isStatic := decide (mac ∈ t.staticLeases) }) ++
  idle.map fun (mac, staticLease) =>
    { mac, ip := staticLease.ip, hostname := staticLease.hostname
      expiresInSeconds := 0, isStatic := true }

end LeaseTable

/-- `LeaseCommand`, without the channels for the replies. -/
inductive LeaseCommand where
  | getExistingIp (clientMac : MacAddr)
  | allocateCandidate (clientMac : MacAddr) (net : Ipv4Net) (serverIp : Ipv4Addr)
  | confirmLease (clientMac : MacAddr) (ip : Ipv4Addr) (duration : Nat)
      (hostname : Option String)
  | validateAndConfirmRequest (clientMac : MacAddr) (requestedIp : Option Ipv4Addr)
      (serverIp : Ipv4Addr) (net : Ipv4Net) (duration : Nat)
      (requestedHostname : Option String)
  | checkConflict (targetIp : Ipv4Addr) (clientMac : MacAddr)
  | recordConflict (ip : Ipv4Addr) (duration : Nat)
  | release (clientMac : MacAddr)
  | evictExpired
  | addNeighbor (mac : MacAddr) (ip : Ipv4Addr)
  | setStaticLeases (staticLeases : List StaticLease)
  | getActiveLeases
deriving DecidableEq

/-- What the actor sends back for a command; `unit` where nothing is sent. -/
inductive LeaseReply where
  | unit
  | ip (ip : Option Ipv4Addr)
  | confirmation (confirmation : Option LeaseConfirmation)
  | conflict (isConflict : Bool)
  | released (lease : Option (Ipv4Addr × Option String))
  | expired (hostnames : List String)
  | active (leases : List DhcpLeaseInfo)
deriving DecidableEq

namespace LeaseReply

/-- The address in a reply, `None` when there is none. -/
def asIp : LeaseReply → Option Ipv4Addr
  | .ip found => found
  | _ => none

/-- The confirmation in a reply. -/
def asConfirmation : LeaseReply → Option LeaseConfirmation
  | .confirmation granted => granted
  | _ => none

/-- The answer to `CheckConflict`. -/
def asConflict : LeaseReply → Bool
  | .conflict isConflict => isConflict
  | _ => false

/-- The host name of a released lease. -/
def asReleasedHostname : LeaseReply → Option String
  | .released lease => lease.bind Prod.snd
  | _ => none

end LeaseReply

/-- `handle_lease_command`. -/
def handleLeaseCommand (now : Nat) (order : IterOrder) (t : LeaseTable) :
    LeaseCommand → LeaseTable × LeaseReply
  | .setStaticLeases staticLeases => (t.setStaticLeases staticLeases, .unit)
  | .getExistingIp clientMac =>
    let ip := match t.staticLeases.lookup clientMac with
      | some staticLease => some staticLease.ip
      | none => (t.get clientMac).map ClientLease.ip
    (t, .ip ip)
  | .allocateCandidate clientMac net serverIp =>
    let (t', ip) := t.allocateCandidate now clientMac net serverIp
    (t', .ip ip)
  | .confirmLease clientMac ip duration hostname =>
    (t.insert clientMac ⟨ip, now + duration, hostname⟩, .unit)
  | .validateAndConfirmRequest clientMac requestedIp serverIp net duration requestedHostname =>
    let (t', result) := t.validateAndConfirm now clientMac requestedIp serverIp net duration
      requestedHostname
    (t', .confirmation result)
  | .checkConflict targetIp clientMac =>
    (t, .conflict ((t.getMacByIp now order targetIp).any (· != clientMac)))
  | .recordConflict ip duration => (t.recordConflict now ip duration, .unit)
  | .release clientMac =>
    let (t', removed) := t.remove clientMac
    (t', .released (removed.map fun lease => (lease.ip, lease.hostname)))
  | .evictExpired =>
    (t.evictExpired now, .expired ((t.expiredHostnames now order).map Prod.snd))
  | .addNeighbor mac ip => (t.updateFromNeighbor now mac ip, .unit)
  | .getActiveLeases => (t, .active (t.getActiveLeases now order))

end TrimRouter.DhcpServer
