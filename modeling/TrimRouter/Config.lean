import TrimRouter.Lib.Check
import TrimRouter.Net

/-!
# The router configuration

`RouterConfig::parse` of `config.rs` from the deserialized document on: `ConfigToml` is what
`toml` and `serde` make of the file.  The parsers of the standard library and of `pnet` and
`log` for single values are a parameter (`Parsers`).  A LAN address is kept as the network
that its text `address/prefix` denotes.
-/

namespace TrimRouter

open Check

/-! ## Configuration values -/

/-- `ForwardProtocol`. -/
inductive ForwardProtocol where
  | tcp
  | udp
  | both
deriving DecidableEq

/-- `PortForwardRule`. -/
structure PortForwardRule where
  protocol : ForwardProtocol
  externalPort : BitVec 16
  internalIp : Ipv4Addr
  internalPort : BitVec 16
  description : Option String
deriving DecidableEq

/-- `log::LevelFilter`. -/
inductive LevelFilter where
  | off
  | error
  | warn
  | info
  | debug
  | trace
deriving DecidableEq

/-- `LoggingConfig`. -/
structure LoggingConfig where
  maxLogSizeMb : Nat
  level : LevelFilter
deriving DecidableEq

/-- `config::StaticLease`: a reservation of an address for a MAC address. -/
structure StaticLease where
  mac : MacAddr
  ip : Ipv4Addr
  hostname : Option String
deriving DecidableEq

/-- `RouterConfig`. -/
structure RouterConfig where
  lanIp : Ipv4Net
  backupLanIp : Ipv4Net
  wanMac : MacAddr
  lanMac : MacAddr
  logging : LoggingConfig
  watchdog : Bool
  dnsServers : List Ipv4Addr
  staticLeases : List StaticLease
  portForwards : List PortForwardRule
deriving DecidableEq

/-! ## The document -/

/-- `LanSection`. -/
structure LanSection where
  primaryNetwork : Option String
  fallbackNetwork : Option String
  prefixLength : Option Nat

/-- `PortForwardToml`. -/
structure PortForwardToml where
  proto : Option String
  externalPort : Option (BitVec 16)
  internalIp : Option String
  internalPort : Option (BitVec 16)
  description : Option String

/-- `NetworkSection`. -/
structure NetworkSection where
  wanMac : String
  lanMac : String
  dnsServers : Option (List String)

/-- `DhcpReservationToml`. -/
structure DhcpReservationToml where
  mac : String
  ip : Option String
  hostname : Option String

/-- `LoggingSection`. -/
structure LoggingSection where
  maxLogSizeMb : Option Nat
  level : Option String

/-- `ConfigToml`; the sections with a single key are that key. -/
structure ConfigToml where
  network : NetworkSection
  lan : Option LanSection
  reservations : Option (List DhcpReservationToml)
  watchdog : Option Bool
  logging : Option LoggingSection
  servers : Option (List String)
  portForwarding : Option (List PortForwardToml)

/-- The `FromStr` implementations that the configuration uses. -/
structure Parsers where
  macAddr : String → Option MacAddr
  ipv4Addr : String → Option Ipv4Addr
  levelFilter : String → Option LevelFilter

/-- The reasons to refuse a document. -/
inductive ConfigError where
  | macInvalid (field : String)
  | macNotUnicast (field : String) (mac : MacAddr)
  | macsEqual
  | networkEmpty (field : String)
  | prefixLength (len : Nat)
  | networkIp (field input : String)
  | networkCidr (field input : String)
  | networkBroadcast (field input : String)
  | networksOverlap (lan backup : Ipv4Net)
  | targetOutsideLan (context : String) (ip : Ipv4Addr) (lan : Ipv4Net)
  | targetUnderflow (context : String) (ip : Ipv4Addr)
  | targetOverflow (context : String) (offset : BitVec 32)
  | targetOutsideBackup (context : String) (ip : Ipv4Addr) (offset : BitVec 32) (backup : Ipv4Net)
  | loggingLevel (level : String)
  | resolverIp (ip : String)
  | resolverRefused (ip : String)
  | reservationMac (mac : String)
  | reservationMacNotUnicast (mac : MacAddr)
  | reservationWithoutIp (mac : String)
  | reservationIp (mac ip : String)
  | reservationHostname (mac hostname : String)
  | reservationRouterHostname (mac hostname : String)
  | duplicateHostname (hostname : String)
  | duplicateMac (mac : MacAddr)
  | duplicateIp (ip : Ipv4Addr)
  | protocol (proto : String)
  | externalPortMissing
  | externalPortZero
  | internalIpMissing
  | internalIp (ip : String)
  | internalPortZero
  | dhcpClientPort
  | duplicateTcpPort (port : BitVec 16)
  | duplicateUdpPort (port : BitVec 16)
deriving DecidableEq

/-- The `Display` of `std::net::AddrParseError` for an IPv4 address. -/
def addrParseError : String := "invalid IPv4 address syntax"

/-- The text of each error. -/
def ConfigError.message : ConfigError → String
  | .macInvalid field => field ++ " must be a valid MAC address"
  | .macNotUnicast field mac =>
    field ++ " " ++ mac.display ++
      " must be a valid non-zero, non-multicast unicast MAC address"
  | .macsEqual => "wan_mac and lan_mac must be distinct MAC addresses"
  | .networkEmpty field => field ++ " cannot be empty"
  | .prefixLength len =>
    "Invalid prefix_length /" ++ toString len ++ " (must be between /8 and /30)"
  | .networkIp field input =>
    "Invalid " ++ field ++ " IP in '" ++ input ++ "': " ++ addrParseError
  | .networkCidr field input =>
    "Invalid " ++ field ++ " CIDR for '" ++ input ++ "': invalid IP prefix length"
  | .networkBroadcast field input =>
    field ++ " '" ++ input ++ "' cannot use the broadcast address as the router host IP"
  | .networksOverlap lan backup =>
    "primary network (" ++ lan.display ++ ") and fallback network (" ++ backup.display ++
      ") must not overlap with each other"
  | .targetOutsideLan context ip lan =>
    context ++ " IP '" ++ ip.display ++ "' must be a valid host IP within LAN subnet '" ++
      lan.display ++ "' and not the router's gateway IP"
  | .targetUnderflow context ip =>
    context ++ " IP '" ++ ip.display ++ "' underflow on LAN subnet"
  | .targetOverflow context offset =>
    context ++ " host offset " ++ toString offset.toNat ++ " overflows fallback subnet"
  | .targetOutsideBackup context ip offset backup =>
    context ++ " IP '" ++ ip.display ++ "' (host offset " ++ toString offset.toNat ++
      ") is invalid on fallback subnet '" ++ backup.display ++
      "' (exceeds subnet range or collides with fallback gateway)"
  | .loggingLevel level =>
    "Invalid logging level '" ++ level ++
      "'. Must be one of: error, warn, info, debug, trace"
  | .resolverIp ip =>
    "Invalid custom DNS resolver IP address '" ++ ip ++ "': " ++ addrParseError
  | .resolverRefused ip =>
    "Invalid custom DNS resolver '" ++ ip ++ "': cannot be loopback, broadcast, " ++
      "multicast, link-local, documentation, or unspecified"
  | .reservationMac mac => "DHCP reservation MAC '" ++ mac ++ "' must be a valid MAC address"
  | .reservationMacNotUnicast mac =>
    "DHCP reservation MAC '" ++ mac.display ++
      "' must be a valid non-zero, non-multicast unicast MAC address"
  | .reservationWithoutIp mac => "DHCP reservation for MAC '" ++ mac ++ "' is missing 'ip'"
  | .reservationIp mac ip =>
    "DHCP reservation MAC '" ++ mac ++ "' IP '" ++ ip ++
      "' must be a valid IPv4 address: " ++ addrParseError
  | .reservationHostname mac hostname =>
    "DHCP reservation MAC '" ++ mac ++ "' hostname '" ++ hostname ++
      "' is not a valid RFC 1123 hostname"
  | .reservationRouterHostname mac hostname =>
    "DHCP reservation MAC '" ++ mac ++ "' hostname '" ++ hostname ++
      "' is reserved for the router"
  | .duplicateHostname hostname =>
    "Duplicate hostname '" ++ hostname ++ "' in DHCP reservations"
  | .duplicateMac mac => "Duplicate MAC address '" ++ mac.display ++ "' in DHCP reservations"
  | .duplicateIp ip => "Duplicate IP address '" ++ ip.display ++ "' in DHCP reservations"
  | .protocol proto =>
    "Invalid port forwarding protocol '" ++ proto ++ "': expected 'tcp', 'udp', or 'both'"
  | .externalPortMissing => "Port forwarding rule is missing 'external_port'"
  | .externalPortZero =>
    "Port forwarding 'external_port' must be between 1 and 65535 (cannot be 0)"
  | .internalIpMissing => "Port forwarding rule is missing 'internal_ip'"
  | .internalIp ip =>
    "Port forwarding target IP '" ++ ip ++ "' must be a valid IPv4 address: " ++ addrParseError
  | .internalPortZero =>
    "Port forwarding 'internal_port' must be between 1 and 65535 (cannot be 0)"
  | .dhcpClientPort => "Port forwarding external UDP port 68 conflicts with WAN DHCP client"
  | .duplicateTcpPort port =>
    "Duplicate port forwarding binding for TCP port " ++ toString port.toNat
  | .duplicateUdpPort port =>
    "Duplicate port forwarding binding for UDP port " ++ toString port.toNat

/-! ## Validation -/

/-- `is_valid_unicast_mac`. -/
def isValidUnicastMac (mac : MacAddr) : Bool :=
  if mac = MacAddr.zero ∨ mac = MacAddr.broadcast then false else !mac.getLsbD 40

/-- One of the two addresses of `parse_mac_addresses`. -/
def parseMacAddress (lib : Parsers) (field raw : String) : Except ConfigError MacAddr := do
  let mac ← require (lib.macAddr raw) (.macInvalid field)
  ensure (isValidUnicastMac mac) (.macNotUnicast field mac)
  return mac

/-- `parse_mac_addresses`. -/
def parseMacAddresses (lib : Parsers) (net : NetworkSection) :
    Except ConfigError (MacAddr × MacAddr) := do
  let wanMac ← parseMacAddress lib "wan_mac" net.wanMac
  let lanMac ← parseMacAddress lib "lan_mac" net.lanMac
  ensure (wanMac ≠ lanMac) .macsEqual
  return (wanMac, lanMac)

/-- `DEFAULT_PRIMARY_NETWORK`. -/
def defaultPrimaryNetwork : String := "192.168.1.0"

/-- `DEFAULT_FALLBACK_NETWORK`. -/
def defaultFallbackNetwork : String := "10.0.0.0"

/-- `DEFAULT_LAN_PREFIX_LENGTH`. -/
def defaultLanPrefixLength : Nat := 24

/-- `MIN_LAN_PREFIX_LENGTH`. -/
def minLanPrefixLength : Nat := 8

/-- `MAX_LAN_PREFIX_LENGTH`. -/
def maxLanPrefixLength : Nat := 30

/-- `parse_lan_network`: the address of the router in the network.  The base address of the
network stands for its first host. -/
def parseLanNetwork (lib : Parsers) (raw : Option String) (prefixLen : Nat)
    (defaultNetwork field : String) : Except ConfigError Ipv4Net := do
  let input := trim (raw.getD defaultNetwork)
  ensure (input ≠ "") (.networkEmpty field)
  ensure (minLanPrefixLength ≤ prefixLen ∧ prefixLen ≤ maxLanPrefixLength)
    (.prefixLength prefixLen)
  let baseIp ← require (lib.ipv4Addr input) (.networkIp field input)
  let net ← require (Ipv4Net.new baseIp prefixLen) (.networkCidr field input)
  if baseIp = net.network then
    return { net with addr := net.network + 1 }
  else
    ensure (baseIp ≠ net.broadcast) (.networkBroadcast field input)
    return net

/-- `parse_lan_subnets`. -/
def parseLanSubnets (lib : Parsers) (lan : Option LanSection) :
    Except ConfigError (Ipv4Net × Ipv4Net) := do
  let prefixLength := (lan.bind LanSection.prefixLength).getD defaultLanPrefixLength
  let lanNet ← parseLanNetwork lib (lan.bind LanSection.primaryNetwork) prefixLength
    defaultPrimaryNetwork "primary_network"
  let backupNet ← parseLanNetwork lib (lan.bind LanSection.fallbackNetwork) prefixLength
    defaultFallbackNetwork "fallback_network"
  ensure (!(lanNet.contains backupNet.network || backupNet.contains lanNet.network))
    (.networksOverlap lanNet backupNet)
  return (lanNet, backupNet)

/-- The address is a host address of the network other than the router's own. -/
def isClientIp (net : Ipv4Net) (ip : Ipv4Addr) : Bool :=
  net.contains ip && ip != net.network && ip != net.broadcast && ip != net.addr

/-- `validate_target_ip`. -/
def validateTargetIp (ip : Ipv4Addr) (lanNet backupNet : Ipv4Net) (context : String) :
    Except ConfigError Unit := do
  ensure (isClientIp lanNet ip) (.targetOutsideLan context ip lanNet)
  let offset ← require (ip.checkedSub lanNet.network) (.targetUnderflow context ip)
  let backupIp ← require (backupNet.network.checkedAdd offset) (.targetOverflow context offset)
  ensure (isClientIp backupNet backupIp) (.targetOutsideBackup context ip offset backupNet)

/-- `parse_logging_config`. -/
def parseLoggingConfig (lib : Parsers) (logging : Option LoggingSection) :
    Except ConfigError LoggingConfig := do
  let maxLogSizeMb := max ((logging.bind LoggingSection.maxLogSizeMb).getD 100) 1
  match logging.bind LoggingSection.level with
  | some raw =>
    let level ← require (lib.levelFilter raw) (.loggingLevel raw)
    return ⟨maxLogSizeMb, level⟩
  | none => return ⟨maxLogSizeMb, .info⟩

/-- One round of `parse_dns_servers`. -/
def parseDnsServer (lib : Parsers) (parsed : List Ipv4Addr) (raw : String) :
    Except ConfigError (List Ipv4Addr) := do
  let ip ← require (lib.ipv4Addr (trim raw)) (.resolverIp raw)
  ensure (isValidUpstreamResolver ip) (.resolverRefused raw)
  return if ip ∈ parsed then parsed else parsed ++ [ip]

/-- `parse_dns_servers`. -/
def parseDnsServers (lib : Parsers) (net : NetworkSection) (servers : Option (List String)) :
    Except ConfigError (List Ipv4Addr) :=
  ((net.dnsServers.or servers).getD []).foldlM (parseDnsServer lib) []

/-- The variables of the loop of `parse_dhcp_reservations`, the sets in the order of
insertion. -/
structure Reservations where
  staticLeases : List StaticLease
  seenMacs : List MacAddr
  seenIps : List Ipv4Addr
  seenHostnames : List String

/-- The host name of a reservation, checked against those before it. -/
def parseReservationHostname (seenHostnames : List String) (res : DhcpReservationToml) :
    Except ConfigError (Option String) :=
  match res.hostname with
  | some raw => do
      let sanitized ← require (sanitizeHostname raw) (.reservationHostname res.mac raw)
      ensure (sanitized ≠ routerHostname) (.reservationRouterHostname res.mac sanitized)
      ensure (sanitized ∉ seenHostnames) (.duplicateHostname sanitized)
      return some sanitized
  | none => return none

/-- One round of `parse_dhcp_reservations`. -/
def parseDhcpReservation (lib : Parsers) (lanNet backupNet : Ipv4Net) (acc : Reservations)
    (res : DhcpReservationToml) : Except ConfigError Reservations := do
  let mac ← require (lib.macAddr res.mac) (.reservationMac res.mac)
  ensure (isValidUnicastMac mac) (.reservationMacNotUnicast mac)
  let raw ← require res.ip (.reservationWithoutIp res.mac)
  let ip ← require (lib.ipv4Addr (trim raw)) (.reservationIp res.mac raw)
  validateTargetIp ip lanNet backupNet "DHCP reservation"
  let hostname ← parseReservationHostname acc.seenHostnames res
  ensure (mac ∉ acc.seenMacs) (.duplicateMac mac)
  ensure (ip ∉ acc.seenIps) (.duplicateIp ip)
  return {
    staticLeases := acc.staticLeases ++ [⟨mac, ip, hostname⟩]
    seenMacs := acc.seenMacs ++ [mac]
    seenIps := acc.seenIps ++ [ip]
    seenHostnames := acc.seenHostnames ++ hostname.toList }

/-- `parse_dhcp_reservations`. -/
def parseDhcpReservations (lib : Parsers) (reservations : Option (List DhcpReservationToml))
    (lanNet backupNet : Ipv4Net) : Except ConfigError (List StaticLease) := do
  let acc ← (reservations.getD []).foldlM (parseDhcpReservation lib lanNet backupNet)
    ⟨[], [], [], []⟩
  return acc.staticLeases

/-- `ForwardProtocol::from_str`. -/
def forwardProtocolFromStr (s : String) : Except ConfigError ForwardProtocol :=
  let lower := s.map Char.toLower
  if lower = "tcp" then .ok .tcp
  else if lower = "udp" then .ok .udp
  else if lower ∈ ["both", "tcp+udp", "tcp,udp", "all"] then .ok .both
  else .error (.protocol s)

/-- `validate_and_build_port_forward_rule`. -/
def validateAndBuildPortForwardRule (lib : Parsers) (raw : PortForwardToml)
    (lanNet backupNet : Ipv4Net) : Except ConfigError PortForwardRule := do
  let protocol ← forwardProtocolFromStr (raw.proto.getD "tcp")
  let externalPort ← require raw.externalPort .externalPortMissing
  ensure (externalPort ≠ 0) .externalPortZero
  let rawIp ← require raw.internalIp .internalIpMissing
  let internalIp ← require (lib.ipv4Addr (trim rawIp)) (.internalIp rawIp)
  validateTargetIp internalIp lanNet backupNet "Port forwarding"
  let internalPort := raw.internalPort.getD externalPort
  ensure (internalPort ≠ 0) .internalPortZero
  return { protocol, externalPort, internalIp, internalPort, description := raw.description }

/-- The rule matches TCP. -/
def PortForwardRule.bindsTcp (rule : PortForwardRule) : Bool :=
  rule.protocol == .tcp || rule.protocol == .both

/-- The rule matches UDP. -/
def PortForwardRule.bindsUdp (rule : PortForwardRule) : Bool :=
  rule.protocol == .udp || rule.protocol == .both

/-- The variables of the loop of `parse_port_forward_rules`. -/
structure Forwards where
  rules : List PortForwardRule
  boundTcpPorts : List (BitVec 16)
  boundUdpPorts : List (BitVec 16)

/-- `check_port_forward_conflicts`, with the ports bound afterwards. -/
def checkPortForwardConflicts (rule : PortForwardRule) (acc : Forwards) :
    Except ConfigError (List (BitVec 16) × List (BitVec 16)) := do
  ensure (!(rule.bindsUdp && rule.externalPort == clientPort)) .dhcpClientPort
  ensure (!(rule.bindsTcp && acc.boundTcpPorts.contains rule.externalPort))
    (.duplicateTcpPort rule.externalPort)
  ensure (!(rule.bindsUdp && acc.boundUdpPorts.contains rule.externalPort))
    (.duplicateUdpPort rule.externalPort)
  return (if rule.bindsTcp then acc.boundTcpPorts ++ [rule.externalPort] else acc.boundTcpPorts,
    if rule.bindsUdp then acc.boundUdpPorts ++ [rule.externalPort] else acc.boundUdpPorts)

/-- One round of `parse_port_forward_rules`. -/
def parsePortForwardRule (lib : Parsers) (lanNet backupNet : Ipv4Net) (acc : Forwards)
    (raw : PortForwardToml) : Except ConfigError Forwards := do
  let rule ← validateAndBuildPortForwardRule lib raw lanNet backupNet
  let (boundTcpPorts, boundUdpPorts) ← checkPortForwardConflicts rule acc
  return ⟨acc.rules ++ [rule], boundTcpPorts, boundUdpPorts⟩

/-- `parse_port_forward_rules`. -/
def parsePortForwardRules (lib : Parsers) (portForwarding : Option (List PortForwardToml))
    (lanNet backupNet : Ipv4Net) : Except ConfigError (List PortForwardRule) := do
  let acc ← (portForwarding.getD []).foldlM (parsePortForwardRule lib lanNet backupNet) ⟨[], [], []⟩
  return acc.rules

/-- `RouterConfig::parse`. -/
def RouterConfig.parse (lib : Parsers) (parsed : ConfigToml) : Except ConfigError RouterConfig := do
  let (wanMac, lanMac) ← parseMacAddresses lib parsed.network
  let dnsServers ← parseDnsServers lib parsed.network parsed.servers
  let (lanIp, backupLanIp) ← parseLanSubnets lib parsed.lan
  let staticLeases ← parseDhcpReservations lib parsed.reservations lanIp backupLanIp
  let portForwards ← parsePortForwardRules lib parsed.portForwarding lanIp backupLanIp
  let logging ← parseLoggingConfig lib parsed.logging
  return {
    lanIp, backupLanIp, wanMac, lanMac, logging, dnsServers, staticLeases, portForwards
    watchdog := parsed.watchdog.getD true }

/-! ## What acceptance says -/

/-- A target that `validate_target_ip` accepts: a client address of the LAN whose image in
the fallback network is a client address there. -/
structure ValidTarget (lanNet backupNet : Ipv4Net) (ip : Ipv4Addr) : Prop where
  inLan : isClientIp lanNet ip = true
  above : lanNet.network ≤ ip
  fits : backupNet.network.toNat + (ip - lanNet.network).toNat < 2 ^ 32
  inBackup : isClientIp backupNet (lanNet.translate backupNet ip) = true

variable {lib : Parsers} {lanNet backupNet : Ipv4Net} {ip : Ipv4Addr} {context : String}
  {acc : Reservations} {res : DhcpReservationToml} {hostname : Option String}
  {done : List StaticLease} {lease : StaticLease} {seenHostnames : List String} {doc : ConfigToml}
  {cfg : RouterConfig}

theorem validateTargetIp_ok (h : validateTargetIp ip lanNet backupNet context = .ok ()) :
    ValidTarget lanNet backupNet ip := by
  simp only [validateTargetIp, bind_eq_ok, ensure_eq_ok, require_eq_ok, exists_const,
    Ipv4Addr.checkedSub, Ipv4Addr.checkedAdd, Option.ite_none_right_eq_some,
    Option.some.injEq] at h
  obtain ⟨inLan, offset, ⟨above, rfl⟩, backupIp, ⟨fits, rfl⟩, inBackup⟩ := h
  exact ⟨inLan, above, fits, inBackup⟩

theorem parseReservationHostname_ok
    (h : parseReservationHostname seenHostnames res = .ok hostname) :
    ∀ name ∈ hostname, name ≠ routerHostname ∧ name ∉ seenHostnames := by
  unfold parseReservationHostname at h
  split at h
  · simp only [bind_eq_ok, ensure_eq_ok, exists_const, decide_eq_true_eq] at h
    obtain ⟨sanitized, -, notRouter, unseen, same⟩ := h
    cases same
    intro name named
    cases named
    exact ⟨notRouter, unseen⟩
  · cases h
    exact nofun

/-- What the loader checks of the reservations as a whole: one per MAC address, address and name,
and none with the router's own name. -/
structure DhcpServer.ValidReservations (staticLeases : List StaticLease) : Prop where
  macs : (staticLeases.map StaticLease.mac).Nodup
  ips : (staticLeases.map StaticLease.ip).Nodup
  hostnames : (staticLeases.filterMap StaticLease.hostname).Nodup
  notRouter : routerHostname ∉ staticLeases.filterMap StaticLease.hostname

/-- And what it checks of each one on the two networks. -/
structure FittingReservations (lanNet backupNet : Ipv4Net) (staticLeases : List StaticLease) :
    Prop extends DhcpServer.ValidReservations staticLeases where
  unicast : ∀ lease ∈ staticLeases, isValidUnicastMac lease.mac = true
  targets : ∀ lease ∈ staticLeases, ValidTarget lanNet backupNet lease.ip

/-- The variables of the loop of `parse_dhcp_reservations` after these reservations. -/
def Reservations.after (leases : List StaticLease) : Reservations :=
  ⟨leases, leases.map StaticLease.mac, leases.map StaticLease.ip,
    leases.filterMap StaticLease.hostname⟩

theorem Reservations.after_snoc :
    after (done ++ [lease]) =
      ⟨done ++ [lease], (after done).seenMacs ++ [lease.mac], (after done).seenIps ++ [lease.ip],
        (after done).seenHostnames ++ lease.hostname.toList⟩ := by
  cases named : lease.hostname <;> simp [after, named]

theorem nodup_snoc {α : Type} {as : List α} {a : α} (before : as.Nodup) (new : a ∉ as) :
    (as ++ [a]).Nodup := by
  rw [List.nodup_append]
  exact ⟨before, List.nodup_singleton a, fun b listed c same => by
    rw [List.mem_singleton] at same
    intro equal
    rw [← same, ← equal] at new
    exact new listed⟩

theorem parseDhcpReservation_fitting (before : FittingReservations lanNet backupNet done)
    (h : parseDhcpReservation lib lanNet backupNet (.after done) res = .ok acc) :
    ∃ lease, acc = .after (done ++ [lease]) ∧
      FittingReservations lanNet backupNet (done ++ [lease]) := by
  simp only [parseDhcpReservation, bind_eq_ok, ensure_eq_ok, require_eq_ok, exists_const,
    decide_eq_true_eq] at h
  obtain ⟨mac, -, unicast, raw, -, ip, -, ⟨⟩, target, hostname, named, newMac, newIp, same⟩ := h
  cases same
  have target := validateTargetIp_ok target
  have named := parseReservationHostname_ok named
  refine ⟨⟨mac, ip, hostname⟩, Reservations.after_snoc.symm, ⟨?_, ?_, ?_, ?_⟩,
    List.forall_mem_append.mpr ⟨before.unicast, List.forall_mem_singleton.mpr unicast⟩,
    List.forall_mem_append.mpr ⟨before.targets, List.forall_mem_singleton.mpr target⟩⟩
  · rw [List.map_append]
    exact nodup_snoc before.macs newMac
  · rw [List.map_append]
    exact nodup_snoc before.ips newIp
  · cases hostname with
    | none => simpa using before.hostnames
    | some name =>
      rw [List.filterMap_append]
      exact nodup_snoc before.hostnames (named name rfl).2
  · rw [List.filterMap_append]
    intro listed
    rcases List.mem_append.mp listed with old | new
    · exact before.notRouter old
    · obtain ⟨lease, member, isRouter⟩ := List.mem_filterMap.mp new
      cases List.mem_singleton.mp member
      exact (named routerHostname isRouter).1 rfl

theorem parse_reservations {reservations : Option (List DhcpReservationToml)}
    {staticLeases : List StaticLease}
    (h : parseDhcpReservations lib reservations lanNet backupNet = .ok staticLeases) :
    FittingReservations lanNet backupNet staticLeases := by
  simp only [parseDhcpReservations, bind_eq_ok] at h
  obtain ⟨acc, loop, same⟩ := h
  cases same
  have start : FittingReservations lanNet backupNet [] := ⟨⟨.nil, .nil, .nil, nofun⟩, nofun, nofun⟩
  have keep : ∀ (acc : Reservations) (res : DhcpReservationToml) (acc' : Reservations),
      (∃ done, acc = .after done ∧ FittingReservations lanNet backupNet done) →
      parseDhcpReservation lib lanNet backupNet acc res = .ok acc' →
      ∃ done, acc' = .after done ∧ FittingReservations lanNet backupNet done := by
    rintro acc res acc' ⟨done, rfl, before⟩ read
    obtain ⟨lease, rfl, after⟩ := parseDhcpReservation_fitting before read
    exact ⟨_, rfl, after⟩
  obtain ⟨done, rfl, fitting⟩ := foldlM_ok keep ⟨[], rfl, start⟩ loop
  exact fitting

/-- What holds of the port forwards read so far. -/
def Forwards.ValidTargets (lanNet backupNet : Ipv4Net) (acc : Forwards) : Prop :=
  ∀ rule ∈ acc.rules, ValidTarget lanNet backupNet rule.internalIp

theorem validateAndBuildPortForwardRule_ok {raw : PortForwardToml} {rule : PortForwardRule}
    (h : validateAndBuildPortForwardRule lib raw lanNet backupNet = .ok rule) :
    ValidTarget lanNet backupNet rule.internalIp := by
  simp only [validateAndBuildPortForwardRule, bind_eq_ok, ensure_eq_ok, require_eq_ok,
    exists_const] at h
  obtain ⟨protocol, -, port, -, -, rawIp, -, ip, -, ⟨⟩, target, -, same⟩ := h
  cases same
  exact validateTargetIp_ok target

theorem parsePortForwardRule_validTargets {acc acc' : Forwards} {raw : PortForwardToml}
    (before : acc.ValidTargets lanNet backupNet)
    (h : parsePortForwardRule lib lanNet backupNet acc raw = .ok acc') :
    acc'.ValidTargets lanNet backupNet := by
  simp only [parsePortForwardRule, bind_eq_ok] at h
  obtain ⟨rule, built, ports, -, same⟩ := h
  cases same
  have new := validateAndBuildPortForwardRule_ok built
  exact List.forall_mem_append.mpr ⟨before, List.forall_mem_singleton.mpr new⟩

theorem parse_forwards {portForwarding : Option (List PortForwardToml)}
    {rules : List PortForwardRule}
    (h : parsePortForwardRules lib portForwarding lanNet backupNet = .ok rules) :
    ∀ rule ∈ rules, ValidTarget lanNet backupNet rule.internalIp := by
  simp only [parsePortForwardRules, bind_eq_ok] at h
  obtain ⟨acc, loop, same⟩ := h
  cases same
  have start : Forwards.ValidTargets lanNet backupNet ⟨[], [], []⟩ := nofun
  exact foldlM_ok (fun _ _ _ => parsePortForwardRule_validTargets) start loop

/-- What acceptance says about the reservations, and about the rules that follow the LAN to another
subnet. -/
structure RouterConfig.WellFormed (cfg : RouterConfig) : Prop
    extends FittingReservations cfg.lanIp cfg.backupLanIp cfg.staticLeases where
  forwardTargets : ∀ rule ∈ cfg.portForwards,
    ValidTarget cfg.lanIp cfg.backupLanIp rule.internalIp

theorem RouterConfig.parse_wellFormed (accepted : RouterConfig.parse lib doc = .ok cfg) :
    cfg.WellFormed := by
  simp only [RouterConfig.parse, bind_eq_ok] at accepted
  obtain ⟨macs, -, dnsServers, -, nets, -, staticLeases, reservations, portForwards, forwards,
    logging, -, same⟩ := accepted
  cases same
  exact ⟨parse_reservations reservations, parse_forwards forwards⟩

end TrimRouter
