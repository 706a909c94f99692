import TrimRouter.Config.Documents
import TrimRouter.Net.Subnet

/-!
# Accepted configurations

What `RouterConfig::parse` guarantees of every configuration that it accepts, in terms of the
networks and of the ports that the rules bind, and not of the checks that establish it.
`accepted_sound` states the guarantees as one structure.
-/

namespace TrimRouter

open Check

/-- A host name label of RFC 1123 in lower case. -/
structure IsHostnameLabel (name : String) : Prop where
  nonempty : name.toList ≠ []
  short : name.toList.length ≤ 63
  chars : ∀ c ∈ name.toList, c.isLower = true ∨ c.isDigit = true ∨ c = '-'
  first : name.toList.head? ≠ some '-'
  last : name.toList.getLast? ≠ some '-'

/-- The transport protocols that a rule can bind a port of. -/
inductive Transport where
  | tcp
  | udp
deriving DecidableEq

/-- The external ports that a rule binds. -/
def PortForwardRule.bindings (rule : PortForwardRule) : List (Transport × BitVec 16) :=
  match rule.protocol with
  | .tcp => [(.tcp, rule.externalPort)]
  | .udp => [(.udp, rule.externalPort)]
  | .both => [(.tcp, rule.externalPort), (.udp, rule.externalPort)]

/-- A unicast address: not zero, with a clear group bit (the lowest bit of the first octet). -/
def IsUnicastMac (mac : MacAddr) : Prop := mac ≠ MacAddr.zero ∧ mac.getLsbD 40 = false

/-- A client of the LAN keeps its distance from the base of the network when the LAN moves to the
fallback network, and is a client there. -/
structure IsMobileClient (lanNet backupNet : Ipv4Net) (ip : Ipv4Addr) : Prop where
  host : lanNet.IsHost ip
  notGateway : ip ≠ lanNet.addr
  moved : ∃ ip', ip'.toNat = backupNet.network.toNat + (ip.toNat - lanNet.network.toNat) ∧
    backupNet.IsHost ip' ∧ ip' ≠ backupNet.addr

/-- What every accepted configuration has. -/
structure RouterConfig.Sound (cfg : RouterConfig) : Prop extends cfg.WellFormed where
  wanMac : IsUnicastMac cfg.wanMac
  lanMac : IsUnicastMac cfg.lanMac
  distinctMacs : cfg.wanMac ≠ cfg.lanMac
  prefixLen : cfg.lanIp.prefixLen = cfg.backupLanIp.prefixLen
  prefixLen_bounds : 8 ≤ cfg.lanIp.prefixLen ∧ cfg.lanIp.prefixLen ≤ 30
  disjoint : ∀ ip, ¬ (cfg.lanIp.contains ip = true ∧ cfg.backupLanIp.contains ip = true)
  gateway : cfg.lanIp.IsHost cfg.lanIp.addr
  backupGateway : cfg.backupLanIp.IsHost cfg.backupLanIp.addr
  clientMacs_unicast : ∀ lease ∈ cfg.staticLeases, IsUnicastMac lease.mac
  hostnames_valid : ∀ lease ∈ cfg.staticLeases, ∀ name ∈ lease.hostname, IsHostnameLabel name
  reservations : ∀ lease ∈ cfg.staticLeases, IsMobileClient cfg.lanIp cfg.backupLanIp lease.ip
  forwards : ∀ rule ∈ cfg.portForwards, IsMobileClient cfg.lanIp cfg.backupLanIp rule.internalIp
  bindings : (cfg.portForwards.flatMap PortForwardRule.bindings).Nodup
  notDhcpClient : (.udp, 68) ∉ cfg.portForwards.flatMap PortForwardRule.bindings

/-! ## Host names -/

theorem toLower_label {c : Char} (valid : (c.isAlphanum || c == '-') = true) :
    (c.toLower.isLower = true ∨ c.toLower.isDigit = true ∨ c.toLower = '-') ∧
      (c.toLower = '-' → c = '-') := by
  by_cases upper : c.val ≥ 'A'.val ∧ c.val ≤ 'Z'.val
  · have lower : c.toLower.isLower = true := by
      unfold Char.isLower Char.toLower
      rw [dif_pos upper, Bool.and_eq_true, decide_eq_true_eq, decide_eq_true_eq, ge_iff_le,
        UInt32.le_iff_toNat_le, UInt32.le_iff_toNat_le, UInt32.toNat_add]
      rw [ge_iff_le, UInt32.le_iff_toNat_le, UInt32.le_iff_toNat_le] at upper
      have shift : ('a'.val - 'A'.val).toNat = 32 := rfl
      have first : 'A'.val.toNat = 65 := rfl
      have last : 'Z'.val.toNat = 90 := rfl
      have firstLower : 'a'.val.toNat = 97 := rfl
      have lastLower : 'z'.val.toNat = 122 := rfl
      omega
    refine ⟨.inl lower, fun hyphen => ?_⟩
    rw [hyphen] at lower
    cases lower
  · have same : c.toLower = c := by
      unfold Char.toLower
      rw [dif_neg upper]
    have notUpper : c.isUpper = false := decide_eq_false upper
    rw [same]
    have classes : c.isAlphanum = (c.isUpper || c.isLower || c.isDigit) := rfl
    simp only [classes, notUpper, Bool.false_or, Bool.or_eq_true, beq_iff_eq, or_assoc] at valid
    exact ⟨valid, id⟩

theorem sanitizeHostname_label {raw name : String} (h : sanitizeHostname raw = some name) :
    IsHostnameLabel name := by
  unfold sanitizeHostname at h
  generalize ((raw.toList.takeWhile (· ≠ '.')).dropWhile isWhitespace).rdropWhile isWhitespace =
    label at h
  obtain ⟨size, h⟩ := Option.ite_none_left_eq_some.mp h
  obtain ⟨ends, h⟩ := Option.ite_none_left_eq_some.mp h
  obtain ⟨valid, h⟩ := Option.ite_none_right_eq_some.mp h
  cases h
  rw [not_or] at size ends
  have chars := List.all_eq_true.mp valid
  have notHyphen : ∀ c ∈ label, c ≠ '-' → c.toLower ≠ '-' := by
    intro c listed other hyphen
    exact other ((toLower_label (chars c listed)).2 hyphen)
  refine ⟨?_, ?_, ?_, ?_, ?_⟩
  · simpa using size.1
  · simpa using size.2
  · intro c listed
    rw [String.toList_ofList, List.mem_map] at listed
    obtain ⟨original, inside, rfl⟩ := listed
    exact (toLower_label (chars original inside)).1
  · rw [String.toList_ofList, List.head?_map]
    intro hyphen
    obtain ⟨c, first, lower⟩ := Option.map_eq_some_iff.mp hyphen
    refine notHyphen c (List.mem_of_head? first) ?_ lower
    rintro rfl
    exact ends.1 first
  · rw [String.toList_ofList, List.getLast?_map]
    intro hyphen
    obtain ⟨c, last, lower⟩ := Option.map_eq_some_iff.mp hyphen
    refine notHyphen c (List.mem_of_getLast? last) ?_ lower
    rintro rfl
    exact ends.2 last

/-! ## Addresses and networks -/

variable {lib : Parsers} {lanNet backupNet net : Ipv4Net} {ip : Ipv4Addr} {mac : MacAddr}

theorem isUnicastMac_of_valid (valid : isValidUnicastMac mac = true) : IsUnicastMac mac := by
  unfold isValidUnicastMac at valid
  split at valid
  · cases valid
  · rename_i special
    rw [not_or] at special
    exact ⟨special.1, by simpa using valid⟩

theorem parseMacAddress_ok {field raw : String}
    (h : parseMacAddress lib field raw = .ok mac) : IsUnicastMac mac := by
  simp only [parseMacAddress, bind_eq_ok, ensure_eq_ok, require_eq_ok, exists_const] at h
  obtain ⟨parsed, -, valid, same⟩ := h
  cases same
  exact isUnicastMac_of_valid valid

theorem parseMacAddresses_ok {network : NetworkSection} {macs : MacAddr × MacAddr}
    (h : parseMacAddresses lib network = .ok macs) :
    IsUnicastMac macs.1 ∧ IsUnicastMac macs.2 ∧ macs.1 ≠ macs.2 := by
  simp only [parseMacAddresses, bind_eq_ok, ensure_eq_ok, exists_const, decide_eq_true_eq] at h
  obtain ⟨wanMac, wan, lanMac, lan, distinct, same⟩ := h
  cases same
  exact ⟨parseMacAddress_ok wan, parseMacAddress_ok lan, distinct⟩

theorem isHost_first (wide : net.prefixLen ≤ 30) :
    ({ net with addr := net.network + 1 } : Ipv4Net).IsHost (net.network + 1) := by
  have room : 2 ^ 2 ≤ net.size := Nat.pow_le_pow_right (by decide) (by omega)
  have top : net.broadcast.toNat = net.network.toNat + (net.size - 1) := Ipv4Net.toNat_broadcast
  have limit : net.broadcast.toNat < 2 ^ 32 := net.broadcast.isLt
  have one : (1 : Ipv4Addr).toNat = 1 := rfl
  have next : (net.network + 1).toNat = net.network.toNat + 1 := by
    rw [BitVec.toNat_add, one]
    exact Nat.mod_eq_of_lt (by omega)
  have inside : net.contains (net.network + 1) = true := by
    rw [Ipv4Net.contains_iff, next]
    omega
  unfold Ipv4Net.IsHost
  rw [Ipv4Net.network_withAddr inside, Ipv4Net.broadcast_withAddr inside, BitVec.lt_def,
    BitVec.lt_def, next]
  omega

/-- An address of the network that is neither its base nor its broadcast address. -/
theorem isHost_of_contains (inside : net.contains ip = true) (notBase : ip ≠ net.network)
    (notBroadcast : ip ≠ net.broadcast) : net.IsHost ip := by
  rw [Ipv4Net.contains_iff] at inside
  rw [ne_eq, ← BitVec.toNat_inj] at notBase notBroadcast
  unfold Ipv4Net.IsHost
  rw [BitVec.lt_def, BitVec.lt_def]
  omega

theorem parseLanNetwork_ok {raw : Option String} {prefixLen : Nat} {default field : String}
    (h : parseLanNetwork lib raw prefixLen default field = .ok net) :
    net.prefixLen = prefixLen ∧ (8 ≤ prefixLen ∧ prefixLen ≤ 30) ∧ net.IsHost net.addr := by
  simp only [parseLanNetwork, bind_eq_ok, ensure_eq_ok, require_eq_ok, exists_const,
    decide_eq_true_eq] at h
  obtain ⟨-, bounds, baseIp, -, parsed, built, h⟩ := h
  unfold Ipv4Net.new at built
  obtain ⟨short, built⟩ := Option.dite_none_right_eq_some.mp built
  cases built
  split at h
  · cases h
    exact ⟨rfl, bounds, isHost_first bounds.2⟩
  · rename_i notBase
    simp only [bind_eq_ok, ensure_eq_ok, exists_const, decide_eq_true_eq] at h
    obtain ⟨notBroadcast, same⟩ := h
    cases same
    exact ⟨rfl, bounds, isHost_of_contains Ipv4Net.contains_addr notBase notBroadcast⟩

/-- What the two networks of a configuration have. -/
structure SoundNetworks (lanNet backupNet : Ipv4Net) : Prop where
  prefixLen : lanNet.prefixLen = backupNet.prefixLen
  prefixLen_bounds : 8 ≤ lanNet.prefixLen ∧ lanNet.prefixLen ≤ 30
  disjoint : ∀ ip, ¬ (lanNet.contains ip = true ∧ backupNet.contains ip = true)
  gateway : lanNet.IsHost lanNet.addr
  backupGateway : backupNet.IsHost backupNet.addr

theorem parseLanSubnets_ok {lan : Option LanSection} {nets : Ipv4Net × Ipv4Net}
    (h : parseLanSubnets lib lan = .ok nets) : SoundNetworks nets.1 nets.2 := by
  simp only [parseLanSubnets, bind_eq_ok, ensure_eq_ok, exists_const] at h
  obtain ⟨lanNet, primary, backupNet, fallback, apart, same⟩ := h
  cases same
  obtain ⟨len, bounds, gateway⟩ := parseLanNetwork_ok primary
  obtain ⟨backupLen, -, backupGateway⟩ := parseLanNetwork_ok fallback
  rw [Bool.not_eq_true', Bool.or_eq_false_iff] at apart
  refine ⟨len.trans backupLen.symm, len.symm ▸ bounds, ?_, gateway, backupGateway⟩
  intro ip
  exact Ipv4Net.disjoint_of_bases apart.1 apart.2

theorem isHost_of_isClientIp (client : isClientIp net ip = true) :
    net.IsHost ip ∧ ip ≠ net.addr := by
  simp only [isClientIp, Bool.and_eq_true, bne_iff_ne] at client
  obtain ⟨⟨⟨inside, notBase⟩, notBroadcast⟩, notGateway⟩ := client
  exact ⟨isHost_of_contains inside notBase notBroadcast, notGateway⟩

theorem toNat_translate (valid : ValidTarget lanNet backupNet ip) :
    (lanNet.translate backupNet ip).toNat =
      backupNet.network.toNat + (ip.toNat - lanNet.network.toNat) := by
  have offset : (ip - lanNet.network).toNat = ip.toNat - lanNet.network.toNat :=
    BitVec.toNat_sub_of_le valid.above
  unfold Ipv4Net.translate
  rw [BitVec.toNat_add, offset]
  exact Nat.mod_eq_of_lt (offset ▸ valid.fits)

theorem ValidTarget.isMobileClient (valid : ValidTarget lanNet backupNet ip) :
    IsMobileClient lanNet backupNet ip := by
  obtain ⟨host, notGateway⟩ := isHost_of_isClientIp valid.inLan
  obtain ⟨backupHost, notBackupGateway⟩ := isHost_of_isClientIp valid.inBackup
  exact ⟨host, notGateway, lanNet.translate backupNet ip, toNat_translate valid, backupHost,
    notBackupGateway⟩

/-! ## Reservations and port forwards -/

variable {acc acc' : Reservations} {res : DhcpReservationToml}

/-- The host names read so far are labels. -/
def Reservations.Labels (acc : Reservations) : Prop :=
  ∀ lease ∈ acc.staticLeases, ∀ name ∈ lease.hostname, IsHostnameLabel name

theorem parseReservationHostname_label {seen : List String} {hostname : Option String}
    (h : parseReservationHostname seen res = .ok hostname) :
    ∀ name ∈ hostname, IsHostnameLabel name := by
  unfold parseReservationHostname at h
  split at h
  · simp only [bind_eq_ok, require_eq_ok, ensure_eq_ok, exists_const] at h
    obtain ⟨sanitized, valid, -, -, same⟩ := h
    cases same
    intro name named
    cases named
    exact sanitizeHostname_label valid
  · cases h
    intro name named
    cases named

theorem parseDhcpReservation_labels (before : acc.Labels)
    (h : parseDhcpReservation lib lanNet backupNet acc res = .ok acc') : acc'.Labels := by
  simp only [parseDhcpReservation, bind_eq_ok, ensure_eq_ok, require_eq_ok, exists_const] at h
  obtain ⟨mac, -, -, raw, -, ip, -, ⟨⟩, -, hostname, named, -, -, same⟩ := h
  cases same
  have new := parseReservationHostname_label named
  exact List.forall_mem_append.mpr ⟨before, List.forall_mem_singleton.mpr new⟩

theorem parse_labels {reservations : Option (List DhcpReservationToml)}
    {staticLeases : List StaticLease}
    (h : parseDhcpReservations lib reservations lanNet backupNet = .ok staticLeases) :
    ∀ lease ∈ staticLeases, ∀ name ∈ lease.hostname, IsHostnameLabel name := by
  simp only [parseDhcpReservations, bind_eq_ok] at h
  obtain ⟨acc, loop, same⟩ := h
  cases same
  have start : Reservations.Labels ⟨[], [], [], []⟩ := by
    intro lease listed
    cases listed
  exact foldlM_ok (fun _ _ _ => parseDhcpReservation_labels) start loop

/-- What holds of the ports that the rules read so far bind. -/
structure Forwards.Bound (acc : Forwards) : Prop where
  tcp : ∀ port, (.tcp, port) ∈ acc.rules.flatMap PortForwardRule.bindings →
    port ∈ acc.boundTcpPorts
  udp : ∀ port, (.udp, port) ∈ acc.rules.flatMap PortForwardRule.bindings →
    port ∈ acc.boundUdpPorts
  once : (acc.rules.flatMap PortForwardRule.bindings).Nodup
  notDhcpClient : (.udp, 68) ∉ acc.rules.flatMap PortForwardRule.bindings

variable {rule : PortForwardRule} {port : BitVec 16}

theorem mem_bindings_tcp :
    (Transport.tcp, port) ∈ rule.bindings ↔ rule.bindsTcp = true ∧ port = rule.externalPort := by
  unfold PortForwardRule.bindings PortForwardRule.bindsTcp
  cases rule.protocol <;> simp

theorem mem_bindings_udp :
    (Transport.udp, port) ∈ rule.bindings ↔ rule.bindsUdp = true ∧ port = rule.externalPort := by
  unfold PortForwardRule.bindings PortForwardRule.bindsUdp
  cases rule.protocol <;> simp

theorem nodup_bindings : rule.bindings.Nodup := by
  unfold PortForwardRule.bindings
  cases rule.protocol <;> simp

theorem mem_boundPorts {binds : Bool} {ports : List (BitVec 16)} {new : BitVec 16}
    (bound : port ∈ ports ∨ binds = true ∧ port = new) :
    port ∈ if binds = true then ports ++ [new] else ports := by
  rcases bound with old | ⟨now, rfl⟩
  · split
    · exact List.mem_append_left _ old
    · exact old
  · rw [if_pos now]
    exact List.mem_append_right _ (List.mem_singleton.mpr rfl)

theorem Forwards.Bound.concat {acc : Forwards} {ports : List (BitVec 16) × List (BitVec 16)}
    (bound : acc.Bound) (h : checkPortForwardConflicts rule acc = .ok ports) :
    Forwards.Bound ⟨acc.rules ++ [rule], ports.1, ports.2⟩ := by
  simp only [checkPortForwardConflicts, bind_eq_ok, ensure_eq_ok, exists_const,
    Bool.not_eq_true', Bool.and_eq_false_imp, beq_eq_false_iff_ne,
    List.contains_eq_mem, decide_eq_false_iff_not] at h
  obtain ⟨notClient, newTcp, newUdp, same⟩ := h
  cases same
  have joined : (acc.rules ++ [rule]).flatMap PortForwardRule.bindings =
      acc.rules.flatMap PortForwardRule.bindings ++ rule.bindings := by
    rw [List.flatMap_append, List.flatMap_singleton]
  have apart : ∀ binding ∈ rule.bindings,
      binding ∉ acc.rules.flatMap PortForwardRule.bindings := by
    intro ⟨transport, port⟩ new old
    cases transport with
    | tcp =>
      obtain ⟨binds, rfl⟩ := mem_bindings_tcp.mp new
      exact newTcp binds (bound.tcp _ old)
    | udp =>
      obtain ⟨binds, rfl⟩ := mem_bindings_udp.mp new
      exact newUdp binds (bound.udp _ old)
  refine ⟨?_, ?_, ?_, ?_⟩
  · intro port listed
    rw [joined, List.mem_append] at listed
    exact mem_boundPorts (listed.imp (bound.tcp port) mem_bindings_tcp.mp)
  · intro port listed
    rw [joined, List.mem_append] at listed
    exact mem_boundPorts (listed.imp (bound.udp port) mem_bindings_udp.mp)
  · rw [joined, List.nodup_append]
    refine ⟨bound.once, nodup_bindings, ?_⟩
    intro old before new now same
    exact apart new now (same ▸ before)
  · rw [joined, List.mem_append, not_or]
    refine ⟨bound.notDhcpClient, ?_⟩
    intro listed
    obtain ⟨binds, same⟩ := mem_bindings_udp.mp listed
    exact notClient binds same.symm

theorem parsePortForwardRule_bound {acc acc' : Forwards} {raw : PortForwardToml}
    (bound : acc.Bound) (h : parsePortForwardRule lib lanNet backupNet acc raw = .ok acc') :
    acc'.Bound := by
  simp only [parsePortForwardRule, bind_eq_ok] at h
  obtain ⟨rule, -, ports, free, same⟩ := h
  cases same
  exact bound.concat free

theorem parse_bindings {portForwarding : Option (List PortForwardToml)}
    {rules : List PortForwardRule}
    (h : parsePortForwardRules lib portForwarding lanNet backupNet = .ok rules) :
    (rules.flatMap PortForwardRule.bindings).Nodup ∧
      (.udp, 68) ∉ rules.flatMap PortForwardRule.bindings := by
  simp only [parsePortForwardRules, bind_eq_ok] at h
  obtain ⟨acc, loop, same⟩ := h
  cases same
  have start : Forwards.Bound ⟨[], [], []⟩ := by
    refine ⟨?_, ?_, .nil, ?_⟩
    · intro port listed
      cases listed
    · intro port listed
      cases listed
    · intro listed
      cases listed
  have bound := foldlM_ok (fun _ _ _ => parsePortForwardRule_bound) start loop
  exact ⟨bound.once, bound.notDhcpClient⟩

/-- Every configuration that `RouterConfig::parse` accepts is well formed, whatever the document
says and however its single values are parsed. -/
theorem accepted_sound {doc : ConfigToml} {cfg : RouterConfig}
    (accepted : RouterConfig.parse lib doc = .ok cfg) : cfg.Sound := by
  have wellFormed := RouterConfig.parse_wellFormed accepted
  simp only [RouterConfig.parse, bind_eq_ok] at accepted
  obtain ⟨macs, parsedMacs, dnsServers, -, nets, parsedNets, staticLeases, reservations,
    portForwards, forwards, logging, -, same⟩ := accepted
  cases same
  obtain ⟨wanMac, lanMac, distinct⟩ := parseMacAddresses_ok parsedMacs
  obtain ⟨prefixLen, bounds, disjoint, gateway, backupGateway⟩ := parseLanSubnets_ok parsedNets
  obtain ⟨once, notDhcpClient⟩ := parse_bindings forwards
  have labels := parse_labels reservations
  refine ⟨wellFormed, wanMac, lanMac, distinct, prefixLen, bounds, disjoint, gateway,
    backupGateway, ?_, labels, ?_, ?_, once, notDhcpClient⟩
  · intro lease listed
    exact isUnicastMac_of_valid (wellFormed.unicast lease listed)
  · intro lease listed
    exact (wellFormed.targets lease listed).isMobileClient
  · intro rule listed
    exact (wellFormed.forwardTargets rule listed).isMobileClient

/-- A home network with a printer and a server, gateways that are not the first hosts, and two
port forwards. -/
def homeDoc : ConfigToml :=
  { crowdDoc with
    lan := some ⟨some "192.168.1.254", some "10.0.0.7", none⟩
    reservations := some [⟨"02:00:00:00:00:01", some "192.168.1.10", some "Printer.lan"⟩,
      ⟨"02:00:00:00:00:02", some " 192.168.1.20 ", some "nas"⟩]
    portForwarding := some [⟨none, some 443, some "192.168.1.20", none, none⟩,
      ⟨some "udp", some 443, some "192.168.1.30", some 8443, some "quic"⟩] }

/-- What `homeDoc` is accepted as. -/
def homeConfig : RouterConfig :=
  { crowdConfig with
    lanIp := .slash24 (.new 192 168 1 254)
    backupLanIp := .slash24 (.new 10 0 0 7)
    staticLeases := [⟨0x020000000001, .new 192 168 1 10, some "printer"⟩,
      ⟨0x020000000002, .new 192 168 1 20, some "nas"⟩]
    portForwards := [⟨.tcp, 443, .new 192 168 1 20, 443, none⟩,
      ⟨.udp, 443, .new 192 168 1 30, 8443, some "quic"⟩] }

theorem parse_homeDoc : RouterConfig.parse .std homeDoc = .ok homeConfig := by decide +kernel

theorem accepted_sound_home :
    RouterConfig.parse .std homeDoc = .ok homeConfig ∧ homeConfig.Sound :=
  ⟨parse_homeDoc, accepted_sound parse_homeDoc⟩

end TrimRouter
