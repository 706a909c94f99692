import TrimRouter.Config.Accepted
import TrimRouter.Firewall
import TrimRouter.Lan.Coherence
import TrimRouter.Lib.FirstMatch

/-!
# Port forwarding as a function

The rules that `build_dnat_rules` of `init/firewall.rs` makes of the port forwards, read as a
function from the protocol and the port of a packet to the target that it is sent to.  The bindings
of an accepted configuration are distinct, so at most one rule is about a packet, and
`forwarding_is_function` gives its target before and after a move of the LAN.
-/

namespace TrimRouter.Firewall

open FirstMatch Lan

/-! ## The rules of the bindings -/

/-- The protocol of a binding, in the words of the packet filter. -/
def protocolOf : Transport → Protocol
  | .tcp => .tcp
  | .udp => .udp

/-- What a forward binds, each with the target. -/
def entries (forward : PortForwardRule) :
    List ((Transport × BitVec 16) × (Ipv4Addr × BitVec 16)) :=
  forward.bindings.map fun binding => (binding, (forward.internalIp, forward.internalPort))

/-- The rule of one binding. -/
def entryRule (wanIface : String) (entry : (Transport × BitVec 16) × (Ipv4Addr × BitVec 16)) :
    Rule :=
  buildSingleDnatRule wanIface (protocolOf entry.1.1) entry.1.2 entry.2.1 entry.2.2

/-- Where the rules send a packet: the first one whose conditions hold decides. -/
def dnatTarget (rules : List Rule) (packet : Packet) : Option (Ipv4Addr × BitVec 16) :=
  match rules.find? (Rule.holds packet) with
  | some ⟨_, .dnat ip port⟩ => some (ip, port)
  | _ => none

variable {wanIface : String} {packet : Packet} {forwards : List PortForwardRule}
  {rules : List Rule} {cfg : RouterConfig} {net : Ipv4Net}
  {entry other : (Transport × BitVec 16) × (Ipv4Addr × BitVec 16)}

theorem buildDnatRules_eq :
    buildDnatRules wanIface forwards = (forwards.flatMap entries).map (entryRule wanIface) := by
  unfold buildDnatRules
  rw [List.map_flatMap]
  congr 1
  funext forward
  rcases forward with ⟨protocol, externalPort, internalIp, internalPort, description⟩
  cases protocol <;> rfl

theorem entryRule_holds : (entryRule wanIface entry).holds packet = true ↔
    packet.iif = some wanIface ∧ packet.protocol = protocolOf entry.1.1 ∧
      packet.dport = entry.1.2 := by
  simp [entryRule, buildSingleDnatRule, Rule.holds, Expr.holds]

theorem protocolOf_injective : Function.Injective protocolOf := by
  intro left right same
  cases left <;> cases right <;> first | rfl | cases same

theorem binding_eq_of_holds (left : (entryRule wanIface entry).holds packet = true)
    (right : (entryRule wanIface other).holds packet = true) : entry.1 = other.1 := by
  obtain ⟨-, protocol, port⟩ := entryRule_holds.mp left
  obtain ⟨-, protocol', port'⟩ := entryRule_holds.mp right
  exact Prod.ext (protocolOf_injective (protocol.symm.trans protocol')) (port.symm.trans port')

theorem map_fst_entries :
    (forwards.flatMap entries).map Prod.fst = forwards.flatMap PortForwardRule.bindings := by
  rw [List.map_flatMap]
  congr 1
  funext forward
  simp [entries, Function.comp_def]

theorem mem_entries {binding : Transport × BitVec 16} {target : Ipv4Addr × BitVec 16} :
    (binding, target) ∈ forwards.flatMap entries ↔
      ∃ forward ∈ forwards, binding ∈ forward.bindings ∧
        target = (forward.internalIp, forward.internalPort) := by
  simp only [List.mem_flatMap, entries, List.mem_map, Prod.mk.injEq]
  constructor
  · rintro ⟨forward, listed, binding', bound, rfl, same⟩
    exact ⟨forward, listed, bound, same.symm⟩
  · rintro ⟨forward, listed, bound, same⟩
    exact ⟨forward, listed, binding, bound, rfl, same.symm⟩

/-- At most one rule is about a packet when no binding occurs twice. -/
theorem atMostOne_dnat (distinct : (forwards.flatMap PortForwardRule.bindings).Nodup) :
    AtMostOne (Rule.holds packet) (buildDnatRules wanIface forwards) := by
  have once : AtMostOne (fun entry => (entryRule wanIface entry).holds packet)
      (forwards.flatMap entries) := by
    refine AtMostOne.of_keys Prod.fst ?_ fun _ _ => binding_eq_of_holds
    rw [map_fst_entries]
    exact distinct
  unfold AtMostOne at once ⊢
  rw [buildDnatRules_eq, List.filter_map, List.length_map]
  exact once

theorem dnatTarget_eq_some {transport : Transport} {target : Ipv4Addr × BitVec 16}
    (distinct : (forwards.flatMap PortForwardRule.bindings).Nodup)
    (wan : packet.iif = some wanIface) (protocol : packet.protocol = protocolOf transport) :
    dnatTarget (buildDnatRules wanIface forwards) packet = some target ↔
      ∃ forward ∈ forwards, (transport, packet.dport) ∈ forward.bindings ∧
        target = (forward.internalIp, forward.internalPort) := by
  have once := @atMostOne_dnat wanIface packet forwards distinct
  rw [← mem_entries]
  constructor
  · intro sent
    unfold dnatTarget at sent
    split at sent
    · rename_i exprs ip port found
      obtain ⟨listed, holds⟩ := once.find?_eq_some.mp found
      rw [buildDnatRules_eq] at listed
      obtain ⟨entry, inside, same⟩ := List.mem_map.mp listed
      rw [← same] at holds
      obtain ⟨-, protocol', port'⟩ := entryRule_holds.mp holds
      have binding : entry.1 = (transport, packet.dport) :=
        Prod.ext (protocolOf_injective (protocol'.symm.trans protocol)) port'.symm
      have targeted : entry.2 = target := by
        rcases entry with ⟨binding, ip', port'⟩
        cases same
        exact Option.some.inj sent
      rw [← binding, ← targeted]
      exact inside
    · cases sent
  · intro inside
    have holds : (entryRule wanIface ((transport, packet.dport), target)).holds packet = true :=
      entryRule_holds.mpr ⟨wan, protocol, rfl⟩
    have found := once.find?_eq_some.mpr
      ⟨buildDnatRules_eq ▸ List.mem_map_of_mem inside, holds⟩
    unfold dnatTarget
    rw [found]
    rfl

/-! ## Accepted configurations -/

/-- The forwards in the firewall while the LAN is on `net`: those of the configuration at boot,
and the remapped ones after a shift. -/
inductive Installed (cfg : RouterConfig) : Ipv4Net → List PortForwardRule → Prop where
  | boot : Installed cfg cfg.lanIp cfg.portForwards
  | shifted : Installed cfg cfg.backupLanIp
      (remapPortForwardsForSubnet cfg.portForwards cfg.lanIp cfg.backupLanIp)

theorem Installed.eq (wf : cfg.WellFormed) (installed : Installed cfg net forwards) :
    forwards = cfg.portForwards.map (translateRule cfg.lanIp net) := by
  cases installed with
  | boot => rw [translateRule_self, List.map_id]
  | shifted => exact remapPortForwards_eq wf

/-- A move changes no binding. -/
theorem Installed.bindings (wf : cfg.WellFormed) (installed : Installed cfg net forwards) :
    forwards.flatMap PortForwardRule.bindings =
      cfg.portForwards.flatMap PortForwardRule.bindings := by
  rw [installed.eq wf, List.flatMap_map]
  rfl

/-- In every accepted configuration, and also after a move of the LAN, at most one rule is about
a packet, so that the order of the rules does not matter; the target of a packet from the WAN is
that of the forward that covers it, at its place in the network of the LAN; and the port of the
DHCP client is left alone. -/
theorem forwarding_is_function {lib : Parsers} {doc : ConfigToml}
    (accepted : RouterConfig.parse lib doc = .ok cfg) (installed : Installed cfg net forwards)
    (wanIface : String) (packet : Packet) :
    ((buildDnatRules wanIface forwards).filter (Rule.holds packet)).length ≤ 1 ∧
      (∀ rules, rules.Perm (buildDnatRules wanIface forwards) →
        dnatTarget rules packet = dnatTarget (buildDnatRules wanIface forwards) packet) ∧
      (packet.iif = some wanIface → ∀ transport, packet.protocol = protocolOf transport →
        ∀ target, dnatTarget (buildDnatRules wanIface forwards) packet = some target ↔
          ∃ forward ∈ cfg.portForwards, (transport, packet.dport) ∈ forward.bindings ∧
            target = (cfg.lanIp.translate net forward.internalIp, forward.internalPort)) ∧
      (packet.protocol = .udp → packet.dport = clientPort →
        ∀ rule ∈ buildDnatRules wanIface forwards, rule.holds packet = false) := by
  have sound := accepted_sound accepted
  have wf := RouterConfig.parse_wellFormed accepted
  have same := installed.bindings wf
  have distinct : (forwards.flatMap PortForwardRule.bindings).Nodup := same ▸ sound.bindings
  have once := @atMostOne_dnat wanIface packet forwards distinct
  refine ⟨once, ?_, ?_, ?_⟩
  · intro rules reordered
    unfold dnatTarget
    rw [once.find?_perm reordered]
  · intro wan transport protocol target
    rw [dnatTarget_eq_some distinct wan protocol, installed.eq wf]
    constructor
    · rintro ⟨forward, listed, bound, sent⟩
      obtain ⟨original, configured, rfl⟩ := List.mem_map.mp listed
      exact ⟨original, configured, bound, sent⟩
    · rintro ⟨forward, configured, bound, sent⟩
      exact ⟨_, List.mem_map_of_mem configured, bound, sent⟩
  · intro udp client rule listed
    rw [buildDnatRules_eq] at listed
    obtain ⟨entry, inside, rfl⟩ := List.mem_map.mp listed
    rw [← Bool.not_eq_true]
    intro holds
    obtain ⟨-, protocol, port⟩ := entryRule_holds.mp holds
    have binding : entry.1 = (.udp, 68) :=
      Prod.ext (protocolOf_injective (protocol.symm.trans udp)) (port.symm.trans client)
    have bound : entry.1 ∈ (forwards.flatMap entries).map Prod.fst := List.mem_map_of_mem inside
    rw [binding, map_fst_entries, same] at bound
    exact sound.notDhcpClient bound

/-- A packet from the WAN for UDP port 443. -/
def quicPacket : Packet := ⟨some wanInterface, none, .new, .udp, 443⟩

/-- The home network after a shift. -/
theorem forwarding_is_function_home :
    RouterConfig.parse .std homeDoc = .ok homeConfig ∧
      dnatTarget (buildDnatRules wanInterface
        (remapPortForwardsForSubnet homeConfig.portForwards homeConfig.lanIp
          homeConfig.backupLanIp)) quicPacket = some (.new 10 0 0 30, 8443) := by
  obtain ⟨-, -, exact_target, -⟩ :=
    forwarding_is_function parse_homeDoc .shifted wanInterface quicPacket
  refine ⟨parse_homeDoc, (exact_target rfl .udp rfl _).mpr ?_⟩
  exact ⟨⟨.udp, 443, .new 192 168 1 30, 8443, some "quic"⟩, by decide, by decide, by decide⟩

end TrimRouter.Firewall
