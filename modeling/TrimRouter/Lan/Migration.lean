import TrimRouter.Config.Accepted
import TrimRouter.Lan.Coherence

/-!
# Moving the rules of an accepted configuration

The validator (`validate_target_ip`) and the remapper (`translate_ip_to_subnet`) compute the place
of an address in the fallback network separately.  For accepted configurations they agree, so a move
loses nothing and can be undone.  The result is `migration_lossless`.
-/

namespace TrimRouter.Lan

variable {lanNet backupNet source target : Ipv4Net} {ip other : Ipv4Addr} {cfg : RouterConfig}

theorem translate_back : target.translate source (source.translate target ip) = ip := by
  unfold Ipv4Net.translate
  rw [BitVec.add_comm target.network, BitVec.add_sub_cancel, BitVec.add_comm,
    BitVec.sub_add_cancel]

theorem translate_injective (same : source.translate target ip = source.translate target other) :
    ip = other := by
  have back : target.translate source (source.translate target ip) =
      target.translate source (source.translate target other) := by
    rw [same]
  rwa [translate_back, translate_back] at back

theorem validTarget_back (valid : ValidTarget lanNet backupNet ip) :
    ValidTarget backupNet lanNet (lanNet.translate backupNet ip) := by
  have moved : (lanNet.translate backupNet ip) - backupNet.network = ip - lanNet.network := by
    unfold Ipv4Net.translate
    rw [BitVec.add_comm, BitVec.add_sub_cancel]
  have offset : (ip - lanNet.network).toNat = ip.toNat - lanNet.network.toNat :=
    BitVec.toNat_sub_of_le valid.above
  refine ⟨valid.inBackup, ?_, ?_, ?_⟩
  · have inside := (isHost_of_isClientIp valid.inBackup).1.1
    exact BitVec.le_of_lt inside
  · have above := BitVec.le_def.mp valid.above
    have limit := ip.isLt
    rw [moved, offset]
    omega
  · rw [translate_back]
    exact valid.inLan

/-- Reservations that were moved to the fallback network are themselves again after the move
back. -/
theorem remapStaticLeases_back {leases : List StaticLease}
    (valid : ∀ lease ∈ leases, ValidTarget lanNet backupNet lease.ip) :
    remapStaticLeasesForSubnet (leases.map (translateLease lanNet backupNet)) backupNet lanNet =
      leases := by
  rw [remapStaticLeases_of_valid, List.map_map]
  · refine List.map_id'' ?_ leases
    intro lease
    unfold translateLease
    simp only [Function.comp_apply, translate_back]
  · intro lease listed
    obtain ⟨original, inside, rfl⟩ := List.mem_map.mp listed
    exact validTarget_back (valid original inside)

theorem remapPortForwards_back {rules : List PortForwardRule}
    (valid : ∀ rule ∈ rules, ValidTarget lanNet backupNet rule.internalIp) :
    remapPortForwardsForSubnet (rules.map (translateRule lanNet backupNet)) backupNet lanNet =
      rules := by
  rw [remapPortForwards_of_valid, List.map_map]
  · refine List.map_id'' ?_ rules
    intro rule
    unfold translateRule
    simp only [Function.comp_apply, translate_back]
  · intro rule listed
    obtain ⟨original, inside, rfl⟩ := List.mem_map.mp listed
    exact validTarget_back (valid original inside)

/-- The addresses that rules point to. -/
def ruleAddresses (leases : List StaticLease) (rules : List PortForwardRule) : List Ipv4Addr :=
  leases.map StaticLease.ip ++ rules.map PortForwardRule.internalIp

theorem ruleAddresses_translate (leases : List StaticLease) (rules : List PortForwardRule) :
    ruleAddresses (leases.map (translateLease lanNet backupNet))
        (rules.map (translateRule lanNet backupNet)) =
      (ruleAddresses leases rules).map (lanNet.translate backupNet) := by
  unfold ruleAddresses
  rw [List.map_append, List.map_map, List.map_map, List.map_map, List.map_map]
  rfl

theorem validTarget_of_listed (wf : cfg.WellFormed)
    (listed : ip ∈ ruleAddresses cfg.staticLeases cfg.portForwards) :
    ValidTarget cfg.lanIp cfg.backupLanIp ip := by
  rcases List.mem_append.mp listed with reserved | forwarded
  · obtain ⟨lease, inside, rfl⟩ := List.mem_map.mp reserved
    exact wf.targets lease inside
  · obtain ⟨rule, inside, rfl⟩ := List.mem_map.mp forwarded
    exact wf.forwardTargets rule inside

/-- For every accepted configuration, the move of its rules to the fallback network drops nothing
and keeps their order: entry by entry all but the address stays, the address becomes a host of
the fallback network other than its gateway, at the same distance from the base, distinct
addresses stay distinct, and the move back gives the original rules. -/
theorem migration_lossless {lib : Parsers} {doc : ConfigToml}
    (accepted : RouterConfig.parse lib doc = .ok cfg) :
    let leases := remapStaticLeasesForSubnet cfg.staticLeases cfg.lanIp cfg.backupLanIp
    let rules := remapPortForwardsForSubnet cfg.portForwards cfg.lanIp cfg.backupLanIp
    List.Forall₂ (fun lease moved => moved.mac = lease.mac ∧ moved.hostname = lease.hostname)
      cfg.staticLeases leases ∧
    List.Forall₂ (fun rule moved => moved.protocol = rule.protocol ∧
        moved.externalPort = rule.externalPort ∧ moved.internalPort = rule.internalPort ∧
        moved.description = rule.description) cfg.portForwards rules ∧
    List.Forall₂ (fun ip moved => cfg.backupLanIp.IsHost moved ∧ moved ≠ cfg.backupLanIp.addr ∧
        moved.toNat - cfg.backupLanIp.network.toNat = ip.toNat - cfg.lanIp.network.toNat)
      (ruleAddresses cfg.staticLeases cfg.portForwards) (ruleAddresses leases rules) ∧
    (∃ move, Function.Injective move ∧
      ruleAddresses leases rules = (ruleAddresses cfg.staticLeases cfg.portForwards).map move) ∧
    remapStaticLeasesForSubnet leases cfg.backupLanIp cfg.lanIp = cfg.staticLeases ∧
    remapPortForwardsForSubnet rules cfg.backupLanIp cfg.lanIp = cfg.portForwards := by
  have wf := RouterConfig.parse_wellFormed accepted
  intro leases rules
  have movedLeases : leases = cfg.staticLeases.map (translateLease cfg.lanIp cfg.backupLanIp) :=
    remapStaticLeases_eq wf
  have movedRules : rules = cfg.portForwards.map (translateRule cfg.lanIp cfg.backupLanIp) :=
    remapPortForwards_eq wf
  have moved : ruleAddresses leases rules =
      (ruleAddresses cfg.staticLeases cfg.portForwards).map
        (cfg.lanIp.translate cfg.backupLanIp) := by
    rw [movedLeases, movedRules, ruleAddresses_translate]
  refine ⟨?_, ?_, ?_, ⟨_, fun _ _ => translate_injective, moved⟩, ?_, ?_⟩
  · rw [movedLeases, List.forall₂_map_right_iff, List.forall₂_same]
    intro lease _
    exact ⟨rfl, rfl⟩
  · rw [movedRules, List.forall₂_map_right_iff, List.forall₂_same]
    intro rule _
    exact ⟨rfl, rfl, rfl, rfl⟩
  · rw [moved, List.forall₂_map_right_iff, List.forall₂_same]
    intro ip listed
    have target := validTarget_of_listed wf listed
    obtain ⟨host, notGateway⟩ := isHost_of_isClientIp target.inBackup
    refine ⟨host, notGateway, ?_⟩
    rw [toNat_translate target, Nat.add_sub_cancel_left]
  · rw [movedLeases]
    exact remapStaticLeases_back wf.targets
  · rw [movedRules]
    exact remapPortForwards_back wf.forwardTargets

theorem migration_lossless_home :
    RouterConfig.parse .std homeDoc = .ok homeConfig ∧
      remapStaticLeasesForSubnet
          (remapStaticLeasesForSubnet homeConfig.staticLeases homeConfig.lanIp
            homeConfig.backupLanIp)
          homeConfig.backupLanIp homeConfig.lanIp = homeConfig.staticLeases :=
  ⟨parse_homeDoc, (migration_lossless parse_homeDoc).2.2.2.2.1⟩

end TrimRouter.Lan
