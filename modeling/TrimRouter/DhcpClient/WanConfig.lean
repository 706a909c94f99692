import TrimRouter.Lib.Run
import TrimRouter.Net.Mask

/-!
# The WAN configuration

The part of `services/dhcp_client/manager.rs` that carries the worker's lease to the kernel:
`apply_parent_lease` and `clear_parent_lease` with `configure_wan` and `deconfigure_wan`.  The lease
is shared with the rest of the router over a watch channel; the value there outlives the worker, the
link and failed attempts to configure it.  Every netlink call may fail.  So a link that is removed
and re-created under the same lease stays bare, and `wan_follows_lease` excludes that.
-/

namespace TrimRouter.DhcpClient

/-- The IPv4 side of a network link. -/
structure Link where
  up : Bool
  addresses : List (Ipv4Addr × Nat)
  /-- the gateways of its default routes -/
  defaultRoutes : List Ipv4Addr
deriving DecidableEq

/-- A link that has just been created. -/
def Link.bare : Link := ⟨false, [], []⟩

/-- The results of the netlink calls that one message leads to. -/
structure Netlink where
  /-- `get_interface_index` finds the link -/
  index : Bool
  /-- the dump of the addresses in `flush_ipv4_addresses` ends without an error -/
  dump : Bool
  /-- the addresses that `flush_ipv4_addresses` leaves: their removal fails, or the dump ends
  before them -/
  undeleted : List (Ipv4Addr × Nat)
  connect : Bool
  linkUp : Bool
  addAddress : Bool
  addRoute : Bool
deriving DecidableEq

/-- All calls succeed. -/
def Netlink.succeeding : Netlink := ⟨true, true, [], true, true, true, true⟩

/-- `DhcpError`, as far as the functions here return it. -/
inductive DhcpError where
  | protocol
  | interfaceNotFound
  | rtNetlink
deriving DecidableEq

/-- The removal of addresses.  The kernel drops the routes of a link with its last address. -/
def Link.removeAddresses (link : Link) (undeleted : List (Ipv4Addr × Nat)) : Link :=
  let addresses := link.addresses.filter (· ∈ undeleted)
  { link with
    addresses
    defaultRoutes := if addresses = [] then [] else link.defaultRoutes }

/-- `is_valid_gateway`. -/
def isValidGateway (gw ip : Ipv4Addr) (prefixLen : Nat) : Bool :=
  !gw.isUnspecified && !gw.isBroadcast && (Ipv4Net.new ip prefixLen).any (·.contains gw)

/-- `configure_wan`, with the link afterwards.  A failing route is only logged. -/
def configureWan (calls : Netlink) (link : Option Link) (ip mask gateway : Ipv4Addr) :
    Option Link × Except DhcpError Unit :=
  match maskToPrefixLen mask with
  | none => (link, .error .protocol)
  | some prefixLen =>
    match link with
    | none => (none, .error .interfaceNotFound)
    | some found =>
      if !calls.index then (some found, .error .interfaceNotFound)
      else
        let flushed := found.removeAddresses calls.undeleted
        if !calls.dump then (some flushed, .error .protocol)
        else if !calls.connect then (some flushed, .error .rtNetlink)
        else if !calls.linkUp then (some flushed, .error .rtNetlink)
        else if !calls.addAddress then (some { flushed with up := true }, .error .rtNetlink)
        else
          let addresses := flushed.addresses ++ [(ip, prefixLen)]
          let defaultRoutes :=
            if isValidGateway gateway ip prefixLen && calls.addRoute then
              flushed.defaultRoutes ++ [gateway]
            else flushed.defaultRoutes
          (some ⟨true, addresses, defaultRoutes⟩, .ok ())

/-- `deconfigure_wan`, with the link afterwards. -/
def deconfigureWan (calls : Netlink) (link : Option Link) (mask : Ipv4Addr) :
    Option Link × Except DhcpError Unit :=
  match maskToPrefixLen mask with
  | none => (link, .error .protocol)
  | some _ =>
    match link with
    | none => (none, .error .interfaceNotFound)
    | some found =>
      if !calls.index then (some found, .error .interfaceNotFound)
      else (some (found.removeAddresses calls.undeleted),
        if calls.dump then .ok () else .error .protocol)

/-- What `ApplyWanLease` carries. -/
structure WanLeaseMsg where
  ipAddress : Ipv4Addr
  prefixLen : Nat
  gateway : Ipv4Addr
  dnsServers : List Ipv4Addr
deriving DecidableEq

/-- The lease that `handle_client_ipc_msg` and `apply_parent_lease` make of a message. -/
def WanLeaseMsg.lease (msg : WanLeaseMsg) : WanLease :=
  ⟨some msg.ipAddress, some (prefixLenToMask msg.prefixLen), some msg.gateway, msg.dnsServers⟩

/-- The shared lease and the WAN link. -/
structure Wan where
  shared : WanLease
  link : Option Link
  /-- the shared lease went through when it was stored, and its link is still there (for
  statements about runs, never read) -/
  applied : Bool

/-- What happens to the WAN. -/
inductive WanLabel where
  | apply (msg : WanLeaseMsg) (calls : Netlink)
  | clear (calls : Netlink)
  /-- the worker ends and the supervisor starts another one -/
  | workerRestart
  | linkRemoved
  | linkCreated
deriving DecidableEq

namespace Wan

/-- Before the first lease. -/
def init (link : Option Link) : Wan := ⟨WanLease.default, link, false⟩

/-- `apply_parent_lease`. -/
def applyParentLease (w : Wan) (msg : WanLeaseMsg) (calls : Netlink) : Wan :=
  if w.shared = msg.lease then w
  else
    let (link, _) := configureWan calls w.link msg.ipAddress (prefixLenToMask msg.prefixLen)
      msg.gateway
    ⟨msg.lease, link, w.link.isSome && calls == Netlink.succeeding⟩

/-- `clear_parent_lease`. -/
def clearParentLease (w : Wan) (calls : Netlink) : Wan :=
  let link :=
    match w.shared.ip, w.shared.mask with
    | some _, some mask => (deconfigureWan calls w.link mask).1
    | _, _ => w.link
  ⟨WanLease.default, link, false⟩

/-- One step of the WAN. -/
def step (w : Wan) : WanLabel → Option Wan
  | .apply msg calls => some (w.applyParentLease msg calls)
  | .clear calls => some (w.clearParentLease calls)
  | .workerRestart => some w
  | .linkRemoved => if w.link.isSome then some { w with link := none, applied := false } else none
  | .linkCreated => if w.link.isNone then some { w with link := some .bare } else none

/-- The link carries the address, and the default route if the gateway is valid for it. -/
def Carries (w : Wan) (msg : WanLeaseMsg) : Prop :=
  ∃ link, w.link = some link ∧ (msg.ipAddress, msg.prefixLen) ∈ link.addresses ∧
    (isValidGateway msg.gateway msg.ipAddress msg.prefixLen = true →
      msg.gateway ∈ link.defaultRoutes)

variable {w v : Wan} {msg : WanLeaseMsg} {calls : Netlink}

/-- A configuration without failures leaves the link with the lease. -/
theorem carries_configureWan {link : Link} (present : w.link = some link)
    (le : msg.prefixLen ≤ 32) (changed : w.shared ≠ msg.lease) :
    (w.applyParentLease msg .succeeding).Carries msg := by
  unfold applyParentLease configureWan
  rw [if_neg changed, maskToPrefixLen_prefixLenToMask le, present]
  refine ⟨_, rfl, List.mem_append_right _ (List.mem_singleton_self _), fun valid => ?_⟩
  simp [valid, Netlink.succeeding]

/-- A message acts through its lease. -/
theorem applyParentLease_congr {other : WanLeaseMsg} (same : other.lease = msg.lease) :
    w.applyParentLease other calls = w.applyParentLease msg calls := by
  have ip : other.ipAddress = msg.ipAddress := Option.some.inj (congrArg WanLease.ip same)
  have mask : prefixLenToMask other.prefixLen = prefixLenToMask msg.prefixLen :=
    Option.some.inj (congrArg WanLease.mask same)
  have gateway : other.gateway = msg.gateway := Option.some.inj (congrArg WanLease.gateway same)
  unfold applyParentLease
  rw [same, ip, mask, gateway]

/-- A lease that went through and whose link is still there is on the link.  (A prefix length
above 32 has the mask of prefix length 0.) -/
structure Kept (w : Wan) : Prop where
  present : w.applied = true → w.link.isSome = true
  carries : w.applied = true → ∀ msg : WanLeaseMsg, msg.prefixLen ≤ 32 → msg.lease = w.shared →
    w.Carries msg

theorem Kept.apply (kept : w.Kept) : (w.applyParentLease msg calls).Kept := by
  by_cases changed : w.shared = msg.lease
  · unfold applyParentLease
    rw [if_pos changed]
    exact kept
  · have stored : w.applyParentLease msg calls =
        ⟨msg.lease, (configureWan calls w.link msg.ipAddress (prefixLenToMask msg.prefixLen)
          msg.gateway).1, w.link.isSome && calls == Netlink.succeeding⟩ := by
      unfold applyParentLease
      rw [if_neg changed]
    have carries : (w.applyParentLease msg calls).applied = true → ∀ other : WanLeaseMsg,
        other.prefixLen ≤ 32 → other.lease = msg.lease →
        (w.applyParentLease msg calls).Carries other := by
      intro applied other le same
      rw [stored, Bool.and_eq_true, beq_iff_eq, Option.isSome_iff_exists] at applied
      obtain ⟨⟨link, present⟩, rfl⟩ := applied
      rw [← applyParentLease_congr same]
      exact carries_configureWan present le (same ▸ changed)
    refine ⟨fun applied => ?_, fun applied other le same => ?_⟩
    · rw [stored] at applied
      rw [Bool.and_eq_true, beq_iff_eq, Option.isSome_iff_exists] at applied
      obtain ⟨⟨link, present⟩, rfl⟩ := applied
      rw [stored]
      unfold configureWan
      rw [present]
      cases maskToPrefixLen (prefixLenToMask msg.prefixLen) <;> rfl
    · refine carries applied other le ?_
      rw [stored] at same
      exact same

theorem Kept.keep : Run.Inductive step (fun _ _ => True) Kept := by
  intro w l v kept _ h
  cases l with
  | apply msg calls =>
    cases h
    exact kept.apply
  | clear calls =>
    cases h
    exact ⟨nofun, nofun⟩
  | workerRestart =>
    cases h
    exact kept
  | linkRemoved =>
    simp only [step] at h
    split at h
    · cases h
      exact ⟨nofun, nofun⟩
    · cases h
  | linkCreated =>
    simp only [step] at h
    split at h
    · rename_i absent
      cases h
      have unapplied : w.applied ≠ true := by
        intro applied
        have present := kept.present applied
        rw [Option.isNone_iff_eq_none] at absent
        rw [absent] at present
        cases present
      exact ⟨fun applied => absurd applied unapplied, fun applied => absurd applied unapplied⟩
    · cases h

end Wan

open Wan

/-- Right after a lease has been handled with the link present and all netlink calls
succeeding, the link carries it, provided that the lease is not the shared one already or
that it went through when it was stored and its link has not been removed since. -/
theorem wan_follows_lease {link₀ : Option Link} {labels : List WanLabel} {w v : Wan} {link : Link}
    {msg : WanLeaseMsg} (run : Run.exec step (init link₀) labels = some w)
    (present : w.link = some link) (le : msg.prefixLen ≤ 32)
    (fresh : w.shared = msg.lease → w.applied = true)
    (handled : w.step (.apply msg .succeeding) = some v) : v.Carries msg := by
  cases handled
  by_cases same : w.shared = msg.lease
  · have start : (init link₀).Kept := ⟨nofun, nofun⟩
    have everywhere : Run.Meets step (fun _ _ => True) (init link₀) labels :=
      Run.Meets.of_forall fun _ _ => trivial
    have kept := Kept.keep.exec start everywhere run
    unfold applyParentLease
    rw [if_pos same]
    exact kept.carries (fresh same) msg le same.symm
  · exact carries_configureWan present le same

/-! ### The link comes back -/

/-- A lease of a provider with its gateway. -/
def sampleMsg : WanLeaseMsg := ⟨.new 100 64 0 5, 24, .new 100 64 0 1, []⟩

/-- The first lease on a new link, and the same lease again. -/
theorem wan_follows_first_lease :
    (∃ w, Run.exec step (init none) [.linkCreated] = some w ∧ w.shared ≠ sampleMsg.lease ∧
      (w.applyParentLease sampleMsg .succeeding).Carries sampleMsg) ∧
    ∃ w, Run.exec step (init none) [.linkCreated, .apply sampleMsg .succeeding] = some w ∧
      w.shared = sampleMsg.lease ∧
      (w.applyParentLease sampleMsg .succeeding).Carries sampleMsg := by
  have run : Run.exec step (init none) [.linkCreated] =
      some ⟨WanLease.default, some .bare, false⟩ := rfl
  have changed : WanLease.default ≠ sampleMsg.lease := by decide
  refine ⟨⟨_, run, changed, wan_follows_lease run rfl (by decide)
    (fun same => absurd same changed) rfl⟩, ?_⟩
  obtain ⟨w, again, link, shared, applied⟩ : ∃ w, Run.exec step (init none)
      [.linkCreated, .apply sampleMsg .succeeding] = some w ∧ w.link.isSome ∧
      w.shared = sampleMsg.lease ∧ w.applied = true := by
    decide +kernel
  obtain ⟨link, present⟩ := Option.isSome_iff_exists.mp link
  exact ⟨w, again, shared, wan_follows_lease again present (by decide) (fun _ => applied) rfl⟩

/-- The lease is applied, the link is removed and re-created, and the new worker gets the same
lease. -/
def recreatedLink : List WanLabel :=
  [.apply sampleMsg .succeeding, .linkRemoved, .workerRestart, .linkCreated]

/-- The lease is handled with the link present and all calls succeeding, but nothing is
configured: the link has no address and no route. -/
theorem recreated_link_stays_bare :
    ∃ w v, Run.exec step (init (some .bare)) recreatedLink = some w ∧ w.link = some .bare ∧
      w.step (.apply sampleMsg .succeeding) = some v ∧ v.link = some .bare ∧
      isValidGateway sampleMsg.gateway sampleMsg.ipAddress sampleMsg.prefixLen = true := by
  obtain ⟨w, run, before, after⟩ : ∃ w, Run.exec step (init (some .bare)) recreatedLink = some w ∧
      w.link = some .bare ∧
      (w.applyParentLease sampleMsg .succeeding).link = some .bare := by
    decide +kernel
  exact ⟨w, _, run, before, rfl, after, by decide +kernel⟩

end TrimRouter.DhcpClient
