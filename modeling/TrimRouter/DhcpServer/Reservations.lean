import TrimRouter.DhcpServer.LeaseExclusivity
import TrimRouter.Lan.Manager

/-!
# The reservations of a worker

The parent sends the reservations once, before the worker takes its first packet
(`sync_initial_static_leases`).  `Reserved` says that they are still in force; it is kept by every
step except the arrival of other reservations.  `validReservations_of_config` is what the
configuration loader guarantees about them.
-/

namespace TrimRouter.DhcpServer

variable {cfg : ServerConfig} {s t : State} {l : Label} {m : MacAddr} {r : StaticLease}
  {staticLeases : List StaticLease}

/-- The reservation of a client: the last one listed for its MAC address. -/
def reservationOf (staticLeases : List StaticLease) (mac : MacAddr) : Option StaticLease :=
  staticLeases.reverse.find? fun r => r.mac == mac

theorem mem_of_reservationOf (found : reservationOf staticLeases m = some r) :
    r ∈ staticLeases ∧ r.mac = m := by
  have owner := List.find?_some found
  exact ⟨List.mem_reverse.mp (List.mem_of_find?_eq_some found), by simpa using owner⟩

section

variable (valid : ValidReservations staticLeases)

include valid

theorem ValidReservations.eq_of_mac {r' : StaticLease} (listed : r ∈ staticLeases)
    (listed' : r' ∈ staticLeases) (same : r.mac = r'.mac) : r = r' :=
  List.inj_on_of_nodup_map valid.macs listed listed' same

theorem ValidReservations.eq_of_ip {r' : StaticLease} (listed : r ∈ staticLeases)
    (listed' : r' ∈ staticLeases) (same : r.ip = r'.ip) : r = r' :=
  List.inj_on_of_nodup_map valid.ips listed listed' same

theorem ValidReservations.eq_of_hostname {r' : StaticLease} {name : String}
    (listed : r ∈ staticLeases) (listed' : r' ∈ staticLeases) (named : r.hostname = some name)
    (named' : r'.hostname = some name) : r = r' := by
  by_contra different
  have apart := List.pairwise_filterMap.mp valid.hostnames
  have : Std.Symm fun a a' : StaticLease =>
      ∀ b, a.hostname = some b → ∀ b', a'.hostname = some b' → b ≠ b' :=
    ⟨fun _ _ differ x hx y hy same => differ y hy x hx same.symm⟩
  exact apart.forall listed listed' different name named name named' rfl

theorem ValidReservations.reservationOf_eq (listed : r ∈ staticLeases) :
    reservationOf staticLeases r.mac = some r := by
  cases found : reservationOf staticLeases r.mac with
  | none =>
    have missing := List.find?_eq_none.mp found r (List.mem_reverse.mpr listed)
    simp at missing
  | some r' =>
    obtain ⟨listed', same⟩ := mem_of_reservationOf found
    rw [valid.eq_of_mac listed' listed same]

end

/-! ## What the configuration loader guarantees -/

section

open Lan

variable {fromNet toNet : Ipv4Net}

theorem translateIpToSubnet_injective {a b ip : Ipv4Addr}
    (ha : translateIpToSubnet a fromNet toNet = some ip)
    (hb : translateIpToSubnet b fromNet toNet = some ip) : a = b := by
  have shifted : ∀ {x : Ipv4Addr}, translateIpToSubnet x fromNet toNet = some ip →
      ip = toNet.network + (x - fromNet.network) := by
    intro x translated
    simp only [translateIpToSubnet, Ipv4Addr.checkedSub, Ipv4Addr.checkedAdd,
      Option.ite_none_left_eq_some, Option.bind_eq_bind, Option.bind_eq_some_iff,
      Option.ite_none_right_eq_some, Option.some.injEq] at translated
    obtain ⟨-, offset, ⟨-, rfl⟩, mapped, ⟨-, rfl⟩, -, rfl⟩ := translated
    rfl
  have equal := (shifted ha).symm.trans (shifted hb)
  exact sub_left_injective (add_right_injective _ equal)

/-- Moving the reservations to another subnet drops some of them and changes addresses only. -/
theorem remap_sublist {α : Type} (f : StaticLease → Option α)
    (byAddress : ∀ (lease : StaticLease) ip, f { lease with ip } = f lease) :
    ((remapStaticLeasesForSubnet staticLeases fromNet toNet).filterMap f).Sublist
      (staticLeases.filterMap f) := by
  unfold remapStaticLeasesForSubnet
  split
  · exact List.Sublist.refl _
  · induction staticLeases with
    | nil => exact List.Sublist.refl _
    | cons lease rest ih =>
      cases moved : translateIpToSubnet lease.ip fromNet toNet with
      | none =>
        simp only [List.filterMap_cons, moved, Option.map_none]
        cases f lease with
        | none => exact ih
        | some a => exact ih.cons a
      | some ip =>
        simp only [List.filterMap_cons, moved, Option.map_some, byAddress]
        cases f lease with
        | none => exact ih
        | some a => exact ih.cons_cons a

theorem remap_ips_nodup (unique : (staticLeases.map StaticLease.ip).Nodup) :
    ((remapStaticLeasesForSubnet staticLeases fromNet toNet).map StaticLease.ip).Nodup := by
  unfold remapStaticLeasesForSubnet
  split
  · exact unique
  · have moved : (staticLeases.filterMap fun lease =>
        (translateIpToSubnet lease.ip fromNet toNet).map fun ip => { lease with ip }).map
          StaticLease.ip =
        (staticLeases.map StaticLease.ip).filterMap
          fun ip => translateIpToSubnet ip fromNet toNet := by
      rw [List.map_filterMap, List.filterMap_map]
      apply List.filterMap_congr
      intro lease _
      simp [Function.comp_def]
    rw [moved]
    exact unique.filterMap fun a b ip ha hb => translateIpToSubnet_injective ha hb

/-- The list that the LAN manager hands to the worker, on the configured or the fallback
subnet. -/
theorem validReservations_of_config {lib : Parsers} {doc : ConfigToml} {config : RouterConfig}
    (accepted : RouterConfig.parse lib doc = .ok config) (net : Ipv4Net) :
    ValidReservations (remapStaticLeasesForSubnet config.staticLeases config.lanIp net) := by
  have wf := RouterConfig.parse_wellFormed accepted
  have hostnames : ((remapStaticLeasesForSubnet config.staticLeases config.lanIp net).filterMap
      StaticLease.hostname).Sublist (config.staticLeases.filterMap StaticLease.hostname) :=
    remap_sublist StaticLease.hostname fun _ _ => rfl
  have owners : ((remapStaticLeasesForSubnet config.staticLeases config.lanIp net).map
      StaticLease.mac).Sublist (config.staticLeases.map StaticLease.mac) := by
    have kept : ((remapStaticLeasesForSubnet config.staticLeases config.lanIp net).filterMap
        fun lease => some lease.mac).Sublist
          (config.staticLeases.filterMap fun lease => some lease.mac) :=
      remap_sublist (fun lease => some lease.mac) fun _ _ => rfl
    rwa [List.filterMap_eq_map'] at kept
  exact ⟨wf.macs.sublist owners, remap_ips_nodup wf.ips, wf.hostnames.sublist hostnames,
    fun listed => wf.notRouter (hostnames.subset listed)⟩

end

/-! ## The reservations stay in force -/

/-- The parent sends other reservations. -/
def Label.setsReservations : Label → Bool
  | .staticLeases _ => true
  | _ => false

/-- The main loop is about to hand other reservations to the lease actor. -/
def MainPc.setsReservations : MainPc → Bool
  | .callStatic _ => true
  | _ => false

/-- The table enforces the reservations that the worker was started with, and no others are
under way. -/
structure Reserved (staticLeases : List StaticLease) (s : State) : Prop where
  byMac : ∀ mac, s.table.staticLeases.lookup mac = reservationOf staticLeases mac
  ips : s.table.reservedIps = (staticLeases.map StaticLease.ip).toFinset
  mail : ∀ mail ∈ s.mailbox.items, mail.cmd.setsReservations = false
  main : s.main.setsReservations = false

/-- A table with new reservations has the last one listed for each client. -/
theorem lookup_setStaticLeases {table : LeaseTable} :
    (table.setStaticLeases staticLeases).staticLeases.lookup m = reservationOf staticLeases m := by
  have filled : (staticLeases.foldl (fun map lease => map.insert lease.mac lease)
      (∅ : HashMap MacAddr StaticLease)).lookup m = (reservationOf staticLeases m).or none :=
    HashMap.lookup_foldl_insert
  exact filled.trans Option.or_none

theorem Reserved.init : Reserved staticLeases (State.init staticLeases) where
  byMac _ := lookup_setStaticLeases
  ips := rfl
  mail := nofun
  main := rfl

theorem handleLeaseCommand_reservations {now : Nat} {order : IterOrder} {table : LeaseTable}
    {cmd : LeaseCommand} (fixed : cmd.setsReservations = false) :
    (handleLeaseCommand now order table cmd).1.staticLeases = table.staticLeases ∧
      (handleLeaseCommand now order table cmd).1.reservedIps = table.reservedIps := by
  cases cmd with
  | allocateCandidate mac net serverIp =>
    simp only [handleLeaseCommand, LeaseTable.allocateCandidate_fst, LeaseTable.candidateBase]
    split <;> split <;> exact ⟨rfl, rfl⟩
  | validateAndConfirmRequest =>
    simp only [handleLeaseCommand, LeaseTable.validateAndConfirm_fst]
    split <;> exact ⟨rfl, rfl⟩
  | release mac =>
    simp only [handleLeaseCommand, LeaseTable.remove]
    split <;> exact ⟨rfl, rfl⟩
  | addNeighbor mac ip =>
    simp only [handleLeaseCommand, LeaseTable.updateFromNeighbor]
    split <;> exact ⟨rfl, rfl⟩
  | setStaticLeases staticLeases => cases fixed
  | _ => exact ⟨rfl, rfl⟩

theorem Calls.fixed {dhcp : Message} {cmd : LeaseCommand} {k : Cont}
    (calls : Calls cfg m dhcp cmd k) : cmd.setsReservations = false := by
  cases calls <;> rfl

theorem Casts.fixed {dhcp : Message} {cmd : LeaseCommand} {k : Cont}
    (casts : Casts m dhcp cmd k) : cmd.setsReservations = false := by
  cases casts <;> rfl

theorem MainMove.fixed {pc pc' : MainPc} (move : MainMove pc pc') :
    pc'.setsReservations = false := by
  cases move <;> rfl

theorem MainPost.fixed {pc pc' : MainPc} {mail : Mail} (post : MainPost pc mail pc')
    (quiet : pc.setsReservations = false) :
    mail.cmd.setsReservations = false ∧ pc'.setsReservations = false := by
  cases post with
  | static => cases quiet
  | _ => exact ⟨rfl, rfl⟩

theorem MainBranch.fixed {pc : MainPc} (branch : MainBranch cfg l pc)
    (fixed : l.setsReservations = false) : pc.setsReservations = false := by
  cases branch with
  | neighbor =>
    unfold MainPc.ofNeighbor
    split <;> rfl
  | static => cases fixed
  | heartbeat => rfl

theorem MainPc.proceed_fixed {pc : MainPc} {expired : List (MacAddr × String)}
    {reply : LeaseReply} (quiet : pc.setsReservations = false) :
    (pc.proceed expired reply).setsReservations = false := by
  cases reply with
  | active | expired | unit =>
    simp only [proceed]
    split
    · rfl
    · exact quiet
  | _ => exact quiet

theorem deliver_fixed {expired : List (MacAddr × String)} {reply : LeaseReply} {caller : Caller}
    (quiet : s.main.setsReservations = false) :
    (deliver cfg s expired reply caller).main.setsReservations = false := by
  cases caller with
  | nobody => exact quiet
  | main => exact MainPc.proceed_fixed quiet
  | task i =>
    simp only [deliver]
    split <;> exact quiet

theorem Reserved.keep (reserved : Reserved staticLeases s) (wf : Wf cfg s)
    (fixed : l.setsReservations = false) (h : Step cfg s l t) : Reserved staticLeases t := by
  obtain ⟨byMac, ips, mail, main⟩ := reserved
  have pushed : ∀ {mails : List Mail} {new : Mail}, mails = s.mailbox.items ++ [new] →
      new.cmd.setsReservations = false → ∀ mail ∈ mails, mail.cmd.setsReservations = false := by
    intro mails new appended newFixed mail' member
    rw [appended] at member
    rcases List.mem_append.mp member with before | last
    · exact mail mail' before
    · rw [List.mem_singleton.mp last]
      exact newFixed
  cases h with
  | branch idle branch => exact ⟨byMac, ips, mail, branch.fixed fixed⟩
  | takeEvent idle popped => exact ⟨byMac, ips, mail, rfl⟩
  | mainMove move => exact ⟨byMac, ips, mail, move.fixed⟩
  | mainPost post appended =>
    obtain ⟨mailFixed, mainFixed⟩ := post.fixed main
    exact ⟨byMac, ips, pushed appended mailFixed, mainFixed⟩
  | call found appended => exact ⟨byMac, ips, pushed appended (Calls.fixed (wf.atPc found)), main⟩
  | cast found appended => exact ⟨byMac, ips, pushed appended (Casts.fixed (wf.atPc found)), main⟩
  | actor popped visits =>
    have handled := mail _ (by rw [popped]; exact List.mem_cons_self)
    refine ⟨?_, ?_, ?_, deliver_fixed main⟩
    · intro mac
      rw [deliver_table, (handleLeaseCommand_reservations handled).1]
      exact byMac mac
    · rw [deliver_table, (handleLeaseCommand_reservations handled).2]
      exact ips
    · rw [deliver_mailbox]
      intro mail' member
      exact mail mail' (by rw [popped]; exact List.mem_cons_of_mem _ member)
  | _ => exact ⟨byMac, ips, mail, main⟩

end TrimRouter.DhcpServer
