import TrimRouter.DhcpServer.LeaseIndex

/-!
# The answer of `CheckConflict`

A probe asks whether another client holds the address that it wants to hand out.  The actor answers
from `get_mac_by_ip`, which looks for the first live entry on the address, whoever owns it; the
table's own check for the same question, `is_ip_taken_by_other`, looks at every entry.
`checkConflict_exact_iff` says when the two agree.
-/

namespace TrimRouter.DhcpServer

open Run

variable {t : LeaseTable} {now : Nat} {order : IterOrder} {mac : MacAddr}
  {lease : ClientLease} {ip : Ipv4Addr}

/-- The entry is live and on `ip`. -/
def ClientLease.holds (lease : ClientLease) (now : Nat) (ip : Ipv4Addr) : Bool :=
  lease.ip == ip && lease.isLive now

namespace LeaseTable

/-- Some client other than `mac` has a live entry on `ip`. -/
def HeldByOther (t : LeaseTable) (now : Nat) (ip : Ipv4Addr) (mac : MacAddr) : Prop :=
  ∃ other lease, other ≠ mac ∧ t.get other = some lease ∧ lease.holds now ip = true

/-- The iteration meets a live entry of `mac` on `ip` before any other live entry on it. -/
def OwnEntryFirst (t : LeaseTable) (now : Nat) (order : IterOrder) (ip : Ipv4Addr)
    (mac : MacAddr) : Prop :=
  ∃ before lease after, t.byMac.iter order.byMac = before ++ (mac, lease) :: after ∧
    lease.holds now ip = true ∧ ∀ e ∈ before, e.2.holds now ip = false

theorem ownEntryFirst_iff :
    t.OwnEntryFirst now order ip mac ↔ t.getMacByIp now order ip = some mac := by
  unfold OwnEntryFirst getMacByIp
  rw [Option.map_eq_some_iff]
  constructor
  · rintro ⟨before, lease, after, visited, holds, passed⟩
    refine ⟨(mac, lease), ?_, rfl⟩
    rw [List.find?_eq_some_iff_append]
    refine ⟨holds, before, after, visited, fun e member => ?_⟩
    exact (Bool.not_eq_true' _).mpr (passed e member)
  · rintro ⟨⟨_, lease⟩, first, rfl⟩
    obtain ⟨holds, before, after, visited, passed⟩ := List.find?_eq_some_iff_append.mp first
    refine ⟨before, lease, after, visited, holds, fun e member => ?_⟩
    exact (Bool.not_eq_true' _).mp (passed e member)

theorem getMacByIp_eq_some (visits : order.Visits t)
    (found : t.getMacByIp now order ip = some mac) :
    ∃ lease, t.get mac = some lease ∧ lease.holds now ip = true := by
  obtain ⟨before, lease, after, visited, holds, -⟩ := ownEntryFirst_iff.mpr found
  have member : (mac, lease) ∈ t.byMac.iter order.byMac := by
    rw [visited]
    simp
  exact ⟨lease, (HashMap.mem_iter visits.1).mp member, holds⟩

theorem getMacByIp_eq_none (visits : order.Visits t)
    (missing : t.getMacByIp now order ip = none) (found : t.get mac = some lease) :
    lease.holds now ip = false := by
  unfold getMacByIp at missing
  rw [Option.map_eq_none_iff, List.find?_eq_none] at missing
  have member : (mac, lease) ∈ t.byMac.iter order.byMac := (HashMap.mem_iter visits.1).mpr found
  exact Bool.eq_false_iff.mpr (missing (mac, lease) member)

end LeaseTable

open LeaseTable

/-- The actor answers that there is a conflict. -/
theorem checkConflict_eq :
    (handleLeaseCommand now order t (.checkConflict ip mac)).2 = .conflict true ↔
      ∃ holder, t.getMacByIp now order ip = some holder ∧ holder ≠ mac := by
  simp [handleLeaseCommand, Option.any_eq_true]

/-- The answer is right exactly when the client's own live entry is not met first while
another client holds the address. -/
theorem checkConflict_exact_iff (visits : order.Visits t) :
    ((handleLeaseCommand now order t (.checkConflict ip mac)).2 = .conflict true ↔
        t.HeldByOther now ip mac) ↔
      ¬ (t.HeldByOther now ip mac ∧ t.OwnEntryFirst now order ip mac) := by
  rw [checkConflict_eq, ownEntryFirst_iff]
  cases first : t.getMacByIp now order ip with
  | none =>
    have free : ¬ t.HeldByOther now ip mac := by
      rintro ⟨other, lease, -, found, holds⟩
      rw [getMacByIp_eq_none visits first found] at holds
      cases holds
    simp [free]
  | some holder =>
    by_cases own : holder = mac
    · subst own
      simp
    · obtain ⟨lease, found, holds⟩ := getMacByIp_eq_some visits first
      have held : t.HeldByOther now ip mac := ⟨holder, lease, own, found, holds⟩
      simp [held, own]

/-- With two holders in the table the answer is right when the other one is met first. -/
theorem checkConflict_exact_of_other_first :
    ((handleLeaseCommand 5 ⟨[2, 1], []⟩
          ((LeaseTable.new.insert 1 ⟨7, 10, none⟩).insert 2 ⟨7, 10, none⟩)
          (.checkConflict 7 1)).2 = .conflict true ↔
        ((LeaseTable.new.insert 1 ⟨7, 10, none⟩).insert 2 ⟨7, 10, none⟩).HeldByOther 5 7 1) := by
  refine (checkConflict_exact_iff (by decide)).mpr ?_
  rintro ⟨-, own⟩
  rw [ownEntryFirst_iff] at own
  revert own
  decide

/-- Client 1 is offered 192.168.1.2 as a candidate and client 2 is then seen on it.  An
iteration that meets client 1 first answers that there is no conflict, one that meets
client 2 first that there is. -/
theorem checkConflict_misses_other_holder :
    ∃ t, exec runLeaseActor LeaseTable.new
        [(0, .command (.allocateCandidate 1 ⟨.new 192 168 1 1, 24, by decide⟩
            (.new 192 168 1 1)) ⟨[], []⟩),
         (1, .command (.addNeighbor 2 (.new 192 168 1 2)) ⟨[1], []⟩)] = some t ∧
      IterOrder.Visits ⟨[1, 2], []⟩ t ∧ t.HeldByOther 2 (.new 192 168 1 2) 1 ∧
      (handleLeaseCommand 2 ⟨[1, 2], []⟩ t (.checkConflict (.new 192 168 1 2) 1)).2 =
        .conflict false ∧
      (handleLeaseCommand 2 ⟨[2, 1], []⟩ t (.checkConflict (.new 192 168 1 2) 1)).2 =
        .conflict true := by
  refine ⟨_, rfl, by decide +kernel, ?_, by decide +kernel, by decide +kernel⟩
  exact ⟨2, ⟨.new 192 168 1 2, 1 + neighborHoldDuration, none⟩, by decide, by decide +kernel,
    by decide⟩

end TrimRouter.DhcpServer
