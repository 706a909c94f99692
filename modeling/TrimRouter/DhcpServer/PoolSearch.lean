import TrimRouter.DhcpServer.LeaseIndex
import TrimRouter.Net.Subnet

/-!
# The search for a free address

`allocate_candidate` serves a client without a reservation from the pool: it evicts what has
expired, which rebuilds the index of allocated addresses, and takes the first host that the index,
the holds and the reservations leave.  The client gets the lowest free address, if there is one
(`allocateCandidate_lowest`).
-/

namespace TrimRouter.DhcpServer.LeaseTable

variable {t : LeaseTable} {now : Nat} {mac : MacAddr} {net : Ipv4Net} {ip serverIp : Ipv4Addr}

/-- An address that the pool can give out: a host that is not the server, carried by no entry
that is still live, not reserved and not on hold. -/
structure IsFree (t : LeaseTable) (now : Nat) (net : Ipv4Net) (serverIp ip : Ipv4Addr) :
    Prop where
  host : ip ∈ net.hosts
  notServer : ip ≠ serverIp
  unleased : ∀ m lease, t.get m = some lease → lease.isLive now = true → lease.ip ≠ ip
  unreserved : ip ∉ t.reservedIps
  unheld : t.isConflictActive now ip = false

/-- An eviction drops only holds that have run out. -/
theorem isConflictActive_evictExpired :
    (t.evictExpired now).isConflictActive now ip = t.isConflictActive now ip := by
  simp only [isConflictActive, evictExpired, HashMap.lookup_retain]
  cases t.conflicts.lookup ip with
  | none => rfl
  | some expiry => by_cases live : now < expiry <;> simp [Option.filter, live]

/-- After an eviction the index lists the addresses of the live entries, whatever it listed
before. -/
theorem mem_allocatedIps_evictExpired :
    ip ∈ (t.evictExpired now).allocatedIps ↔
      ∃ m lease, t.get m = some lease ∧ lease.isLive now = true ∧ lease.ip = ip := by
  rw [evictExpired_indexConsistent ip]
  simp only [get_evictExpired_eq_some, ClientLease.isLive_iff, and_assoc]

/-- What the search accepts is what is free. -/
theorem isFree_iff :
    t.IsFree now net serverIp ip ↔
      ip ∈ net.hosts ∧
        (ip != serverIp && (t.evictExpired now).isIpAvailableForDynamic now ip) = true := by
  have reserved : (t.evictExpired now).reservedIps = t.reservedIps := rfl
  simp only [isIpAvailableForDynamic, isIpAvailable, Bool.and_eq_true, bne_iff_ne,
    decide_eq_true_eq, Bool.not_eq_true', isConflictActive_evictExpired,
    mem_allocatedIps_evictExpired, reserved]
  constructor
  · intro free
    refine ⟨free.host, free.notServer, ⟨?_, free.unheld⟩, free.unreserved⟩
    rintro ⟨m, lease, found, live, onIp⟩
    exact free.unleased m lease found live onIp
  · rintro ⟨host, notServer, ⟨unleased, unheld⟩, unreserved⟩
    exact ⟨host, notServer, fun m lease found live onIp => unleased ⟨m, lease, found, live, onIp⟩,
      unreserved, unheld⟩

theorem find_eq_some_iff_lowest {ips : List Ipv4Addr} {p : Ipv4Addr → Bool}
    (sorted : ips.Pairwise (· < ·)) :
    ips.find? p = some ip ↔
      (ip ∈ ips ∧ p ip = true) ∧ ∀ other, other ∈ ips ∧ p other = true → ip ≤ other := by
  induction ips with
  | nil => simp
  | cons first rest ih =>
    obtain ⟨lower, sorted⟩ := List.pairwise_cons.mp sorted
    by_cases hit : p first = true
    · -- the search ends here, and every other address of the list is higher
      rw [List.find?_cons_of_pos hit, Option.some.injEq]
      constructor
      · rintro rfl
        refine ⟨⟨List.mem_cons_self, hit⟩, ?_⟩
        rintro other ⟨inList, _⟩
        rcases List.mem_cons.mp inList with rfl | inRest
        · exact BitVec.le_refl _
        · exact BitVec.le_of_lt (lower other inRest)
      · rintro ⟨⟨inList, _⟩, lowest⟩
        rcases List.mem_cons.mp inList with same | inRest
        · exact same.symm
        · exact absurd (lower ip inRest)
            (BitVec.not_lt.mpr (lowest first ⟨List.mem_cons_self, hit⟩))
    · rw [List.find?_cons_of_neg hit, ih sorted]
      have skip : ∀ other, (other ∈ first :: rest ∧ p other = true) ↔
          (other ∈ rest ∧ p other = true) := by
        intro other
        rw [List.mem_cons]
        constructor
        · rintro ⟨rfl | inRest, chosen⟩
          · exact absurd chosen hit
          · exact ⟨inRest, chosen⟩
        · rintro ⟨inRest, chosen⟩
          exact ⟨.inr inRest, chosen⟩
      simp only [skip]

/-- The search ends at the lowest free address. -/
theorem findHost_eq_some_iff :
    (t.evictExpired now).findHost now net serverIp = some ip ↔
      t.IsFree now net serverIp ip ∧ ∀ other, t.IsFree now net serverIp other → ip ≤ other := by
  unfold findHost
  rw [find_eq_some_iff_lowest Ipv4Net.hosts_sorted]
  simp only [isFree_iff]

/-- The search fails only when nothing is free. -/
theorem findHost_eq_none_iff :
    (t.evictExpired now).findHost now net serverIp = none ↔
      ∀ ip, ¬ t.IsFree now net serverIp ip := by
  unfold findHost
  simp only [List.find?_eq_none, isFree_iff, not_and]

section

variable (unreserved : t.staticLeases.lookup mac = none)

include unreserved

/-- Without a reservation, an allocation is the search after an eviction. -/
theorem allocateCandidate_snd :
    (t.allocateCandidate now mac net serverIp).2 =
      (t.evictExpired now).findHost now net serverIp := by
  simp only [allocateCandidate, unreserved, nextAvailableIp]
  cases (t.evictExpired now).findHost now net serverIp <;> rfl

/-- A client without a reservation gets the lowest free address and an entry on it for the
duration of a candidate; it gets nothing, and no entry is added, exactly when no address is
free. -/
theorem allocateCandidate_lowest :
    (∀ ip, (t.allocateCandidate now mac net serverIp).2 = some ip ↔
      t.IsFree now net serverIp ip ∧ ∀ other, t.IsFree now net serverIp other → ip ≤ other) ∧
    (∀ ip, (t.allocateCandidate now mac net serverIp).2 = some ip →
      (t.allocateCandidate now mac net serverIp).1.get mac =
        some ⟨ip, now + candidateHoldDuration, none⟩) ∧
    ((t.allocateCandidate now mac net serverIp).2 = none ↔ ∀ ip, ¬ t.IsFree now net serverIp ip) ∧
    ((t.allocateCandidate now mac net serverIp).2 = none →
      ∀ m lease, (t.allocateCandidate now mac net serverIp).1.get m = some lease →
        t.get m = some lease) := by
  have searched : (t.allocateCandidate now mac net serverIp).2 =
      (t.evictExpired now).findHost now net serverIp := allocateCandidate_snd unreserved
  refine ⟨fun ip => ?_, fun ip allocated => ?_, ?_, fun exhausted m lease found => ?_⟩
  · rw [searched]
    exact findHost_eq_some_iff
  · rw [allocateCandidate_fst, allocated]
    simp [get_insert, unreserved]
  · rw [searched]
    exact findHost_eq_none_iff
  · rw [allocateCandidate_fst, exhausted] at found
    simp only [candidateBase, unreserved, if_true] at found
    exact (get_evictExpired_eq_some.mp found).1

end

/-- A table whose index lists the free address `192.168.1.5` and misses `192.168.1.2`, which an
entry carries; an entry on `.3` has expired, `.3` is on hold and `.4` is reserved. -/
def disordered : LeaseTable where
  byMac := ((∅ : HashMap MacAddr ClientLease).insert 1#48 ⟨.new 192 168 1 2, 50, none⟩).insert 2#48
    ⟨.new 192 168 1 3, 5, none⟩
  allocatedIps := {.new 192 168 1 5}
  conflicts := (∅ : HashMap Ipv4Addr Nat).insert (.new 192 168 1 3) 50
  staticLeases := ∅
  reservedIps := {.new 192 168 1 4}

theorem disordered_lowest :
    disordered.staticLeases.lookup 3#48 = none ∧
      disordered.IsFree 10 (.slash24 (.new 192 168 1 1)) (.new 192 168 1 1) (.new 192 168 1 5) ∧
      ∀ other, disordered.IsFree 10 (.slash24 (.new 192 168 1 1)) (.new 192 168 1 1) other →
        .new 192 168 1 5 ≤ other :=
  ⟨by decide,
    ((allocateCandidate_lowest (show disordered.staticLeases.lookup 3#48 = none by decide)).1
      (.new 192 168 1 5)).mp (by decide +kernel)⟩

end TrimRouter.DhcpServer.LeaseTable
