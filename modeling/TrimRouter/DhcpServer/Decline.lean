import TrimRouter.DhcpServer.PoolSearch
import TrimRouter.DhcpServer.Redemption

/-!
# Declining an address

`process_incoming_packet` has one branch for DHCPDECLINE and DHCPRELEASE: the client's entry is
removed and its address goes back to the pool.  The only holds are those of the server's own probes.
`decline_frees_address` says what a DECLINE leaves, and what the next search of the pool finds.
-/

namespace TrimRouter.DhcpServer

open Run

variable {cfg : ServerConfig} {s t u : State} {ls : List Label} {i : Nat} {m : MacAddr}
  {dhcp : Message}

/-- Task `i` handles a DECLINE and waits for the lease actor, which handles its command next; `u`
is the worker after that. -/
structure Declines (cfg : ServerConfig) (mac : MacAddr) (dhcp : Message) (s : State) (i : Nat)
    (u : State) : Prop where
  reached : ∃ staticLeases ls, exec (step cfg) (State.init staticLeases) ls = some s
  declined : dhcp.messageType = some .decline
  waiting : s.tasks[i]? = some ⟨mac, dhcp, .reply .gotReleased⟩
  next : ∃ cmd, s.nextMail = some ⟨cmd, .task i⟩
  handled : ∃ order, step cfg s (.actor order) = some u

theorem Declines.table (d : Declines cfg m dhcp s i u) : u.table = (s.table.remove m).1 := by
  obtain ⟨staticLeases, ls, reached⟩ := d.reached
  obtain ⟨cmd, next⟩ := d.next
  obtain ⟨order, handled⟩ := d.handled
  obtain ⟨k, atReply, calls⟩ := ((Wf.init staticLeases).exec reached).waiting next d.waiting
  cases atReply
  cases calls
  exact (Step.of_step handled).table_of_actor next

theorem Declines.now_eq (d : Declines cfg m dhcp s i u) : u.now = s.now := by
  obtain ⟨order, handled⟩ := d.handled
  rcases (Step.of_step handled).now_eq with same | ⟨_, advances, -⟩
  · exact same
  · cases advances

/-- An address that is free stays free as time passes. -/
theorem LeaseTable.IsFree.later {table : LeaseTable} {now later : Nat} {net : Ipv4Net}
    {serverIp ip : Ipv4Addr} (free : table.IsFree now net serverIp ip) (le : now ≤ later) :
    table.IsFree later net serverIp ip where
  host := free.host
  notServer := free.notServer
  unleased := by
    intro mac lease found live
    rw [ClientLease.isLive_iff] at live
    exact free.unleased mac lease found (ClientLease.isLive_iff.mpr (by omega))
  unreserved := free.unreserved
  unheld := by
    have unheld := free.unheld
    unfold LeaseTable.isConflictActive at unheld ⊢
    cases held : table.conflicts.lookup ip with
    | none => rfl
    | some expiry =>
      rw [held] at unheld
      simp only [Option.any_some, decide_eq_false_iff_not] at unheld ⊢
      omega

theorem LeaseTable.IsFree.allocated {table : LeaseTable} {now : Nat} {net : Ipv4Net}
    {serverIp ip : Ipv4Addr} {client : MacAddr} (free : table.IsFree now net serverIp ip)
    (unreserved : table.staticLeases.lookup client = none) :
    ∃ found, (table.allocateCandidate now client net serverIp).2 = some found ∧ found ≤ ip ∧
      ∀ other, table.IsFree now net serverIp other → found ≤ other := by
  rw [LeaseTable.allocateCandidate_snd unreserved]
  cases searched : (table.evictExpired now).findHost now net serverIp with
  | none => exact absurd free (LeaseTable.findHost_eq_none_iff.mp searched ip)
  | some found =>
    obtain ⟨-, lowest⟩ := LeaseTable.findHost_eq_some_iff.mp searched
    exact ⟨found, rfl, lowest ip free, lowest⟩

/-- In every run, a DECLINE of the address that a client holds removes the client's entry and
nothing else; no hold is recorded.  Unless the address is reserved, on hold already or on another
client's live entry, it is free again: the next search of the pool, for any client and however
much later, ends at the lowest free address, which is the declined one or a lower one. -/
theorem decline_frees_address {lease : ClientLease} (d : Declines cfg m dhcp s i u)
    (held : s.table.get m = some lease) :
    u.table.get m = none ∧
      (∀ other, other ≠ m → u.table.get other = s.table.get other) ∧
      u.table.conflicts = s.table.conflicts ∧
      (lease.ip ∈ cfg.net.hosts → lease.ip ≠ cfg.serverIp → lease.ip ∉ s.table.reservedIps →
        ¬ s.table.HeldByOther s.now lease.ip m →
        s.table.isConflictActive s.now lease.ip = false →
        ∀ ls t client, exec (step cfg) u ls = some t → (∀ l ∈ ls, l.handles = false) →
          t.table.staticLeases.lookup client = none →
          ∃ found, (t.table.allocateCandidate t.now client cfg.net cfg.serverIp).2 = some found ∧
            found ≤ lease.ip ∧
            ∀ other, t.table.IsFree t.now cfg.net cfg.serverIp other → found ≤ other) := by
  have removed : u.table = { s.table with
      byMac := s.table.byMac.erase m, allocatedIps := s.table.allocatedIps.erase lease.ip } := by
    rw [d.table, LeaseTable.remove, held]
  have entries : ∀ other, u.table.get other = if other = m then none else s.table.get other := by
    intro other
    rw [d.table, LeaseTable.get_remove]
  refine ⟨(entries m).trans (if_pos rfl), fun other different => (entries other).trans
    (if_neg different), by rw [removed], ?_⟩
  intro host notServer unreserved alone unheld ls t client run quiet noReservation
  have free : u.table.IsFree u.now cfg.net cfg.serverIp lease.ip := by
    refine ⟨host, notServer, ?_, by rw [removed]; exact unreserved, ?_⟩
    · intro other entry found live onIp
      rw [entries] at found
      split at found
      · cases found
      · rename_i different
        rw [d.now_eq] at live
        exact alone ⟨other, entry, different, found, by simp [ClientLease.holds, onIp, live]⟩
    · rw [d.now_eq]
      unfold LeaseTable.isConflictActive
      rw [removed]
      exact unheld
  have still := free.later (now_le_of_exec run)
  rw [← table_of_quiet quiet run] at still
  exact still.allocated noReservation

/-! ## Declining and asking again -/

/-- Client 1 declines. -/
def declineMessage : Message := (sampleMessage .decline 1 none none).get rfl

/-- Client 1 is offered 192.168.1.2, is acknowledged it and declines it. -/
def declining : List Label :=
  discoverExchange 0 1 none [] [1] ++ requestExchange 1 1 (.new 192 168 1 2) none [1] [1] ++
    [Label.packet 1 (some declineMessage), .task 2]

/-- Decide what follows the DECLINE of client 1. -/
def declinesThen (check : State → State → Bool) : Bool :=
  (exec (step sampleConfig) (State.init []) declining).any fun s =>
    decide (s.tasks[2]? = some ⟨1, declineMessage, .reply .gotReleased⟩) &&
    (s.nextMail.any fun mail => mail.caller == .task 2) &&
    ((s.table.get 1).any fun lease => decide (lease.ip = .new 192 168 1 2)) &&
    (step sampleConfig s (.actor ⟨[1], []⟩)).any (check s)

theorem declines_of_declinesThen {check : State → State → Bool}
    (found : declinesThen check = true) :
    ∃ s u lease, Declines sampleConfig 1 declineMessage s 2 u ∧ s.table.get 1 = some lease ∧
      lease.ip = .new 192 168 1 2 ∧ check s u = true := by
  simp only [declinesThen, Option.any_eq_true, Bool.and_eq_true, decide_eq_true_eq,
    beq_iff_eq] at found
  obtain ⟨s, reached, ⟨⟨waiting, ⟨cmd, _⟩, next, rfl⟩, lease, held, onIp⟩, u, handled, checked⟩ :=
    found
  exact ⟨s, u, lease, ⟨⟨_, _, reached⟩, rfl, waiting, ⟨cmd, next⟩, _, handled⟩, held, onIp, checked⟩

/-- The address is free for client 2. -/
theorem decline_removes_entry :
    ∃ s u lease, Declines sampleConfig 1 declineMessage s 2 u ∧ s.table.get 1 = some lease ∧
      u.table.get 1 = none ∧ u.table.conflicts = s.table.conflicts ∧
      ∃ found, (u.table.allocateCandidate u.now 2 sampleConfig.net sampleConfig.serverIp).2 =
        some found ∧ found ≤ lease.ip := by
  have found : declinesThen (fun s u =>
      decide (.new 192 168 1 2 ∉ s.table.reservedIps) &&
      !s.table.isIpTakenByOther s.now (.new 192 168 1 2) 1 &&
      !s.table.isConflictActive s.now (.new 192 168 1 2) &&
      decide (u.table.staticLeases.lookup 2 = none)) = true := by
    decide +kernel
  obtain ⟨s, u, lease, declines, held, onIp, checked⟩ := declines_of_declinesThen found
  simp only [Bool.and_eq_true, decide_eq_true_eq, Bool.not_eq_true'] at checked
  obtain ⟨⟨⟨unreserved, alone⟩, unheld⟩, noReservation⟩ := checked
  obtain ⟨removed, -, conflicts, free⟩ := decline_frees_address declines held
  rw [onIp] at free
  obtain ⟨found, searched, le, -⟩ := free (by decide +kernel) (by decide) unreserved
    (heldByOther_iff.not.mpr (Bool.eq_false_iff.mp alone)) unheld [] u 2 rfl nofun noReservation
  exact ⟨s, u, lease, declines, held, removed, conflicts, found, searched, onIp ▸ le⟩

/-- Client 1 asks for an address right after its DECLINE, and is offered the one it has
declined. -/
theorem declined_address_offered_again :
    ∃ s u t lease, Declines sampleConfig 1 declineMessage s 2 u ∧ s.table.get 1 = some lease ∧
      exec (step sampleConfig) u (discoverExchange 3 1 none [] [1]).dropLast = some t ∧
      t.now < u.now + conflictHoldDuration ∧
      (emitted t .main).map Event.msg = some (.sendOffer 1 1 lease.ip false) := by
  have found : declinesThen (fun _ u =>
      (exec (step sampleConfig) u (discoverExchange 3 1 none [] [1]).dropLast).any fun t =>
        decide (t.now < u.now + conflictHoldDuration) &&
        decide ((emitted t .main).map Event.msg =
          some (.sendOffer 1 1 (.new 192 168 1 2) false))) = true := by
    decide +kernel
  obtain ⟨s, u, lease, declines, held, onIp, checked⟩ := declines_of_declinesThen found
  simp only [Option.any_eq_true, Bool.and_eq_true, decide_eq_true_eq] at checked
  obtain ⟨t, run, inTime, offers⟩ := checked
  exact ⟨s, u, t, lease, declines, held, run, inTime, onIp.symm ▸ offers⟩

end TrimRouter.DhcpServer
