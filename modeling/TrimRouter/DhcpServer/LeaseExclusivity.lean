import TrimRouter.DhcpServer.ClientView

/-!
# No address is leased twice

A client holds an address from the moment its acknowledgement leaves the worker.  What protects the
address from then on is the client's table entry: a request for the address is refused while another
client has a live entry on it.  But a client has one entry only, and neighbour reports, offers and
further requests replace it while the lease is still running; and the entry runs from the moment the
request is granted, not from the acknowledgement.  `Guarded` excludes these steps, and
`leases_exclusive` is about the runs that are left.
-/

namespace TrimRouter.DhcpServer

open Run

variable {cfg : ServerConfig} {l : Label} {late : Nat} {m mac : MacAddr}

/-! ## Acknowledgements under way -/

/-- The acknowledgement that a task will send unless its probe finds a conflict: client,
address and the instant of the grant. -/
def acksDue (mac : MacAddr) : Cont → List (MacAddr × Ipv4Addr × Nat)
  | .probedGrant grant | .waitedGrant grant | .checkedGrant grant =>
    [(mac, grant.confirmation.ip, grant.since)]
  | _ => []

/-- The acknowledgement that a message is. -/
def acksOwed (e : Event) : List (MacAddr × Ipv4Addr × Nat) :=
  match e.msg with
  | .sendAck clientMac _ leasedIp _ => [(clientMac, leasedIp, e.since)]
  | _ => []

/-- The acknowledgements under way. -/
def ackLedger (cfg : ServerConfig) : Ledger cfg (MacAddr × Ipv4Addr × Nat) where
  due := acksDue
  owed := acksOwed
  start _ := ⟨rfl, rfl, rfl⟩
  flow := by
    intro mac dhcp now k reply x passive due
    cases k with
    | gotExistingIp | gotCandidate | checkedCandidate =>
      simp only [Task.proceed] at due
      split at due <;> cases due
    | gotConfirmation =>
      rcases passive with rfl | ⟨different, -⟩
      · cases due
      · exact absurd rfl different
    | probedGrant | waitedGrant => exact due
    | checkedGrant grant =>
      simp only [Task.proceed] at due
      split at due
      · cases due
      · exact due
    | sentAck grant =>
      simp only [Task.proceed, Task.register] at due
      split at due
      · cases due
      · split at due <;> cases due
    | sentDeregister grant =>
      simp only [Task.proceed, Task.register] at due
      split at due <;> cases due
    | gotReleased =>
      rcases passive with rfl | ⟨-, different⟩
      · cases due
      · exact absurd rfl different
    | _ => cases due

/-! ## The probe delays every acknowledgement -/

/-- What is known of the time of a grant when a task goes on from a continuation. -/
def Cont.Timed (now : Nat) : Cont → Prop
  | .probedGrant grant => grant.since ≤ now
  | .waitedGrant grant | .checkedGrant grant => grant.since + arpResolutionDelay ≤ now
  | _ => True

/-- An acknowledgement leaves its task after the probe delay. -/
def Event.Timed (now : Nat) (e : Event) : Prop :=
  ∀ x ∈ acksOwed e, x.2.2 + arpResolutionDelay ≤ now

/-- A sleeping task goes on from its continuation at the wake-up time at the earliest. -/
def TaskPc.Timed (now : Nat) : TaskPc → Prop
  | .call _ k | .reply k | .cast _ k => k.Timed now
  | .emit e k => e.Timed now ∧ k.Timed now
  | .sleep wake k => k.Timed (max now wake)
  | .done => True

variable {now : Nat}

theorem Cont.Timed.mono {k : Cont} {later : Nat} (timed : k.Timed now)
    (le : now ≤ later) : k.Timed later := by
  cases k with
  | probedGrant | waitedGrant | checkedGrant => exact Nat.le_trans timed le
  | _ => trivial

theorem Event.Timed.mono {e : Event} {later : Nat} (timed : e.Timed now)
    (le : now ≤ later) : e.Timed later :=
  fun x owed => Nat.le_trans (timed x owed) le

theorem Event.timed_of_not_ack {e : Event} (other : acksOwed e = []) :
    e.Timed now := by
  intro x owed
  rw [other] at owed
  cases owed

theorem TaskPc.Timed.mono {pc : TaskPc} {later : Nat} (timed : pc.Timed now)
    (le : now ≤ later) : pc.Timed later := by
  cases pc with
  | emit e k => exact ⟨timed.1.mono le, timed.2.mono le⟩
  | sleep wake k => exact Cont.Timed.mono timed (by omega)
  | call | reply | cast => exact Cont.Timed.mono timed le
  | done => trivial

theorem Task.proceed_timed {dhcp : Message} {k : Cont} (reply : LeaseReply)
    (timed : k.Timed now) : (Task.proceed cfg mac dhcp now k reply).Timed now := by
  have quiet : ∀ {e : Event} {k : Cont}, acksOwed e = [] → k.Timed now →
      (TaskPc.emit e k).Timed now :=
    fun other timed => ⟨Event.timed_of_not_ack other, timed⟩
  cases k with
  | gotExistingIp | checkedCandidate =>
    simp only [Task.proceed]
    split <;> trivial
  | gotCandidate | gotReleased =>
    simp only [Task.proceed]
    split
    · exact quiet rfl trivial
    · trivial
  | probedCandidate | waitedCandidate | recordedCandidate | finished => trivial
  | confirmedLease | recordedGrant => exact quiet rfl trivial
  | gotConfirmation =>
    simp only [Task.proceed]
    split
    · exact quiet rfl (Nat.le_refl now)
    · exact quiet rfl trivial
  | probedGrant grant =>
    simp only [Cont.Timed] at timed
    simp only [Task.proceed, TaskPc.Timed, Cont.Timed]
    omega
  | waitedGrant grant => exact timed
  | checkedGrant grant =>
    simp only [Task.proceed]
    split
    · trivial
    · refine ⟨fun x owed => ?_, trivial⟩
      rw [List.mem_singleton.mp owed]
      exact timed
  | sentAck grant =>
    simp only [Task.proceed, Task.register]
    split
    · exact quiet rfl trivial
    · split
      · exact quiet rfl trivial
      · trivial
  | sentDeregister grant =>
    simp only [Task.proceed, Task.register]
    split
    · exact quiet rfl trivial
    · trivial

/-- No acknowledgement leaves its task before the probe delay is over. -/
def timedRule (cfg : ServerConfig) : LocalRule cfg where
  task now _ _ pc := pc.Timed now
  event now e := e.Timed now
  taskLater timed le := timed.mono le
  eventLater timed le := timed.mono le
  start taken := by
    obtain ⟨cmd, k, atCall, -, first⟩ := processIncomingPacket_wf taken
    rw [atCall]
    rcases first with rfl | rfl | rfl <;> trivial
  call timed := timed
  reply r timed := Task.proceed_timed r timed
  cast timed := Task.proceed_timed _ timed
  emit timed := ⟨timed.1, Task.proceed_timed _ timed.2⟩
  wake timed awake := Task.proceed_timed _ (Cont.Timed.mono timed (by omega))
  expired := Event.timed_of_not_ack rfl

/-! ## Steps that leave the holders' entries alone -/

/-- `AllocateCandidate`. -/
def LeaseCommand.isCandidate : LeaseCommand → Bool
  | .allocateCandidate .. => true
  | _ => false

/-- `ValidateAndConfirmRequest`. -/
def LeaseCommand.isRequest : LeaseCommand → Bool
  | .validateAndConfirmRequest .. => true
  | _ => false

/-- `SetStaticLeases`. -/
def LeaseCommand.setsReservations : LeaseCommand → Bool
  | .setStaticLeases _ => true
  | _ => false

/-- The client of a `Release`. -/
def LeaseCommand.releases : LeaseCommand → Option MacAddr
  | .release mac => some mac
  | _ => none

/-- An acknowledgement of `ip` to `mac` is under way and was granted at most `late` ago. -/
def Tracked.awaits (cfg : ServerConfig) (late : Nat) (s : Tracked) (mac : MacAddr)
    (ip : Ipv4Addr) : Bool :=
  ((ackLedger cfg).all s.worker).any fun x =>
    x.1 == mac && x.2.1 == ip && decide (s.worker.now ≤ x.2.2 + late)

/-- The client holds the address or is about to be told that it does. -/
def Tracked.relies (cfg : ServerConfig) (late : Nat) (s : Tracked) (mac : MacAddr)
    (ip : Ipv4Addr) : Bool :=
  (s.view mac).holds s.worker.now ip || s.awaits cfg late mac ip

/-- The command leaves the entries alone that running leases rely on. -/
structure Undisturbed (cfg : ServerConfig) (late : Nat) (s : Tracked) (cmd : LeaseCommand) :
    Prop where
  /-- the reservations are fixed -/
  reservations : cmd.setsReservations = false
  /-- a live entry that its client relies on is neither moved nor cut down to a candidate -/
  entry : ∀ stored ∈ cmd.written s.worker.now s.worker.table,
    ∀ old ∈ s.worker.table.get stored.1, old.isLive s.worker.now = true →
      s.relies cfg late stored.1 old.ip = true →
      stored.2.ip = old.ip ∧ cmd.isCandidate = false
  /-- no release between a grant and its acknowledgement -/
  release : ∀ x ∈ (ackLedger cfg).all s.worker, cmd.releases = some x.1 →
    x.2.2 + late < s.worker.now
  /-- no grant in the last moments of another client's lease, after its entry has expired -/
  gap : cmd.isRequest = true → ∀ stored ∈ cmd.written s.worker.now s.worker.table,
    ∀ v ∈ s.views.entries, v.1 ≠ stored.1 → ∀ lease ∈ v.2.lease, lease.1 = stored.2.ip →
      s.worker.now + arpResolutionDelay < lease.2 + lanLeaseDuration →
      s.worker.now + late < lease.2 + lanLeaseDuration

instance (s : Tracked) (cmd : LeaseCommand) : Decidable (Undisturbed cfg late s cmd) :=
  decidable_of_iff (_ ∧ _ ∧ _ ∧ _)
    ⟨fun ⟨a, b, c, d⟩ => ⟨a, b, c, d⟩, fun ⟨a, b, c, d⟩ => ⟨a, b, c, d⟩⟩

/-- The step leaves the entries alone that running leases rely on, and an acknowledgement
leaves the worker at most `late` after its grant. -/
def Guarded (cfg : ServerConfig) (late : Nat) (s : Tracked) (l : Label) : Prop :=
  match l with
  | .actor _ => ∀ mail ∈ s.worker.nextMail, Undisturbed cfg late s mail.cmd
  | .main => ∀ e ∈ emitted s.worker .main, ∀ x ∈ acksOwed e, s.worker.now ≤ x.2.2 + late
  | _ => True

instance (s : Tracked) (l : Label) : Decidable (Guarded cfg late s l) := by
  unfold Guarded
  cases l <;> infer_instance

variable {ip : Ipv4Addr}

theorem ClientView.holds_iff {v : ClientView} :
    v.holds now ip = true ↔ ∃ since, v.lease = some (ip, since) ∧
      now < since + lanLeaseDuration := by
  simp only [holds, Option.any_eq_true, Bool.and_eq_true, beq_iff_eq, decide_eq_true_eq,
    Prod.exists]
  constructor
  · rintro ⟨ip', since, told, rfl, running⟩
    exact ⟨since, told, running⟩
  · rintro ⟨since, told, running⟩
    exact ⟨ip, since, told, rfl, running⟩

/-- A grant is what newly puts an acknowledgement under way. -/
theorem ackLedger_fresh {s : State} {order : IterOrder} {x : MacAddr × Ipv4Addr × Nat}
    (fresh : (ackLedger cfg).Fresh s order x) :
    ∃ mac dhcp confirmation, Granted cfg s mac dhcp confirmation ∧
      x = (mac, confirmation.ip, s.now) := by
  cases fresh with
  | @granted mac dhcp confirmation _ grants due =>
    rcases List.mem_append.mp due with probe | later
    · cases probe
    · exact ⟨mac, dhcp, confirmation, grants, List.mem_singleton.mp later⟩
  | refused due => rcases List.mem_append.mp due with nak | later <;> contradiction
  | released next found named due =>
    rcases List.mem_append.mp due with deregister | later <;> contradiction
  | expired listed due => cases due

theorem Granted.written {s : State} {dhcp : Message} {confirmation : LeaseConfirmation}
    (grants : Granted cfg s mac dhcp confirmation) :
    ∃ mail, s.nextMail = some mail ∧ mail.cmd.isRequest = true ∧
      mail.cmd.written s.now s.table =
        some (mac, ⟨confirmation.ip, s.now + lanLeaseDuration, confirmation.hostname⟩) := by
  obtain ⟨⟨caller, next⟩, granted⟩ := grants
  exact ⟨_, next, rfl, by simp [LeaseCommand.written, granted]⟩

theorem expiry_of_written {s : State} {cmd : LeaseCommand} {old stored : ClientLease}
    (wf : cmd.Wf cfg) (writes : cmd.written s.now s.table = some (m, stored))
    (found : s.table.get m = some old) (same : stored.ip = old.ip)
    (lasting : cmd.isCandidate = false) : stored.expiry = s.now + lanLeaseDuration := by
  cases cmd with
  | allocateCandidate mac net serverIp => cases lasting
  | confirmLease mac ip duration hostname =>
    cases writes
    rw [show duration = lanLeaseDuration from wf]
  | validateAndConfirmRequest =>
    obtain ⟨-, -, rfl⟩ := wf
    simp only [LeaseCommand.written, Option.map_eq_some_iff, Prod.mk.injEq] at writes
    obtain ⟨confirmation, -, rfl, rfl⟩ := writes
    rfl
  | addNeighbor mac ip =>
    -- a report of the address that the client is on already is ignored
    simp only [LeaseCommand.written] at writes
    split at writes
    · cases writes
    · rename_i heeded
      cases writes
      simp only [Bool.not_eq_true] at heeded
      simp [LeaseTable.ignoresNeighbor, found, ← same] at heeded
  | _ => cases writes

theorem Guarded.entry_persists {s : Tracked} {t : State} {old : ClientLease}
    (guard : Guarded cfg late s l) (wf : Wf cfg s.worker) (h : Step cfg s.worker l t)
    (found : s.worker.table.get m = some old) (live : s.worker.now < old.expiry)
    (relies : s.relies cfg late m old.ip = true)
    (unreleased : ∀ order caller, l = .actor order →
      s.worker.nextMail ≠ some ⟨.release m, caller⟩) :
    ∃ lease, t.table.get m = some lease ∧ lease.ip = old.ip ∧
      (old.expiry ≤ lease.expiry ∨ s.worker.now + lanLeaseDuration ≤ lease.expiry) := by
  rcases h.table_eq with same | ⟨-, evicted⟩ | ⟨order, mail, rfl, next, -, handled⟩
  · exact ⟨old, by rw [same, found], rfl, .inl (Nat.le_refl _)⟩
  · refine ⟨old, ?_, rfl, .inl (Nat.le_refl _)⟩
    rw [evicted]
    exact LeaseTable.get_evictExpired_eq_some.mpr ⟨found, live⟩
  · have undisturbed : Undisturbed cfg late s mail.cmd := guard mail next
    have kept : mail.cmd.kept s.worker.now s.worker.table m = some old := by
      refine LeaseCommand.kept_of_live found live ?_ ?_
      · intro released
        refine unreleased order mail.caller rfl ?_
        rw [next, ← released]
      · intro staticLeases sets
        have fixed := undisturbed.reservations
        rw [sets] at fixed
        cases fixed
    rw [handled, LeaseCommand.get_handleLeaseCommand]
    cases written : mail.cmd.written s.worker.now s.worker.table with
    | none => exact ⟨old, kept, rfl, .inl (Nat.le_refl _)⟩
    | some entry =>
      obtain ⟨mac, stored⟩ := entry
      by_cases own : m = mac
      · subst own
        obtain ⟨same, lasting⟩ := undisturbed.entry (m, stored) written old found
          (ClientLease.isLive_iff.mpr live) relies
        have wfMail : mail.cmd.Wf cfg := wf.mail mail (State.mem_of_nextMail next)
        have lasts := expiry_of_written wfMail written found same lasting
        exact ⟨stored, by simp, same, .inr (Nat.le_of_eq lasts.symm)⟩
      · exact ⟨old, by simp [own, kept], rfl, .inl (Nat.le_refl _)⟩

/-- What a step does to the lease of a client: it stays, unless the client releases it, or
an acknowledgement that was under way starts it anew. -/
theorem lease_step {s t : Tracked} (h : s.step cfg l = some t) {since : Nat}
    (told : (t.view m).lease = some (ip, since)) :
    ((s.view m).lease = some (ip, since) ∧
        ∀ order caller, l = .actor order → s.worker.nextMail ≠ some ⟨.release m, caller⟩) ∨
      (l = .main ∧ since = s.worker.now ∧ ∃ granted e, e ∈ s.worker.pending ∧
        emitted s.worker .main = some e ∧ (m, ip, granted) ∈ acksOwed e) := by
  rw [Tracked.view_step h] at told
  cases seen : notice s.worker l with
  | none =>
    rw [seen] at told
    refine .inl ⟨told, ?_⟩
    rintro order caller rfl next
    simp [notice, next, LeaseCommand.notice] at seen
  | some note =>
    rw [seen] at told
    rcases notice_eq_some seen with
      ⟨rfl, e, due, sent, tells⟩ | ⟨order, mac, caller, rfl, next, rfl⟩
    · cases note with
      | acked mac ip' =>
        simp only at told
        split at told
        · rename_i same
          subst same
          simp only [ClientView.acked, Option.some.injEq, Prod.mk.injEq] at told
          obtain ⟨rfl, rfl⟩ := told
          obtain ⟨client, granted, msg⟩ := e
          cases msg with
          | sendAck clientMac xid leasedIp broadcast =>
            cases tells
            exact .inr ⟨rfl, rfl, granted, _, due, sent, List.mem_singleton.mpr rfl⟩
          | _ => cases tells
        · exact .inl ⟨told, by rintro order caller ⟨⟩⟩
      | named mac name =>
        simp only at told
        split at told <;> exact .inl ⟨told, by rintro order caller ⟨⟩⟩
      | released mac =>
        obtain ⟨client, granted, msg⟩ := e
        cases msg <;> cases tells
    · simp only at told
      split at told
      · cases told
      · rename_i different
        refine .inl ⟨told, ?_⟩
        rintro order' caller' - next'
        rw [next] at next'
        cases next'
        exact different rfl

/-- What protects the holders of addresses along guarded runs. -/
structure Protected (cfg : ServerConfig) (late : Nat) (s : Tracked) : Prop where
  wf : Wf cfg s.worker
  timed : (timedRule cfg).Holds s.worker
  /-- grants and leases lie in the past -/
  granted : ∀ x ∈ (ackLedger cfg).all s.worker, x.2.2 ≤ s.worker.now
  told : ∀ {m ip since}, (s.view m).lease = some (ip, since) → since ≤ s.worker.now
  /-- a client about to be told that it holds an address has an entry on it -/
  entry : ∀ {m ip since}, (m, ip, since) ∈ (ackLedger cfg).all s.worker →
    s.worker.now ≤ since + late → ∃ lease, s.worker.table.get m = some lease ∧
      lease.ip = ip ∧ since + lanLeaseDuration ≤ lease.expiry
  /-- a holder has an entry on its address, or its lease is about to run out -/
  held : ∀ {m ip since}, (s.view m).lease = some (ip, since) →
    s.worker.now < since + lanLeaseDuration →
    (∃ lease, s.worker.table.get m = some lease ∧ lease.ip = ip ∧
      since + lanLeaseDuration ≤ lease.expiry + late) ∨
      since + lanLeaseDuration ≤ s.worker.now + late
  /-- no two clients are about to be told the same address -/
  alone : ∀ {m m' ip since since'}, (m, ip, since) ∈ (ackLedger cfg).all s.worker →
    s.worker.now ≤ since + late → (m', ip, since') ∈ (ackLedger cfg).all s.worker →
    s.worker.now ≤ since' + late → m = m'
  /-- when a client is told, every other lease on the address will have run out -/
  ahead : ∀ {m m' ip since since'}, (m, ip, since) ∈ (ackLedger cfg).all s.worker →
    s.worker.now ≤ since + late → m' ≠ m → (s.view m').lease = some (ip, since') →
    since' + lanLeaseDuration ≤ since + arpResolutionDelay
  /-- no two clients hold the same address -/
  exclusive : ∀ {m m' ip}, (s.view m).holds s.worker.now ip = true →
    (s.view m').holds s.worker.now ip = true → m = m'

section

variable {s t : Tracked} {ip : Ipv4Addr} {since since' : Nat}

/-- An acknowledgement under way after a step was so before, or has just been granted. -/
theorem Protected.ack_step (inv : Protected cfg late s) (h : s.step cfg l = some t)
    {x : MacAddr × Ipv4Addr × Nat} (due : x ∈ (ackLedger cfg).all t.worker) :
    x ∈ (ackLedger cfg).all s.worker ∨ ∃ order mac dhcp confirmation, l = .actor order ∧
      Granted cfg s.worker mac dhcp confirmation ∧ x = (mac, confirmation.ip, s.worker.now) := by
  have stepped := (Tracked.step_eq_some h).1
  rcases (ackLedger cfg).step inv.wf stepped due with before | ⟨order, rfl, -, fresh⟩
  · exact .inl before
  · obtain ⟨mac, dhcp, confirmation, grants, rfl⟩ := ackLedger_fresh fresh
    exact .inr ⟨order, mac, dhcp, confirmation, rfl, grants, rfl⟩

theorem Tracked.mem_views (told : (s.view m).lease.isSome = true) :
    (⟨m, s.view m⟩ : Σ _ : MacAddr, ClientView) ∈ s.views.entries := by
  rw [HashMap.mem_entries_iff]
  unfold Tracked.view at told ⊢
  cases found : s.views.lookup m with
  | none => simp [found, ClientView.blank] at told
  | some v => rfl

variable {m' : MacAddr}

/-- A message acknowledges one client. -/
theorem acksOwed_client {e : Event} {ip' : Ipv4Addr}
    (owed : (m, ip, since) ∈ acksOwed e) (owed' : (m', ip', since') ∈ acksOwed e) : m = m' := by
  obtain ⟨client, granted, msg⟩ := e
  cases msg with
  | sendAck clientMac xid leasedIp broadcast =>
    cases List.mem_singleton.mp owed
    cases List.mem_singleton.mp owed'
    rfl
  | _ => cases owed

/-- An address is not granted while another client has a live entry on it. -/
theorem Granted.not_taken {dhcp : Message} {confirmation : LeaseConfirmation}
    {lease : ClientLease} (grants : Granted cfg s.worker mac dhcp confirmation)
    (found : s.worker.table.get m = some lease) (onIp : lease.ip = confirmation.ip)
    (live : s.worker.now < lease.expiry) : m = mac := by
  have free := (LeaseTable.validateAndConfirm_granted grants.granted).free
  by_contra different
  have taken := LeaseTable.isIpTakenByOther_iff.mpr ⟨m, lease, different, found, onIp, live⟩
  rw [free] at taken
  cases taken

section

variable (inv : Protected cfg late s)

include inv

theorem Protected.granted_step (h : s.step cfg l = some t) :
    ∀ x ∈ (ackLedger cfg).all t.worker, x.2.2 ≤ t.worker.now := by
  intro x due
  have later := (Tracked.step_eq_some h).1.now_le
  rcases inv.ack_step h due with before | ⟨order, mac, dhcp, confirmation, -, -, rfl⟩
  · exact Nat.le_trans (inv.granted x before) later
  · exact later

theorem Protected.told_step (h : s.step cfg l = some t)
    (told : (t.view m).lease = some (ip, since)) : since ≤ t.worker.now := by
  have later := (Tracked.step_eq_some h).1.now_le
  rcases lease_step h told with ⟨before, -⟩ | ⟨-, rfl, -⟩
  · exact Nat.le_trans (inv.told before) later
  · exact later

theorem Protected.entry_step (short : late < lanLeaseDuration) (guard : Guarded cfg late s l)
    (h : s.step cfg l = some t) (due : (m, ip, since) ∈ (ackLedger cfg).all t.worker)
    (fresh : t.worker.now ≤ since + late) :
    ∃ lease, t.worker.table.get m = some lease ∧ lease.ip = ip ∧
      since + lanLeaseDuration ≤ lease.expiry := by
  have stepped := (Tracked.step_eq_some h).1
  have later := stepped.now_le
  rcases inv.ack_step h due with before | ⟨order, mac, dhcp, confirmation, rfl, grants, new⟩
  · have freshBefore : s.worker.now ≤ since + late := Nat.le_trans later fresh
    obtain ⟨old, found, rfl, lasts⟩ := inv.entry before freshBefore
    have live : s.worker.now < old.expiry := by omega
    have awaits : s.awaits cfg late m old.ip = true :=
      List.any_eq_true.mpr ⟨_, before, by simp [freshBefore]⟩
    have relies : s.relies cfg late m old.ip = true := by simp [Tracked.relies, awaits]
    have unreleased : ∀ order caller, l = .actor order →
        s.worker.nextMail ≠ some ⟨.release m, caller⟩ := by
      rintro order caller rfl next
      have answered := (guard _ next).release _ before rfl
      simp only at answered
      omega
    obtain ⟨lease, stays, same, renewed⟩ :=
      guard.entry_persists inv.wf stepped found live relies unreleased
    have past : since ≤ s.worker.now := inv.granted _ before
    exact ⟨lease, stays, same, by rcases renewed with longer | full <;> omega⟩
  · cases new
    obtain ⟨mail, next, -, written⟩ := grants.written
    refine ⟨⟨confirmation.ip, s.worker.now + lanLeaseDuration, confirmation.hostname⟩, ?_, rfl,
      Nat.le_refl _⟩
    rw [stepped.table_of_actor next, LeaseCommand.get_handleLeaseCommand, written]
    simp

theorem Protected.held_step (guard : Guarded cfg late s l) (h : s.step cfg l = some t)
    (told : (t.view m).lease = some (ip, since))
    (running : t.worker.now < since + lanLeaseDuration) :
    (∃ lease, t.worker.table.get m = some lease ∧ lease.ip = ip ∧
      since + lanLeaseDuration ≤ lease.expiry + late) ∨
      since + lanLeaseDuration ≤ t.worker.now + late := by
  have stepped := (Tracked.step_eq_some h).1
  have later := stepped.now_le
  rcases lease_step h told with ⟨before, unreleased⟩ | ⟨rfl, rfl, granted, e, due, sent, owed⟩
  · have past : since ≤ s.worker.now := inv.told before
    have runs : s.worker.now < since + lanLeaseDuration := by omega
    rcases inv.held before runs with ⟨old, found, rfl, covers⟩ | ending
    · by_cases live : s.worker.now < old.expiry
      · have relies : s.relies cfg late m old.ip = true := by
          simp [Tracked.relies, ClientView.holds_iff.mpr ⟨since, before, runs⟩]
        obtain ⟨lease, stays, same, renewed⟩ :=
          guard.entry_persists inv.wf stepped found live relies unreleased
        exact .inl ⟨lease, stays, same, by rcases renewed with longer | full <;> omega⟩
      · exact .inr (by omega)
    · exact .inr (by omega)
  · -- the acknowledgement has just left: its entry is still in place
    have underway : (m, ip, granted) ∈ (ackLedger cfg).all s.worker :=
      (ackLedger cfg).mem_all.mpr (.inr ⟨e, due, owed⟩)
    have inTime : s.worker.now ≤ granted + late := guard e sent _ owed
    obtain ⟨lease, found, onIp, lasts⟩ := inv.entry underway inTime
    have same : t.worker.table = s.worker.table := by
      rcases stepped.table_eq with same | ⟨⟨⟩, -⟩ | ⟨_, _, ⟨⟩, -⟩
      exact same
    exact .inl ⟨lease, by rw [same, found], onIp, by omega⟩

theorem Protected.alone_step (short : late < lanLeaseDuration) (h : s.step cfg l = some t)
    (due : (m, ip, since) ∈ (ackLedger cfg).all t.worker) (fresh : t.worker.now ≤ since + late)
    (due' : (m', ip, since') ∈ (ackLedger cfg).all t.worker)
    (fresh' : t.worker.now ≤ since' + late) : m = m' := by
  have later := (Tracked.step_eq_some h).1.now_le
  -- an acknowledgement that was under way before keeps another client from a new grant
  have apart : ∀ {m m' : MacAddr} {since : Nat} {dhcp : Message}
      {confirmation : LeaseConfirmation}, Granted cfg s.worker m' dhcp confirmation →
      (m, confirmation.ip, since) ∈ (ackLedger cfg).all s.worker →
      s.worker.now ≤ since + late → m = m' := by
    intro m m' since dhcp confirmation grants before freshBefore
    obtain ⟨lease, found, onIp, lasts⟩ := inv.entry before freshBefore
    exact grants.not_taken found onIp (by omega)
  rcases inv.ack_step h due with before | ⟨order, mac, dhcp, confirmation, rfl, grants, new⟩
  · rcases inv.ack_step h due' with before' | ⟨_, _, _, _, _, grants', new'⟩
    · exact inv.alone before (Nat.le_trans later fresh) before' (Nat.le_trans later fresh')
    · cases new'
      exact apart grants' before (Nat.le_trans later fresh)
  · cases new
    rcases inv.ack_step h due' with before' | ⟨_, _, _, _, _, grants', new'⟩
    · exact (apart grants before' (Nat.le_trans later fresh')).symm
    · obtain ⟨caller, next⟩ := grants.next
      obtain ⟨caller', next'⟩ := grants'.next
      have client' := congrArg Prod.fst new'
      rw [next] at next'
      simp only [Option.some.injEq, Mail.mk.injEq,
        LeaseCommand.validateAndConfirmRequest.injEq] at next'
      exact next'.1.1.trans client'.symm

theorem Protected.ahead_step (guard : Guarded cfg late s l) (h : s.step cfg l = some t)
    (due : (m, ip, since) ∈ (ackLedger cfg).all t.worker) (fresh : t.worker.now ≤ since + late)
    (different : m' ≠ m) (told : (t.view m').lease = some (ip, since')) :
    since' + lanLeaseDuration ≤ since + arpResolutionDelay := by
  have later := (Tracked.step_eq_some h).1.now_le
  rcases inv.ack_step h due with before | ⟨order, mac, dhcp, confirmation, rfl, grants, new⟩
  · have freshBefore : s.worker.now ≤ since + late := Nat.le_trans later fresh
    rcases lease_step h told with ⟨toldBefore, -⟩ | ⟨rfl, rfl, granted, e, queued, sent, owed⟩
    · exact inv.ahead before freshBefore different toldBefore
    · -- two acknowledgements of the address under way at once
      have underway : (m', ip, granted) ∈ (ackLedger cfg).all s.worker :=
        (ackLedger cfg).mem_all.mpr (.inr ⟨e, queued, owed⟩)
      have inTime : s.worker.now ≤ granted + late := guard e sent _ owed
      exact absurd (inv.alone underway inTime before freshBefore) different
  · cases new
    rcases lease_step h told with ⟨toldBefore, -⟩ | ⟨⟨⟩, -⟩
    by_cases running : s.worker.now < since' + lanLeaseDuration
    · -- the other client's entry no longer protects its lease
      have ending : since' + lanLeaseDuration ≤ s.worker.now + late := by
        rcases inv.held toldBefore running with ⟨lease, found, onIp, covers⟩ | ending
        · by_cases live : s.worker.now < lease.expiry
          · exact absurd (grants.not_taken found onIp live) different
          · omega
        · exact ending
      obtain ⟨mail, next, request, written⟩ := grants.written
      have listed : (⟨m', s.view m'⟩ : Σ _ : MacAddr, ClientView) ∈ s.views.entries :=
        Tracked.mem_views (by rw [toldBefore]; rfl)
      have clear := (guard mail next).gap request _ written _ listed different _ toldBefore rfl
      simp only at clear
      omega
    · omega

theorem Protected.exclusive_step (guard : Guarded cfg late s l) (h : s.step cfg l = some t)
    (holds : (t.view m).holds t.worker.now ip = true)
    (holds' : (t.view m').holds t.worker.now ip = true) : m = m' := by
  have later := (Tracked.step_eq_some h).1.now_le
  -- a client that is told now finds no other holder
  have apart : ∀ {m m' : MacAddr} {granted since' : Nat} {e : Event}, e ∈ s.worker.pending →
      emitted s.worker .main = some e → (m, ip, granted) ∈ acksOwed e → Guarded cfg late s .main →
      (s.view m').lease = some (ip, since') → s.worker.now < since' + lanLeaseDuration →
      m' = m := by
    intro m m' granted since' e due sent owed guard toldBefore running
    have underway : (m, ip, granted) ∈ (ackLedger cfg).all s.worker :=
      (ackLedger cfg).mem_all.mpr (.inr ⟨e, due, owed⟩)
    have inTime : s.worker.now ≤ granted + late := guard e sent _ owed
    have waited : granted + arpResolutionDelay ≤ s.worker.now := inv.timed.pending e due _ owed
    by_contra different
    have ended := inv.ahead underway inTime different toldBefore
    omega
  obtain ⟨since, told, running⟩ := ClientView.holds_iff.mp holds
  obtain ⟨since', told', running'⟩ := ClientView.holds_iff.mp holds'
  rcases lease_step h told with ⟨before, -⟩ | ⟨rfl, rfl, granted, e, due, sent, owed⟩
  · rcases lease_step h told' with ⟨before', -⟩ | ⟨rfl, rfl, granted, e, due, sent, owed⟩
    · exact inv.exclusive (ClientView.holds_iff.mpr ⟨since, before, by omega⟩)
        (ClientView.holds_iff.mpr ⟨since', before', by omega⟩)
    · exact apart due sent owed guard before (by omega)
  · rcases lease_step h told' with ⟨before', -⟩ | ⟨-, rfl, granted', e', due', sent', owed'⟩
    · exact (apart due sent owed guard before' (by omega)).symm
    · rw [sent] at sent'
      cases sent'
      exact acksOwed_client owed owed'

end

theorem Protected.init (staticLeases : List StaticLease) :
    Protected cfg late (Tracked.init staticLeases) where
  wf := Wf.init staticLeases
  timed := (timedRule cfg).holds_init staticLeases
  granted := nofun
  told := nofun
  entry := nofun
  held := nofun
  alone := nofun
  ahead := nofun
  exclusive := nofun

theorem Protected.keep (short : late < lanLeaseDuration) :
    Inductive (Tracked.step cfg) (Guarded cfg late) (Protected cfg late) := by
  intro s l t inv guard h
  have stepped := (Tracked.step_eq_some h).1
  exact
    { wf := inv.wf.keep stepped
      timed := (timedRule cfg).keep inv.timed stepped
      granted := inv.granted_step h
      told := inv.told_step h
      entry := inv.entry_step short guard h
      held := inv.held_step guard h
      alone := inv.alone_step short h
      ahead := inv.ahead_step guard h
      exclusive := inv.exclusive_step guard h }

end

/-- In every run in which commands leave alone the entries that running leases rely on, and
acknowledgements leave the worker at most `late` after their grant, no two clients ever hold
the same address. -/
theorem leases_exclusive {staticLeases : List StaticLease} {ls : List Label} {s : Tracked}
    {m' : MacAddr} (short : late < lanLeaseDuration)
    (meets : Meets (Tracked.step cfg) (Guarded cfg late) (Tracked.init staticLeases) ls)
    (run : exec (Tracked.step cfg) (Tracked.init staticLeases) ls = some s)
    (holds : (s.view m).holds s.worker.now ip = true)
    (holds' : (s.view m').holds s.worker.now ip = true) : m = m' :=
  ((Protected.keep short).exec (Protected.init staticLeases) meets run).exclusive holds holds'

/-- Client 1 is acknowledged 192.168.1.7, client 2 is seen on 192.168.1.9 and then refused
192.168.1.7. -/
def refusedRun : List Label :=
  requestExchange 0 1 (.new 192 168 1 7) none [] [1] ++
    [Label.neighbor 2 (.new 192 168 1 9), .main, .actor ⟨[1], []⟩,
      .packet 2 (sampleMessage .request 2 (some (.new 192 168 1 7)) none)] ++
    asking 1 [1, 2] ++ sending 1

/-- The run is guarded, so client 1 is the only holder of its address. -/
theorem leases_exclusive_after_refusal :
    ∃ s, exec (Tracked.step sampleConfig) (Tracked.init []) refusedRun = some s ∧
      (s.view 1).holds s.worker.now (.new 192 168 1 7) = true ∧
      (s.view 2).holds s.worker.now (.new 192 168 1 7) = false := by
  have meets : Meets (Tracked.step sampleConfig) (Guarded sampleConfig (fromMillis 200))
      (Tracked.init []) refusedRun := by
    decide +kernel
  obtain ⟨s, run, holds⟩ : ∃ s, exec (Tracked.step sampleConfig) (Tracked.init []) refusedRun =
      some s ∧ (s.view 1).holds s.worker.now (.new 192 168 1 7) = true := by
    decide +kernel
  refine ⟨s, run, holds, ?_⟩
  by_contra holds'
  have short : fromMillis 200 < lanLeaseDuration := by decide +kernel
  have same : (1 : MacAddr) = 2 := leases_exclusive short meets run holds (by simpa using holds')
  exact absurd same (by decide)

/-- Client 1 is acknowledged 192.168.1.7 and then seen on 192.168.1.8 as well, which moves its
only entry there.  Client 2 asks for 192.168.1.7 and is acknowledged. -/
def movedRun : List Label :=
  requestExchange 0 1 (.new 192 168 1 7) none [] [1] ++
    [Label.neighbor 1 (.new 192 168 1 8), .main, .actor ⟨[1], []⟩] ++
    requestExchange 1 2 (.new 192 168 1 7) none [1] [1, 2]

/-- Both clients hold the address. -/
theorem address_leased_twice :
    ∃ s, exec (Tracked.step sampleConfig) (Tracked.init []) movedRun = some s ∧
      (s.view 1).holds s.worker.now (.new 192 168 1 7) = true ∧
      (s.view 2).holds s.worker.now (.new 192 168 1 7) = true := by
  decide +kernel

end TrimRouter.DhcpServer
