import TrimRouter.DhcpServer.PoolSearch
import TrimRouter.DhcpServer.Redemption
import TrimRouter.DhcpServer.Refusal

/-!
# Renewing a lease

A client that asks again for the address it was granted is refused only when another client has an
entry on that address, or when the reservations have changed.  Its own live entry keeps the pool and
the requests of others off the address; an offer does not look at it.  `renewal_acknowledged` is
about runs in which nobody else's entry is stored on the address.
-/

namespace TrimRouter.DhcpServer

open Run

variable {cfg : ServerConfig} {s t u grant renewal : State} {l : Label} {ls : List Label}
  {i : Nat} {m : MacAddr} {ip : Ipv4Addr} {dhcp : Message}

/-! ## A live entry and the commands of others -/

/-- The client has a live entry on the address. -/
def LeaseTable.covers (t : LeaseTable) (now : Nat) (ip : Ipv4Addr) (mac : MacAddr) : Bool :=
  (t.get mac).any fun lease => lease.holds now ip

/-- The client and the address of a `ConfirmLease`. -/
def LeaseCommand.confirms : LeaseCommand → Option (MacAddr × Ipv4Addr)
  | .confirmLease clientMac ip _ _ => some (clientMac, ip)
  | _ => none

/-- The client and the address of a neighbour report. -/
def LeaseCommand.reports : LeaseCommand → Option (MacAddr × Ipv4Addr)
  | .addNeighbor mac ip => some (mac, ip)
  | _ => none

variable {table : LeaseTable} {now : Nat} {other : MacAddr}

/-- The client's live entry is one that others see. -/
theorem taken_of_covers (covered : table.covers now ip m = true) (different : m ≠ other) :
    table.isIpTakenByOther now ip other = true := by
  obtain ⟨lease, found, holds⟩ := (Option.any_eq_true _ _).mp covered
  exact heldByOther_iff.mp ⟨m, lease, different, found, holds⟩

theorem not_candidate_of_covers {net : Ipv4Net} {serverIp : Ipv4Addr}
    (covered : table.covers now ip m = true) (different : m ≠ other) :
    (table.allocateCandidate now other net serverIp).2 ≠ some ip := by
  intro allocated
  cases reserved : table.staticLeases.lookup other with
  | none =>
    rw [LeaseTable.allocateCandidate_snd reserved, LeaseTable.findHost_eq_some_iff] at allocated
    obtain ⟨lease, found, holds⟩ := (Option.any_eq_true _ _).mp covered
    simp only [ClientLease.holds, Bool.and_eq_true, beq_iff_eq] at holds
    exact allocated.1.unleased m lease found holds.2 holds.1
  | some r =>
    simp only [LeaseTable.allocateCandidate, reserved] at allocated
    split at allocated
    · rename_i passed
      cases allocated
      simp only [Bool.and_eq_true, Bool.not_eq_true'] at passed
      rw [taken_of_covers covered different] at passed
      cases passed.2
    · cases allocated

/-- What another client can store on a covered address: an offer's entry or a report. -/
theorem written_of_covers {cmd : LeaseCommand} {stored : MacAddr × ClientLease}
    (covered : table.covers now ip m = true) (writes : cmd.written now table = some stored)
    (onIp : stored.2.ip = ip) (different : stored.1 ≠ m) :
    cmd.confirms = some (stored.1, ip) ∨ cmd.reports = some (stored.1, ip) := by
  cases cmd with
  | allocateCandidate client net serverIp =>
    obtain ⟨candidate, allocated, rfl⟩ := Option.map_eq_some_iff.mp writes
    cases onIp
    exact absurd allocated (not_candidate_of_covers covered different.symm)
  | confirmLease client confirmed duration hostname =>
    cases writes
    cases onIp
    exact .inl rfl
  | validateAndConfirmRequest client requested serverIp net duration hostname =>
    obtain ⟨conf, granted, rfl⟩ := Option.map_eq_some_iff.mp writes
    cases onIp
    have free := (LeaseTable.validateAndConfirm_granted granted).free
    rw [taken_of_covers covered different.symm] at free
    cases free
  | addNeighbor client seen =>
    simp only [LeaseCommand.written] at writes
    split at writes
    · cases writes
    · cases writes
      cases onIp
      exact .inr rfl
  | _ => cases writes

/-- The command keeps the client's right to the address. -/
structure LeaseCommand.Respects (mac : MacAddr) (ip : Ipv4Addr) (s : State) (cmd : LeaseCommand) :
    Prop where
  /-- the reservations are fixed -/
  reservations : cmd.setsReservations = false
  /-- the address is not confirmed to another client -/
  offers : ∀ confirmed ∈ cmd.confirms, confirmed.2 = ip → confirmed.1 = mac
  /-- nobody else is reported on the address -/
  reports : ∀ reported ∈ cmd.reports, reported.2 = ip → reported.1 = mac
  /-- the client's own entry is still on the address, or nobody takes it -/
  covered : s.table.covers s.now ip mac = true ∨
    ∀ stored ∈ cmd.written s.now s.table, stored.2.ip = ip → stored.1 = mac

instance (cmd : LeaseCommand) : Decidable (cmd.Respects m ip s) :=
  -- clients and addresses are finite types too, but far too large to search
  have : Decidable (∀ confirmed ∈ cmd.confirms, confirmed.2 = ip → confirmed.1 = m) :=
    Option.decidableForallMem _
  have : Decidable (∀ reported ∈ cmd.reports, reported.2 = ip → reported.1 = m) :=
    Option.decidableForallMem _
  decidable_of_iff (_ ∧ _ ∧ _ ∧ _)
    ⟨fun ⟨a, b, c, d⟩ => ⟨a, b, c, d⟩, fun ⟨a, b, c, d⟩ => ⟨a, b, c, d⟩⟩

/-- The step keeps the client's right to the address. -/
def Respects (mac : MacAddr) (ip : Ipv4Addr) (s : State) : Label → Prop
  | .actor _ => ∀ mail ∈ s.nextMail, mail.cmd.Respects mac ip s
  | _ => True

instance (l : Label) : Decidable (Respects m ip s l) := by
  apply @Label.casesOn _ l
  case actor => exact fun _ => inferInstanceAs (Decidable (∀ mail ∈ s.nextMail, _))
  all_goals intros; exact .isTrue trivial

theorem Respects.storesNoOther (respects : Respects m ip s l) : StoresNoOther m ip s l := by
  cases l with
  | actor order =>
    intro mail next stored writes onIp
    obtain ⟨-, offers, reports, covered | alone⟩ := respects mail next
    · by_contra different
      rcases written_of_covers covered writes onIp different with offered | reported
      · exact different (offers _ offered rfl)
      · exact different (reports _ reported rfl)
    · exact alone stored writes onIp
  | _ => trivial

theorem Respects.reservationRefuses (h : Step cfg s l t) (respects : Respects m ip s l) :
    t.table.reservationRefuses m ip = s.table.reservationRefuses m ip := by
  rcases h.table_eq with same | ⟨-, evicted⟩ | ⟨order, mail, rfl, next, -, handled⟩
  · rw [same]
  · rw [evicted]
    rfl
  · have fixed : t.table.staticLeases = s.table.staticLeases ∧
        t.table.reservedIps = s.table.reservedIps := by
      rw [handled]
      exact handleLeaseCommand_reservations (respects mail next).reservations
    simp only [LeaseTable.reservationRefuses, fixed.1, fixed.2]

/-- An address that the client may have stays one that it may have. -/
theorem Redeemable.step (redeemable : Redeemable cfg s m ip) (h : Step cfg s l t)
    (respects : Respects m ip s l) : Redeemable cfg t m ip where
  host := redeemable.host
  reserved := (respects.reservationRefuses h).trans redeemable.reserved
  free := fun held => redeemable.free (HeldByOther.step h respects.storesNoOther held)

/-! ## From one acknowledgement to the next -/

/-- A client is granted an address in `grant`, with the acknowledgement leaving the worker in the
steps `ls` that follow, and asks for the address again, in task `i`, less than a lease time after
the acknowledgement: in `renewal` the lease actor is about to handle that request, and `u` is the
worker after it. -/
structure Renews (cfg : ServerConfig) (mac : MacAddr) (ip : Ipv4Addr) (dhcp : Message)
    (grant : State) (order : IterOrder) (ls : List Label) (renewal : State) (i : Nat) (u : State) :
    Prop where
  reached : ∃ staticLeases before, exec (step cfg) (State.init staticLeases) before = some grant
  granted : ∃ first conf, Granted cfg grant mac first conf ∧ conf.ip = ip
  run : exec (step cfg) grant (.actor order :: ls) = some renewal
  acked : ∃ before after sent event, ls = before ++ .main :: after ∧
    exec (step cfg) grant (.actor order :: before) = some sent ∧
    emitted sent .main = some event ∧ (mac, ip, grant.now) ∈ acksOwed event ∧
    renewal.now < sent.now + lanLeaseDuration
  asks : requestedIp dhcp = some ip
  waiting : renewal.tasks[i]? = some ⟨mac, dhcp, .reply .gotConfirmation⟩
  next : ∃ cmd, renewal.nextMail = some ⟨cmd, .task i⟩
  handled : ∃ order, step cfg renewal (.actor order) = some u

namespace Renews

variable {order : IterOrder}

theorem validates (r : Renews cfg m ip dhcp grant order ls renewal i u) :
    Validates cfg renewal i m dhcp u := by
  obtain ⟨staticLeases, before, reached⟩ := r.reached
  exact ⟨((Wf.init staticLeases).exec reached).exec r.run, r.waiting, r.next, r.handled⟩

/-- The grant itself leaves the client with the right to the address. -/
theorem redeemable (r : Renews cfg m ip dhcp grant order ls renewal i u)
    (steps : Meets (step cfg) (Respects m ip) grant (.actor order :: ls)) :
    Redeemable cfg renewal m ip := by
  obtain ⟨first, conf, ⟨-, granted⟩, rfl⟩ := r.granted
  have confirms := LeaseTable.validateAndConfirm_granted granted
  have start : Redeemable cfg grant m conf.ip := by
    refine ⟨confirms.host, confirms.unreserved, ?_⟩
    rw [heldByOther_iff, confirms.free]
    exact Bool.false_ne_true
  have keep : Inductive (step cfg) (Respects m conf.ip) (fun s => Redeemable cfg s m conf.ip) :=
    fun s l t redeemable respects taken => redeemable.step (.of_step taken) respects
  exact keep.exec start steps r.run

end Renews

/-- In every run in which, since the grant of its last acknowledgement, the reservations have not
changed, the address has not been confirmed to another client, nobody else has been reported on
it and it was not taken while the client's own entry was gone: the client's renewal is
acknowledged. -/
theorem renewal_acknowledged {order : IterOrder}
    (r : Renews cfg m ip dhcp grant order ls renewal i u)
    (steps : Meets (step cfg) (Respects m ip) grant (.actor order :: ls)) :
    Acknowledged cfg m ip dhcp i u :=
  acknowledged_of_redeemable r.validates r.asks (r.redeemable steps)

/-! ## Renewing an address that another client had before -/

/-- Client 1 asks for 192.168.1.50. -/
def renewalRequest : Message := claimRequest

/-- Client 2 was acknowledged 192.168.1.50 an hour ago and its entry has just expired.  Client 1
asks for the address, up to the grant. -/
def formerLease : List Label :=
  requestExchange 0 2 (.new 192 168 1 50) none [] [2] ++
    [Label.advance (fromSecs 3599), .cleanupTick, .advance (fromMillis 900),
      .packet 1 (some renewalRequest), .task 1]

/-- From the grant of client 1 up to its acknowledgement. -/
def newLease : List Label :=
  sending 1 ++ [Label.advance arpResolutionDelay, .task 1] ++ asking 1 [2, 1] ++
    [Label.task 1, .takeEvent]

/-- Client 1 renews after half an hour. -/
def renewing (i : Nat) : List Label :=
  [.advance (fromSecs 1800), .packet 1 (some renewalRequest), .task i]

/-- Client 2 asks for an address, and is offered the one of its old entry. -/
def formerReturns : List Label :=
  [Label.packet 2 (sampleMessage .discover 2 none none)] ++ asking 2 [2, 1] ++ asking 2 [2, 1] ++
    sending 2

/-- The steps since the grant, with those of others after the acknowledgement. -/
def renewalSteps (others : List Label) (i : Nat) : List Label :=
  newLease ++ .main :: (others ++ renewing i)

/-- Decide a run in which client 1 renews in task `i`. -/
def renewsAfter (others : List Label) (i : Nat) (check : State → State → Bool) : Bool :=
  (exec (step sampleConfig) (State.init []) formerLease).any fun grant =>
    (grant.nextMail.any fun mail => decide (mail.cmd =
      .validateAndConfirmRequest 1 (requestedIp renewalRequest) sampleConfig.serverIp
        sampleConfig.net lanLeaseDuration (extractSanitizedHostname renewalRequest))) &&
    ((grant.confirmation sampleConfig 1 renewalRequest).any fun conf =>
      decide (conf.ip = .new 192 168 1 50)) &&
    (exec (step sampleConfig) grant (.actor ⟨[2], []⟩ :: newLease)).any fun sent =>
      ((emitted sent .main).any fun event =>
        decide ((1, .new 192 168 1 50, grant.now) ∈ acksOwed event)) &&
      (exec (step sampleConfig) sent (.main :: (others ++ renewing i))).any fun renewal =>
        decide (renewal.now < sent.now + lanLeaseDuration) &&
        decide (renewal.tasks[i]? = some ⟨1, renewalRequest, .reply .gotConfirmation⟩) &&
        (renewal.nextMail.any fun mail => mail.caller == .task i) &&
        (step sampleConfig renewal (.actor ⟨[2, 1], []⟩)).any (check grant)

theorem renews_of_renewsAfter {others : List Label} {check : State → State → Bool}
    (found : renewsAfter others i check = true) :
    ∃ grant renewal u, Renews sampleConfig 1 (.new 192 168 1 50) renewalRequest grant ⟨[2], []⟩
      (renewalSteps others i) renewal i u ∧ check grant u = true := by
  simp only [renewsAfter, Option.any_eq_true, Bool.and_eq_true, decide_eq_true_eq,
    beq_iff_eq] at found
  obtain ⟨grant, reached, ⟨⟨⟨_, caller⟩, next, rfl⟩, conf, granted, onIp⟩, sent, before,
    ⟨event, leaves, acks⟩, renewal, after, ⟨⟨inTime, waiting⟩, ⟨cmd, _⟩, asks, rfl⟩, u, handled,
    checked⟩ := found
  refine ⟨grant, renewal, u, ?_, checked⟩
  have run : exec (step sampleConfig) grant
      ((.actor ⟨[2], []⟩ :: newLease) ++ .main :: (others ++ renewing i)) = some renewal := by
    rw [exec_append, before]
    exact after
  exact {
    reached := ⟨_, _, reached⟩
    granted := ⟨_, conf, ⟨⟨caller, next⟩, granted⟩, onIp⟩
    run := run
    acked := ⟨newLease, _, sent, event, rfl, before, leaves, acks, inTime⟩
    asks := rfl
    waiting := waiting
    next := ⟨cmd, asks⟩
    handled := ⟨_, handled⟩ }

/-- If client 2 stays away, client 1 renews its lease. -/
theorem renewal_acknowledged_alone :
    ∃ grant renewal u, Renews sampleConfig 1 (.new 192 168 1 50) renewalRequest grant ⟨[2], []⟩
        (renewalSteps [] 2) renewal 2 u ∧
      Acknowledged sampleConfig 1 (.new 192 168 1 50) renewalRequest 2 u := by
  have found : renewsAfter [] 2 (fun grant _ =>
      decide (Meets (step sampleConfig) (Respects 1 (.new 192 168 1 50)) grant
        (.actor ⟨[2], []⟩ :: renewalSteps [] 2))) = true := by
    decide +kernel
  obtain ⟨grant, renewal, u, renews, steps⟩ := renews_of_renewsAfter found
  exact ⟨grant, renewal, u, renews, renewal_acknowledged renews (of_decide_eq_true steps)⟩

/-- Client 2 sends a DISCOVER: its expired entry is still there, so that it is offered the address
that client 1 has just been acknowledged, and client 1 is refused when it renews. -/
theorem renewal_refused :
    ∃ grant renewal u, Renews sampleConfig 1 (.new 192 168 1 50) renewalRequest grant ⟨[2], []⟩
        (renewalSteps formerReturns 3) renewal 3 u ∧ u.answer 3 = some (.sendNak 1 1) := by
  have found : renewsAfter formerReturns 3 (fun _ u =>
      decide (u.answer 3 = some (.sendNak 1 1))) = true := by
    decide +kernel
  obtain ⟨grant, renewal, u, renews, refused⟩ := renews_of_renewsAfter found
  exact ⟨grant, renewal, u, renews, of_decide_eq_true refused⟩

end TrimRouter.DhcpServer
