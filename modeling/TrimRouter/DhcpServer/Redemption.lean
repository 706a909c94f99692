import TrimRouter.DhcpServer.AckIsolation
import TrimRouter.DhcpServer.Exchange

/-!
# Whether an offer can be redeemed

A DISCOVER is answered from the client's reservation, from its entry or from the pool, a REQUEST
only after `validate_and_confirm` has checked the address.  The two do not ask for the same.
`offer_redeemed_iff` says when an offer is good for its request.
-/

namespace TrimRouter.DhcpServer

open Run

variable {cfg : ServerConfig} {s t u offer request : State} {l : Label} {ls : List Label}
  {i : Nat} {m : MacAddr} {ip : Ipv4Addr} {dhcp : Message}

/-! ## What a request has to pass -/

/-- The address passes the checks of a request of the client. -/
structure Redeemable (cfg : ServerConfig) (s : State) (mac : MacAddr) (ip : Ipv4Addr) : Prop where
  /-- it is a client address of the LAN -/
  host : ip ≠ cfg.serverIp ∧ ip ≠ cfg.net.network ∧ ip ≠ cfg.net.broadcast ∧
    cfg.net.contains ip = true
  /-- it is the client's own reserved address, or neither of the two has a reservation -/
  reserved : s.table.reservationRefuses mac ip = false
  /-- no other client has a live entry on it -/
  free : ¬ s.table.HeldByOther s.now ip mac

theorem heldByOther_iff {table : LeaseTable} {now : Nat} :
    table.HeldByOther now ip m ↔ table.isIpTakenByOther now ip m = true := by
  rw [LeaseTable.isIpTakenByOther_iff]
  simp [LeaseTable.HeldByOther, ClientLease.holds]

/-- A request for an address is granted exactly when the address passes the checks. -/
theorem confirmation_isSome_iff (asks : requestedIp dhcp = some ip) :
    (s.confirmation cfg m dhcp).isSome = true ↔ Redeemable cfg s m ip := by
  unfold State.confirmation LeaseTable.validateAndConfirm
  rw [asks]
  simp only [Option.some_or]
  constructor
  · intro granted
    split at granted
    · cases granted
    · rename_i passed
      split at granted
      · cases granted
      · rename_i unreserved
        simp only [Bool.or_eq_true, beq_iff_eq, Bool.not_eq_true', not_or, Bool.not_eq_true,
          Bool.not_eq_false] at passed unreserved
        obtain ⟨⟨⟨⟨notServer, notNetwork⟩, notBroadcast⟩, inside⟩, untaken⟩ := passed
        refine ⟨⟨notServer, notNetwork, notBroadcast, inside⟩, unreserved, ?_⟩
        rw [heldByOther_iff, untaken]
        exact Bool.false_ne_true
  · rintro ⟨⟨notServer, notNetwork, notBroadcast, inside⟩, unreserved, free⟩
    rw [heldByOther_iff, Bool.not_eq_true] at free
    simp [notServer, notNetwork, notBroadcast, inside, unreserved, free]

theorem confirmation_ip {conf : LeaseConfirmation} (asks : requestedIp dhcp = some ip)
    (granted : s.confirmation cfg m dhcp = some conf) : conf.ip = ip := by
  have target := (LeaseTable.validateAndConfirm_granted granted).target
  rw [asks, Option.some_or] at target
  exact (Option.some.inj target).symm

/-! ## An address that nobody else holds -/

/-- The step stores no other client's entry on the address. -/
def StoresNoOther (mac : MacAddr) (ip : Ipv4Addr) (s : State) : Label → Prop
  | .actor _ => ∀ mail ∈ s.nextMail, ∀ stored ∈ mail.cmd.written s.now s.table,
      stored.2.ip = ip → stored.1 = mac
  | _ => True

instance (l : Label) : Decidable (StoresNoOther m ip s l) := by
  apply @Label.casesOn _ l
  case actor => exact fun _ => inferInstanceAs (Decidable (∀ mail ∈ s.nextMail, _))
  all_goals intros; exact .isTrue trivial

theorem HeldByOther.step (h : Step cfg s l t) (alone : StoresNoOther m ip s l)
    (held : t.table.HeldByOther t.now ip m) : s.table.HeldByOther s.now ip m := by
  obtain ⟨other, lease, different, found, holds⟩ := held
  simp only [ClientLease.holds, Bool.and_eq_true, beq_iff_eq, ClientLease.isLive_iff] at holds
  obtain ⟨onIp, live⟩ := holds
  rcases h.get_table found with before | ⟨order, mail, rfl, next, written⟩
  · refine ⟨other, lease, different, before, ?_⟩
    simp only [ClientLease.holds, Bool.and_eq_true, beq_iff_eq, ClientLease.isLive_iff]
    exact ⟨onIp, Nat.lt_of_le_of_lt h.now_le live⟩
  · exact absurd (alone mail next _ written onIp) different

/-- The check finds nobody else on an address that nobody else holds. -/
theorem not_findsOther (h : Step cfg s l t) (free : ¬ s.table.HeldByOther s.now ip m) :
    ¬ FindsOther i m ip s l := by
  rintro ⟨order, holder, rfl, next, first, different⟩
  obtain ⟨lease, found, holds⟩ := LeaseTable.getMacByIp_eq_some (h.of_actor next).1 first
  exact free ⟨holder, lease, different, found, holds⟩

/-- As long as nobody else's entry is stored on a free address, no check finds anybody. -/
theorem findsNobody (free : ¬ s.table.HeldByOther s.now ip m)
    (run : exec (step cfg) s ls = some t)
    (alone : Meets (step cfg) (StoresNoOther m ip) s ls) :
    Meets (step cfg) (fun s l => ¬ FindsOther i m ip s l) s ls ∧
      ¬ t.table.HeldByOther t.now ip m := by
  induction ls generalizing s with
  | nil =>
    cases run
    exact ⟨trivial, free⟩
  | cons l ls ih =>
    obtain ⟨r, first, rest⟩ := exec_cons_eq_some.mp run
    have stepped := Step.of_step first
    have still : ¬ r.table.HeldByOther r.now ip m := fun held =>
      free (HeldByOther.step stepped alone.1 held)
    obtain ⟨clear, free'⟩ := ih still rest (alone.2 r first)
    refine ⟨⟨not_findsOther stepped free, ?_⟩, free'⟩
    intro r' taken
    cases first.symm.trans taken
    exact clear

/-! ## An offer and the request that follows it -/

/-- The lease actor handles a command or evicts the expired entries. -/
def Label.handles : Label → Bool
  | .actor _ | .cleanupTick => true
  | _ => false

/-- A DISCOVER of the client leads to the offer of an address, and the next command is the
client's request for it: in `offer` the lease actor is about to handle the `ConfirmLease` that
`handle_dhcp_discover` sends before its `SendOffer`, in `request` the next command, which is the
request of task `i`, and `u` is the worker after that. -/
structure Redeems (cfg : ServerConfig) (mac : MacAddr) (ip : Ipv4Addr) (dhcp : Message)
    (offer request : State) (i : Nat) (u : State) : Prop where
  reached : ∃ staticLeases ls, exec (step cfg) (State.init staticLeases) ls = some offer
  confirms : ∃ hostname,
    offer.nextMail = some ⟨.confirmLease mac ip lanLeaseDuration hostname, .nobody⟩
  nextCommand : ∃ order ls, exec (step cfg) offer (.actor order :: ls) = some request ∧
    ∀ l ∈ ls, l.handles = false
  /-- no entry expires between the offer and the request -/
  unexpired : ∀ other lease, offer.table.get other = some lease → offer.now < lease.expiry →
    request.now < lease.expiry
  asks : requestedIp dhcp = some ip
  waiting : request.tasks[i]? = some ⟨mac, dhcp, .reply .gotConfirmation⟩
  next : ∃ cmd, request.nextMail = some ⟨cmd, .task i⟩
  handled : ∃ order, step cfg request (.actor order) = some u

theorem table_of_quiet (quiet : ∀ l ∈ ls, l.handles = false)
    (run : exec (step cfg) s ls = some t) : t.table = s.table := by
  have keep : Inductive (step cfg) (fun _ l => l.handles = false)
      (fun t => t.table = s.table) := by
    intro r l t same quiet h
    rcases (Step.of_step h).table_eq with kept | ⟨rfl, -⟩ | ⟨order, mail, rfl, -⟩
    · exact kept.trans same
    · cases quiet
    · cases quiet
  exact keep.exec rfl ((meets_labels run).mpr quiet) run

theorem now_le_of_exec (run : exec (step cfg) s ls = some t) : s.now ≤ t.now := by
  refine exec_keeps (fun t => s.now ≤ t.now) ?_ (Nat.le_refl _) run
  intro r l t earlier h
  exact earlier.trans (Step.of_step h).now_le

namespace Redeems

theorem validates (r : Redeems cfg m ip dhcp offer request i u) :
    Validates cfg request i m dhcp u := by
  obtain ⟨staticLeases, ls, reached⟩ := r.reached
  obtain ⟨order, ms, run, -⟩ := r.nextCommand
  exact ⟨((Wf.init staticLeases).exec reached).exec run, r.waiting, r.next, r.handled⟩

/-- The request meets the table that the offer has left: the offer has stored the client's own
entry only. -/
theorem table (r : Redeems cfg m ip dhcp offer request i u) :
    (∀ other, other ≠ m → request.table.get other = offer.table.get other) ∧
      request.table.staticLeases = offer.table.staticLeases ∧
      request.table.reservedIps = offer.table.reservedIps := by
  obtain ⟨hostname, next⟩ := r.confirms
  obtain ⟨order, ls, run, quiet⟩ := r.nextCommand
  obtain ⟨after, first, rest⟩ := exec_cons_eq_some.mp run
  have stored : request.table = offer.table.insert m ⟨ip, offer.now + lanLeaseDuration, hostname⟩ :=
    (table_of_quiet quiet rest).trans ((Step.of_step first).table_of_actor next)
  rw [stored]
  exact ⟨fun other different => LeaseTable.get_insert.trans (if_neg different), rfl, rfl⟩

/-- The checks of the request have the outcome that they would have had at the offer. -/
theorem redeemable_iff (r : Redeems cfg m ip dhcp offer request i u) :
    Redeemable cfg request m ip ↔ Redeemable cfg offer m ip := by
  obtain ⟨entries, reservations, reservedIps⟩ := r.table
  obtain ⟨order, ls, run, -⟩ := r.nextCommand
  have later := now_le_of_exec run
  have reserved : request.table.reservationRefuses m ip = offer.table.reservationRefuses m ip := by
    simp only [LeaseTable.reservationRefuses, reservations, reservedIps]
  have held : request.table.HeldByOther request.now ip m ↔
      offer.table.HeldByOther offer.now ip m := by
    simp only [LeaseTable.HeldByOther, ClientLease.holds, Bool.and_eq_true, beq_iff_eq,
      ClientLease.isLive_iff]
    constructor
    · rintro ⟨other, lease, different, found, onIp, live⟩
      exact ⟨other, lease, different, entries other different ▸ found, onIp, by omega⟩
    · rintro ⟨other, lease, different, found, onIp, live⟩
      exact ⟨other, lease, different, (entries other different).trans found, onIp,
        r.unexpired other lease found live⟩
  constructor
  · rintro ⟨host, refuses, free⟩
    exact ⟨host, reserved ▸ refuses, fun taken => free (held.mpr taken)⟩
  · rintro ⟨host, refuses, free⟩
    exact ⟨host, reserved.trans refuses, fun taken => free (held.mp taken)⟩

end Redeems

/-- The request of task `i` is acknowledged: nothing else is its answer, as long as nobody else's
entry is stored on the address, and a worker with nothing else to do gets to the answer. -/
structure Acknowledged (cfg : ServerConfig) (mac : MacAddr) (ip : Ipv4Addr) (dhcp : Message)
    (i : Nat) (u : State) : Prop where
  only : ∀ ls t msg, exec (step cfg) u ls = some t →
    Meets (step cfg) (StoresNoOther mac ip) u ls → t.answer i = some msg →
    msg = .sendAck mac dhcp.xid ip dhcp.broadcast
  reached : u.mailbox.items = [] → u.events.items.length < 32 →
    ∃ ls t, exec (step cfg) u ls = some t ∧ Meets (step cfg) (StoresNoOther mac ip) u ls ∧
      t.answer i = some (.sendAck mac dhcp.xid ip dhcp.broadcast)

/-- A granted request for an address that nobody else holds is acknowledged. -/
theorem acknowledged_of_granted {conf : LeaseConfirmation} (asked : Validates cfg s i m dhcp u)
    (granted : s.confirmation cfg m dhcp = some conf)
    (free : ¬ u.table.HeldByOther u.now conf.ip m) : Acknowledged cfg m conf.ip dhcp i u := by
  constructor
  · intro ls t msg run alone answers
    rcases granted_answer asked granted run answers with ⟨-, acknowledges⟩ | ⟨conflict, -⟩
    · exact acknowledges
    · exact absurd (findsNobody free run alone).1 conflict
  · intro empty room
    obtain ⟨v, run, next, waits⟩ := asked.check_reached granted empty room
    have passive : Meets (step cfg) (StoresNoOther m conf.ip) u
        [.task i, .advance arpResolutionDelay, .task i, .task i] := by
      simp [StoresNoOther]
    obtain ⟨-, stillFree⟩ := findsNobody (i := i) free run passive
    obtain ⟨order, t, checks⟩ := exists_step_actor cfg next
    have stepped := Step.of_step checks
    refine ⟨_ ++ [.actor order], t, by rw [exec_append, run]; simp [checks], ?_, ?_⟩
    · rw [meets_append run]
      refine ⟨passive, ⟨fun mail isNext stored writes => ?_, fun _ _ => trivial⟩⟩
      cases next.symm.trans isNext
      cases writes
    · rcases stepped.taskMove (asked.wf_after.exec run) waits with ⟨-, silent⟩ | ⟨pc, goes, move⟩
      · exact absurd ⟨order, _, rfl, next⟩ silent
      · cases move with
        | called own | resumed own => cases own
        | replied actor visits next' atReply =>
          cases actor
          cases atReply
          cases next.symm.trans next'
          have clear : ¬ ∃ holder,
              v.table.getMacByIp v.now order conf.ip = some holder ∧ holder ≠ m := by
            rintro ⟨holder, first, different⟩
            exact not_findsOther (i := i) stepped stillFree
              ⟨order, holder, rfl, next, first, different⟩
          rw [State.answer, goes, proceed_checkedGrant, if_neg clear]
          rfl

/-- A request for an address that passes the checks is acknowledged. -/
theorem acknowledged_of_redeemable (asked : Validates cfg s i m dhcp u)
    (asks : requestedIp dhcp = some ip) (redeemable : Redeemable cfg s m ip) :
    Acknowledged cfg m ip dhcp i u := by
  have isGranted := (confirmation_isSome_iff asks).mpr redeemable
  obtain ⟨conf, granted⟩ := Option.isSome_iff_exists.mp isGranted
  cases confirmation_ip asks granted
  refine acknowledged_of_granted asked granted fun held => ?_
  -- the validation has stored the client's own entry only
  obtain ⟨order, handled⟩ := asked.stepped
  refine redeemable.free (HeldByOther.step handled ?_ held)
  intro mail isNext stored writes onIp
  cases asked.mail.symm.trans isNext
  obtain ⟨conf', -, rfl⟩ := Option.map_eq_some_iff.mp writes
  rfl

/-- In every reachable state: when a DISCOVER leads to an offer, the request that follows as the
next command is acknowledged exactly when the offered address is a client address of the LAN,
the client's own reserved address if one of the two has a reservation, and on no live entry of
another client. -/
theorem offer_redeemed_iff (r : Redeems cfg m ip dhcp offer request i u) :
    Acknowledged cfg m ip dhcp i u ↔ Redeemable cfg offer m ip := by
  have asked := r.validates
  rw [← r.redeemable_iff, ← confirmation_isSome_iff r.asks]
  constructor
  · intro acknowledged
    by_contra refused
    rw [Bool.not_eq_true, Option.isSome_eq_false_iff, Option.isNone_iff_eq_none] at refused
    have task := asked.task
    rw [refused] at task
    have answers : u.answer i = some (.sendNak m dhcp.xid) := by
      rw [State.answer, task]
      rfl
    cases acknowledged.only [] u _ exec_nil trivial answers
  · intro isGranted
    exact acknowledged_of_redeemable asked r.asks ((confirmation_isSome_iff r.asks).mp isGranted)

/-! ## A reserved address offered to its client and to another one -/

/-- A client asks for the printer's address. -/
def printerRequest (client : BitVec 8) : Message :=
  (sampleMessage .request client (some printerReservation.ip) none).get rfl

/-- A client's DISCOVER, up to the `ConfirmLease`. -/
def printerDiscover (client : BitVec 8) (entries : List MacAddr) : List Label :=
  [.packet (client.setWidth 48) (sampleMessage .discover client none none), .task 0,
    .actor ⟨entries, [1]⟩, .task 0]

/-- The offer is sent and the client's request arrives. -/
def printerOffered (client : BitVec 8) : List Label :=
  sending 0 ++ [Label.packet (client.setWidth 48) (some (printerRequest client)), .task 1]

/-- Decide a run that leads to an offer of the printer's address to a client, and on to the
client's request for it. -/
def offersPrinter (client : BitVec 8) (before : List Label) (entries entries' : List MacAddr)
    (check : State → State → Bool) : Bool :=
  (exec (step sampleConfig) (State.init [printerReservation]) before).any fun offer =>
    (offer.nextMail == some ⟨.confirmLease (client.setWidth 48) printerReservation.ip
      lanLeaseDuration none, .nobody⟩) &&
    (exec (step sampleConfig) offer (.actor ⟨entries, [1]⟩ :: printerOffered client)).any
      fun request => decide (request.now = offer.now) &&
        decide (request.tasks[1]? =
          some ⟨client.setWidth 48, printerRequest client, .reply .gotConfirmation⟩) &&
        (request.nextMail.any fun mail => mail.caller == .task 1) &&
        (step sampleConfig request (.actor ⟨entries', [1]⟩)).any (check offer)

theorem redeems_of_offersPrinter {client : BitVec 8} {before : List Label}
    {entries entries' : List MacAddr} {check : State → State → Bool}
    (found : offersPrinter client before entries entries' check = true) :
    ∃ offer request u, Redeems sampleConfig (client.setWidth 48) printerReservation.ip
      (printerRequest client) offer request 1 u ∧ check offer u = true := by
  simp only [offersPrinter, Option.any_eq_true, Bool.and_eq_true, decide_eq_true_eq,
    beq_iff_eq] at found
  obtain ⟨offer, reached, confirms, request, run, ⟨⟨sameNow, waiting⟩, ⟨cmd, caller⟩, next, rfl⟩,
    u, handled, checked⟩ := found
  refine ⟨offer, request, u, ?_, checked⟩
  exact {
    reached := ⟨_, _, reached⟩
    confirms := ⟨none, confirms⟩
    nextCommand := ⟨_, _, run, by simp [printerOffered, sending, Label.handles]⟩
    unexpired := fun other lease found live => sameNow ▸ live
    asks := rfl
    waiting := waiting
    next := ⟨cmd, next⟩
    handled := ⟨_, handled⟩ }

/-- The printer itself is offered its address and acknowledged. -/
theorem printer_redeems_offer :
    ∃ offer request u, Redeems sampleConfig 1 printerReservation.ip (printerRequest 1) offer
        request 1 u ∧ Acknowledged sampleConfig 1 printerReservation.ip (printerRequest 1) 1 u := by
  have found : offersPrinter 1 (printerDiscover 1 []) [] [1] (fun offer _ =>
      !offer.table.reservationRefuses 1 printerReservation.ip &&
        !offer.table.isIpTakenByOther offer.now printerReservation.ip 1) = true := by
    decide +kernel
  obtain ⟨offer, request, u, redeems, checked⟩ := redeems_of_offersPrinter found
  simp only [Bool.and_eq_true, Bool.not_eq_true'] at checked
  refine ⟨offer, request, u, redeems, (offer_redeemed_iff redeems).mpr ⟨?_, checked.1, ?_⟩⟩
  · decide +kernel
  · intro held
    have taken : offer.table.isIpTakenByOther offer.now printerReservation.ip 1 = true :=
      heldByOther_iff.mp held
    rw [checked.2] at taken
    cases taken

/-- Client 2 has been seen on the printer's address.  It is offered that address, asks for it and
is refused. -/
theorem offer_not_redeemed :
    ∃ offer request u, Redeems sampleConfig 2 printerReservation.ip (printerRequest 2) offer
        request 1 u ∧ u.answer 1 = some (.sendNak 2 1) := by
  have found : offersPrinter 2 ([Label.neighbor 2 printerReservation.ip, .main, .actor ⟨[], [1]⟩] ++
      printerDiscover 2 [2]) [2] [2] (fun _ u => decide (u.answer 1 = some (.sendNak 2 1))) =
        true := by
    decide +kernel
  obtain ⟨offer, request, u, redeems, checked⟩ := redeems_of_offersPrinter found
  exact ⟨offer, request, u, redeems, of_decide_eq_true checked⟩

end TrimRouter.DhcpServer
