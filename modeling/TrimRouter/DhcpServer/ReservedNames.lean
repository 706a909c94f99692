import TrimRouter.DhcpServer.AckIsolation
import TrimRouter.DhcpServer.NameUpdates

/-!
# Registrations of reserved names

`router` stands for the router and the name of a reservation for its client, whether or not the
client has a lease.  The name of a client without a reserved name is what the client sends in Option
12, and the one test it has to pass is `is_hostname_taken_by_other`, which looks at the current
leases: it does not know the router's name, nor a reserved name whose client is away.
`reserved_names_kept` is about runs without a request for such a name.
-/

namespace TrimRouter.DhcpServer

open Run Lan

variable {cfg : ServerConfig} {staticLeases : List StaticLease} {l : Label} {m : MacAddr}
  {name : String} {ip : Ipv4Addr}

/-- The registration leaves the router's name alone and gives a reserved name its address. -/
structure Respected (staticLeases : List StaticLease) (name : String) (ip : Ipv4Addr) :
    Prop where
  notRouter : name ≠ routerHostname
  reservation : ∀ r ∈ staticLeases, r.hostname = some name → ip = r.ip

/-- The router's name or the name of a reservation. -/
def isProtected (staticLeases : List StaticLease) (name : String) : Bool :=
  name == routerHostname || staticLeases.any fun r => r.hostname == some name

/-- The name that a client without a reserved name asks for in a DHCPREQUEST. -/
def LeaseCommand.askedName (staticLeases : List StaticLease) :
    LeaseCommand → Option (MacAddr × String)
  | .validateAndConfirmRequest mac _ _ _ _ requestedHostname =>
    match (reservationOf staticLeases mac).bind StaticLease.hostname with
    | some _ => none
    | none => requestedHostname.map (mac, ·)
  | _ => none

/-- The reservations stay as they are, and a client asks for a protected name only while
another client's live entry carries it. -/
def NamesRespected (staticLeases : List StaticLease) (s : State) (l : Label) : Prop :=
  l.setsReservations = false ∧
    match l with
    | .actor _ => ∀ mail ∈ s.nextMail, ∀ asked ∈ mail.cmd.askedName staticLeases,
        isProtected staticLeases asked.2 = true →
          s.table.isHostnameTakenByOther s.now asked.2 asked.1 = true
    | _ => True

instance (s : State) (l : Label) : Decidable (NamesRespected staticLeases s l) := by
  apply @Label.casesOn _ l
  case actor => exact fun _ => inferInstanceAs (Decidable (_ ∧ ∀ mail ∈ s.nextMail, _))
  all_goals intros; exact inferInstanceAs (Decidable (_ ∧ True))

theorem respected_of_unprotected (free : isProtected staticLeases name = false) :
    Respected staticLeases name ip := by
  simp only [isProtected, Bool.or_eq_false_iff, beq_eq_false_iff_ne, List.any_eq_false,
    beq_iff_eq] at free
  exact ⟨free.1, fun r listed named => absurd named (free.2 r listed)⟩

/-- A client with a reserved name registers it on its reserved address. -/
theorem respected_of_reservation {own : StaticLease} (valid : ValidReservations staticLeases)
    (isolated : Isolated cfg staticLeases m ip) (found : reservationOf staticLeases m = some own)
    (named : own.hostname = some name) : Respected staticLeases name ip := by
  obtain ⟨listed, -⟩ := mem_of_reservationOf found
  constructor
  · rintro rfl
    exact valid.notRouter (List.mem_filterMap.mpr ⟨own, listed, named⟩)
  · intro r listed' named'
    rw [valid.eq_of_hostname listed' listed named' named]
    exact isolated.reservation own found

/-- A granted request registers an admissible name, unless the client asks for a protected name
that no other live entry carries. -/
theorem respected_of_granted {s : State} {order : IterOrder} {dhcp : Message}
    {confirmation : LeaseConfirmation} (valid : ValidReservations staticLeases)
    (reserved : Reserved staticLeases s) (asks : NamesRespected staticLeases s (.actor order))
    (grants : Granted cfg s m dhcp confirmation) (named : confirmation.hostname = some name) :
    Respected staticLeases name confirmation.ip := by
  obtain ⟨caller, next⟩ := grants.next
  rw [(LeaseTable.validateAndConfirm_granted grants.granted).named, reserved.byMac m,
    Option.filter_eq_some_iff] at named
  obtain ⟨target, untaken⟩ := named
  cases own : (reservationOf staticLeases m).bind StaticLease.hostname with
  | some reservedName =>
    rw [own] at target
    cases target
    obtain ⟨r, found, carries⟩ := Option.bind_eq_some_iff.mp own
    exact respected_of_reservation valid (isolated_of_granted reserved grants) found carries
  | none =>
    rw [own, Option.none_or] at target
    cases guarded : isProtected staticLeases name with
    | false => exact respected_of_unprotected guarded
    | true =>
      have taken := asks.2 _ next (m, name)
        (by simp [LeaseCommand.askedName, own, target]) guarded
      rw [taken] at untaken
      cases untaken

/-- Every registration under way is admissible. -/
structure RegistrationsRespected (cfg : ServerConfig) (staticLeases : List StaticLease)
    (s : State) : Prop where
  wf : Wf cfg s
  reserved : Reserved staticLeases s
  registrations : ∀ {m : MacAddr} {name : String} {ip : Ipv4Addr},
    (m, .register name ip) ∈ (updateLedger cfg).all s → Respected staticLeases name ip

theorem RegistrationsRespected.init :
    RegistrationsRespected cfg staticLeases (State.init staticLeases) where
  wf := Wf.init staticLeases
  reserved := Reserved.init
  registrations := nofun

theorem RegistrationsRespected.keep (valid : ValidReservations staticLeases) :
    Inductive (step cfg) (NamesRespected staticLeases)
      (RegistrationsRespected cfg staticLeases) := by
  intro s l t ⟨wf, reserved, registrations⟩ asks h
  have stepped := Step.of_step h
  refine ⟨wf.keep stepped, reserved.keep wf asks.1 stepped, fun {m name ip} due => ?_⟩
  rcases (updateLedger cfg).step wf stepped due with before | ⟨order, rfl, -, fresh⟩
  · exact registrations before
  · cases updateLedger_fresh fresh with
    | @granted _ _ confirmation _ grants listed =>
      obtain ⟨named, rfl⟩ := mem_registration.mp listed
      exact respected_of_granted valid reserved asks grants named

/-- In a run in which no client asks for the router's name or a reserved name, except while
another client's live entry carries it, no registration names the router, and one that names
a reservation has its address. -/
theorem reserved_names_kept {ls : List Label} {s : State} {client : MacAddr} {since : Nat}
    (valid : ValidReservations staticLeases)
    (meets : Meets (step cfg) (NamesRespected staticLeases) (State.init staticLeases) ls)
    (run : exec (step cfg) (State.init staticLeases) ls = some s)
    (sent : emitted s l = some ⟨client, since, .registerLocalHost name ip⟩) :
    name ≠ routerHostname ∧ ∀ r ∈ staticLeases, r.hostname = some name → ip = r.ip := by
  have kept := (RegistrationsRespected.keep valid).exec RegistrationsRespected.init meets run
  rcases mem_pending_of_emitted sent with due | ⟨leases, beat⟩
  · obtain ⟨notRouter, reservation⟩ := kept.registrations (m := client)
      ((updateLedger cfg).mem_all.mpr (.inr ⟨_, due, List.mem_singleton.mpr rfl⟩))
    exact ⟨notRouter, reservation⟩
  · cases beat

/-- The printer has its lease; another client asks for the printer's name and does not get it;
the printer's name is about to be registered. -/
def presentOwnerRun : List Label :=
  reservedExchange [1] 0 1 (.new 192 168 1 50) none [] [1] ++
    reservedExchange [1] 1 2 (.new 192 168 1 7) (some "printer") [1] [1, 2] ++
    [Label.task 0, .takeEvent]

theorem validReservations_printer : ValidReservations [printerReservation] where
  macs := by simp
  ips := by simp
  hostnames := by simp [printerReservation]
  notRouter := by decide

/-- The run meets the condition, and the name is registered for the printer. -/
theorem reserved_name_kept_by_present_owner :
    ∃ s, exec (step sampleConfig) (State.init [printerReservation]) presentOwnerRun = some s ∧
      emitted s .main = some ⟨1, arpResolutionDelay,
        .registerLocalHost "printer" (.new 192 168 1 50)⟩ ∧
      "printer" ≠ routerHostname ∧ ∀ r ∈ [printerReservation], r.hostname = some "printer" →
        Ipv4Addr.new 192 168 1 50 = r.ip := by
  have meets : Meets (step sampleConfig) (NamesRespected [printerReservation])
      (State.init [printerReservation]) presentOwnerRun := by
    decide +kernel
  obtain ⟨s, run, sent⟩ : ∃ s, exec (step sampleConfig) (State.init [printerReservation])
      presentOwnerRun = some s ∧ emitted s .main = some ⟨1, arpResolutionDelay,
        .registerLocalHost "printer" (.new 192 168 1 50)⟩ := by
    decide +kernel
  exact ⟨s, run, sent, reserved_names_kept validReservations_printer meets run sent⟩

/-- A client without a reservation asks for a name, and its registration is about to be sent. -/
def hijackRun (hostname : String) : List Label :=
  reservedExchange [1] 0 2 (.new 192 168 1 7) (some hostname) [] [2] ++
    [Label.task 0, .takeEvent]

/-- While the printer has no lease, another client's address is registered under the printer's
name, and under the router's. -/
theorem absent_owner_hijacked :
    ValidReservations [printerReservation] ∧
      (∃ s, exec (step sampleConfig) (State.init [printerReservation]) (hijackRun "printer") =
          some s ∧
        emitted s .main =
          some ⟨2, arpResolutionDelay, .registerLocalHost "printer" (.new 192 168 1 7)⟩) ∧
      ∃ s, exec (step sampleConfig) (State.init [printerReservation]) (hijackRun "router") =
          some s ∧
        emitted s .main =
          some ⟨2, arpResolutionDelay, .registerLocalHost routerHostname (.new 192 168 1 7)⟩ := by
  exact ⟨validReservations_printer, by decide +kernel, by decide +kernel⟩

end TrimRouter.DhcpServer
