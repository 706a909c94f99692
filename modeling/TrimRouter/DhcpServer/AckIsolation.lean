import TrimRouter.DhcpServer.Reservations

/-!
# Acknowledgements respect the reservations

`ValidateAndConfirmRequest` checks the address of a request against the LAN and the reservations;
the acknowledgement follows at least a probe delay later, when the table may have changed.  The
check does not have to be repeated: an address that passed it stays admissible as long as the
reservations do.  The result is `acks_isolated`.
-/

namespace TrimRouter.DhcpServer

open Run

variable {cfg : ServerConfig} {staticLeases : List StaticLease} {l : Label} {m : MacAddr}
  {ip : Ipv4Addr}

/-- The address is a client address of the LAN, a reserved client has its own address, and a
reserved address has one of its own clients. -/
structure Isolated (cfg : ServerConfig) (staticLeases : List StaticLease) (m : MacAddr)
    (ip : Ipv4Addr) : Prop where
  inLan : cfg.net.contains ip = true
  notNetwork : ip ≠ cfg.net.network
  notBroadcast : ip ≠ cfg.net.broadcast
  notServer : ip ≠ cfg.serverIp
  reservation : ∀ r, reservationOf staticLeases m = some r → ip = r.ip
  owner : ∀ r ∈ staticLeases, r.ip = ip →
    ∃ own, reservationOf staticLeases m = some own ∧ own.ip = ip

/-- With one reservation per MAC address and per address, the client and the reservation
determine each other. -/
theorem Isolated.of_valid (isolated : Isolated cfg staticLeases m ip)
    (valid : ValidReservations staticLeases) {r : StaticLease} (listed : r ∈ staticLeases) :
    (r.mac = m → ip = r.ip) ∧ (r.ip = ip → r.mac = m) := by
  constructor
  · intro mine
    have found := valid.reservationOf_eq listed
    rw [mine] at found
    exact isolated.reservation r found
  · intro onIp
    obtain ⟨own, found, same⟩ := isolated.owner r listed onIp
    obtain ⟨listed', mine⟩ := mem_of_reservationOf found
    rw [valid.eq_of_ip listed listed' (onIp.trans same.symm)]
    exact mine

/-- The address of a granted request is admissible for its client. -/
theorem isolated_of_granted {s : State} {dhcp : Message} {confirmation : LeaseConfirmation}
    (reserved : Reserved staticLeases s) (grants : Granted cfg s m dhcp confirmation) :
    Isolated cfg staticLeases m confirmation.ip := by
  have confirms := LeaseTable.validateAndConfirm_granted grants.granted
  obtain ⟨notServer, notNetwork, notBroadcast, inLan⟩ := confirms.host
  have passed := confirms.unreserved
  unfold LeaseTable.reservationRefuses at passed
  rw [reserved.byMac m] at passed
  cases found : reservationOf staticLeases m with
  | some own =>
    have same : confirmation.ip = own.ip := by simpa [found] using passed
    refine ⟨inLan, notNetwork, notBroadcast, notServer, ?_, fun _ _ _ => ⟨own, found, same.symm⟩⟩
    intro r isOwn
    cases found.symm.trans isOwn
    exact same
  | none =>
    refine ⟨inLan, notNetwork, notBroadcast, notServer, fun r isOwn => ?_,
      fun r listed onIp => ?_⟩
    · cases found.symm.trans isOwn
    · rw [found, reserved.ips] at passed
      have free : confirmation.ip ∉ staticLeases.map StaticLease.ip := by simpa using passed
      exact absurd (List.mem_map.mpr ⟨r, listed, onIp⟩) free

/-- Every acknowledgement under way is admissible. -/
structure AcksIsolated (cfg : ServerConfig) (staticLeases : List StaticLease) (s : State) :
    Prop where
  wf : Wf cfg s
  reserved : Reserved staticLeases s
  acks : ∀ x ∈ (ackLedger cfg).all s, Isolated cfg staticLeases x.1 x.2.1

theorem AcksIsolated.init : AcksIsolated cfg staticLeases (State.init staticLeases) where
  wf := Wf.init staticLeases
  reserved := Reserved.init
  acks := nofun

/-- No step but the arrival of other reservations puts an inadmissible one under way. -/
theorem AcksIsolated.keep :
    Inductive (step cfg) (fun _ l => l.setsReservations = false)
      (AcksIsolated cfg staticLeases) := by
  intro s l t ⟨wf, reserved, acks⟩ fixed h
  have stepped := Step.of_step h
  refine ⟨wf.keep stepped, reserved.keep wf fixed stepped, fun x due => ?_⟩
  rcases (ackLedger cfg).step wf stepped due with before | ⟨order, -, -, fresh⟩
  · exact acks x before
  · obtain ⟨mac, dhcp, confirmation, grants, rfl⟩ := ackLedger_fresh fresh
    exact isolated_of_granted reserved grants

/-- While the reservations stay as they were at start-up, every acknowledgement that leaves
the worker gives its client a client address of the LAN, the reserved one if the client has a
reservation, and nobody else's. -/
theorem acks_isolated {ls : List Label} {s : State} {client : MacAddr} {since : Nat}
    {xid : BitVec 32} {broadcast : Bool} (fixed : ∀ l ∈ ls, l.setsReservations = false)
    (run : exec (step cfg) (State.init staticLeases) ls = some s)
    (sent : emitted s l = some ⟨client, since, .sendAck m xid ip broadcast⟩) :
    Isolated cfg staticLeases m ip ∧
      (ValidReservations staticLeases → ∀ r ∈ staticLeases,
        (r.mac = m → ip = r.ip) ∧ (r.ip = ip → r.mac = m)) := by
  have kept := AcksIsolated.keep.exec AcksIsolated.init ((meets_labels run).mpr fixed) run
  rcases mem_pending_of_emitted sent with due | ⟨leases, beat⟩
  · have isolated : Isolated cfg staticLeases m ip :=
      kept.acks (m, ip, since)
        ((ackLedger cfg).mem_all.mpr (.inr ⟨_, due, List.mem_singleton.mpr rfl⟩))
    exact ⟨isolated, fun valid r listed => isolated.of_valid valid listed⟩
  · cases beat

/-- A printer with a reservation, the only client that may have its address. -/
def printerReservation : StaticLease := ⟨1, .new 192 168 1 50, some "printer"⟩

/-- The reserved client asks for its address and the acknowledgement is about to be sent; while
its request waits for the probe, another client asks for the same address. -/
def reservedRequestRun : List Label :=
  [Label.packet 1 (sampleMessage .request 1 (some (.new 192 168 1 50)) none), .task 0,
    .actor ⟨[], [1]⟩] ++ sending 0 ++
    [Label.packet 2 (sampleMessage .request 2 (some (.new 192 168 1 50)) none), .task 1,
      .actor ⟨[1], [1]⟩] ++ sending 1 ++
    [Label.advance arpResolutionDelay, .task 0, .task 0, .actor ⟨[1], [1]⟩, .task 0, .takeEvent]

/-- The acknowledgement of the run is admissible. -/
theorem acks_isolated_for_reserved_client :
    ∃ s, exec (step sampleConfig) (State.init [printerReservation]) reservedRequestRun = some s ∧
      emitted s .main = some ⟨1, 0, .sendAck 1 1 (.new 192 168 1 50) false⟩ ∧
      Isolated sampleConfig [printerReservation] 1 (.new 192 168 1 50) := by
  have fixed : ∀ l ∈ reservedRequestRun, l.setsReservations = false := by decide
  obtain ⟨s, run, sent⟩ : ∃ s, exec (step sampleConfig) (State.init [printerReservation])
      reservedRequestRun = some s ∧
      emitted s .main = some ⟨1, 0, .sendAck 1 1 (.new 192 168 1 50) false⟩ := by
    decide +kernel
  exact ⟨s, run, sent, (acks_isolated fixed run sent).1⟩

end TrimRouter.DhcpServer
