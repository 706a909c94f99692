import TrimRouter.DhcpServer.LeaseTable

/-!
# The packet tasks of the DHCP server worker

The worker spawns one task per received frame (`process_incoming_packet` in
`services/dhcp_server/worker.rs`).  A task runs without interruption between the points
where it awaits something: room in the lease actor's channel, the actor's reply, room in
the event channel, the end of a sleep.  `TaskPc` is the point a task has reached, `Cont`
says where in the handler it goes on from there, and `Task.proceed` is the code between
one such point and the next.

Decoding a frame is the work of the `pnet` and `dhcproto` crates, so a frame enters the
model as its layer-2 source and the message it decodes to, if any.
-/

namespace TrimRouter.DhcpServer

/-- `LAN_LEASE_SECS`, as the duration that the handlers pass on. -/
def lanLeaseDuration : Nat := fromSecs 3600

/-- `ARP_RESOLUTION_DELAY`. -/
def arpResolutionDelay : Nat := fromMillis 100

/-- `CONFLICT_HOLD_DURATION`. -/
def conflictHoldDuration : Nat := fromSecs 300

/-- `ServerConfig`. -/
structure ServerConfig where
  serverIp : Ipv4Addr
  net : Ipv4Net
deriving DecidableEq

/-- `run_dhcp_server_worker`: the server address is the address of the LAN network. -/
def ServerConfig.ofLanIp (lanIp : Ipv4Net) : ServerConfig := ⟨lanIp.addr, lanIp⟩

/-- `dhcproto::v4::MessageType`, the types that the server does not handle in one. -/
inductive MessageType where
  | discover
  | request
  | decline
  | release
  | other
deriving DecidableEq

/-- What the server reads of a decoded `dhcproto::v4::Message`. -/
structure Message where
  isBootRequest : Bool
  hlen : Nat
  chaddr : List (BitVec 8)
  giaddr : Ipv4Addr
  ciaddr : Ipv4Addr
  xid : BitVec 32
  broadcast : Bool
  messageType : Option MessageType
  requestedIpAddress : Option Ipv4Addr
  serverIdentifier : Option Ipv4Addr
  hostname : Option String
deriving DecidableEq

/-- `extract_client_mac`. -/
def extractClientMac (dhcp : Message) : Option MacAddr :=
  if dhcp.hlen ≠ 6 then none
  else match dhcp.chaddr with
    | a :: b :: c :: d :: e :: f :: _ =>
      let mac : MacAddr := a ++ b ++ c ++ d ++ e ++ f
      if mac = MacAddr.zero ∨ mac = MacAddr.broadcast then none else some mac
    | _ => none

/-- `is_spoofed_l2_packet`. -/
def isSpoofedL2Packet (ethSrc clientMac : MacAddr) (giaddr : Ipv4Addr) : Bool :=
  giaddr.isUnspecified && ethSrc != clientMac

/-- `should_process_request_server_id`. -/
def shouldProcessRequestServerId (dhcp : Message) (serverIp : Ipv4Addr) : Bool :=
  dhcp.serverIdentifier.all (· == serverIp)

/-- `extract_sanitized_hostname`. -/
def extractSanitizedHostname (dhcp : Message) : Option String :=
  dhcp.hostname.bind sanitizeHostname

/-- The address that a DHCPREQUEST asks for: Option 50, else a `ciaddr` that is set. -/
def requestedIp (dhcp : Message) : Option Ipv4Addr :=
  dhcp.requestedIpAddress.or (if dhcp.ciaddr.isUnspecified then none else some dhcp.ciaddr)

/-- `DhcpServerWorkerToParentMsg`. -/
inductive WorkerMsg where
  | sendOffer (clientMac : MacAddr) (xid : BitVec 32) (offeredIp : Ipv4Addr) (broadcast : Bool)
  | sendAck (clientMac : MacAddr) (xid : BitVec 32) (leasedIp : Ipv4Addr) (broadcast : Bool)
  | sendNak (clientMac : MacAddr) (xid : BitVec 32)
  | probeArpConflict (targetIp : Ipv4Addr)
  | heartbeat (leases : List DhcpLeaseInfo)
  | registerLocalHost (name : String) (ip : Ipv4Addr)
  | deregisterLocalHost (name : String)
deriving DecidableEq

/-- A message to the parent with its origin: the client whose packet or expired lease caused
it, and for an acknowledgement the instant at which the request was granted.  Only `msg` is
sent; the rest is for statements about runs. -/
structure Event where
  client : MacAddr
  since : Nat
  msg : WorkerMsg
deriving DecidableEq

/-- A granted request and the instant at which the actor granted it (for statements about
runs, never read by the code). -/
structure Grant where
  confirmation : LeaseConfirmation
  since : Nat
deriving DecidableEq

/-- Where a handler goes on after the await it is suspended in. -/
inductive Cont where
  /-- `find_or_allocate_discover_ip`, after `get_existing_ip` -/
  | gotExistingIp
  /-- `probe_and_allocate_ip`, after `allocate_candidate` -/
  | gotCandidate
  /-- `trigger_arp_resolution` of a candidate, after the probe is queued -/
  | probedCandidate (ip : Ipv4Addr)
  /-- and after its sleep -/
  | waitedCandidate (ip : Ipv4Addr)
  /-- `probe_and_allocate_ip`, after `check_conflict` -/
  | checkedCandidate (ip : Ipv4Addr)
  /-- and after `record_conflict`: the loop starts over -/
  | recordedCandidate
  /-- `handle_dhcp_discover`, after `confirm_lease` -/
  | confirmedLease (ip : Ipv4Addr)
  /-- `handle_dhcp_request`, after `validate_and_confirm_request` -/
  | gotConfirmation
  /-- `trigger_arp_resolution` of a granted address, after the probe is queued -/
  | probedGrant (grant : Grant)
  /-- and after its sleep -/
  | waitedGrant (grant : Grant)
  /-- `verify_arp_conflict`, after `check_conflict` -/
  | checkedGrant (grant : Grant)
  /-- and after `record_conflict` -/
  | recordedGrant
  /-- `handle_dhcp_request`, after the acknowledgement is queued -/
  | sentAck (grant : Grant)
  /-- and after the old host name's deregistration is queued -/
  | sentDeregister (grant : Grant)
  /-- `process_incoming_packet`, after `release` -/
  | gotReleased
  /-- the handler returns -/
  | finished
deriving DecidableEq

/-- The await at which a task is suspended. -/
inductive TaskPc where
  /-- sending a command to the lease actor, whose reply it then waits for -/
  | call (cmd : LeaseCommand) (k : Cont)
  /-- waiting for the reply -/
  | reply (k : Cont)
  /-- sending a command that has no reply -/
  | cast (cmd : LeaseCommand) (k : Cont)
  /-- sending a message to the main loop -/
  | emit (event : Event) (k : Cont)
  | sleep (wake : Nat) (k : Cont)
  | done
deriving DecidableEq

/-- A packet task: its client, the message it handles and how far it has come. -/
structure Task where
  mac : MacAddr
  dhcp : Message
  pc : TaskPc
deriving DecidableEq

namespace Task

variable (cfg : ServerConfig) (mac : MacAddr) (dhcp : Message) (now : Nat)

/-- `leases.allocate_candidate` in the loop of `probe_and_allocate_ip`. -/
def allocate : TaskPc := .call (.allocateCandidate mac cfg.net cfg.serverIp) .gotCandidate

/-- `leases.confirm_lease` in `handle_dhcp_discover`. -/
def confirm (ip : Ipv4Addr) : TaskPc :=
  .cast (.confirmLease mac ip lanLeaseDuration (extractSanitizedHostname dhcp)) (.confirmedLease ip)

/-- The last message of a granted request. -/
def register (grant : Grant) : TaskPc :=
  match grant.confirmation.hostname with
  | some name => .emit ⟨mac, now, .registerLocalHost name grant.confirmation.ip⟩ .finished
  | none => .done

/-- What a task does after an await: the code up to its next await.  `reply` is the actor's
reply where the task waited for one and `LeaseReply.unit` elsewhere. -/
def proceed (k : Cont) (reply : LeaseReply) : TaskPc :=
  match k with
  | .gotExistingIp =>
    match reply.asIp with
    | some ip => confirm mac dhcp ip
    | none => allocate cfg mac
  | .gotCandidate =>
    match reply.asIp with
    | some ip => .emit ⟨mac, now, .probeArpConflict ip⟩ (.probedCandidate ip)
    | none => .done
  | .probedCandidate ip => .sleep (now + arpResolutionDelay) (.waitedCandidate ip)
  | .waitedCandidate ip => .call (.checkConflict ip mac) (.checkedCandidate ip)
  | .checkedCandidate ip =>
    if reply.asConflict then .cast (.recordConflict ip conflictHoldDuration) .recordedCandidate
    else confirm mac dhcp ip
  | .recordedCandidate => allocate cfg mac
  | .confirmedLease ip => .emit ⟨mac, now, .sendOffer mac dhcp.xid ip dhcp.broadcast⟩ .finished
  | .gotConfirmation =>
    match reply.asConfirmation with
    | some confirmation =>
      .emit ⟨mac, now, .probeArpConflict confirmation.ip⟩ (.probedGrant ⟨confirmation, now⟩)
    | none => .emit ⟨mac, now, .sendNak mac dhcp.xid⟩ .finished
  | .probedGrant grant => .sleep (now + arpResolutionDelay) (.waitedGrant grant)
  | .waitedGrant grant => .call (.checkConflict grant.confirmation.ip mac) (.checkedGrant grant)
  | .checkedGrant grant =>
    if reply.asConflict then
      .cast (.recordConflict grant.confirmation.ip conflictHoldDuration) .recordedGrant
    else
      .emit ⟨mac, grant.since, .sendAck mac dhcp.xid grant.confirmation.ip dhcp.broadcast⟩
        (.sentAck grant)
  | .recordedGrant => .emit ⟨mac, now, .sendNak mac dhcp.xid⟩ .finished
  | .sentAck grant =>
    match grant.confirmation.oldHostnameToDeregister with
    | some old => .emit ⟨mac, now, .deregisterLocalHost old⟩ (.sentDeregister grant)
    | none => register mac now grant
  | .sentDeregister grant => register mac now grant
  | .gotReleased =>
    match reply.asReleasedHostname with
    | some name => .emit ⟨mac, now, .deregisterLocalHost name⟩ .finished
    | none => .done
  | .finished => .done

end Task

/-- `process_incoming_packet` up to its first await, for a frame with layer-2 source
`ethSrc`; `none` when the frame is dropped. -/
def processIncomingPacket (cfg : ServerConfig) (ethSrc : MacAddr) (dhcp : Message) :
    Option Task :=
  if !dhcp.isBootRequest then none
  else match extractClientMac dhcp with
    | none => none
    | some mac =>
      if isSpoofedL2Packet ethSrc mac dhcp.giaddr then none
      else match dhcp.messageType with
        | some .discover => some ⟨mac, dhcp, .call (.getExistingIp mac) .gotExistingIp⟩
        | some .request =>
          if shouldProcessRequestServerId dhcp cfg.serverIp then
            some ⟨mac, dhcp, .call (.validateAndConfirmRequest mac (requestedIp dhcp)
              cfg.serverIp cfg.net lanLeaseDuration (extractSanitizedHostname dhcp))
              .gotConfirmation⟩
          else none
        | some .decline | some .release => some ⟨mac, dhcp, .call (.release mac) .gotReleased⟩
        | some .other | none => none

end TrimRouter.DhcpServer
