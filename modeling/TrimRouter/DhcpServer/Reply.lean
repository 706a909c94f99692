import TrimRouter.DhcpServer.Task
import TrimRouter.Packet

/-!
# The replies of the DHCP server

What the parent puts on the wire for its worker: `build_dhcp_reply_payload` and
`build_dhcp_nak_payload` of `services/dhcp_server/worker.rs`, and the handlers of
`services/dhcp_server/manager.rs` that check a message of the worker, build the payload and wrap it
into a raw packet.  Encoding is the work of the `dhcproto` crate, which enters as `Dhcproto`.
Whatever the worker asks for, what is transmitted is a lease reply, a refusal or a probe of this
server (`contained_of_transmitted`).
-/

namespace TrimRouter.DhcpServer

open Check

/-! ## Messages -/

/-- `dhcproto::v4::Opcode`. -/
inductive Opcode where
  | bootRequest
  | bootReply
deriving DecidableEq

/-- The `dhcproto::v4::MessageType`s that a server sends. -/
inductive ReplyType where
  | offer
  | ack
  | nak
deriving DecidableEq

/-- `dhcproto::v4::OptionCode`, those that the server sets. -/
inductive OptionCode where
  | subnetMask
  | router
  | domainNameServer
  | addressLeaseTime
  | messageType
  | serverIdentifier
deriving DecidableEq

/-- `dhcproto::v4::DhcpOption`, those that the server sets. -/
inductive DhcpOption where
  | subnetMask (mask : Ipv4Addr)
  | router (ips : List Ipv4Addr)
  | domainNameServer (ips : List Ipv4Addr)
  | addressLeaseTime (secs : BitVec 32)
  | messageType (type : ReplyType)
  | serverIdentifier (ip : Ipv4Addr)
deriving DecidableEq

def DhcpOption.code : DhcpOption → OptionCode
  | .subnetMask _ => .subnetMask
  | .router _ => .router
  | .domainNameServer _ => .domainNameServer
  | .addressLeaseTime _ => .addressLeaseTime
  | .messageType _ => .messageType
  | .serverIdentifier _ => .serverIdentifier

/-- `dhcproto::v4::Message`, what the server sets of it; the options in the order in which
they are inserted. -/
structure DhcpMessage where
  opcode : Opcode
  xid : BitVec 32
  broadcast : Bool
  yiaddr : Ipv4Addr
  siaddr : Ipv4Addr
  chaddr : List (BitVec 8)
  opts : List DhcpOption
deriving DecidableEq

namespace DhcpMessage

/-- `Message::default`, except for its random transaction id, which is always replaced. -/
def default : DhcpMessage := ⟨.bootRequest, 0, false, .unspecified, .unspecified, [], []⟩

/-- `opts_mut().insert`: an option replaces one with its code. -/
def insert (m : DhcpMessage) (option : DhcpOption) : DhcpMessage :=
  { m with opts := m.opts.filter (·.code != option.code) ++ [option] }

/-- `opts().get`. -/
def get (m : DhcpMessage) (code : OptionCode) : Option DhcpOption :=
  m.opts.find? (·.code == code)

end DhcpMessage

/-- The codec of the `dhcproto` crate. -/
structure Dhcproto where
  encode : DhcpMessage → Except String (List (BitVec 8))
  decode : List (BitVec 8) → Option DhcpMessage

/-- The messages differ at most in the order of their options, which the map of the crate does
not keep. -/
def DhcpMessage.Same (m m' : DhcpMessage) : Prop :=
  { m with opts := [] } = { m' with opts := [] } ∧ ∀ code, m.get code = m'.get code

/-- What the crate documents: a message that could be encoded is decoded to itself. -/
structure Dhcproto.Documented (lib : Dhcproto) : Prop where
  roundTrip : ∀ {m payload}, (m.opts.map DhcpOption.code).Nodup → lib.encode m = .ok payload →
    ∃ m', lib.decode payload = some m' ∧ m'.Same m

/-! ## The payloads -/

/-- `LAN_LEASE_SECS`. -/
def lanLeaseSecs : BitVec 32 := 3600

/-- The message that `build_dhcp_reply_payload` encodes. -/
def dhcpReply (msgType : ReplyType) (clientMac : MacAddr) (xid : BitVec 32) (broadcast : Bool)
    (leasedIp serverIp subnetMask : Ipv4Addr) : DhcpMessage :=
  let reply := { DhcpMessage.default with
    opcode := .bootReply, xid, broadcast, yiaddr := leasedIp, siaddr := serverIp,
    chaddr := clientMac.octets }
  (((((reply.insert (.messageType msgType)).insert (.serverIdentifier serverIp)).insert
    (.subnetMask subnetMask)).insert (.router [serverIp])).insert
    (.domainNameServer [serverIp])).insert (.addressLeaseTime lanLeaseSecs)

/-- The message that `build_dhcp_nak_payload` encodes. -/
def dhcpNak (clientMac : MacAddr) (xid : BitVec 32) (serverIp : Ipv4Addr) : DhcpMessage :=
  let nak := { DhcpMessage.default with opcode := .bootReply, xid, chaddr := clientMac.octets }
  (nak.insert (.messageType .nak)).insert (.serverIdentifier serverIp)

variable (lib : Dhcproto)

/-- `build_dhcp_reply_payload`. -/
def buildDhcpReplyPayload (msgType : ReplyType) (clientMac : MacAddr) (xid : BitVec 32)
    (broadcast : Bool) (leasedIp serverIp subnetMask : Ipv4Addr) :
    Except String (List (BitVec 8)) :=
  (lib.encode (dhcpReply msgType clientMac xid broadcast leasedIp serverIp subnetMask)).mapError
    ("Failed to encode DHCP reply: " ++ ·)

/-- `build_dhcp_nak_payload`. -/
def buildDhcpNakPayload (clientMac : MacAddr) (xid : BitVec 32) (serverIp : Ipv4Addr) :
    Except String (List (BitVec 8)) :=
  (lib.encode (dhcpNak clientMac xid serverIp)).mapError ("Failed to encode DHCPNAK: " ++ ·)

/-! ## The handlers -/

/-- `dhcproto::v4::SERVER_PORT`. -/
def serverPort : BitVec 16 := 67

/-- `DISCARD_PORT`. -/
def discardPort : BitVec 16 := 9

/-- `ServerNetworkConfig`. -/
structure ServerNetworkConfig where
  serverMac : MacAddr
  serverIp : Ipv4Addr
  subnetMask : Ipv4Addr
  lanNet : Ipv4Net

/-- The configuration that `handle_worker_ipc_msg` makes of the LAN network. -/
def ServerNetworkConfig.ofLanNet (serverMac : MacAddr) (lanNet : Ipv4Net) : ServerNetworkConfig :=
  ⟨serverMac, lanNet.addr, lanNet.netmask, lanNet⟩

/-- `get_dest_mac_ip`. -/
def getDestMacIp (broadcast : Bool) (clientMac : MacAddr) (targetIp : Ipv4Addr) :
    MacAddr × Ipv4Addr :=
  if broadcast then (.broadcast, .broadcast) else (clientMac, targetIp)

variable (config : ServerNetworkConfig)

/-- The address is one that the server may give to a client, or probe. -/
def ServerNetworkConfig.admits (ip : Ipv4Addr) : Bool :=
  config.lanNet.contains ip && ip != config.serverIp

/-- A frame from the server, if it can be built; the errors are logged. -/
def transmit (destMac : MacAddr) (destIp : Ipv4Addr) (srcPort destPort : BitVec 16)
    (payload : Except String (List (BitVec 8))) : Option (List (BitVec 8)) :=
  (payload.bind fun payload =>
    buildRawPacket ⟨config.serverMac, destMac, config.serverIp, destIp, srcPort, destPort⟩
      payload).toOption

/-- `handle_send_offer` and `handle_send_ack` in one: the frame that is sent. -/
def handleSendReply (msgType : ReplyType) (clientMac : MacAddr) (xid : BitVec 32) (ip : Ipv4Addr)
    (broadcast : Bool) : Option (List (BitVec 8)) :=
  if config.admits ip then
    let (destMac, destIp) := getDestMacIp broadcast clientMac ip
    transmit config destMac destIp serverPort clientPort
      (buildDhcpReplyPayload lib msgType clientMac xid broadcast ip config.serverIp
        config.subnetMask)
  else none

/-- `handle_send_offer`. -/
def handleSendOffer : MacAddr → BitVec 32 → Ipv4Addr → Bool → Option (List (BitVec 8)) :=
  handleSendReply lib config .offer

/-- `handle_send_ack`. -/
def handleSendAck : MacAddr → BitVec 32 → Ipv4Addr → Bool → Option (List (BitVec 8)) :=
  handleSendReply lib config .ack

/-- `handle_send_nak`. -/
def handleSendNak (clientMac : MacAddr) (xid : BitVec 32) : Option (List (BitVec 8)) :=
  transmit config .broadcast .broadcast serverPort clientPort
    (buildDhcpNakPayload lib clientMac xid config.serverIp)

/-- `handle_probe_arp`. -/
def handleProbeArp (targetIp : Ipv4Addr) : Option (List (BitVec 8)) :=
  if config.admits targetIp then
    transmit config .broadcast targetIp discardPort discardPort (.ok [0])
  else none

/-- The frame that `handle_worker_ipc_msg` sends for a message of the worker. -/
def transmitted : WorkerMsg → Option (List (BitVec 8))
  | .sendOffer clientMac xid offeredIp broadcast =>
    handleSendOffer lib config clientMac xid offeredIp broadcast
  | .sendAck clientMac xid leasedIp broadcast =>
    handleSendAck lib config clientMac xid leasedIp broadcast
  | .sendNak clientMac xid => handleSendNak lib config clientMac xid
  | .probeArpConflict targetIp => handleProbeArp config targetIp
  | .heartbeat _ => none
  | .registerLocalHost _ _ => none
  | .deregisterLocalHost _ => none

/-! ## What can be transmitted -/

variable {clientMac : MacAddr} {xid : BitVec 32}

theorem opts_dhcpReply {msgType : ReplyType}
    {broadcast : Bool} {leasedIp serverIp subnetMask : Ipv4Addr} :
    (dhcpReply msgType clientMac xid broadcast leasedIp serverIp subnetMask).opts =
      [.messageType msgType, .serverIdentifier serverIp, .subnetMask subnetMask,
        .router [serverIp], .domainNameServer [serverIp], .addressLeaseTime lanLeaseSecs] := by
  simp [dhcpReply, DhcpMessage.insert, DhcpMessage.default, DhcpOption.code]

/-- The options of a refusal. -/
theorem opts_dhcpNak {serverIp : Ipv4Addr} :
    (dhcpNak clientMac xid serverIp).opts = [.messageType .nak, .serverIdentifier serverIp] := by
  simp [dhcpNak, DhcpMessage.insert, DhcpMessage.default, DhcpOption.code]

/-- A lease reply of the server: an address of the LAN that is not the server's, and the
parameters of the parent's own configuration. -/
structure Assignment (m : DhcpMessage) : Prop where
  type : m.get .messageType = some (.messageType .offer) ∨
    m.get .messageType = some (.messageType .ack)
  inLan : config.lanNet.contains m.yiaddr = true
  notServer : m.yiaddr ≠ config.serverIp
  mask : m.get .subnetMask = some (.subnetMask config.subnetMask)
  router : m.get .router = some (.router [config.serverIp])
  dns : m.get .domainNameServer = some (.domainNameServer [config.serverIp])
  serverId : m.get .serverIdentifier = some (.serverIdentifier config.serverIp)

/-- A refusal of the server, to everyone. -/
structure Refusal (f : UdpFrame) (m : DhcpMessage) : Prop where
  type : m.get .messageType = some (.messageType .nak)
  serverId : m.get .serverIdentifier = some (.serverIdentifier config.serverIp)
  noLease : m.yiaddr = .unspecified
  destMac : f.destMac = .broadcast
  destIp : f.destIp = .broadcast

/-- A message from the server to a client. -/
structure FromServer (f : UdpFrame) : Prop where
  srcPort : f.srcPort = serverPort
  destPort : f.destPort = clientPort
  message : ∃ m, lib.decode f.payload = some m ∧ m.opcode = .bootReply ∧
    (Assignment config m ∨ Refusal config f m)

/-- A probe of an address of the LAN that is not the server's. -/
structure Probe (f : UdpFrame) : Prop where
  srcPort : f.srcPort = discardPort
  destPort : f.destPort = discardPort
  payload : f.payload = [0]
  inLan : config.lanNet.contains f.destIp = true
  notServer : f.destIp ≠ config.serverIp

/-- A receiver reads the frame as one of these, sent by the server. -/
def Contained (frame : List (BitVec 8)) : Prop :=
  ∃ f, UdpFrame.parse frame = some f ∧ f.srcMac = config.serverMac ∧
    f.srcIp = config.serverIp ∧ (FromServer lib config f ∨ Probe config f)

section

variable {lib config} {destMac : MacAddr} {destIp : Ipv4Addr} {srcPort destPort : BitVec 16}
  {payload : Except String (List (BitVec 8))} {frame : List (BitVec 8)}

theorem ServerNetworkConfig.admits_iff {ip : Ipv4Addr} :
    config.admits ip = true ↔ config.lanNet.contains ip = true ∧ ip ≠ config.serverIp := by
  simp [admits]

theorem transmit_eq_some
    (sent : transmit config destMac destIp srcPort destPort payload = some frame) :
    ∃ bytes, payload = .ok bytes ∧
      UdpFrame.parse frame = some ⟨destMac, config.serverMac, config.serverIp, destIp, srcPort,
        destPort, bytes⟩ := by
  obtain ⟨bytes, encoded, built⟩ := bind_eq_ok.mp (toOption_eq_some.mp sent)
  exact ⟨bytes, encoded, UdpFrame.parse_buildRawPacket built⟩

theorem contained_of_handleSendReply {msgType : ReplyType} {ip : Ipv4Addr} {broadcast : Bool}
    (documented : lib.Documented) (type : msgType = .offer ∨ msgType = .ack)
    (sent : handleSendReply lib config msgType clientMac xid ip broadcast = some frame) :
    Contained lib config frame := by
  unfold handleSendReply at sent
  obtain ⟨admitted, sent⟩ := Option.ite_none_right_eq_some.mp sent
  obtain ⟨inLan, notServer⟩ := ServerNetworkConfig.admits_iff.mp admitted
  obtain ⟨bytes, encoded, parsed⟩ := transmit_eq_some sent
  have options := @opts_dhcpReply clientMac xid msgType broadcast ip config.serverIp
    config.subnetMask
  obtain ⟨m, decoded, fields, opts⟩ := documented.roundTrip
    (by simp [options, DhcpOption.code]) (mapError_eq_ok.mp encoded)
  have leased : m.yiaddr = ip := congrArg DhcpMessage.yiaddr fields
  refine ⟨_, parsed, rfl, rfl,
    .inl ⟨rfl, rfl, m, decoded, congrArg DhcpMessage.opcode fields, .inl ?_⟩⟩
  refine ⟨?_, leased ▸ inLan, leased ▸ notServer, ?_, ?_, ?_, ?_⟩
  · rw [opts]
    rcases type with rfl | rfl
    · simp [DhcpMessage.get, options, DhcpOption.code]
    · simp [DhcpMessage.get, options, DhcpOption.code]
  all_goals
    rw [opts]
    simp [DhcpMessage.get, options, DhcpOption.code]

theorem contained_of_handleSendNak (documented : lib.Documented)
    (sent : handleSendNak lib config clientMac xid = some frame) :
    Contained lib config frame := by
  obtain ⟨bytes, encoded, parsed⟩ := transmit_eq_some sent
  obtain ⟨m, decoded, fields, opts⟩ := documented.roundTrip
    (by simp [opts_dhcpNak, DhcpOption.code]) (mapError_eq_ok.mp encoded)
  refine ⟨_, parsed, rfl, rfl, .inl ⟨rfl, rfl, m, decoded, congrArg DhcpMessage.opcode fields,
    .inr ⟨?_, ?_, congrArg DhcpMessage.yiaddr fields, rfl, rfl⟩⟩⟩
  all_goals
    rw [opts]
    simp [DhcpMessage.get, opts_dhcpNak, DhcpOption.code]

theorem contained_of_handleProbeArp {targetIp : Ipv4Addr}
    (sent : handleProbeArp config targetIp = some frame) : Contained lib config frame := by
  unfold handleProbeArp at sent
  obtain ⟨admitted, sent⟩ := Option.ite_none_right_eq_some.mp sent
  obtain ⟨inLan, notServer⟩ := ServerNetworkConfig.admits_iff.mp admitted
  obtain ⟨bytes, payload, parsed⟩ := transmit_eq_some sent
  cases payload
  exact ⟨_, parsed, rfl, rfl, .inr ⟨rfl, rfl, rfl, inLan, notServer⟩⟩

/-- Whatever the worker asks for, what is transmitted is a lease reply, a refusal or a probe
of this server. -/
theorem contained_of_transmitted {msg : WorkerMsg} (documented : lib.Documented)
    (sent : transmitted lib config msg = some frame) : Contained lib config frame := by
  cases msg with
  | sendOffer clientMac xid offeredIp broadcast =>
    exact contained_of_handleSendReply documented (.inl rfl) sent
  | sendAck clientMac xid leasedIp broadcast =>
    exact contained_of_handleSendReply documented (.inr rfl) sent
  | sendNak clientMac xid => exact contained_of_handleSendNak documented sent
  | probeArpConflict targetIp => exact contained_of_handleProbeArp sent
  | heartbeat | registerLocalHost | deregisterLocalHost => cases sent

end

end TrimRouter.DhcpServer
