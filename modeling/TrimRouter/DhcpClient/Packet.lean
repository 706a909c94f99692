import TrimRouter.Net

/-!
# The packets of the DHCP client

What the client worker reads of a decoded server message and what it tells its parent
(`services/dhcp_client/worker.rs`, `services/ipc.rs`).  Decoding a frame is the work of the
`pnet` and `dhcproto` crates, so a frame enters the model as the message it decodes to, if
any.
-/

namespace TrimRouter.DhcpClient

/-- `dhcproto::v4::MessageType`, the types that the client does not handle in one. -/
inductive MessageType where
  | offer
  | ack
  | nak
  | other
deriving DecidableEq

/-- What the client reads of a decoded `dhcproto::v4::Message`. -/
structure Message where
  xid : BitVec 32
  chaddr : List (BitVec 8)
  yiaddr : Ipv4Addr
  messageType : Option MessageType
  serverIdentifier : Option Ipv4Addr
  subnetMask : Option Ipv4Addr
  router : Option (List Ipv4Addr)
  domainNameServer : Option (List Ipv4Addr)
  addressLeaseTime : Option (BitVec 32)
deriving DecidableEq

/-- `DEFAULT_LEASE_SECS`. -/
def defaultLeaseSecs : BitVec 32 := 3600#32

/-- `DEFAULT_SUBNET_MASK`. -/
def defaultSubnetMask : Ipv4Addr := Ipv4Addr.new 255 255 255 0

/-- `DhcpOffer`. -/
structure DhcpOffer where
  offeredIp : Ipv4Addr
  serverIp : Option Ipv4Addr
deriving DecidableEq

/-- `DhcpAck`. -/
structure DhcpAck where
  ip : Ipv4Addr
  mask : Ipv4Addr
  gateway : Option Ipv4Addr
  serverIp : Option Ipv4Addr
  leaseSecs : BitVec 32
  dnsServers : List Ipv4Addr
deriving DecidableEq

/-- `LeaseOptions`. -/
structure LeaseOptions where
  mask : Ipv4Addr
  gateway : Option Ipv4Addr
  dnsServers : List Ipv4Addr
  leaseSecs : BitVec 32

/-- `ParseAckResult`. -/
inductive ParseAckResult where
  | ack (ack : DhcpAck)
  | nak
  | none
deriving DecidableEq

/-- `parse_lease_options`. -/
def parseLeaseOptions (dhcp : Message) : LeaseOptions where
  mask := dhcp.subnetMask.getD defaultSubnetMask
  gateway := dhcp.router.bind List.head?
  dnsServers := dhcp.domainNameServer.getD []
  leaseSecs := dhcp.addressLeaseTime.getD defaultLeaseSecs

/-- `parse_offer`. -/
def parseOffer (dhcp : Message) (xid : BitVec 32) : Option DhcpOffer :=
  if dhcp.xid ≠ xid then none
  else if dhcp.messageType = some .offer then some ⟨dhcp.yiaddr, dhcp.serverIdentifier⟩
  else none

/-- `parse_ack_nak`. -/
def parseAckNak (dhcp : Message) (xid : BitVec 32) : ParseAckResult :=
  if dhcp.xid ≠ xid then .none
  else match dhcp.messageType with
    | some .ack =>
      let opts := parseLeaseOptions dhcp
      .ack {
        ip := dhcp.yiaddr
        mask := opts.mask
        gateway := opts.gateway
        serverIp := dhcp.serverIdentifier
        leaseSecs := opts.leaseSecs
        dnsServers := opts.dnsServers }
    | some .nak => .nak
    | _ => .none

/-- The filter of `recv_dhcp_packet`: messages for another hardware address are passed over. -/
def recvDhcpPacket (mac : MacAddr) (payload : Option Message) : Option Message :=
  payload.filter fun dhcp => mac.octets.isPrefixOf dhcp.chaddr

/-- `DhcpClientToParentMsg`. -/
inductive ToParentMsg where
  | sendDiscover (xid : BitVec 32)
  | sendRequest (xid : BitVec 32) (requestedIp : Ipv4Addr) (serverIp : Option Ipv4Addr)
      (ciaddr : Ipv4Addr)
  | applyWanLease (ipAddress : Ipv4Addr) (prefixLen : Nat) (gateway : Ipv4Addr)
      (dnsServers : List Ipv4Addr)
  | heartbeat
  | clearWanLease
deriving DecidableEq

/-- `apply_lease_config`: the message that hands an acknowledged lease to the parent. -/
def applyLeaseConfig (ack : DhcpAck) : ToParentMsg :=
  .applyWanLease ack.ip ((maskToPrefixLen ack.mask).getD 24)
    (ack.gateway.getD Ipv4Addr.unspecified) ack.dnsServers

end TrimRouter.DhcpClient
