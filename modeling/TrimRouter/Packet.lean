import TrimRouter.Lib.Check
import TrimRouter.Lib.Wire
import TrimRouter.Net

/-!
# Raw packets

`packet.rs`: Ethernet, IPv4 and UDP headers written in front of a payload.  The setters of the
`pnet` crate put each field into its place in network byte order, and the fields that are not
set stay zero.  `UdpFrame.parse` reads a frame the way a receiver does, and is not part of the
code.
-/

namespace TrimRouter

/-- `EtherTypes::Ipv4`. -/
def etherTypeIpv4 : Nat := 0x0800

/-- `IpNextHeaderProtocols::Udp`. -/
def ipProtocolUdp : Nat := 17

def ipHeaderLen : Nat := 20

def udpHeaderLen : Nat := 8

/-- `MAX_RAW_PACKET_PAYLOAD`. -/
def maxRawPacketPayload : Nat := 65507

/-- `RawPacketEndpoints`. -/
structure RawPacketEndpoints where
  srcMac : MacAddr
  destMac : MacAddr
  srcIp : Ipv4Addr
  destIp : Ipv4Addr
  srcPort : BitVec 16
  destPort : BitVec 16

/-- A number cast to `u16`. -/
def asU16 (n : Nat) : Nat := n % 65536

namespace RawPacketEndpoints

open Wire

variable (endpoints : RawPacketEndpoints)

def ethHeader : List (BitVec 8) :=
  put 6 endpoints.destMac.toNat ++ (put 6 endpoints.srcMac.toNat ++ put 2 etherTypeIpv4)

/-- The IPv4 header: version and header length, type of service, total length, identification,
fragment offset, time to live, protocol, checksum and the two addresses. -/
def ipHeader (payloadLen checksum : Nat) : List (BitVec 8) :=
  put 1 (4 * 16 + ipHeaderLen / 4) ++ (put 1 0 ++
    (put 2 (asU16 (ipHeaderLen + udpHeaderLen + payloadLen)) ++ (put 2 0 ++ (put 2 0 ++
      (put 1 64 ++ (put 1 ipProtocolUdp ++ (put 2 checksum ++
        (put 4 endpoints.srcIp.toNat ++ put 4 endpoints.destIp.toNat))))))))

/-- The UDP header, without a checksum. -/
def udpHeader (payloadLen : Nat) : List (BitVec 8) :=
  put 2 endpoints.srcPort.toNat ++ (put 2 endpoints.destPort.toNat ++
    (put 2 (asU16 (udpHeaderLen + payloadLen)) ++ put 2 0))

end RawPacketEndpoints

/-- The sum of the 16-bit words of a header. -/
def sumWords : List (BitVec 8) → Nat
  | hi :: lo :: rest => hi.toNat * 256 + lo.toNat + sumWords rest
  | _ => 0

/-- The carries of the sum added back until there are none. -/
def foldCarries (sum : Nat) : Nat :=
  if sum < 65536 then sum else foldCarries (sum / 65536 + sum % 65536)
termination_by sum
decreasing_by omega

/-- `pnet::packet::ipv4::checksum` of a header whose checksum field is zero. -/
def ipv4Checksum (header : List (BitVec 8)) : Nat := 65535 - foldCarries (sumWords header)

/-- `write_packet_headers` and `set_ip_checksum`. -/
def RawPacketEndpoints.frame (endpoints : RawPacketEndpoints) (payload : List (BitVec 8)) :
    List (BitVec 8) :=
  endpoints.ethHeader ++
    (endpoints.ipHeader payload.length (ipv4Checksum (endpoints.ipHeader payload.length 0)) ++
      (endpoints.udpHeader payload.length ++ payload))

/-- `build_raw_packet`.  The buffer has room for the headers, so they are always written. -/
def buildRawPacket (endpoints : RawPacketEndpoints) (payload : List (BitVec 8)) :
    Except String (List (BitVec 8)) :=
  if maxRawPacketPayload < payload.length then
    .error ("Payload length " ++ toString payload.length ++
      " exceeds maximum raw packet payload capacity " ++ toString maxRawPacketPayload)
  else .ok (endpoints.frame payload)

/-! ## The receiver -/

/-- What a receiver reads of a UDP datagram. -/
structure UdpFrame where
  destMac : MacAddr
  srcMac : MacAddr
  srcIp : Ipv4Addr
  destIp : Ipv4Addr
  srcPort : BitVec 16
  destPort : BitVec 16
  payload : List (BitVec 8)
deriving DecidableEq

section

open Wire

/-- The destination, the source and the payload of an Ethernet frame that carries IPv4. -/
def parseEthernet (frame : List (BitVec 8)) : Option (MacAddr × MacAddr × List (BitVec 8)) := do
  let (destMac, bytes) ← take 6 frame
  let (srcMac, bytes) ← take 6 bytes
  let (etherType, bytes) ← take 2 bytes
  if etherType = etherTypeIpv4 then some (.ofNat 48 destMac, .ofNat 48 srcMac, bytes) else none

/-- The source, the destination and the payload of a whole IPv4 packet without options that
carries UDP. -/
def parseIpv4 (packet : List (BitVec 8)) : Option (Ipv4Addr × Ipv4Addr × List (BitVec 8)) := do
  let (versionLength, bytes) ← take 1 packet
  let bytes ← skip 1 bytes
  let (totalLength, bytes) ← take 2 bytes
  let bytes ← skip 2 bytes
  let (fragment, bytes) ← take 2 bytes
  let bytes ← skip 1 bytes
  let (protocol, bytes) ← take 1 bytes
  let bytes ← skip 2 bytes
  let (srcIp, bytes) ← take 4 bytes
  let (destIp, bytes) ← take 4 bytes
  if versionLength = 0x45 ∧ totalLength = packet.length ∧ fragment = 0 ∧
      protocol = ipProtocolUdp then
    some (.ofNat 32 srcIp, .ofNat 32 destIp, bytes)
  else none

/-- The ports and the payload of a whole UDP datagram. -/
def parseUdp (datagram : List (BitVec 8)) :
    Option (BitVec 16 × BitVec 16 × List (BitVec 8)) := do
  let (srcPort, bytes) ← take 2 datagram
  let (destPort, bytes) ← take 2 bytes
  let (length, bytes) ← take 2 bytes
  let payload ← skip 2 bytes
  if length = datagram.length then some (.ofNat 16 srcPort, .ofNat 16 destPort, payload) else none

/-- Read a frame. -/
def UdpFrame.parse (frame : List (BitVec 8)) : Option UdpFrame := do
  let (destMac, srcMac, packet) ← parseEthernet frame
  let (srcIp, destIp, datagram) ← parseIpv4 packet
  let (srcPort, destPort, payload) ← parseUdp datagram
  some ⟨destMac, srcMac, srcIp, destIp, srcPort, destPort, payload⟩

variable {endpoints : RawPacketEndpoints} {payload rest : List (BitVec 8)}

theorem parseEthernet_ethHeader :
    parseEthernet (endpoints.ethHeader ++ rest) =
      some (endpoints.destMac, endpoints.srcMac, rest) := by
  have etherType : take 2 (put 2 etherTypeIpv4 ++ rest) = some (etherTypeIpv4, rest) :=
    take_put (by decide)
  simp only [parseEthernet, RawPacketEndpoints.ethHeader, List.append_assoc,
    take_put_bitVec endpoints.destMac (by decide : 48 ≤ 8 * 6),
    take_put_bitVec endpoints.srcMac (by decide : 48 ≤ 8 * 6), etherType, Option.bind_eq_bind,
    Option.bind_some, if_true, BitVec.ofNat_toNat, BitVec.setWidth_eq]

theorem length_ipHeader {payloadLen checksum : Nat} :
    (endpoints.ipHeader payloadLen checksum).length = ipHeaderLen := by
  simp [RawPacketEndpoints.ipHeader, ipHeaderLen]

theorem asU16_totalLength (fits : payload.length ≤ maxRawPacketPayload) :
    asU16 (ipHeaderLen + udpHeaderLen + payload.length) = payload.length + 28 ∧
      payload.length + 28 < 256 ^ 2 := by
  simp only [maxRawPacketPayload] at fits
  simp only [asU16, ipHeaderLen, udpHeaderLen]
  omega

theorem asU16_udpLength (fits : payload.length ≤ maxRawPacketPayload) :
    asU16 (udpHeaderLen + payload.length) = payload.length + 8 ∧
      payload.length + 8 < 256 ^ 2 := by
  simp only [maxRawPacketPayload] at fits
  simp only [asU16, udpHeaderLen]
  omega

theorem take_version : take 1 (put 1 (4 * 16 + ipHeaderLen / 4) ++ rest) = some (69, rest) :=
  take_put (by decide)

theorem take_protocol : take 1 (put 1 ipProtocolUdp ++ rest) = some (ipProtocolUdp, rest) :=
  take_put (by decide)

theorem parseIpv4_ipHeader {checksum : Nat} (fits : payload.length ≤ maxRawPacketPayload)
    (length : rest.length = udpHeaderLen + payload.length) :
    parseIpv4 (endpoints.ipHeader payload.length checksum ++ rest) =
      some (endpoints.srcIp, endpoints.destIp, rest) := by
  obtain ⟨total, small⟩ := asU16_totalLength fits
  have whole : (endpoints.ipHeader payload.length checksum ++ rest).length =
      payload.length + 28 := by
    rw [List.length_append, length_ipHeader, length]
    simp only [ipHeaderLen, udpHeaderLen]
    omega
  unfold parseIpv4
  rw [whole]
  simp only [RawPacketEndpoints.ipHeader, List.append_assoc, total, take_version, take_protocol,
    take_put small, take_put (by decide : 0 < 256 ^ 2), skip_append length_put,
    take_put_bitVec endpoints.srcIp (by decide : 32 ≤ 8 * 4),
    take_put_bitVec endpoints.destIp (by decide : 32 ≤ 8 * 4), Option.bind_eq_bind,
    Option.bind_some, and_self, if_true, BitVec.ofNat_toNat, BitVec.setWidth_eq]

theorem parseUdp_udpHeader (fits : payload.length ≤ maxRawPacketPayload) :
    parseUdp (endpoints.udpHeader payload.length ++ payload) =
      some (endpoints.srcPort, endpoints.destPort, payload) := by
  obtain ⟨total, small⟩ := asU16_udpLength fits
  have whole : (endpoints.udpHeader payload.length ++ payload).length = payload.length + 8 := by
    simp [RawPacketEndpoints.udpHeader]
    omega
  unfold parseUdp
  rw [whole]
  simp only [RawPacketEndpoints.udpHeader, List.append_assoc, total, take_put small,
    skip_append length_put, take_put_bitVec endpoints.srcPort (by decide : 16 ≤ 8 * 2),
    take_put_bitVec endpoints.destPort (by decide : 16 ≤ 8 * 2), Option.bind_eq_bind,
    Option.bind_some, if_true, BitVec.ofNat_toNat, BitVec.setWidth_eq]

/-- A receiver reads what the builder was given. -/
theorem UdpFrame.parse_buildRawPacket {frame : List (BitVec 8)}
    (built : buildRawPacket endpoints payload = .ok frame) :
    parse frame = some ⟨endpoints.destMac, endpoints.srcMac, endpoints.srcIp, endpoints.destIp,
      endpoints.srcPort, endpoints.destPort, payload⟩ := by
  unfold buildRawPacket at built
  split at built
  · cases built
  · rename_i fits
    have fits : payload.length ≤ maxRawPacketPayload := Nat.le_of_not_lt fits
    cases built
    have length : (endpoints.udpHeader payload.length ++ payload).length =
        udpHeaderLen + payload.length := by
      simp [RawPacketEndpoints.udpHeader, udpHeaderLen]
      omega
    simp only [parse, RawPacketEndpoints.frame, parseEthernet_ethHeader,
      parseIpv4_ipHeader fits length, parseUdp_udpHeader fits, Option.bind_eq_bind,
      Option.bind_some]

end

end TrimRouter
