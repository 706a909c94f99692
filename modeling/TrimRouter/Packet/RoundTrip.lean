import TrimRouter.Packet

/-!
# Raw frames and their receiver

`parse_dhcp_payload` of `services/utils.rs` reads the frames that `build_raw_packet` builds.  The
accessors of `pnet` take the payload of an IPv4 packet by its header and total lengths, so that what
an Ethernet card has padded is dropped, and the rest of that payload as the one of a UDP datagram.
-/

namespace TrimRouter

open Wire

/-! ## The receiver -/

/-- What the accessors of `pnet` give of a frame: the endpoints and the payload, and the two length
fields. -/
structure PnetFrame extends UdpFrame where
  totalLength : Nat
  udpLength : Nat
deriving DecidableEq

/-- `Ipv4Packet`: the total length, the protocol, the addresses and the payload. -/
def readIpv4 (packet : List (BitVec 8)) :
    Option (Nat × Nat × Ipv4Addr × Ipv4Addr × List (BitVec 8)) := do
  let (versionLength, bytes) ← take 1 packet
  let bytes ← skip 1 bytes
  let (totalLength, bytes) ← take 2 bytes
  let bytes ← skip 2 bytes
  let bytes ← skip 2 bytes
  let bytes ← skip 1 bytes
  let (protocol, bytes) ← take 1 bytes
  let bytes ← skip 2 bytes
  let (srcIp, bytes) ← take 4 bytes
  let (destIp, _) ← take 4 bytes
  let headerLength := versionLength % 16 * 4
  -- the options are between the 20 bytes of the header and the payload
  let start := ipHeaderLen + (headerLength - ipHeaderLen)
  some (totalLength, protocol, .ofNat 32 srcIp, .ofNat 32 destIp,
    (packet.drop start).take (totalLength - headerLength))

/-- `UdpPacket`: the ports, the length and the payload. -/
def readUdp (datagram : List (BitVec 8)) :
    Option (BitVec 16 × BitVec 16 × Nat × List (BitVec 8)) := do
  let (srcPort, bytes) ← take 2 datagram
  let (destPort, bytes) ← take 2 bytes
  let (length, bytes) ← take 2 bytes
  let payload ← skip 2 bytes
  some (.ofNat 16 srcPort, .ofNat 16 destPort, length, payload)

/-- The headers as `parse_dhcp_payload` reads them, up to the check of the port. -/
def PnetFrame.read (buf : List (BitVec 8)) : Option PnetFrame := do
  let (destMac, srcMac, packet) ← parseEthernet buf
  let (totalLength, protocol, srcIp, destIp, datagram) ← readIpv4 packet
  if protocol ≠ ipProtocolUdp then none else
    let (srcPort, destPort, udpLength, payload) ← readUdp datagram
    some ⟨⟨destMac, srcMac, srcIp, destIp, srcPort, destPort, payload⟩, totalLength, udpLength⟩

/-- `parse_dhcp_payload`, with the decoder of the message. -/
def parseDhcpPayload {Message : Type} (decode : List (BitVec 8) → Option Message)
    (buf : List (BitVec 8)) (expectedPort : BitVec 16) : Option Message := do
  let frame ← PnetFrame.read buf
  if frame.destPort ≠ expectedPort then none else decode frame.payload

variable {endpoints : RawPacketEndpoints} {payload rest padding : List (BitVec 8)}

theorem readIpv4_ipHeader {checksum : Nat} (fits : payload.length ≤ maxRawPacketPayload)
    (length : rest.length = udpHeaderLen + payload.length) :
    readIpv4 (endpoints.ipHeader payload.length checksum ++ (rest ++ padding)) =
      some (payload.length + 28, ipProtocolUdp, endpoints.srcIp, endpoints.destIp, rest) := by
  obtain ⟨total, small⟩ := asU16_totalLength fits
  have body : ((endpoints.ipHeader payload.length checksum ++ (rest ++ padding)).drop
      (ipHeaderLen + (69 % 16 * 4 - ipHeaderLen))).take (payload.length + 28 - 69 % 16 * 4) =
        rest := by
    change (List.drop ipHeaderLen _).take _ = rest
    rw [List.drop_left' length_ipHeader, List.take_left']
    rw [length, udpHeaderLen]
    omega
  unfold readIpv4
  simp only [RawPacketEndpoints.ipHeader, List.append_assoc, total] at body
  simp only [RawPacketEndpoints.ipHeader, List.append_assoc, total, take_version, take_protocol,
    body, take_put small, skip_append length_put,
    take_put_bitVec endpoints.srcIp (by decide : 32 ≤ 8 * 4),
    take_put_bitVec endpoints.destIp (by decide : 32 ≤ 8 * 4), Option.bind_eq_bind,
    Option.bind_some, BitVec.ofNat_toNat, BitVec.setWidth_eq]

theorem readUdp_udpHeader (fits : payload.length ≤ maxRawPacketPayload) :
    readUdp (endpoints.udpHeader payload.length ++ payload) =
      some (endpoints.srcPort, endpoints.destPort, payload.length + 8, payload) := by
  obtain ⟨total, small⟩ := asU16_udpLength fits
  simp only [readUdp, RawPacketEndpoints.udpHeader, List.append_assoc, total, take_put small,
    skip_append length_put, take_put_bitVec endpoints.srcPort (by decide : 16 ≤ 8 * 2),
    take_put_bitVec endpoints.destPort (by decide : 16 ≤ 8 * 2), Option.bind_eq_bind,
    Option.bind_some, BitVec.ofNat_toNat, BitVec.setWidth_eq]

/-! ## The checksum -/

theorem foldCarries_lt (sum : Nat) : foldCarries sum < 65536 := by
  fun_induction foldCarries sum with
  | case1 sum small => exact small
  | case2 sum large ih => exact ih

theorem foldCarries_mod (sum : Nat) : foldCarries sum % 65535 = sum % 65535 := by
  fun_induction foldCarries sum with
  | case1 sum small => rfl
  | case2 sum large ih =>
    rw [ih]
    omega

theorem foldCarries_pos {sum : Nat} (positive : 0 < sum) : 0 < foldCarries sum := by
  fun_induction foldCarries sum with
  | case1 sum small => exact positive
  | case2 sum large ih => exact ih (by omega)

theorem sumWords_append {front : List (BitVec 8)} (even : 2 ∣ front.length) :
    sumWords (front ++ rest) = sumWords front + sumWords rest := by
  induction front using sumWords.induct with
  | case1 hi lo front ih =>
    have shorter : 2 ∣ front.length := by
      simp only [List.length_cons] at even
      omega
    rw [List.cons_append, List.cons_append, sumWords, sumWords, ih shorter]
    omega
  | case2 front short =>
    match front with
    | [] => exact (Nat.zero_add _).symm
    | [_] =>
      rw [List.length_singleton] at even
      omega
    | _ :: _ :: _ => exact absurd rfl (short _ _ _)

theorem sumWords_put {n : Nat} (fits : n < 65536) : sumWords (put 2 n) = n := by
  have high : n / 256 < 256 := by omega
  simp only [put, sumWords, BitVec.toNat_ofNat]
  omega

/-- The checksum field adds its number to the sum of the header. -/
theorem sumWords_ipHeader {payloadLen checksum : Nat} (fits : checksum < 65536) :
    sumWords (endpoints.ipHeader payloadLen checksum) =
      sumWords (endpoints.ipHeader payloadLen 0) + checksum := by
  have parts : ∀ c < 65536, sumWords (endpoints.ipHeader payloadLen c) =
      sumWords ((endpoints.ipHeader payloadLen 0).take 10) + (c +
        sumWords (put 4 endpoints.srcIp.toNat ++ put 4 endpoints.destIp.toNat)) := by
    intro c small
    have front : endpoints.ipHeader payloadLen c = (endpoints.ipHeader payloadLen 0).take 10 ++
        (put 2 c ++ (put 4 endpoints.srcIp.toNat ++ put 4 endpoints.destIp.toNat)) := by
      rfl
    rw [front, sumWords_append (by simp [RawPacketEndpoints.ipHeader]),
      sumWords_append (by rw [length_put]), sumWords_put small]
  rw [parts checksum fits, parts 0 (by decide)]
  omega

theorem sumWords_ipHeader_pos {payloadLen checksum : Nat} :
    0 < sumWords (endpoints.ipHeader payloadLen checksum) := by
  change 0 < 69 * 256 + 0 + sumWords _
  omega

/-- With its checksum, the header adds up to `0xFFFF`. -/
theorem foldCarries_ipHeader {payloadLen : Nat} :
    foldCarries (sumWords (endpoints.ipHeader payloadLen
      (ipv4Checksum (endpoints.ipHeader payloadLen 0)))) = 65535 := by
  unfold ipv4Checksum
  rw [sumWords_ipHeader (by omega)]
  have positive : 0 < sumWords (endpoints.ipHeader payloadLen 0) := sumWords_ipHeader_pos
  generalize sumWords (endpoints.ipHeader payloadLen 0) = sum at positive ⊢
  have small := foldCarries_lt sum
  have same := foldCarries_mod sum
  have small' := foldCarries_lt (sum + (65535 - foldCarries sum))
  have same' := foldCarries_mod (sum + (65535 - foldCarries sum))
  have positive' : 0 < foldCarries (sum + (65535 - foldCarries sum)) :=
    foldCarries_pos (by omega)
  omega

/-- What is built is read back, with the same endpoints, exact lengths and any padding behind it,
and the words of the IPv4 header add up to `0xFFFF`.  Longer payloads are refused. -/
theorem raw_frame_round_trip (endpoints : RawPacketEndpoints) (payload : List (BitVec 8)) :
    (payload.length ≤ 65507 → ∃ frame, buildRawPacket endpoints payload = .ok frame ∧
      foldCarries (sumWords ((frame.drop 14).take 20)) = 0xFFFF ∧
      ∀ padding, PnetFrame.read (frame ++ padding) = some
          ⟨⟨endpoints.destMac, endpoints.srcMac, endpoints.srcIp, endpoints.destIp,
            endpoints.srcPort, endpoints.destPort, payload⟩,
            20 + 8 + payload.length, 8 + payload.length⟩ ∧
        ∀ (Message : Type) (decode : List (BitVec 8) → Option Message),
          parseDhcpPayload decode (frame ++ padding) endpoints.destPort = decode payload) ∧
      (65507 < payload.length → ∃ message, buildRawPacket endpoints payload = .error message) := by
  constructor
  · intro fits
    refine ⟨endpoints.frame payload, if_neg (Nat.not_lt.mpr fits), ?_, fun padding => ?_⟩
    · have header : ((endpoints.frame payload).drop 14).take 20 = endpoints.ipHeader payload.length
          (ipv4Checksum (endpoints.ipHeader payload.length 0)) := by
        have first : endpoints.ethHeader.length = 14 := rfl
        rw [RawPacketEndpoints.frame, List.drop_left' first]
        exact List.take_left' length_ipHeader
      rw [header, foldCarries_ipHeader]
    · have length : (endpoints.udpHeader payload.length ++ payload).length =
          udpHeaderLen + payload.length := by
        rw [List.length_append]
        rfl
      have read : PnetFrame.read (endpoints.frame payload ++ padding) = some
          ⟨⟨endpoints.destMac, endpoints.srcMac, endpoints.srcIp, endpoints.destIp,
            endpoints.srcPort, endpoints.destPort, payload⟩,
            payload.length + 28, payload.length + 8⟩ := by
        simp only [PnetFrame.read, RawPacketEndpoints.frame, List.append_assoc,
          parseEthernet_ethHeader, Option.bind_eq_bind, Option.bind_some]
        rw [← List.append_assoc (endpoints.udpHeader _), readIpv4_ipHeader fits length]
        simp only [Option.bind_some, ne_eq, not_true_eq_false, if_false, readUdp_udpHeader fits]
      rw [Nat.add_comm 28, Nat.add_comm 8]
      refine ⟨read, fun Message decode => ?_⟩
      simp [parseDhcpPayload, read]
  · intro long
    exact ⟨_, if_pos long⟩

/-- A DHCP broadcast of 300 bytes. -/
theorem raw_frame_round_trip_broadcast : ∃ frame,
    buildRawPacket ⟨0x0242ac110002, .broadcast, .unspecified, .broadcast, 68, 67⟩
      (List.replicate 300 1) = .ok frame ∧
      foldCarries (sumWords ((frame.drop 14).take 20)) = 0xFFFF := by
  obtain ⟨build, -⟩ := raw_frame_round_trip
    ⟨0x0242ac110002, .broadcast, .unspecified, .broadcast, 68, 67⟩ (List.replicate 300 1)
  obtain ⟨frame, built, sum, -⟩ := build (by rw [List.length_replicate]; decide)
  exact ⟨frame, built, sum⟩

end TrimRouter
