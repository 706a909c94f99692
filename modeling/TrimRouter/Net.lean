import Mathlib.Data.BitVec
import TrimRouter.Lib.Str

/-!
# Addresses, networks, time and host names

The data that the services share: MAC and IPv4 addresses, the networks of the
`ipnet` crate, instants and durations, and the helpers of `services/utils.rs` on
them.

Instants and durations are natural numbers that count nanoseconds, the resolution of
`std::time`.  Instants are points of the monotonic clock.
-/

namespace TrimRouter

/-- `Duration::from_secs`. -/
def fromSecs (n : Nat) : Nat := n * 1000000000

/-- `Duration::from_millis`. -/
def fromMillis (n : Nat) : Nat := n * 1000000

/-- `Duration::as_secs`: whole seconds, rounded down. -/
def asSecs (d : Nat) : Nat := d / 1000000000

/-- `dhcproto::v4::CLIENT_PORT`. -/
def clientPort : BitVec 16 := 68

/-- A MAC address, its six octets from the most significant one on. -/
abbrev MacAddr := BitVec 48

/-- `MacAddr::zero`. -/
def MacAddr.zero : MacAddr := 0#48

/-- `MacAddr::broadcast`. -/
def MacAddr.broadcast : MacAddr := BitVec.allOnes 48

/-- `MacAddr::octets`. -/
def MacAddr.octets (mac : MacAddr) : List (BitVec 8) :=
  [40, 32, 24, 16, 8, 0].map fun start => mac.extractLsb' start 8

/-- The `Display` of a MAC address: six pairs of hexadecimal digits. -/
def MacAddr.display (mac : MacAddr) : String :=
  ":".intercalate (mac.octets.map fun octet =>
    let digits := Nat.toDigits 16 octet.toNat
    String.ofList (if digits.length < 2 then '0' :: digits else digits))

/-- An IPv4 address as the 32-bit number of its octets. -/
abbrev Ipv4Addr := BitVec 32

namespace Ipv4Addr

/-- `Ipv4Addr::new`. -/
def new (a b c d : BitVec 8) : Ipv4Addr := a ++ b ++ c ++ d

/-- `Ipv4Addr::UNSPECIFIED`. -/
def unspecified : Ipv4Addr := 0#32

/-- `Ipv4Addr::BROADCAST`. -/
def broadcast : Ipv4Addr := BitVec.allOnes 32

/-- `Ipv4Addr::is_unspecified`. -/
def isUnspecified (ip : Ipv4Addr) : Bool := ip == unspecified

/-- `Ipv4Addr::is_broadcast`. -/
def isBroadcast (ip : Ipv4Addr) : Bool := ip == broadcast

/-- `Ipv4Addr::octets`. -/
def octets (ip : Ipv4Addr) : List (BitVec 8) :=
  [24, 16, 8, 0].map fun start => ip.extractLsb' start 8

/-- The `Display` of an address: its octets in decimal. -/
def display (ip : Ipv4Addr) : String :=
  ".".intercalate (ip.octets.map fun octet => toString octet.toNat)

/-- The address has the given leading octets. -/
def startsWith (ip : Ipv4Addr) (leading : List (BitVec 8)) : Bool := leading.isPrefixOf ip.octets

/-- `Ipv4Addr::is_loopback`. -/
def isLoopback (ip : Ipv4Addr) : Bool := ip.startsWith [127]

/-- `Ipv4Addr::is_multicast`. -/
def isMulticast (ip : Ipv4Addr) : Bool := ip.extractLsb' 28 4 == 14#4

/-- `Ipv4Addr::is_link_local`. -/
def isLinkLocal (ip : Ipv4Addr) : Bool := ip.startsWith [169, 254]

/-- `Ipv4Addr::is_documentation`. -/
def isDocumentation (ip : Ipv4Addr) : Bool :=
  ip.startsWith [192, 0, 2] || ip.startsWith [198, 51, 100] || ip.startsWith [203, 0, 113]

/-- `checked_sub` on the numbers of two addresses. -/
def checkedSub (a b : Ipv4Addr) : Option (BitVec 32) := if b ≤ a then some (a - b) else none

/-- `checked_add` on the number of an address. -/
def checkedAdd (a : Ipv4Addr) (offset : BitVec 32) : Option Ipv4Addr :=
  if a.toNat + offset.toNat < 2 ^ 32 then some (a + offset) else none

end Ipv4Addr

/-- `ipnet::Ipv4Net`: an address with the length of its network part. -/
structure Ipv4Net where
  addr : Ipv4Addr
  prefixLen : Nat
  prefixLen_le : prefixLen ≤ 32
deriving DecidableEq

namespace Ipv4Net

/-- `Ipv4Net::new`, which refuses a network part of more than 32 bits. -/
def new (addr : Ipv4Addr) (prefixLen : Nat) : Option Ipv4Net :=
  if h : prefixLen ≤ 32 then some ⟨addr, prefixLen, h⟩ else none

/-- The network of 256 addresses around an address. -/
def slash24 (addr : Ipv4Addr) : Ipv4Net := ⟨addr, 24, by decide⟩

variable (net : Ipv4Net)

/-- `Ipv4Net::netmask`. -/
def netmask : Ipv4Addr := BitVec.allOnes 32 <<< (32 - net.prefixLen)

/-- `Ipv4Net::hostmask`. -/
def hostmask : Ipv4Addr := BitVec.allOnes 32 >>> net.prefixLen

/-- `Ipv4Net::network`: the address with the host part cleared. -/
def network : Ipv4Addr := net.addr &&& net.netmask

/-- `Ipv4Net::broadcast`: the address with the host part set. -/
def broadcast : Ipv4Addr := net.addr ||| net.hostmask

/-- `Ipv4Net::contains` for an address. -/
def contains (ip : Ipv4Addr) : Bool := decide (net.network ≤ ip) && decide (ip ≤ net.broadcast)

/-- `Ipv4Net::hosts`: without the network and the broadcast address, except in networks
of one or two addresses. -/
def hosts : List Ipv4Addr :=
  let start := if net.prefixLen < 31 then net.network.toNat + 1 else net.network.toNat
  let stop := if net.prefixLen < 31 then net.broadcast.toNat - 1 else net.broadcast.toNat
  (List.range (stop + 1 - start)).map fun i => BitVec.ofNat 32 (start + i)

/-- The `Display` of a network. -/
def display : String := net.addr.display ++ "/" ++ toString net.prefixLen

/-- The address at the same distance from the base of another network. -/
def translate (source target : Ipv4Net) (ip : Ipv4Addr) : Ipv4Addr :=
  target.network + (ip - source.network)

theorem translate_self (ip : Ipv4Addr) : net.translate net ip = ip := by
  unfold translate
  rw [BitVec.add_comm, BitVec.sub_add_cancel]

end Ipv4Net

/-- `services::utils::prefix_len_to_mask`. -/
def prefixLenToMask (prefixLen : Nat) : Ipv4Addr :=
  if prefixLen = 0 ∨ prefixLen > 32 then Ipv4Addr.unspecified
  else BitVec.allOnes 32 <<< (32 - prefixLen)

/-- `u32::leading_ones`. -/
def leadingOnes (mask : Ipv4Addr) : Nat := (~~~mask).clz.toNat

/-- `u32::trailing_zeros`. -/
def trailingZeros (mask : Ipv4Addr) : Nat := mask.ctz.toNat

/-- `services::utils::mask_to_prefix_len`; `none` is its error for a mask with a gap. -/
def maskToPrefixLen (mask : Ipv4Addr) : Option Nat :=
  if leadingOnes mask + trailingZeros mask = 32 then some (leadingOnes mask) else none

/-- `str::trim`. -/
def trim (s : String) : String :=
  String.ofList ((s.toList.dropWhile isWhitespace).rdropWhile isWhitespace)

/-- `services::utils::ROUTER_HOSTNAME`. -/
def routerHostname : String := "router"

/-- `services::utils::is_valid_upstream_resolver`. -/
def isValidUpstreamResolver (ip : Ipv4Addr) : Bool :=
  !ip.isUnspecified && !ip.isBroadcast && !ip.isLoopback && !ip.isMulticast && !ip.isLinkLocal &&
    !ip.isDocumentation

/-- `services::utils::sanitize_hostname`: the first label, lower case, when it is a valid
host name label. -/
def sanitizeHostname (raw : String) : Option String :=
  let label :=
    ((raw.toList.takeWhile (· ≠ '.')).dropWhile isWhitespace).rdropWhile isWhitespace
  if label = [] ∨ label.length > 63 then none
  else if label.head? = some '-' ∨ label.getLast? = some '-' then none
  else if label.all fun c => c.isAlphanum || c == '-' then
    some (String.ofList (label.map Char.toLower))
  else none

/-- `services::utils::WanLease`: the lease that the DHCP client shares with the router. -/
structure WanLease where
  ip : Option Ipv4Addr
  mask : Option Ipv4Addr
  gateway : Option Ipv4Addr
  dnsServers : List Ipv4Addr
deriving DecidableEq

/-- `WanLease::default`. -/
def WanLease.default : WanLease := ⟨none, none, none, []⟩

end TrimRouter
