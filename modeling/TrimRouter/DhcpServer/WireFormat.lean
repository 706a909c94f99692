import TrimRouter.DhcpServer.Reply

/-!
# The wire format of DHCP messages

The format of RFC 2131 for the messages of the server, as the `dhcproto` crate writes and reads it:
the fixed part, with the fields that the server does not set left zero, the magic cookie, and the
options as code, length and value.  What does not fit is refused.  `documented` says that this codec
behaves as the crate documents.
-/

namespace TrimRouter.DhcpServer.WireFormat

open Wire

/-! ## Options -/

/-- The value of option 53. -/
def ReplyType.code : ReplyType → Nat
  | .offer => 2
  | .ack => 5
  | .nak => 6

def ReplyType.ofCode : Nat → Option ReplyType
  | 2 => some .offer
  | 5 => some .ack
  | 6 => some .nak
  | _ => none

def writeIps (ips : List Ipv4Addr) : List (BitVec 8) := ips.flatMap fun ip => put 4 ip.toNat

/-- The code and the value of an option. -/
def body : DhcpOption → Nat × List (BitVec 8)
  | .subnetMask mask => (1, put 4 mask.toNat)
  | .router ips => (3, writeIps ips)
  | .domainNameServer ips => (6, writeIps ips)
  | .addressLeaseTime secs => (51, put 4 secs.toNat)
  | .messageType type => (53, put 1 (ReplyType.code type))
  | .serverIdentifier ip => (54, put 4 ip.toNat)

def writeOption (option : DhcpOption) : List (BitVec 8) :=
  put 1 (body option).1 ++ (put 1 (body option).2.length ++ (body option).2)

/-- A number of `k` bytes and nothing else. -/
def whole (k : Nat) (bytes : List (BitVec 8)) : Option Nat :=
  match take k bytes with
  | some (n, []) => some n
  | _ => none

/-- That many addresses and nothing else. -/
def readIps : Nat → List (BitVec 8) → Option (List Ipv4Addr)
  | 0, [] => some []
  | 0, _ :: _ => none
  | n + 1, bytes =>
    (take 4 bytes).bind fun (ip, rest) => (readIps n rest).map (BitVec.ofNat 32 ip :: ·)

def readOption (code : Nat) (value : List (BitVec 8)) : Option DhcpOption :=
  match code with
  | 1 => (whole 4 value).map fun n => .subnetMask (.ofNat 32 n)
  | 3 => (readIps (value.length / 4) value).map .router
  | 6 => (readIps (value.length / 4) value).map .domainNameServer
  | 51 => (whole 4 value).map fun n => .addressLeaseTime (.ofNat 32 n)
  | 53 => (whole 1 value).bind fun n => (ReplyType.ofCode n).map .messageType
  | 54 => (whole 4 value).map fun n => .serverIdentifier (.ofNat 32 n)
  | _ => none

/-- The options up to the end mark; at most `fuel` of them, the mark included. -/
def readOptions : Nat → List (BitVec 8) → Option (List DhcpOption)
  | 0, _ => none
  | fuel + 1, bytes =>
    (take 1 bytes).bind fun (code, bytes) =>
      if code = 255 then some []
      else
        (take 1 bytes).bind fun (length, bytes) =>
          (readOption code (bytes.take length)).bind fun option =>
            (readOptions fuel (bytes.drop length)).map (option :: ·)

variable {rest : List (BitVec 8)}

theorem whole_bitVec {w k : Nat} (x : BitVec w) (width : w ≤ 8 * k) :
    whole k (put k x.toNat) = some x.toNat := by
  have read : take k (put k x.toNat) = some (x.toNat, []) := by
    have followed : take k (put k x.toNat ++ []) = some (x.toNat, []) := take_put_bitVec x width
    rwa [List.append_nil] at followed
  rw [whole, read]

theorem length_writeIps {ips : List Ipv4Addr} : (writeIps ips).length = 4 * ips.length := by
  induction ips with
  | nil => rfl
  | cons ip ips ih =>
    rw [writeIps, List.flatMap_cons, List.length_append, length_put, List.length_cons]
    change 4 + (writeIps ips).length = _
    rw [ih]
    omega

theorem readIps_writeIps {ips : List Ipv4Addr} : readIps ips.length (writeIps ips) = some ips := by
  induction ips with
  | nil => rfl
  | cons ip ips ih =>
    have first : take 4 (writeIps (ip :: ips)) = some (ip.toNat, writeIps ips) :=
      take_put_bitVec ip (by decide)
    simp only [List.length_cons, readIps, first, Option.bind_some, ih, Option.map_some,
      BitVec.ofNat_toNat, BitVec.setWidth_eq]

theorem readOption_body {option : DhcpOption} :
    readOption (body option).1 (body option).2 = some option := by
  have ips : ∀ {ips : List Ipv4Addr},
      readIps ((writeIps ips).length / 4) (writeIps ips) = some ips := by
    intro ips
    rw [length_writeIps, Nat.mul_div_cancel_left _ (by decide), readIps_writeIps]
  have bits : ∀ {x : BitVec 32}, whole 4 (put 4 x.toNat) = some x.toNat :=
    whole_bitVec _ (by decide)
  cases option with
  | subnetMask | addressLeaseTime | serverIdentifier => simp [readOption, body, bits]
  | router | domainNameServer => simp [readOption, body, ips]
  | messageType type => cases type <;> rfl

theorem body_code {option : DhcpOption} : (body option).1 < 255 := by
  cases option <;> simp [body]

theorem length_le_writeOptions {opts : List DhcpOption} :
    opts.length ≤ (opts.flatMap writeOption).length := by
  induction opts with
  | nil => exact Nat.le_refl 0
  | cons option opts ih =>
    rw [List.flatMap_cons, List.length_append, writeOption, List.length_append, length_put,
      List.length_cons]
    omega

theorem readOptions_write {opts : List DhcpOption} {fuel : Nat} (enough : opts.length < fuel)
    (fits : ∀ option ∈ opts, (body option).2.length < 256) :
    readOptions fuel (opts.flatMap writeOption ++ [255]) = some opts := by
  induction opts generalizing fuel with
  | nil =>
    cases fuel with
    | zero => cases enough
    | succ fuel => rfl
  | cons option opts ih =>
    cases fuel with
    | zero => cases enough
    | succ fuel =>
      have code := @body_code option
      have length := fits option List.mem_cons_self
      have later := ih (Nat.lt_of_succ_lt_succ enough)
        fun o listed => fits o (List.mem_cons_of_mem _ listed)
      rw [List.flatMap_cons, writeOption, readOptions]
      simp only [List.append_assoc]
      rw [take_put (by omega), Option.bind_some]
      simp only
      rw [if_neg (by omega), take_put (by omega), Option.bind_some]
      simp only
      rw [List.take_left' rfl, List.drop_left' rfl, readOption_body, later]
      rfl

/-! ## Messages -/

/-- The number that stands for an opcode. -/
def Opcode.code : Opcode → Nat
  | .bootRequest => 1
  | .bootReply => 2

def Opcode.ofCode : Nat → Option Opcode
  | 1 => some .bootRequest
  | 2 => some .bootReply
  | _ => none

def magic : Nat := 0x63825363

/-- The fields before the addresses: opcode, hardware type and address length, hops,
transaction id, seconds and flags. -/
def writeFront (m : DhcpMessage) : List (BitVec 8) :=
  put 1 (Opcode.code m.opcode) ++ (put 1 1 ++ (put 1 m.chaddr.length ++ (put 1 0 ++
    (put 4 m.xid.toNat ++ (put 2 0 ++ put 2 (if m.broadcast then 0x8000 else 0))))))

/-- The four addresses, the client's hardware address and the two names. -/
def writeAddresses (m : DhcpMessage) : List (BitVec 8) :=
  put 4 0 ++ (put 4 m.yiaddr.toNat ++ (put 4 m.siaddr.toNat ++ (put 4 0 ++
    (m.chaddr ++ (List.replicate (16 - m.chaddr.length) 0 ++ List.replicate 192 0)))))

/-- The message fits into the format. -/
def Fits (m : DhcpMessage) : Prop :=
  m.chaddr.length ≤ 16 ∧ ∀ option ∈ m.opts, (body option).2.length < 256
deriving Decidable

def encode (m : DhcpMessage) : Except String (List (BitVec 8)) :=
  if Fits m then
    .ok (writeFront m ++ (writeAddresses m ++
      (put 4 magic ++ (m.opts.flatMap writeOption ++ [255]))))
  else .error "the message does not fit"

/-- The opcode, the length of the hardware address, the transaction id and the flag. -/
def readFront (bytes : List (BitVec 8)) :
    Option ((Opcode × Nat × BitVec 32 × Bool) × List (BitVec 8)) := do
  let (op, bytes) ← take 1 bytes
  let bytes ← skip 1 bytes
  let (hlen, bytes) ← take 1 bytes
  let bytes ← skip 1 bytes
  let (xid, bytes) ← take 4 bytes
  let bytes ← skip 2 bytes
  let (flags, bytes) ← take 2 bytes
  let opcode ← Opcode.ofCode op
  some ((opcode, hlen, .ofNat 32 xid, flags == 0x8000), bytes)

/-- The offered address, the server's address and the hardware address. -/
def readAddresses (hlen : Nat) (bytes : List (BitVec 8)) :
    Option ((Ipv4Addr × Ipv4Addr × List (BitVec 8)) × List (BitVec 8)) := do
  let bytes ← skip 4 bytes
  let (yiaddr, bytes) ← take 4 bytes
  let (siaddr, bytes) ← take 4 bytes
  let bytes ← skip 4 bytes
  let chaddr := bytes.take hlen
  let bytes ← skip 16 bytes
  let bytes ← skip 192 bytes
  some ((.ofNat 32 yiaddr, .ofNat 32 siaddr, chaddr), bytes)

def decode (bytes : List (BitVec 8)) : Option DhcpMessage := do
  let ((opcode, hlen, xid, broadcast), bytes) ← readFront bytes
  let ((yiaddr, siaddr, chaddr), bytes) ← readAddresses hlen bytes
  let (cookie, bytes) ← take 4 bytes
  let opts ← readOptions bytes.length bytes
  if cookie = magic then some ⟨opcode, xid, broadcast, yiaddr, siaddr, chaddr, opts⟩ else none

/-- The codec. -/
def codec : Dhcproto := ⟨encode, decode⟩

theorem readFront_write {m : DhcpMessage} (short : m.chaddr.length ≤ 16) :
    readFront (writeFront m ++ rest) =
      some ((m.opcode, m.chaddr.length, m.xid, m.broadcast), rest) := by
  have byte : ∀ {n : Nat} {rest}, n < 256 → take 1 (put 1 n ++ rest) = some (n, rest) :=
    fun fits => take_put (by simpa using fits)
  have flags : take 2 (put 2 (if m.broadcast then 0x8000 else 0) ++ rest) =
      some (if m.broadcast then 0x8000 else 0, rest) := by
    apply take_put
    split <;> decide
  have opcode : Opcode.code m.opcode < 256 ∧ Opcode.ofCode (Opcode.code m.opcode) =
      some m.opcode := by
    cases m.opcode <;> decide
  have flag : ((if m.broadcast then 0x8000 else 0 : Nat) == 0x8000) = m.broadcast := by
    cases m.broadcast <;> rfl
  simp only [readFront, writeFront, List.append_assoc, byte opcode.1, skip_append length_put,
    byte (by omega : m.chaddr.length < 256), take_put_bitVec m.xid (by decide : 32 ≤ 8 * 4), flags,
    opcode.2, flag, Option.bind_eq_bind, Option.bind_some, BitVec.ofNat_toNat, BitVec.setWidth_eq]

theorem readAddresses_write {m : DhcpMessage} (short : m.chaddr.length ≤ 16) :
    readAddresses m.chaddr.length (writeAddresses m ++ rest) =
      some ((m.yiaddr, m.siaddr, m.chaddr), rest) := by
  have padded : ∀ {rest : List (BitVec 8)},
      skip 16 (m.chaddr ++ (List.replicate (16 - m.chaddr.length) 0 ++ rest)) = some rest := by
    intro rest
    rw [← List.append_assoc]
    apply skip_append
    rw [List.length_append, List.length_replicate]
    omega
  simp only [readAddresses, writeAddresses, List.append_assoc, skip_append length_put,
    take_put_bitVec m.yiaddr (by decide : 32 ≤ 8 * 4),
    take_put_bitVec m.siaddr (by decide : 32 ≤ 8 * 4), padded, List.take_left' rfl,
    skip_append List.length_replicate, Option.bind_eq_bind, Option.bind_some, BitVec.ofNat_toNat,
    BitVec.setWidth_eq]

theorem documented : codec.Documented := by
  constructor
  intro m payload _ encoded
  simp only [codec, encode] at encoded
  split at encoded
  · rename_i fits
    cases encoded
    have enough : m.opts.length < (m.opts.flatMap writeOption ++ [255]).length := by
      have each := @length_le_writeOptions m.opts
      rw [List.length_append, List.length_singleton]
      omega
    have cookie : ∀ {rest}, take 4 (put 4 magic ++ rest) = some (magic, rest) :=
      take_put (by decide)
    refine ⟨m, ?_, rfl, fun _ => rfl⟩
    simp only [codec, decode, readFront_write fits.1, readAddresses_write fits.1, cookie,
      readOptions_write enough fits.2, Option.bind_eq_bind, Option.bind_some, if_true]
  · cases encoded

end TrimRouter.DhcpServer.WireFormat
