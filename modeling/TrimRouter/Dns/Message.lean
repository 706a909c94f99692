import TrimRouter.Net

/-!
# DNS messages and the library that reads and writes them

The fields of a message that the DNS forwarder looks at, and the functions of
`hickory-proto` that it calls.  The library is not part of the repository: it is a value of
`Hickory`, over which every statement quantifies, and `Hickory.Documented` says what its
documentation promises.

A name is its labels and the mark of a fully qualified name.  The library writes a name
label by label, with dots between the labels and one at the end when the name is marked.
-/

namespace TrimRouter.Dns

/-- `DEFAULT_TTL_SECS`. -/
def defaultTtlSecs : BitVec 32 := 30

/-! ## Bytes and the transaction id -/

abbrev Bytes := List (BitVec 8)

/-- `u16::to_be_bytes`. -/
def toBeBytes (n : BitVec 16) : Bytes := [n.extractLsb' 8 8, n.extractLsb' 0 8]

/-- `u16::from_be_bytes` of the first two bytes, the transaction id of a message. -/
def xid : Bytes → BitVec 16
  | hi :: lo :: _ => hi ++ lo
  | _ => 0

/-- Write a transaction id over the first two bytes. -/
def setXid (n : BitVec 16) : Bytes → Bytes
  | _ :: _ :: rest => toBeBytes n ++ rest
  | short => short

/-- The bit of the header that marks a truncated message: bit 1 of byte 2. -/
def tcBit (bytes : Bytes) : Bool := bytes[2]?.any (·.getLsbD 1)

variable {n : BitVec 16} {bytes : Bytes}

theorem xid_toBeBytes_append (rest : Bytes) : xid (toBeBytes n ++ rest) = n := by
  simp only [toBeBytes, List.cons_append, xid]
  ext i
  simp only [BitVec.getElem_append, BitVec.getElem_extractLsb']
  split
  · rw [BitVec.getLsbD_eq_getElem (by omega)]
    simp
  · rw [BitVec.getLsbD_eq_getElem (by omega)]
    congr 1
    omega

@[simp]
theorem length_setXid : (setXid n bytes).length = bytes.length := by
  rcases bytes with - | ⟨hi, - | ⟨lo, rest⟩⟩ <;> simp [setXid, toBeBytes]

theorem xid_setXid (long : 2 ≤ bytes.length) : xid (setXid n bytes) = n := by
  rcases bytes with - | ⟨hi, - | ⟨lo, rest⟩⟩
  · simp at long
  · simp at long
  · exact xid_toBeBytes_append rest

/-- The first two bytes are the transaction id. -/
theorem take_two_eq (long : 2 ≤ bytes.length) : bytes.take 2 = toBeBytes (xid bytes) := by
  rcases bytes with - | ⟨hi, - | ⟨lo, rest⟩⟩
  · simp at long
  · simp at long
  · have high : BitVec.extractLsb' 8 8 (hi ++ lo) = hi := BitVec.extractLsb'_append_eq_left
    have low : BitVec.extractLsb' 0 8 (hi ++ lo) = lo := BitVec.extractLsb'_append_eq_right
    simp [xid, toBeBytes, high, low]

theorem setXid_xid (long : 2 ≤ bytes.length) : setXid (xid bytes) bytes = bytes := by
  rcases bytes with - | ⟨hi, - | ⟨lo, rest⟩⟩
  · simp at long
  · simp at long
  · exact congrArg (· ++ rest) (take_two_eq long).symm

/-! ## Messages -/

/-- A label of a name, as it is on the wire. -/
abbrev Label := Bytes

/-- `Name`. -/
structure Name where
  labels : List Label
  isFqdn : Bool
deriving DecidableEq

/-- `RecordType`, by its number. -/
abbrev RecordType := BitVec 16

/-- `RecordType::A`. -/
def RecordType.a : RecordType := 1

/-- `RecordType::PTR`. -/
def RecordType.ptr : RecordType := 12

/-- `Query`: one question of a message. -/
structure Query where
  name : Name
  queryType : RecordType
  queryClass : BitVec 16
deriving DecidableEq

/-- `RData`, as far as it is looked at or built. -/
inductive RData where
  | a (ip : Ipv4Addr)
  | ptr (target : Name)
  | soa (minimum : BitVec 32)
  | other (recordType : RecordType) (data : Bytes)
deriving DecidableEq

/-- `Record`. -/
structure Record where
  name : Name
  ttl : BitVec 32
  data : RData
deriving DecidableEq

/-- `OpCode`. -/
inductive OpCode where
  | query
  | other (code : BitVec 4)
deriving DecidableEq

/-- `MessageType`. -/
inductive MessageType where
  | query
  | response
deriving DecidableEq

/-- `ResponseCode`. -/
inductive ResponseCode where
  | noError
  | servFail
  | nxDomain
  | refused
  | other (code : BitVec 12)
deriving DecidableEq

/-- `Message`, with the fields of its metadata. -/
structure Message where
  id : BitVec 16
  messageType : MessageType
  opCode : OpCode
  authoritative : Bool
  truncation : Bool
  recursionDesired : Bool
  recursionAvailable : Bool
  responseCode : ResponseCode
  queries : List Query
  answers : List Record
  authorities : List Record
  /-- the payload size that the sender announces with EDNS -/
  edns : Option (BitVec 16)
deriving DecidableEq

/-- `Message::response`. -/
def Message.response (id : BitVec 16) (opCode : OpCode) : Message where
  id := id
  messageType := .response
  opCode := opCode
  authoritative := false
  truncation := false
  recursionDesired := false
  recursionAvailable := false
  responseCode := .noError
  queries := []
  answers := []
  authorities := []
  edns := none

/-! ## The library -/

/-- The functions of `hickory-proto` that the forwarder calls. -/
structure Hickory where
  /-- `Message::from_bytes` -/
  fromBytes : Bytes → Option Message
  /-- `emit` into an empty buffer -/
  emit : Message → Bytes
  /-- `Message::truncate` -/
  truncate : Message → Message
  /-- a label in `Name::to_utf8` -/
  labelToUtf8 : Label → List Char
  /-- a label in `Name::to_ascii` -/
  labelToAscii : Label → List Char
  /-- `Name::parse_arpa_name`, when the result is an IPv4 network -/
  parseArpaName : Name → Option Ipv4Net
  /-- `Name::from_ascii` -/
  nameFromAscii : String → Option Name
  /-- the `Debug` of a record type -/
  typeDebug : RecordType → String
  /-- the `Debug` of a class -/
  classDebug : BitVec 16 → String

/-- The text of a name, given the text of each label. -/
def Name.text (label : Label → List Char) (name : Name) : String :=
  String.ofList (['.'].intercalate (name.labels.map label) ++
    if name.isFqdn || name.labels.isEmpty then ['.'] else [])

namespace Hickory

variable (lib : Hickory)

/-- `Name::to_utf8`. -/
def toUtf8 (name : Name) : String := name.text lib.labelToUtf8

/-- `Name::to_ascii`. -/
def toAscii (name : Name) : String := name.text lib.labelToAscii

end Hickory

/-- The characters of a label, one for each byte. -/
def Label.chars (label : Label) : List Char := label.map fun byte => Char.ofNat byte.toNat

/-- A letter, digit or hyphen of ASCII. -/
def isLdh (c : Char) : Bool := c.isAlphanum || c == '-'

/-- A text of letters, digits and hyphens that does not begin with a hyphen, which the library
would escape. -/
def isLdhText (text : List Char) : Bool := text.all isLdh && text.head? != some '-'

/-- Such a text that is not the encoding of an international one. -/
def isPlainText (text : List Char) : Bool := isLdhText text && text.take 4 != "xn--".toList

def Label.isPlain (label : Label) : Bool := isPlainText (label.chars.map Char.toLower)

/-- The label is the given text, in any letter case. -/
def Label.Spells (label : Label) (text : String) : Prop :=
  label.chars.map Char.toLower = text.toList
deriving Decidable

/-- What the documentation of the library says of it, as far as it matters here. -/
structure Hickory.Documented (lib : Hickory) : Prop where
  /-- a message has a header, which begins with its id -/
  header : ∀ {bytes message}, lib.fromBytes bytes = some message →
    12 ≤ bytes.length ∧ xid bytes = message.id
  /-- what is written has a header too, with the id and the mark of truncation -/
  emit : ∀ message, 12 ≤ (lib.emit message).length ∧ xid (lib.emit message) = message.id ∧
    tcBit (lib.emit message) = message.truncation
  /-- truncating keeps the id and marks the message -/
  truncate : ∀ message, (lib.truncate message).id = message.id ∧
    (lib.truncate message).truncation = true
  /-- what is left of a message after truncating it are its questions -/
  truncated : ∀ {bytes message rest}, lib.fromBytes bytes = some message →
    lib.fromBytes (lib.emit (lib.truncate message)) = some rest →
    rest.queries = message.queries ∧ rest.answers = []
  /-- there is no room for records in a header -/
  headerOnly : ∀ {bytes message}, lib.fromBytes bytes = some message → bytes.length = 12 →
    message.queries = [] ∧ message.answers = []
  /-- plain labels are written as they are -/
  plainUtf8 : ∀ {label : Label}, label.isPlain = true → lib.labelToUtf8 label = label.chars
  plainAscii : ∀ {label : Label}, label.isPlain = true → lib.labelToAscii label = label.chars
  /-- an address is read from names below `arpa` only -/
  arpa : ∀ {name net}, lib.parseArpaName name = some net →
    ∃ label ∈ name.labels.getLast?, label.Spells "arpa"

end TrimRouter.Dns
