import TrimRouter.Dns.Worker

/-!
# A codec for messages without compression

A library that meets `Hickory.Documented`, for running the model on concrete messages.  It
reads and writes the messages of RFC 1035 as far as the forwarder looks at them, with names
written out in full and without additional records.
-/

namespace TrimRouter.Dns.Uncompressed

/-! ## Reading -/

/-- A big-endian number of two bytes. -/
def readU16 : Bytes → Option (BitVec 16 × Bytes)
  | hi :: lo :: rest => some (hi ++ lo, rest)
  | _ => none

/-- A big-endian number of four bytes. -/
def readU32 : Bytes → Option (BitVec 32 × Bytes)
  | a :: b :: c :: d :: rest => some (a ++ b ++ c ++ d, rest)
  | _ => none

/-- The labels of a name, each after its length, up to the empty one. -/
def readLabels : Nat → Bytes → Option (List Label × Bytes)
  | 0, _ => none
  | _ + 1, [] => none
  | fuel + 1, length :: rest =>
    if length = 0 then some ([], rest)
    else if length.toNat ≤ 63 ∧ length.toNat ≤ rest.length then
      (readLabels fuel (rest.drop length.toNat)).map fun (labels, rest') =>
        (rest.take length.toNat :: labels, rest')
    else none

def readName (bytes : Bytes) : Option (Name × Bytes) :=
  (readLabels (bytes.length + 1) bytes).map fun (labels, rest) => (⟨labels, true⟩, rest)

def readQuestion (bytes : Bytes) : Option (Query × Bytes) := do
  let (name, bytes) ← readName bytes
  let (queryType, bytes) ← readU16 bytes
  let (queryClass, bytes) ← readU16 bytes
  some (⟨name, queryType, queryClass⟩, bytes)

/-- The data of a record, given its type. -/
def readRData (recordType : RecordType) (data : Bytes) : RData :=
  match recordType.toNat, data with
  | 1, [a, b, c, d] => .a (.new a b c d)
  | 12, _ =>
    match readName data with
    | some (target, []) => .ptr target
    | _ => .other recordType data
  | 6, _ =>
    match readU32 (data.drop (data.length - 4)) with
    | some (minimum, []) => .soa minimum
    | _ => .other recordType data
  | _, _ => .other recordType data

def readRecord (bytes : Bytes) : Option (Record × Bytes) := do
  let (name, bytes) ← readName bytes
  let (recordType, bytes) ← readU16 bytes
  let (_, bytes) ← readU16 bytes
  let (ttl, bytes) ← readU32 bytes
  let (length, bytes) ← readU16 bytes
  if bytes.length < length.toNat then none
  some (⟨name, ttl, readRData recordType (bytes.take length.toNat)⟩, bytes.drop length.toNat)

/-- As many items as the header announces. -/
def readMany {α : Type} (read : Bytes → Option (α × Bytes)) : Nat → Bytes → Option (List α × Bytes)
  | 0, bytes => some ([], bytes)
  | count + 1, bytes => do
      let (item, bytes) ← read bytes
      let (items, bytes) ← readMany read count bytes
      some (item :: items, bytes)

def readOpCode (code : BitVec 4) : OpCode := if code = 0 then .query else .other code

def readResponseCode (code : BitVec 4) : ResponseCode :=
  match code.toNat with
  | 0 => .noError
  | 2 => .servFail
  | 3 => .nxDomain
  | 5 => .refused
  | _ => .other (code.setWidth 12)

def readMessageType (response : Bool) : MessageType := if response then .response else .query

/-- A message from the bytes after its id. -/
def readBody (id : BitVec 16) : Bytes → Option Message
  | f₁ :: f₂ :: q₁ :: q₂ :: a₁ :: a₂ :: n₁ :: n₂ :: r₁ :: r₂ :: bytes =>
    if r₁ ++ r₂ = 0#16 then do
      let (queries, bytes) ← readMany readQuestion (q₁ ++ q₂).toNat bytes
      let (answers, bytes) ← readMany readRecord (a₁ ++ a₂).toNat bytes
      let (authorities, _) ← readMany readRecord (n₁ ++ n₂).toNat bytes
      some
        { id := id
          messageType := readMessageType (f₁.getLsbD 7)
          opCode := readOpCode (f₁.extractLsb' 3 4)
          authoritative := f₁.getLsbD 2
          truncation := f₁.getLsbD 1
          recursionDesired := f₁.getLsbD 0
          recursionAvailable := f₂.getLsbD 7
          responseCode := readResponseCode (f₂.extractLsb' 0 4)
          queries := queries
          answers := answers
          authorities := authorities
          edns := none }
    else none
  | _ => none

def fromBytes (bytes : Bytes) : Option Message :=
  if bytes.length < 12 then none else readBody (xid bytes) (bytes.drop 2)

/-! ## Writing -/

def writeU32 (n : BitVec 32) : Bytes :=
  [n.extractLsb' 24 8, n.extractLsb' 16 8, n.extractLsb' 8 8, n.extractLsb' 0 8]

def writeName (name : Name) : Bytes :=
  (name.labels.flatMap fun label => BitVec.ofNat 8 label.length :: label) ++ [0]

def writeQuestion (question : Query) : Bytes :=
  writeName question.name ++ (toBeBytes question.queryType ++ toBeBytes question.queryClass)

/-- The type and the data of a record; a start of authority has its minimum only. -/
def writeRData : RData → RecordType × Bytes
  | .a ip => (1, ip.octets)
  | .ptr target => (12, writeName target)
  | .soa minimum => (6, List.replicate 18 0 ++ writeU32 minimum)
  | .other recordType data => (recordType, data)

def writeRecord (record : Record) : Bytes :=
  let (recordType, data) := writeRData record.data
  writeName record.name ++ toBeBytes recordType ++ toBeBytes 1 ++ writeU32 record.ttl ++
    toBeBytes (BitVec.ofNat 16 data.length) ++ data

def writeOpCode : OpCode → BitVec 4
  | .query => 0
  | .other code => code

def writeResponseCode : ResponseCode → BitVec 4
  | .noError => 0
  | .servFail => 2
  | .nxDomain => 3
  | .refused => 5
  | .other code => code.setWidth 4

/-- The two bytes of flags. -/
def writeFlags (message : Message) : Bytes :=
  [BitVec.ofBool (message.messageType == .response) ++ writeOpCode message.opCode ++
      BitVec.ofBool message.authoritative ++ BitVec.ofBool message.truncation ++
      BitVec.ofBool message.recursionDesired,
    BitVec.ofBool message.recursionAvailable ++ 0#3 ++ writeResponseCode message.responseCode]

def writeCount (n : Nat) : Bytes := toBeBytes (BitVec.ofNat 16 n)

def emit (message : Message) : Bytes :=
  toBeBytes message.id ++ (writeFlags message ++ (writeCount message.queries.length ++
    (writeCount message.answers.length ++ (writeCount message.authorities.length ++
    (writeCount 0 ++ (message.queries.flatMap writeQuestion ++
    (message.answers.flatMap writeRecord ++ message.authorities.flatMap writeRecord)))))))

def truncate (message : Message) : Message :=
  { message with truncation := true, answers := [], authorities := [] }

/-! ## Names -/

/-- A number below 256 in decimal. -/
def readOctet (label : Label) : Option (BitVec 8) :=
  if label.chars.all Char.isDigit && label.length ≤ 3 then
    let n := label.chars.foldl (fun n c => 10 * n + (c.toNat - '0'.toNat)) 0
    if n < 256 then some (BitVec.ofNat 8 n) else none
  else none

/-- The address of a reverse lookup. -/
def parseArpaName (name : Name) : Option Ipv4Net :=
  match name.labels with
  | [d, c, b, a, inAddr, arpa] =>
    if inAddr.Spells "in-addr" ∧ arpa.Spells "arpa" then do
      let a ← readOctet a
      let b ← readOctet b
      let c ← readOctet c
      let d ← readOctet d
      Ipv4Net.new (.new a b c d) 32
    else none
  | _ => none

def nameFromAscii (text : String) : Option Name :=
  let labels := (text.toList.splitOn '.').map fun cs => cs.map fun c => BitVec.ofNat 8 c.toNat
  some ⟨labels.filter (·.length ≠ 0), labels.getLast? == some []⟩

/-- The codec as a library. -/
def library : Hickory where
  fromBytes := fromBytes
  emit := emit
  truncate := truncate
  labelToUtf8 := Label.chars
  labelToAscii := Label.chars
  parseArpaName := parseArpaName
  nameFromAscii := nameFromAscii
  typeDebug recordType :=
    if recordType = .a then "A" else if recordType = .ptr then "PTR"
    else "Unknown(" ++ toString recordType.toNat ++ ")"
  classDebug n := if n = 1 then "IN" else "Unknown(" ++ toString n.toNat ++ ")"

/-! ## Messages to run the model on -/

def ofText (text : String) : Label := text.toList.map fun c => BitVec.ofNat 8 c.toNat

/-- A question about the name with the given labels. -/
def askFor (id : BitVec 16) (labels : List String) (recordType : RecordType) : Message :=
  { Message.response id .query with
    messageType := .query
    queries := [⟨⟨labels.map ofText, true⟩, recordType, 1⟩] }

/-- A response with the address of a name. -/
def answer (id : BitVec 16) (labels : List String) (ttl : BitVec 32) (ip : Ipv4Addr) : Message :=
  { Message.response id .query with
    queries := [⟨⟨labels.map ofText, true⟩, .a, 1⟩]
    answers := [⟨⟨labels.map ofText, true⟩, ttl, .a ip⟩] }

/-- A response with one answer that may be kept for a minute. -/
def minuteAnswer (id : BitVec 16) : Message := answer id ["www", "org"] 60 (.new 1 2 3 4)

def laptop : SocketAddr := ⟨.v4 (.new 192 168 1 10), 5000⟩

def phone : SocketAddr := ⟨.v4 (.new 192 168 1 11), 6000⟩

/-! ## What is written is read back -/

theorem append_toBeBytes (n : BitVec 16) : n.extractLsb' 8 8 ++ n.extractLsb' 0 8 = n :=
  xid_toBeBytes_append []

theorem readU16_toBeBytes (n : BitVec 16) (rest : Bytes) :
    readU16 (toBeBytes n ++ rest) = some (n, rest) := by
  simp only [toBeBytes, List.cons_append, List.nil_append, readU16, append_toBeBytes]

theorem readLabels_valid {fuel : Nat} {bytes rest : Bytes} {labels : List Label}
    (read : readLabels fuel bytes = some (labels, rest)) :
    ∀ label ∈ labels, 0 < label.length ∧ label.length ≤ 63 := by
  induction fuel generalizing bytes labels rest with
  | zero => cases read
  | succ fuel ih =>
    cases bytes with
    | nil => cases read
    | cons length bytes =>
      unfold readLabels at read
      split at read
      · cases read
        exact nofun
      · rename_i nonzero
        split at read
        · rename_i inside
          obtain ⟨⟨labels', rest'⟩, later, same⟩ := Option.map_eq_some_iff.mp read
          cases same
          have positive : length.toNat ≠ 0 := by
            intro zero
            exact nonzero (BitVec.eq_of_toNat_eq zero)
          intro label member
          rcases List.mem_cons.mp member with rfl | member
          · rw [List.length_take]
            omega
          · exact ih later label member
        · cases read

theorem readLabels_write {labels : List Label} {fuel : Nat} {rest : Bytes}
    (valid : ∀ label ∈ labels, 0 < label.length ∧ label.length ≤ 63)
    (enough : labels.length < fuel) :
    readLabels fuel ((labels.flatMap fun label => BitVec.ofNat 8 label.length :: label) ++
      0 :: rest) = some (labels, rest) := by
  induction labels generalizing fuel with
  | nil =>
    obtain ⟨fuel, rfl⟩ := Nat.exists_eq_succ_of_ne_zero (by omega : fuel ≠ 0)
    simp [readLabels]
  | cons label labels ih =>
    obtain ⟨fuel, rfl⟩ := Nat.exists_eq_succ_of_ne_zero (by omega : fuel ≠ 0)
    obtain ⟨positive, short⟩ := valid label List.mem_cons_self
    have length : (BitVec.ofNat 8 label.length).toNat = label.length := by
      rw [BitVec.toNat_ofNat]
      omega
    have nonzero : BitVec.ofNat 8 label.length ≠ 0 := by
      intro zero
      rw [zero] at length
      simp at length
      omega
    have later := ih (fun label member => valid label (List.mem_cons_of_mem _ member))
      (by simpa using enough)
    rw [List.flatMap_cons, List.append_assoc, List.cons_append]
    unfold readLabels
    rw [if_neg nonzero, length, if_pos ⟨short, by simp⟩, List.drop_left, later]
    simp

theorem length_le_flatMap (labels : List Label) :
    labels.length ≤ (labels.flatMap fun label => BitVec.ofNat 8 label.length :: label).length := by
  induction labels with
  | nil => exact Nat.le_refl 0
  | cons label labels ih =>
    rw [List.flatMap_cons, List.length_append, List.length_cons, List.length_cons]
    omega

/-- The question has a name that can be written. -/
def Valid (question : Query) : Prop :=
  question.name.isFqdn = true ∧
    ∀ label ∈ question.name.labels, 0 < label.length ∧ label.length ≤ 63

theorem readQuestion_valid {bytes rest : Bytes} {question : Query}
    (read : readQuestion bytes = some (question, rest)) : Valid question := by
  simp only [readQuestion, readName, Option.bind_eq_bind, Option.bind_eq_some_iff,
    Option.map_eq_some_iff] at read
  obtain ⟨⟨name, bytes₁⟩, ⟨⟨labels, bytes₂⟩, labelsRead, same⟩, _, _, _, _, final⟩ := read
  cases same
  cases final
  exact ⟨rfl, readLabels_valid labelsRead⟩

theorem readQuestion_write {question : Query} (valid : Valid question) (rest : Bytes) :
    readQuestion (writeQuestion question ++ rest) = some (question, rest) := by
  obtain ⟨⟨labels, isFqdn⟩, queryType, queryClass⟩ := question
  obtain ⟨rfl, valid⟩ := valid
  have name : readName (writeName ⟨labels, true⟩ ++
      (toBeBytes queryType ++ (toBeBytes queryClass ++ rest))) =
      some (⟨labels, true⟩, toBeBytes queryType ++ (toBeBytes queryClass ++ rest)) := by
    unfold readName writeName
    rw [List.append_assoc, List.cons_append, List.nil_append, readLabels_write valid]
    · rfl
    · have enough := length_le_flatMap labels
      rw [List.length_append]
      exact Nat.lt_succ_of_le (Nat.le_trans enough (Nat.le_add_right _ _))
  unfold readQuestion writeQuestion
  simp only [List.append_assoc] at name ⊢
  simp only [name, readU16_toBeBytes, Option.bind_eq_bind, Option.bind_some]

section Many

variable {α : Type} {read : Bytes → Option (α × Bytes)} {write : α → Bytes} {count : Nat}
  {bytes rest : Bytes} {items : List α}

theorem readMany_spec (h : readMany read count bytes = some (items, rest)) :
    items.length = count ∧ ∀ item ∈ items, ∃ bytes rest, read bytes = some (item, rest) := by
  induction count generalizing bytes items with
  | zero =>
    cases h
    exact ⟨rfl, nofun⟩
  | succ count ih =>
    simp only [readMany, Option.bind_eq_bind, Option.bind_eq_some_iff, Option.some.injEq] at h
    obtain ⟨⟨item, bytes₁⟩, first, ⟨items', bytes₂⟩, later, same⟩ := h
    cases same
    obtain ⟨length, each⟩ := ih later
    refine ⟨by rw [List.length_cons, length], ?_⟩
    exact List.forall_mem_cons.mpr ⟨⟨bytes, bytes₁, first⟩, each⟩

theorem readMany_write
    (each : ∀ item ∈ items, ∀ rest, read (write item ++ rest) = some (item, rest)) :
    readMany read items.length (items.flatMap write ++ rest) = some (items, rest) := by
  induction items with
  | nil => rfl
  | cons item items ih =>
    have first := each item List.mem_cons_self (items.flatMap write ++ rest)
    have later := ih fun item member => each item (List.mem_cons_of_mem _ member)
    rw [List.flatMap_cons, List.append_assoc, List.length_cons]
    simp only [readMany, first, later, Option.bind_eq_bind, Option.bind_some]

theorem readMany_nil (nothing : read [] = none) (h : readMany read count [] = some (items, rest)) :
    items = [] ∧ rest = [] := by
  cases count with
  | zero =>
    cases h
    exact ⟨rfl, rfl⟩
  | succ count =>
    simp only [readMany, nothing, Option.bind_eq_bind, Option.bind_none] at h
    cases h

end Many

/-! ## The library is as documented -/

theorem readBody_spec {id : BitVec 16} {bytes : Bytes} {message : Message}
    (read : readBody id bytes = some message) :
    message.id = id ∧ ∃ rest rest',
      readMany readQuestion (xid (bytes.drop 2)).toNat (bytes.drop 10) =
        some (message.queries, rest) ∧
      readMany readRecord (xid (bytes.drop 4)).toNat rest = some (message.answers, rest') := by
  unfold readBody at read
  split at read
  · rename_i f₁ f₂ q₁ q₂ a₁ a₂ n₁ n₂ r₁ r₂ bytes
    split at read
    · simp only [Option.bind_eq_bind, Option.bind_eq_some_iff, Option.some.injEq] at read
      obtain ⟨⟨queries, rest⟩, questions, ⟨answers, rest'⟩, records, _, _, same⟩ := read
      cases same
      exact ⟨rfl, rest, rest', questions, records⟩
    · cases read
  · cases read

theorem fromBytes_eq_some {bytes : Bytes} {message : Message} :
    fromBytes bytes = some message ↔
      12 ≤ bytes.length ∧ readBody (xid bytes) (bytes.drop 2) = some message := by
  unfold fromBytes
  split
  · rename_i short
    exact ⟨nofun, fun h => absurd h.1 (Nat.not_le_of_lt short)⟩
  · rename_i long
    exact ⟨fun h => ⟨Nat.le_of_not_lt long, h⟩, fun h => h.2⟩

theorem drop_two_setXid (n : BitVec 16) (bytes : Bytes) (long : 12 ≤ bytes.length) :
    (setXid n bytes).drop 2 = bytes.drop 2 := by
  rcases bytes with - | ⟨hi, - | ⟨lo, rest⟩⟩
  · simp at long
  · simp at long
  · rfl

theorem readBody_id (id n : BitVec 16) (bytes : Bytes) :
    readBody n bytes = (readBody id bytes).map fun message => { message with id := n } := by
  unfold readBody
  split
  · split
    · rename_i bytes _
      simp only [Option.bind_eq_bind]
      cases readMany readQuestion _ bytes with
      | none => rfl
      | some questions =>
        simp only [Option.bind_some]
        cases readMany readRecord _ questions.2 with
        | none => rfl
        | some answers =>
          simp only [Option.bind_some]
          cases readMany readRecord _ answers.2 <;> rfl
    · rfl
  · rfl

/-- Without pointers the id is independent of the rest. -/
theorem fromBytes_setXid (n : BitVec 16) (bytes : Bytes) :
    library.fromBytes (setXid n bytes) =
      (library.fromBytes bytes).map fun message => { message with id := n } := by
  change fromBytes _ = (fromBytes _).map _
  unfold fromBytes
  rw [length_setXid]
  split
  · rfl
  · rename_i long
    have long := Nat.le_of_not_lt long
    rw [xid_setXid (Nat.le_trans (by decide) long), drop_two_setXid n bytes long]
    exact readBody_id _ _ _

theorem tcBit_flags (response aa tc rd : Bool) (opCode : BitVec 4) :
    (BitVec.ofBool response ++ opCode ++ BitVec.ofBool aa ++ BitVec.ofBool tc ++
      BitVec.ofBool rd).getLsbD 1 = tc := by
  simp only [BitVec.getLsbD_append]
  simp

theorem documented : library.Documented where
  header := by
    intro bytes message parsed
    obtain ⟨long, read⟩ := fromBytes_eq_some.mp parsed
    exact ⟨long, (readBody_spec read).1.symm⟩
  emit := by
    intro message
    refine ⟨?_, xid_toBeBytes_append _, ?_⟩
    · simp [library, emit, toBeBytes, writeFlags, writeCount]
    · exact tcBit_flags _ _ _ _ _
  truncate := fun message => ⟨rfl, rfl⟩
  truncated := by
    intro bytes message rest parsed again
    obtain ⟨-, read⟩ := fromBytes_eq_some.mp parsed
    obtain ⟨-, after, _, questions, -⟩ := readBody_spec read
    obtain ⟨length, each⟩ := readMany_spec questions
    have written : readMany readQuestion message.queries.length
        (message.queries.flatMap writeQuestion ++ []) = some (message.queries, []) := by
      apply readMany_write
      intro question member rest
      obtain ⟨_, _, read⟩ := each question member
      exact readQuestion_write (readQuestion_valid read) rest
    have again : fromBytes (emit (truncate message)) = some rest := again
    obtain ⟨-, reread⟩ := fromBytes_eq_some.mp again
    obtain ⟨-, after', last, questions', records⟩ := readBody_spec reread
    have count : (xid (((emit (truncate message)).drop 2).drop 2)).toNat =
        message.queries.length := by
      change (xid (toBeBytes (BitVec.ofNat 16 message.queries.length) ++ _)).toNat = _
      rw [xid_toBeBytes_append, BitVec.toNat_ofNat, length]
      exact Nat.mod_eq_of_lt (BitVec.isLt _)
    have body : ((emit (truncate message)).drop 2).drop 10 =
        message.queries.flatMap writeQuestion ++ [] := rfl
    have noAnswers : xid (((emit (truncate message)).drop 2).drop 4) = 0 :=
      xid_toBeBytes_append _
    rw [count, body, written] at questions'
    rw [noAnswers] at records
    have same := Prod.ext_iff.mp (Option.some.inj questions')
    have none' := Prod.ext_iff.mp (Option.some.inj records)
    exact ⟨same.1.symm, none'.1.symm⟩
  headerOnly := by
    intro bytes message parsed length
    obtain ⟨-, read⟩ := fromBytes_eq_some.mp parsed
    obtain ⟨-, rest, rest', questions, records⟩ := readBody_spec read
    have nothing : (bytes.drop 2).drop 10 = [] := by
      rw [List.drop_drop, List.drop_eq_nil_iff]
      omega
    rw [nothing] at questions
    obtain ⟨noQuestions, rfl⟩ := readMany_nil rfl questions
    exact ⟨noQuestions, (readMany_nil rfl records).1⟩
  plainUtf8 _ := rfl
  plainAscii _ := rfl
  arpa := by
    intro name net read
    change parseArpaName name = some net at read
    unfold parseArpaName at read
    split at read
    · rename_i d c b a inAddr arpa labels
      split at read
      · rename_i spells
        exact ⟨arpa, by simp [labels], spells.2⟩
      · cases read
    · cases read

end TrimRouter.Dns.Uncompressed
