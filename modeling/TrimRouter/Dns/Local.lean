import TrimRouter.Dns.Message
import TrimRouter.Lib.HashMap
import Mathlib.Data.List.Infix

/-!
# Local names

The part of `services/dns_forwarder/worker.rs` that answers questions about local names
itself: the tables of local hosts, the choice of the questions it answers, and the
authoritative responses.
-/

namespace TrimRouter.Dns

/-- `services::utils::LOCAL_DOMAIN`. -/
def localDomain : String := "lan"

/-- `services::utils::MDNS_DOMAIN`. -/
def mdnsDomain : String := "local"

/-! ## The tables -/

/-- `LocalDnsTable`: addresses by name, and names by address. -/
structure LocalDnsTable where
  hosts : HashMap String Ipv4Addr
  ips : HashMap Ipv4Addr String

namespace LocalDnsTable

def empty : LocalDnsTable := ⟨∅, ∅⟩

/-- The worker receives `RegisterLocalHost`. -/
def register (table : LocalDnsTable) (name : String) (ip : Ipv4Addr) : LocalDnsTable :=
  let ips :=
    match table.hosts.lookup name with
    | some oldIp => table.ips.erase oldIp
    | none => table.ips
  ⟨table.hosts.insert name ip, ips.insert ip name⟩

/-- The worker receives `DeregisterLocalHost`. -/
def deregister (table : LocalDnsTable) (name : String) : LocalDnsTable :=
  match table.hosts.lookup name with
  | some ip => ⟨table.hosts.erase name, table.ips.erase ip⟩
  | none => table

end LocalDnsTable

/-! ## Which questions are local -/

/-- `trim_end_matches('.')` and `to_ascii_lowercase`. -/
def lowerName (name : String) : List Char :=
  (name.toList.rdropWhile (· == '.')).map Char.toLower

/-- `extract_local_forward_name`: the host that a name stands for, and whether the name is
qualified with `lan`. -/
def extractLocalForwardName (name : String) : Option (String × Bool) :=
  let lower := lowerName name
  if lower == localDomain.toList || lower.isEmpty then none
  else
    match lower.dropSuffix? ('.' :: localDomain.toList) with
    | some host => if host.contains '.' then none else some (String.ofList host, true)
    | none => if lower.contains '.' then none else some (String.ofList lower, false)

/-- `is_mdns_local_domain`. -/
def isMdnsLocalDomain (name : String) : Bool :=
  let lower := lowerName name
  lower == mdnsDomain.toList || ('.' :: mdnsDomain.toList).isSuffixOf lower

/-! ## Responses -/

/-- The message that `build_authoritative_response` encodes. -/
def authoritativeResponse (queryMsg : Message) (rcode : ResponseCode) (answer : Option Record) :
    Message :=
  { Message.response queryMsg.id .query with
    responseCode := rcode
    authoritative := true
    recursionAvailable := true
    recursionDesired := queryMsg.recursionDesired
    queries := queryMsg.queries
    answers := answer.toList }

/-- `build_authoritative_nodata_response`. -/
def nodataResponse (queryMsg : Message) : Message := authoritativeResponse queryMsg .noError none

/-- `build_authoritative_a_response`. -/
def aResponse (queryMsg : Message) (qname : Name) (ip : Ipv4Addr) : Message :=
  authoritativeResponse queryMsg .noError (some ⟨qname, defaultTtlSecs, .a ip⟩)

/-- `build_authoritative_ptr_response`. -/
def ptrResponse (queryMsg : Message) (qname target : Name) : Message :=
  authoritativeResponse queryMsg .noError (some ⟨qname, defaultTtlSecs, .ptr target⟩)

/-- `build_authoritative_nxdomain_response`. -/
def nxdomainResponse (queryMsg : Message) : Message :=
  authoritativeResponse queryMsg .nxDomain none

variable (lib : Hickory)

/-- The branch of `try_resolve_local_query` for the reverse lookup of a local address. -/
def resolvePtr (table : LocalDnsTable) (queryMsg : Message) (qname : Name) : Option Message := do
  let net ← lib.parseArpaName qname
  if net.prefixLen ≠ 32 then none
  let hostname ← table.ips.lookup net.addr
  let target ← lib.nameFromAscii (hostname ++ "." ++ localDomain ++ ".")
  some (ptrResponse queryMsg qname target)

/-- The end of `try_resolve_local_query`, for a name that is no local host. -/
def resolveZones (table : LocalDnsTable) (queryMsg : Message) (question : Query) :
    Option Message :=
  if question.queryType == .ptr then resolvePtr lib table queryMsg question.name
  else if isMdnsLocalDomain (lib.toUtf8 question.name) then some (nxdomainResponse queryMsg)
  else none

/-- `try_resolve_local_query` on the first question of a query, up to the encoding. -/
def resolveQuestion (table : LocalDnsTable) (queryMsg : Message) (question : Query) :
    Option Message :=
  match extractLocalForwardName (lib.toUtf8 question.name) with
  | some (label, isLanQualified) =>
    match table.hosts.lookup label with
    | some ip =>
      if question.queryType == .a then some (aResponse queryMsg question.name ip)
      else some (nodataResponse queryMsg)
    | none =>
      if isLanQualified then some (nxdomainResponse queryMsg)
      else resolveZones lib table queryMsg question
  | none => resolveZones lib table queryMsg question

/-- `try_resolve_local_query`. -/
def tryResolveLocalQuery (table : LocalDnsTable) (queryBytes : Bytes) : Option Bytes := do
  let queryMsg ← lib.fromBytes queryBytes
  if queryMsg.opCode ≠ .query then none
  let question ← queryMsg.queries.head?
  let response ← resolveQuestion lib table queryMsg question
  some (lib.emit response)

/-! ## What is answered -/

variable {lib : Hickory} {table : LocalDnsTable} {queryMsg response : Message} {question : Query}
  {queryBytes bytes : Bytes}

theorem tryResolveLocalQuery_eq_some :
    tryResolveLocalQuery lib table queryBytes = some bytes ↔
      ∃ queryMsg question response, lib.fromBytes queryBytes = some queryMsg ∧
        queryMsg.opCode = .query ∧ queryMsg.queries.head? = some question ∧
        resolveQuestion lib table queryMsg question = some response ∧
        lib.emit response = bytes := by
  simp only [tryResolveLocalQuery, Option.bind_eq_bind, Option.bind_eq_some_iff]
  constructor
  · intro ⟨queryMsg, parsed, h⟩
    split at h
    · simp at h
    · rename_i opCode
      simp only [Option.bind_eq_some_iff, Option.some.injEq] at h
      obtain ⟨question, first, response, resolved, emitted⟩ := h
      exact ⟨queryMsg, question, response, parsed, not_not.mp opCode, first, resolved, emitted⟩
  · intro ⟨queryMsg, question, response, parsed, opCode, first, resolved, emitted⟩
    refine ⟨queryMsg, parsed, ?_⟩
    simp [opCode, first, resolved, emitted]

theorem resolveQuestion_authoritative
    (resolved : resolveQuestion lib table queryMsg question = some response) :
    ∃ rcode answer, response = authoritativeResponse queryMsg rcode answer := by
  have zones (resolved : resolveZones lib table queryMsg question = some response) :
      ∃ rcode answer, response = authoritativeResponse queryMsg rcode answer := by
    unfold resolveZones at resolved
    split at resolved
    · simp only [resolvePtr, Option.bind_eq_bind, Option.bind_eq_some_iff] at resolved
      obtain ⟨net, -, h⟩ := resolved
      split at h
      · simp at h
      · simp only [Option.bind_eq_some_iff, Option.some.injEq] at h
        obtain ⟨hostname, -, target, -, rfl⟩ := h
        exact ⟨_, _, rfl⟩
    · split at resolved
      · cases resolved
        exact ⟨_, _, rfl⟩
      · cases resolved
  unfold resolveQuestion at resolved
  split at resolved
  · split at resolved
    · split at resolved
      · cases resolved
        exact ⟨_, _, rfl⟩
      · cases resolved
        exact ⟨_, _, rfl⟩
    · split at resolved
      · cases resolved
        exact ⟨_, _, rfl⟩
      · exact zones resolved
  · exact zones resolved

theorem take_two_tryResolveLocalQuery (doc : lib.Documented)
    (resolved : tryResolveLocalQuery lib table queryBytes = some bytes) :
    bytes.take 2 = queryBytes.take 2 := by
  obtain ⟨queryMsg, question, response, parsed, -, -, answer, rfl⟩ :=
    tryResolveLocalQuery_eq_some.mp resolved
  obtain ⟨rcode, record, rfl⟩ := resolveQuestion_authoritative answer
  obtain ⟨long, same⟩ := doc.header parsed
  obtain ⟨emitted, id, -⟩ := doc.emit (authoritativeResponse queryMsg rcode record)
  rw [take_two_eq (le_trans (by decide) emitted), take_two_eq (le_trans (by decide) long), id, same]
  rfl

/-! ## The text of a name -/

theorem toLower_eq_dot {c : Char} : c.toLower = '.' ↔ c = '.' := by
  unfold Char.toLower
  split
  · rename_i upper
    constructor
    · intro dot
      have sum : c.val + ('a'.val - 'A'.val) = '.'.val := congrArg Char.val dot
      have value := congrArg UInt32.toNat sum
      have low := UInt32.le_iff_toNat_le.mp upper.1
      have high := UInt32.le_iff_toNat_le.mp upper.2
      rw [UInt32.toNat_add] at value
      simp at value low high
      omega
    · rintro rfl
      simp at upper
  · rfl

theorem contains_dot_map_toLower (cs : List Char) :
    (cs.map Char.toLower).contains '.' = cs.contains '.' := by
  simp [List.contains_eq_mem, List.mem_map, toLower_eq_dot]

theorem intercalate_concat {sep last : List Char} {before : List (List Char)}
    (some' : before ≠ []) :
    sep.intercalate (before ++ [last]) = sep.intercalate before ++ (sep ++ last) := by
  induction before with
  | nil => exact absurd rfl some'
  | cons first rest ih =>
    cases rest with
    | nil => simp [List.intercalate_cons_cons]
    | cons second rest =>
      have later := ih (by simp)
      simp only [List.cons_append, List.intercalate_cons_cons] at later ⊢
      rw [later]
      simp

/-- Trimming takes off the dot at the end and nothing of a body that does not end in one. -/
theorem rdropWhile_dot (body : List Char) {tail : List Char} (undotted : '.' ∉ tail)
    (some' : tail ≠ [])
    (marked : Bool) :
    ((body ++ tail) ++ if marked then ['.'] else []).rdropWhile (· == '.') = body ++ tail := by
  have kept : (body ++ tail).rdropWhile (· == '.') = body ++ tail := by
    rw [List.rdropWhile_eq_self_iff]
    intro nonempty dot
    rw [List.getLast_append_of_ne_nil _ some'] at dot
    have member := List.getLast_mem some'
    rw [beq_iff_eq.mp dot] at member
    exact undotted member
  cases marked with
  | false => rw [if_neg Bool.false_ne_true, List.append_nil, kept]
  | true => rw [if_pos rfl, List.rdropWhile_concat, if_pos (beq_self_eq_true '.'), kept]

theorem lowerName_text {label : Label → List Char} {name : Name} {before : List Label}
    {last : Label} {zone : String} (labels : name.labels = before ++ [last])
    (spelt : (label last).map Char.toLower = zone.toList) (undotted : '.' ∉ zone.toList)
    (some' : zone.toList ≠ []) :
    lowerName (name.text label) =
      if before.isEmpty then zone.toList
      else (['.'].intercalate (before.map label)).map Char.toLower ++ '.' :: zone.toList := by
  have plain : '.' ∉ label last := by
    intro dot
    apply undotted
    rw [← spelt]
    exact List.mem_map.mpr ⟨'.', dot, rfl⟩
  have written : label last ≠ [] := by
    intro none'
    rw [none'] at spelt
    exact some' spelt.symm
  unfold lowerName Name.text
  rw [String.toList_ofList, labels, List.map_append, List.map_cons, List.map_nil]
  cases before with
  | nil =>
    have trimmed := rdropWhile_dot [] plain written
      (name.isFqdn || ([] ++ [last] : List Label).isEmpty)
    simp only [List.nil_append] at trimmed
    simp only [List.map_nil, List.nil_append, List.intercalate_singleton, List.isEmpty_nil,
      if_true]
    rw [trimmed, spelt]
  | cons first rest =>
    rw [intercalate_concat (by simp)]
    have trimmed := rdropWhile_dot (['.'].intercalate ((first :: rest).map label) ++ ['.'])
      plain written (name.isFqdn || (first :: rest ++ [last]).isEmpty)
    rw [← List.append_assoc, trimmed]
    simp [spelt]

/-- Two labels or more are written with a dot. -/
theorem contains_dot_intercalate (first second : List Char) (rest : List (List Char)) :
    (['.'].intercalate (first :: second :: rest)).contains '.' = true := by
  simp [List.intercalate_cons_cons]

/-! ## The zones -/

variable {name : Name} {before : List Label} {last : Label}

/-- A plain text in any letter case is written as it is. -/
theorem Hickory.Documented.utf8_spells (doc : lib.Documented) {text : String}
    (spells : last.Spells text) (plain : isPlainText text.toList = true) :
    (lib.labelToUtf8 last).map Char.toLower = text.toList := by
  have isPlain : last.isPlain = true := by
    rw [Label.isPlain, spells]
    exact plain
  rw [doc.plainUtf8 isPlain]
  exact spells

theorem extractLocalForwardName_qualified {text : String} {host : List Char}
    (qualified : lowerName text = host ++ '.' :: localDomain.toList) :
    extractLocalForwardName text =
      if host.contains '.' then none else some (String.ofList host, true) := by
  have cut : (host ++ '.' :: localDomain.toList).dropSuffix? ('.' :: localDomain.toList) =
      some host := by
    rw [List.dropSuffix?_eq_some_iff]
    exact ⟨_, rfl, by simp⟩
  have longer : (host ++ '.' :: localDomain.toList == localDomain.toList) = false := by
    rw [beq_eq_false_iff_ne]
    intro same
    have lengths := congrArg List.length same
    simp only [List.length_append, List.length_cons] at lengths
    omega
  have written : (host ++ '.' :: localDomain.toList).isEmpty = false := by simp
  simp only [extractLocalForwardName, qualified, cut, longer, written, Bool.or_self,
    Bool.false_eq_true, if_false]

section

variable (doc : lib.Documented) (labels : name.labels = before ++ [last])

include doc labels

theorem extractLocalForwardName_lan (lan : last.Spells localDomain) :
    extractLocalForwardName (lib.toUtf8 name) =
      match before with
      | [host] =>
        if (lib.labelToUtf8 host).contains '.' then none
        else some (String.ofList ((lib.labelToUtf8 host).map Char.toLower), true)
      | _ => none := by
  have spelt := doc.utf8_spells lan (by decide)
  have text := lowerName_text labels spelt (by decide) (by decide)
  rcases before with - | ⟨host, - | ⟨second, rest⟩⟩
  · simp [extractLocalForwardName, Hickory.toUtf8, text]
  · rw [List.map_singleton, List.intercalate_singleton] at text
    rw [Hickory.toUtf8, extractLocalForwardName_qualified text, contains_dot_map_toLower]
  · rw [Hickory.toUtf8, extractLocalForwardName_qualified text, contains_dot_map_toLower,
      List.map_cons, List.map_cons, contains_dot_intercalate, if_pos rfl]

theorem extractLocalForwardName_mdns (mdns : last.Spells mdnsDomain) :
    extractLocalForwardName (lib.toUtf8 name) =
      if before.isEmpty then some (mdnsDomain, false) else none := by
  have spelt := doc.utf8_spells mdns (by decide)
  have text := lowerName_text labels spelt (by decide) (by decide)
  cases before with
  | nil =>
    rw [List.isEmpty_nil, if_pos rfl] at text
    rw [Hickory.toUtf8, extractLocalForwardName, text]
    rfl
  | cons first rest =>
    rw [if_neg (by simp)] at text
    generalize (['.'].intercalate ((first :: rest).map lib.labelToUtf8)).map Char.toLower = host
      at text
    -- the last three characters are not those of the zone `lan`
    have uncut : (host ++ '.' :: mdnsDomain.toList).dropSuffix? ('.' :: localDomain.toList) =
        none := by
      rw [Option.eq_none_iff_forall_ne_some]
      intro rest cut
      obtain ⟨suffix, same, isLan⟩ := List.dropSuffix?_eq_some_iff.mp cut
      rw [beq_iff_eq.mp isLan] at same
      have ends := congrArg (fun cs => cs.reverse.take 3) same
      simp [mdnsDomain, localDomain] at ends
    have different : (host ++ '.' :: mdnsDomain.toList == localDomain.toList) = false := by
      rw [beq_eq_false_iff_ne]
      intro same
      have lengths := congrArg List.length same
      simp [mdnsDomain, localDomain] at lengths
    have dotted : (host ++ '.' :: mdnsDomain.toList).contains '.' = true := by simp
    have written : (host ++ '.' :: mdnsDomain.toList).isEmpty = false := by simp
    simp only [Hickory.toUtf8, extractLocalForwardName, text, uncut, different, dotted, written,
      Bool.or_self, Bool.false_eq_true, if_false, if_true, List.isEmpty_cons]

theorem isMdnsLocalDomain_lan (lan : last.Spells localDomain) :
    isMdnsLocalDomain (lib.toUtf8 name) = false := by
  have spelt := doc.utf8_spells lan (by decide)
  have text := lowerName_text labels spelt (by decide) (by decide)
  have ends : ∃ host, lowerName (lib.toUtf8 name) = host ++ localDomain.toList := by
    cases before with
    | nil => exact ⟨[], text⟩
    | cons first rest =>
      rw [if_neg (by simp)] at text
      exact ⟨_, text.trans (List.append_cons _ _ _)⟩
  obtain ⟨host, ends⟩ := ends
  have last (suffix : List Char) (isEnd : suffix.reverse.take 2 = ['l', 'a']) :
      ¬ suffix <:+ host ++ localDomain.toList := by
    intro ⟨front, same⟩
    have reversed := congrArg (fun cs => cs.reverse.take 2) same
    simp only [List.reverse_append, localDomain] at reversed
    rw [List.take_append_of_le_length] at reversed
    · simp [isEnd] at reversed
    · have length := congrArg List.length isEnd
      simp only [List.length_take, List.length_cons, List.length_nil] at length
      omega
  unfold isMdnsLocalDomain
  simp only [ends, Bool.or_eq_false_iff, beq_eq_false_iff_ne, ne_eq]
  constructor
  · intro same
    exact last mdnsDomain.toList (by decide) ⟨[], same.symm⟩
  · rw [Bool.eq_false_iff]
    intro suffix
    exact last _ (by decide) (List.isSuffixOf_iff_suffix.mp suffix)

/-- The names of the zone `local` are recognised at any depth. -/
theorem isMdnsLocalDomain_mdns (mdns : last.Spells mdnsDomain) :
    isMdnsLocalDomain (lib.toUtf8 name) = true := by
  have spelt := doc.utf8_spells mdns (by decide)
  have text := lowerName_text labels spelt (by decide) (by decide)
  unfold isMdnsLocalDomain Hickory.toUtf8
  rw [text]
  cases before with
  | nil => rfl
  | cons first rest =>
    have ends (host : List Char) :
        ('.' :: mdnsDomain.toList).isSuffixOf (host ++ '.' :: mdnsDomain.toList) = true := by
      rw [List.isSuffixOf_iff_suffix]
      exact ⟨host, rfl⟩
    simp only [List.isEmpty_cons, Bool.false_eq_true, if_false, ends, Bool.or_true]

end

end TrimRouter.Dns
