import TrimRouter.Config.Accepted
import TrimRouter.Dns.Zones
import TrimRouter.Lib.Separated

/-!
# Queries for host names

A host is registered under one label in lower case, and asked for by that label alone or below
`lan`.  The worker compares the text that the library writes for the name of the question, so a
label that the library decodes is not found under its encoding; and it takes the name `lan` for the
zone before it looks for a host.  The results are `registered_host_resolves_iff` and, for all other
names, `public_name_not_intercepted`.
-/

namespace TrimRouter.Dns

open Uncompressed (library emit askFor ofText)

variable {lib : Hickory} {query : Bytes} {message : Message} {question : Query} {label last : Label}
  {before rest : List Label} {table : LocalDnsTable} {host name : String} {ip : Ipv4Addr} {c : Char}
  {cs : List Char} {text : String}

/-! ## Characters of a name -/

theorem toNat_lt_of_hostnameLabel (valid : IsHostnameLabel host) (member : c ∈ host.toList) :
    c.toNat < 128 := by
  rcases valid.chars c member with lower | digit | rfl
  · have range : (decide (c.val ≥ 'a'.val) && decide (c.val ≤ 'z'.val)) = true := lower
    have last := of_decide_eq_true (Bool.and_eq_true_iff.mp range).2
    exact lt_of_le_of_lt (UInt32.le_iff_toNat_le.mp last) (by decide)
  · have range : (decide (c.val ≥ '0'.val) && decide (c.val ≤ '9'.val)) = true := digit
    have last := of_decide_eq_true (Bool.and_eq_true_iff.mp range).2
    exact lt_of_le_of_lt (UInt32.le_iff_toNat_le.mp last) (by decide)
  · decide

theorem dot_notMem_hostnameLabel (valid : IsHostnameLabel host) : '.' ∉ host.toList := by
  intro dot
  rcases valid.chars '.' dot with lower | digit | hyphen
  · exact absurd lower (by decide)
  · exact absurd digit (by decide)
  · exact absurd hyphen (by decide)

theorem contains_dot_hostnameLabel (valid : IsHostnameLabel host) :
    host.toList.contains '.' = false := by
  rw [Bool.eq_false_iff]
  intro dot
  exact dot_notMem_hostnameLabel valid (List.contains_iff_mem.mp dot)

theorem map_toLower_of_hostName (written : hostName lib label = host) :
    (lib.labelToUtf8 label).map Char.toLower = host.toList := by
  rw [← written, hostName, String.toList_ofList]

theorem toLower_of_high (high : 128 ≤ c.toNat) : c.toLower = c := by
  unfold Char.toLower
  rw [dif_neg]
  intro range
  have small : c.toNat < 128 := lt_of_le_of_lt (UInt32.le_iff_toNat_le.mp range.2) (by decide)
  exact absurd high (Nat.not_le_of_lt small)

theorem mem_rdropWhile {p : Char → Bool} (member : c ∈ cs) (kept : p c = false) :
    c ∈ cs.rdropWhile p := by
  have split : c ∈ cs.reverse.takeWhile p ++ cs.reverse.dropWhile p := by
    rw [List.takeWhile_append_dropWhile]
    exact List.mem_reverse.mpr member
  rcases List.mem_append.mp split with dropped | stays
  · have taken := List.mem_takeWhile_imp dropped
    rw [kept] at taken
    cases taken
  · exact List.mem_reverse.mpr stays

theorem mem_lowerName (high : 128 ≤ c.toNat) (member : c ∈ text.toList) : c ∈ lowerName text := by
  have noDot : (c == '.') = false := by
    rw [beq_eq_false_iff_ne]
    rintro rfl
    exact absurd high (by decide)
  exact List.mem_map.mpr ⟨c, mem_rdropWhile member noDot, toLower_of_high high⟩

theorem mem_text {write : Label → List Char} {name : Name} (listed : label ∈ name.labels)
    (member : c ∈ write label) : c ∈ (name.text write).toList := by
  have inside : ∀ texts : List (List Char), ∀ cs ∈ texts, c ∈ cs → c ∈ ['.'].intercalate texts := by
    intro texts
    induction texts with
    | nil => exact nofun
    | cons first later ih =>
      intro cs listed member
      cases later with
      | nil =>
        rw [List.intercalate_singleton]
        exact List.mem_singleton.mp listed ▸ member
      | cons second rest =>
        rw [List.intercalate_cons_cons]
        rcases List.mem_cons.mp listed with rfl | further
        · exact List.mem_append_left _ (List.mem_append_left _ member)
        · exact List.mem_append_right _ (ih cs further member)
  unfold Name.text
  rw [String.toList_ofList]
  exact List.mem_append_left _ (inside _ _ (List.mem_map_of_mem listed) member)

/-- A character outside ASCII stays in the name that is looked for. -/
theorem mem_extractLocalForwardName {qualified : Bool} (high : 128 ≤ c.toNat)
    (member : c ∈ text.toList) (found : extractLocalForwardName text = some (host, qualified)) :
    c ∈ host.toList := by
  have lower := mem_lowerName high member
  unfold extractLocalForwardName at found
  simp only at found
  split at found
  · cases found
  · split at found
    · rename_i front cut
      obtain ⟨suffix, whole, zone⟩ := List.dropSuffix?_eq_some_iff.mp cut
      split at found
      · cases found
      · cases found
        rw [whole, beq_iff_eq.mp zone] at lower
        rw [String.toList_ofList]
        rcases List.mem_append.mp lower with inside | ascii
        · exact inside
        · have all : ('.' :: localDomain.toList).all (·.toNat < 128) = true := by decide
          have small := of_decide_eq_true (List.all_eq_true.mp all c ascii)
          exact absurd high (Nat.not_le_of_lt small)
    · split at found
      · cases found
      · cases found
        rw [String.toList_ofList]
        exact lower

/-! ## Registered hosts -/

/-- Labels of letters, digits and hyphens that do not begin with a hyphen are written as they are
or decoded, to a text that is not in ASCII. -/
def Hickory.Decodes (lib : Hickory) : Prop :=
  ∀ label : Label, isLdhText (label.chars.map Char.toLower) = true →
    lib.labelToUtf8 label = label.chars ∨ ∃ c ∈ lib.labelToUtf8 label, 128 ≤ c.toNat

/-- The query asks for the address of a host by its label, alone or below `lan`. -/
structure AsksHost (lib : Hickory) (query : Bytes) (message : Message) (question : Query)
    (label : Label) (rest : List Label) : Prop where
  parsed : lib.fromBytes query = some message
  opCode : message.opCode = .query
  first : message.queries.head? = some question
  address : question.queryType = .a
  labels : question.name.labels = label :: rest
  zone : rest = [] ∨ ∃ lan, rest = [lan] ∧ lan.Spells localDomain

theorem extractLocalForwardName_bare (labels : question.name.labels = [label])
    (valid : IsHostnameLabel host) (written : hostName lib label = host) :
    extractLocalForwardName (lib.toUtf8 question.name) =
      if host = localDomain then none else some (host, false) := by
  have spelt := map_toLower_of_hostName written
  have undotted := dot_notMem_hostnameLabel valid
  have single : question.name.labels = [] ++ [label] := labels
  have text := lowerName_text single spelt undotted valid.nonempty
  rw [List.isEmpty_nil, if_pos rfl] at text
  have uncut : host.toList.dropSuffix? ('.' :: localDomain.toList) = none := by
    rw [Option.eq_none_iff_forall_ne_some]
    intro front cut
    obtain ⟨suffix, whole, zone⟩ := List.dropSuffix?_eq_some_iff.mp cut
    apply undotted
    rw [whole, beq_iff_eq.mp zone]
    exact List.mem_append_right _ List.mem_cons_self
  have noDot := contains_dot_hostnameLabel valid
  have some' : host.toList.isEmpty = false := by
    rw [Bool.eq_false_iff]
    intro empty
    exact valid.nonempty (List.isEmpty_iff.mp empty)
  rw [extractLocalForwardName, Hickory.toUtf8, text]
  simp only [uncut, noDot, some', Bool.or_false, beq_iff_eq, String.toList_inj,
    Bool.false_eq_true, if_false, String.ofList_toList]

/-- A host that is written as it is registered is found, unless it is `lan` alone. -/
theorem extractLocalForwardName_host (doc : lib.Documented)
    (asks : AsksHost lib query message question label rest) (valid : IsHostnameLabel host)
    (written : hostName lib label = host) (notZone : ¬ (rest = [] ∧ host = localDomain)) :
    ∃ qualified, extractLocalForwardName (lib.toUtf8 question.name) = some (host, qualified) := by
  rcases asks.zone with rfl | ⟨lan, rfl, spells⟩
  · refine ⟨false, ?_⟩
    rw [extractLocalForwardName_bare asks.labels valid written,
      if_neg fun zone => notZone ⟨rfl, zone⟩]
  · have labels : question.name.labels = [label] ++ [lan] := asks.labels
    have undotted : (lib.labelToUtf8 label).contains '.' = false := by
      rw [← contains_dot_map_toLower, map_toLower_of_hostName written]
      exact contains_dot_hostnameLabel valid
    refine ⟨true, ?_⟩
    rw [extractLocalForwardName_lan doc labels spells]
    simp only [undotted, Bool.false_eq_true, if_false]
    rw [← hostName, written]

theorem resolveQuestion_host {qualified : Bool} (address : question.queryType = .a)
    (found : extractLocalForwardName (lib.toUtf8 question.name) = some (host, qualified))
    (registered : table.hosts.lookup host = some ip) :
    resolveQuestion lib table message question = some (aResponse message question.name ip) := by
  simp [resolveQuestion, found, registered, address]

/-- The table with one host. -/
def LocalDnsTable.only (host : String) (ip : Ipv4Addr) : LocalDnsTable :=
  LocalDnsTable.empty.register host ip

theorem lookup_only_eq_none (other : name ≠ host) :
    (LocalDnsTable.only host ip).hosts.lookup name = none :=
  AList.lookup_insert_ne other

theorem resolveQuestion_ne_address (address : question.queryType = .a)
    (unlisted : ∀ name qualified,
      extractLocalForwardName (lib.toUtf8 question.name) = some (name, qualified) →
        table.hosts.lookup name = none) :
    resolveQuestion lib table message question ≠ some (aResponse message question.name ip) := by
  have nxdomain : nxdomainResponse message ≠ aResponse message question.name ip := by
    intro same
    have codes := congrArg Message.responseCode same
    cases codes
  have zones : resolveZones lib table message question ≠
      some (aResponse message question.name ip) := by
    unfold resolveZones
    rw [address, if_neg (by decide)]
    split
    · exact fun same => nxdomain (Option.some.inj same)
    · exact nofun
  unfold resolveQuestion
  split
  · rename_i name qualified found
    rw [unlisted name qualified found]
    simp only
    split
    · exact fun same => nxdomain (Option.some.inj same)
    · exact zones
  · exact zones

theorem isLdhText_of_hostnameLabel (valid : IsHostnameLabel host) :
    isLdhText host.toList = true := by
  rw [isLdhText, Bool.and_eq_true, bne_iff_ne, List.all_eq_true]
  refine ⟨?_, valid.first⟩
  intro c member
  have classes : c.isAlphanum = (c.isUpper || c.isLower || c.isDigit) := rfl
  rcases valid.chars c member with isLower | isDigit | hyphen
  · simp [isLdh, classes, isLower]
  · simp [isLdh, classes, isDigit]
  · simp [isLdh, hyphen]

/-- A host that the sanitiser accepts, registered at an address, is found by its label, alone or
below `lan` and in any letter case, whatever else is registered, exactly when the library does not
decode the label and the question is not for `lan` alone.  A label that does not begin with `xn--`
is not decoded. -/
theorem registered_host_resolves_iff (doc : lib.Documented) (decodes : lib.Decodes) {raw : String}
    (accepted : sanitizeHostname raw = some host)
    (asks : AsksHost lib query message question label rest) (spells : label.Spells host)
    (ip : Ipv4Addr) :
    ((∀ table : LocalDnsTable, table.hosts.lookup host = some ip →
        resolveQuestion lib table message question = some (aResponse message question.name ip) ∧
        tryResolveLocalQuery lib table query =
          some (lib.emit (aResponse message question.name ip))) ↔
      lib.labelToUtf8 label = label.chars ∧ ¬ (rest = [] ∧ host = localDomain)) ∧
    (host.toList.take 4 ≠ "xn--".toList → lib.labelToUtf8 label = label.chars) := by
  have valid := sanitizeHostname_label accepted
  have ldh : isLdhText (label.chars.map Char.toLower) = true := by
    rw [spells]
    exact isLdhText_of_hostnameLabel valid
  refine ⟨⟨?_, ?_⟩, ?_⟩
  · intro resolves
    have found := (resolves (.only host ip) (AList.lookup_insert _)).1
    constructor
    · refine (decodes label ldh).resolve_right ?_
      rintro ⟨c, member, high⟩
      -- the name that is looked for has a character that the host does not have
      refine resolveQuestion_ne_address asks.address ?_ found
      intro name qualified extracted
      apply lookup_only_eq_none
      rintro rfl
      have listed : label ∈ question.name.labels := by
        rw [asks.labels]
        exact List.mem_cons_self
      have inside := mem_extractLocalForwardName high (mem_text listed member) extracted
      exact absurd high (Nat.not_le_of_lt (toNat_lt_of_hostnameLabel valid inside))
    · rintro ⟨rfl, rfl⟩
      refine resolveQuestion_ne_address asks.address ?_ found
      intro name qualified extracted
      have written : hostName lib label = localDomain := by
        rw [hostName, doc.utf8_spells spells (by decide), String.ofList_toList]
      rw [extractLocalForwardName_bare asks.labels valid written, if_pos rfl] at extracted
      cases extracted
  · rintro ⟨undecoded, notZone⟩ table registered
    have written : hostName lib label = host := by
      rw [hostName, undecoded, spells, String.ofList_toList]
    obtain ⟨qualified, extracted⟩ := extractLocalForwardName_host doc asks valid written notZone
    have resolved : resolveQuestion lib table message question =
        some (aResponse message question.name ip) :=
      resolveQuestion_host asks.address extracted registered
    refine ⟨resolved, tryResolveLocalQuery_eq_some.mpr ?_⟩
    exact ⟨message, question, _, asks.parsed, asks.opCode, asks.first, resolved, rfl⟩
  · intro notXn
    apply doc.plainUtf8
    rw [Label.isPlain, isPlainText, ldh, Bool.true_and, bne_iff_ne, spells]
    exact notXn

/-- A printer is found under its name, in capitals and below `lan`. -/
theorem printer_resolves :
    sanitizeHostname "Printer.example" = some "printer" ∧
      ∀ table : LocalDnsTable, table.hosts.lookup "printer" = some (.new 192 168 1 20) →
        tryResolveLocalQuery library table
            (emit (askFor 5 ["PRINTER", "Lan"] .a)) =
          some (emit (aResponse (askFor 5 ["PRINTER", "Lan"] .a)
            ⟨[ofText "PRINTER", ofText "Lan"], true⟩
            (.new 192 168 1 20))) := by
  have accepted : sanitizeHostname "Printer.example" = some "printer" := by decide +kernel
  have asks : AsksHost library
      (emit (askFor 5 ["PRINTER", "Lan"] .a))
      (askFor 5 ["PRINTER", "Lan"] .a)
      ⟨⟨[ofText "PRINTER", ofText "Lan"], true⟩, .a, 1⟩
      (ofText "PRINTER") [ofText "Lan"] :=
    ⟨by decide +kernel, rfl, rfl, rfl, rfl, .inr ⟨_, rfl, by decide⟩⟩
  have decodes : library.Decodes := fun _ _ => .inl rfl
  have resolves := (registered_host_resolves_iff Uncompressed.documented decodes accepted asks
    (by decide) (.new 192 168 1 20)).1.mpr ⟨rfl, fun zone => nomatch zone.1⟩
  exact ⟨accepted, fun table registered => (resolves table registered).2⟩

/-- A library that decodes the label of one international name. -/
def decodingLibrary : Hickory :=
  { library with
    labelToUtf8 := fun label =>
      if label.Spells "xn--bcher-kva" then "bücher".toList else label.chars }

theorem decodingLibrary_documented : decodingLibrary.Documented :=
  { Uncompressed.documented with
    plainUtf8 := by
      intro label plain
      refine if_neg ?_
      intro international
      have notXn := (Bool.and_eq_true_iff.mp plain).2
      rw [international] at notXn
      exact absurd notXn (by decide) }

/-- The host `lan` is not found by its name alone, and an international name is not found at
all. -/
theorem registered_hosts_unresolved :
    sanitizeHostname "LAN" = some "lan" ∧
      tryResolveLocalQuery library (.only "lan" (.new 192 168 1 20))
        (emit (askFor 5 ["lan"] .a)) = none ∧
    sanitizeHostname "xn--bcher-kva" = some "xn--bcher-kva" ∧
      decodingLibrary.Documented ∧ decodingLibrary.Decodes ∧
      tryResolveLocalQuery decodingLibrary (.only "xn--bcher-kva" (.new 192 168 1 20))
        (emit (askFor 5 ["xn--bcher-kva"] .a)) = none ∧
      tryResolveLocalQuery decodingLibrary (.only "xn--bcher-kva" (.new 192 168 1 20))
          (emit (askFor 5 ["xn--bcher-kva", "lan"] .a)) =
        some (emit (nxdomainResponse (askFor 5 ["xn--bcher-kva", "lan"] .a))) := by
  refine ⟨by decide +kernel, by decide +kernel, by decide +kernel, decodingLibrary_documented, ?_,
    by decide +kernel, by decide +kernel⟩
  intro label _
  by_cases international : label.Spells "xn--bcher-kva"
  · have decoded : decodingLibrary.labelToUtf8 label = "bücher".toList := if_pos international
    rw [decoded]
    exact .inr ⟨'ü', by decide, by decide⟩
  · exact .inl (if_neg international)

/-! ## Public names -/

theorem dot_not_mem_of_isPlain (plain : label.isPlain = true) :
    '.' ∉ label.chars.map Char.toLower := by
  have ldh := (Bool.and_eq_true_iff.mp (Bool.and_eq_true_iff.mp plain).1).1
  intro dot
  exact absurd (List.all_eq_true.mp ldh '.' dot) (by decide)

theorem lowerName_plain (doc : lib.Documented) (labels : question.name.labels = before ++ [last])
    (deep : before ≠ []) (some' : last ≠ []) (plain : last.isPlain = true) :
    lowerName (lib.toUtf8 question.name) =
      (['.'].intercalate (before.map lib.labelToUtf8)).map Char.toLower ++
        '.' :: last.chars.map Char.toLower := by
  have spelt : (lib.labelToUtf8 last).map Char.toLower =
      (String.ofList (last.chars.map Char.toLower)).toList := by
    rw [doc.plainUtf8 plain, String.toList_ofList]
  have undotted : '.' ∉ (String.ofList (last.chars.map Char.toLower)).toList := by
    rw [String.toList_ofList]
    exact dot_not_mem_of_isPlain plain
  have nonempty : (String.ofList (last.chars.map Char.toLower)).toList ≠ [] := by
    rw [String.toList_ofList]
    intro empty
    exact some' (List.map_eq_nil_iff.mp (List.map_eq_nil_iff.mp empty))
  have text := lowerName_text labels spelt undotted nonempty
  rw [if_neg (by simpa using deep), String.toList_ofList] at text
  exact text

theorem label_of_suffix {front tail zone : List Char} (undotted : '.' ∉ tail)
    (undotted' : '.' ∉ zone) (ends : '.' :: zone <:+ front ++ '.' :: tail) : tail = zone := by
  obtain ⟨begin, whole⟩ := ends
  exact (Separated.split_last undotted' undotted whole).2.symm

/-- A name of two labels or more that is not below `lan` is not taken for a host. -/
theorem extractLocalForwardName_eq_none {front tail : List Char}
    (lower : lowerName text = front ++ '.' :: tail) (undotted : '.' ∉ tail)
    (notLan : tail ≠ localDomain.toList) : extractLocalForwardName text = none := by
  have dotted : '.' ∈ lowerName text := by
    rw [lower]
    exact List.mem_append_right _ List.mem_cons_self
  have uncut : (lowerName text).dropSuffix? ('.' :: localDomain.toList) = none := by
    rw [Option.eq_none_iff_forall_ne_some, lower]
    intro rest cut
    obtain ⟨suffix, whole, zone⟩ := List.dropSuffix?_eq_some_iff.mp cut
    have ends : '.' :: localDomain.toList <:+ front ++ '.' :: tail := by
      rw [whole, beq_iff_eq.mp zone]
      exact List.suffix_append rest _
    exact notLan (label_of_suffix undotted (by decide) ends)
  unfold extractLocalForwardName
  simp only [uncut, List.contains_iff_mem.mpr dotted, if_true]
  split
  · rfl
  · rfl

theorem isMdnsLocalDomain_eq_false {front tail : List Char}
    (lower : lowerName text = front ++ '.' :: tail) (undotted : '.' ∉ tail)
    (notLocal : tail ≠ mdnsDomain.toList) : isMdnsLocalDomain text = false := by
  have dotted : '.' ∈ lowerName text := by
    rw [lower]
    exact List.mem_append_right _ List.mem_cons_self
  unfold isMdnsLocalDomain
  simp only [Bool.or_eq_false_iff, beq_eq_false_iff_ne, ne_eq]
  constructor
  · intro zone
    rw [zone] at dotted
    exact absurd dotted (by decide)
  · rw [Bool.eq_false_iff, ne_eq, List.isSuffixOf_iff_suffix, lower]
    intro suffix
    exact notLocal (label_of_suffix undotted (by decide) suffix)

/-- The name has two or more labels, and the last one is plain and neither `lan` nor `local`. -/
structure IsPublic (name : Name) : Prop where
  deep : 2 ≤ name.labels.length
  plain : ∀ last ∈ name.labels.getLast?, last ≠ [] ∧ last.isPlain = true
  zone : ∀ last ∈ name.labels.getLast?,
    ¬ last.Spells localDomain ∧ ¬ last.Spells mdnsDomain

theorem IsPublic.lowerName_eq (doc : lib.Documented) (isPublic : IsPublic question.name) :
    ∃ front tail, lowerName (lib.toUtf8 question.name) = front ++ '.' :: tail ∧ '.' ∉ tail ∧
      tail ≠ localDomain.toList ∧ tail ≠ mdnsDomain.toList := by
  have deep := isPublic.deep
  rcases List.eq_nil_or_concat' question.name.labels with empty | ⟨before, last, labels⟩
  · rw [empty] at deep
    exact absurd deep (by decide)
  · have more : before ≠ [] := by
      rintro rfl
      rw [labels] at deep
      exact absurd deep (by simp)
    obtain ⟨some', plain⟩ := isPublic.plain last (by simp [labels])
    obtain ⟨notLan, notLocal⟩ := isPublic.zone last (by simp [labels])
    exact ⟨_, _, lowerName_plain doc labels more some' plain, dot_not_mem_of_isPlain plain,
      notLan, notLocal⟩

/-- Whatever is registered, a query for a public name is not answered locally, unless it is the
reverse lookup of an address that has a name. -/
theorem public_name_not_intercepted (doc : lib.Documented)
    (parsed : lib.fromBytes query = some message) (first : message.queries.head? = some question)
    (isPublic : IsPublic question.name) (table : LocalDnsTable) :
    tryResolveLocalQuery lib table query = none ∨
      question.queryType = .ptr ∧ ∃ net name, lib.parseArpaName question.name = some net ∧
        net.prefixLen = 32 ∧ table.ips.lookup net.addr = some name := by
  obtain ⟨front, tail, lower, undotted, notLan, notLocal⟩ := isPublic.lowerName_eq doc
  have resolved : resolveQuestion lib table message question =
      if question.queryType == .ptr then resolvePtr lib table message question.name else none := by
    simp only [resolveQuestion, extractLocalForwardName_eq_none lower undotted notLan, resolveZones,
      isMdnsLocalDomain_eq_false lower undotted notLocal, Bool.false_eq_true, if_false]
  by_cases ptr : question.queryType = .ptr
  · cases answer : resolvePtr lib table message question.name with
    | none =>
      rw [answer, ite_self] at resolved
      exact .inl (tryResolveLocalQuery_eq_none parsed first resolved)
    | some response =>
      simp only [resolvePtr, Option.bind_eq_bind, Option.bind_eq_some_iff] at answer
      obtain ⟨net, arpa, answer⟩ := answer
      split at answer
      · simp at answer
      · rename_i host
        obtain ⟨name, named, -⟩ := Option.bind_eq_some_iff.mp answer
        exact .inr ⟨ptr, net, name, arpa, not_not.mp host, named⟩
  · rw [if_neg (by simpa using ptr)] at resolved
    exact .inl (tryResolveLocalQuery_eq_none parsed first resolved)

/-- A host that calls itself `com` does not get the queries for `www.example.com`. -/
theorem www_example_com_not_intercepted :
    tryResolveLocalQuery library (.only "com" (.new 192 168 1 66))
      (emit (askFor 5 ["www", "Example", "com"] .a)) = none := by
  have isPublic : IsPublic ⟨["www", "Example", "com"].map ofText, true⟩ :=
    ⟨by decide, by decide, by decide⟩
  have parsed : library.fromBytes
      (emit (askFor 5 ["www", "Example", "com"] .a)) =
        some (askFor 5 ["www", "Example", "com"] .a) := by
    decide +kernel
  have either := public_name_not_intercepted Uncompressed.documented parsed rfl isPublic
    (.only "com" (.new 192 168 1 66))
  exact either.resolve_right fun reverse => absurd reverse.1 (by decide)

end TrimRouter.Dns
