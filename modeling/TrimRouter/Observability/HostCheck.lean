import TrimRouter.Config.Documents

/-!
# The `Host` header

`extract_host_name` and `is_allowed_host` of the observability server, which only answers requests
to its own names and addresses.  `host_check_exact_iff` says which headers it should not accept.
-/

namespace TrimRouter.Observability

open Str

/-! ## The check -/

/-- `extract_host_name`, of the trimmed header. -/
def hostPart (trimmed : Text) : Text :=
  match bracketed trimmed with
  | some (inner, _) => '[' :: inner ++ [']']
  | none => if 1 < trimmed.count ':' then trimmed else trimmed.takeWhile (· ≠ ':')

/-- `extract_host_name`. -/
def extractHostName (hostHeader : Text) : Text := hostPart (trimEnd (trimStart hostHeader))

/-- `eq_ignore_ascii_case`. -/
def eqIgnoreAsciiCase (a b : Text) : Bool := a.map Char.toLower == b.map Char.toLower

/-- `is_allowed_host`. -/
def isAllowedHost (hostHeader lanIp : Text) : Bool :=
  let host := extractHostName hostHeader
  if host.isEmpty then false
  else if eqIgnoreAsciiCase host "localhost".toList || host == "127.0.0.1".toList ||
      host == "::1".toList || host == "[::1]".toList ||
      eqIgnoreAsciiCase host "router.lan".toList || eqIgnoreAsciiCase host "router".toList ||
      eqIgnoreAsciiCase host "router.local".toList then true
  else
    let ipOnly := lanIp.takeWhile (· ≠ '/')
    !ipOnly.isEmpty && eqIgnoreAsciiCase host ipOnly

/-! ## Hosts and tails -/

/-- The names of the router. -/
def hostNames : List Text :=
  ["localhost".toList, "router.lan".toList, "router".toList, "router.local".toList]

/-- A name of the router in any case, the loopback address of IPv4 or the address on the LAN. -/
def IsHost (lan : Ipv4Net) (host : Text) : Prop :=
  host.map Char.toLower ∈ hostNames ∨ host = "127.0.0.1".toList ∨ host = lan.addr.display.toList

/-- A colon and a decimal number. -/
def IsPort (tail : Text) : Prop :=
  ∃ digits, tail = ':' :: digits ∧ digits ≠ [] ∧ digits.all Char.isDigit = true

/-- An allowed host, with a port behind it or nothing. -/
def IsExact (lan : Ipv4Net) (trimmed : Text) : Prop :=
  trimmed = "::1".toList ∨ ∃ host tail, trimmed = host ++ tail ∧
    (host = "[::1]".toList ∨ IsHost lan host) ∧ (tail = [] ∨ IsPort tail)

/-- Of the host and the tail only the host is read: the tail is behind brackets, or it is empty or
starts with the only colon. -/
def Unread (lan : Ipv4Net) (host tail : Text) : Prop :=
  host = "[::1]".toList ∨
    IsHost lan host ∧ (tail = [] ∨ ∃ rest, tail = ':' :: rest ∧ ':' ∉ rest)

/-- An allowed host with an unread tail that is not a port. -/
def HasOtherTail (lan : Ipv4Net) (trimmed : Text) : Prop :=
  ∃ host tail, trimmed = host ++ tail ∧ Unread lan host tail ∧ tail ≠ [] ∧ ¬ IsPort tail

variable {lan : Ipv4Net} {host tail trimmed : Text}

theorem toLower_inj {c d : Char} (plain : d = '.' ∨ d.isDigit = true)
    (same : c.toLower = d.toLower) : c = d := by
  have range : 46 ≤ d.val.toNat ∧ d.val.toNat ≤ 57 := by
    rcases plain with rfl | digit
    · decide
    · have digits := range_of_isDigit digit
      exact ⟨Nat.le_trans (by decide) digits.1, digits.2⟩
  have first : 'A'.val.toNat = 65 := rfl
  have last : 'Z'.val.toNat = 90 := rfl
  have gap : ('a'.val - 'A'.val).toNat = 32 := rfl
  have fixed : d.toLower = d := by
    unfold Char.toLower
    refine dif_neg fun upper => ?_
    have := UInt32.le_iff_toNat_le.mp upper.1
    omega
  rw [fixed] at same
  unfold Char.toLower at same
  split at same
  · rename_i upper
    have low := UInt32.le_iff_toNat_le.mp upper.1
    have high := UInt32.le_iff_toNat_le.mp upper.2
    rw [← same, UInt32.toNat_add] at range
    omega
  · exact same

theorem eq_of_map_toLower {text : Text} (plain : ∀ c ∈ text, c = '.' ∨ c.isDigit = true)
    (same : host.map Char.toLower = text.map Char.toLower) : host = text := by
  induction text generalizing host with
  | nil => exact List.map_eq_nil_iff.mp same
  | cons d text ih =>
    obtain ⟨first, later⟩ := List.forall_mem_cons.mp plain
    obtain ⟨c, rest, rfl, sameFirst, sameRest⟩ := List.map_eq_cons_iff.mp same
    rw [toLower_inj first sameFirst, ih later sameRest]

/-- A host is not empty and has neither colons nor brackets. -/
theorem IsHost.plain (isHost : IsHost lan host) :
    host ≠ [] ∧ ':' ∉ host ∧ '[' ∉ host := by
  rcases isHost with name | rfl | rfl
  · have names : ∀ name ∈ hostNames, name ≠ [] ∧ ':' ∉ name ∧ '[' ∉ name := by decide
    obtain ⟨some', colon, bracket⟩ := names _ name
    refine ⟨?_, fun member => ?_, fun member => ?_⟩
    · rintro rfl
      exact some' rfl
    · exact colon (List.mem_map_of_mem member)
    · exact bracket (List.mem_map_of_mem member)
  · decide
  · refine ⟨?_, fun member => ?_, fun member => ?_⟩
    · rw [toList_display_ipv4]
      simp [Ipv4Addr.octets, List.intercalate_cons_cons]
    · exact absurd (mem_display member) (by decide)
    · exact absurd (mem_display member) (by decide)

/-! ## What is accepted -/

theorem ipOnly_display : lan.display.toList.takeWhile (· ≠ '/') = lan.addr.display.toList := by
  have text : lan.display.toList =
      lan.addr.display.toList ++ '/' :: (toString lan.prefixLen).toList := by
    simp [Ipv4Net.display]
  have passes : ∀ c ∈ lan.addr.display.toList, decide (c ≠ '/') = true := by
    intro c member
    rcases mem_display member with rfl | digit
    · decide
    · refine decide_eq_true fun same => ?_
      rw [same] at digit
      cases digit
  rw [text, List.takeWhile_append_of_pos passes]
  simp

theorem isAllowedHost_iff {hostHeader : Text} :
    isAllowedHost hostHeader lan.display.toList = true ↔
      IsHost lan (extractHostName hostHeader) ∨ extractHostName hostHeader = "::1".toList ∨
        extractHostName hostHeader = "[::1]".toList := by
  have some' : lan.addr.display.toList ≠ [] := (IsHost.plain (.inr (.inr rfl))).1
  have address : ∀ host, eqIgnoreAsciiCase host lan.addr.display.toList = true ↔
      host = lan.addr.display.toList := by
    intro host
    refine ⟨fun same => ?_, fun same => ?_⟩
    · exact eq_of_map_toLower (fun _ => mem_display) (beq_iff_eq.mp same)
    · rw [same, eqIgnoreAsciiCase, beq_self_eq_true]
  unfold isAllowedHost
  dsimp only
  rw [ipOnly_display]
  generalize extractHostName hostHeader = host
  cases host with
  | nil =>
    refine iff_of_false (by simp) fun allowed => ?_
    rcases allowed with isHost | loopback | loopback
    · exact isHost.plain.1 rfl
    · cases loopback
    · cases loopback
  | cons c host =>
    have names : ∀ name ∈ hostNames, name.map Char.toLower = name := by decide
    have lower : ∀ name ∈ hostNames, eqIgnoreAsciiCase (c :: host) name = true ↔
        (c :: host).map Char.toLower = name := by
      intro name listed
      rw [eqIgnoreAsciiCase, beq_iff_eq, names name listed]
    simp only [hostNames, List.forall_mem_cons] at lower
    simp only [List.isEmpty_cons, Bool.false_eq_true, if_false, Bool.if_true_left,
      Bool.or_eq_true, Bool.and_eq_true, beq_iff_eq, address, lower, Bool.not_eq_true',
      List.isEmpty_eq_false_iff, IsHost, hostNames, List.mem_cons, List.not_mem_nil]
    grind

/-- The host is the part in brackets, or all of a text with more colons, or the part before the
only colon. -/
theorem hostPart_cases (trimmed : Text) :
    (∃ inner rest, trimmed = '[' :: (inner ++ ']' :: rest) ∧
        hostPart trimmed = '[' :: inner ++ [']']) ∨
      (1 < trimmed.count ':' ∧ hostPart trimmed = trimmed) ∨
      trimmed.count ':' ≤ 1 ∧ hostPart trimmed = trimmed.takeWhile (· ≠ ':') := by
  unfold hostPart
  split
  · rename_i inner rest tagged
    exact .inl ⟨inner, rest, (bracketed_eq_some_iff.mp tagged).2, rfl⟩
  · split
    · exact .inr (.inl ⟨‹_›, rfl⟩)
    · exact .inr (.inr ⟨Nat.le_of_not_lt ‹_›, rfl⟩)

theorem IsHost.hostPart_append (isHost : IsHost lan host)
    (end' : tail = [] ∨ ∃ rest, tail = ':' :: rest ∧ ':' ∉ rest) :
    hostPart (host ++ tail) = host := by
  obtain ⟨some', colon, bracket⟩ := isHost.plain
  have passes : ∀ c ∈ host, decide (c ≠ ':') = true :=
    fun c member => decide_eq_true fun same => colon (same ▸ member)
  have front : (host ++ tail).takeWhile (· ≠ ':') = host := by
    rw [List.takeWhile_append_of_pos passes]
    rcases end' with rfl | ⟨rest, rfl, -⟩ <;> simp
  have few : (host ++ tail).count ':' ≤ 1 := by
    rw [List.count_append, List.count_eq_zero.mpr colon]
    rcases end' with rfl | ⟨rest, rfl, free⟩
    · simp
    · rw [List.count_cons_self, List.count_eq_zero.mpr free]
  rcases hostPart_cases (host ++ tail) with ⟨inner, rest, same, -⟩ | ⟨many, -⟩ | ⟨-, part⟩
  · obtain ⟨c, later, rfl⟩ := List.exists_cons_of_ne_nil some'
    obtain ⟨rfl, -⟩ := List.cons.inj same
    exact absurd List.mem_cons_self bracket
  · omega
  · rw [part, front]

theorem Unread.hostPart_append (unread : Unread lan host tail) :
    hostPart (host ++ tail) = host := by
  rcases unread with rfl | ⟨isHost, end'⟩
  · have tagged : bracketed ("[::1]".toList ++ tail) = some ("::1".toList, tail) :=
      bracketed_eq_some_iff.mpr ⟨by decide, rfl⟩
    rw [hostPart, tagged]
    rfl
  · exact isHost.hostPart_append end'

/-- A port is a tail that no host reads. -/
theorem Unread.of_port (allowed : host = "[::1]".toList ∨ IsHost lan host)
    (port : tail = [] ∨ IsPort tail) : Unread lan host tail := by
  refine allowed.imp id fun isHost => ⟨isHost, port.imp id fun isPort => ?_⟩
  obtain ⟨digits, rfl, -, numeric⟩ := isPort
  refine ⟨digits, rfl, fun member => ?_⟩
  exact absurd (List.all_eq_true.mp numeric _ member) (by decide)

theorem exists_unread (isHost : IsHost lan (hostPart trimmed)) :
    ∃ tail, trimmed = hostPart trimmed ++ tail ∧ Unread lan (hostPart trimmed) tail := by
  obtain ⟨-, colon, bracket⟩ := isHost.plain
  rcases hostPart_cases trimmed with ⟨inner, rest, -, part⟩ | ⟨many, part⟩ | ⟨few, part⟩
  · rw [part] at bracket
    exact absurd List.mem_cons_self bracket
  · rw [part] at colon
    rw [List.count_eq_zero.mpr colon] at many
    omega
  · have whole : trimmed = hostPart trimmed ++ trimmed.dropWhile (· ≠ ':') := by
      rw [part, List.takeWhile_append_dropWhile]
    refine ⟨trimmed.dropWhile (· ≠ ':'), whole, .inr ⟨isHost, ?_⟩⟩
    cases behind : trimmed.dropWhile (· ≠ ':') with
    | nil => exact .inl rfl
    | cons c rest =>
      have stopped : c = ':' := by
        have stop := List.head?_dropWhile_not (· ≠ ':') trimmed
        rw [behind] at stop
        simpa using stop
      rw [whole, behind, stopped, List.count_append, List.count_cons_self] at few
      have none' : rest.count ':' = 0 := by omega
      exact .inr ⟨rest, by rw [stopped], List.count_eq_zero.mp none'⟩

/-- An accepted header is the bare loopback address, or an allowed host and its unread tail. -/
theorem isAllowedHost_iff_unread {hostHeader : Text} :
    isAllowedHost hostHeader lan.display.toList = true ↔
      trimEnd (trimStart hostHeader) = "::1".toList ∨ ∃ host tail,
        trimEnd (trimStart hostHeader) = host ++ tail ∧ Unread lan host tail := by
  rw [isAllowedHost_iff, extractHostName]
  generalize trimEnd (trimStart hostHeader) = trimmed
  constructor
  · intro allowed
    rcases allowed with isHost | loopback | loopback
    · obtain ⟨tail, whole, unread⟩ := exists_unread isHost
      exact .inr ⟨_, tail, whole, unread⟩
    · rcases hostPart_cases trimmed with ⟨inner, rest, -, part⟩ | ⟨-, part⟩ | ⟨-, part⟩
      · rw [loopback] at part
        cases part
      · exact .inl (part ▸ loopback)
      · rw [loopback] at part
        have := List.mem_takeWhile_imp (part ▸ (by decide : ':' ∈ "::1".toList))
        cases this
    · rcases hostPart_cases trimmed with ⟨inner, rest, whole, part⟩ | ⟨-, part⟩ | ⟨-, part⟩
      · refine .inr ⟨_, rest, ?_, .inl rfl⟩
        rw [← loopback, part, whole]
        simp
      · exact .inr ⟨_, [], by rw [← loopback, part, List.append_nil], .inl rfl⟩
      · rw [loopback] at part
        have := List.mem_takeWhile_imp (part ▸ (by decide : ':' ∈ "[::1]".toList))
        cases this
  · intro allowed
    rcases allowed with rfl | ⟨host, tail, rfl, unread⟩
    · exact .inr (.inl rfl)
    · rw [unread.hostPart_append]
      rcases unread with loopback | ⟨isHost, -⟩
      · exact .inr (.inr loopback)
      · exact .inl isHost

/-- A header has at most one of the two forms. -/
theorem HasOtherTail.not_isExact (other : HasOtherTail lan trimmed) : ¬ IsExact lan trimmed := by
  obtain ⟨host, tail, rfl, unread, some', noPort⟩ := other
  intro exact'
  have part := unread.hostPart_append
  rcases exact' with loopback | ⟨host', tail', same, allowed, port⟩
  · rw [loopback] at part
    have colon : ':' ∈ host := part ▸ by decide
    rcases unread with rfl | ⟨isHost, -⟩
    · exact absurd part (by decide)
    · exact isHost.plain.2.1 colon
  · rw [same, (Unread.of_port allowed port).hostPart_append] at part
    rw [part, List.append_cancel_left_eq] at same
    rcases port with rfl | isPort
    · exact some' same
    · exact noPort (same ▸ isPort)

/-- The check is exact if and only if the header does not have an unread tail besides a port. -/
theorem host_check_exact_iff (hostHeader : Text) (lan : Ipv4Net) :
    (isAllowedHost hostHeader lan.display.toList = true ↔
        IsExact lan (trimEnd (trimStart hostHeader))) ↔
      ¬ HasOtherTail lan (trimEnd (trimStart hostHeader)) := by
  constructor
  · intro agree other
    have inexact := other.not_isExact
    obtain ⟨host, tail, whole, unread, -⟩ := other
    exact inexact (agree.mp (isAllowedHost_iff_unread.mpr (.inr ⟨host, tail, whole, unread⟩)))
  · intro none'
    rw [isAllowedHost_iff_unread]
    refine or_congr Iff.rfl ⟨fun allowed => ?_, fun allowed => ?_⟩
    · obtain ⟨host, tail, whole, unread⟩ := allowed
      refine ⟨host, tail, whole, unread.imp id And.left, ?_⟩
      by_contra more
      rw [not_or] at more
      exact none' ⟨host, tail, whole, unread, more⟩
    · obtain ⟨host, tail, whole, isHost, port⟩ := allowed
      exact ⟨host, tail, whole, .of_port isHost port⟩

/-- A tail without digits after a name, and a foreign domain after the brackets. -/
theorem foreign_tails_accepted :
    ["localhost:evil", "localhost:", "[::1].attacker.com"].Forall fun header =>
      isAllowedHost header.toList "192.168.1.1/24".toList = true ∧
        ¬ IsExact (.slash24 (.new 192 168 1 1)) (trimEnd (trimStart header.toList)) := by
  have foreign : ∀ host tail, Unread (.slash24 (.new 192 168 1 1)) host tail → tail ≠ [] →
      (tail.drop 1).all Char.isDigit = false ∨ tail.length = 1 →
      ¬ IsExact (.slash24 (.new 192 168 1 1)) (host ++ tail) := by
    intro host tail unread some' other
    refine HasOtherTail.not_isExact ⟨host, tail, rfl, unread, some', fun isPort => ?_⟩
    obtain ⟨digits, rfl, number, numeric⟩ := isPort
    grind
  have name : IsHost (.slash24 (.new 192 168 1 1)) "localhost".toList := .inl (by decide)
  refine ⟨⟨by decide, ?_⟩, ⟨by decide, ?_⟩, by decide, ?_⟩
  · exact foreign "localhost".toList ":evil".toList
      (.inr ⟨name, .inr ⟨_, rfl, by decide⟩⟩) nofun (.inl rfl)
  · exact foreign "localhost".toList ":".toList
      (.inr ⟨name, .inr ⟨_, rfl, by decide⟩⟩) nofun (.inr rfl)
  · exact foreign "[::1]".toList ".attacker.com".toList (.inl rfl) nofun (.inl rfl)

end TrimRouter.Observability
