import TrimRouter.Config

/-!
# Documents that the configuration loader accepts

The other direction of `RouterConfig.parse_wellFormed`: a list of reservations that meets the
loader's conditions is accepted, however long it is.  `Parsers.std` are the parsers of the standard
library, of `pnet` and of `log`, and reading back the display of an address gives the address.  The
result is `RouterConfig.parse_reservations_eq`.
-/

namespace TrimRouter

open Check

/-! ## The parsers -/

/-- `char::to_digit` for the radices up to 16. -/
def digitValue (c : Char) : Option Nat :=
  if '0' ≤ c ∧ c ≤ '9' then some (c.toNat - 48)
  else if 'a' ≤ c ∧ c ≤ 'f' then some (c.toNat - 87)
  else if 'A' ≤ c ∧ c ≤ 'F' then some (c.toNat - 55)
  else none

/-- One more digit of a number. -/
def appendDigit (radix n : Nat) (c : Char) : Option Nat :=
  (digitValue c).bind fun d => if d < radix then some (n * radix + d) else none

/-- `u8::from_str_radix`, for texts without a sign. -/
def octetFromStrRadix (radix : Nat) (s : List Char) : Option (BitVec 8) :=
  if s = [] then none
  else (s.foldlM (appendDigit radix) 0).bind fun n =>
    if n < 256 then some (BitVec.ofNat 8 n) else none

/-- An octet in decimal, as `Ipv4Addr::from_str` reads it: three digits at most, and no
leading zero. -/
def decimalOctet (s : List Char) : Option (BitVec 8) :=
  if 3 < s.length ∨ 1 < s.length ∧ s.head? = some '0' then none else octetFromStrRadix 10 s

/-- `pnet::util::MacAddr::from_str`. -/
def macAddrFromStr (s : String) : Option MacAddr :=
  match (s.toList.splitOn ':').map (octetFromStrRadix 16) with
  | [some a, some b, some c, some d, some e, some f] => some (a ++ b ++ c ++ d ++ e ++ f)
  | _ => none

/-- `std::net::Ipv4Addr::from_str`. -/
def ipv4AddrFromStr (s : String) : Option Ipv4Addr :=
  match (s.toList.splitOn '.').map decimalOctet with
  | [some a, some b, some c, some d] => some (.new a b c d)
  | _ => none

/-- `log::LevelFilter::from_str`, which does not look at the case. -/
def levelFilterFromStr (s : String) : Option LevelFilter :=
  [("off", .off), ("error", .error), ("warn", .warn), ("info", .info), ("debug", .debug),
    ("trace", .trace)].lookup (s.map Char.toLower)

/-- The parsers that the program is built with. -/
def Parsers.std : Parsers := ⟨macAddrFromStr, ipv4AddrFromStr, levelFilterFromStr⟩

/-! ## Round trips -/

/-- The text of an octet in the display of a MAC address. -/
def hexText (octet : BitVec 8) : List Char :=
  let digits := Nat.toDigits 16 octet.toNat
  if digits.length < 2 then '0' :: digits else digits

theorem octetFromStrRadix_hexText (octet : BitVec 8) :
    octetFromStrRadix 16 (hexText octet) = some octet ∧ ':' ∉ hexText octet := by
  have all : ∀ n < 256, octetFromStrRadix 16 (hexText (BitVec.ofNat 8 n)) =
      some (BitVec.ofNat 8 n) ∧ ':' ∉ hexText (BitVec.ofNat 8 n) := by
    decide +kernel
  simpa using all octet.toNat octet.isLt

/-- The text of an octet in the display of an address. -/
def decimalText (octet : BitVec 8) : List Char := Nat.toDigits 10 octet.toNat

theorem decimalOctet_decimalText (octet : BitVec 8) :
    decimalOctet (decimalText octet) = some octet ∧
      ∀ c ∈ decimalText octet, c.isDigit = true := by
  have all : ((List.range 256).all fun n =>
      decimalOctet (decimalText (BitVec.ofNat 8 n)) == some (BitVec.ofNat 8 n) &&
        (decimalText (BitVec.ofNat 8 n)).all Char.isDigit) = true := by
    decide +kernel
  have here := List.all_eq_true.mp all octet.toNat (List.mem_range.mpr octet.isLt)
  rw [BitVec.ofNat_toNat, BitVec.setWidth_eq, Bool.and_eq_true, beq_iff_eq] at here
  exact ⟨here.1, List.all_eq_true.mp here.2⟩

theorem toList_display_mac (mac : MacAddr) :
    mac.display.toList = [':'].intercalate (mac.octets.map hexText) := by
  unfold MacAddr.display
  rw [String.toList_intercalate, List.map_map]
  refine congrArg _ (List.map_congr_left ?_)
  intro octet _
  exact String.toList_ofList

theorem toList_display_ipv4 (ip : Ipv4Addr) :
    ip.display.toList = ['.'].intercalate (ip.octets.map decimalText) := by
  unfold Ipv4Addr.display
  rw [String.toList_intercalate, List.map_map]
  refine congrArg _ (List.map_congr_left ?_)
  intro octet _
  exact String.toList_ofList

theorem macAddr_display (mac : MacAddr) : macAddrFromStr mac.display = some mac := by
  have split : mac.display.toList.splitOn ':' = mac.octets.map hexText := by
    rw [toList_display_mac]
    apply List.splitOn_intercalate
    · intro text listed
      obtain ⟨octet, -, rfl⟩ := List.mem_map.mp listed
      exact (octetFromStrRadix_hexText octet).2
    · exact List.cons_ne_nil _ _
  have whole : mac.extractLsb' 40 8 ++ mac.extractLsb' 32 8 ++ mac.extractLsb' 24 8 ++
      mac.extractLsb' 16 8 ++ mac.extractLsb' 8 8 ++ mac.extractLsb' 0 8 = mac := by
    simp only [BitVec.extractLsb'_append_extractLsb'_eq_extractLsb', BitVec.extractLsb'_eq_self]
  unfold macAddrFromStr
  rw [split, List.map_map]
  simp only [MacAddr.octets, List.map_cons, List.map_nil, Function.comp_apply,
    (octetFromStrRadix_hexText _).1]
  rw [whole]

theorem ipv4Addr_display (ip : Ipv4Addr) : ipv4AddrFromStr ip.display = some ip := by
  have split : ip.display.toList.splitOn '.' = ip.octets.map decimalText := by
    rw [toList_display_ipv4]
    apply List.splitOn_intercalate
    · intro text listed dot
      obtain ⟨octet, -, rfl⟩ := List.mem_map.mp listed
      exact absurd ((decimalOctet_decimalText octet).2 '.' dot) (by decide)
    · exact List.cons_ne_nil _ _
  have whole : Ipv4Addr.new (ip.extractLsb' 24 8) (ip.extractLsb' 16 8) (ip.extractLsb' 8 8)
      (ip.extractLsb' 0 8) = ip := by
    unfold Ipv4Addr.new
    simp only [BitVec.extractLsb'_append_extractLsb'_eq_extractLsb', BitVec.extractLsb'_eq_self]
  unfold ipv4AddrFromStr
  rw [split, List.map_map]
  simp only [Ipv4Addr.octets, List.map_cons, List.map_nil, Function.comp_apply,
    (decimalOctet_decimalText _).1]
  rw [whole]

/-- The display of an address is made of digits and dots. -/
theorem mem_display {ip : Ipv4Addr} {c : Char} (member : c ∈ ip.display.toList) :
    c = '.' ∨ c.isDigit = true := by
  have digit : ∀ octet, c ∈ decimalText octet → c = '.' ∨ c.isDigit = true :=
    fun octet listed => .inr ((decimalOctet_decimalText octet).2 c listed)
  rw [toList_display_ipv4] at member
  simp only [Ipv4Addr.octets, List.map_cons, List.map_nil, List.intercalate_cons_cons,
    List.intercalate_singleton, List.mem_append, List.mem_singleton] at member
  rcases member with (first | dot) | (second | dot) | (third | dot) | last
  · exact digit _ first
  · exact .inl dot
  · exact digit _ second
  · exact .inl dot
  · exact digit _ third
  · exact .inl dot
  · exact digit _ last

theorem range_of_isDigit {c : Char} (digit : c.isDigit = true) : 48 ≤ c.toNat ∧ c.toNat ≤ 57 := by
  simpa [Char.isDigit, UInt32.le_iff_toNat_le] using digit

theorem isWhitespace_of_mem_display {ip : Ipv4Addr} {c : Char} (member : c ∈ ip.display.toList) :
    isWhitespace c = false := by
  rcases mem_display member with rfl | digit
  · decide
  · have range := range_of_isDigit digit
    simp only [isWhitespace, Bool.or_eq_false_iff, Bool.and_eq_false_iff, decide_eq_false_iff_not,
      beq_eq_false_iff_ne]
    omega

theorem trim_eq_self {s : String} (solid : ∀ c ∈ s.toList, isWhitespace c = false) :
    trim s = s := by
  have front : s.toList.dropWhile isWhitespace = s.toList := by
    refine List.dropWhile_eq_self_iff.mpr fun nonempty => ?_
    rw [solid _ (List.getElem_mem nonempty)]
    exact Bool.false_ne_true
  have back : s.toList.rdropWhile isWhitespace = s.toList := by
    refine List.rdropWhile_eq_self_iff.mpr fun nonempty => ?_
    rw [solid _ (List.getLast_mem nonempty)]
    exact Bool.false_ne_true
  unfold trim
  rw [front, back, String.ofList_toList]

/-! ## Acceptable reservations -/

/-- The text of a reservation reads as the reservation. -/
structure DhcpReservationToml.Reads (lib : Parsers) (res : DhcpReservationToml)
    (lease : StaticLease) : Prop where
  mac : lib.macAddr res.mac = some lease.mac
  ip : ∃ raw, res.ip = some raw ∧ lib.ipv4Addr (trim raw) = some lease.ip
  hostname : res.hostname.map sanitizeHostname = lease.hostname.map some

variable {lib : Parsers} {lanNet backupNet : Ipv4Net} {ip : Ipv4Addr} {context : String}
  {res : DhcpReservationToml} {lease : StaticLease} {done leases : List StaticLease}
  {texts : List DhcpReservationToml} {doc : ConfigToml} {cfg : RouterConfig}

theorem validateTargetIp_eq_ok (target : ValidTarget lanNet backupNet ip) :
    validateTargetIp ip lanNet backupNet context = .ok () := by
  simp only [validateTargetIp, bind_eq_ok, ensure_eq_ok, require_eq_ok, exists_const,
    Ipv4Addr.checkedSub, Ipv4Addr.checkedAdd, Option.ite_none_right_eq_some,
    Option.some.injEq]
  exact ⟨target.inLan, _, ⟨target.above, rfl⟩, _, ⟨target.fits, rfl⟩, target.inBackup⟩

theorem parseReservationHostname_eq_ok {seenHostnames : List String}
    (reads : res.hostname.map sanitizeHostname = lease.hostname.map some)
    (fresh : ∀ name ∈ lease.hostname, name ≠ routerHostname ∧ name ∉ seenHostnames) :
    parseReservationHostname seenHostnames res = .ok lease.hostname := by
  unfold parseReservationHostname
  cases named : lease.hostname with
  | none =>
    rw [named, Option.map_none, Option.map_eq_none_iff] at reads
    rw [reads]
    rfl
  | some name =>
    rw [named, Option.map_some] at reads
    obtain ⟨raw, text, sanitized⟩ := Option.map_eq_some_iff.mp reads
    obtain ⟨notRouter, unseen⟩ := fresh name named
    simp only [text, bind_eq_ok, ensure_eq_ok, require_eq_ok, exists_const, decide_eq_true_eq]
    exact ⟨name, sanitized, notRouter, unseen, rfl⟩

theorem not_mem_of_nodup_append {α : Type} {as bs : List α} {a : α} (unique : (as ++ bs).Nodup)
    (last : a ∈ bs) : a ∉ as :=
  fun listed => (List.nodup_append'.mp unique).2.2 listed last

theorem parseDhcpReservation_eq_ok (reads : res.Reads lib lease)
    (fits : FittingReservations lanNet backupNet (done ++ [lease])) :
    parseDhcpReservation lib lanNet backupNet (.after done) res =
      .ok (.after (done ++ [lease])) := by
  obtain ⟨raw, text, address⟩ := reads.ip
  obtain ⟨⟨macs, ips, hostnames, notRouter⟩, unicast, targets⟩ := fits
  rw [List.map_append] at macs ips
  rw [List.filterMap_append] at hostnames notRouter
  rw [Reservations.after_snoc]
  have named : parseReservationHostname (Reservations.after done).seenHostnames res =
      .ok lease.hostname := by
    refine parseReservationHostname_eq_ok reads.hostname fun name named => ?_
    have listed : name ∈ [lease].filterMap StaticLease.hostname :=
      List.mem_filterMap.mpr ⟨lease, List.mem_singleton_self _, named⟩
    exact ⟨fun router => notRouter (List.mem_append_right _ (router ▸ listed)),
      not_mem_of_nodup_append hostnames listed⟩
  have last : lease ∈ done ++ [lease] := by simp
  simp only [parseDhcpReservation, bind_eq_ok, ensure_eq_ok, require_eq_ok, exists_const,
    decide_eq_true_eq]
  exact ⟨lease.mac, reads.mac, unicast _ last, raw, text, lease.ip, address, (),
    validateTargetIp_eq_ok (targets _ last), lease.hostname, named,
    not_mem_of_nodup_append macs (List.mem_singleton_self _),
    not_mem_of_nodup_append ips (List.mem_singleton_self _), rfl⟩

/-- The first reservations of an acceptable list are acceptable. -/
theorem FittingReservations.take (fits : FittingReservations lanNet backupNet (done ++ leases)) :
    FittingReservations lanNet backupNet done := by
  have first : done.Sublist (done ++ leases) := List.sublist_append_left done leases
  have names := first.filterMap StaticLease.hostname
  exact ⟨⟨fits.macs.sublist (first.map _), fits.ips.sublist (first.map _),
    fits.hostnames.sublist names, fun listed => fits.notRouter (names.subset listed)⟩,
    fun lease listed => fits.unicast lease (first.subset listed),
    fun lease listed => fits.targets lease (first.subset listed)⟩

theorem foldlM_parseDhcpReservation
    (reads : List.Forall₂ (DhcpReservationToml.Reads lib) texts leases)
    (fits : FittingReservations lanNet backupNet (done ++ leases)) :
    texts.foldlM (parseDhcpReservation lib lanNet backupNet) (.after done) =
      .ok (.after (done ++ leases)) := by
  induction reads generalizing done with
  | nil => simp [pure, Except.pure]
  | @cons res lease texts leases first rest ih =>
    have split : done ++ lease :: leases = (done ++ [lease]) ++ leases := by simp
    rw [split] at fits ⊢
    rw [List.foldlM_cons, bind_eq_ok]
    exact ⟨_, parseDhcpReservation_eq_ok first fits.take, ih fits⟩

theorem parseDhcpReservations_eq_ok
    (reads : List.Forall₂ (DhcpReservationToml.Reads lib) texts leases)
    (fits : FittingReservations lanNet backupNet leases) :
    parseDhcpReservations lib (some texts) lanNet backupNet = .ok leases := by
  have loop : texts.foldlM (parseDhcpReservation lib lanNet backupNet) (.after []) =
      .ok (.after ([] ++ leases)) := foldlM_parseDhcpReservation reads fits
  simp only [parseDhcpReservations, bind_eq_ok]
  exact ⟨_, loop, rfl⟩

/-- An accepted document stays accepted when its reservations are replaced by acceptable
ones. -/
theorem RouterConfig.parse_reservations_eq (accepted : RouterConfig.parse lib doc = .ok cfg)
    (reads : List.Forall₂ (DhcpReservationToml.Reads lib) texts leases)
    (fits : FittingReservations cfg.lanIp cfg.backupLanIp leases) :
    RouterConfig.parse lib { doc with reservations := some texts } =
      .ok { cfg with staticLeases := leases } := by
  simp only [RouterConfig.parse, bind_eq_ok] at accepted ⊢
  obtain ⟨macs, macsOk, dnsServers, dnsOk, nets, netsOk, before, -, portForwards, forwardsOk,
    logging, loggingOk, same⟩ := accepted
  cases same
  exact ⟨macs, macsOk, dnsServers, dnsOk, nets, netsOk, leases,
    parseDhcpReservations_eq_ok reads fits, portForwards, forwardsOk, logging, loggingOk, rfl⟩

/-- The text of a reservation. -/
def StaticLease.text (lease : StaticLease) : DhcpReservationToml :=
  ⟨lease.mac.display, some lease.ip.display, lease.hostname⟩

/-- A reservation with a host name in its normal form is read back from its text. -/
theorem StaticLease.text_reads
    (normal : ∀ name ∈ lease.hostname, sanitizeHostname name = some name) :
    lease.text.Reads .std lease := by
  have solid : trim lease.ip.display = lease.ip.display :=
    trim_eq_self fun _ => isWhitespace_of_mem_display
  constructor
  · simp only [Parsers.std, StaticLease.text, macAddr_display]
  · refine ⟨lease.ip.display, rfl, ?_⟩
    simp only [Parsers.std, solid, ipv4Addr_display]
  · exact Option.map_congr normal

/-! ## Documents with many reservations -/

/-- A document with networks of 65536 addresses and no reservations. -/
def crowdDoc : ConfigToml where
  network := ⟨"52:54:00:12:34:56", "52:54:00:12:34:57", none⟩
  lan := some ⟨some "10.0.0.0", some "172.16.0.0", some 16⟩
  reservations := none
  watchdog := none
  logging := none
  servers := none
  portForwarding := none

/-- What `crowdDoc` is accepted as. -/
def crowdConfig : RouterConfig where
  lanIp := ⟨.new 10 0 0 1, 16, by decide⟩
  backupLanIp := ⟨.new 172 16 0 1, 16, by decide⟩
  wanMac := 0x525400123456
  lanMac := 0x525400123457
  logging := ⟨100, .info⟩
  watchdog := true
  dnsServers := []
  staticLeases := []
  portForwards := []

theorem parse_crowdDoc : RouterConfig.parse .std crowdDoc = .ok crowdConfig := by decide +kernel

/-- Reservations of consecutive MAC addresses and addresses. -/
def crowd (name : Nat → Option String) (n : Nat) : List StaticLease :=
  (List.range n).map fun i =>
    ⟨0x020000000000#48 + BitVec.ofNat 48 i, 0x0a000100#32 + BitVec.ofNat 32 i, name i⟩

theorem isValidUnicastMac_crowd {i : Nat} (small : i < 60000) :
    isValidUnicastMac (0x020000000000#48 + BitVec.ofNat 48 i) = true := by
  have value : (0x020000000000#48 + BitVec.ofNat 48 i).toNat = 0x020000000000 + i := by
    rw [BitVec.toNat_add, BitVec.toNat_ofNat]
    simp
    omega
  have unicast : (0x020000000000#48 + BitVec.ofNat 48 i).getLsbD 40 = false := by
    rw [BitVec.getLsbD, value, Nat.testBit_eq_decide_div_mod_eq]
    simp
    omega
  unfold isValidUnicastMac
  rw [if_neg, unicast]
  · rfl
  · unfold MacAddr.zero MacAddr.broadcast
    rw [← BitVec.toNat_inj, ← BitVec.toNat_inj, value, BitVec.toNat_allOnes, BitVec.toNat_ofNat]
    omega

theorem validTarget_crowd {i : Nat} (small : i < 60000) :
    ValidTarget crowdConfig.lanIp crowdConfig.backupLanIp (0x0a000100#32 + BitVec.ofNat 32 i) := by
  have lanNetwork : crowdConfig.lanIp.network = 0x0a000000#32 := by decide
  have lanBroadcast : crowdConfig.lanIp.broadcast = 0x0a00ffff#32 := by decide
  have lanAddr : crowdConfig.lanIp.addr = 0x0a000001#32 := by decide
  have backupNetwork : crowdConfig.backupLanIp.network = 0xac100000#32 := by decide
  have backupBroadcast : crowdConfig.backupLanIp.broadcast = 0xac10ffff#32 := by decide
  have backupAddr : crowdConfig.backupLanIp.addr = 0xac100001#32 := by decide
  have moved : crowdConfig.lanIp.translate crowdConfig.backupLanIp
      (0x0a000100#32 + BitVec.ofNat 32 i) = 0xac100100#32 + BitVec.ofNat 32 i := by
    unfold Ipv4Net.translate
    rw [lanNetwork, backupNetwork]
    bv_omega
  constructor
  · simp only [isClientIp, Ipv4Net.contains, lanNetwork, lanBroadcast, lanAddr, Bool.and_eq_true,
      decide_eq_true_eq, bne_iff_ne]
    refine ⟨⟨⟨⟨?_, ?_⟩, ?_⟩, ?_⟩, ?_⟩ <;> bv_omega
  · rw [lanNetwork]
    bv_omega
  · rw [lanNetwork, backupNetwork]
    bv_omega
  · rw [moved]
    simp only [isClientIp, Ipv4Net.contains, backupNetwork, backupBroadcast, backupAddr,
      Bool.and_eq_true, decide_eq_true_eq, bne_iff_ne]
    refine ⟨⟨⟨⟨?_, ?_⟩, ?_⟩, ?_⟩, ?_⟩ <;> bv_omega

/-- The document with these reservations. -/
def crowdDocWith (leases : List StaticLease) : ConfigToml :=
  { crowdDoc with reservations := some (leases.map StaticLease.text) }

/-- What it is accepted as. -/
def crowdConfigWith (leases : List StaticLease) : RouterConfig :=
  { crowdConfig with staticLeases := leases }

theorem nodup_map_range {α : Type} {f : Nat → α} {n : Nat}
    (inj : ∀ i < n, ∀ j < n, f i = f j → i = j) : ((List.range n).map f).Nodup := by
  refine List.Nodup.map_on ?_ List.nodup_range
  intro i inside j insideJ same
  exact inj i (List.mem_range.mp inside) j (List.mem_range.mp insideJ) same

/-- The crowd is acceptable, whatever its size. -/
theorem crowd_wellFormed {name : Nat → Option String} {n : Nat} (room : n ≤ 60000)
    (unique : ((List.range n).filterMap name).Nodup)
    (notRouter : routerHostname ∉ (List.range n).filterMap name) :
    FittingReservations crowdConfig.lanIp crowdConfig.backupLanIp (crowd name n) := by
  have names : (crowd name n).filterMap StaticLease.hostname = (List.range n).filterMap name := by
    rw [crowd, List.filterMap_map]
    rfl
  refine ⟨⟨?_, ?_, names ▸ unique, names ▸ notRouter⟩, ?_, ?_⟩
  iterate 2
    · simp only [crowd, List.map_map]
      refine nodup_map_range fun i inside j insideJ same => ?_
      simp only [Function.comp_apply] at same
      bv_omega
  · intro lease listed
    simp only [crowd, List.mem_map, List.mem_range] at listed
    obtain ⟨i, inside, rfl⟩ := listed
    exact isValidUnicastMac_crowd (by omega)
  · intro lease listed
    simp only [crowd, List.mem_map, List.mem_range] at listed
    obtain ⟨i, inside, rfl⟩ := listed
    exact validTarget_crowd (by omega)

theorem parse_crowd {name : Nat → Option String} {n : Nat} (room : n ≤ 60000)
    (normal : ∀ i < n, ∀ host ∈ name i, sanitizeHostname host = some host)
    (unique : ((List.range n).filterMap name).Nodup)
    (notRouter : routerHostname ∉ (List.range n).filterMap name) :
    RouterConfig.parse .std (crowdDocWith (crowd name n)) =
      .ok (crowdConfigWith (crowd name n)) := by
  refine RouterConfig.parse_reservations_eq parse_crowdDoc ?_
    (crowd_wellFormed room unique notRouter)
  rw [List.forall₂_map_left_iff, List.forall₂_same]
  intro lease listed
  simp only [crowd, List.mem_map, List.mem_range] at listed
  obtain ⟨i, inside, rfl⟩ := listed
  exact StaticLease.text_reads (normal i inside)

end TrimRouter
