import TrimRouter.DhcpServer.LeaseTable

/-!
# What a lease command does to the entries

One lemma per method of the table says what it does to the entry of each client, and
`get_handleLeaseCommand` collects them: a command stores at most one entry (`written`)
and keeps, evicts or removes the others (`kept`).  The invariants of the lease actor
are proved from this lemma, never by unfolding the commands again.
-/

namespace TrimRouter.DhcpServer

variable {t : LeaseTable} {now : Nat} {order : IterOrder} {m mac : MacAddr}
  {lease : ClientLease} {ip serverIp : Ipv4Addr} {net : Ipv4Net} {duration : Nat}

@[simp]
theorem ClientLease.isLive_iff : lease.isLive now = true ↔ now < lease.expiry := by
  simp [ClientLease.isLive]

namespace LeaseTable

theorem get_insert : (t.insert mac lease).get m = if m = mac then some lease else t.get m :=
  HashMap.lookup_insert_eq

theorem remove_of_get_none (absent : t.get mac = none) : t.remove mac = (t, none) := by
  simp [remove, absent]

theorem remove_snd : (t.remove mac).2 = t.get mac := by
  unfold remove
  split <;> simp_all

theorem get_remove : (t.remove mac).1.get m = if m = mac then none else t.get m := by
  cases found : t.get mac with
  | none =>
    rw [remove_of_get_none found]
    split
    · simp_all
    · rfl
  | some lease =>
    simp only [remove, found]
    exact HashMap.lookup_erase_eq

theorem get_evictExpired :
    (t.evictExpired now).get m = (t.get m).filter fun lease => lease.isLive now :=
  HashMap.lookup_retain

theorem get_evictExpired_eq_some :
    (t.evictExpired now).get m = some lease ↔ t.get m = some lease ∧ now < lease.expiry := by
  simp [get_evictExpired, Option.filter_eq_some_iff]

/-- The reservations move the client: it has an entry on another address than one of its
reservations. -/
def isMoved (t : LeaseTable) (staticLeases : List StaticLease) (m : MacAddr) : Bool :=
  staticLeases.any fun r => r.mac == m && (t.get m).any fun existing => existing.ip != r.ip

theorem get_dropMoved (r : StaticLease) :
    (t.dropMoved r).get m = if t.isMoved [r] m then none else t.get m := by
  unfold dropMoved isMoved
  cases found : t.get r.mac with
  | none =>
    by_cases same : r.mac = m
    · subst same
      simp [found]
    · simp [same]
  | some existing =>
    by_cases same : r.mac = m
    · subst same
      by_cases moved : existing.ip = r.ip <;> simp [found, moved, get_remove]
    · have other : m ≠ r.mac := Ne.symm same
      by_cases moved : existing.ip = r.ip <;> simp [moved, get_remove, same, other]

theorem get_foldl_dropMoved (staticLeases : List StaticLease) :
    (staticLeases.foldl dropMoved t).get m =
      if t.isMoved staticLeases m then none else t.get m := by
  induction staticLeases generalizing t with
  | nil => simp [isMoved]
  | cons r rest ih =>
    rw [List.foldl_cons, ih]
    have first := get_dropMoved (t := t) (m := m) r
    -- once the first reservation has removed the entry, the later ones find none
    by_cases dropped : t.isMoved [r] m
    · have gone : (t.dropMoved r).get m = none := by rw [first, if_pos dropped]
      have moved : t.isMoved (r :: rest) m = true := by
        simp only [isMoved, List.any_cons, List.any_nil, Bool.or_false] at dropped ⊢
        simp [dropped]
      rw [gone, if_pos moved]
      exact ite_self none
    · have stays : (t.dropMoved r).get m = t.get m := by rw [first, if_neg dropped]
      have same : (t.dropMoved r).isMoved rest m = t.isMoved (r :: rest) m := by
        simp only [isMoved, List.any_cons, List.any_nil, Bool.or_false] at dropped ⊢
        simp [stays, dropped]
      rw [same, stays]

theorem get_setStaticLeases (staticLeases : List StaticLease) :
    (t.setStaticLeases staticLeases).get m =
      if t.isMoved staticLeases m then none else t.get m :=
  get_foldl_dropMoved staticLeases

theorem isIpTakenByOther_iff :
    t.isIpTakenByOther now ip mac = true ↔
      ∃ m lease, m ≠ mac ∧ t.get m = some lease ∧ lease.ip = ip ∧ now < lease.expiry := by
  simp only [isIpTakenByOther, List.any_eq_true, Sigma.exists, HashMap.mem_entries_iff,
    Bool.and_eq_true, beq_iff_eq, ClientLease.isLive_iff, bne_iff_ne, get]
  constructor
  · rintro ⟨m, lease, found, ⟨onIp, live⟩, other⟩
    exact ⟨m, lease, other, found, onIp, live⟩
  · rintro ⟨m, lease, other, found, onIp, live⟩
    exact ⟨m, lease, found, ⟨onIp, live⟩, other⟩

theorem isHostnameTakenByOther_iff {hostname : String} :
    t.isHostnameTakenByOther now hostname mac = true ↔
      ∃ m lease, m ≠ mac ∧ t.get m = some lease ∧ now < lease.expiry ∧
        lease.hostname = some hostname := by
  simp only [isHostnameTakenByOther, List.any_eq_true, Sigma.exists, HashMap.mem_entries_iff,
    Bool.and_eq_true, beq_iff_eq, ClientLease.isLive_iff, bne_iff_ne, get]
  constructor
  · rintro ⟨m, lease, found, ⟨other, live⟩, named⟩
    exact ⟨m, lease, other, found, live, named⟩
  · rintro ⟨m, lease, other, found, live, named⟩
    exact ⟨m, lease, found, ⟨other, live⟩, named⟩

theorem mem_expiredHostnames (visits : order.Visits t) {hostname : String} :
    (m, hostname) ∈ t.expiredHostnames now order ↔
      ∃ lease, t.get m = some lease ∧ lease.expiry ≤ now ∧ lease.hostname = some hostname := by
  simp only [expiredHostnames, List.mem_filterMap, Prod.exists, HashMap.mem_iter visits.1]
  constructor
  · rintro ⟨m₀, lease, found, reported⟩
    split at reported
    · cases reported
    · rename_i expired
      obtain ⟨h, named, pair⟩ := Option.map_eq_some_iff.mp reported
      cases pair
      exact ⟨lease, found, by simpa using expired, named⟩
  · rintro ⟨lease, found, expired, named⟩
    exact ⟨m, lease, found, by simp [ClientLease.isLive, Nat.not_lt.mpr expired, named]⟩

variable {requestedIp : Option Ipv4Addr} {hostname : Option String}

/-- A granted request stores the entry it confirms; a refused one changes nothing. -/
theorem validateAndConfirm_fst :
    (t.validateAndConfirm now mac requestedIp serverIp net duration hostname).1 =
      match (t.validateAndConfirm now mac requestedIp serverIp net duration hostname).2 with
      | none => t
      | some conf => t.insert mac ⟨conf.ip, now + duration, conf.hostname⟩ := by
  unfold validateAndConfirm
  cases requestedIp.or ((t.get mac).map ClientLease.ip) with
  | none => rfl
  | some targetIp =>
    dsimp only
    split_ifs
    · rfl
    · rfl
    · rfl

variable {conf : LeaseConfirmation}

/-- What a granted request has passed, and what it is granted. -/
structure Confirms (t : LeaseTable) (now : Nat) (mac : MacAddr) (requestedIp : Option Ipv4Addr)
    (serverIp : Ipv4Addr) (net : Ipv4Net) (hostname : Option String)
    (conf : LeaseConfirmation) : Prop where
  target : requestedIp.or ((t.get mac).map ClientLease.ip) = some conf.ip
  host : conf.ip ≠ serverIp ∧ conf.ip ≠ net.network ∧ conf.ip ≠ net.broadcast ∧
    net.contains conf.ip = true
  free : t.isIpTakenByOther now conf.ip mac = false
  unreserved : t.reservationRefuses mac conf.ip = false
  /-- the reserved name or else the requested one, unless another client's live entry has it -/
  named : conf.hostname =
    (((t.staticLeases.lookup mac).bind StaticLease.hostname).or hostname).filter
      fun base => !t.isHostnameTakenByOther now base mac
  replaced : conf.oldHostnameToDeregister =
    oldHostnameToDeregister ((t.get mac).bind ClientLease.hostname) conf.hostname

theorem validateAndConfirm_granted
    (granted : (t.validateAndConfirm now mac requestedIp serverIp net duration hostname).2 =
      some conf) : t.Confirms now mac requestedIp serverIp net hostname conf := by
  unfold validateAndConfirm at granted
  dsimp only at granted
  split at granted
  · cases granted
  · rename_i targetIp target
    split at granted
    · cases granted
    · rename_i inRange
      split at granted
      · cases granted
      · rename_i passed
        cases granted
        simp only [Bool.or_eq_true, beq_iff_eq, Bool.not_eq_true', not_or, Bool.not_eq_true,
          Bool.not_eq_false] at inRange passed
        obtain ⟨⟨⟨⟨notServer, notNetwork⟩, notBroadcast⟩, inside⟩, free⟩ := inRange
        exact ⟨target, ⟨notServer, notNetwork, notBroadcast, inside⟩, free, passed, rfl, rfl⟩

theorem Confirms.untaken (confirms : t.Confirms now mac requestedIp serverIp net hostname conf)
    {name : String} (named : conf.hostname = some name) :
    t.isHostnameTakenByOther now name mac = false := by
  rw [confirms.named] at named
  simpa using (Option.filter_eq_some_iff.mp named).2

/-- The entries that `allocate_candidate` starts from: it evicts first when the client
has no reservation. -/
def candidateBase (t : LeaseTable) (now : Nat) (mac : MacAddr) : LeaseTable :=
  if t.staticLeases.lookup mac = none then t.evictExpired now else t

/-- A successful allocation stores the candidate. -/
theorem allocateCandidate_fst :
    (t.allocateCandidate now mac net serverIp).1 =
      match (t.allocateCandidate now mac net serverIp).2 with
      | none => t.candidateBase now mac
      | some ip => (t.candidateBase now mac).insert mac
          ⟨ip, now + candidateHoldDuration, (t.staticLeases.lookup mac).bind StaticLease.hostname⟩
      := by
  unfold allocateCandidate candidateBase
  cases reserved : t.staticLeases.lookup mac with
  | some r =>
    dsimp only
    split <;> simp
  | none =>
    simp only [nextAvailableIp]
    cases (t.evictExpired now).findHost now net serverIp <;> simp

end LeaseTable

namespace LeaseCommand

open LeaseTable

/-- The entry that a command stores. -/
def written (now : Nat) (t : LeaseTable) : LeaseCommand → Option (MacAddr × ClientLease)
  | .allocateCandidate mac net serverIp =>
    (t.allocateCandidate now mac net serverIp).2.map fun ip => (mac,
      ⟨ip, now + candidateHoldDuration, (t.staticLeases.lookup mac).bind StaticLease.hostname⟩)
  | .confirmLease mac ip duration hostname => some (mac, ⟨ip, now + duration, hostname⟩)
  | .validateAndConfirmRequest mac requestedIp serverIp net duration hostname =>
    (t.validateAndConfirm now mac requestedIp serverIp net duration hostname).2.map fun conf =>
      (mac, ⟨conf.ip, now + duration, conf.hostname⟩)
  | .addNeighbor mac ip =>
    if t.ignoresNeighbor mac ip then none
    else some (mac,
      ⟨ip, now + neighborHoldDuration, (t.staticLeases.lookup mac).bind StaticLease.hostname⟩)
  | _ => none

/-- The entry of a client that a command leaves when it stores none for it. -/
def kept (now : Nat) (t : LeaseTable) (cmd : LeaseCommand) (m : MacAddr) :
    Option ClientLease :=
  match cmd with
  | .allocateCandidate mac _ _ => (t.candidateBase now mac).get m
  | .evictExpired => (t.evictExpired now).get m
  | .release mac => if m = mac then none else t.get m
  | .setStaticLeases staticLeases => if t.isMoved staticLeases m then none else t.get m
  | _ => t.get m

/-- A command keeps entries as they are. -/
theorem get_of_kept {cmd : LeaseCommand} (stays : cmd.kept now t m = some lease) :
    t.get m = some lease := by
  cases cmd with
  | allocateCandidate mac net serverIp =>
    simp only [kept, candidateBase] at stays
    split at stays
    · exact (get_evictExpired_eq_some.mp stays).1
    · exact stays
  | evictExpired => exact (get_evictExpired_eq_some.mp stays).1
  | release | setStaticLeases =>
    simp only [kept] at stays
    split at stays
    · cases stays
    · exact stays
  | _ => exact stays

/-- A live entry stays, unless its client releases it or the reservations change. -/
theorem kept_of_live {cmd : LeaseCommand} (found : t.get m = some lease)
    (live : now < lease.expiry) (unreleased : cmd ≠ .release m)
    (fixed : ∀ staticLeases, cmd ≠ .setStaticLeases staticLeases) :
    cmd.kept now t m = some lease := by
  cases cmd with
  | allocateCandidate mac net serverIp =>
    simp only [kept, candidateBase]
    split
    · exact get_evictExpired_eq_some.mpr ⟨found, live⟩
    · exact found
  | evictExpired => exact get_evictExpired_eq_some.mpr ⟨found, live⟩
  | release mac =>
    have different : m ≠ mac := by
      rintro rfl
      exact unreleased rfl
    simp [kept, different, found]
  | setStaticLeases staticLeases => exact absurd rfl (fixed staticLeases)
  | _ => exact found

/-- The entry of every client after a command. -/
theorem get_handleLeaseCommand (cmd : LeaseCommand) :
    (handleLeaseCommand now order t cmd).1.get m =
      match cmd.written now t with
      | some (mac, lease) => if m = mac then some lease else cmd.kept now t m
      | none => cmd.kept now t m := by
  cases cmd with
  | allocateCandidate mac net serverIp =>
    simp only [handleLeaseCommand, written, kept, allocateCandidate_fst]
    cases (t.allocateCandidate now mac net serverIp).2 <;> simp [get_insert]
  | confirmLease mac ip duration hostname =>
    simp [handleLeaseCommand, written, kept, get_insert]
  | validateAndConfirmRequest mac requestedIp serverIp net duration hostname =>
    simp only [handleLeaseCommand, written, kept, validateAndConfirm_fst]
    cases (t.validateAndConfirm now mac requestedIp serverIp net duration hostname).2 <;>
      simp [get_insert]
  | addNeighbor mac ip =>
    simp only [handleLeaseCommand, written, kept, updateFromNeighbor]
    split <;> simp [get_insert]
  | release mac => simp [handleLeaseCommand, written, kept, get_remove]
  | setStaticLeases staticLeases =>
    simp [handleLeaseCommand, written, kept, get_setStaticLeases]
  | evictExpired | recordConflict | getExistingIp | checkConflict | getActiveLeases => rfl

/-- An entry after a command was there before, or is the one that it stores. -/
theorem written_or_get {cmd : LeaseCommand}
    (found : (handleLeaseCommand now order t cmd).1.get m = some lease) :
    cmd.written now t = some (m, lease) ∨ t.get m = some lease := by
  rw [get_handleLeaseCommand] at found
  split at found
  · rename_i mac stored written
    split at found
    · rename_i same
      cases found
      exact .inl (same ▸ written)
    · exact .inr (get_of_kept found)
  · exact .inr (get_of_kept found)

end LeaseCommand

end TrimRouter.DhcpServer
