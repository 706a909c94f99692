import TrimRouter.DhcpServer.NameUpdates

/-!
# Deregistrations and the names of other clients

A deregistration names a host, not a client, so it is only safe when no other client uses the name.
A client has a claim on a name while its entry carries the name, while a registration or
deregistration of the name is under way for it, and while the name is registered for it under a
lease that has not run out.  The claims change hands only where a command stores an entry with a
name, and that is where the source does not look at all of them: `ConfirmLease` and the reservation
paths do not look at any, and `ValidateAndConfirmRequest` only at live entries.  The result,
`deregistration_spares_others`, is about runs without such a step.
-/

namespace TrimRouter.DhcpServer

open Run

variable {cfg : ServerConfig} {l : Label} {m : MacAddr} {name : String}

/-- The names that a granted request still has to register or deregister. -/
def LeaseConfirmation.names (confirmation : LeaseConfirmation) : List String :=
  confirmation.hostname.toList ++ confirmation.oldHostnameToDeregister.toList

/-- What a task owes to the DNS, with its client. -/
def namesDue (mac : MacAddr) : Cont → List (MacAddr × String)
  | .probedGrant grant | .waitedGrant grant | .checkedGrant grant | .sentAck grant =>
    grant.confirmation.names.map fun name => (mac, name)
  | .sentDeregister grant => grant.confirmation.hostname.toList.map fun name => (mac, name)
  | _ => []

/-- The name that a message registers or deregisters, with the client it is about. -/
def namesOwed (e : Event) : List (MacAddr × String) :=
  match e.msg with
  | .registerLocalHost name _ | .deregisterLocalHost name => [(e.client, name)]
  | _ => []

/-- The client and the name of an update. -/
def updateName (x : MacAddr × Lan.LocalHostEvent) : MacAddr × String := (x.1, x.2.name)

theorem map_updateName_due {mac : MacAddr} {k : Cont} :
    (updatesDue mac k).map updateName = namesDue mac k := by
  cases k <;> simp [updatesDue, namesDue, updateName, LeaseConfirmation.names,
    LeaseConfirmation.registration, LeaseConfirmation.deregistration, Lan.LocalHostEvent.name,
    Function.comp_def]

theorem map_updateName_owed {e : Event} : (updatesOwed e).map updateName = namesOwed e := by
  obtain ⟨client, since, msg⟩ := e
  cases msg <;> rfl

theorem map_updateName_task {mac : MacAddr} {pc : TaskPc} :
    (pc.due (updatesDue mac) updatesOwed).map updateName = pc.due (namesDue mac) namesOwed := by
  cases pc with
  | emit e k =>
    simp only [TaskPc.due, List.map_append]
    rw [map_updateName_owed, map_updateName_due]
  | done => rfl
  | _ => exact map_updateName_due

/-- The names under way. -/
def nameLedger (cfg : ServerConfig) : Ledger cfg (MacAddr × String) where
  due := namesDue
  owed := namesOwed
  start _ := ⟨rfl, rfl, rfl⟩
  flow := by
    intro mac dhcp now k reply x passive due
    rw [← map_updateName_task] at due
    obtain ⟨update, owed, rfl⟩ := List.mem_map.mp due
    rw [← map_updateName_due]
    exact List.mem_map_of_mem ((updateLedger cfg).flow passive owed)

/-- The name of an update under way is a name under way. -/
theorem mem_nameLedger_of_update {s : State} {x : MacAddr × Lan.LocalHostEvent}
    (due : x ∈ (updateLedger cfg).all s) : updateName x ∈ (nameLedger cfg).all s := by
  refine (nameLedger cfg).mem_all.mpr ?_
  rcases (updateLedger cfg).mem_all.mp due with ⟨task, member, owes⟩ | ⟨e, pending, owes⟩
  · have named : updateName x ∈ task.pc.due (namesDue task.mac) namesOwed := by
      rw [← map_updateName_task]
      exact List.mem_map_of_mem owes
    exact .inl ⟨task, member, named⟩
  · have named : updateName x ∈ namesOwed e := by
      rw [← map_updateName_owed]
      exact List.mem_map_of_mem owes
    exact .inr ⟨e, pending, named⟩

/-- The names that the entries carry. -/
def LeaseTable.entryNames (t : LeaseTable) : List (MacAddr × String) :=
  t.byMac.entries.filterMap fun e => e.2.hostname.map fun name => (e.1, name)

theorem LeaseTable.mem_entryNames {t : LeaseTable} :
    (m, name) ∈ t.entryNames ↔ ∃ lease, t.get m = some lease ∧ lease.hostname = some name := by
  simp only [entryNames, List.mem_filterMap, Sigma.exists, HashMap.mem_entries_iff,
    Option.map_eq_some_iff, Prod.mk.injEq]
  constructor
  · rintro ⟨m₀, lease, found, name₀, named, rfl, rfl⟩
    exact ⟨lease, found, named⟩
  · rintro ⟨lease, found, named⟩
    exact ⟨m, lease, found, name, named, rfl, rfl⟩

namespace Tracked

variable {s t : Tracked}

/-- The names registered for clients under a lease that has not run out. -/
def viewNames (s : Tracked) : List (MacAddr × String) :=
  s.views.entries.filterMap fun e =>
    if e.2.isLive s.worker.now then e.2.name.map fun name => (e.1, name) else none

theorem mem_viewNames :
    (m, name) ∈ s.viewNames ↔ (s.view m).owns s.worker.now name = true := by
  simp only [viewNames, List.mem_filterMap, Sigma.exists, HashMap.mem_entries_iff, view,
    ClientView.owns, Bool.and_eq_true, beq_iff_eq]
  constructor
  · rintro ⟨m₀, v, found, listed⟩
    split at listed
    · rename_i live
      obtain ⟨name₀, named, pair⟩ := Option.map_eq_some_iff.mp listed
      cases pair
      simp [found, live, named]
    · cases listed
  · rintro ⟨live, named⟩
    cases found : s.views.lookup m with
    | none => simp [found, ClientView.blank] at named
    | some v =>
      simp only [found, Option.getD_some] at live named
      exact ⟨m, v, found, by simp [live, named]⟩

/-- The clients' claims on names. -/
def nameClaims (cfg : ServerConfig) (s : Tracked) : List (MacAddr × String) :=
  s.worker.table.entryNames ++ (nameLedger cfg).all s.worker ++ s.viewNames

end Tracked

/-- The entry that the lease actor stores next. -/
def State.stores (s : State) : Option (MacAddr × ClientLease) :=
  s.nextMail.bind fun mail => mail.cmd.written s.now s.table

/-- The step does not store a name that another client has a claim on. -/
def NameUnclaimed (cfg : ServerConfig) (s : Tracked) (l : Label) : Prop :=
  match l with
  | .actor _ => ∀ entry ∈ s.worker.stores, ∀ name ∈ entry.2.hostname,
      ∀ claim ∈ s.nameClaims cfg, claim.2 = name → claim.1 = entry.1
  | _ => True

instance (s : Tracked) (l : Label) : Decidable (NameUnclaimed cfg s l) := by
  apply @Label.casesOn _ l
  case actor => exact fun _ => inferInstanceAs (Decidable (∀ entry ∈ s.worker.stores, _))
  all_goals intros; exact .isTrue trivial

theorem mem_entryNames_step {s t : State} (h : Step cfg s l t)
    (claimed : (m, name) ∈ t.table.entryNames) :
    (m, name) ∈ s.table.entryNames ∨
      ∃ order lease, l = .actor order ∧ s.stores = some (m, lease) ∧
        lease.hostname = some name := by
  rw [LeaseTable.mem_entryNames] at claimed ⊢
  obtain ⟨lease, found, named⟩ := claimed
  rcases h.get_table found with before | ⟨order, mail, rfl, next, written⟩
  · exact .inl ⟨lease, before, named⟩
  · exact .inr ⟨order, lease, rfl, by simp [State.stores, next, written], named⟩

theorem mem_names_iff {confirmation : LeaseConfirmation} :
    name ∈ confirmation.names ↔ confirmation.hostname = some name ∨
      confirmation.oldHostnameToDeregister = some name := by
  simp [LeaseConfirmation.names]

/-- The old name that a confirmation deregisters is the one on the client's entry. -/
theorem oldHostname_eq_some {old new : Option String}
    (replaced : LeaseTable.oldHostnameToDeregister old new = some name) : old = some name := by
  unfold LeaseTable.oldHostnameToDeregister at replaced
  split at replaced
  · split at replaced
    · exact replaced
    · cases replaced
  · exact replaced
  · cases replaced

/-- What the lease actor newly makes someone owe to the DNS is on an entry of the table, or
is the name that it stores. -/
theorem nameLedger_fresh {s : State} {order : IterOrder} {x : MacAddr × String}
    (visits : order.Visits s.table) (fresh : (nameLedger cfg).Fresh s order x) :
    x ∈ s.table.entryNames ∨
      ∃ lease, s.stores = some (x.1, lease) ∧ lease.hostname = some x.2 := by
  cases fresh with
  | @granted mac dhcp confirmation _ grants due =>
    obtain ⟨⟨caller, next⟩, granted⟩ := grants
    rcases List.mem_append.mp due with probe | later
    · cases probe
    · obtain ⟨name, listed, rfl⟩ := List.mem_map.mp later
      rcases mem_names_iff.mp listed with new | old
      · refine .inr ⟨⟨confirmation.ip, s.now + lanLeaseDuration, confirmation.hostname⟩, ?_,
          new⟩
        simp [State.stores, next, LeaseCommand.written, granted]
      · have replaced := (LeaseTable.validateAndConfirm_granted granted).replaced
        have carried := oldHostname_eq_some (replaced.symm.trans old)
        obtain ⟨lease, found, named⟩ := Option.bind_eq_some_iff.mp carried
        exact .inl (LeaseTable.mem_entryNames.mpr ⟨lease, found, named⟩)
  | refused due =>
    rcases List.mem_append.mp due with nak | later
    · cases nak
    · cases later
  | @released mac lease name _ next found named due =>
    rcases List.mem_append.mp due with deregister | later
    · cases List.mem_singleton.mp deregister
      exact .inl (LeaseTable.mem_entryNames.mpr ⟨lease, found, named⟩)
    · cases later
  | @expired mac name _ listed due =>
    cases List.mem_singleton.mp due
    obtain ⟨lease, found, -, named⟩ := (LeaseTable.mem_expiredHostnames visits).mp listed
    exact .inl (LeaseTable.mem_entryNames.mpr ⟨lease, found, named⟩)

theorem mem_nameClaims_step {s t : Tracked} (wf : Wf cfg s.worker) (h : s.step cfg l = some t)
    (claimed : (m, name) ∈ t.nameClaims cfg) :
    (m, name) ∈ s.nameClaims cfg ∨
      ∃ order lease, l = .actor order ∧ s.worker.stores = some (m, lease) ∧
        lease.hostname = some name := by
  have stepped := (Tracked.step_eq_some h).1
  simp only [Tracked.nameClaims, List.mem_append, Tracked.mem_viewNames] at claimed ⊢
  rcases claimed with (entry | due) | owned
  · rcases mem_entryNames_step stepped entry with before | stored
    · exact .inl (.inl (.inl before))
    · exact .inr stored
  · rcases (nameLedger cfg).step wf stepped due with before | ⟨order, rfl, visits, fresh⟩
    · exact .inl (.inl (.inr before))
    · rcases nameLedger_fresh visits fresh with entry | ⟨lease, stored, named⟩
      · exact .inl (.inl (.inl entry))
      · exact .inr ⟨order, lease, rfl, stored, named⟩
  · rcases owns_step h owned with before | ⟨ip, due⟩
    · exact .inl (.inr before)
    · exact .inl (.inl (.inr (mem_nameLedger_of_update due)))

/-- No name is claimed by two clients. -/
structure NamesUnique (cfg : ServerConfig) (s : Tracked) : Prop where
  wf : Wf cfg s.worker
  unique : ∀ {m m' : MacAddr} {name : String}, (m, name) ∈ s.nameClaims cfg →
    (m', name) ∈ s.nameClaims cfg → m = m'

theorem NamesUnique.init (staticLeases : List StaticLease) :
    NamesUnique cfg (Tracked.init staticLeases) where
  wf := Wf.init staticLeases
  unique := by
    intro m m' name claimed
    simp only [Tracked.nameClaims, List.mem_append, Tracked.mem_viewNames] at claimed
    rcases claimed with (entry | due) | owned
    · obtain ⟨lease, found, -⟩ := LeaseTable.mem_entryNames.mp entry
      cases State.get_init.symm.trans found
    · cases due
    · cases owned

theorem NamesUnique.keep :
    Inductive (Tracked.step cfg) (NameUnclaimed cfg) (NamesUnique cfg) := by
  intro s l t apart free h
  refine ⟨apart.wf.keep (Tracked.step_eq_some h).1, ?_⟩
  intro m m' name claimed claimed'
  rcases mem_nameClaims_step apart.wf h claimed with
    before | ⟨order, lease, rfl, stored, named⟩
  · rcases mem_nameClaims_step apart.wf h claimed' with
      before' | ⟨order, lease, rfl, stored, named⟩
    · exact apart.unique before before'
    · exact free _ stored name named _ before rfl
  · rcases mem_nameClaims_step apart.wf h claimed' with before' | ⟨_, lease', _, stored', _⟩
    · exact (free _ stored name named _ before' rfl).symm
    · rw [stored] at stored'
      cases stored'
      rfl

/-- In a run in which no command stores a name that another client has a claim on, a
deregistration never hits a name that is registered for another client. -/
theorem deregistration_spares_others {staticLeases : List StaticLease} {ls : List Label}
    {s : Tracked} {since : Nat} {other : MacAddr}
    (meets : Meets (Tracked.step cfg) (NameUnclaimed cfg) (Tracked.init staticLeases) ls)
    (run : exec (Tracked.step cfg) (Tracked.init staticLeases) ls = some s)
    (sent : emitted s.worker l = some ⟨m, since, .deregisterLocalHost name⟩)
    (different : other ≠ m) : (s.view other).owns s.worker.now name = false := by
  have apart := NamesUnique.keep.exec (NamesUnique.init staticLeases) meets run
  rcases mem_pending_of_emitted sent with due | ⟨leases, beat⟩
  · have mine : (m, name) ∈ s.nameClaims cfg := by
      refine List.mem_append_left _ (List.mem_append_right _ ?_)
      exact (nameLedger cfg).mem_all.mpr (.inr ⟨_, due, List.mem_singleton.mpr rfl⟩)
    by_contra owned
    have theirs : (other, name) ∈ s.nameClaims cfg :=
      List.mem_append_right _ (Tracked.mem_viewNames.mpr (by simpa using owned))
    exact different (apart.unique theirs mine)
  · cases beat

/-- Client 1 registers a name, releases its lease, and the deregistration is about to be
sent. -/
def releaseRun : List Label :=
  requestExchange 0 1 (.new 192 168 1 7) (some "Laptop.lan") [] [1] ++ sending 0 ++
    [Label.packet 1 (sampleMessage .release 1 none none)] ++ asking 1 [1] ++
    [Label.task 1, .takeEvent]

/-- The run meets the condition, and the deregistration spares everybody else. -/
theorem deregistration_spares_others_after_release :
    ∃ s, exec (Tracked.step sampleConfig) (Tracked.init []) releaseRun = some s ∧
      emitted s.worker .main = some ⟨1, arpResolutionDelay, .deregisterLocalHost "laptop"⟩ ∧
      (s.view 2).owns s.worker.now "laptop" = false := by
  have meets : Meets (Tracked.step sampleConfig) (NameUnclaimed sampleConfig) (Tracked.init [])
      releaseRun := by
    decide +kernel
  obtain ⟨s, run, sent⟩ : ∃ s, exec (Tracked.step sampleConfig) (Tracked.init []) releaseRun =
      some s ∧ emitted s.worker .main =
        some ⟨1, arpResolutionDelay, .deregisterLocalHost "laptop"⟩ := by
    decide +kernel
  exact ⟨s, run, sent, deregistration_spares_others meets run sent (by decide)⟩

/-- Client 1 has registered "laptop".  Client 2 sends a DISCOVER with the same name, which its
new entry carries, and then a REQUEST.  The name is taken, so client 2 gets none, and its
old name, the one of client 1, is about to be deregistered. -/
def takeoverRun : List Label :=
  laptopExchange ++
    discoverExchange 1 2 (some "laptop") [1] [1, 2] ++
    requestExchange 2 2 (.new 192 168 1 2) (some "laptop") [1, 2] [1, 2] ++
    [Label.task 2, .takeEvent]

/-- The deregistration that client 2 causes hits the name registered for client 1. -/
theorem deregistration_hits_other_client :
    ∃ s, exec (Tracked.step sampleConfig) (Tracked.init []) takeoverRun = some s ∧
      emitted s.worker .main = some ⟨2, 3 * arpResolutionDelay, .deregisterLocalHost "laptop"⟩ ∧
      (s.view 1).owns s.worker.now "laptop" = true := by
  decide +kernel

end TrimRouter.DhcpServer
