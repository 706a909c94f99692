import TrimRouter.DhcpServer.LeaseExclusivity
import TrimRouter.DhcpServer.NameUpdates

/-!
# Ownership of host names

Names are given out first come, first served: `ValidateAndConfirmRequest` stores a name only if no
other client's live entry carries it.  The other commands that store a name do not make this test
(`ConfirmLease` of a DISCOVER, and the reserved name in `AllocateCandidate` and `AddNeighbor`), so
two live entries can carry one name, and then the test takes the name away from the client that
renews first.  `hostnames_owned` is about runs that store no unchecked name of another client.
-/

namespace TrimRouter.DhcpServer

open Run Lan

variable {cfg : ServerConfig} {l : Label} {m m' : MacAddr} {name : String}

/-! ## Names on live entries -/

namespace LeaseTable

/-- The client has a live entry with the name. -/
def carries (t : LeaseTable) (now : Nat) (m : MacAddr) (name : String) : Bool :=
  (t.get m).any fun lease => lease.isLive now && lease.hostname == some name

variable {t : LeaseTable} {now : Nat}

theorem carries_iff :
    t.carries now m name = true ↔
      ∃ lease, t.get m = some lease ∧ now < lease.expiry ∧ lease.hostname = some name := by
  simp only [carries, Option.any_eq_true, Bool.and_eq_true, ClientLease.isLive_iff, beq_iff_eq]

/-- The collision test looks for another carrier. -/
theorem isHostnameTakenByOther_iff_carries :
    t.isHostnameTakenByOther now name m = true ↔ ∃ m', m' ≠ m ∧ t.carries now m' name = true := by
  simp only [isHostnameTakenByOther_iff, carries_iff]
  constructor
  · intro ⟨m', lease, other, found, live, named⟩
    exact ⟨m', other, lease, found, live, named⟩
  · intro ⟨m', other, lease, found, live, named⟩
    exact ⟨m', lease, other, found, live, named⟩

/-- A name that passed the test has no carrier but the client itself. -/
theorem eq_of_untaken (untaken : t.isHostnameTakenByOther now name m = false)
    (carried : t.carries now m' name = true) : m' = m := by
  by_contra other
  rw [isHostnameTakenByOther_iff_carries.mpr ⟨m', other, carried⟩] at untaken
  cases untaken

end LeaseTable

namespace LeaseCommand

variable {t : LeaseTable} {now : Nat} {cmd : LeaseCommand} {lease : ClientLease}

/-- The name that a command has for its client: the reserved one, or the one that the client
sent. -/
def nameFor (t : LeaseTable) : LeaseCommand → Option (MacAddr × String)
  | .allocateCandidate mac _ _ | .addNeighbor mac _ =>
    ((t.staticLeases.lookup mac).bind StaticLease.hostname).map (mac, ·)
  | .confirmLease mac _ _ hostname => hostname.map (mac, ·)
  | .validateAndConfirmRequest mac _ _ _ _ requestedHostname =>
    (((t.staticLeases.lookup mac).bind StaticLease.hostname).or requestedHostname).map (mac, ·)
  | _ => none

/-- A stored name is the one that the command has for its client; that of a request passed the
test. -/
theorem nameFor_of_written (writes : cmd.written now t = some (m, lease))
    (named : lease.hostname = some name) :
    cmd.nameFor t = some (m, name) ∧
      (cmd.isRequest = true → t.isHostnameTakenByOther now name m = false) := by
  have untested : ∀ {p : Prop}, false = true → p := fun never => absurd never Bool.false_ne_true
  cases cmd with
  | allocateCandidate mac net serverIp =>
    simp only [written, Option.map_eq_some_iff, Prod.mk.injEq] at writes
    obtain ⟨ip, -, rfl, rfl⟩ := writes
    exact ⟨Option.map_eq_some_iff.mpr ⟨name, named, rfl⟩, untested⟩
  | confirmLease mac ip duration hostname =>
    simp only [written, Option.some.injEq, Prod.mk.injEq] at writes
    obtain ⟨rfl, rfl⟩ := writes
    exact ⟨by simpa [nameFor] using named, untested⟩
  | validateAndConfirmRequest =>
    simp only [written, Option.map_eq_some_iff, Prod.mk.injEq] at writes
    obtain ⟨conf, granted, rfl, rfl⟩ := writes
    rw [(LeaseTable.validateAndConfirm_granted granted).named, Option.filter_eq_some_iff] at named
    exact ⟨by simp [nameFor, named.1], fun _ => by simpa using named.2⟩
  | addNeighbor mac ip =>
    simp only [written] at writes
    split at writes
    · cases writes
    · cases writes
      exact ⟨Option.map_eq_some_iff.mpr ⟨name, named, rfl⟩, untested⟩
  | _ => cases writes

end LeaseCommand

theorem carries_step {s t : State} (h : Step cfg s l t)
    (carried : t.table.carries t.now m name = true) :
    s.table.carries s.now m name = true ∨
      ∃ order mail, l = .actor order ∧ s.nextMail = some mail ∧
        mail.cmd.nameFor s.table = some (m, name) ∧
        (mail.cmd.isRequest = true → s.table.isHostnameTakenByOther s.now name m = false) := by
  obtain ⟨lease, found, live, named⟩ := LeaseTable.carries_iff.mp carried
  rcases h.get_table found with before | ⟨order, mail, rfl, next, written⟩
  · have live' : s.now < lease.expiry := Nat.lt_of_le_of_lt h.now_le live
    exact .inl (LeaseTable.carries_iff.mpr ⟨lease, before, live', named⟩)
  · obtain ⟨stored, tested⟩ := LeaseCommand.nameFor_of_written written named
    exact .inr ⟨order, mail, rfl, next, stored, tested⟩

/-! ## Owners of names -/

/-- The name that an update registers, with its client. -/
def registers (x : MacAddr × LocalHostEvent) : Option (MacAddr × String) :=
  match x.2 with
  | .register name _ => some (x.1, name)
  | .deregister _ => none

/-- The worker with the views of its clients and the name that is registered for each client
and has not been deregistered for it since. -/
structure Registry where
  tracked : Tracked
  names : HashMap MacAddr String

namespace Registry

/-- The worker itself. -/
abbrev worker (s : Registry) : State := s.tracked.worker

variable {s t : Registry}

/-- Nothing is registered. -/
def init (staticLeases : List StaticLease) : Registry := ⟨Tracked.init staticLeases, ∅⟩

/-- The registered names after a message. -/
def note (names : HashMap MacAddr String) : Option Event → HashMap MacAddr String
  | some ⟨client, _, .registerLocalHost name _⟩ => names.insert client name
  | some ⟨client, _, .deregisterLocalHost name⟩ =>
    if names.lookup client = some name then names.erase client else names
  | _ => names

/-- A step of the worker, with the registered names. -/
def step (cfg : ServerConfig) (s : Registry) (l : Label) : Option Registry :=
  (s.tracked.step cfg l).map fun tracked => ⟨tracked, note s.names (emitted s.worker l)⟩

/-- The client owns the name: it is registered for the client under an acknowledged lease that
has not run out. -/
def owns (s : Registry) (m : MacAddr) (name : String) : Bool :=
  s.names.lookup m == some name && (s.tracked.view m).owns s.worker.now name

theorem step_eq_some (h : s.step cfg l = some t) :
    s.tracked.step cfg l = some t.tracked ∧
      t.names = note s.names (emitted s.worker l) := by
  obtain ⟨tracked, stepped, rfl⟩ := Option.map_eq_some_iff.mp h
  exact ⟨stepped, rfl⟩

theorem lookup_note {names : HashMap MacAddr String} {e : Option Event}
    (registered : (note names e).lookup m = some name) :
    names.lookup m = some name ∨
      ∃ since ip, e = some ⟨m, since, .registerLocalHost name ip⟩ := by
  unfold note at registered
  split at registered
  · rename_i client since name' ip
    rw [HashMap.lookup_insert_eq] at registered
    split at registered
    · rename_i same
      cases registered
      exact .inr ⟨since, ip, by rw [same]⟩
    · exact .inl registered
  · split at registered
    · rw [HashMap.lookup_erase_eq] at registered
      split at registered
      · cases registered
      · exact .inl registered
    · exact .inl registered
  · exact .inl registered

/-- The clients that own a name, or are about to. -/
def nameOwners (cfg : ServerConfig) (s : Registry) : List (MacAddr × String) :=
  (s.names.entries.map fun e => (e.1, e.2)).filter (fun x => s.owns x.1 x.2) ++
    ((updateLedger cfg).all s.worker).filterMap registers

theorem mem_nameOwners :
    (m, name) ∈ s.nameOwners cfg ↔ s.owns m name = true ∨
      ∃ ip, (m, .register name ip) ∈ (updateLedger cfg).all s.worker := by
  rw [nameOwners, List.mem_append, List.mem_filter, List.mem_filterMap]
  apply or_congr
  · refine ⟨fun member => member.2, fun owned => ⟨?_, owned⟩⟩
    have listed := (Bool.and_eq_true_iff.mp owned).1
    exact List.mem_map.mpr ⟨⟨m, name⟩, HashMap.mem_entries_iff.mpr (beq_iff_eq.mp listed), rfl⟩
  · constructor
    · intro ⟨⟨client, update⟩, due, registered⟩
      cases update with
      | register name' ip =>
        cases registered
        exact ⟨ip, due⟩
      | deregister name' => cases registered
    · intro ⟨ip, due⟩
      exact ⟨_, due, rfl⟩

end Registry

/-- An owner after a step was one before, or its registration was under way. -/
theorem Registry.owns_step {s t : Registry} (h : s.step cfg l = some t)
    (owned : t.owns m name = true) : (m, name) ∈ s.nameOwners cfg := by
  obtain ⟨stepped, names⟩ := Registry.step_eq_some h
  obtain ⟨listed, leased⟩ := Bool.and_eq_true_iff.mp owned
  rw [names, beq_iff_eq] at listed
  rw [mem_nameOwners]
  rcases lookup_note listed with before | ⟨since, ip, sent⟩
  · rcases DhcpServer.owns_step stepped leased with running | due
    · exact .inl (Bool.and_eq_true_iff.mpr ⟨beq_iff_eq.mpr before, running⟩)
    · exact .inr due
  · rcases mem_pending_of_emitted sent with due | ⟨leases, beat⟩
    · exact .inr ⟨ip, (updateLedger cfg).mem_all.mpr (.inr ⟨_, due, List.mem_singleton.mpr rfl⟩)⟩
    · cases beat

theorem mem_nameOwners_step {s t : Registry} (wf : Wf cfg s.worker)
    (h : s.step cfg l = some t) (owner : (m, name) ∈ t.nameOwners cfg) :
    (m, name) ∈ s.nameOwners cfg ∨
      ∃ order dhcp confirmation, l = .actor order ∧
        Granted cfg s.worker m dhcp confirmation ∧ confirmation.hostname = some name := by
  rcases Registry.mem_nameOwners.mp owner with owned | ⟨ip, due⟩
  · exact .inl (Registry.owns_step h owned)
  · have stepped := (Tracked.step_eq_some (Registry.step_eq_some h).1).1
    rcases (updateLedger cfg).step wf stepped due with before | ⟨order, rfl, -, fresh⟩
    · exact .inl (Registry.mem_nameOwners.mpr (.inr ⟨ip, before⟩))
    · cases updateLedger_fresh fresh with
      | granted grants listed =>
        obtain ⟨named, -⟩ := mem_registration.mp listed
        exact .inr ⟨order, _, _, rfl, grants, named⟩

/-- The name that a command has for its client is its own: nobody else owns it, and if another
live entry carries it, the command is a request, which then gets no name. -/
def StoresOwnName (cfg : ServerConfig) (s : Registry) (cmd : LeaseCommand) : Prop :=
  ∀ stored ∈ cmd.nameFor s.worker.table,
    if s.worker.table.isHostnameTakenByOther s.worker.now stored.2 stored.1 then
      cmd.isRequest = true
    else ∀ owner ∈ s.nameOwners cfg, owner.2 = stored.2 → owner.1 = stored.1
deriving Decidable

/-- The step stores no name of another client. -/
def NameFree (cfg : ServerConfig) (s : Registry) (l : Label) : Prop :=
  match l with
  | .actor _ => ∀ mail ∈ s.worker.nextMail, StoresOwnName cfg s mail.cmd
  | _ => True

instance (s : Registry) (l : Label) : Decidable (NameFree cfg s l) := by
  apply @Label.casesOn _ l
  case actor => exact fun _ => inferInstanceAs (Decidable (∀ mail ∈ s.worker.nextMail, _))
  all_goals intros; exact .isTrue trivial

/-- A name on a live entry has no other carrier and no other owner. -/
structure Ownership (cfg : ServerConfig) (s : Registry) : Prop where
  wf : Wf cfg s.worker
  carriers : ∀ {m m' : MacAddr} {name : String},
    s.worker.table.carries s.worker.now m name = true →
    s.worker.table.carries s.worker.now m' name = true → m = m'
  owners : ∀ {m m' : MacAddr} {name : String},
    s.worker.table.carries s.worker.now m name = true → (m', name) ∈ s.nameOwners cfg →
    m = m'

theorem Ownership.init (staticLeases : List StaticLease) :
    Ownership cfg (Registry.init staticLeases) := by
  have empty : ∀ {m : MacAddr} {name : String},
      (State.init staticLeases).table.carries 0 m name = false := by
    intro m name
    rw [LeaseTable.carries, State.get_init]
    rfl
  refine ⟨Wf.init staticLeases, fun carried => ?_, fun carried => ?_⟩
  · cases empty.symm.trans carried
  · cases empty.symm.trans carried

theorem NameFree.stored {s : Registry} {order : IterOrder} {mail : Mail}
    (free : NameFree cfg s (.actor order)) (next : s.worker.nextMail = some mail)
    (stores : mail.cmd.nameFor s.worker.table = some (m, name))
    (tested : mail.cmd.isRequest = true →
      s.worker.table.isHostnameTakenByOther s.worker.now name m = false) :
    s.worker.table.isHostnameTakenByOther s.worker.now name m = false ∧
      ∀ m', (m', name) ∈ s.nameOwners cfg → m = m' := by
  have own := free mail next (m, name) stores
  split at own
  · rename_i taken
    rw [tested own] at taken
    cases taken
  · rename_i untaken
    exact ⟨by simpa using untaken, fun m' owner => (own (m', name) owner rfl).symm⟩

theorem nameFor_of_granted {s : State} {mail : Mail} {dhcp : Message}
    {confirmation : LeaseConfirmation} (grants : Granted cfg s m dhcp confirmation)
    (next : s.nextMail = some mail) (stores : mail.cmd.nameFor s.table = some (m', name)) :
    m' = m := by
  obtain ⟨caller, sent⟩ := grants.next
  rw [next] at sent
  cases sent
  obtain ⟨_, -, same⟩ := Option.map_eq_some_iff.mp stores
  cases same
  rfl

theorem Ownership.keep : Inductive (Registry.step cfg) (NameFree cfg) (Ownership cfg) := by
  intro s l t ⟨wf, carriers, owners⟩ free h
  have stepped := (Tracked.step_eq_some (Registry.step_eq_some h).1).1
  refine ⟨wf.keep stepped, fun {m m' name} carried carried' => ?_,
    fun {m m' name} carried owner => ?_⟩
  · rcases carries_step stepped carried with before | ⟨order, mail, rfl, next, stores, tested⟩
    · rcases carries_step stepped carried' with
        before' | ⟨order, mail, rfl, next, stores, tested⟩
      · exact carriers before before'
      · exact LeaseTable.eq_of_untaken (free.stored next stores tested).1 before
    · rcases carries_step stepped carried' with before' | ⟨_, mail', _, next', stores', _⟩
      · exact (LeaseTable.eq_of_untaken (free.stored next stores tested).1 before').symm
      · cases next.symm.trans next'
        cases stores.symm.trans stores'
        rfl
  · rcases carries_step stepped carried with before | ⟨order, mail, rfl, next, stores, tested⟩
    · rcases mem_nameOwners_step wf h owner with before' | ⟨order, dhcp, conf, rfl, grants, named⟩
      · exact owners before before'
      · have confirms := LeaseTable.validateAndConfirm_granted grants.granted
        exact LeaseTable.eq_of_untaken (confirms.untaken named) before
    · rcases mem_nameOwners_step wf h owner with before' | ⟨_, dhcp, conf, _, grants, named⟩
      · exact (free.stored next stores tested).2 m' before'
      · exact nameFor_of_granted grants next stores

theorem Ownership.keeps_name {s : Registry} {requestedIp : Option Ipv4Addr}
    {hostname : Option String} {confirmation : LeaseConfirmation} (owned : Ownership cfg s)
    (mine : s.owns m name = true ∨ s.worker.table.carries s.worker.now m name = true)
    (asks : ((s.worker.table.staticLeases.lookup m).bind StaticLease.hostname).or hostname =
      some name)
    (granted : (s.worker.table.validateAndConfirm s.worker.now m requestedIp cfg.serverIp cfg.net
      lanLeaseDuration hostname).2 = some confirmation) :
    confirmation.hostname = some name := by
  have untaken : s.worker.table.isHostnameTakenByOther s.worker.now name m = false := by
    by_contra taken
    obtain ⟨m', other, carried⟩ :=
      LeaseTable.isHostnameTakenByOther_iff_carries.mp (by simpa using taken)
    rcases mine with owns | carries
    · exact other (owned.owners carried (Registry.mem_nameOwners.mpr (.inl owns)))
    · exact other (owned.carriers carried carries)
  rw [(LeaseTable.validateAndConfirm_granted granted).named, asks]
  simp [untaken]

/-- In a run in which no command stores a name of another client, at every moment: no two
clients have live entries with one name, and a client that owns a name, or has it on a live
entry, keeps it when its request for the same name is granted. -/
theorem hostnames_owned {staticLeases : List StaticLease} {ls : List Label} {s : Registry}
    (meets : Meets (Registry.step cfg) (NameFree cfg) (Registry.init staticLeases) ls)
    (run : exec (Registry.step cfg) (Registry.init staticLeases) ls = some s) :
    (∀ m m' name, s.worker.table.carries s.worker.now m name = true →
      s.worker.table.carries s.worker.now m' name = true → m = m') ∧
    ∀ m name requestedIp hostname confirmation,
      s.owns m name = true ∨ s.worker.table.carries s.worker.now m name = true →
      ((s.worker.table.staticLeases.lookup m).bind StaticLease.hostname).or hostname = some name →
      (s.worker.table.validateAndConfirm s.worker.now m requestedIp cfg.serverIp cfg.net
        lanLeaseDuration hostname).2 = some confirmation →
      confirmation.hostname = some name := by
  have owned := Ownership.keep.exec (Ownership.init staticLeases) meets run
  exact ⟨fun _ _ _ carried carried' => owned.carriers carried carried',
    fun _ _ _ _ _ mine asks granted => owned.keeps_name mine asks granted⟩

/-- Client 1 registers "laptop"; client 2 asks for the same name and gets none. -/
def collisionRun : List Label :=
  laptopExchange ++ requestExchange 1 2 (.new 192 168 1 8) (some "laptop") [1] [1, 2]

/-- The answer to a REQUEST of client 1 for its address and its name. -/
def renewLaptop (s : State) : Option LeaseConfirmation :=
  (s.table.validateAndConfirm s.now 1 (some (.new 192 168 1 7)) sampleConfig.serverIp
    sampleConfig.net lanLeaseDuration (some "laptop")).2

/-- The run meets the condition, and client 1 keeps its name on renewal. -/
theorem hostnames_owned_after_collision :
    ∃ s confirmation, exec (Registry.step sampleConfig) (Registry.init []) collisionRun = some s ∧
      s.owns 1 "laptop" = true ∧ renewLaptop s.worker = some confirmation ∧
      confirmation.hostname = some "laptop" := by
  have meets : Meets (Registry.step sampleConfig) (NameFree sampleConfig) (Registry.init [])
      collisionRun := by
    decide +kernel
  obtain ⟨s, run, owns, unreserved, there⟩ : ∃ s, exec (Registry.step sampleConfig)
      (Registry.init []) collisionRun = some s ∧ s.owns 1 "laptop" = true ∧
      s.worker.table.staticLeases.lookup 1 = none ∧ (renewLaptop s.worker).isSome := by
    decide +kernel
  obtain ⟨confirmation, granted⟩ := Option.isSome_iff_exists.mp there
  have kept := (hostnames_owned meets run).2 1 "laptop" _ _ _ (.inl owns)
    (by rw [unreserved]; rfl) granted
  exact ⟨s, confirmation, run, owns, granted, kept⟩

/-- Client 1 registers "laptop"; client 2 sends a DISCOVER with the same name. -/
def duplicateRun : List Label :=
  laptopExchange ++ discoverExchange 1 2 (some "laptop") [1] [1, 2]

/-- Both clients then have live entries with the name, and the owner loses it when its renewal
is granted. -/
theorem discover_duplicates_name :
    ∃ s, exec (Registry.step sampleConfig) (Registry.init []) duplicateRun = some s ∧
      s.worker.table.carries s.worker.now 1 "laptop" = true ∧
      s.worker.table.carries s.worker.now 2 "laptop" = true ∧
      s.owns 1 "laptop" = true ∧
      renewLaptop s.worker = some ⟨.new 192 168 1 7, none, some "laptop"⟩ := by
  decide +kernel

end TrimRouter.DhcpServer
