import TrimRouter.DhcpServer.PoolSearch
import TrimRouter.DhcpServer.Refusal

/-!
# Conflict holds

`RecordConflict` puts an address on hold for `CONFLICT_HOLD_DURATION`.  Only the search for a new
address in the pool looks at the holds; an offer of an existing entry or of a reservation and the
validation of a request do not.  `holds_honoured` is about runs in which these paths stay clear of
the holds.
-/

namespace TrimRouter.DhcpServer

open Run

variable {cfg : ServerConfig} {l : Label} {m mac : MacAddr} {ip : Ipv4Addr}

/-! ## The holds in the table -/

section

variable {t : LeaseTable} {now expiry : Nat} {order : IterOrder}

theorem conflicts_dropMoved (r : StaticLease) : (t.dropMoved r).conflicts = t.conflicts := by
  unfold LeaseTable.dropMoved
  split
  · split
    · unfold LeaseTable.remove
      split <;> rfl
    · rfl
  · rfl

theorem conflicts_setStaticLeases (staticLeases : List StaticLease) :
    (t.setStaticLeases staticLeases).conflicts = t.conflicts := by
  have folded : ∀ table : LeaseTable,
      (staticLeases.foldl LeaseTable.dropMoved table).conflicts = table.conflicts := by
    induction staticLeases with
    | nil => exact fun _ => rfl
    | cons r rest ih => exact fun table => (ih (table.dropMoved r)).trans (conflicts_dropMoved r)
  exact folded t

theorem lookup_conflicts_evictExpired (found : t.conflicts.lookup ip = some expiry)
    (live : now < expiry) : (t.evictExpired now).conflicts.lookup ip = some expiry :=
  HashMap.lookup_retain_eq_some.mpr ⟨found, decide_eq_true live⟩

theorem lookup_conflicts_candidateBase (found : t.conflicts.lookup ip = some expiry)
    (live : now < expiry) : (t.candidateBase now mac).conflicts.lookup ip = some expiry := by
  unfold LeaseTable.candidateBase
  split
  · exact lookup_conflicts_evictExpired found live
  · exact found

/-- A running hold survives every command but another hold on the same address. -/
theorem LeaseTable.lookup_conflicts {cmd : LeaseCommand}
    (found : t.conflicts.lookup ip = some expiry) (live : now < expiry)
    (other : ∀ duration, cmd ≠ .recordConflict ip duration) :
    (handleLeaseCommand now order t cmd).1.conflicts.lookup ip = some expiry := by
  cases cmd with
  | setStaticLeases staticLeases =>
    simp only [handleLeaseCommand, conflicts_setStaticLeases, found]
  | allocateCandidate mac net serverIp =>
    simp only [handleLeaseCommand, LeaseTable.allocateCandidate_fst]
    split <;> exact lookup_conflicts_candidateBase found live
  | validateAndConfirmRequest =>
    simp only [handleLeaseCommand, LeaseTable.validateAndConfirm_fst]
    split <;> exact found
  | recordConflict held duration =>
    have different : ip ≠ held := by
      rintro rfl
      exact other duration rfl
    exact HashMap.lookup_insert_eq.trans ((if_neg different).trans found)
  | release mac =>
    simp only [handleLeaseCommand, LeaseTable.remove]
    split <;> exact found
  | evictExpired => exact lookup_conflicts_evictExpired found live
  | addNeighbor mac seen =>
    simp only [handleLeaseCommand, LeaseTable.updateFromNeighbor]
    split <;> exact found
  | _ => exact found

/-- The pool never yields an address with a running hold. -/
theorem LeaseTable.unheld_of_candidate {net : Ipv4Net} {serverIp : Ipv4Addr}
    (unreserved : t.staticLeases.lookup mac = none)
    (allocated : (t.allocateCandidate now mac net serverIp).2 = some ip) :
    ∀ expiry, t.conflicts.lookup ip = some expiry → expiry ≤ now := by
  intro expiry found
  rw [LeaseTable.allocateCandidate_snd unreserved] at allocated
  have free := (LeaseTable.findHost_eq_some_iff.mp allocated).1
  have elapsed := free.unheld
  rw [LeaseTable.isConflictActive, found] at elapsed
  exact Nat.le_of_not_lt (of_decide_eq_false elapsed)

end

/-! ## The addresses that are about to be given out -/

/-- The client and the address that a task will offer or acknowledge, unless its probe finds a
conflict. -/
def promisedBy (mac : MacAddr) : Cont → List (MacAddr × Ipv4Addr)
  | .probedCandidate ip | .waitedCandidate ip | .checkedCandidate ip | .confirmedLease ip =>
    [(mac, ip)]
  | .probedGrant grant | .waitedGrant grant | .checkedGrant grant =>
    [(mac, grant.confirmation.ip)]
  | _ => []

/-- The client and the address of an offer or an acknowledgement. -/
def promisedIn (e : Event) : List (MacAddr × Ipv4Addr) :=
  match e.msg with
  | .sendOffer clientMac _ ip _ | .sendAck clientMac _ ip _ => [(clientMac, ip)]
  | _ => []

/-- Every address that is about to be offered or acknowledged. -/
def State.promised (s : State) : List (MacAddr × Ipv4Addr) := s.owing promisedBy promisedIn

/-- The address that a command settles on for a client without a look at the holds. -/
def LeaseCommand.settles (now : Nat) (t : LeaseTable) :
    LeaseCommand → Option (MacAddr × Ipv4Addr)
  | .getExistingIp mac =>
    (((t.staticLeases.lookup mac).map StaticLease.ip).or
      ((t.get mac).map ClientLease.ip)).map fun ip => (mac, ip)
  | .allocateCandidate mac net serverIp =>
    if (t.staticLeases.lookup mac).isSome then
      (t.allocateCandidate now mac net serverIp).2.map fun ip => (mac, ip)
    else none
  | .validateAndConfirmRequest mac requestedIp serverIp net duration hostname =>
    (t.validateAndConfirm now mac requestedIp serverIp net duration hostname).2.map fun conf =>
      (mac, conf.ip)
  | _ => none

/-- A task takes on no address by its own moves. -/
theorem promised_passesOn : PassesOn promisedBy promisedIn cfg where
  start _ := ⟨rfl, rfl, rfl⟩
  flow := by
    intro mac dhcp now k x due
    cases k with
    | sentAck grant =>
      simp only [Task.proceed, Task.register] at due
      split at due
      · cases due
      · split at due <;> cases due
    | sentDeregister grant =>
      simp only [Task.proceed, Task.register] at due
      split at due <;> cases due
    | probedCandidate | waitedCandidate | checkedCandidate | confirmedLease | probedGrant
    | waitedGrant | checkedGrant => exact due
    | _ => cases due

/-- Where a task gets the address that it is about to give out: it already had it, or the lease
actor has settled on it without a look at the holds, or has found it in the pool. -/
theorem Promised.of_reply {now : Nat} {order : IterOrder} {t : LeaseTable} {dhcp : Message}
    {cmd : LeaseCommand} {k : Cont} {x : MacAddr × Ipv4Addr} (calls : Calls cfg mac dhcp cmd k)
    (due : x ∈ (Task.proceed cfg mac dhcp now k
      (handleLeaseCommand now order t cmd).2).due (promisedBy mac) promisedIn) :
    x ∈ promisedBy mac k ∨ cmd.settles now t = some x ∨
      ∀ expiry, t.conflicts.lookup x.2 = some expiry → expiry ≤ now := by
  cases calls with
  | existing =>
    simp only [handleLeaseCommand, Task.proceed, LeaseReply.asIp] at due
    split at due
    · rename_i ip known
      cases List.mem_singleton.mp due
      refine .inr (.inl ?_)
      cases reserved : t.staticLeases.lookup mac with
      | none => simpa [LeaseCommand.settles, reserved] using known
      | some r => simpa [LeaseCommand.settles, reserved] using known
    · cases due
  | candidate =>
    simp only [handleLeaseCommand, Task.proceed, LeaseReply.asIp] at due
    split at due
    · rename_i ip allocated
      cases List.mem_singleton.mp due
      cases reserved : t.staticLeases.lookup mac with
      | none => exact .inr (.inr (LeaseTable.unheld_of_candidate reserved allocated))
      | some r =>
        exact .inr (.inl (by simp [LeaseCommand.settles, reserved, allocated]))
    · cases due
  | checkCandidate | checkGrant =>
    simp only [Task.proceed] at due
    split at due
    · cases due
    · exact .inl due
  | validate =>
    simp only [handleLeaseCommand, Task.proceed, LeaseReply.asConfirmation] at due
    split at due
    · rename_i conf granted
      cases List.mem_singleton.mp due
      exact .inr (.inl (by simp [LeaseCommand.settles, granted]))
    · cases due
  | release =>
    simp only [Task.proceed] at due
    split at due <;> cases due

/-! ## Holds and their occupants -/

/-- A processed `RecordConflict`: the address, the instant, and the client whose entry the check
before it has found on the address. -/
structure Hold where
  ip : Ipv4Addr
  since : Nat
  occupant : Option MacAddr
deriving DecidableEq

/-- The hold is running and keeps the address from the client. -/
def Hold.Forbids (h : Hold) (now : Nat) (mac : MacAddr) (ip : Ipv4Addr) : Prop :=
  h.ip = ip ∧ now < h.since + conflictHoldDuration ∧ h.occupant ≠ some mac
deriving Decidable

theorem Hold.Forbids.of_le {h : Hold} {now later : Nat} (forbids : h.Forbids later mac ip)
    (le : now ≤ later) : h.Forbids now mac ip :=
  ⟨forbids.1, by have := forbids.2.1; omega, forbids.2.2⟩

/-- The worker with the holds that it has processed.  `found` is whom the last check of each task
has found, and `queued` the occupants of the `RecordConflict` commands in the lease actor's
channel, oldest first. -/
structure Held where
  worker : State
  found : Nat → Option MacAddr
  queued : List (Option MacAddr)
  holds : List Hold

namespace Held

def init (staticLeases : List StaticLease) : Held :=
  ⟨State.init staticLeases, fun _ => none, [], []⟩

/-- What a step adds to the record. -/
def note (s : Held) : Label → Held
  | .task i =>
    match s.worker.tasks[i]? with
    | some ⟨_, _, .cast (.recordConflict _ _) _⟩ => { s with queued := s.queued ++ [s.found i] }
    | _ => s
  | .actor order =>
    match s.worker.nextMail with
    | some ⟨.checkConflict ip _, .task i⟩ =>
      let holder := s.worker.table.getMacByIp s.worker.now order ip
      { s with found := Function.update s.found i holder }
    | some ⟨.recordConflict ip _, _⟩ =>
      { s with
        queued := s.queued.tail
        holds := ⟨ip, s.worker.now, s.queued.head?.join⟩ :: s.holds }
    | _ => s
  | _ => s

def step (cfg : ServerConfig) (s : Held) (l : Label) : Option Held :=
  (DhcpServer.step cfg s.worker l).map fun t => { s.note l with worker := t }

/-- The holds after a step: those before it, and one more when a `RecordConflict` is handled. -/
theorem mem_note {s : Held} {h : Hold} (member : h ∈ (s.note l).holds) :
    h ∈ s.holds ∨ ∃ order ip duration caller, l = .actor order ∧
      s.worker.nextMail = some ⟨.recordConflict ip duration, caller⟩ ∧
      h = ⟨ip, s.worker.now, s.queued.head?.join⟩ := by
  cases l with
  | task i =>
    simp only [note] at member
    split at member <;> exact .inl member
  | actor order =>
    simp only [note] at member
    split at member
    · exact .inl member
    · rename_i ip duration caller next
      rcases List.mem_cons.mp member with rfl | before
      · exact .inr ⟨order, ip, duration, caller, rfl, next, rfl⟩
      · exact .inl before
    · exact .inl member
  | _ => exact .inl member

theorem step_eq_some {s t : Held} (h : s.step cfg l = some t) :
    Step cfg s.worker l t.worker ∧ t.holds = (s.note l).holds := by
  obtain ⟨worker, taken, rfl⟩ := Option.map_eq_some_iff.mp h
  exact ⟨.of_step taken, rfl⟩

end Held

/-- The address of a `RecordConflict`. -/
def LeaseCommand.records : LeaseCommand → Option Ipv4Addr
  | .recordConflict ip _ => some ip
  | _ => none

/-- The command stays clear of the holds: it settles on no address that a running hold keeps from
the client, and it puts none on hold that is about to be given to another client than the
occupant. -/
structure Clear (s : Held) (cmd : LeaseCommand) : Prop where
  settles : ∀ x ∈ cmd.settles s.worker.now s.worker.table, ∀ h ∈ s.holds,
    ¬ h.Forbids s.worker.now x.1 x.2
  records : ∀ x ∈ s.worker.promised, cmd.records = some x.2 → s.queued.head?.join = some x.1

instance (s : Held) (cmd : LeaseCommand) : Decidable (Clear s cmd) :=
  -- clients and addresses are finite types too, but far too large to search
  have : Decidable (∀ x ∈ cmd.settles s.worker.now s.worker.table, ∀ h ∈ s.holds,
      ¬ h.Forbids s.worker.now x.1 x.2) := Option.decidableForallMem _
  have : Decidable (∀ x ∈ s.worker.promised, cmd.records = some x.2 →
      s.queued.head?.join = some x.1) := List.decidableBAll _ _
  decidable_of_iff (_ ∧ _) ⟨fun ⟨a, b⟩ => ⟨a, b⟩, fun ⟨a, b⟩ => ⟨a, b⟩⟩

/-- The command that the lease actor handles in the step stays clear of the holds. -/
def KeepsClear (s : Held) : Label → Prop
  | .actor _ => ∀ mail ∈ s.worker.nextMail, Clear s mail.cmd
  | _ => True

instance (s : Held) (l : Label) : Decidable (KeepsClear s l) := by
  apply @Label.casesOn _ l
  case actor => exact fun _ => inferInstanceAs (Decidable (∀ mail ∈ s.worker.nextMail, _))
  all_goals intros; exact .isTrue trivial

/-! ## Every hold runs its time -/

/-- Every `RecordConflict` in the channel asks for the full time. -/
def FullHolds (s : State) : Prop :=
  ∀ mail ∈ s.mailbox.items, ∀ ip duration, mail.cmd = .recordConflict ip duration →
    duration = conflictHoldDuration

theorem FullHolds.keep {s t : State} (full : FullHolds s) (wf : Wf cfg s)
    (h : Step cfg s l t) : FullHolds t := by
  intro mail member ip duration records
  rcases h.mem_mailbox wf member with before | ⟨_, post⟩ | ⟨_, -, _, calls | casts⟩
  · exact full mail before ip duration records
  · generalize s.main = pc at post
    cases post <;> cases records
  · rw [records] at calls
    cases calls
  · rw [records] at casts
    cases casts <;> rfl

/-- The address is on hold until `limit` at least. -/
def LeaseTable.HoldsUntil (t : LeaseTable) (limit : Nat) (ip : Ipv4Addr) : Prop :=
  ∃ expiry, t.conflicts.lookup ip = some expiry ∧ limit ≤ expiry

/-- A hold lasts, since another hold on the address takes at least as long. -/
theorem LeaseTable.HoldsUntil.step {s t : State} {limit : Nat} (held : s.table.HoldsUntil limit ip)
    (h : Step cfg s l t) (full : FullHolds s) (before : s.now < limit)
    (recent : limit ≤ s.now + conflictHoldDuration) : t.table.HoldsUntil limit ip := by
  obtain ⟨expiry, found, le⟩ := held
  have live : s.now < expiry := Nat.lt_of_lt_of_le before le
  rcases h.table_eq with same | ⟨-, evicted⟩ | ⟨order, mail, -, next, -, handled⟩
  · exact ⟨expiry, same ▸ found, le⟩
  · exact ⟨expiry, evicted ▸ lookup_conflicts_evictExpired found live, le⟩
  · rw [handled]
    by_cases again : ∃ duration, mail.cmd = .recordConflict ip duration
    · obtain ⟨duration, records⟩ := again
      cases full mail (State.mem_of_nextMail next) ip duration records
      refine ⟨s.now + conflictHoldDuration, ?_, recent⟩
      rw [records]
      exact HashMap.lookup_insert_eq.trans (if_pos rfl)
    · exact ⟨expiry, LeaseTable.lookup_conflicts found live fun duration records =>
        again ⟨duration, records⟩, le⟩

/-! ## Along a run -/

/-- Every hold is in the table for its time, and no address that is about to be given out is kept
from its client by one. -/
structure Honoured (cfg : ServerConfig) (s : Held) : Prop where
  wf : Wf cfg s.worker
  full : FullHolds s.worker
  past : ∀ h ∈ s.holds, h.since ≤ s.worker.now
  active : ∀ h ∈ s.holds, s.worker.now < h.since + conflictHoldDuration →
    ∃ expiry, s.worker.table.conflicts.lookup h.ip = some expiry ∧
      h.since + conflictHoldDuration ≤ expiry
  promised : ∀ x ∈ s.worker.promised, ∀ h ∈ s.holds, ¬ h.Forbids s.worker.now x.1 x.2

theorem Honoured.init (staticLeases : List StaticLease) :
    Honoured cfg (Held.init staticLeases) where
  wf := Wf.init staticLeases
  full := nofun
  past := nofun
  active := nofun
  promised := nofun

section

variable {s t : Held}

theorem Honoured.active_new (inv : Honoured cfg s) {order : IterOrder} {duration : Nat}
    {caller : Caller} (h : Step cfg s.worker (.actor order) t.worker)
    (next : s.worker.nextMail = some ⟨.recordConflict ip duration, caller⟩) :
    t.worker.table.conflicts.lookup ip = some (s.worker.now + conflictHoldDuration) := by
  cases inv.full _ (State.mem_of_nextMail next) _ _ rfl
  rw [h.table_of_actor next]
  exact HashMap.lookup_insert_eq.trans (if_pos rfl)

theorem Honoured.fresh (inv : Honoured cfg s) {order : IterOrder} {x : MacAddr × Ipv4Addr}
    (clear : KeepsClear s (.actor order))
    (replied : Replied promisedBy promisedIn cfg s.worker order x) :
    ∀ h ∈ s.holds, ¬ h.Forbids s.worker.now x.1 x.2 := by
  intro hold member forbids
  cases replied with
  | reply next waiting calls due =>
    rcases Promised.of_reply calls due with old | settled | unheld
    · refine inv.promised x ?_ hold member forbids
      exact State.mem_owing.mpr (.inl ⟨_, List.mem_of_getElem? waiting, old⟩)
    · exact (clear _ next).settles x settled hold member forbids
    · obtain ⟨onIp, running, -⟩ := forbids
      obtain ⟨expiry, found, late⟩ := inv.active hold member running
      have elapsed := unheld expiry (onIp ▸ found)
      omega
  | expired listed due => cases due

theorem Honoured.keep : Inductive (Held.step cfg) KeepsClear (Honoured cfg) := by
  intro s l t inv clear h
  obtain ⟨stepped, holds⟩ := Held.step_eq_some h
  have later := stepped.now_le
  have cases_holds : ∀ hold ∈ t.holds, hold ∈ s.holds ∨ _ := fun hold member =>
    Held.mem_note (holds ▸ member)
  refine ⟨inv.wf.keep stepped, inv.full.keep inv.wf stepped, ?_, ?_, ?_⟩
  · intro hold member
    rcases cases_holds hold member with before | ⟨order, ip, duration, caller, rfl, next, rfl⟩
    · exact (inv.past hold before).trans later
    · exact later
  · intro hold member running
    rcases cases_holds hold member with before | ⟨order, ip, duration, caller, rfl, next, rfl⟩
    · have begun := Nat.add_le_add_right (inv.past hold before) conflictHoldDuration
      have early := Nat.lt_of_le_of_lt later running
      exact LeaseTable.HoldsUntil.step (inv.active hold before early) stepped inv.full early begun
    · exact ⟨_, inv.active_new stepped next, Nat.le_refl _⟩
  · intro x due hold member forbids
    have was := forbids.of_le later
    rcases promised_passesOn.step inv.wf stepped due with old | ⟨order, rfl, -, replied⟩
    · rcases cases_holds hold member with before | ⟨order, ip, duration, caller, rfl, next, rfl⟩
      · exact inv.promised x old hold before was
      · exact forbids.2.2 ((clear _ next).records x old (congrArg some forbids.1))
    · rcases cases_holds hold member with before | ⟨order', ip, duration, caller, -, next, rfl⟩
      · exact inv.fresh clear replied hold before was
      · -- a `RecordConflict` has no reply
        cases replied with
        | reply next' waiting calls due =>
          cases next.symm.trans next'
          cases calls
        | expired listed due => cases due

end

/-- In every run in which the lease actor's commands keep clear of the holds, an offer or an
acknowledgement of an address that leaves the worker within `CONFLICT_HOLD_DURATION` of a
`RecordConflict` of that address goes to the client whose entry has caused the conflict. -/
theorem holds_honoured {staticLeases : List StaticLease} {ls : List Label} {s : Held} {e : Event}
    {h : Hold} (clear : Meets (Held.step cfg) KeepsClear (Held.init staticLeases) ls)
    (run : exec (Held.step cfg) (Held.init staticLeases) ls = some s)
    (sent : emitted s.worker l = some e) (gives : (m, ip) ∈ promisedIn e)
    (recorded : h ∈ s.holds) (onIp : h.ip = ip)
    (running : s.worker.now < h.since + conflictHoldDuration) : h.occupant = some m := by
  have honoured := Honoured.keep.exec (Honoured.init staticLeases) clear run
  by_contra other
  rcases mem_pending_of_emitted sent with due | ⟨leases, beat⟩
  · exact honoured.promised (m, ip) (State.mem_owing.mpr (.inr ⟨e, due, gives⟩)) h recorded
      ⟨onIp, running, other⟩
  · rw [promisedIn, beat] at gives
    cases gives

/-! ## A hold that is honoured and one that is not -/

/-- Client 1 is about to be offered 192.168.1.2 when the probe finds client 2 there, so the search
goes on to 192.168.1.3.  Client 2 then sends a DISCOVER and is about to be offered its own
address. -/
def occupantRun : List Label :=
  [Label.packet 1 (sampleMessage .discover 1 none none)] ++ asking 0 [] ++ asking 0 [] ++
    sending 0 ++ [Label.neighbor 2 (.new 192 168 1 2), .main, .actor ⟨[1], []⟩,
      .advance arpResolutionDelay, .task 0] ++
    asking 0 [2, 1] ++ asking 0 [2, 1] ++ asking 0 [2, 1] ++
    [Label.packet 2 (sampleMessage .discover 2 none none)] ++ asking 1 [2, 1] ++ asking 1 [2, 1] ++
    [Label.task 1, .takeEvent]

/-- The offer of the address on hold goes to its occupant. -/
theorem holds_honoured_for_occupant :
    ∃ s h, exec (Held.step sampleConfig) (Held.init []) occupantRun = some s ∧
      emitted s.worker .main = some ⟨2, s.worker.now, .sendOffer 2 1 (.new 192 168 1 2) false⟩ ∧
      h ∈ s.holds ∧ h.ip = .new 192 168 1 2 ∧
      s.worker.now < h.since + conflictHoldDuration ∧ h.occupant = some 2 := by
  have clear : Meets (Held.step sampleConfig) KeepsClear (Held.init []) occupantRun := by
    decide +kernel
  obtain ⟨s, run, sent, h, recorded, onIp, running⟩ :
      ∃ s, exec (Held.step sampleConfig) (Held.init []) occupantRun = some s ∧
        emitted s.worker .main = some ⟨2, s.worker.now, .sendOffer 2 1 (.new 192 168 1 2) false⟩ ∧
        ∃ h ∈ s.holds, h.ip = .new 192 168 1 2 ∧
          s.worker.now < h.since + conflictHoldDuration := by
    decide +kernel
  exact ⟨s, h, run, sent, recorded, onIp, running,
    holds_honoured clear run sent (List.mem_singleton.mpr rfl) recorded onIp running⟩

/-- The request of client 1 for 192.168.1.50 is refused after its probe has found client 2 there,
and the address is put on hold.  Client 1 sends a DISCOVER. -/
def refusedClientRun : List Label :=
  claimAsked (.new 192 168 1 9) ++ [Label.actor ⟨[2], []⟩] ++ claimProbed ++ sending 0 ++
    [Label.takeEvent, .main, .packet 1 (sampleMessage .discover 1 none none)] ++
    asking 1 [2, 1] ++ asking 1 [2, 1] ++ [Label.task 1, .takeEvent]

/-- Client 1 still has the entry of the refused request and is offered the address on hold. -/
theorem held_address_offered :
    ∃ s h, exec (Held.step sampleConfig) (Held.init []) refusedClientRun = some s ∧
      h ∈ s.holds ∧ h.ip = .new 192 168 1 50 ∧ h.occupant = some 2 ∧
      s.worker.now < h.since + conflictHoldDuration ∧
      (emitted s.worker .main).map Event.msg = some (.sendOffer 1 1 (.new 192 168 1 50) false) := by
  obtain ⟨s, run, sent, h, recorded, facts⟩ :
      ∃ s, exec (Held.step sampleConfig) (Held.init []) refusedClientRun = some s ∧
        (emitted s.worker .main).map Event.msg = some (.sendOffer 1 1 (.new 192 168 1 50) false) ∧
        ∃ h ∈ s.holds, h.ip = .new 192 168 1 50 ∧ h.occupant = some 2 ∧
          s.worker.now < h.since + conflictHoldDuration := by
    decide +kernel
  exact ⟨s, h, run, recorded, facts.1, facts.2.1, facts.2.2, sent⟩

end TrimRouter.DhcpServer
