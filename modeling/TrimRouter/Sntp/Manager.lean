import TrimRouter.Lib.Run
import TrimRouter.Lib.Watch
import TrimRouter.Net

/-!
# The SNTP manager

`services/sntp_client/manager.rs`: the parent of the SNTP worker.  It follows the WAN lease and
spawns the worker when the router gets an address and ends it when the address is gone, and it
answers the messages of the worker.  `worker_follows_lease` says in which runs the worker is active
exactly while there is a lease.
-/

namespace TrimRouter.Sntp

/-- `SntpClientToParentMsg`. -/
inductive ClientMsg where
  | setSystemTime (seconds nanoseconds : Int)
  | resolveTimeServer
deriving DecidableEq

/-- What the receive from the worker returns. -/
inductive Received where
  | message (msg : ClientMsg)
  /-- the worker has closed its end -/
  | closed
  | failed
deriving DecidableEq

/-- `MIN_SANE_EPOCH_SECS`. -/
def minSaneEpochSecs : Int := 1700000000

/-- `MAX_SANE_EPOCH_SECS`. -/
def maxSaneEpochSecs : Int := 4102444800

/-- `NANOS_PER_SEC`. -/
def nanosPerSec : Int := 1000000000

/-- `is_valid_system_time`. -/
def isValidSystemTime (seconds nanoseconds : Int) : Bool :=
  decide (minSaneEpochSecs ≤ seconds ∧ seconds ≤ maxSaneEpochSecs) &&
    decide (0 ≤ nanoseconds ∧ nanoseconds < nanosPerSec)

/-- Where `run_sntp_manager_loop` is. -/
inductive Pc where
  | starting
  /-- in its `select!` -/
  | select
  /-- resolving the time server for the worker -/
  | resolving
  /-- in `terminate_worker`, the last time after the loop -/
  | terminating (pid : Nat) (last : Bool)
  | finished
deriving DecidableEq

/-- The manager, the channels that it reads, and the worker processes. -/
structure Manager where
  lease : Watch WanLease
  leaseRx : Watch.Receiver
  shutdown : Watch Bool
  shutdownRx : Watch.Receiver
  pc : Pc
  activeChild : Option Nat
  /-- the worker processes that have not ended -/
  processes : List Nat
  nextPid : Nat
  /-- what the system clock was last set to -/
  clock : Option (Int × Int)

/-- One step. -/
inductive Label where
  /-- the DHCP client shares another lease -/
  | sendLease (lease : WanLease)
  | closeLease
  /-- `SntpClient::stop` -/
  | requestShutdown
  /-- a worker process ends -/
  | exit (pid : Nat)
  /-- the manager starts -/
  | start
  | shutdownChanged
  | leaseChanged
  /-- the manager receives from the worker; whether `clock_settime` succeeds if it is called -/
  | receive (received : Received) (clockSet : Bool)
  /-- the time server is resolved and the answer sent -/
  | resolved
  /-- `terminate_worker` returns, because the process has ended or because it gives up -/
  | terminated (gaveUp : Bool)

namespace Manager

/-- Before the start. -/
def init (lease : Watch WanLease) : Manager :=
  ⟨lease, ⟨0⟩, (Watch.channel false).1, (Watch.channel false).2, .starting, none, [], 0, none⟩

/-- `spawn_sntp_worker`, which succeeds. -/
def spawnSntpWorker (s : Manager) : Manager :=
  { s with
    activeChild := some s.nextPid
    processes := s.processes ++ [s.nextPid]
    nextPid := s.nextPid + 1 }

/-- The code after the loop. -/
def leaveLoop (s : Manager) : Manager :=
  match s.activeChild with
  | some pid => { s with activeChild := none, pc := .terminating pid true }
  | none => { s with pc := .finished }

/-- The condition of the loop. -/
def continueLoop (s : Manager) : Manager :=
  if s.shutdown.borrow then s.leaveLoop else { s with pc := .select }

/-- The code before the loop. -/
def start (s : Manager) : Manager :=
  let (lease, leaseRx) := s.lease.borrowAndUpdate
  let s := { s with leaseRx }
  (if lease.ip.isSome then s.spawnSntpWorker else s).continueLoop

/-- What the manager does about the lease that it has read. -/
def followLease (s : Manager) (lease : WanLease) : Manager :=
  match lease.ip, s.activeChild with
  | some _, none => s.spawnSntpWorker.continueLoop
  | none, some pid => { s with activeChild := none, pc := .terminating pid false }
  | some _, some _ => s.continueLoop
  | none, none => s.continueLoop

/-- The branch for lease changes. -/
def onLeaseChanged (s : Manager) : Option Manager :=
  match s.lease.changed s.leaseRx with
  | none => none
  | some (false, _) => some s.leaveLoop
  | some (true, _) =>
    let (lease, leaseRx) := s.lease.borrowAndUpdate
    some ({ s with leaseRx }.followLease lease)

/-- `set_system_clock`. -/
def setSystemClock (s : Manager) (seconds nanoseconds : Int) (clockSet : Bool) : Manager :=
  if isValidSystemTime seconds nanoseconds && clockSet then
    { s with clock := some (seconds, nanoseconds) }
  else s

/-- The branch for messages of the worker: `handle_sntp_ipc_msg`. -/
def onReceive (s : Manager) (received : Received) (clockSet : Bool) : Option Manager :=
  match s.activeChild with
  | none => none
  | some pid =>
    match received with
    | .message (.setSystemTime seconds nanoseconds) =>
      some (s.setSystemClock seconds nanoseconds clockSet).continueLoop
    | .message .resolveTimeServer => some { s with pc := .resolving }
    | .closed => some { s with activeChild := none, pc := .terminating pid false }
    | .failed => some { s with activeChild := none, pc := .terminating pid false }

/-- `terminate_worker` returns. -/
def onTerminated (s : Manager) (gaveUp : Bool) : Option Manager :=
  match s.pc with
  | .terminating pid last =>
    if gaveUp = true ∨ pid ∉ s.processes then
      some (if last then { s with pc := .finished } else s.continueLoop)
    else none
  | .starting => none
  | .select => none
  | .resolving => none
  | .finished => none

/-- One step. -/
def step (s : Manager) : Label → Option Manager
  | .sendLease lease => some { s with lease := s.lease.send lease }
  | .closeLease => some { s with lease := s.lease.close }
  | .requestShutdown => some { s with shutdown := s.shutdown.send true }
  | .exit pid => some { s with processes := s.processes.filter (· ≠ pid) }
  | .start => if s.pc = .starting then some s.start else none
  | .shutdownChanged =>
    if s.pc = .select ∧ (s.shutdown.changed s.shutdownRx).isSome then some s.leaveLoop else none
  | .leaseChanged => if s.pc = .select then s.onLeaseChanged else none
  | .receive received clockSet =>
    if s.pc = .select then s.onReceive received clockSet else none
  | .resolved => if s.pc = .resolving then some s.continueLoop else none
  | .terminated gaveUp => s.onTerminated gaveUp

end Manager

namespace Manager

/-- The receiver has seen the last lease change. -/
def UpToDate (s : Manager) : Prop := s.lease.version = s.leaseRx.seen
deriving Decidable

/-- While the manager waits and no lease change is unread, a worker is active exactly if the lease
has an address; and there is never more than one worker. -/
structure Consistent (s : Manager) : Prop where
  follows : s.pc = .select → s.UpToDate →
    (s.activeChild.isSome = true ↔ s.lease.value.ip.isSome = true)
  one : s.processes.length ≤ 1

/-- The next lease change makes the manager spawn a worker. -/
def spawns (s : Manager) : Bool :=
  decide (s.pc = .select) && !decide s.UpToDate && s.lease.value.ip.isSome && s.activeChild.isNone

/-- The manager goes back to waiting when `terminate_worker` returns. -/
def returns (s : Manager) : Bool :=
  match s.pc with
  | .terminating _ last => !last && !s.shutdown.borrow
  | .starting => false
  | .select => false
  | .resolving => false
  | .finished => false

/-- When the termination of a worker is complete there is no lease or an unread change of it, and
when a worker is spawned the one before it is gone. -/
def Lasting (s : Manager) : Label → Prop
  | .terminated _ => s.returns = true → s.lease.value.ip.isSome = true → ¬ s.UpToDate
  | .leaseChanged => s.spawns = true → s.processes = []
  | .sendLease _ => True
  | .closeLease => True
  | .requestShutdown => True
  | .exit _ => True
  | .start => True
  | .shutdownChanged => True
  | .receive _ _ => True
  | .resolved => True

instance (s : Manager) : ∀ l, Decidable (s.Lasting l) := by
  intro l
  unfold Lasting
  split <;> infer_instance

/-- The worker is the one that the lease asks for, where no change of the lease is unread. -/
def Follows (s : Manager) : Prop := s.UpToDate → s.activeChild.isSome = s.lease.value.ip.isSome

/-- What lasting steps keep. -/
structure Inv (s : Manager) : Prop where
  seen : s.leaseRx.seen ≤ s.lease.version
  fresh : s.pc = .starting → s.activeChild = none ∧ s.processes = []
  idle : ∀ pid last, s.pc = .terminating pid last → s.activeChild = none
  follows : s.pc = .select ∨ s.pc = .resolving → s.Follows
  one : s.processes.length ≤ 1

variable {s t : Manager} {l : Label}

theorem Inv.init {lease : Watch WanLease} : Inv (.init lease) where
  seen := Nat.zero_le _
  fresh := fun _ => ⟨rfl, rfl⟩
  idle := nofun
  follows := by
    intro pc
    rcases pc with pc | pc <;> cases pc
  one := Nat.zero_le _

theorem Inv.consistent (inv : s.Inv) : s.Consistent where
  follows := by
    intro pc upToDate
    rw [inv.follows (.inl pc) upToDate]
  one := inv.one

theorem Inv.leaveLoop (seen : s.leaseRx.seen ≤ s.lease.version)
    (one : s.processes.length ≤ 1) : s.leaveLoop.Inv := by
  unfold Manager.leaveLoop
  split
  · refine ⟨seen, ?_, fun _ _ _ => rfl, ?_, one⟩
    · exact nofun
    · intro pc
      rcases pc with pc | pc <;> cases pc
  · rename_i idle
    refine ⟨seen, ?_, fun _ _ _ => idle, ?_, one⟩
    · exact nofun
    · intro pc
      rcases pc with pc | pc <;> cases pc

theorem Inv.continueLoop (seen : s.leaseRx.seen ≤ s.lease.version) (follows : s.Follows)
    (one : s.processes.length ≤ 1) : s.continueLoop.Inv := by
  unfold Manager.continueLoop
  split
  · exact .leaveLoop seen one
  · refine ⟨seen, ?_, ?_, fun _ => follows, one⟩
    · exact nofun
    · exact nofun

/-- A worker that is about to be terminated is no longer the active one. -/
theorem Inv.terminate {pid : Nat} (seen : s.leaseRx.seen ≤ s.lease.version)
    (one : s.processes.length ≤ 1) :
    Inv { s with activeChild := none, pc := .terminating pid false } := by
  refine ⟨seen, ?_, fun _ _ _ => rfl, ?_, one⟩
  · exact nofun
  · intro pc
    rcases pc with pc | pc <;> cases pc

/-- The manager reads the lease; none of its changes is unread then. -/
theorem Inv.followLease (inv : s.Inv)
    (gone : s.lease.value.ip.isSome = true → s.activeChild = none → s.processes = []) :
    ({ s with leaseRx := ⟨s.lease.version⟩ }.followLease s.lease.value).Inv := by
  unfold Manager.followLease
  split
  · rename_i address active
    refine .continueLoop le_rfl (fun _ => ?_) ?_
    · simp [Manager.spawnSntpWorker, address]
    · simp [Manager.spawnSntpWorker, gone (by rw [address]; rfl) active]
  · exact .terminate le_rfl inv.one
  · rename_i address active
    exact .continueLoop le_rfl (fun _ => by rw [address, active]; rfl) inv.one
  · rename_i address active
    exact .continueLoop le_rfl (fun _ => by rw [address, active]; rfl) inv.one

theorem Inv.leaseChanged (inv : s.Inv) (pc : s.pc = .select) (lasting : s.Lasting .leaseChanged)
    (h : s.onLeaseChanged = some t) : t.Inv := by
  unfold Manager.onLeaseChanged at h
  split at h
  · cases h
  · cases h
    exact .leaveLoop inv.seen inv.one
  · rename_i rx changed
    cases h
    refine inv.followLease ?_
    intro address active
    refine lasting ?_
    have unread : ¬ s.UpToDate := Watch.unread_of_changed changed
    simp [Manager.spawns, pc, unread, address, active]

theorem Inv.receive {received : Received} {clockSet : Bool} (inv : s.Inv) (pc : s.pc = .select)
    (h : s.onReceive received clockSet = some t) : t.Inv := by
  have follows := inv.follows (.inl pc)
  unfold Manager.onReceive at h
  split at h
  · cases h
  · split at h
    · cases h
      refine .continueLoop ?_ ?_ ?_ <;> unfold setSystemClock <;> split
      · exact inv.seen
      · exact inv.seen
      · exact follows
      · exact follows
      · exact inv.one
      · exact inv.one
    · cases h
      refine ⟨inv.seen, ?_, ?_, fun _ => follows, inv.one⟩
      · exact nofun
      · exact nofun
    · cases h
      exact .terminate inv.seen inv.one
    · cases h
      exact .terminate inv.seen inv.one

theorem Inv.terminated {gaveUp : Bool} (inv : s.Inv) (lasting : s.Lasting (.terminated gaveUp))
    (h : s.onTerminated gaveUp = some t) : t.Inv := by
  unfold Manager.onTerminated at h
  split at h
  · rename_i pid last pc
    obtain ⟨-, h⟩ := Option.ite_none_right_eq_some.mp h
    have idle := inv.idle pid last pc
    cases last with
    | true =>
      cases h
      refine ⟨inv.seen, ?_, fun _ _ _ => idle, ?_, inv.one⟩
      · exact nofun
      · intro other
        rcases other with other | other <;> cases other
    | false =>
      cases h
      cases down : s.shutdown.borrow with
      | true =>
        unfold Manager.continueLoop
        rw [down, if_pos rfl]
        exact .leaveLoop inv.seen inv.one
      | false =>
        have returns : s.returns = true := by
          simp [Manager.returns, pc, down]
        refine .continueLoop inv.seen ?_ inv.one
        intro upToDate
        rw [idle]
        cases address : s.lease.value.ip with
        | none => rfl
        | some ip => exact absurd upToDate (lasting returns (by rw [address]; rfl))
  all_goals cases h

theorem Inv.start (inv : s.Inv) (pc : s.pc = .starting) : s.start.Inv := by
  obtain ⟨active, processes⟩ := inv.fresh pc
  unfold Manager.start Watch.borrowAndUpdate
  simp only
  split
  · rename_i address
    refine .continueLoop le_rfl (fun _ => ?_) ?_
    · simp [Manager.spawnSntpWorker, address]
    · simp [Manager.spawnSntpWorker, processes]
  · rename_i address
    refine .continueLoop le_rfl (fun _ => ?_) inv.one
    simpa [active] using address

theorem Inv.keep : Run.Inductive Manager.step Manager.Lasting Manager.Inv := by
  intro s l t inv lasting h
  cases l with
  | sendLease lease =>
    cases h
    have newer : s.leaseRx.seen < (s.lease.send lease).version := Nat.lt_succ_of_le inv.seen
    refine ⟨newer.le, inv.fresh, inv.idle, ?_, inv.one⟩
    intro _ upToDate
    exact absurd upToDate (Nat.ne_of_gt newer)
  | closeLease | requestShutdown =>
    cases h
    exact ⟨inv.seen, inv.fresh, inv.idle, inv.follows, inv.one⟩
  | exit pid =>
    cases h
    refine ⟨inv.seen, ?_, inv.idle, inv.follows, (List.length_filter_le _ _).trans inv.one⟩
    intro pc
    obtain ⟨active, processes⟩ := inv.fresh pc
    exact ⟨active, by simp [processes]⟩
  | start =>
    obtain ⟨pc, h⟩ := Option.ite_none_right_eq_some.mp h
    cases h
    exact inv.start pc
  | shutdownChanged =>
    obtain ⟨-, h⟩ := Option.ite_none_right_eq_some.mp h
    cases h
    exact .leaveLoop inv.seen inv.one
  | leaseChanged =>
    obtain ⟨pc, h⟩ := Option.ite_none_right_eq_some.mp h
    exact inv.leaseChanged pc lasting h
  | receive received clockSet =>
    obtain ⟨pc, h⟩ := Option.ite_none_right_eq_some.mp h
    exact inv.receive pc h
  | resolved =>
    obtain ⟨pc, h⟩ := Option.ite_none_right_eq_some.mp h
    cases h
    exact .continueLoop inv.seen (inv.follows (.inr pc)) inv.one
  | terminated gaveUp => exact inv.terminated lasting h

theorem processes_leaveLoop : s.leaveLoop.processes = s.processes := by
  unfold Manager.leaveLoop
  split <;> rfl

theorem processes_continueLoop : s.continueLoop.processes = s.processes := by
  unfold Manager.continueLoop
  split
  · exact processes_leaveLoop
  · rfl

/-- A spawn next to a process that is left makes two. -/
theorem gone_of_one (h : s.step .leaseChanged = some t) (one : t.processes.length ≤ 1) :
    s.Lasting .leaseChanged := by
  intro spawns
  simp only [Manager.spawns, Bool.and_eq_true, decide_eq_true_eq, Bool.not_eq_true',
    decide_eq_false_iff_not, Option.isNone_iff_eq_none] at spawns
  obtain ⟨⟨⟨-, unread⟩, address⟩, active⟩ := spawns
  obtain ⟨-, h⟩ := Option.ite_none_right_eq_some.mp h
  unfold Manager.onLeaseChanged at h
  split at h
  · cases h
  · rename_i changed
    unfold Watch.changed at changed
    rw [if_pos (show s.lease.version ≠ s.leaseRx.seen from unread)] at changed
    cases changed
  · cases h
    obtain ⟨ip, address⟩ := Option.isSome_iff_exists.mp address
    simp only [Manager.followLease, active, address, processes_continueLoop,
      Manager.spawnSntpWorker, List.length_append,
      List.length_singleton] at one
    exact List.length_eq_zero_iff.mp (by omega)

/-- A worker that is not replaced although there is a lease is missed. -/
theorem unread_of_follows {gaveUp : Bool} (inv : s.Inv)
    (h : s.step (.terminated gaveUp) = some t) (consistent : t.Consistent) :
    s.Lasting (.terminated gaveUp) := by
  intro returns address upToDate
  have h : s.onTerminated gaveUp = some t := h
  unfold Manager.onTerminated at h
  unfold Manager.returns at returns
  split at h
  · rename_i pid last pc
    rw [pc, Bool.and_eq_true, Bool.not_eq_true', Bool.not_eq_true'] at returns
    obtain ⟨rfl, down⟩ := returns
    obtain ⟨-, h⟩ := Option.ite_none_right_eq_some.mp h
    cases h
    have back : s.continueLoop = { s with pc := .select } := by
      unfold Manager.continueLoop
      rw [down]
      rfl
    simp only [Bool.false_eq_true, if_false] at consistent
    rw [back] at consistent
    have active := (consistent.follows rfl upToDate).mpr address
    rw [inv.idle pid false pc] at active
    cases active
  all_goals cases h

theorem Inv.exact (inv : s.Inv) (h : s.step l = some t) (consistent : t.Consistent) :
    s.Lasting l := by
  cases l with
  | leaseChanged => exact gone_of_one h consistent.one
  | terminated gaveUp => exact unread_of_follows inv h consistent
  | sendLease | closeLease | requestShutdown | exit | start | shutdownChanged | receive
  | resolved => trivial

end Manager

/-- In every run: whenever the manager waits and has read every lease change, a worker is active
exactly if the lease has an address, and there is never more than one worker, if and only if
every termination of a worker is complete without a lease or before an unread change of it, and
every spawn finds the worker before it gone. -/
theorem worker_follows_lease {lease : Watch WanLease} {labels : List Label} {s : Manager}
    (run : Run.exec Manager.step (.init lease) labels = some s) :
    (∀ done t, done <+: labels → Run.exec Manager.step (.init lease) done = some t →
      t.Consistent) ↔ Run.Meets Manager.step Manager.Lasting (.init lease) labels :=
  Run.prefixes_iff_meets_of (fun _ inv => inv.consistent) Manager.Inv.keep
    (fun _ _ _ inv taken consistent => inv.exact taken consistent) .init run

/-- A lease with an address. -/
def someLease : WanLease :=
  ⟨some (.new 100 64 0 5), some (.new 255 255 255 0), some (.new 100 64 0 1), []⟩

/-- The lease comes, goes and comes back, and the worker is told to end in between. -/
def leaseRun : List Label :=
  [.start, .sendLease someLease, .leaseChanged, .receive (.message .resolveTimeServer) true,
    .resolved, .receive (.message (.setSystemTime 1750000000 0)) true, .sendLease .default,
    .leaseChanged, .exit 0, .terminated false, .sendLease someLease, .leaseChanged]

theorem worker_follows_lease_back :
    Run.Meets Manager.step Manager.Lasting (.init (Watch.channel .default).1) leaseRun ∧
      ∃ s, Run.exec Manager.step (.init (Watch.channel .default).1) leaseRun = some s ∧
        s.activeChild = some 1 ∧ s.processes = [1] ∧ s.Consistent := by
  have lasting : Run.Meets Manager.step Manager.Lasting (.init (Watch.channel .default).1)
      leaseRun := by
    decide +kernel
  obtain ⟨s, run, active, alive⟩ : ∃ s, Run.exec Manager.step (.init (Watch.channel .default).1)
      leaseRun = some s ∧ s.activeChild = some 1 ∧ s.processes = [1] := by
    decide +kernel
  exact ⟨lasting, s, run, active, alive,
    (worker_follows_lease run).mpr lasting leaseRun s List.prefix_rfl run⟩

/-- The worker exits under a lease: the manager waits with no lease change unread and without a
worker. -/
theorem worker_not_replaced :
    ∃ s, Run.exec Manager.step (.init (Watch.channel .default).1)
        [.start, .sendLease someLease, .leaseChanged, .exit 0, .receive .closed true,
          .terminated false] = some s ∧
      s.pc = .select ∧ s.UpToDate ∧ s.lease.value.ip = some (.new 100 64 0 5) ∧
      s.activeChild = none ∧ ¬ s.Consistent := by
  obtain ⟨s, run, pc, upToDate, address, active⟩ :
      ∃ s, Run.exec Manager.step (.init (Watch.channel .default).1)
        [.start, .sendLease someLease, .leaseChanged, .exit 0, .receive .closed true,
          .terminated false] = some s ∧ s.pc = .select ∧ s.UpToDate ∧
        s.lease.value.ip = some (.new 100 64 0 5) ∧ s.activeChild = none := by
    decide +kernel
  refine ⟨s, run, pc, upToDate, address, active, ?_⟩
  intro consistent
  have missing := (consistent.follows pc upToDate).mpr (by rw [address]; rfl)
  rw [active] at missing
  cases missing

end TrimRouter.Sntp
