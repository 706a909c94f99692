import TrimRouter.DhcpClient.WanConfig
import TrimRouter.Supervisor.Stop

/-!
# The WAN lease and the life of the worker

`run_parent_dhcp_monitor` and `DhcpClient::start` of `services/dhcp_client/manager.rs`: the
supervised DHCP client with the WAN configuration.  A worker tells its monitor to apply and to clear
leases, and these messages are all that the monitor changes the WAN for; neither the monitor nor the
supervisor clears a lease when the worker is gone.  `no_stale_lease` is about workers that end
without a lease.
-/

namespace TrimRouter

open Supervisor in
/-- The worker whose messages its monitor reads or will read. -/
def Supervisor.State.reading (s : State) : Option Nat :=
  match s.task with
  | .storePid pid => some pid
  | .startMonitor pid => some pid
  | .awaitMonitor pid =>
    match s.monitor with
    | .running .. => some pid
    | .none => none
    | .terminate _ => none
    | .finished => none
  | .checkLoop | .restartDelay | .checkFirst | .setup | .checkSecond | .spawn | .terminate _
  | .finished => none

namespace DhcpClient

/-- `DhcpClientToParentMsg`, the messages that change the WAN. -/
inductive WanMsg where
  | applyWanLease (msg : WanLeaseMsg)
  | clearWanLease
deriving DecidableEq

/-- The DHCP client service with the WAN. -/
structure WanService where
  supervisor : Supervisor.State
  wan : Wan
  /-- the messages of the worker that its monitor has not read yet -/
  unread : List WanMsg
  /-- the addresses of the leases so far (for statements about runs, never read) -/
  leased : List Ipv4Addr

/-- One step. -/
inductive WanServiceLabel where
  /-- the supervisor, the monitor as the supervisor sees it, `stop`, or the end of a worker -/
  | supervisor (l : Supervisor.Label)
  /-- the worker sends a message -/
  | send (msg : WanMsg)
  /-- the monitor handles the next message, with these results of the netlink calls -/
  | handle (calls : Netlink)
  | linkRemoved
  | linkCreated
deriving DecidableEq

namespace WanService

def init (link : Option Link) : WanService := ⟨.init, .init link, [], []⟩

/-- `handle_client_ipc_msg`. -/
def handleMsg (s : WanService) (calls : Netlink) : WanMsg → WanService
  | .applyWanLease msg =>
    { s with wan := s.wan.applyParentLease msg calls, leased := msg.ipAddress :: s.leased }
  | .clearWanLease => { s with wan := s.wan.clearParentLease calls }

/-- One step of the service. -/
def step (s : WanService) : WanServiceLabel → Option WanService
  | .supervisor l =>
    (s.supervisor.step .dhcpClient l).map fun supervisor =>
      -- what nobody will read is lost with the socket
      { s with supervisor, unread := if supervisor.reading.isSome then s.unread else [] }
  | .send msg =>
    match s.supervisor.reading with
    | some pid =>
      if pid ∈ s.supervisor.processes.alive then some { s with unread := s.unread ++ [msg] }
      else none
    | none => none
  | .handle calls =>
    match s.supervisor.monitor, s.unread with
    | .running _ .polling _, msg :: unread =>
      some (({ s with unread } : WanService).handleMsg calls msg)
    | _, _ => none
  | .linkRemoved => (s.wan.step .linkRemoved).map fun wan => { s with wan }
  | .linkCreated => (s.wan.step .linkCreated).map fun wan => { s with wan }

/-- The link has no address of a lease. -/
def LeaseFree (s : WanService) : Prop :=
  ∀ link ∈ s.wan.link, ∀ address ∈ link.addresses, address.1 ∉ s.leased

/-- A worker ends, and a monitor leaves its loop, only while no lease is shared and none is
about to be; and a lease that is cleared goes from the link. -/
def Graceful (s : WanService) : WanServiceLabel → Prop
  | .supervisor (.exit pid) => s.supervisor.reading = some pid →
      s.wan.shared = WanLease.default ∧ ∀ msg ∈ s.unread, msg = .clearWanLease
  | .supervisor .monitorBroken => s.wan.shared = WanLease.default
  | .handle calls => s.unread.head? = some .clearWanLease →
      calls.index = true ∧ calls.undeleted = []
  | _ => True

instance (s : WanService) (l : WanServiceLabel) : Decidable (s.Graceful l) := by
  unfold Graceful
  split <;> infer_instance

end WanService

open WanService

/-! ## The WAN -/

variable {w : Wan} {msg : WanLeaseMsg} {calls : Netlink}

theorem WanLeaseMsg.lease_ne_default : msg.lease ≠ WanLease.default := by
  intro same
  cases congrArg WanLease.ip same

theorem maskToPrefixLen_isSome (n : Nat) :
    ∃ prefixLen, maskToPrefixLen (prefixLenToMask n) = some prefixLen := by
  rcases Nat.lt_or_ge 32 n with above | le
  · have zero : prefixLenToMask n = prefixLenToMask 0 := by
      simp [prefixLenToMask, above]
    rw [zero]
    exact ⟨0, maskToPrefixLen_prefixLenToMask (by omega)⟩
  · exact ⟨n, maskToPrefixLen_prefixLenToMask le⟩

theorem Wan.shared_applyParentLease : (w.applyParentLease msg calls).shared = msg.lease := by
  unfold applyParentLease
  split
  · assumption
  · rfl

/-- Without failures no address is left. -/
theorem Wan.clearParentLease_addresses {link : Link} (shared : w.shared = msg.lease)
    (index : calls.index = true) (deleted : calls.undeleted = [])
    (present : (w.clearParentLease calls).link = some link) : link.addresses = [] := by
  obtain ⟨prefixLen, valid⟩ := maskToPrefixLen_isSome msg.prefixLen
  simp only [clearParentLease, shared, WanLeaseMsg.lease, deconfigureWan, valid] at present
  split at present
  · cases present
  · simp only [index, Bool.not_true, Bool.false_eq_true, if_false, Option.some.injEq] at present
    rw [← present, Link.removeAddresses, deleted]
    simp

theorem Wan.link_clearParentLease_default (shared : w.shared = WanLease.default) :
    (w.clearParentLease calls).link = w.link := by
  simp only [clearParentLease, shared, WanLease.default]

/-! ## The supervisor -/

section

open Supervisor

variable {s t : State} {l : Label} {pid : Nat}

theorem reading_eq_none (idle : t.task.worker = none) (unstored : ∀ pid, t.task ≠ .storePid pid) :
    t.reading = none := by
  unfold State.reading
  cases task : t.task with
  | storePid pid => exact absurd task (unstored pid)
  | startMonitor | awaitMonitor =>
    rw [task] at idle
    cases idle
  | checkLoop | restartDelay | checkFirst | setup | checkSecond | spawn | terminate | finished =>
    rfl

theorem reading_eq (inv : Signalling t)
    (worker : t.monitor.worker = some pid) : t.reading = some pid := by
  obtain ⟨phase, shutdownRx, running⟩ := Monitor.worker_eq_some.mp worker
  simp only [State.reading, (inv.watched running).1, running]

theorem unwatched (inv : Signalling s)
    (alone : ∀ pid, s.task ≠ .awaitMonitor pid) : s.monitor.worker = none := by
  cases worker : s.monitor.worker with
  | none => rfl
  | some pid =>
    obtain ⟨phase, shutdownRx, running⟩ := Monitor.worker_eq_some.mp worker
    exact absurd running (inv.not_running alone)

/-- What a step of the supervisor means for the messages of the worker. -/
inductive Hearing (s t : State) : Label → Prop where
  /-- no monitor listens; a worker that is read from is new, or the same as before -/
  | quiet {l : Label} (idle : s.monitor.worker = none)
      (reading : ∀ pid, t.reading = some pid → pid ∈ t.processes.alive ∨
        (s.reading = some pid ∧ t.processes.alive = s.processes.alive)) : Hearing s t l
  | keep {l : Label} (monitor : t.monitor.worker = s.monitor.worker)
      (reading : t.reading = s.reading)
      (alive : t.processes.alive = s.processes.alive) : Hearing s t l
  | broken (reading : t.reading = none) : Hearing s t .monitorBroken
  | exited {pid : Nat} (monitor : t.monitor.worker = s.monitor.worker)
      (reading : t.reading = s.reading)
      (alive : t.processes.alive = s.processes.alive.filter (· ≠ pid)) : Hearing s t (.exit pid)

theorem Hearing.of_taskStep (inv : Signalling s) (taken : TaskStep s t) : Hearing s t l := by
  -- steps to where nobody is read from
  have silent : (∀ pid, s.task ≠ .awaitMonitor pid) → t.reading = none → Hearing s t l := by
    intro alone none
    refine .quiet (unwatched inv alone) ?_
    intro pid reading
    cases none.symm.trans reading
  cases taken with
  | move running alone idle checked unstored =>
    exact silent alone (reading_eq_none idle unstored)
  | woken here | lowered here | terminated here => exact silent (by simp [here]) rfl
  | spawned here =>
    refine .quiet (unwatched inv (by simp [here])) ?_
    intro pid reading
    cases reading
    exact .inl List.mem_cons_self
  | stored here | monitored here =>
    refine .quiet (unwatched inv (by simp [here])) ?_
    intro pid reading
    cases reading
    refine .inr ⟨?_, rfl⟩
    simp only [State.reading, here]
  | returned here ended =>
    refine .quiet (by rw [ended]; rfl) ?_
    intro pid reading
    cases reading

theorem Hearing.of_stopStep (taken : StopStep s t) : Hearing s t l := by
  cases taken with
  | killed here => exact .keep rfl rfl Processes.alive_terminateWorker
  | called | swapped | took | notRunning | joined => exact .keep rfl rfl rfl

theorem Hearing.of_step (inv : Signalling s) (taken : Step .dhcpClient s l t) :
    Hearing s t l := by
  cases taken with
  | task taken => exact .of_taskStep inv taken
  | stop taken => exact .of_stopStep taken
  | started idle unowned =>
    have finished := inv.finished_of_unowned (by simp [idle]) unowned
    refine .quiet (unwatched inv (by simp [finished])) ?_
    intro pid reading
    cases reading
  | alreadyRunning => exact .keep rfl rfl rfl
  | moved running =>
    have worker := Monitor.worker_eq_some.mpr ⟨_, _, running⟩
    refine .keep worker.symm ?_ rfl
    rw [reading_eq inv worker]
    simp only [State.reading, (inv.watched running).1]
  | shutdown running watches => cases watches
  | broken running =>
    refine .broken ?_
    simp only [State.reading, (inv.watched running).1]
  | @returned pid here =>
    refine .quiet (by rw [here]; rfl) ?_
    intro other reading
    refine .inr ⟨?_, Processes.alive_terminateWorker⟩
    unfold State.reading at reading ⊢
    cases task : s.task <;> simp_all
  | exited => exact .exited rfl rfl rfl

end

/-! ## The service -/

/-- A shared lease has a worker that its monitor listens to, and without one the link is free of
leases. -/
structure Tended (s : WanService) : Prop where
  signalling : Supervisor.Signalling s.supervisor
  shared : s.wan.shared = WanLease.default ∨ ∃ msg : WanLeaseMsg, s.wan.shared = msg.lease
  free : s.wan.shared = WanLease.default → s.LeaseFree
  tracked : s.wan.shared ≠ WanLease.default → ∃ pid,
    s.supervisor.monitor.worker = some pid ∧ pid ∈ s.supervisor.processes.alive
  /-- what a worker leaves behind is no lease -/
  left : ∀ pid, s.supervisor.reading = some pid → pid ∉ s.supervisor.processes.alive →
    ∀ msg ∈ s.unread, msg = .clearWanLease

section

variable {s t : WanService}

theorem Tended.init {link : Option Link} : Tended (.init link) where
  signalling := .init
  shared := .inl rfl
  free := nofun
  tracked := fun leased => absurd rfl leased
  left := nofun

theorem Tended.supervisor {l : Supervisor.Label} {supervisor : Supervisor.State}
    (tended : Tended s) (graceful : s.Graceful (.supervisor l))
    (taken : s.supervisor.step .dhcpClient l = some supervisor) :
    Tended { s with
      supervisor, unread := if supervisor.reading.isSome then s.unread else [] } := by
  obtain ⟨signalling, shared, free, tracked, left⟩ := tended
  have taken := Supervisor.Step.of_step taken
  -- messages that are lost are not left
  have kept : ∀ pid, supervisor.reading = some pid → (∀ msg ∈ s.unread, msg = .clearWanLease) →
      ∀ msg ∈ (if supervisor.reading.isSome then s.unread else []), msg = .clearWanLease := by
    intro pid reading clears
    rw [reading]
    exact clears
  refine ⟨signalling.step taken, shared, free, ?_, ?_⟩
  · intro leased
    obtain ⟨pid, worker, alive⟩ := tracked leased
    cases Hearing.of_step signalling taken with
    | quiet idle reading => cases worker.symm.trans idle
    | keep monitor reading same => exact ⟨pid, monitor.trans worker, same ▸ alive⟩
    | broken reading => exact absurd graceful leased
    | @exited gone monitor reading others =>
      refine ⟨pid, monitor.trans worker, ?_⟩
      dsimp only
      rw [others]
      refine List.mem_filter.mpr ⟨alive, decide_eq_true ?_⟩
      intro same
      exact leased (graceful (same ▸ reading_eq signalling worker)).1
  · intro pid reading' dead
    cases Hearing.of_step signalling taken with
    | quiet idle reading =>
      rcases reading pid reading' with alive | ⟨before, same⟩
      · exact absurd alive dead
      · exact kept pid reading' (left pid before (same ▸ dead))
    | keep monitor reading same =>
      exact kept pid reading' (left pid (reading ▸ reading') (same ▸ dead))
    | broken reading => cases reading.symm.trans reading'
    | @exited gone monitor reading others =>
      refine kept pid reading' ?_
      have before : s.supervisor.reading = some pid := reading ▸ reading'
      by_cases same : pid = gone
      · exact (graceful (same ▸ before)).2
      · refine left pid before ?_
        intro alive
        refine dead ?_
        dsimp only
        rw [others]
        exact List.mem_filter.mpr ⟨alive, decide_eq_true same⟩

theorem Tended.send {msg : WanMsg} (tended : Tended s) (h : s.step (.send msg) = some t) :
    Tended t := by
  obtain ⟨signalling, shared, free, tracked, left⟩ := tended
  simp only [WanService.step] at h
  split at h
  · rename_i pid reading
    obtain ⟨alive, h⟩ := Option.ite_none_right_eq_some.mp h
    cases h
    refine ⟨signalling, shared, free, tracked, ?_⟩
    intro other reading' dead
    cases reading.symm.trans reading'
    exact absurd alive dead
  · cases h

theorem Tended.handle (tended : Tended s) (graceful : s.Graceful (.handle calls))
    (h : s.step (.handle calls) = some t) : Tended t := by
  obtain ⟨signalling, shared, free, tracked, left⟩ := tended
  simp only [WanService.step] at h
  split at h
  · rename_i pid shutdownRx msg unread polling next
    have worker := Supervisor.Monitor.worker_eq_some.mpr ⟨_, _, polling⟩
    have reading := reading_eq signalling worker
    have left' : ∀ pid, s.supervisor.reading = some pid → pid ∉ s.supervisor.processes.alive →
        ∀ msg ∈ unread, msg = .clearWanLease := by
      intro pid reading dead msg listed
      exact left pid reading dead msg (next ▸ List.mem_cons_of_mem _ listed)
    cases h
    cases msg with
    | applyWanLease msg =>
      refine ⟨signalling, .inr ⟨msg, Wan.shared_applyParentLease⟩, ?_, ?_, left'⟩
      · intro none
        exact absurd (Wan.shared_applyParentLease.symm.trans none) WanLeaseMsg.lease_ne_default
      · intro _
        refine ⟨pid, worker, ?_⟩
        by_contra dead
        cases left pid reading dead _ (next ▸ List.mem_cons_self)
    | clearWanLease =>
      refine ⟨signalling, .inl rfl, ?_, fun leased => absurd rfl leased, left'⟩
      intro _ link present address listed
      rcases shared with none | ⟨msg, some_lease⟩
      · exact free none link ((Wan.link_clearParentLease_default none).symm.trans present)
          address listed
      · obtain ⟨index, deleted⟩ := graceful (next ▸ rfl)
        rw [Wan.clearParentLease_addresses some_lease index deleted present] at listed
        cases listed
  · cases h

theorem Tended.keep : Run.Inductive WanService.step WanService.Graceful Tended := by
  intro s l t tended graceful h
  cases l with
  | supervisor l =>
    obtain ⟨supervisor, taken, rfl⟩ := Option.map_eq_some_iff.mp h
    exact tended.supervisor graceful taken
  | send msg => exact tended.send h
  | handle calls => exact tended.handle graceful h
  | linkRemoved =>
    obtain ⟨wan, removed, rfl⟩ := Option.map_eq_some_iff.mp h
    obtain ⟨-, removed⟩ := Option.ite_none_right_eq_some.mp removed
    cases removed
    refine ⟨tended.signalling, tended.shared, ?_, tended.tracked, tended.left⟩
    intro _ link present
    cases present
  | linkCreated =>
    obtain ⟨wan, created, rfl⟩ := Option.map_eq_some_iff.mp h
    obtain ⟨-, created⟩ := Option.ite_none_right_eq_some.mp created
    cases created
    refine ⟨tended.signalling, tended.shared, ?_, tended.tracked, tended.left⟩
    intro _ link present address listed
    cases present
    cases listed

end

/-- In every run in which workers and monitors end without a lease and the leases that are
cleared go from the link: where a worker is spawned no lease is shared and the link has no
address of an earlier one, and whenever a lease is shared, its worker is alive and its monitor
listens to it. -/
theorem no_stale_lease {link : Option Link} {labels : List WanServiceLabel} {s : WanService}
    (graceful : Run.Meets WanService.step WanService.Graceful (.init link) labels)
    (run : Run.exec WanService.step (.init link) labels = some s) :
    (s.supervisor.task = .spawn → s.wan.shared = WanLease.default ∧ s.LeaseFree) ∧
      (s.wan.shared ≠ WanLease.default → ∃ pid,
        s.supervisor.monitor.worker = some pid ∧ pid ∈ s.supervisor.processes.alive) := by
  have tended := Tended.keep.exec .init graceful run
  refine ⟨?_, tended.tracked⟩
  intro spawning
  have unshared : s.wan.shared = WanLease.default := by
    by_contra leased
    obtain ⟨pid, worker, -⟩ := tended.tracked leased
    rw [unwatched tended.signalling (by simp [spawning])] at worker
    cases worker
  exact ⟨unshared, tended.free unshared⟩

/-! ## A worker that crashes -/

/-- The first worker is spawned and its monitor listens. -/
def toMonitor : List WanServiceLabel :=
  (Supervisor.toSpawn ++ Supervisor.toPolling).map WanServiceLabel.supervisor

/-- The worker is gone, and the supervisor comes to spawn the next one. -/
def toRespawn : List WanServiceLabel :=
  [WanServiceLabel.supervisor (.exit 1), .supervisor .monitorBroken, .supervisor .monitorReturn] ++
    List.replicate 6 (WanServiceLabel.supervisor (.task true))

/-- A worker that ends after it has cleared its lease. -/
def clearedRun : List WanServiceLabel :=
  toMonitor ++ [WanServiceLabel.send (.applyWanLease sampleMsg), .handle .succeeding,
    .send .clearWanLease, .handle .succeeding] ++ toRespawn

/-- The address was on the link, and is gone when the next worker is spawned. -/
theorem no_stale_lease_after_clear :
    Run.Meets WanService.step WanService.Graceful (.init (some .bare)) clearedRun ∧
      ∃ s, Run.exec WanService.step (.init (some .bare)) clearedRun = some s ∧
        s.supervisor.task = .spawn ∧ s.leased = [.new 100 64 0 5] ∧
        s.wan.shared = WanLease.default ∧ s.LeaseFree := by
  have graceful : Run.Meets WanService.step WanService.Graceful (.init (some .bare))
      clearedRun := by
    decide +kernel
  obtain ⟨s, run, spawning, leased⟩ : ∃ s, Run.exec WanService.step (.init (some .bare))
      clearedRun = some s ∧ s.supervisor.task = .spawn ∧ s.leased = [.new 100 64 0 5] := by
    decide +kernel
  exact ⟨graceful, s, run, spawning, leased, (no_stale_lease graceful run).1 spawning⟩

/-- A worker that crashes with a lease: its address is still on the link and the lease is still
shared when nobody is alive and the next worker is spawned. -/
theorem stale_lease_at_respawn :
    ∃ s t, Run.exec WanService.step (.init (some .bare))
        (toMonitor ++ [.send (.applyWanLease sampleMsg), .handle .succeeding] ++ toRespawn) =
          some s ∧
      s.step (.supervisor (.task true)) = some t ∧
      s.supervisor.processes.alive = [] ∧ t.supervisor.processes.alive = [2] ∧
      s.wan.shared = sampleMsg.lease ∧ s.leased = [.new 100 64 0 5] ∧
      ∃ link, s.wan.link = some link ∧ (.new 100 64 0 5, 24) ∈ link.addresses := by
  obtain ⟨s, run, ⟨t, taken, spawned⟩, gone, shared, leased, link⟩ :
      ∃ s, Run.exec WanService.step (.init (some .bare))
        (toMonitor ++ [.send (.applyWanLease sampleMsg), .handle .succeeding] ++ toRespawn) =
          some s ∧
      (∃ t, s.step (.supervisor (.task true)) = some t ∧
        t.supervisor.processes.alive = [2]) ∧
      s.supervisor.processes.alive = [] ∧ s.wan.shared = sampleMsg.lease ∧
      s.leased = [.new 100 64 0 5] ∧
      ∃ link, s.wan.link = some link ∧ (.new 100 64 0 5, 24) ∈ link.addresses := by
    decide +kernel
  exact ⟨s, t, run, taken, gone, spawned, shared, leased, link⟩

end DhcpClient

end TrimRouter
