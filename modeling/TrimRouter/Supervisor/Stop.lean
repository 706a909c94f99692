import TrimRouter.Supervisor.Worker

/-!
# Stopping a supervised worker

* `stop_reaches_worker`: `stop` does not come to wait for the task while a worker runs that
  nobody has told and whose monitor does not see the shutdown, if it takes the pid while none is
  about to be stored.
* `polling_monitor_sees_shutdown`: in their `select!` the monitors of the DHCP server and of the
  DNS forwarder see it in any case.
* `spawning_worker_missed`: services that are stopped while their worker is being spawned.
-/

namespace TrimRouter.Supervisor

/-- `stop` waits for the task while a worker runs that was sent no signal and whose monitor
cannot take its step for shutdown. -/
def State.Stuck (service : Service) (s : State) : Prop :=
  s.stop = .awaitTask ∧ ∃ pid, s.monitor.worker = some pid ∧ pid ∈ s.processes.alive ∧
    pid ∉ s.processes.signalled ∧ s.step service .monitorShutdown = none

/-- `stop` does not take the pid while the task is about to store one. -/
def Timely (s : State) (l : Label) : Prop :=
  ¬(l = .stop ∧ s.stop = .swapPid ∧ s.task.inWindow = true)
deriving Decidable

variable {service : Service} {s t : State} {l : Label} {ls : List Label} {pid : Nat}
  {phase : Phase} {shutdownRx : Watch.Receiver}

/-! ## The signal -/

/-- A running task that `stop` is after can see the signal, and so can its monitor. -/
structure Signalling (s : State) : Prop where
  owned : s.task ≠ .finished → s.stop ≠ .awaitTask →
    s.controller.shutdownTx = true ∧ s.controller.taskHandle = true
  raised : s.task ≠ .finished → s.stop ≠ .idle → s.shuttingDown = true
  pending : s.task ≠ .finished → s.controller.shutdown.Pending s.shutdownRx
  watched : ∀ {pid phase shutdownRx}, s.monitor = .running pid phase shutdownRx →
    s.task = .awaitMonitor pid ∧ s.controller.shutdown.Pending shutdownRx

theorem Signalling.init : Signalling State.init := by
  constructor <;> simp [State.init]

theorem Signalling.not_running (inv : Signalling s) (alone : ∀ pid, s.task ≠ .awaitMonitor pid) :
    s.monitor ≠ .running pid phase shutdownRx :=
  fun running => alone pid (inv.watched running).1

/-- What a step that leaves the controller alone has to show. -/
theorem Signalling.keep (inv : Signalling s) (running : t.task ≠ .finished → s.task ≠ .finished)
    (controller : t.controller = s.controller) (called : t.stop ≠ .idle → s.stop ≠ .idle)
    (waiting : t.stop ≠ .awaitTask → s.stop ≠ .awaitTask)
    (pending : t.task ≠ .finished → s.controller.shutdown.Pending t.shutdownRx)
    (watched : ∀ {pid phase shutdownRx}, t.monitor = .running pid phase shutdownRx →
      t.task = .awaitMonitor pid ∧ s.controller.shutdown.Pending shutdownRx) :
    Signalling t := by
  constructor
  · intro ran elsewhere
    rw [controller]
    exact inv.owned (running ran) (waiting elsewhere)
  · intro ran began
    unfold State.shuttingDown
    rw [controller]
    exact inv.raised (running ran) (called began)
  · rw [controller]
    exact pending
  · rw [controller]
    exact watched

/-- Nothing is left to show once the task has finished. -/
theorem Signalling.of_finished (finished : t.task = .finished)
    (unwatched : ∀ {pid phase shutdownRx}, t.monitor ≠ .running pid phase shutdownRx) :
    Signalling t where
  owned := fun ran => absurd finished ran
  raised := fun ran => absurd finished ran
  pending := fun ran => absurd finished ran
  watched := fun running => absurd running unwatched

theorem Signalling.taskStep (inv : Signalling s) (taken : TaskStep s t) : Signalling t := by
  cases taken with
  | move running alone =>
    exact inv.keep (fun _ => running) rfl id id (fun _ => inv.pending running)
      fun monitor => absurd monitor (inv.not_running alone)
  | woken here =>
    have alone : ∀ pid, s.task ≠ .awaitMonitor pid := by simp [here]
    exact .of_finished rfl (inv.not_running alone)
  | lowered here up changed =>
    have alone : ∀ pid, s.task ≠ .awaitMonitor pid := by simp [here]
    refine inv.keep (by simp [here]) rfl id id (fun _ => ?_)
      fun monitor => absurd monitor (inv.not_running alone)
    rw [Watch.changed_ok changed]
    exact .of_lowered up
  | spawned here | stored here | terminated here =>
    have running : s.task ≠ .finished := by simp [here]
    have alone : ∀ pid, s.task ≠ .awaitMonitor pid := by simp [here]
    exact inv.keep (fun _ => running) rfl id id (fun _ => inv.pending running)
      fun monitor => absurd monitor (inv.not_running alone)
  | monitored here =>
    -- the clone has seen as little of the signal as the receiver of the task
    have running : s.task ≠ .finished := by simp [here]
    refine inv.keep (fun _ => running) rfl id id (fun _ => inv.pending running) ?_
    intro pid phase shutdownRx monitor
    cases monitor
    exact ⟨rfl, inv.pending running⟩
  | returned here ended =>
    have running : s.task ≠ .finished := by simp [here]
    refine inv.keep (fun _ => running) rfl id id (fun _ => inv.pending running) ?_
    intro pid phase shutdownRx monitor
    cases monitor

theorem Signalling.not_running_of_finished (inv : Signalling s) (finished : s.task = .finished) :
    s.monitor ≠ .running pid phase shutdownRx := by
  apply inv.not_running
  simp [finished]

theorem Signalling.finished_of_unowned (inv : Signalling s) (elsewhere : s.stop ≠ .awaitTask)
    (unowned : s.controller.taskHandle = false) : s.task = .finished := by
  by_contra running
  have own := inv.owned running elsewhere
  rw [unowned] at own
  cases own.2

theorem Signalling.stopStep (inv : Signalling s) (taken : StopStep s t) : Signalling t := by
  cases taken with
  | called here =>
    by_cases running : s.task = .finished
    · exact .of_finished running (inv.not_running_of_finished running)
    · have own := inv.owned running (by simp [here])
      have signal : s.controller.signalShutdown =
          { s.controller with shutdown := s.controller.shutdown.send true } :=
        if_pos own.1
      rw [signal]
      refine ⟨fun _ _ => own, fun _ _ => rfl, fun _ => (inv.pending running).send, ?_⟩
      intro pid phase shutdownRx monitor
      have watch := inv.watched monitor
      exact ⟨watch.1, watch.2.send⟩
  | swapped here | killed here =>
    refine inv.keep id rfl (by simp [here]) (by simp [here]) inv.pending inv.watched
  | took here ok =>
    by_cases running : s.task = .finished
    · exact .of_finished running (inv.not_running_of_finished running)
    · have own := inv.owned running (by simp [here])
      unfold ServiceController.beginStop at ok
      rw [if_pos own.2, if_pos own.1] at ok
      cases ok
      refine ⟨fun _ waiting => absurd rfl waiting, fun _ _ => rfl,
        fun _ => (inv.pending running).send.close, ?_⟩
      intro pid phase shutdownRx monitor
      have watch := inv.watched monitor
      exact ⟨watch.1, watch.2.send.close⟩
  | notRunning here none =>
    have finished := inv.finished_of_unowned (by simp [here]) none
    exact .of_finished finished (inv.not_running_of_finished finished)
  | joined here finished =>
    exact .of_finished finished (inv.not_running_of_finished finished)

theorem Signalling.step (inv : Signalling s) (taken : Step service s l t) : Signalling t := by
  cases taken with
  | task taken => exact inv.taskStep taken
  | stop taken => exact inv.stopStep taken
  | started idle unowned =>
    have finished := inv.finished_of_unowned (by simp [idle]) unowned
    refine ⟨fun _ _ => ⟨rfl, rfl⟩, fun _ called => absurd idle called, fun _ => .channel, ?_⟩
    exact fun monitor => absurd monitor (inv.not_running_of_finished finished)
  | alreadyRunning => exact inv
  | moved running =>
    refine inv.keep id rfl id id inv.pending ?_
    intro pid phase shutdownRx monitor
    cases monitor
    exact inv.watched running
  | shutdown | broken | returned =>
    refine inv.keep id rfl id id inv.pending ?_
    intro pid phase shutdownRx monitor
    cases monitor
  | exited => exact inv.keep id rfl id id inv.pending inv.watched

theorem Signalling.exec (run : Run.exec (State.step service) .init ls = some s) :
    Signalling s :=
  Run.exec_keeps Signalling (fun _ _ _ inv taken => inv.step (.of_step taken)) .init run

/-! ## The pid -/

/-- How `stop` comes to know of the worker: before the swap it will read the pid, then it has
it in hand, and then it has told the worker. -/
def State.Known (s : State) (pid : Nat) : Prop :=
  match s.stop with
  | .idle => s.childPid = pid
  | .swapPid => s.childPid = pid
  | .kill target => target = pid
  | .takeHandle => s.processes.Told pid
  | .awaitTask => s.processes.Told pid

/-- The worker that the task looks after is known to `stop`. -/
structure Tracked (s : State) : Prop where
  known : ∀ pid, s.task.worker = some pid → pid ≠ 0 ∧ s.Known pid
  window : s.task.inWindow = true → s.stop = .idle ∨ s.stop = .swapPid
  pids : 0 < s.processes.next
  storing : ∀ pid, s.task = .storePid pid → pid ≠ 0

theorem Tracked.init : Tracked State.init := by
  constructor <;> simp [State.init, TaskPc.worker, TaskPc.inWindow, Processes.init]

/-- Nothing is left to show while the task has no worker. -/
theorem Tracked.of_idle (idle : t.task.worker = none) (outside : t.task.inWindow = false)
    (pids : 0 < t.processes.next) : Tracked t := by
  refine ⟨by simp [idle], by simp [outside], pids, ?_⟩
  intro pid storing
  rw [storing] at outside
  cases outside

theorem Tracked.taskStep (inv : Tracked s) (signal : Signalling s) (taken : TaskStep s t) :
    Tracked t := by
  cases taken with
  | move running alone idle checked unstored =>
    refine ⟨by simp [idle], ?_, inv.pids, fun pid same => absurd same (unstored pid)⟩
    -- past a shutdown check, so nobody has called `stop`
    intro entering
    by_contra late
    have raised := signal.raised running fun idle => late (.inl idle)
    rw [checked entering] at raised
    cases raised
  | woken | lowered | returned => exact .of_idle rfl rfl inv.pids
  | terminated =>
    refine .of_idle rfl rfl ?_
    rw [Processes.next_terminateWorker]
    exact inv.pids
  | spawned here =>
    have early := inv.window (by simp [here, TaskPc.inWindow])
    refine ⟨by simp [TaskPc.worker], fun _ => early, Nat.succ_pos _, ?_⟩
    intro pid storing
    cases storing
    exact Nat.pos_iff_ne_zero.mp inv.pids
  | @stored pid here =>
    have early := inv.window (by simp [here, TaskPc.inWindow])
    refine ⟨?_, by simp [TaskPc.inWindow], inv.pids, by simp⟩
    intro stored same
    cases same
    refine ⟨inv.storing pid here, ?_⟩
    rcases early with idle | swapping
    · simp [State.Known, idle]
    · simp [State.Known, swapping]
  | @monitored pid here =>
    refine ⟨?_, by simp [TaskPc.inWindow], inv.pids, by simp⟩
    intro monitored same
    cases same
    exact inv.known pid (by simp [here, TaskPc.worker])

theorem Tracked.outside (inv : Tracked s) (called : s.stop ≠ .idle) (swapped : s.stop ≠ .swapPid) :
    s.task.inWindow = false := by
  by_contra inside
  rcases inv.window (Bool.not_eq_false _ ▸ inside) with idle | swapping
  · exact called idle
  · exact swapped swapping

theorem Tracked.stopStep (inv : Tracked s) (signal : Signalling s)
    (timely : s.stop = .swapPid → s.task.inWindow = false) (taken : StopStep s t) :
    Tracked t := by
  cases taken with
  | called here =>
    refine ⟨?_, fun _ => .inr rfl, inv.pids, inv.storing⟩
    intro pid worker
    simpa [State.Known, here] using inv.known pid worker
  | swapped here =>
    refine ⟨?_, ?_, inv.pids, inv.storing⟩
    · intro pid worker
      obtain ⟨nonzero, known⟩ := inv.known pid worker
      have stored : s.childPid = pid := by simpa [State.Known, here] using known
      simp [State.Known, stored, nonzero]
    · intro entering
      rw [timely here] at entering
      cases entering
  | @killed target here =>
    refine ⟨?_, ?_, ?_, inv.storing⟩
    · intro pid worker
      obtain ⟨nonzero, known⟩ := inv.known pid worker
      obtain rfl : target = pid := by simpa [State.Known, here] using known
      exact ⟨nonzero, Processes.told_terminateWorker⟩
    · intro entering
      rw [inv.outside (by simp [here]) (by simp [here])] at entering
      cases entering
    · rw [Processes.next_terminateWorker]
      exact inv.pids
  | took here ok =>
    refine ⟨?_, ?_, inv.pids, inv.storing⟩
    · intro pid worker
      simpa [State.Known, here] using inv.known pid worker
    · intro entering
      rw [inv.outside (by simp [here]) (by simp [here])] at entering
      cases entering
  | notRunning here none =>
    have finished := signal.finished_of_unowned (by simp [here]) none
    exact .of_idle (by simp [finished, TaskPc.worker]) (by simp [finished, TaskPc.inWindow])
      inv.pids
  | joined here finished =>
    exact .of_idle (by simp [finished, TaskPc.worker]) (by simp [finished, TaskPc.inWindow])
      inv.pids

/-- A step that only tells or ends workers. -/
theorem Tracked.processes {monitor : Monitor} {processes : Processes} (inv : Tracked s)
    (told : ∀ pid, s.processes.Told pid → processes.Told pid)
    (next : processes.next = s.processes.next) : Tracked { s with monitor, processes } := by
  refine ⟨?_, inv.window, next ▸ inv.pids, inv.storing⟩
  intro pid worker
  obtain ⟨nonzero, known⟩ := inv.known pid worker
  refine ⟨nonzero, ?_⟩
  unfold State.Known at known ⊢
  cases here : s.stop with
  | idle | swapPid | kill => rwa [here] at known
  | takeHandle | awaitTask =>
    rw [here] at known
    exact told pid known

theorem Tracked.step (inv : Tracked s) (signal : Signalling s)
    (timely : l = .stop → s.stop = .swapPid → s.task.inWindow = false)
    (taken : Step service s l t) : Tracked t := by
  cases taken with
  | task taken => exact inv.taskStep signal taken
  | stop taken => exact inv.stopStep signal (timely rfl) taken
  | started => exact .of_idle rfl rfl inv.pids
  | alreadyRunning => exact inv
  | moved | shutdown | broken => exact inv.processes (fun _ told => told) rfl
  | returned =>
    exact inv.processes (fun _ told => told.terminateWorker) Processes.next_terminateWorker
  | exited => exact inv.processes (fun _ told => told.exit) rfl

theorem Tracked.exec (meets : Run.Meets (State.step service) Timely .init ls)
    (run : Run.exec (State.step service) .init ls = some s) : Tracked s := by
  have keep : Run.Inductive (State.step service) Timely fun s => Signalling s ∧ Tracked s := by
    intro s l t inv timely taken
    have step : Step service s l t := .of_step taken
    refine ⟨inv.1.step step, inv.2.step inv.1 ?_ step⟩
    intro isStop swapping
    by_contra inside
    exact timely ⟨isStop, swapping, Bool.not_eq_false _ ▸ inside⟩
  exact (keep.exec ⟨.init, .init⟩ meets run).2

/-! ## Stopping -/

/-- In every run, a monitor that has a branch for shutdown and is in its `select!` can take it
from the call of `stop` on. -/
theorem polling_monitor_sees_shutdown (run : Run.exec (State.step service) .init ls = some s)
    (watches : service.watchesShutdown = true)
    (polling : s.monitor = .running pid .polling shutdownRx) (called : s.stop ≠ .idle) :
    s.step service .monitorShutdown = some { s with monitor := .terminate pid } := by
  have signal := Signalling.exec run
  obtain ⟨awaiting, pending⟩ := signal.watched polling
  have raised : s.controller.shutdown.borrow = true := signal.raised (by simp [awaiting]) called
  have woken := pending.changed raised
  simp [State.step, polling, shutdownBranch, watches, woken]

/-- In every run in which `stop` does not take the pid while the task is about to store one,
`stop` never waits for the task while a worker runs that was sent no signal and whose monitor
cannot take its step for shutdown. -/
theorem stop_reaches_worker (meets : Run.Meets (State.step service) Timely .init ls)
    (run : Run.exec (State.step service) .init ls = some s) : ¬s.Stuck service := by
  rintro ⟨waiting, pid, worker, alive, untold, -⟩
  obtain ⟨phase, shutdownRx, running⟩ := Monitor.worker_eq_some.mp worker
  have awaiting := ((Signalling.exec run).watched running).1
  have known := ((Tracked.exec meets run).known pid (by simp [awaiting, TaskPc.worker])).2
  unfold State.Known at known
  rw [waiting] at known
  exact untold (known alive)

/-- The task up to its second shutdown check, and past it. -/
def toSpawn : List Label := .start :: List.replicate 5 (.task true)

/-- The task from there to the monitor, which comes to its `select!`. -/
def toPolling : List Label := List.replicate 3 (.task true) ++ [.monitorLoop]

/-- A DHCP client that is stopped while its monitor polls. -/
theorem stop_reaches_monitored_worker :
    Run.Meets (State.step .dhcpClient) Timely .init
        (toSpawn ++ toPolling ++ List.replicate 4 .stop) ∧
      ∃ s, Run.exec (State.step .dhcpClient) .init
          (toSpawn ++ toPolling ++ List.replicate 4 .stop) = some s ∧
        s.stop = .awaitTask ∧ 1 ∈ s.processes.signalled ∧ ¬s.Stuck .dhcpClient := by
  have meets : Run.Meets (State.step .dhcpClient) Timely .init
      (toSpawn ++ toPolling ++ List.replicate 4 .stop) := by decide
  exact ⟨meets, _, rfl, rfl, by decide, stop_reaches_worker meets rfl⟩

/-- Services that are stopped while their worker is being spawned: `stop` finds no pid, and
waits for a task that waits for a monitor.  That of the DHCP client polls and is told by nobody,
and that of the DHCP server waits in a handler. -/
theorem spawning_worker_missed :
    (∃ ls s shutdownRx, Run.exec (State.step .dhcpClient) .init ls = some s ∧
      s.Stuck .dhcpClient ∧ s.monitor = .running 1 .polling shutdownRx) ∧
    ∃ ls s, Run.exec (State.step .dhcpServer) .init ls = some s ∧ s.Stuck .dhcpServer :=
  ⟨⟨toSpawn ++ List.replicate 3 .stop ++ toPolling, _, _, rfl,
      ⟨rfl, 1, rfl, by decide, by decide, rfl⟩, rfl⟩,
    toSpawn ++ List.replicate 3 .stop ++ toPolling ++ [.monitorBranch], _, rfl,
    rfl, 1, rfl, by decide, by decide, rfl⟩

end TrimRouter.Supervisor
