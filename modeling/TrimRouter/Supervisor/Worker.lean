import TrimRouter.Lib.Run
import TrimRouter.Lib.Watch

/-!
# Supervised worker processes

`services/supervisor.rs`: the `ServiceController`, and the `ExternalWorker`, whose task starts
a worker process over and over and leaves each one to a monitor of its service, while `stop`
runs beside it.  The two share the shutdown channel and the pid of the worker.
-/

namespace TrimRouter.Supervisor

/-- `ServiceError`, the part that the controller returns. -/
inductive ServiceError where
  | alreadyRunning
  | notRunning
deriving DecidableEq

/-! ## The service controller -/

/-- `ServiceController`, with the channel that its last `start` made. -/
structure ServiceController where
  shutdown : Watch Bool
  /-- `shutdown_tx` is there -/
  shutdownTx : Bool
  /-- `task_handle` is there -/
  taskHandle : Bool
deriving DecidableEq

namespace ServiceController

def new : ServiceController := ⟨(Watch.channel false).1, false, false⟩

def isRunning (c : ServiceController) : Bool := c.taskHandle

/-- `start`, with the receiver that the spawned task gets. -/
def start (c : ServiceController) : Except ServiceError (ServiceController × Watch.Receiver) :=
  if c.isRunning then .error .alreadyRunning
  else .ok (⟨(Watch.channel false).1, true, true⟩, (Watch.channel false).2)

def signalShutdown (c : ServiceController) : ServiceController :=
  if c.shutdownTx then { c with shutdown := c.shutdown.send true } else c

/-- `stop` up to the await of the handle: the handle and the sender are taken, and the
sender is dropped after its last message. -/
def beginStop (c : ServiceController) : Except ServiceError ServiceController :=
  if c.taskHandle then
    .ok {
      shutdown := if c.shutdownTx then (c.shutdown.send true).close else c.shutdown
      shutdownTx := false
      taskHandle := false }
  else .error .notRunning

theorem taskHandle_of_beginStop_error {c : ServiceController} {e : ServiceError}
    (failed : c.beginStop = .error e) : c.taskHandle = false := by
  unfold beginStop at failed
  split at failed
  · cases failed
  · rename_i none
    exact Bool.not_eq_true _ ▸ none

end ServiceController

/-! ## Worker processes -/

/-- The processes spawned so far.  Pids are not used again. -/
structure Processes where
  next : Nat
  alive : List Nat
  /-- those that were sent a signal -/
  signalled : List Nat
deriving DecidableEq

namespace Processes

/-- No process; pid 0 is not given out. -/
def init : Processes := ⟨1, [], []⟩

def spawn (p : Processes) : Nat × Processes :=
  (p.next, { p with next := p.next + 1, alive := p.next :: p.alive })

/-- `terminate_worker`.  Sending to a process that is gone changes nothing, and the wait for
its end, of two seconds at most, has no effect on the others. -/
def terminateWorker (p : Processes) (pid : Nat) : Processes :=
  if pid ∈ p.alive then { p with signalled := pid :: p.signalled } else p

/-- The process ends. -/
def exit (p : Processes) (pid : Nat) : Processes :=
  { p with alive := p.alive.filter (· ≠ pid) }

/-- Nobody has to be told about the process any more. -/
def Told (p : Processes) (pid : Nat) : Prop := pid ∈ p.alive → pid ∈ p.signalled

variable {p : Processes} {pid other : Nat}

theorem mem_signalled_terminateWorker (told : pid ∈ p.signalled) :
    pid ∈ (p.terminateWorker other).signalled := by
  unfold terminateWorker
  split
  · exact List.mem_cons_of_mem _ told
  · exact told

@[simp]
theorem alive_terminateWorker : (p.terminateWorker other).alive = p.alive := by
  unfold terminateWorker
  split <;> rfl

@[simp]
theorem next_terminateWorker : (p.terminateWorker other).next = p.next := by
  unfold terminateWorker
  split <;> rfl

theorem told_terminateWorker : (p.terminateWorker pid).Told pid := by
  intro alive
  rw [alive_terminateWorker] at alive
  unfold terminateWorker
  rw [if_pos alive]
  exact List.mem_cons_self

theorem Told.terminateWorker (told : p.Told pid) : (p.terminateWorker other).Told pid := by
  intro alive
  rw [alive_terminateWorker] at alive
  exact mem_signalled_terminateWorker (told alive)

theorem Told.exit (told : p.Told pid) : (p.exit other).Told pid := by
  intro alive
  exact told (List.mem_filter.mp alive).1

end Processes

/-! ## The supervised task, its monitors and `stop` -/

/-- The services that run a worker under an `ExternalWorker`. -/
inductive Service where
  | dhcpClient
  | dhcpServer
  | dnsForwarder
deriving DecidableEq

/-- The monitor has a branch for shutdown in its `select!`.  The monitor of the DHCP client is
not given the receiver. -/
def Service.watchesShutdown : Service → Bool
  | .dhcpClient => false
  | .dhcpServer => true
  | .dnsForwarder => true

/-- The branch for shutdown is ready. -/
def shutdownBranch (service : Service) (w : Watch Bool) (rx : Watch.Receiver) : Bool :=
  service.watchesShutdown && (w.changed rx).isSome

/-- The condition of the monitor's loop ends it.  Only the DNS forwarder has one. -/
def loopEnds : Service → Watch Bool → Bool
  | .dhcpClient, _ => false
  | .dhcpServer, _ => false
  | .dnsForwarder, w => w.borrow

/-- What the monitor does before its loop can make it give up.  The one of the DNS forwarder
only writes errors to the log there. -/
def Service.startFails : Service → Bool
  | .dhcpClient => true
  | .dhcpServer => true
  | .dnsForwarder => false

/-- Where the task of `start_supervised` is, down to `attempt_supervised_run` and
`spawn_and_track_process`. -/
inductive TaskPc where
  | checkLoop
  | restartDelay
  | checkFirst
  | setup
  | checkSecond
  | spawn
  | storePid (pid : Nat)
  | startMonitor (pid : Nat)
  | awaitMonitor (pid : Nat)
  /-- no monitor could be started -/
  | terminate (pid : Nat)
  | finished
deriving DecidableEq

/-- Where a monitor is before it ends. -/
inductive Phase where
  /-- before its loop -/
  | starting
  /-- in its `select!` -/
  | polling
  /-- in the handler of a branch, which can wait for the worker or for another service -/
  | handling
deriving DecidableEq

/-- The monitor of the worker. -/
inductive Monitor where
  | none
  | running (pid : Nat) (phase : Phase) (shutdownRx : Watch.Receiver)
  /-- in the `terminate_worker` that all monitors end with -/
  | terminate (pid : Nat)
  | finished
deriving DecidableEq

/-- Where `ExternalWorker::stop` is. -/
inductive StopPc where
  | idle
  | swapPid
  | kill (pid : Nat)
  | takeHandle
  | awaitTask
deriving DecidableEq

/-- An `ExternalWorker` with its task, a call of `stop` and the processes. -/
structure State where
  controller : ServiceController
  childPid : Nat
  task : TaskPc
  shutdownRx : Watch.Receiver
  attempt : Nat
  monitor : Monitor
  stop : StopPc
  processes : Processes
deriving DecidableEq

/-- One step of the task, of the monitor, of `stop`, of the caller or of a worker. -/
inductive Label where
  | start
  /-- the next step of `stop`, the first of which is its call -/
  | stop
  /-- the next step of the task.  The answer is what its call returns, `Ok` as `true`; in the
  restart delay, that the sleep ends first; after a monitor, that it ran for a minute -/
  | task (answer : Bool)
  /-- the monitor comes to its loop, from its start or from a handler -/
  | monitorLoop
  /-- the monitor takes another branch of its `select!` than that for shutdown -/
  | monitorBranch
  /-- the monitor sees the shutdown signal -/
  | monitorShutdown
  /-- the monitor ends for another reason: it cannot start up, or the worker closes the
  socket or it breaks -/
  | monitorBroken
  /-- the monitor terminates the worker and returns -/
  | monitorReturn
  /-- a worker ends -/
  | exit (pid : Nat)
deriving DecidableEq

namespace State

def init : State where
  controller := .new
  childPid := 0
  task := .finished
  shutdownRx := ⟨0⟩
  attempt := 0
  monitor := .none
  stop := .idle
  processes := .init

/-- `*shutdown_rx.borrow()`. -/
def shuttingDown (s : State) : Bool := s.controller.shutdown.borrow

/-- `attempt.saturating_add(1)`, on a `u32`. -/
def nextAttempt (s : State) : Nat := min (s.attempt + 1) 0xffffffff

/-- `handle_supervisor_restart_delay`. -/
def restartDelay (s : State) (slept : Bool) : Option State :=
  if s.attempt = 0 || slept then some { s with attempt := s.nextAttempt, task := .checkFirst }
  else (s.controller.shutdown.changed s.shutdownRx).map fun (ok, shutdownRx) =>
    if !ok || s.shuttingDown then { s with shutdownRx, task := .finished }
    else { s with shutdownRx, attempt := s.nextAttempt, task := .checkFirst }

/-- The next step of the task. -/
def taskStep (s : State) (answer : Bool) : Option State :=
  match s.task with
  | .checkLoop => some { s with task := if s.shuttingDown then .finished else .restartDelay }
  | .restartDelay => s.restartDelay answer
  | .checkFirst => some { s with task := if s.shuttingDown then .checkLoop else .setup }
  | .setup => some { s with task := if answer then .checkSecond else .checkLoop }
  | .checkSecond => some { s with task := if s.shuttingDown then .checkLoop else .spawn }
  | .spawn =>
    if answer then
      some { s with processes := s.processes.spawn.2, task := .storePid s.processes.spawn.1 }
    else some { s with task := .checkLoop }
  | .storePid pid => some { s with childPid := pid, task := .startMonitor pid }
  | .startMonitor pid =>
    if answer then
      -- the monitor gets a clone of the receiver, which has seen what the original has
      some { s with monitor := .running pid .starting s.shutdownRx, task := .awaitMonitor pid }
    else some { s with task := .terminate pid }
  | .terminate pid =>
    some { s with processes := s.processes.terminateWorker pid, task := .checkLoop }
  | .awaitMonitor _ =>
    -- the pid stays stored after the monitor has returned
    if s.monitor = .finished then
      some { s with
        monitor := .none, attempt := if answer then 0 else s.attempt, task := .checkLoop }
    else none
  | .finished => none

/-- The next step of `stop`. -/
def stopStep (s : State) : Option State :=
  match s.stop with
  | .idle => some { s with controller := s.controller.signalShutdown, stop := .swapPid }
  | .swapPid =>
    some { s with childPid := 0, stop := if s.childPid ≠ 0 then .kill s.childPid else .takeHandle }
  | .kill pid =>
    some { s with processes := s.processes.terminateWorker pid, stop := .takeHandle }
  | .takeHandle =>
    match s.controller.beginStop with
    | .ok controller => some { s with controller, stop := .awaitTask }
    | .error _ => some { s with stop := .idle }
  | .awaitTask => if s.task = .finished then some { s with stop := .idle } else none

/-- `start_supervised`.  It needs the worker for itself, as `stop` does. -/
def start (s : State) : Option State :=
  if s.stop = .idle then
    match s.controller.start with
    | .ok (controller, shutdownRx) =>
      some { s with controller, shutdownRx, attempt := 0, task := .checkLoop }
    | .error _ => some s
  else none

/-- One step. -/
def step (service : Service) (s : State) : Label → Option State
  | .start => s.start
  | .stop => s.stopStep
  | .task answer => s.taskStep answer
  | .monitorLoop =>
    match s.monitor with
    | .running pid .starting shutdownRx | .running pid .handling shutdownRx =>
      some { s with
        monitor := if loopEnds service s.controller.shutdown then .terminate pid
          else .running pid .polling shutdownRx }
    | _ => none
  | .monitorBranch =>
    match s.monitor with
    | .running pid .polling shutdownRx =>
      some { s with monitor := .running pid .handling shutdownRx }
    | _ => none
  | .monitorShutdown =>
    -- neither before the loop nor in a handler does anyone look at the channel
    match s.monitor with
    | .running pid .polling shutdownRx =>
      if shutdownBranch service s.controller.shutdown shutdownRx then
        some { s with monitor := .terminate pid }
      else none
    | _ => none
  | .monitorBroken =>
    match s.monitor with
    | .running pid phase _ =>
      if phase = .starting && !service.startFails then none
      else some { s with monitor := .terminate pid }
    | _ => none
  | .monitorReturn =>
    match s.monitor with
    | .terminate pid =>
      some { s with processes := s.processes.terminateWorker pid, monitor := .finished }
    | _ => none
  | .exit pid =>
    if pid ∈ s.processes.alive then some { s with processes := s.processes.exit pid } else none

end State

/-- The task is past its second shutdown check and has not stored the pid yet. -/
def TaskPc.inWindow : TaskPc → Bool
  | .spawn => true
  | .storePid _ => true
  | _ => false

/-- The worker whose pid the task has stored and whose monitor runs or comes next. -/
def TaskPc.worker : TaskPc → Option Nat
  | .startMonitor pid => some pid
  | .awaitMonitor pid => some pid
  | _ => none

/-- The worker of a monitor that has not ended. -/
def Monitor.worker : Monitor → Option Nat
  | .running pid _ _ => some pid
  | .none => Option.none
  | .terminate _ => Option.none
  | .finished => Option.none

theorem Monitor.worker_eq_some {monitor : Monitor} {pid : Nat} :
    monitor.worker = some pid ↔ ∃ phase shutdownRx, monitor = .running pid phase shutdownRx := by
  cases monitor <;> simp [worker]

variable {service : Service} {s t : State} {l : Label} {ls : List Label} {pid : Nat}

/-! ## What a step can do -/

/-- The steps of the task, grouped by what they touch besides its position. -/
inductive TaskStep (s : State) : State → Prop
  | move {next : TaskPc} {attempt : Nat} (running : s.task ≠ .finished)
      (alone : ∀ pid, s.task ≠ .awaitMonitor pid) (idle : next.worker = none)
      (checked : next.inWindow = true → s.shuttingDown = false)
      (unstored : ∀ pid, next ≠ .storePid pid) :
      TaskStep s { s with attempt, task := next }
  | woken {shutdownRx : Watch.Receiver} (here : s.task = .restartDelay) :
      TaskStep s { s with shutdownRx, task := .finished }
  | lowered {shutdownRx : Watch.Receiver} {attempt : Nat} (here : s.task = .restartDelay)
      (up : s.shuttingDown = false)
      (changed : s.controller.shutdown.changed s.shutdownRx = some (true, shutdownRx)) :
      TaskStep s { s with shutdownRx, attempt, task := .checkFirst }
  | spawned (here : s.task = .spawn) :
      TaskStep s { s with
        processes := s.processes.spawn.2, task := .storePid s.processes.spawn.1 }
  | stored {pid : Nat} (here : s.task = .storePid pid) :
      TaskStep s { s with childPid := pid, task := .startMonitor pid }
  | monitored {pid : Nat} (here : s.task = .startMonitor pid) :
      TaskStep s { s with
        monitor := .running pid .starting s.shutdownRx, task := .awaitMonitor pid }
  | terminated {pid : Nat} (here : s.task = .terminate pid) :
      TaskStep s { s with processes := s.processes.terminateWorker pid, task := .checkLoop }
  | returned {pid : Nat} {attempt : Nat} (here : s.task = .awaitMonitor pid)
      (ended : s.monitor = .finished) :
      TaskStep s { s with monitor := .none, attempt, task := .checkLoop }

theorem TaskStep.of_restartDelay {slept : Bool} (here : s.task = .restartDelay)
    (taken : s.restartDelay slept = some t) : TaskStep s t := by
  have forward : TaskStep s { s with attempt := s.nextAttempt, task := .checkFirst } := by
    apply TaskStep.move <;> simp [here, TaskPc.worker, TaskPc.inWindow]
  unfold State.restartDelay at taken
  split at taken
  · cases taken
    exact forward
  · obtain ⟨⟨ok, shutdownRx⟩, changed, same⟩ := Option.map_eq_some_iff.mp taken
    dsimp only at same
    split at same
    · subst same
      exact .woken here
    · rename_i up
      subst same
      rw [Bool.or_eq_true, Bool.not_eq_true', not_or, Bool.not_eq_false, Bool.not_eq_true] at up
      rw [up.1] at changed
      exact .lowered here up.2 changed

theorem TaskStep.of_taskStep {answer : Bool} (taken : s.taskStep answer = some t) :
    TaskStep s t := by
  -- a step that only moves on, at a shutdown check or after a call that failed
  have move : ∀ next : TaskPc, s.task ≠ .finished → (∀ pid, s.task ≠ .awaitMonitor pid) →
      next.worker = none → (next.inWindow = true → s.shuttingDown = false) →
      (∀ pid, next ≠ .storePid pid) → TaskStep s { s with task := next } :=
    fun _ running alone idle checked unstored => .move running alone idle checked unstored
  unfold State.taskStep at taken
  split at taken
  case h_1 here | h_3 here | h_5 here =>
    cases taken
    apply move <;> cases s.shuttingDown <;> simp [here, TaskPc.worker, TaskPc.inWindow]
  case h_2 here => exact .of_restartDelay here taken
  case h_4 here =>
    cases taken
    apply move <;> cases answer <;> simp [here, TaskPc.worker, TaskPc.inWindow]
  case h_6 here =>
    split at taken <;> cases taken
    · exact .spawned here
    · apply move <;> simp [here, TaskPc.worker, TaskPc.inWindow]
  case h_7 here =>
    cases taken
    exact .stored here
  case h_8 here =>
    split at taken <;> cases taken
    · exact .monitored here
    · apply move <;> simp [here, TaskPc.worker, TaskPc.inWindow]
  case h_9 here =>
    cases taken
    exact .terminated here
  case h_10 here =>
    split at taken
    · rename_i ended
      cases taken
      exact .returned here ended
    · cases taken
  case h_11 => cases taken

/-- The steps of `stop`. -/
inductive StopStep (s : State) : State → Prop
  | called (here : s.stop = .idle) :
      StopStep s { s with controller := s.controller.signalShutdown, stop := .swapPid }
  | swapped (here : s.stop = .swapPid) :
      StopStep s { s with
        childPid := 0, stop := if s.childPid ≠ 0 then .kill s.childPid else .takeHandle }
  | killed {pid : Nat} (here : s.stop = .kill pid) :
      StopStep s { s with processes := s.processes.terminateWorker pid, stop := .takeHandle }
  | took {controller : ServiceController} (here : s.stop = .takeHandle)
      (ok : s.controller.beginStop = .ok controller) :
      StopStep s { s with controller, stop := .awaitTask }
  | notRunning (here : s.stop = .takeHandle) (none : s.controller.taskHandle = false) :
      StopStep s { s with stop := .idle }
  | joined (here : s.stop = .awaitTask) (finished : s.task = .finished) :
      StopStep s { s with stop := .idle }

theorem StopStep.of_stopStep (taken : s.stopStep = some t) : StopStep s t := by
  unfold State.stopStep at taken
  split at taken
  case h_1 here =>
    cases taken
    exact .called here
  case h_2 here =>
    cases taken
    exact .swapped here
  case h_3 here =>
    cases taken
    exact .killed here
  case h_4 here =>
    split at taken <;> cases taken
    case h_1 ok => exact .took here ok
    case h_2 failed =>
      exact .notRunning here (ServiceController.taskHandle_of_beginStop_error failed)
  case h_5 here =>
    split at taken
    · rename_i finished
      cases taken
      exact .joined here finished
    · cases taken

/-- The steps of the whole. -/
inductive Step (service : Service) (s : State) : Label → State → Prop
  | task {answer : Bool} {t : State} (taken : TaskStep s t) : Step service s (.task answer) t
  | stop {t : State} (taken : StopStep s t) : Step service s .stop t
  | started (idle : s.stop = .idle) (unowned : s.controller.taskHandle = false) :
      Step service s .start { s with
        controller := ⟨(Watch.channel false).1, true, true⟩, shutdownRx := (Watch.channel false).2,
        attempt := 0, task := .checkLoop }
  | alreadyRunning : Step service s .start s
  | moved {l : Label} {pid : Nat} {phase next : Phase} {shutdownRx : Watch.Receiver}
      (running : s.monitor = .running pid phase shutdownRx) :
      Step service s l { s with monitor := .running pid next shutdownRx }
  | shutdown {l : Label} {pid : Nat} {phase : Phase} {shutdownRx : Watch.Receiver}
      (running : s.monitor = .running pid phase shutdownRx)
      (watches : service.watchesShutdown = true) :
      Step service s l { s with monitor := .terminate pid }
  | broken {pid : Nat} {phase : Phase} {shutdownRx : Watch.Receiver}
      (running : s.monitor = .running pid phase shutdownRx) :
      Step service s .monitorBroken { s with monitor := .terminate pid }
  | returned {pid : Nat} (here : s.monitor = .terminate pid) :
      Step service s .monitorReturn { s with
        processes := s.processes.terminateWorker pid, monitor := .finished }
  | exited {pid : Nat} :
      Step service s (.exit pid) { s with processes := s.processes.exit pid }

theorem Step.of_start (taken : s.start = some t) : Step service s .start t := by
  unfold State.start at taken
  split at taken
  · rename_i idle
    cases handle : s.controller.taskHandle with
    | false =>
      simp only [ServiceController.start, ServiceController.isRunning, handle, Bool.false_eq_true,
        if_false] at taken
      cases taken
      exact .started idle handle
    | true =>
      simp only [ServiceController.start, ServiceController.isRunning, handle, if_true] at taken
      cases taken
      exact .alreadyRunning
  · cases taken

theorem watchesShutdown_of_loopEnds {w : Watch Bool} (ends : loopEnds service w = true) :
    service.watchesShutdown = true := by
  cases service with
  | dhcpClient | dhcpServer => cases ends
  | dnsForwarder => rfl

/-- The monitor comes to the condition of its loop. -/
theorem Step.of_loop {phase : Phase} {shutdownRx : Watch.Receiver}
    (running : s.monitor = .running pid phase shutdownRx) :
    Step service s l { s with
      monitor := if loopEnds service s.controller.shutdown then .terminate pid
        else .running pid .polling shutdownRx } := by
  split
  · rename_i ends
    exact .shutdown running (watchesShutdown_of_loopEnds ends)
  · exact .moved running

theorem Step.of_step (taken : s.step service l = some t) : Step service s l t := by
  cases l <;> simp only [State.step] at taken
  case start => exact .of_start taken
  case stop => exact .stop (.of_stopStep taken)
  case task answer => exact .task (.of_taskStep taken)
  case monitorLoop =>
    split at taken
    case h_1 running | h_2 running =>
      cases taken
      exact .of_loop running
    case h_3 => cases taken
  case monitorBranch =>
    split at taken <;> cases taken
    rename_i running
    exact .moved running
  case monitorShutdown =>
    split at taken
    · rename_i running
      obtain ⟨branch, taken⟩ := Option.ite_none_right_eq_some.mp taken
      cases taken
      exact .shutdown running (Bool.and_eq_true_iff.mp branch).1
    · cases taken
  case monitorBroken =>
    split at taken
    · rename_i running
      obtain ⟨-, taken⟩ := Option.ite_none_left_eq_some.mp taken
      cases taken
      exact .broken running
    · cases taken
  case monitorReturn =>
    split at taken <;> cases taken
    rename_i here
    exact .returned here
  case exit pid =>
    split at taken <;> cases taken
    exact .exited

end TrimRouter.Supervisor
