import TrimRouter.Lan.Manager
import TrimRouter.Lib.Trace
import TrimRouter.Supervisor.Worker

/-!
# The observability server

`services/observability`: the HTTP server with its connections and log streams, and the LAN
runner that stops it in `stop_services`, on its way to a shift of the subnet or to its end.
The server stands for `axum::serve` with a graceful shutdown: it stops accepting at the
signal, closes idle connections, and returns when every connection that it accepted has
finished.  A plain response is written without the help of the client.  A log stream reads
from the log broadcaster, which lives as long as the process, so it ends only when its client
closes it.

Left out: the contents of requests and responses, and the limit of 16 requests in handlers, none of
which waits.  Invariants are proved by cases on `Step`.
-/

namespace TrimRouter.Observability

open Supervisor (ServiceController)

/-! ## Log stream slots -/

def maxConcurrentSseStreams : Nat := 4

def maxSseStreamsPerIp : Nat := 2

/-- `sse_ip_tracker`.  No thread panics while it holds the lock, so it is never poisoned. -/
abbrev IpTracker := HashMap Ipv4Addr Nat

/-- `reserve_ip_sse_slot`: whether there was a slot, and the map, in which the address has an
entry in either case. -/
def reserveIpSseSlot (ipTracker : IpTracker) (clientIp : Ipv4Addr) : Bool × IpTracker :=
  let count := (ipTracker.lookup clientIp).getD 0
  if maxSseStreamsPerIp ≤ count then (false, ipTracker.insert clientIp count)
  else (true, ipTracker.insert clientIp (count + 1))

/-- `release_ip_sse_slot`, which is also what dropping an `IpStreamPermit` does. -/
def releaseIpSseSlot (ipTracker : IpTracker) (clientIp : Ipv4Addr) : IpTracker :=
  match ipTracker.lookup clientIp with
  | some count =>
    if count - 1 = 0 then ipTracker.erase clientIp else ipTracker.insert clientIp (count - 1)
  | none => ipTracker

/-! ## Connections -/

/-- What the server does on a connection. -/
inductive Activity where
  /-- waiting for a request -/
  | idle
  /-- answering, with a response that ends -/
  | answering
  /-- in `handle_logs_stream`, before it tries for a permit -/
  | deciding
  /-- in `handle_logs_stream`, after it found no permit -/
  | rejecting
  | streaming
  /-- dropping the stream: the slot of the address is free, the permit not yet -/
  | releasing
  | finished
deriving DecidableEq

/-- An accepted connection. -/
structure Connection where
  clientIp : Ipv4Addr
  activity : Activity
deriving DecidableEq

/-- How far `HttpServer::run` is. -/
inductive Phase where
  | accepting
  /-- after the shutdown signal -/
  | draining
  | returned
deriving DecidableEq

/-! ## The LAN runner -/

/-- What makes the LAN runner stop its services. -/
inductive Operation where
  /-- the end of `run` -/
  | shutdown
  | shift (cfg : RouterConfig) (newIp : Ipv4Net)

/-- What the runner does after `stop_services`. -/
def Operation.afterStop : Operation → List Lan.Action
  | .shutdown => []
  | .shift cfg newIp => (Lan.shiftLanSubnet cfg newIp).tail

/-- Where the LAN runner is. -/
inductive Runner where
  | running
  /-- in `stop_services`, waiting for the DHCP server -/
  | stopDhcpServer (op : Operation)
  /-- at the start of `ObservabilityService::stop` -/
  | stopObservability (op : Operation)
  /-- there, waiting for the task of the server -/
  | awaitServer (op : Operation)
  /-- past `stop_services` -/
  | acting (actions : List Lan.Action)
  | done

/-- It has not taken the handle of the server yet. -/
def Runner.beforeStop : Runner → Bool
  | .running => true
  | .stopDhcpServer _ => true
  | .stopObservability _ => true
  | _ => false

/-- `stop_services` has returned. -/
def Runner.pastStop : Runner → Bool
  | .acting _ => true
  | .done => true
  | _ => false

/-- One observability service, its clients and the runner. -/
structure State where
  controller : ServiceController
  shutdownRx : Watch.Receiver
  phase : Phase
  /-- the accepted connections, in the order of their arrival -/
  connections : List Connection
  /-- free permits of `sse_semaphore` -/
  sseSemaphore : Nat
  sseIpTracker : IpTracker
  runner : Runner

/-- One step of a client, of the server or of the runner. -/
inductive Label where
  | connect (clientIp : Ipv4Addr)
  /-- a request, for a log stream or for anything else -/
  | request (id : Nat) (stream : Bool)
  | clientClose (id : Nat)
  /-- the server goes on with a connection -/
  | proceed (id : Nat)
  /-- the server sees the shutdown signal -/
  | signal
  | serverReturn
  /-- a conflict of the subnets, or the end of the runner's loop -/
  | call (op : Operation)
  /-- the next step of the runner -/
  | runner

/-- The connection that a step is on. -/
def Label.connection : Label → Option Nat
  | .request id _ => some id
  | .clientClose id => some id
  | .proceed id => some id
  | _ => none

/-- The steps that are not up to the clients or to what happens on the network. -/
def Label.own : Label → Bool
  | .proceed _ => true
  | .signal => true
  | .serverReturn => true
  | .runner => true
  | _ => false

namespace State

/-- `ObservabilityService::start` has succeeded or failed, and the runner goes on in either
case. -/
def init (started : Bool) : State where
  controller := ⟨(Watch.channel false).1, started, started⟩
  shutdownRx := (Watch.channel false).2
  phase := if started then .accepting else .returned
  connections := []
  sseSemaphore := maxConcurrentSseStreams
  sseIpTracker := ∅
  runner := .running

/-- The connection takes up another activity. -/
def put (s : State) (id : Nat) (c : Connection) (activity : Activity) : State :=
  { s with connections := s.connections.set id { c with activity } }

/-- A request arrives on an idle connection. -/
def request (s : State) (id : Nat) (c : Connection) (stream : Bool) : State :=
  if stream then
    let (ok, sseIpTracker) := reserveIpSseSlot s.sseIpTracker c.clientIp
    { s.put id c (if ok then .deciding else .answering) with sseIpTracker }
  else s.put id c .answering

/-- The client closes its connection. -/
def clientClose (s : State) (id : Nat) (c : Connection) : Option State :=
  match c.activity with
  | .idle => some (s.put id c .finished)
  | .answering => some (s.put id c .finished)
  | .streaming =>
    some { s.put id c .releasing with
      sseIpTracker := releaseIpSseSlot s.sseIpTracker c.clientIp }
  | _ => none

/-- The server goes on with a connection. -/
def proceed (s : State) (id : Nat) (c : Connection) : Option State :=
  match c.activity with
  | .idle => if s.phase = .accepting then none else some (s.put id c .finished)
  | .answering => some (s.put id c (if s.phase = .accepting then .idle else .finished))
  | .deciding =>
    match s.sseSemaphore with
    | 0 => some (s.put id c .rejecting)
    | free + 1 => some { s.put id c .streaming with sseSemaphore := free }
  | .rejecting =>
    some { s.put id c .answering with
      sseIpTracker := releaseIpSseSlot s.sseIpTracker c.clientIp }
  | .streaming => none
  | .releasing => some { s.put id c .finished with sseSemaphore := s.sseSemaphore + 1 }
  | .finished => none

/-- Every accepted connection has finished. -/
def AllFinished (s : State) : Prop := ∀ c ∈ s.connections, c.activity = .finished
deriving Decidable

/-- The next step of the runner. -/
def runnerStep (s : State) : Option State :=
  match s.runner with
  | .running => none
  | .stopDhcpServer op => some { s with runner := .stopObservability op }
  | .stopObservability op =>
    match s.controller.beginStop with
    | .ok controller => some { s with controller, runner := .awaitServer op }
    | .error _ => some { s with runner := .acting op.afterStop }
  | .awaitServer op =>
    if s.phase = .returned then some { s with runner := .acting op.afterStop } else none
  | .acting (_ :: rest) => some { s with runner := .acting rest }
  | .acting [] => some { s with runner := .done }
  | .done => none

/-- One step. -/
def step (s : State) : Label → Option State
  | .connect clientIp =>
    if s.phase = .accepting then
      some { s with connections := s.connections ++ [⟨clientIp, .idle⟩] }
    else none
  | .request id stream =>
    (s.connections[id]?).bind fun c =>
      if c.activity = .idle then some (s.request id c stream) else none
  | .clientClose id => (s.connections[id]?).bind (s.clientClose id)
  | .proceed id => (s.connections[id]?).bind (s.proceed id)
  | .signal =>
    if s.phase = .accepting then
      (s.controller.shutdown.changed s.shutdownRx).map fun (_, shutdownRx) =>
        { s with shutdownRx, phase := .draining }
    else none
  | .serverReturn =>
    if s.phase = .draining ∧ s.AllFinished then some { s with phase := .returned } else none
  | .call op =>
    match s.runner with
    | .running => some { s with runner := .stopDhcpServer op }
    | _ => none
  | .runner => s.runnerStep

end State

/-! ## What a step can do -/

/-- How many steps a connection takes at most, once the server accepts no more. -/
def Activity.rank : Activity → Nat
  | .idle => 4
  | .deciding => 3
  | .rejecting => 2
  | .streaming => 2
  | .answering => 1
  | .releasing => 1
  | .finished => 0

/-- The steps of the runner. -/
inductive RunnerStep (s : State) : State → Prop
  | dhcpStopped {op : Operation} (here : s.runner = .stopDhcpServer op) :
      RunnerStep s { s with runner := .stopObservability op }
  | took {op : Operation} {controller : ServiceController}
      (here : s.runner = .stopObservability op) (ok : s.controller.beginStop = .ok controller) :
      RunnerStep s { s with controller, runner := .awaitServer op }
  | notRunning {op : Operation} (here : s.runner = .stopObservability op)
      (none : s.controller.taskHandle = false) :
      RunnerStep s { s with runner := .acting op.afterStop }
  | joined {op : Operation} (here : s.runner = .awaitServer op) (returned : s.phase = .returned) :
      RunnerStep s { s with runner := .acting op.afterStop }
  | acted {action : Lan.Action} {rest : List Lan.Action}
      (here : s.runner = .acting (action :: rest)) :
      RunnerStep s { s with runner := .acting rest }
  | completed (here : s.runner = .acting []) : RunnerStep s { s with runner := .done }

/-- The steps of the whole.  Those that move one connection are told apart only by what they
do to the stop. -/
inductive Step (s : State) : Label → State → Prop
  | connected {clientIp : Ipv4Addr} (accepting : s.phase = .accepting) :
      Step s (.connect clientIp) { s with connections := s.connections ++ [⟨clientIp, .idle⟩] }
  | moved {l : Label} {id : Nat} {c : Connection} {activity : Activity} {sseSemaphore : Nat}
      {sseIpTracker : IpTracker} (label : l.connection = some id)
      (here : s.connections[id]? = some c)
      (descends : s.phase = .accepting ∨ activity.rank < c.activity.rank)
      (closed : c.activity = .streaming → l = .clientClose id) :
      Step s l { s.put id c activity with sseSemaphore, sseIpTracker }
  | signalled {shutdownRx : Watch.Receiver} (accepting : s.phase = .accepting) :
      Step s .signal { s with shutdownRx, phase := .draining }
  | returned (draining : s.phase = .draining) (finished : s.AllFinished) :
      Step s .serverReturn { s with phase := .returned }
  | called {op : Operation} (here : s.runner = .running) :
      Step s (.call op) { s with runner := .stopDhcpServer op }
  | runner {t : State} (taken : RunnerStep s t) : Step s .runner t

variable {s t : State} {l : Label} {ls : List Label} {id : Nat} {c : Connection}

theorem RunnerStep.of_runnerStep (taken : s.runnerStep = some t) : RunnerStep s t := by
  unfold State.runnerStep at taken
  split at taken
  case h_1 => cases taken
  case h_2 here =>
    cases taken
    exact .dhcpStopped here
  case h_3 here =>
    split at taken <;> cases taken
    case h_1 ok => exact .took here ok
    case h_2 failed =>
      exact .notRunning here (ServiceController.taskHandle_of_beginStop_error failed)
  case h_4 here =>
    split at taken
    · rename_i returned
      cases taken
      exact .joined here returned
    · cases taken
  case h_5 here =>
    cases taken
    exact .acted here
  case h_6 here =>
    cases taken
    exact .completed here
  case h_7 => cases taken

/-- A step on a connection that brings it closer to its end, and is not the end of a log
stream. -/
theorem Step.descended {before activity : Activity} {sseSemaphore : Nat}
    {sseIpTracker : IpTracker} (label : l.connection = some id)
    (here : s.connections[id]? = some c)
    (was : c.activity = before) (waits : before ≠ .streaming)
    (less : activity.rank < before.rank) :
    Step s l { s.put id c activity with sseSemaphore, sseIpTracker } :=
  .moved label here (.inr (was ▸ less)) fun streaming => absurd (was ▸ streaming) waits

theorem Step.of_request {stream : Bool} (here : s.connections[id]? = some c)
    (idle : c.activity = .idle) : Step s (.request id stream) (s.request id c stream) := by
  unfold State.request
  split
  · exact .descended rfl here idle (by decide) (by split <;> decide)
  · exact .descended rfl here idle (by decide) (by decide)

theorem Step.of_clientClose (here : s.connections[id]? = some c)
    (taken : s.clientClose id c = some t) : Step s (.clientClose id) t := by
  unfold State.clientClose at taken
  split at taken <;> cases taken
  case h_1 was => exact .descended rfl here was (by decide) (by decide)
  case h_2 was => exact .descended rfl here was (by decide) (by decide)
  case h_3 was => exact .moved rfl here (.inr (by simp [was, Activity.rank])) fun _ => rfl

theorem Step.of_proceed (here : s.connections[id]? = some c) (taken : s.proceed id c = some t) :
    Step s (.proceed id) t := by
  unfold State.proceed at taken
  split at taken
  case h_1 was =>
    split at taken <;> cases taken
    exact .descended rfl here was (by decide) (by decide)
  case h_2 was =>
    cases taken
    by_cases accepting : s.phase = .accepting
    · exact .moved rfl here (.inl accepting) (by simp [was])
    · rw [if_neg accepting]
      exact .descended rfl here was (by decide) (by decide)
  case h_3 was =>
    split at taken <;> cases taken
    · exact .descended rfl here was (by decide) (by decide)
    · exact .descended rfl here was (by decide) (by decide)
  case h_4 was =>
    cases taken
    exact .descended rfl here was (by decide) (by decide)
  case h_5 => cases taken
  case h_6 was =>
    cases taken
    exact .descended rfl here was (by decide) (by decide)
  case h_7 => cases taken

theorem Step.of_step (taken : s.step l = some t) : Step s l t := by
  cases l <;> simp only [State.step] at taken
  case connect =>
    split at taken
    · rename_i accepting
      cases taken
      exact .connected accepting
    · cases taken
  case request id stream =>
    obtain ⟨c, here, taken⟩ := Option.bind_eq_some_iff.mp taken
    split at taken
    · rename_i idle
      cases taken
      exact .of_request here idle
    · cases taken
  case clientClose id =>
    obtain ⟨c, here, taken⟩ := Option.bind_eq_some_iff.mp taken
    exact .of_clientClose here taken
  case proceed id =>
    obtain ⟨c, here, taken⟩ := Option.bind_eq_some_iff.mp taken
    exact .of_proceed here taken
  case signal =>
    split at taken
    · rename_i accepting
      obtain ⟨⟨ok, shutdownRx⟩, -, same⟩ := Option.map_eq_some_iff.mp taken
      subst same
      exact .signalled accepting
    · cases taken
  case serverReturn =>
    split at taken
    · rename_i ready
      cases taken
      exact .returned ready.1 ready.2
    · cases taken
  case call op =>
    split at taken <;> cases taken
    rename_i here
    exact .called here
  case runner => exact .runner (.of_runnerStep taken)

/-! ## The invariant of the stop -/

/-- The signal reaches a server that the runner waits for, and a server that has returned has
no connection left. -/
structure Inv (s : State) : Prop where
  paired : s.controller.shutdownTx = s.controller.taskHandle
  owned : s.runner.beforeStop = true → s.phase ≠ .returned → s.controller.taskHandle = true
  pending : s.phase = .accepting → s.controller.shutdown.Pending s.shutdownRx
  raised : ∀ op, s.runner = .awaitServer op → s.controller.shutdown.borrow = true
  finished : s.phase = .returned → s.AllFinished
  stopped : s.runner.pastStop = true → s.phase = .returned

theorem Inv.init {started : Bool} : Inv (State.init started) where
  paired := rfl
  owned := by cases started <;> simp [State.init]
  pending := fun _ => .channel
  raised := by simp [State.init]
  finished := by simp [State.init, State.AllFinished]
  stopped := by simp [State.init, Runner.pastStop]

theorem Inv.past {runner : Runner} (inv : Inv s) (past : runner.pastStop = true)
    (returned : s.phase = .returned) : Inv { s with runner } where
  paired := inv.paired
  owned := fun _ up => absurd returned up
  pending := inv.pending
  raised := by
    intro op waiting
    dsimp only at waiting
    rw [waiting] at past
    cases past
  finished := inv.finished
  stopped := fun _ => returned

theorem Inv.runnerStep (inv : Inv s) (taken : RunnerStep s t) : Inv t := by
  cases taken with
  | dhcpStopped here =>
    have before : s.runner.beforeStop = true := by simp [here, Runner.beforeStop]
    exact ⟨inv.paired, fun _ => inv.owned before, inv.pending, by simp, inv.finished,
      by simp [Runner.pastStop]⟩
  | took here ok =>
    unfold ServiceController.beginStop at ok
    split at ok
    · rename_i handle
      rw [if_pos (inv.paired.trans handle)] at ok
      cases ok
      exact ⟨rfl, by simp [Runner.beforeStop], fun accepting => (inv.pending accepting).send.close,
        fun _ _ => rfl, inv.finished, by simp [Runner.pastStop]⟩
    · cases ok
  | notRunning here none =>
    refine inv.past rfl ?_
    by_contra up
    have handle := inv.owned (by simp [here, Runner.beforeStop]) up
    rw [none] at handle
    cases handle
  | joined here returned => exact inv.past rfl returned
  | acted here | completed here =>
    exact inv.past rfl (inv.stopped (by simp [here, Runner.pastStop]))

theorem Inv.step (inv : Inv s) (taken : Step s l t) : Inv t := by
  cases taken with
  | connected accepting =>
    refine ⟨inv.paired, inv.owned, inv.pending, inv.raised, ?_, inv.stopped⟩
    intro returned
    rw [accepting] at returned
    cases returned
  | @moved l id c activity _ _ _ here descends _ =>
    refine ⟨inv.paired, inv.owned, inv.pending, inv.raised, ?_, inv.stopped⟩
    intro returned
    have finished := inv.finished returned c (List.mem_of_getElem? here)
    rcases descends with accepting | less
    · cases accepting.symm.trans returned
    · rw [finished] at less
      exact absurd less (Nat.not_lt_zero _)
  | signalled accepting =>
    refine ⟨inv.paired, fun before _ => inv.owned before (by simp [accepting]), by simp,
      inv.raised, by simp, ?_⟩
    intro past
    have returned := inv.stopped past
    rw [accepting] at returned
    cases returned
  | returned draining finished =>
    exact ⟨inv.paired, by simp, by simp, inv.raised, fun _ => finished, fun _ => rfl⟩
  | called here =>
    have before : s.runner.beforeStop = true := by simp [here, Runner.beforeStop]
    exact ⟨inv.paired, fun _ => inv.owned before, inv.pending, by simp, inv.finished,
      by simp [Runner.pastStop]⟩
  | runner taken => exact inv.runnerStep taken

theorem Inv.trace {started : Bool} {ρ : Run.Trace State.step} (start : ρ.state 0 = .init started)
    (n : Nat) : Inv (ρ.state n) := by
  have keep : ∀ s l t, Inv s → s.step l = some t → Inv t :=
    fun _ _ _ inv taken => inv.step (.of_step taken)
  exact ρ.always keep (start ▸ .init) n (Nat.zero_le n)

end TrimRouter.Observability
