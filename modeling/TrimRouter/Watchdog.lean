import TrimRouter.Lib.Fifo
import TrimRouter.Net

/-!
# The watchdog

`init/watchdog.rs`: the services report over a bounded channel, and every few seconds the
monitor drains the channel, notes which services have reported and pets the hardware
watchdog if all expected ones are fresh.
-/

namespace TrimRouter

/-- `MonitoredService`. -/
inductive MonitoredService where
  | dnsForwarder
  | interfaceMonitor
  | dhcpClient
  | lanManager
deriving DecidableEq

/-- `MonitoredService::ALL`, the services that `init` expects. -/
def MonitoredService.all : List MonitoredService :=
  [.dnsForwarder, .interfaceMonitor, .dhcpClient, .lanManager]

namespace Watchdog

/-- `DEFAULT_WATCHDOG_INTERVAL_SECS`. -/
def defaultWatchdogInterval : Nat := fromSecs 5

/-- `DEFAULT_HEARTBEAT_TIMEOUT_SECS`. -/
def defaultHeartbeatTimeout : Nat := fromSecs 30

/-- `ServiceLivenessMap`: when each service was last seen. -/
abbrev ServiceLivenessMap := MonitoredService → Option Nat

/-- `drain_heartbeats`: a heartbeat counts from the instant at which it is taken out. -/
def drainHeartbeats (now : Nat) (heartbeats : List MonitoredService)
    (liveness : ServiceLivenessMap) : ServiceLivenessMap :=
  heartbeats.foldl (fun seen service => Function.update seen service (some now)) liveness

/-- `evaluate_health`. -/
def evaluateHealth (now : Nat) (expected : List MonitoredService)
    (liveness : ServiceLivenessMap) (timeout : Nat) : Bool :=
  expected.all fun service => (liveness service).any fun last => now - last ≤ timeout

/-- The interval of `start_watchdog_monitor`: five seconds, or half the timeout of the
driver where that is shorter and not zero. -/
def tickInterval (driverTimeout : Option Nat) : Nat :=
  match driverTimeout with
  | some hw =>
    if hw / 2 < defaultWatchdogInterval ∧ 0 < hw / 2 then hw / 2 else defaultWatchdogInterval
  | none => defaultWatchdogInterval

/-- The state of `start_watchdog_monitor` with its channel, of
`HEARTBEAT_CHANNEL_CAPACITY` heartbeats. -/
structure Monitor where
  channel : Fifo MonitoredService 64
  liveness : ServiceLivenessMap
  expected : List MonitoredService
  interval : Nat
  nextTick : Nat
  active : Bool

/-- What the monitor does with the device at a tick. -/
inductive Verdict where
  | petted
  | skipped
  | disarmed
deriving DecidableEq

/-- `start_watchdog_monitor` before its first tick, which is due at once. -/
def Monitor.start (now : Nat) (expected : List MonitoredService) (driverTimeout : Option Nat) :
    Monitor where
  channel := .empty
  liveness := fun service => if service ∈ expected then some now else none
  expected
  interval := tickInterval driverTimeout
  nextTick := now
  active := true

/-- `send_service_heartbeat`. -/
def Monitor.sendServiceHeartbeat (m : Monitor) (service : MonitoredService) : Monitor :=
  { m with channel := m.channel.tryPush service }

/-- When the services were last seen, for a tick at `now`. -/
def Monitor.seen (m : Monitor) (now : Nat) : ServiceLivenessMap :=
  drainHeartbeats now m.channel.items m.liveness

/-- The result of the health check of `services` in a tick at `now`. -/
def Monitor.healthOf (m : Monitor) (now : Nat) (services : List MonitoredService) : Bool :=
  evaluateHealth now services (m.seen now) defaultHeartbeatTimeout

/-- One round of the loop, with the value of the shutdown flag. -/
def Monitor.tick (m : Monitor) (now : Nat) (shutdown : Bool) : Monitor × Verdict :=
  if shutdown then ({ m with active := false }, .disarmed)
  else
    ({ m with channel := .empty, liveness := m.seen now, nextTick := m.nextTick + m.interval },
      if m.healthOf now m.expected then .petted else .skipped)

variable {now timeout : Nat} {heartbeats expected : List MonitoredService}
  {liveness : ServiceLivenessMap} {service : MonitoredService} {m : Monitor}

theorem drainHeartbeats_eq :
    drainHeartbeats now heartbeats liveness service =
      if service ∈ heartbeats then some now else liveness service := by
  induction heartbeats generalizing liveness with
  | nil => rfl
  | cons first rest ih =>
    have next : drainHeartbeats now (first :: rest) liveness service =
        if service ∈ rest then some now
        else Function.update liveness first (some now) service := ih
    rw [next, Function.update_apply]
    by_cases later : service ∈ rest
    · simp [later]
    · simp [later]

theorem evaluateHealth_iff :
    evaluateHealth now expected liveness timeout = true ↔
      ∀ service ∈ expected, ∃ last, liveness service = some last ∧ now - last ≤ timeout := by
  simp [evaluateHealth, Option.any_eq_true]

theorem evaluateHealth_of_fresh {last : Nat} (seen : liveness service = some last)
    (fresh : now - last ≤ timeout) :
    evaluateHealth now expected liveness timeout =
      evaluateHealth now (expected.filter (· ≠ service)) liveness timeout := by
  rw [Bool.eq_iff_iff, evaluateHealth_iff, evaluateHealth_iff]
  refine ⟨fun all other listed => all other (List.mem_filter.mp listed).1,
    fun others s listed => ?_⟩
  by_cases same : s = service
  · rw [same]
    exact ⟨last, seen, fresh⟩
  · exact others s (List.mem_filter.mpr ⟨listed, decide_eq_true same⟩)

theorem mem_sendServiceHeartbeat (room : service ∈ m.channel.items ∨ m.channel.items.length < 64) :
    service ∈ (m.sendServiceHeartbeat service).channel.items := by
  have items := Fifo.items_tryPush (q := m.channel) (a := service)
  unfold Monitor.sendServiceHeartbeat
  rw [items]
  split
  · simp
  · rename_i full
    exact room.resolve_right full

theorem mem_sendServiceHeartbeat_of_mem {other : MonitoredService}
    (held : service ∈ m.channel.items) :
    service ∈ (m.sendServiceHeartbeat other).channel.items := by
  have items := Fifo.items_tryPush (q := m.channel) (a := other)
  unfold Monitor.sendServiceHeartbeat
  rw [items]
  split
  · exact List.mem_append_left _ held
  · exact held

end Watchdog

end TrimRouter
