import TrimRouter.Lib.History
import TrimRouter.Lib.Run
import TrimRouter.Watchdog

/-!
# Shutdown and the watchdog

`init/power.rs` and the end of `start_watchdog_monitor` of `init/watchdog.rs`: the signal handler,
the power buttons and the watchdog monitor run side by side on one clock and share the shutdown
flag.  The monitor looks at the flag only at its ticks, and it alone writes the magic close byte;
the signal handler gives it half a second, a power button no time at all.  A task whose timer is due
runs at once.  `disarmed_before_poweroff` says when that is enough.
-/

namespace TrimRouter.Power

open Watchdog History

/-- `SIGNAL_SHUTDOWN_GRACE_PERIOD`. -/
def signalShutdownGracePeriod : Nat := fromMillis 500

/-- `RebootMode`, as far as it is used. -/
inductive RebootMode where
  | powerOff
  | autoboot
deriving DecidableEq

/-- What reaches the watchdog device and the kernel. -/
inductive Effect where
  /-- `KEEPALIVE_BYTE` is written -/
  | keepalive
  /-- `MAGIC_CLOSE_BYTE` is written -/
  | magicClose
  | reboot (mode : RebootMode)
deriving DecidableEq

/-- Where `start_signal_monitor` is. -/
inductive SignalPc where
  | waiting
  /-- in the sleep of the grace period -/
  | grace (since : Nat)
  | finished
deriving DecidableEq

/-- The clock, the flag, the tasks, and what they have done. -/
structure Machine where
  now : Nat
  shutdownFlag : Bool
  watchdog : Monitor
  signal : SignalPc
  /-- the machine is off or starts anew -/
  off : Bool
  effects : List Effect

/-- The results of the two calls of `reboot` in `execute_clean_poweroff`. -/
structure RebootResults where
  powerOff : Bool
  autoboot : Bool
deriving DecidableEq

/-- One step. -/
inductive Label where
  /-- time passes, up to the next timer -/
  | elapse (d : Nat)
  | heartbeat (service : MonitoredService)
  /-- a tick of the watchdog monitor, and whether its write to the device succeeds -/
  | tick (written : Bool)
  /-- SIGINT, SIGTERM or SIGPWR -/
  | signal
  /-- the grace period is over -/
  | graceOver (results : RebootResults)
  /-- a power button is pressed -/
  | press (results : RebootResults)
deriving DecidableEq

/-- What a tick writes to the device, if the write succeeds. -/
def tickEffects : Verdict → List Effect
  | .petted => [.keepalive]
  | .skipped => []
  | .disarmed => [.magicClose]

namespace Machine

/-- The watchdog device is armed and its monitor starts. -/
def init (now : Nat) (driverTimeout : Option Nat) : Machine :=
  ⟨now, false, .start now MonitoredService.all driverTimeout, .waiting, false, []⟩

/-- `execute_clean_poweroff`. -/
def executeCleanPoweroff (s : Machine) (results : RebootResults) : Machine :=
  if results.powerOff then { s with effects := s.effects ++ [Effect.reboot .powerOff], off := true }
  else
    { s with
      effects := s.effects ++ [Effect.reboot .powerOff] ++ [Effect.reboot .autoboot],
      off := results.autoboot }

/-- No timer is due before the given time has passed. -/
def Idle (s : Machine) (d : Nat) : Prop :=
  (s.watchdog.active = true → s.now + d ≤ s.watchdog.nextTick) ∧
    match s.signal with
    | .grace since => s.now + d ≤ since + signalShutdownGracePeriod
    | .waiting => True
    | .finished => True

instance (s : Machine) (d : Nat) : Decidable (s.Idle d) := by
  unfold Idle
  cases s.signal <;> infer_instance

/-- One step of a machine that is on. -/
def act (s : Machine) : Label → Option Machine
  | .elapse d => if s.Idle d then some { s with now := s.now + d } else none
  | .heartbeat service => some { s with watchdog := s.watchdog.sendServiceHeartbeat service }
  | .tick written =>
    if s.watchdog.active = true ∧ s.watchdog.nextTick ≤ s.now then
      some { s with
        watchdog := (s.watchdog.tick s.now s.shutdownFlag).1
        effects := s.effects ++
          if written then tickEffects (s.watchdog.tick s.now s.shutdownFlag).2 else [] }
    else none
  | .signal =>
    if s.signal = .waiting then
      some { s with shutdownFlag := true, signal := .grace s.now }
    else none
  | .graceOver results =>
    match s.signal with
    | .grace since =>
      if since + signalShutdownGracePeriod ≤ s.now then
        some (({ s with signal := .finished } : Machine).executeCleanPoweroff results)
      else none
    | .waiting => none
    | .finished => none
  | .press results =>
    some (({ s with shutdownFlag := true } : Machine).executeCleanPoweroff results)

/-- One step. -/
def step (s : Machine) (l : Label) : Option Machine :=
  if s.off then none else s.act l

/-- The magic close byte has been written. -/
def Disarmed (s : Machine) : Prop := .magicClose ∈ s.effects
deriving Decidable

/-- A signal comes less than the grace period before the next tick, a power button is pressed
only once the watchdog is disarmed, and the write that disarms it succeeds. -/
def Timely (s : Machine) : Label → Prop
  | .signal => s.Disarmed ∨ s.watchdog.nextTick < s.now + signalShutdownGracePeriod
  | .press _ => s.Disarmed
  | .tick written => s.shutdownFlag = true → written = true
  | .elapse _ => True
  | .heartbeat _ => True
  | .graceOver _ => True

instance (s : Machine) : ∀ l, Decidable (s.Timely l) := by
  intro l
  unfold Timely
  split <;> infer_instance

end Machine

/-- The watchdog is disarmed before the machine is powered off. -/
def DisarmedFirst (before : List Effect) (effect : Effect) : Prop :=
  effect = .reboot .powerOff → .magicClose ∈ before

/-- The ticks are on time, and while the flag is up and the watchdog is armed, a tick comes
before the end of the grace period. -/
structure Coordinated (s : Machine) : Prop where
  running : s.Disarmed ∨ s.watchdog.active = true
  onTime : s.watchdog.active = true → s.now ≤ s.watchdog.nextTick
  regular : 0 < s.watchdog.interval
  soon : s.shutdownFlag = true → s.Disarmed ∨ ∃ since, s.signal = .grace since ∧
    s.watchdog.nextTick < since + signalShutdownGracePeriod
  /-- the grace period is one of a raised flag -/
  raised : ∀ since, s.signal = .grace since → s.shutdownFlag = true
  ordered : Each DisarmedFirst s.effects

variable {s t : Machine} {results : RebootResults}

theorem tickInterval_pos {driverTimeout : Option Nat} : 0 < tickInterval driverTimeout := by
  unfold tickInterval
  split
  · split
    · rename_i clamped
      exact clamped.2
    · decide
  · decide

theorem Coordinated.init {now : Nat} {driverTimeout : Option Nat} :
    Coordinated (.init now driverTimeout) where
  running := .inr rfl
  onTime := fun _ => le_rfl
  regular := tickInterval_pos
  soon := nofun
  raised := nofun
  ordered := .nil

theorem Coordinated.poweroff (coordinated : Coordinated s) (disarmed : s.Disarmed) :
    Coordinated (s.executeCleanPoweroff results) := by
  obtain ⟨-, onTime, regular, -, raised, ordered⟩ := coordinated
  have powered : Each DisarmedFirst (s.effects ++ [Effect.reboot .powerOff]) :=
    ordered.concat fun _ => disarmed
  unfold Machine.executeCleanPoweroff
  split
  · have still : Effect.magicClose ∈ s.effects ++ [Effect.reboot .powerOff] :=
      List.mem_append_left _ disarmed
    exact ⟨.inl still, onTime, regular, fun _ => .inl still, raised, powered⟩
  · have still : Effect.magicClose ∈
        s.effects ++ [Effect.reboot .powerOff] ++ [Effect.reboot .autoboot] :=
      List.mem_append_left _ (List.mem_append_left _ disarmed)
    refine ⟨.inl still, onTime, regular, fun _ => .inl still, raised, powered.concat ?_⟩
    intro same
    cases same

theorem Coordinated.disarmed_of_grace (coordinated : Coordinated s) {since : Nat}
    (grace : s.signal = .grace since) (elapsed : since + signalShutdownGracePeriod ≤ s.now) :
    s.Disarmed := by
  rcases coordinated.soon (coordinated.raised since grace) with disarmed | ⟨since', grace', tick⟩
  · exact disarmed
  · cases grace.symm.trans grace'
    rcases coordinated.running with disarmed | active
    · exact disarmed
    · have := coordinated.onTime active
      omega

theorem Coordinated.tick {written : Bool} (coordinated : Coordinated s)
    (timely : s.shutdownFlag = true → written = true) (active : s.watchdog.active = true) :
    Coordinated { s with
      watchdog := (s.watchdog.tick s.now s.shutdownFlag).1
      effects := s.effects ++
        if written then tickEffects (s.watchdog.tick s.now s.shutdownFlag).2 else [] } := by
  obtain ⟨running, onTime, regular, soon, raised, ordered⟩ := coordinated
  cases flag : s.shutdownFlag with
  | true =>
    rw [timely flag, if_pos rfl]
    have close : Effect.magicClose ∈ s.effects ++ [Effect.magicClose] := by simp
    refine ⟨.inl close, ?_, regular, fun _ => .inl close, ?_, ordered.concat ?_⟩
    · exact nofun
    · intro since grace
      rfl
    · exact nofun
  | false =>
    have keeps : ∀ effect ∈ (if written then
        tickEffects (s.watchdog.tick s.now false).2 else []), effect = .keepalive := by
      intro effect listed
      unfold Monitor.tick at listed
      cases written with
      | false => cases listed
      | true =>
        cases healthy : s.watchdog.healthOf s.now s.watchdog.expected with
        | true => simpa [healthy, tickEffects] using listed
        | false => simp [healthy, tickEffects] at listed
    refine ⟨.inr active, ?_, regular, ?_, ?_, ordered.append_free ?_⟩
    · intro _
      exact Nat.le_add_right_of_le (onTime active)
    · exact nofun
    · intro since grace
      exact flag.symm.trans (raised since grace)
    · intro effect listed before same
      cases (keeps effect listed).symm.trans same

theorem Coordinated.keep : Run.Inductive Machine.step Machine.Timely Coordinated := by
  intro s l t coordinated timely h
  obtain ⟨-, h⟩ := Option.ite_none_left_eq_some.mp h
  cases l with
  | elapse d =>
    obtain ⟨idle, h⟩ := Option.ite_none_right_eq_some.mp h
    cases h
    obtain ⟨running, -, regular, soon, raised, ordered⟩ := coordinated
    exact ⟨running, idle.1, regular, soon, raised, ordered⟩
  | heartbeat service =>
    cases h
    obtain ⟨running, onTime, regular, soon, raised, ordered⟩ := coordinated
    exact ⟨running, onTime, regular, soon, raised, ordered⟩
  | tick written =>
    obtain ⟨⟨active, -⟩, h⟩ := Option.ite_none_right_eq_some.mp h
    cases h
    exact coordinated.tick timely active
  | signal =>
    obtain ⟨-, h⟩ := Option.ite_none_right_eq_some.mp h
    cases h
    obtain ⟨running, onTime, regular, -, -, ordered⟩ := coordinated
    refine ⟨running, onTime, regular, ?_, fun _ _ => rfl, ordered⟩
    intro _
    rcases timely with disarmed | near
    · exact .inl disarmed
    · exact .inr ⟨s.now, rfl, near⟩
  | graceOver results =>
    simp only [Machine.act] at h
    split at h
    · rename_i since grace
      obtain ⟨elapsed, h⟩ := Option.ite_none_right_eq_some.mp h
      cases h
      have disarmed := coordinated.disarmed_of_grace grace elapsed
      obtain ⟨running, onTime, regular, -, -, ordered⟩ := coordinated
      refine Coordinated.poweroff ⟨running, onTime, regular, fun _ => .inl disarmed, ?_, ordered⟩
        disarmed
      intro since' grace'
      cases grace'
    · cases h
    · cases h
  | press results =>
    cases h
    obtain ⟨running, onTime, regular, -, -, ordered⟩ := coordinated
    exact Coordinated.poweroff
      ⟨running, onTime, regular, fun _ => .inl timely, fun _ _ => rfl, ordered⟩ timely

/-- In every run in which a tick falls into the grace period of the signal, the power buttons are
pressed only once the watchdog is disarmed and the write that disarms it succeeds: the magic
close byte is written before every poweroff. -/
theorem disarmed_before_poweroff {start : Nat} {driverTimeout : Option Nat} {labels : List Label}
    (timely : Run.Meets Machine.step Machine.Timely (.init start driverTimeout) labels)
    (run : Run.exec Machine.step (.init start driverTimeout) labels = some s) :
    ∀ before after, s.effects = before ++ .reboot .powerOff :: after → .magicClose ∈ before := by
  intro before after split
  exact (Coordinated.keep.exec .init timely run).ordered before _ after split rfl

/-- A signal 400 ms before the second tick: the poweroff comes 100 ms after the tick. -/
def timelyRun : List Label :=
  [.tick true, .elapse (fromMillis 4600), .signal, .elapse (fromMillis 400), .tick true,
    .elapse (fromMillis 100), .graceOver ⟨true, true⟩]

theorem disarmed_before_timely_poweroff :
    Run.Meets Machine.step Machine.Timely (.init 0 none) timelyRun ∧
      ∃ s, Run.exec Machine.step (.init 0 none) timelyRun = some s ∧
        s.effects = [.keepalive, .magicClose] ++ .reboot .powerOff :: [] ∧
        ∀ before after, s.effects = before ++ .reboot .powerOff :: after →
          .magicClose ∈ before := by
  have timely : Run.Meets Machine.step Machine.Timely (.init 0 none) timelyRun := by
    decide +kernel
  obtain ⟨s, run, effects⟩ : ∃ s, Run.exec Machine.step (.init 0 none) timelyRun = some s ∧
      s.effects = [.keepalive, .magicClose] ++ .reboot .powerOff :: [] := by
    decide +kernel
  exact ⟨timely, s, run, effects, disarmed_before_poweroff timely run⟩

/-- A signal one second after a tick: the next tick is four seconds away, and the machine is
powered off after half a second with the watchdog armed. -/
theorem armed_at_poweroff :
    ∃ s, Run.exec Machine.step (.init 0 none)
        [.tick true, .elapse (fromSecs 1), .signal, .elapse (fromMillis 500),
          .graceOver ⟨true, true⟩] = some s ∧
      s.effects = [.keepalive, .reboot .powerOff] ∧ s.watchdog.active = true ∧ s.off = true := by
  decide +kernel

end TrimRouter.Power
