import TrimRouter.Lib.History
import TrimRouter.Lib.Run
import TrimRouter.Watchdog

/-!
# Dead and noisy services

`start_watchdog_monitor` with its senders on one clock: the services call `send_service_heartbeat`
whenever they like, and the ticks of the monitor may come late.  A heartbeat is stamped when the
channel is drained, not when it is sent, and a full channel drops it.  `keepalive_recent` and
`heard_in_time` are about the two directions.
-/

namespace TrimRouter.Watchdog

open History

/-- What happens at the channel and at the device, with its time. -/
inductive Event where
  | heartbeat (service : MonitoredService) (time : Nat)
  | tick (time : Nat)
  /-- `KEEPALIVE_BYTE` is written -/
  | keepalive (time : Nat)
deriving DecidableEq

/-- The monitor, its clock and the shutdown flag.  What has happened is for statements about
runs, never read by the code. -/
structure System where
  now : Nat
  shutdownFlag : Bool
  monitor : Monitor
  /-- when the monitor ticked last -/
  lastTick : Option Nat
  /-- the services that have called since then, in the order of their calls -/
  calls : List MonitoredService
  history : List Event

/-- One step. -/
inductive Label where
  | elapse (d : Nat)
  /-- a service calls `send_service_heartbeat` -/
  | heartbeat (service : MonitoredService)
  /-- a signal or a power button raises the shutdown flag -/
  | shutdown
  /-- a tick of the monitor, and whether its write to the device succeeds -/
  | tick (written : Bool)
deriving DecidableEq

namespace System

/-- The monitor starts; services that run already may have sent heartbeats. -/
def init (start : Nat) (expected : List MonitoredService) (driverTimeout : Option Nat)
    (queued : Fifo MonitoredService 64) : System where
  now := start
  shutdownFlag := false
  monitor := { Monitor.start start expected driverTimeout with channel := queued }
  lastTick := none
  calls := []
  history := []

/-- What a tick leaves in the history. -/
def tickEvents (now : Nat) (written : Bool) (verdict : Verdict) : List Event :=
  if written = true ∧ verdict = .petted then [.tick now, .keepalive now] else [.tick now]

/-- One step.  The first tick of an interval completes at once, so no time passes before it;
the others may be late. -/
def step (s : System) : Label → Option System
  | .elapse d => if s.lastTick = none then none else some { s with now := s.now + d }
  | .heartbeat service =>
    some { s with
      monitor := s.monitor.sendServiceHeartbeat service
      calls := s.calls ++ [service]
      history := s.history ++ [Event.heartbeat service s.now] }
  | .shutdown => some { s with shutdownFlag := true }
  | .tick written =>
    if s.monitor.active = true ∧ s.monitor.nextTick ≤ s.now then
      some { s with
        monitor := (s.monitor.tick s.now s.shutdownFlag).1
        lastTick := some s.now
        calls := []
        history := s.history ++
          tickEvents s.now written (s.monitor.tick s.now s.shutdownFlag).2 }
    else none

/-- A tick comes at most `d` after the one before it. -/
def Spaced (d : Nat) (s : System) : Label → Prop
  | .tick _ => ∀ last ∈ s.lastTick, s.now ≤ last + d
  | .elapse _ => True
  | .heartbeat _ => True
  | .shutdown => True

instance (d : Nat) (s : System) : ∀ l, Decidable (s.Spaced d l) := by
  intro l
  unfold Spaced
  split <;> infer_instance

/-- Between the last tick and this one, a call of the service is among the first ones, for which
the channel has room. -/
def Heard (service : MonitoredService) (s : System) : Label → Prop
  | .tick _ => s.lastTick = none ∨ service ∈ s.calls.take 64
  | .elapse _ => True
  | .heartbeat _ => True
  | .shutdown => True

instance (service : MonitoredService) (s : System) : ∀ l, Decidable (s.Heard service l) := by
  intro l
  unfold Heard
  split <;> infer_instance

/-- Between the last tick and this one, the service calls. -/
def Calls (service : MonitoredService) (s : System) : Label → Prop
  | .tick _ => s.lastTick = none ∨ service ∈ s.calls
  | .elapse _ => True
  | .heartbeat _ => True
  | .shutdown => True

instance (service : MonitoredService) (s : System) : ∀ l, Decidable (s.Calls service l) := by
  intro l
  unfold Calls
  split <;> infer_instance

end System

/-! ## Dead services -/

/-- The service has sent a heartbeat after a tick at the given time. -/
def SentAfter (history : List Event) (service : MonitoredService) (time : Nat) : Prop :=
  ∃ before after sent, history = before ++ .tick time :: after ∧
    .heartbeat service sent ∈ after ∧ time ≤ sent

/-- The stamp of a service comes from the start of the monitor, or from a heartbeat sent after a
tick that was at most `d` before it. -/
def Backed (start d : Nat) (history : List Event) (service : MonitoredService) (stamp : Nat) :
    Prop :=
  stamp ≤ start ∨ ∃ time, stamp ≤ time + d ∧ SentAfter history service time

/-- At a keepalive every expected service has a fresh stamp with such an origin. -/
def Proven (start d : Nat) (expected : List MonitoredService) (before : List Event)
    (event : Event) : Prop :=
  ∀ time, event = .keepalive time → ∀ service ∈ expected,
    ∃ stamp, Backed start d before service stamp ∧ time ≤ stamp + defaultHeartbeatTimeout

/-- What the stamps and the keepalives of the monitor rest on. -/
structure Tracked (start d : Nat) (expected : List MonitoredService) (s : System) : Prop where
  watched : s.monitor.expected = expected
  started : s.lastTick = none → s.now = start
  past : ∀ last ∈ s.lastTick, .tick last ∈ s.history ∧ last ≤ s.now
  queued : s.monitor.active = true → ∀ last ∈ s.lastTick, ∀ service ∈ s.monitor.channel.items,
    SentAfter s.history service last
  stamped : ∀ service, ∀ stamp ∈ s.monitor.liveness service,
    Backed start d s.history service stamp
  kept : Each (Proven start d expected) s.history

variable {start d : Nat} {expected : List MonitoredService} {driverTimeout : Option Nat}
  {queued : Fifo MonitoredService 64} {labels : List Label} {s t : System}
  {history new : List Event} {service other : MonitoredService} {time stamp : Nat} {written : Bool}

theorem SentAfter.append (sent : SentAfter history service time) :
    SentAfter (history ++ new) service time := by
  obtain ⟨before, after, at_, rfl, listed, late⟩ := sent
  refine ⟨before, after ++ new, at_, ?_, List.mem_append_left new listed, late⟩
  rw [List.append_assoc, List.cons_append]

theorem SentAfter.of_tick {sent : Nat} (ticked : .tick time ∈ history) (late : time ≤ sent) :
    SentAfter (history ++ [Event.heartbeat service sent]) service time := by
  obtain ⟨before, after, rfl⟩ := List.append_of_mem ticked
  refine ⟨before, after ++ [Event.heartbeat service sent], sent, ?_, ?_, late⟩
  · rw [List.append_assoc, List.cons_append]
  · exact List.mem_append_right after (List.mem_singleton.mpr rfl)

theorem Backed.append (backed : Backed start d history service stamp) :
    Backed start d (history ++ new) service stamp := by
  rcases backed with early | ⟨time, near, sent⟩
  · exact .inl early
  · exact .inr ⟨time, near, sent.append⟩

theorem Tracked.init : Tracked start d expected (.init start expected driverTimeout queued) where
  watched := rfl
  started := fun _ => rfl
  past := nofun
  queued := nofun
  stamped := by
    intro service stamp seeded
    obtain ⟨-, same⟩ := Option.ite_none_right_eq_some.mp seeded
    exact .inl (Option.some.inj same).ge
  kept := .nil

/-- The stamps after a drain: of this tick, for a heartbeat sent after the tick before it, or as
they were. -/
theorem Tracked.seen (tracked : Tracked start d expected s) (active : s.monitor.active = true)
    (spaced : ∀ last ∈ s.lastTick, s.now ≤ last + d)
    (seen : s.monitor.seen s.now service = some stamp) :
    Backed start d s.history service stamp := by
  unfold Monitor.seen at seen
  rw [drainHeartbeats_eq] at seen
  split at seen
  · rename_i listed
    cases seen
    cases ticked : s.lastTick with
    | none => exact .inl (tracked.started ticked).le
    | some last => exact .inr ⟨last, spaced last ticked, tracked.queued active last ticked _ listed⟩
  · exact tracked.stamped service stamp seen

theorem Tracked.proven (tracked : Tracked start d expected s) (active : s.monitor.active = true)
    (spaced : ∀ last ∈ s.lastTick, s.now ≤ last + d)
    (petted : (s.monitor.tick s.now s.shutdownFlag).2 = .petted) :
    Proven start d expected s.history (.keepalive s.now) := by
  intro time same service listed
  cases same
  unfold Monitor.tick at petted
  cases down : s.shutdownFlag with
  | true =>
    rw [down] at petted
    cases petted
  | false =>
    simp only [down, Bool.false_eq_true, if_false] at petted
    split at petted
    · rename_i healthy
      unfold Monitor.healthOf at healthy
      rw [evaluateHealth_iff, tracked.watched] at healthy
      obtain ⟨stamp, seen, fresh⟩ := healthy service listed
      exact ⟨stamp, tracked.seen active spaced seen, Nat.sub_le_iff_le_add'.mp fresh⟩
    · cases petted

theorem Proven.append {event : Event} (proven : Proven start d expected history event) :
    Proven start d expected (history ++ new) event := by
  intro time same service listed
  obtain ⟨stamp, backed, fresh⟩ := proven time same service listed
  exact ⟨stamp, backed.append, fresh⟩

theorem Tracked.kept_tick (tracked : Tracked start d expected s)
    (active : s.monitor.active = true) (spaced : ∀ last ∈ s.lastTick, s.now ≤ last + d) :
    Each (Proven start d expected) (s.history ++
      System.tickEvents s.now written (s.monitor.tick s.now s.shutdownFlag).2) := by
  have ticked : Each (Proven start d expected) (s.history ++ [Event.tick s.now]) := by
    refine tracked.kept.concat ?_
    intro time same
    cases same
  unfold System.tickEvents
  split
  · rename_i petted
    rw [List.append_cons]
    exact ticked.concat (tracked.proven active spaced petted.2).append
  · exact ticked

theorem Tracked.tick (tracked : Tracked start d expected s)
    (active : s.monitor.active = true) (spaced : ∀ last ∈ s.lastTick, s.now ≤ last + d) :
    Tracked start d expected { s with
      monitor := (s.monitor.tick s.now s.shutdownFlag).1
      lastTick := some s.now
      calls := []
      history := s.history ++
        System.tickEvents s.now written (s.monitor.tick s.now s.shutdownFlag).2 } := by
  have kept : Each (Proven start d expected) (s.history ++
      System.tickEvents s.now written (s.monitor.tick s.now s.shutdownFlag).2) :=
    tracked.kept_tick active spaced
  have listed : .tick s.now ∈ s.history ++
      System.tickEvents s.now written (s.monitor.tick s.now s.shutdownFlag).2 := by
    refine List.mem_append_right _ ?_
    unfold System.tickEvents
    split <;> exact List.mem_cons_self
  have past : ∀ last ∈ some s.now, .tick last ∈ s.history ++
      System.tickEvents s.now written (s.monitor.tick s.now s.shutdownFlag).2 ∧
      last ≤ s.now := by
    intro last same
    cases same
    exact ⟨listed, le_rfl⟩
  cases down : s.shutdownFlag with
  | true =>
    rw [down] at kept past
    refine ⟨tracked.watched, ?_, past, ?_, ?_, kept⟩
    · exact nofun
    · exact nofun
    · intro service stamp stamped
      exact (tracked.stamped service stamp stamped).append
  | false =>
    rw [down] at kept past
    refine ⟨tracked.watched, ?_, past, ?_, ?_, kept⟩
    · exact nofun
    · -- the drain has emptied the channel
      intro _ last _ service waiting
      cases waiting
    · intro service stamp stamped
      exact (tracked.seen active spaced stamped).append

theorem Tracked.keep :
    Run.Inductive System.step (System.Spaced d) (Tracked start d expected) := by
  intro s l t tracked spaced h
  cases l with
  | elapse e =>
    obtain ⟨ticked, h⟩ := Option.ite_none_left_eq_some.mp h
    cases h
    obtain ⟨watched, -, past, queued, stamped, kept⟩ := tracked
    refine ⟨watched, fun absent => absurd absent ticked, ?_, queued, stamped, kept⟩
    intro last same
    exact ⟨(past last same).1, Nat.le_add_right_of_le (past last same).2⟩
  | heartbeat service =>
    cases h
    refine ⟨tracked.watched, tracked.started, ?_, ?_, ?_, tracked.kept.concat ?_⟩
    · intro last ticked
      obtain ⟨listed, late⟩ := tracked.past last ticked
      exact ⟨List.mem_append_left _ listed, late⟩
    · intro active last ticked other waiting
      have items := Fifo.items_tryPush (q := s.monitor.channel) (a := service)
      have waiting : other ∈ (s.monitor.channel.tryPush service).items := waiting
      rw [items] at waiting
      have old : other ∈ s.monitor.channel.items →
          SentAfter (s.history ++ [Event.heartbeat service s.now]) other last :=
        fun before => (tracked.queued active last ticked other before).append
      split at waiting
      · rcases List.mem_append.mp waiting with before | new
        · exact old before
        · rw [List.mem_singleton.mp new]
          obtain ⟨listed, late⟩ := tracked.past last ticked
          exact .of_tick listed late
      · exact old waiting
    · intro other stamp stamped
      exact (tracked.stamped other stamp stamped).append
    · exact nofun
  | shutdown =>
    cases h
    exact ⟨tracked.watched, tracked.started, tracked.past, tracked.queued, tracked.stamped,
      tracked.kept⟩
  | tick written =>
    obtain ⟨⟨active, -⟩, h⟩ := Option.ite_none_right_eq_some.mp h
    cases h
    exact tracked.tick active spaced

/-- In every run whose ticks are at most `d` apart: when a keepalive is written, every expected
service has sent a heartbeat less than the freshness window and `d` before it, or exactly that
long before it, at the very instant of a tick and after it, or the monitor has started within the
window.  So no keepalive is written later than the window after the start of the monitor and `d`
after the last heartbeat of a service. -/
theorem keepalive_recent
    (spaced : Run.Meets System.step (System.Spaced d)
      (.init start expected driverTimeout queued) labels)
    (run : Run.exec System.step (.init start expected driverTimeout queued) labels = some s) :
    (∀ before time after, s.history = before ++ .keepalive time :: after →
      ∀ service ∈ expected,
        (∃ sent, .heartbeat service sent ∈ before ∧ time < sent + defaultHeartbeatTimeout + d) ∨
        (∃ earlier later sent, before = earlier ++ .tick sent :: later ∧
          .heartbeat service sent ∈ later ∧ time = sent + defaultHeartbeatTimeout + d) ∨
        time ≤ start + defaultHeartbeatTimeout) ∧
    (∀ service ∈ expected, ∀ stop, (∀ sent, .heartbeat service sent ∈ s.history → sent ≤ stop) →
      ∀ time, .keepalive time ∈ s.history →
        time ≤ max (stop + d) start + defaultHeartbeatTimeout) := by
  have tracked := Tracked.keep.exec Tracked.init spaced run
  constructor
  · intro before time after split service listed
    obtain ⟨stamp, backed, fresh⟩ := tracked.kept before _ after split time rfl service listed
    rcases backed with early | ⟨tickTime, near, earlier, later, sent, rfl, heard, late⟩
    · exact .inr (.inr (by omega))
    · by_cases strict : time < sent + defaultHeartbeatTimeout + d
      · exact .inl ⟨sent, List.mem_append_right _ (List.mem_cons_of_mem _ heard), strict⟩
      · -- the bounds leave no slack, so the heartbeat falls on the tick
        have onTick : sent = tickTime := by omega
        subst onTick
        exact .inr (.inl ⟨earlier, later, sent, rfl, heard, by omega⟩)
  · intro service listed stop stopped time written
    obtain ⟨before, after, split⟩ := List.append_of_mem written
    obtain ⟨stamp, backed, fresh⟩ := tracked.kept before _ after split time rfl service listed
    rcases backed with early | ⟨tickTime, near, earlier, later, sent, rfl, heard, late⟩
    · exact fresh.trans (Nat.add_le_add_right (early.trans (le_max_right _ _)) _)
    · have inHistory : .heartbeat service sent ∈ s.history := by
        rw [split]
        exact List.mem_append_left _ (List.mem_append_right _ (List.mem_cons_of_mem _ heard))
      have stopBound := stopped sent inHistory
      have : stop + d ≤ max (stop + d) start := le_max_left _ _
      omega

/-- All services report once at the time of the first tick, right after it, and never again; the
ticks come every five seconds. -/
def silentRun : List Label :=
  Label.tick true :: MonitoredService.all.map Label.heartbeat ++
    (List.replicate 7 [Label.elapse (fromSecs 5), .tick true]).flatten

/-- The monitor of all services at its start. -/
def System.fresh : System := .init 0 MonitoredService.all none .empty

theorem exec_silentRun :
    Run.Meets System.step (System.Spaced (fromSecs 5)) .fresh silentRun ∧
    ∃ s, Run.exec System.step .fresh silentRun = some s ∧ .keepalive (fromSecs 35) ∈ s.history ∧
      ∀ service sent, .heartbeat service sent ∈ s.history → sent = 0 := by
  obtain ⟨s, run, kept, silent⟩ : ∃ s, Run.exec System.step .fresh silentRun = some s ∧
      .keepalive (fromSecs 35) ∈ s.history ∧ s.history.all (fun event =>
        match event with
        | .heartbeat _ sent => sent == 0
        | .tick _ => true
        | .keepalive _ => true) = true := by
    decide +kernel
  refine ⟨by decide +kernel, s, run, kept, ?_⟩
  intro service sent listed
  exact beq_iff_eq.mp (List.all_eq_true.mp silent _ listed)

theorem keepalive_recent_silent :
    Run.Meets System.step (System.Spaced (fromSecs 5)) .fresh silentRun ∧
    ∃ s, Run.exec System.step .fresh silentRun = some s ∧
      ∀ time, .keepalive time ∈ s.history →
        time ≤ max (0 + fromSecs 5) 0 + defaultHeartbeatTimeout := by
  obtain ⟨spaced, s, run, -, silent⟩ := exec_silentRun
  refine ⟨spaced, s, run, (keepalive_recent spaced run).2 .dnsForwarder (by decide) 0 ?_⟩
  intro sent listed
  exact (silent _ sent listed).le

/-- In that run a keepalive is written 35 seconds after the heartbeats, none of which is less than
35 seconds old.  And a keepalive is written at the start of a monitor, however long before it the
heartbeats in the channel were sent. -/
theorem keepalive_after_silence :
    (∃ s, Run.exec System.step .fresh silentRun = some s ∧
      Run.Meets System.step (System.Spaced (fromSecs 5)) .fresh silentRun ∧
      .keepalive (fromSecs 35) ∈ s.history ∧
      ¬ fromSecs 35 ≤ 0 + defaultHeartbeatTimeout ∧
      ∀ service sent, .heartbeat service sent ∈ s.history →
        ¬ fromSecs 35 < sent + defaultHeartbeatTimeout + fromSecs 5) ∧
    ∃ s, Run.exec System.step
        (.init (fromSecs 100) MonitoredService.all none ⟨MonitoredService.all, by decide⟩)
        [.tick true] = some s ∧
      s.history = [.tick (fromSecs 100), .keepalive (fromSecs 100)] ∧
      ¬ fromSecs 100 ≤ 0 + defaultHeartbeatTimeout + fromSecs 5 := by
  constructor
  · obtain ⟨spaced, s, run, kept, silent⟩ := exec_silentRun
    refine ⟨s, run, spaced, kept, by decide, ?_⟩
    intro service sent listed
    rw [silent service sent listed]
    decide
  · decide +kernel

/-! ## Noisy services -/

/-- Before the first tick an expected service counts as seen at the start; after it the channel
holds the first calls since the last tick. -/
structure Mirrored (start : Nat) (service : MonitoredService) (s : System) : Prop where
  seeded : s.lastTick = none → s.now = start ∧ s.monitor.liveness service = some start
  channel : s.monitor.active = true → s.lastTick ≠ none →
    s.monitor.channel.items = s.calls.take 64

theorem Mirrored.init (listed : service ∈ expected) :
    Mirrored start service (.init start expected driverTimeout queued) where
  seeded := fun _ => ⟨rfl, if_pos listed⟩
  channel := fun _ ticked => absurd rfl ticked

theorem Mirrored.keep : Run.Inductive System.step (fun _ _ => True) (Mirrored start service) := by
  intro s l t mirrored _ h
  cases l with
  | elapse d =>
    obtain ⟨ticked, h⟩ := Option.ite_none_left_eq_some.mp h
    cases h
    exact ⟨fun absent => absurd absent ticked, mirrored.channel⟩
  | heartbeat other =>
    cases h
    refine ⟨mirrored.seeded, ?_⟩
    intro active ticked
    have items : (s.monitor.channel.tryPush other).items =
        (s.monitor.channel.items ++ [other]).take 64 := by
      have queued : ([other].foldl Fifo.tryPush s.monitor.channel).items =
          (s.monitor.channel.items ++ [other]).take 64 := Fifo.items_foldl_tryPush
      exact queued
    refine items.trans ?_
    rw [mirrored.channel active ticked, List.take_append,
      List.take_append, List.take_take, Nat.min_self, List.length_take]
    congr 1
    -- once 64 calls are there, a further one is not among the first 64
    rcases Nat.le_total s.calls.length 64 with room | full
    · rw [Nat.min_eq_right room]
    · rw [Nat.min_eq_left full, Nat.sub_eq_zero_of_le full]
  | shutdown =>
    cases h
    exact ⟨mirrored.seeded, mirrored.channel⟩
  | tick written =>
    obtain ⟨⟨active, -⟩, h⟩ := Option.ite_none_right_eq_some.mp h
    cases h
    refine ⟨?_, ?_⟩
    · exact nofun
    · intro still _
      cases down : s.shutdownFlag with
      | true =>
        rw [down] at still
        cases still
      | false => rfl

theorem healthOf_of_seen {m : Monitor} {now : Nat}
    (seen : service ∈ m.channel.items ∨ m.liveness service = some now) :
    m.healthOf now [service] = true := by
  unfold Monitor.healthOf
  rw [evaluateHealth_iff]
  intro other listed
  cases List.mem_singleton.mp listed
  refine ⟨now, ?_, (Nat.sub_self now).trans_le (Nat.zero_le _)⟩
  unfold Monitor.seen
  rw [drainHeartbeats_eq]
  split
  · rfl
  · rename_i absent
    exact seen.resolve_left absent

/-- In every run in which a call of the service between two ticks is always among the first 64
calls of all services since the tick: the service passes the health check at every tick. -/
theorem heard_in_time
    (heard : Run.Meets System.step (System.Heard service)
      (.init start MonitoredService.all driverTimeout queued) (labels ++ [.tick written]))
    (run : Run.exec System.step (.init start MonitoredService.all driverTimeout queued) labels =
      some s)
    (ticks : s.step (.tick written) = some t) :
    s.monitor.healthOf s.now [service] = true := by
  have listed : service ∈ MonitoredService.all := by
    cases service <;> decide
  have mirrored := Mirrored.keep.exec (.init listed) (.of_forall fun _ _ => trivial) run
  obtain ⟨⟨active, -⟩, -⟩ := Option.ite_none_right_eq_some.mp ticks
  refine healthOf_of_seen ?_
  cases ticked : s.lastTick with
  | none =>
    obtain ⟨now, seeded⟩ := mirrored.seeded ticked
    exact .inr (seeded.trans (congrArg some now.symm))
  | some last =>
    have again : s.lastTick ≠ none := by
      rw [ticked]
      exact Option.some_ne_none last
    rw [mirrored.channel active again]
    exact .inl ((Run.Meets.rest heard run).1.resolve_left again)

/-- The calls of a noisy service, a call of the DNS forwarder, and the next tick five seconds
later. -/
def noisyRound (calls : Nat) : List Label :=
  List.replicate calls (Label.heartbeat .dhcpClient) ++
    [Label.heartbeat .dnsForwarder, .elapse (fromSecs 5)]

theorem heard_in_time_after_63 :
    Run.Meets System.step (System.Heard .dnsForwarder) .fresh
      (.tick true :: noisyRound 63 ++ [.tick true]) ∧
    ∃ s t, Run.exec System.step .fresh
        (.tick true :: noisyRound 63) = some s ∧
      s.step (.tick true) = some t ∧ s.monitor.healthOf s.now [.dnsForwarder] = true := by
  have heard : Run.Meets System.step (System.Heard .dnsForwarder) .fresh
      (.tick true :: noisyRound 63 ++ [.tick true]) := by
    decide +kernel
  obtain ⟨s, run, enabled⟩ : ∃ s, Run.exec System.step .fresh
      (.tick true :: noisyRound 63) = some s ∧ (s.step (.tick true)).isSome := by
    decide +kernel
  obtain ⟨t, ticks⟩ := Option.isSome_iff_exists.mp enabled
  exact ⟨heard, s, t, run, ticks, heard_in_time heard run ticks⟩

/-- Seven rounds in which 64 calls of the DHCP client come first: the DNS forwarder calls between
every two ticks, and it fails the check of the last tick. -/
def drownedRun : List Label :=
  (List.replicate 7 (.tick true :: noisyRound 64)).flatten

theorem drowned_out :
    Run.Meets System.step (System.Calls .dnsForwarder) .fresh
      (drownedRun ++ [.tick true]) ∧
    ∃ s t, Run.exec System.step .fresh drownedRun = some s ∧
      s.step (.tick true) = some t ∧ s.monitor.healthOf s.now [.dnsForwarder] = false := by
  have calls : Run.Meets System.step (System.Calls .dnsForwarder) .fresh
      (drownedRun ++ [.tick true]) := by
    decide +kernel
  obtain ⟨s, run, enabled, silent⟩ : ∃ s, Run.exec System.step .fresh drownedRun = some s ∧
      (s.step (.tick true)).isSome ∧ s.monitor.healthOf s.now [.dnsForwarder] = false := by
    decide +kernel
  obtain ⟨t, ticks⟩ := Option.isSome_iff_exists.mp enabled
  exact ⟨calls, s, t, run, ticks, silent⟩

end TrimRouter.Watchdog
