import Mathlib.Data.List.Chain
import TrimRouter.DhcpClient.Steps
import TrimRouter.Lib.Run
import TrimRouter.Watchdog

/-!
# How often the DHCP client reports

The client worker, its parent's relay of every message as a heartbeat
(`handle_client_ipc_msg` of `services/dhcp_client/manager.rs`) and the watchdog run side by
side on one clock.  The parent handles a message at once.

Most waits of the worker end within the freshness window of the watchdog whatever the server does:
they are started with a message to the parent and have a limit of at most thirty seconds.  The
exceptions (`Pc.isLong`) are the fourth and later attempts of the DISCOVER and REQUEST phases, with
back-offs of 32 and 64 seconds, and the renewal and rebinding waits that begin more than a minute
before the end of their phase.  `heartbeats_within_window` is about servers that answer the long
waits in time, and `silent_server_fails_health` about one that never answers.
-/

namespace TrimRouter.DhcpClient

open Watchdog

/-! ## The waits -/

/-- The seconds left of the renewal or rebinding phase at `now`. -/
def remainingSecs (ack : DhcpAck) (boundAt now : Nat) : Nat :=
  let lease := ack.leaseSecs.toNat
  let elapsed := elapsedSecs boundAt now
  if t2Secs lease ≤ elapsed then lease - elapsed else t2Secs lease - elapsed

/-- A wait that can outlast the freshness window. -/
def Pc.isLong : Pc → Bool
  | .discovering _ retryDelaySecs _ => 16 < retryDelaySecs
  | .requesting _ _ retryDelaySecs _ => 16 < retryDelaySecs
  | .renewing ack boundAt _ _ wait => 60 < remainingSecs ack boundAt wait.start
  | _ => false

/-- The outcome reports to the parent and begins a new wait, limited unless it is long. -/
structure Outcome.Reports (now : Nat) (outcome : Outcome) : Prop where
  sends : outcome.2 ≠ []
  waits : ∃ timeout, outcome.1.wait = some ⟨now, timeout⟩ ∧
    (outcome.1.isLong = false → timeout ≤ defaultHeartbeatTimeout)
  fails : ∀ wait, outcome.1 = .failed wait → wait.timeout = fromSecs socketRestartDelaySecs

variable {mac : MacAddr} {now boundAt retryDelaySecs : Nat} {jitter : Fin (fromSecs 2 + 1)}
  {xid : BitVec 32} {offer : DhcpOffer} {ack : DhcpAck} {renewSent : Option Nat}
  {draw : Draw} {payload : Option Message} {outcome : Outcome} {pc : Pc}

theorem getJitteredDuration_le (short : ¬16 < retryDelaySecs) :
    getJitteredDuration retryDelaySecs jitter ≤ defaultHeartbeatTimeout := by
  have drawn := jitter.isLt
  unfold getJitteredDuration defaultHeartbeatTimeout fromSecs at *
  omega

theorem retryInterval_le {remaining : Nat} (short : remaining ≤ 60) :
    fromSecs (retryInterval remaining) ≤ defaultHeartbeatTimeout := by
  unfold retryInterval defaultHeartbeatTimeout fromSecs
  rw [if_neg (by omega)]
  omega

theorem calculateRenewalParams_fst :
    (calculateRenewalParams (elapsedSecs boundAt now) (t2Secs ack.leaseSecs.toNat)
      ack.leaseSecs.toNat ack.serverIp).1 = retryInterval (remainingSecs ack boundAt now) := by
  by_cases rebinding : t2Secs ack.leaseSecs.toNat ≤ elapsedSecs boundAt now
  · simp [calculateRenewalParams, remainingSecs, rebinding]
  · simp [calculateRenewalParams, remainingSecs, rebinding]

theorem Outcome.Reports.sendingFirst {msgs : List ToParentMsg} (reports : outcome.Reports now) :
    (outcome.sendingFirst msgs).Reports now :=
  ⟨fun nothing => reports.sends (List.append_eq_nil_iff.mp nothing).2, reports.waits,
    reports.fails⟩

theorem discoverAttempt_reports : (discoverAttempt xid retryDelaySecs now jitter).Reports now :=
  ⟨List.cons_ne_nil _ _, ⟨_, rfl, fun short => getJitteredDuration_le (of_decide_eq_false short)⟩,
    nofun⟩

theorem requestAttempt_reports :
    (requestAttempt xid offer retryDelaySecs now jitter).Reports now :=
  ⟨List.cons_ne_nil _ _, ⟨_, rfl, fun short => getJitteredDuration_le (of_decide_eq_false short)⟩,
    nofun⟩

theorem handlePhaseFailure_reports : (handlePhaseFailure now).Reports now :=
  ⟨List.cons_ne_nil _ _, ⟨_, rfl, fun _ => by decide⟩, fun _ failed => by cases failed; rfl⟩

theorem leaseLost_reports : (leaseLost now).Reports now :=
  handlePhaseFailure_reports.sendingFirst

theorem renewIteration_reports :
    (renewIteration ack boundAt xid renewSent now).Reports now := by
  unfold renewIteration
  by_cases expired : ack.leaseSecs.toNat ≤ elapsedSecs boundAt now
  · rw [if_pos expired]
    exact leaseLost_reports.sendingFirst
  · rw [if_neg expired]
    refine ⟨List.cons_ne_nil _ _, ⟨_, rfl, fun short => ?_⟩, nofun⟩
    have notLong : ¬60 < remainingSecs ack boundAt now := of_decide_eq_false short
    rw [calculateRenewalParams_fst]
    exact retryInterval_le (by omega)

theorem boundLoop_reports : (boundLoop ack boundAt xid now).Reports now := by
  unfold boundLoop
  dsimp only
  by_cases expired : ack.leaseSecs.toNat ≤ elapsedSecs boundAt now
  · rw [if_pos expired]
    exact leaseLost_reports
  · rw [if_neg expired]
    split
    · refine ⟨List.cons_ne_nil _ _, ⟨_, rfl, fun _ => ?_⟩, nofun⟩
      unfold defaultHeartbeatTimeout fromSecs boundHeartbeatIntervalSecs
      omega
    · exact renewIteration_reports

theorem boundPhase_reports : (boundPhase ack xid now).Reports now :=
  boundLoop_reports.sendingFirst

/-- How a wait ends: with a report, not at all (the frame is passed over), in the sleep of
`handle_phase_failure`, or with the end of the worker. -/
inductive Ends (now : Nat) (pc : Pc) (outcome : Outcome) : Prop where
  | reports (reports : outcome.Reports now)
  | keeps (same : outcome = (pc, []))
  | rests (wait : Wait) (was : pc = .failed wait)
      (rest : outcome = (.resting ⟨now, fromSecs socketRestartDelaySecs⟩, []))
  | stops (stopped : outcome.1 = .stopped)

theorem Worker.react_ends {w : Worker} {input : Input} (h : w.react mac input = some outcome) :
    Ends w.now w.pc outcome := by
  cases Reacts.of_react h with
  | passed => exact .keeps rfl
  | discover free => exact .reports discoverAttempt_reports
  | request free => exact .reports requestAttempt_reports
  | acknowledged waits read => exact .reports boundPhase_reports
  | bound holds => exact .reports boundLoop_reports
  | renew holds waits => exact .reports renewIteration_reports
  | failed => exact .reports handlePhaseFailure_reports
  | lost => exact .reports leaseLost_reports
  | @rest payload draw wait failed => exact .rests wait failed rfl
  | stopped => exact .stops rfl

/-! ## Worker, relay and watchdog -/

/-- The worker and the watchdog, with every message of the worker so far and the instant at
which it was sent. -/
structure Monitored where
  worker : Worker
  watchdog : Monitor
  sent : List (Nat × ToParentMsg)

/-- One step of the system. -/
inductive Label where
  /-- time passes, up to the end of the worker's wait and to the next tick -/
  | elapse (d : Nat)
  /-- the worker's wait ends, or a frame is passed over -/
  | worker (input : Input)
  /-- another service reports -/
  | heartbeat (service : MonitoredService)
  /-- the watchdog's tick, with the value of the shutdown flag -/
  | tick (shutdown : Bool)
deriving DecidableEq

namespace Monitored

/-- The parent relays each message of the worker. -/
def deliver (now : Nat) (msgs : List ToParentMsg) (worker : Worker) (s : Monitored) :
    Monitored where
  worker
  watchdog := msgs.foldl (fun m _ => m.sendServiceHeartbeat .dhcpClient) s.watchdog
  sent := s.sent ++ msgs.map (now, ·)

/-- Worker and watchdog start together. -/
def init (now : Nat) (draw : Draw) (driverTimeout : Option Nat) : Monitored :=
  let (worker, msgs) := Worker.start now draw
  deliver now msgs worker ⟨worker, .start now MonitoredService.all driverTimeout, []⟩

/-- One step of the system. -/
def step (mac : MacAddr) (s : Monitored) : Label → Option Monitored
  | .elapse d =>
    if s.watchdog.active = true → s.worker.now + d ≤ s.watchdog.nextTick then
      (s.worker.step mac (.elapse d)).map fun (worker, _) => { s with worker }
    else none
  | .worker input =>
    (s.worker.react mac input).map fun (pc, msgs) =>
      deliver s.worker.now msgs ⟨s.worker.now, pc⟩ s
  | .heartbeat service =>
    if service ≠ .dhcpClient then
      some { s with watchdog := s.watchdog.sendServiceHeartbeat service }
    else none
  | .tick shutdown =>
    if s.watchdog.active ∧ s.watchdog.nextTick ≤ s.worker.now then
      some { s with watchdog := (s.watchdog.tick s.worker.now shutdown).1 }
    else none

/-- The server answers a long wait within the freshness window, and the heartbeats of the
other services do not crowd out those of the client. -/
def Answered (s : Monitored) : Label → Prop
  | .elapse d =>
    s.worker.pc.isLong = true →
      ∀ wait ∈ s.worker.pc.wait, s.worker.now + d ≤ wait.start + defaultHeartbeatTimeout
  | .worker _ =>
    .dhcpClient ∈ s.watchdog.channel.items ∨ s.watchdog.channel.items.length < 64
  | .heartbeat _ => True
  | .tick _ => True

instance (s : Monitored) : ∀ l, Decidable (s.Answered l) := by
  intro l
  unfold Answered
  split <;> infer_instance

/-- Two messages that follow one another within the freshness window. -/
def InWindow (earlier later : Nat × ToParentMsg) : Prop :=
  later.1 ≤ earlier.1 + defaultHeartbeatTimeout

/-- The worker runs, it sent its last message at `last`, and its wait will not take it past
the window from then on. -/
structure Reporting (s : Monitored) (last : Nat) : Prop where
  lastSent : ∃ msg, s.sent.getLast? = some (last, msg)
  past : last ≤ s.worker.now
  waiting : ∃ wait, s.worker.pc.wait = some wait ∧ s.worker.now ≤ wait.deadline ∧
    (s.worker.pc.isLong = false → wait.deadline ≤ last + defaultHeartbeatTimeout) ∧
    (s.worker.pc.isLong = true → wait.start = last)
  answered : s.worker.pc.isLong = true → s.worker.now ≤ last + defaultHeartbeatTimeout
  /-- a failed phase leaves time for the second sleep of `handle_phase_failure` -/
  failing : ∀ wait, s.worker.pc = .failed wait →
    wait.deadline ≤ last + fromSecs socketRestartDelaySecs
  seen : .dhcpClient ∈ s.watchdog.channel.items ∨
    ∃ t, s.watchdog.liveness .dhcpClient = some t ∧ last ≤ t

/-- The invariant of the runs whose long waits are answered. -/
structure Lively (s : Monitored) : Prop where
  gaps : s.sent.IsChain InWindow
  reporting : s.worker.pc ≠ .stopped → ∃ last, s.Reporting last

variable {s t : Monitored} {last : Nat} {msgs : List ToParentMsg} {w : Worker}

/-- Everything that a step can do. -/
inductive Step (mac : MacAddr) (s : Monitored) : Label → Monitored → Prop where
  | elapse {d : Nat} (inWait : ∀ wait ∈ s.worker.pc.wait, s.worker.now + d ≤ wait.deadline)
      (beforeTick : s.watchdog.active = true → s.worker.now + d ≤ s.watchdog.nextTick) :
      Step mac s (.elapse d) { s with worker := ⟨s.worker.now + d, s.worker.pc⟩ }
  | worker {input : Input} {outcome : Outcome} (reacts : s.worker.react mac input = some outcome) :
      Step mac s (.worker input)
        (deliver s.worker.now outcome.2 ⟨s.worker.now, outcome.1⟩ s)
  | heartbeat {service : MonitoredService} (other : service ≠ .dhcpClient) :
      Step mac s (.heartbeat service)
        { s with watchdog := s.watchdog.sendServiceHeartbeat service }
  | tick {shutdown : Bool} (active : s.watchdog.active = true)
      (due : s.watchdog.nextTick ≤ s.worker.now) :
      Step mac s (.tick shutdown)
        { s with watchdog := (s.watchdog.tick s.worker.now shutdown).1 }

theorem Step.of_step {l : Label} (h : s.step mac l = some t) : Step mac s l t := by
  cases l with
  | elapse d =>
    simp only [step, Worker.step] at h
    split at h
    · rename_i beforeTick
      split at h
      · rename_i inWait
        cases h
        exact .elapse (fun wait waits => by simpa [Option.mem_def.mp waits] using inWait)
          beforeTick
      · cases h
    · cases h
  | worker input =>
    simp only [step, Option.map_eq_some_iff] at h
    obtain ⟨outcome, reacts, rfl⟩ := h
    exact .worker reacts
  | heartbeat service =>
    simp only [step] at h
    split at h
    · rename_i other
      cases h
      exact .heartbeat other
    · cases h
  | tick shutdown =>
    simp only [step] at h
    split at h
    · rename_i due
      cases h
      exact .tick due.1 due.2
    · cases h

theorem Reporting.in_window (r : s.Reporting last) :
    s.worker.now ≤ last + defaultHeartbeatTimeout := by
  obtain ⟨wait, waits, before, short, long⟩ := r.waiting
  cases kind : s.worker.pc.isLong with
  | true => exact r.answered kind
  | false => exact before.trans (short kind)

theorem isChain_deliver (gaps : s.sent.IsChain InWindow)
    (soon : ∀ x ∈ s.sent.getLast?, now ≤ x.1 + defaultHeartbeatTimeout) :
    (deliver now msgs w s).sent.IsChain InWindow := by
  have together : (msgs.map ((now, ·) : ToParentMsg → Nat × ToParentMsg)).IsChain InWindow := by
    apply List.Pairwise.isChain
    rw [List.pairwise_map]
    exact List.pairwise_of_forall fun _ _ => Nat.le_add_right _ _
  unfold deliver
  rw [List.isChain_append]
  refine ⟨gaps, together, fun x final y first => ?_⟩
  obtain ⟨msg, listed, rfl⟩ := List.mem_map.mp (List.mem_of_mem_head? first)
  exact soon x final

theorem lastSent_deliver (sends : msgs ≠ []) :
    ∃ msg, (deliver now msgs w s).sent.getLast? = some (now, msg) := by
  obtain ⟨front, final, rfl⟩ := List.eq_nil_or_concat msgs |>.resolve_left sends
  refine ⟨final, ?_⟩
  unfold deliver
  simp

theorem mem_channel_deliver (sends : msgs ≠ [])
    (room : .dhcpClient ∈ s.watchdog.channel.items ∨ s.watchdog.channel.items.length < 64) :
    .dhcpClient ∈ (deliver now msgs w s).watchdog.channel.items := by
  have relayed : ∀ (msgs : List ToParentMsg) (m : Monitor), .dhcpClient ∈ m.channel.items →
      .dhcpClient ∈
        (msgs.foldl (fun m _ => m.sendServiceHeartbeat .dhcpClient) m).channel.items := by
    intro msgs
    induction msgs with
    | nil => exact fun m held => held
    | cons msg rest ih => exact fun m held => ih _ (mem_sendServiceHeartbeat_of_mem held)
  cases msgs with
  | nil => exact absurd rfl sends
  | cons msg rest => exact relayed rest _ (mem_sendServiceHeartbeat room)

/-- A report starts the window anew. -/
theorem Reporting.of_reports (reports : outcome.Reports now)
    (room : .dhcpClient ∈ s.watchdog.channel.items ∨ s.watchdog.channel.items.length < 64) :
    (deliver now outcome.2 ⟨now, outcome.1⟩ s).Reporting now := by
  obtain ⟨timeout, waits, short⟩ := reports.waits
  refine ⟨lastSent_deliver reports.sends, le_rfl, ⟨_, waits, Nat.le_add_right _ _, ?_, ?_⟩, ?_, ?_,
    .inl (mem_channel_deliver reports.sends room)⟩
  · intro notLong
    exact Nat.add_le_add_left (short notLong) now
  · exact fun _ => rfl
  · exact fun _ => Nat.le_add_right _ _
  · intro wait failed
    have limit := reports.fails wait failed
    have same : (⟨now, timeout⟩ : Wait) = wait := by
      change outcome.1 = .failed wait at failed
      rw [failed] at waits
      exact (Option.some.inj waits).symm
    rw [← same] at limit ⊢
    exact Nat.add_le_add_left limit.le now

theorem react_of_stopped {input : Input} (stopped : s.worker.pc = .stopped) :
    s.worker.react mac input = none := by
  cases input with
  | elapse d => rfl
  | frame payload draw => simp [Worker.react, stopped, onFrame]
  | timeout draw => simp [Worker.react, stopped, Pc.wait]
  | closed => simp [Worker.react, stopped, onClosed]
  | recvError => simp [Worker.react, stopped, onRecvError]

/-! ### What a step keeps -/

theorem Reporting.elapse {d : Nat} (r : s.Reporting last) (answered : s.Answered (.elapse d))
    (inWait : ∀ wait ∈ s.worker.pc.wait, s.worker.now + d ≤ wait.deadline) :
    { s with worker := ⟨s.worker.now + d, s.worker.pc⟩ }.Reporting last := by
  obtain ⟨wait, waits, -, short, long⟩ := r.waiting
  refine ⟨r.lastSent, r.past.trans (Nat.le_add_right _ _),
    ⟨wait, waits, inWait wait waits, short, long⟩, fun isLong => ?_, r.failing, r.seen⟩
  have inTime := answered isLong wait waits
  rw [long isLong] at inTime
  exact inTime

/-- The worker goes from the wait of a failed phase into its second sleep: at most five
seconds have passed since its last message, and five more follow. -/
theorem Reporting.rest {wait : Wait} (r : s.Reporting last) (failed : s.worker.pc = .failed wait) :
    (deliver s.worker.now []
      ⟨s.worker.now, .resting ⟨s.worker.now, fromSecs socketRestartDelaySecs⟩⟩
        s).Reporting last := by
  have failing := r.failing wait failed
  obtain ⟨wait', waits, before, -, -⟩ := r.waiting
  rw [failed] at waits
  cases waits
  have limit : s.worker.now + fromSecs socketRestartDelaySecs ≤ last + defaultHeartbeatTimeout := by
    unfold fromSecs socketRestartDelaySecs at failing ⊢
    unfold defaultHeartbeatTimeout fromSecs
    omega
  exact ⟨by simpa [deliver] using r.lastSent, r.past,
    ⟨_, rfl, Nat.le_add_right _ _, fun _ => limit, nofun⟩, nofun, nofun, r.seen⟩

theorem Lively.keep_worker {input : Input} (lively : s.Lively)
    (room : s.Answered (.worker input)) (reacts : s.worker.react mac input = some outcome) :
    (deliver s.worker.now outcome.2 ⟨s.worker.now, outcome.1⟩ s).Lively := by
  have running : s.worker.pc ≠ .stopped := by
    intro stopped
    rw [react_of_stopped stopped] at reacts
    cases reacts
  obtain ⟨last, r⟩ := lively.reporting running
  have gaps : (deliver s.worker.now outcome.2 ⟨s.worker.now, outcome.1⟩ s).sent.IsChain
      InWindow := by
    apply isChain_deliver lively.gaps
    intro x final
    obtain ⟨msg, lastSent⟩ := r.lastSent
    cases lastSent.symm.trans final
    exact r.in_window
  refine ⟨gaps, fun runs => ?_⟩
  cases Worker.react_ends reacts with
  | reports reports => exact ⟨_, Reporting.of_reports reports room⟩
  | keeps same =>
    have unchanged : deliver s.worker.now outcome.2 ⟨s.worker.now, outcome.1⟩ s = s := by
      simp [same, deliver]
    rw [unchanged]
    exact ⟨last, r⟩
  | rests wait failed rest =>
    rw [rest]
    exact ⟨last, r.rest failed⟩
  | stops stopped => exact absurd stopped runs

/-- What a drain finds: the heartbeat in the channel, or else the last one noted. -/
theorem Reporting.drained (r : s.Reporting last) :
    ∃ t, s.watchdog.seen s.worker.now .dhcpClient = some t ∧ last ≤ t := by
  unfold Monitor.seen
  rw [drainHeartbeats_eq]
  by_cases held : .dhcpClient ∈ s.watchdog.channel.items
  · rw [if_pos held]
    exact ⟨_, rfl, r.past⟩
  · rw [if_neg held]
    exact r.seen.resolve_left held

theorem Reporting.tick {shutdown : Bool} (r : s.Reporting last) :
    { s with watchdog := (s.watchdog.tick s.worker.now shutdown).1 }.Reporting last := by
  refine { r with seen := ?_ }
  cases shutdown with
  | true => exact r.seen
  | false => exact .inr r.drained

theorem Lively.keep : Run.Inductive (step mac) Answered Lively := by
  intro s l t lively answered h
  cases Step.of_step h with
  | elapse inWait beforeTick =>
    refine ⟨lively.gaps, fun running => ?_⟩
    obtain ⟨last, r⟩ := lively.reporting running
    exact ⟨last, r.elapse answered inWait⟩
  | worker reacts => exact lively.keep_worker answered reacts
  | heartbeat other =>
    refine ⟨lively.gaps, fun running => ?_⟩
    obtain ⟨last, r⟩ := lively.reporting running
    exact ⟨last, { r with seen := r.seen.imp_left mem_sendServiceHeartbeat_of_mem }⟩
  | tick active due =>
    refine ⟨lively.gaps, fun running => ?_⟩
    obtain ⟨last, r⟩ := lively.reporting running
    exact ⟨last, r.tick⟩

theorem Lively.init {driverTimeout : Option Nat} :
    (init now draw driverTimeout).Lively := by
  have reports : (discoverPhase now draw).Reports now := discoverAttempt_reports
  exact ⟨isChain_deliver .nil nofun,
    fun _ => ⟨now, Reporting.of_reports reports (.inr (Nat.zero_lt_succ _))⟩⟩

theorem Reporting.healthOf_eq (r : s.Reporting last) (expected : List MonitoredService) :
    s.watchdog.healthOf s.worker.now expected =
      s.watchdog.healthOf s.worker.now (expected.filter (· ≠ .dhcpClient)) := by
  have inWindow := r.in_window
  obtain ⟨t, noted, recent⟩ := r.drained
  exact evaluateHealth_of_fresh noted (by omega)

end Monitored

/-! ## The reports of the client -/

open Monitored

variable {start : Nat} {driverTimeout : Option Nat} {labels : List Label} {s : Monitored}

/-- As long as the server answers the long waits in time, the worker sends its messages
within the freshness window of each other, and a health check fails only if it fails for
another service. -/
theorem heartbeats_within_window
    (answered : Run.Meets (step mac) Answered (init start draw driverTimeout) labels)
    (run : Run.exec (step mac) (init start draw driverTimeout) labels = some s) :
    s.sent.IsChain InWindow ∧
      (s.worker.pc ≠ .stopped → ∀ expected : List MonitoredService,
        s.watchdog.healthOf s.worker.now expected =
          s.watchdog.healthOf s.worker.now (expected.filter (· ≠ .dhcpClient))) := by
  have lively := Lively.keep.exec Lively.init answered run
  refine ⟨lively.gaps, fun running expected => ?_⟩
  obtain ⟨last, r⟩ := lively.reporting running
  exact r.healthOf_eq expected

/-! ### An answer in time, and none at all -/

/-- Transaction id 7 and no jitter. -/
def sampleDraw : Draw := ⟨7, ⟨fromSecs 1, by decide⟩⟩

/-- The other services report, and the watchdog ticks. -/
def checkRound : List Label :=
  [.heartbeat .dnsForwarder, .heartbeat .interfaceMonitor, .heartbeat .lanManager, .tick false]

/-- `n` ticks, five seconds apart. -/
def quietRounds (n : Nat) : List Label :=
  (List.replicate n (.elapse (fromSecs 5) :: checkRound)).flatten

/-- The worker's wait times out `n` seconds before the next tick. -/
def expireBeforeTick (n : Nat) : List Label :=
  [Label.elapse (fromSecs (5 - n)), .worker (.timeout sampleDraw), .elapse (fromSecs n)] ++
    checkRound

/-- The first half minute without an answer: DISCOVER goes out at 0, 4, 12 and 28 s. -/
def firstAttempts : List Label :=
  checkRound ++ expireBeforeTick 1 ++ quietRounds 1 ++ expireBeforeTick 3 ++ quietRounds 2 ++
    expireBeforeTick 2

/-- A server message to the client with hardware address 1. -/
def sampleReply (messageType : MessageType) : Message where
  xid := 7
  chaddr := MacAddr.octets 1
  yiaddr := .new 10 0 2 15
  messageType := some messageType
  serverIdentifier := some (.new 10 0 2 2)
  subnetMask := none
  router := some [.new 10 0 2 2]
  domainNameServer := none
  addressLeaseTime := none

/-- The fourth DISCOVER is answered after 22 seconds. -/
def lateAnswer : List Label :=
  firstAttempts ++ quietRounds 4 ++
    [Label.worker (.frame (some (sampleReply .offer)) sampleDraw),
      .worker (.frame (some (sampleReply .ack)) sampleDraw)]

theorem heartbeats_within_window_of_late_answer :
    ∃ s, Run.exec (step 1) (init 0 sampleDraw none) lateAnswer = some s ∧
      s.worker.now = fromSecs 50 ∧ s.worker.pc ≠ .stopped ∧ s.sent.IsChain InWindow ∧
      s.watchdog.healthOf s.worker.now MonitoredService.all =
        s.watchdog.healthOf s.worker.now
          [.dnsForwarder, .interfaceMonitor, .lanManager] := by
  have answered : Run.Meets (step 1) Answered (init 0 sampleDraw none) lateAnswer := by
    decide +kernel
  obtain ⟨s, run, time, running⟩ : ∃ s, Run.exec (step 1) (init 0 sampleDraw none) lateAnswer =
      some s ∧ s.worker.now = fromSecs 50 ∧ s.worker.pc ≠ .stopped := by
    decide +kernel
  have inWindow := heartbeats_within_window answered run
  exact ⟨s, run, time, running, inWindow.1, inWindow.2 running MonitoredService.all⟩

/-- A minute and a half without an answer: after 28 s the next DISCOVER goes out at 60 s and
the one after that would at 124 s. -/
def silentServer : List Label :=
  firstAttempts ++ quietRounds 5 ++
    [Label.elapse (fromSecs 5), .worker (.timeout sampleDraw)] ++ checkRound ++ quietRounds 7

/-- The worker runs and no frame arrives; DISCOVER messages are 32 s apart, and the health
check at 95 s fails although the other three services are fresh. -/
theorem silent_server_fails_health :
    ∃ s, Run.exec (step 1) (init 0 sampleDraw none) silentServer = some s ∧
      s.worker.pc ≠ .stopped ∧ s.worker.now = fromSecs 95 ∧
      (fromSecs 28, .sendDiscover 7) ∈ s.sent ∧
      (fromSecs 60, .heartbeat) ∈ s.sent ∧
      (∀ x ∈ s.sent, x.1 ≤ fromSecs 28 ∨ fromSecs 60 ≤ x.1) ∧
      s.watchdog.healthOf s.worker.now MonitoredService.all = false ∧
      s.watchdog.healthOf s.worker.now
        [.dnsForwarder, .interfaceMonitor, .lanManager] = true := by
  decide +kernel

end TrimRouter.DhcpClient
