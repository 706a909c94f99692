import TrimRouter.DhcpClient.Packet

/-!
# The DHCP client worker

`DhcpClientInternal::run` of `services/dhcp_client/worker.rs` as a timed state machine.  The
worker is always inside one of its waits (`Pc`), each with a start and a time limit; what it
does from the end of one wait to the next wait is one function (`discoverAttempt`,
`requestAttempt`, `boundLoop`, `renewIteration`, `handlePhaseFailure`), which also returns
the messages it sends to the parent.  Code between two waits takes no time, and sends to the
parent succeed.

The random numbers that the code draws (transaction ids and the jitter of the back-off) are
part of the labels, so a statement about all runs is one about all draws.
-/

namespace TrimRouter.DhcpClient

/-- `MAX_RETRY_DELAY_SECS`. -/
def maxRetryDelaySecs : Nat := 64

/-- `INITIAL_RETRY_DELAY_SECS`. -/
def initialRetryDelaySecs : Nat := 4

/-- `SOCKET_RESTART_DELAY_SECS`. -/
def socketRestartDelaySecs : Nat := 5

/-- `BOUND_HEARTBEAT_INTERVAL_SECS`. -/
def boundHeartbeatIntervalSecs : Nat := 3

/-- `calculate_next_delay`. -/
def calculateNextDelay (currentDelay : Nat) : Nat :=
  let doubled := currentDelay * 2
  if doubled > maxRetryDelaySecs then maxRetryDelaySecs else doubled

/-- The random numbers that a step may draw: a transaction id, and the jitter of a back-off
in nanoseconds, counted from one second below the base delay. -/
structure Draw where
  xid : BitVec 32
  jitter : Fin (fromSecs 2 + 1)
deriving DecidableEq

/-- `get_jittered_duration`: up to one second around the base delay, and at least one. -/
def getJitteredDuration (baseSecs : Nat) (jitter : Fin (fromSecs 2 + 1)) : Nat :=
  max (fromSecs 1) (fromSecs baseSecs + jitter.val - fromSecs 1)

/-- The time between two retries of a phase that ends `remaining` seconds from now. -/
def retryInterval (remaining : Nat) : Nat :=
  if remaining > 60 then max (remaining / 2) 60 else max (remaining / 2) 1

/-- `calculate_renewal_params`. -/
def calculateRenewalParams (currentElapsed t2Secs leaseSecs : Nat)
    (serverIp : Option Ipv4Addr) : Nat × Ipv4Addr × Bool :=
  if t2Secs ≤ currentElapsed then
    (retryInterval (leaseSecs - currentElapsed), Ipv4Addr.broadcast, true)
  else
    (retryInterval (t2Secs - currentElapsed), serverIp.getD Ipv4Addr.broadcast, false)

/-- `since.elapsed().as_secs() as u32`. -/
def elapsedSecs (since now : Nat) : Nat := asSecs (now - since) % 2 ^ 32

/-- The renewal time T1 of a lease. -/
def t1Secs (leaseSecs : Nat) : Nat := leaseSecs / 2

/-- The rebinding time T2 of a lease, `(lease_secs as f64 * 0.875) as u32`: the product is
exact in double precision. -/
def t2Secs (leaseSecs : Nat) : Nat := leaseSecs * 7 / 8

/-- A wait that began at `start` and gives up after `timeout`. -/
structure Wait where
  start : Nat
  timeout : Nat
deriving DecidableEq

/-- The instant at which a wait gives up. -/
def Wait.deadline (wait : Wait) : Nat := wait.start + wait.timeout

/-- The wait that the worker is in. -/
inductive Pc where
  /-- `discover_phase`, in `wait_for_offer` -/
  | discovering (xid : BitVec 32) (retryDelaySecs : Nat) (wait : Wait)
  /-- `request_phase`, in `wait_for_ack` -/
  | requesting (xid : BitVec 32) (offer : DhcpOffer) (retryDelaySecs : Nat) (wait : Wait)
  /-- `bound_phase`, in its `select!` before T1 -/
  | bound (ack : DhcpAck) (boundAt : Nat) (wait : Wait)
  /-- `renew_lease`, in `wait_for_ack` -/
  | renewing (ack : DhcpAck) (boundAt : Nat) (xid : BitVec 32) (renewSent : Option Nat)
      (wait : Wait)
  /-- `handle_phase_failure`, in its `select!` -/
  | failed (wait : Wait)
  /-- `handle_phase_failure`, in the sleep after a packet -/
  | resting (wait : Wait)
  /-- `run` has returned -/
  | stopped
deriving DecidableEq

/-- The current wait, unless the worker has stopped. -/
def Pc.wait : Pc → Option Wait
  | .discovering _ _ wait => some wait
  | .requesting _ _ _ wait => some wait
  | .bound _ _ wait => some wait
  | .renewing _ _ _ _ wait => some wait
  | .failed wait => some wait
  | .resting wait => some wait
  | .stopped => none

/-- The next wait and the messages sent on the way to it. -/
abbrev Outcome := Pc × List ToParentMsg

/-- Send `msgs` first. -/
def Outcome.sendingFirst (msgs : List ToParentMsg) (outcome : Outcome) : Outcome :=
  (outcome.1, msgs ++ outcome.2)

/-- One round of the loop of `discover_phase`, up to its wait. -/
def discoverAttempt (xid : BitVec 32) (retryDelaySecs now : Nat)
    (jitter : Fin (fromSecs 2 + 1)) : Outcome :=
  (.discovering xid retryDelaySecs ⟨now, getJitteredDuration retryDelaySecs jitter⟩,
    [.heartbeat, .sendDiscover xid])

/-- `discover_phase`, up to its first wait. -/
def discoverPhase (now : Nat) (draw : Draw) : Outcome :=
  discoverAttempt draw.xid initialRetryDelaySecs now draw.jitter

/-- One round of the loop of `request_phase`, up to its wait. -/
def requestAttempt (xid : BitVec 32) (offer : DhcpOffer) (retryDelaySecs now : Nat)
    (jitter : Fin (fromSecs 2 + 1)) : Outcome :=
  (.requesting xid offer retryDelaySecs ⟨now, getJitteredDuration retryDelaySecs jitter⟩,
    [.heartbeat, .sendRequest xid offer.offeredIp offer.serverIp Ipv4Addr.unspecified])

/-- `handle_phase_failure`, up to its `select!`. -/
def handlePhaseFailure (now : Nat) : Outcome :=
  (.failed ⟨now, fromSecs socketRestartDelaySecs⟩, [.clearWanLease])

/-- `bound_phase` returns an error: it deconfigures, and so does `handle_phase_failure`. -/
def leaseLost (now : Nat) : Outcome :=
  (handlePhaseFailure now).sendingFirst [.clearWanLease]

/-- One round of the loop of `renew_lease`, up to its wait or to its error. -/
def renewIteration (ack : DhcpAck) (boundAt : Nat) (xid : BitVec 32) (renewSent : Option Nat)
    (now : Nat) : Outcome :=
  let lease := ack.leaseSecs.toNat
  let elapsed := elapsedSecs boundAt now
  if lease ≤ elapsed then (leaseLost now).sendingFirst [.heartbeat]
  else
    let (interval, _, inRebinding) :=
      calculateRenewalParams elapsed (t2Secs lease) lease ack.serverIp
    let shouldSend := renewSent.all fun t => interval ≤ elapsedSecs t now
    let target := if inRebinding then none else ack.serverIp
    (.renewing ack boundAt xid (if shouldSend then some now else renewSent)
        ⟨now, fromSecs interval⟩,
      .heartbeat :: if shouldSend then [.sendRequest xid ack.ip target ack.ip] else [])

/-- One round of the loop of `bound_phase`, up to its wait, the wait of the renewal that it
starts, or its error. -/
def boundLoop (ack : DhcpAck) (boundAt : Nat) (renewXid : BitVec 32) (now : Nat) : Outcome :=
  let lease := ack.leaseSecs.toNat
  let elapsed := elapsedSecs boundAt now
  if lease ≤ elapsed then leaseLost now
  else if elapsed < t1Secs lease then
    (.bound ack boundAt
        ⟨now, fromSecs (min boundHeartbeatIntervalSecs (t1Secs lease - elapsed))⟩,
      [.heartbeat])
  else renewIteration ack boundAt renewXid none now

/-- `bound_phase` with a new acknowledgement, from the start or after a renewal. -/
def boundPhase (ack : DhcpAck) (renewXid : BitVec 32) (now : Nat) : Outcome :=
  (boundLoop ack now renewXid now).sendingFirst [applyLeaseConfig ack]

/-- The current wait ends with a frame from the parent.  In `wait_for_offer` and
`wait_for_ack` a frame that is no answer is passed over, and ends the wait when its time is
up. -/
def onFrame (mac : MacAddr) (payload : Option Message) (draw : Draw) (now : Nat) :
    Pc → Option Outcome
  | .discovering xid retryDelaySecs wait => some <|
      match (recvDhcpPacket mac payload).bind (parseOffer · xid) with
      | some offer => requestAttempt xid offer initialRetryDelaySecs now draw.jitter
      | none =>
        if now < wait.deadline then (.discovering xid retryDelaySecs wait, [])
        else discoverAttempt xid (calculateNextDelay retryDelaySecs) now draw.jitter
  | .requesting xid offer retryDelaySecs wait => some <|
      match ((recvDhcpPacket mac payload).map (parseAckNak · xid)).getD .none with
      | .ack ack => boundPhase ack draw.xid now
      | .nak => handlePhaseFailure now
      | .none =>
        if now < wait.deadline then (.requesting xid offer retryDelaySecs wait, [])
        else requestAttempt xid offer (calculateNextDelay retryDelaySecs) now draw.jitter
  | .bound ack boundAt _ => some (boundLoop ack boundAt draw.xid now)
  | .renewing ack boundAt xid renewSent wait => some <|
      match ((recvDhcpPacket mac payload).map (parseAckNak · xid)).getD .none with
      | .ack newAck => boundPhase newAck draw.xid now
      | .nak => leaseLost now
      | .none =>
        if now < wait.deadline then (.renewing ack boundAt xid renewSent wait, [])
        else renewIteration ack boundAt xid renewSent now
  | .failed _ => some (.resting ⟨now, fromSecs socketRestartDelaySecs⟩, [])
  | .resting _ => none
  | .stopped => none

/-- The time of the current wait is up. -/
def onTimeout (draw : Draw) (now : Nat) : Pc → Option Outcome
  | .discovering xid retryDelaySecs _ =>
    some (discoverAttempt xid (calculateNextDelay retryDelaySecs) now draw.jitter)
  | .requesting xid offer retryDelaySecs _ =>
    some (requestAttempt xid offer (calculateNextDelay retryDelaySecs) now draw.jitter)
  | .bound ack boundAt _ => some (boundLoop ack boundAt draw.xid now)
  | .renewing ack boundAt xid renewSent _ => some (renewIteration ack boundAt xid renewSent now)
  | .failed _ => some (discoverPhase now draw)
  | .resting _ => some (discoverPhase now draw)
  | .stopped => none

/-- `ipc.recv` returns `Ok(None)`: the parent has closed the socket, and `run` returns. -/
def onClosed : Pc → Option Outcome
  | .discovering .. => some (.stopped, [])
  | .requesting .. => some (.stopped, [])
  | .bound .. => some (.stopped, [.clearWanLease])
  | .renewing .. => some (.stopped, [.clearWanLease])
  | .failed _ => some (.stopped, [])
  | .resting _ => none
  | .stopped => none

/-- `ipc.recv` returns an error.  `bound_phase` and `handle_phase_failure` take it for a
closed socket; in the other waits it is an ordinary failure of the phase. -/
def onRecvError (now : Nat) : Pc → Option Outcome
  | .discovering .. => some (handlePhaseFailure now)
  | .requesting .. => some (handlePhaseFailure now)
  | .bound .. => some (.stopped, [.clearWanLease])
  | .renewing .. => some (leaseLost now)
  | .failed _ => some (.stopped, [])
  | .resting _ => none
  | .stopped => none

/-- A running worker: the clock and the wait it is in. -/
structure Worker where
  now : Nat
  pc : Pc
deriving DecidableEq

/-- What can happen to the worker. -/
inductive Input where
  /-- time passes, up to the end of the current wait -/
  | elapse (d : Nat)
  | frame (payload : Option Message) (draw : Draw)
  | timeout (draw : Draw)
  | closed
  | recvError
deriving DecidableEq

/-- `run` is called. -/
def Worker.start (now : Nat) (draw : Draw) : Worker × List ToParentMsg :=
  (⟨now, (discoverPhase now draw).1⟩, (discoverPhase now draw).2)

/-- What the worker does on an input other than the passing of time. -/
def Worker.react (mac : MacAddr) (w : Worker) : Input → Option Outcome
  | .elapse _ => none
  | .frame payload draw => onFrame mac payload draw w.now w.pc
  | .timeout draw =>
    if w.pc.wait.any (fun wait => wait.deadline ≤ w.now) then onTimeout draw w.now w.pc else none
  | .closed => onClosed w.pc
  | .recvError => onRecvError w.now w.pc

/-- One step of the worker, with the messages that it sends. -/
def Worker.step (mac : MacAddr) (w : Worker) : Input → Option (Worker × List ToParentMsg)
  | .elapse d =>
    if w.pc.wait.all (fun wait => w.now + d ≤ wait.deadline) then
      some (⟨w.now + d, w.pc⟩, [])
    else none
  | input => (w.react mac input).map fun outcome => (⟨w.now, outcome.1⟩, outcome.2)

end TrimRouter.DhcpClient
