import TrimRouter.DhcpClient.Worker

/-!
# The steps of the DHCP client worker

* `Reacts.of_react`: what the worker does at the end of a wait, in all its phases and for every
  input.  The statements about runs of the worker are case analyses of `Reacts`.
* `react_requesting`, `react_bound`, `react_renewing`: what it does in single phases while no
  acknowledgement comes.
-/

namespace TrimRouter.DhcpClient

/-- The lease that the worker holds, with the time at which it began. -/
def Pc.lease : Pc → Option (Nat × BitVec 32)
  | .bound ack boundAt _ => some (boundAt, ack.leaseSecs)
  | .renewing ack boundAt _ _ _ => some (boundAt, ack.leaseSecs)
  | .discovering _ _ _ => none
  | .requesting _ _ _ _ => none
  | .failed _ => none
  | .resting _ => none
  | .stopped => none

/-- The exchange in which the worker waits for an acknowledgement. -/
def Pc.exchange : Pc → Option (BitVec 32)
  | .requesting xid _ _ _ => some xid
  | .renewing _ _ xid _ _ => some xid
  | .discovering _ _ _ => none
  | .bound _ _ _ => none
  | .failed _ => none
  | .resting _ => none
  | .stopped => none

/-- What the worker does at the end of a wait. -/
inductive Reacts (mac : MacAddr) (w : Worker) : Input → Outcome → Prop where
  /-- a frame that is no answer is passed over -/
  | passed {payload : Option Message} {draw : Draw} : Reacts mac w (.frame payload draw) (w.pc, [])
  | discover {input : Input} {xid : BitVec 32} {retryDelaySecs : Nat}
      {jitter : Fin (fromSecs 2 + 1)} (free : w.pc.lease = none) :
      Reacts mac w input (discoverAttempt xid retryDelaySecs w.now jitter)
  | request {input : Input} {xid : BitVec 32} {offer : DhcpOffer} {retryDelaySecs : Nat}
      {jitter : Fin (fromSecs 2 + 1)} (free : w.pc.lease = none) :
      Reacts mac w input (requestAttempt xid offer retryDelaySecs w.now jitter)
  | acknowledged {payload : Option Message} {draw : Draw} {xid : BitVec 32} {ack : DhcpAck}
      (waits : w.pc.exchange = some xid)
      (read : ((recvDhcpPacket mac payload).map (parseAckNak · xid)).getD .none = .ack ack) :
      Reacts mac w (.frame payload draw) (boundPhase ack draw.xid w.now)
  | bound {input : Input} {ack : DhcpAck} {boundAt : Nat} {xid : BitVec 32}
      (holds : w.pc.lease = some (boundAt, ack.leaseSecs)) :
      Reacts mac w input (boundLoop ack boundAt xid w.now)
  | renew {input : Input} {ack : DhcpAck} {boundAt : Nat} {xid : BitVec 32}
      {renewSent : Option Nat} (holds : w.pc.lease = some (boundAt, ack.leaseSecs))
      (waits : w.pc.exchange = some xid) :
      Reacts mac w input (renewIteration ack boundAt xid renewSent w.now)
  | failed {input : Input} : Reacts mac w input (handlePhaseFailure w.now)
  | lost {input : Input} : Reacts mac w input (leaseLost w.now)
  | rest {payload : Option Message} {draw : Draw} {wait : Wait} (failed : w.pc = .failed wait) :
      Reacts mac w (.frame payload draw) (.resting ⟨w.now, fromSecs socketRestartDelaySecs⟩, [])
  /-- the worker ends, and clears a lease that it holds -/
  | stopped {input : Input} :
      Reacts mac w input (.stopped, if w.pc.lease.isSome then [.clearWanLease] else [])

variable {mac : MacAddr} {now : Nat} {pc : Pc} {payload : Option Message} {draw : Draw}
  {outcome : Outcome}

theorem Reacts.of_onFrame (h : onFrame mac payload draw now pc = some outcome) :
    Reacts mac ⟨now, pc⟩ (.frame payload draw) outcome := by
  cases pc with
  | discovering xid delay wait =>
    cases h
    split
    · exact .request rfl
    · split
      · exact .passed
      · exact .discover rfl
  | requesting xid offer delay wait =>
    cases h
    split
    · rename_i ack read
      exact .acknowledged rfl read
    · exact .failed
    · split
      · exact .passed
      · exact .request rfl
  | bound ack boundAt wait =>
    cases h
    exact .bound rfl
  | renewing ack boundAt xid renewSent wait =>
    cases h
    split
    · rename_i newAck read
      exact .acknowledged rfl read
    · exact .lost
    · split
      · exact .passed
      · exact .renew rfl rfl
  | failed wait =>
    cases h
    exact .rest rfl
  | resting | stopped => cases h

theorem Reacts.of_onTimeout (h : onTimeout draw now pc = some outcome) :
    Reacts mac ⟨now, pc⟩ (.timeout draw) outcome := by
  cases pc with
  | discovering | failed | resting =>
    cases h
    exact .discover rfl
  | requesting xid offer delay wait =>
    cases h
    exact .request rfl
  | bound ack boundAt wait =>
    cases h
    exact .bound rfl
  | renewing ack boundAt xid renewSent wait =>
    cases h
    exact .renew rfl rfl
  | stopped => cases h

theorem Reacts.of_onClosed (h : onClosed pc = some outcome) :
    Reacts mac ⟨now, pc⟩ .closed outcome := by
  cases pc with
  | resting | stopped => cases h
  | discovering | requesting | bound | renewing | failed =>
    cases h
    exact .stopped

theorem Reacts.of_onRecvError (h : onRecvError now pc = some outcome) :
    Reacts mac ⟨now, pc⟩ .recvError outcome := by
  cases pc with
  | resting | stopped => cases h
  | discovering | requesting =>
    cases h
    exact .failed
  | renewing =>
    cases h
    exact .lost
  | bound | failed =>
    cases h
    exact .stopped

variable {input : Input}

theorem Reacts.of_react {w : Worker} (h : w.react mac input = some outcome) :
    Reacts mac w input outcome := by
  cases input with
  | elapse d => cases h
  | frame payload draw => exact .of_onFrame h
  | timeout draw =>
    obtain ⟨-, h⟩ := Option.ite_none_right_eq_some.mp h
    exact .of_onTimeout h
  | closed => exact .of_onClosed h
  | recvError => exact .of_onRecvError h

/-- The input is an acknowledgement or a refusal in this exchange. -/
def Input.answersTo (mac : MacAddr) (xid : BitVec 32) : Input → Bool
  | .frame payload _ => ((recvDhcpPacket mac payload).map (parseAckNak · xid)).getD .none != .none
  | .elapse _ => false
  | .timeout _ => false
  | .closed => false
  | .recvError => false

/-- The input is an acknowledgement or a refusal in the exchange that the worker waits in. -/
def Input.answers (mac : MacAddr) (pc : Pc) (input : Input) : Bool :=
  pc.exchange.any fun xid => input.answersTo mac xid

/-- The input comes from the socket to the parent, which is closed or broken. -/
def Input.ends : Input → Bool
  | .closed => true
  | .recvError => true
  | .elapse _ => false
  | .frame _ _ => false
  | .timeout _ => false

variable {xid : BitVec 32}

theorem read_eq_none (silent : (Input.frame payload draw).answersTo mac xid = false) :
    ((recvDhcpPacket mac payload).map (parseAckNak · xid)).getD .none = .none := by
  simpa [Input.answersTo] using silent

theorem answersTo_of_waits (waits : pc.exchange = some xid)
    (silent : input.answers mac pc = false) : input.answersTo mac xid = false := by
  simpa [Input.answers, waits] using silent

/-- A request that is not answered is repeated with a longer delay when its time is up. -/
theorem react_requesting {offer : DhcpOffer} {delay : Nat} {wait : Wait}
    (h : Worker.react mac ⟨now, .requesting xid offer delay wait⟩ input = some outcome)
    (silent : input.answersTo mac xid = false) (lives : input.ends = false) :
    outcome = (.requesting xid offer delay wait, []) ∨
      wait.deadline ≤ now ∧
        ∃ jitter, outcome = requestAttempt xid offer (calculateNextDelay delay) now jitter := by
  cases input with
  | elapse d => cases h
  | closed | recvError => cases lives
  | timeout draw =>
    obtain ⟨late, h⟩ := Option.ite_none_right_eq_some.mp h
    cases h
    exact .inr ⟨of_decide_eq_true late, draw.jitter, rfl⟩
  | frame payload draw =>
    simp only [Worker.react, onFrame, read_eq_none silent, Option.some.injEq] at h
    by_cases early : now < wait.deadline
    · rw [if_pos early] at h
      exact .inl h.symm
    · rw [if_neg early] at h
      exact .inr ⟨Nat.le_of_not_lt early, draw.jitter, h.symm⟩

/-- Before T1 every frame and the end of the wait lead to the next round. -/
theorem react_bound {ack : DhcpAck} {boundAt : Nat} {wait : Wait}
    (h : Worker.react mac ⟨now, .bound ack boundAt wait⟩ input = some outcome) :
    (∃ xid, outcome = boundLoop ack boundAt xid now) ∨ outcome.1.lease = none := by
  cases input with
  | elapse d => cases h
  | closed | recvError =>
    cases h
    exact .inr rfl
  | timeout draw =>
    obtain ⟨-, h⟩ := Option.ite_none_right_eq_some.mp h
    cases h
    exact .inl ⟨draw.xid, rfl⟩
  | frame payload draw =>
    cases h
    exact .inl ⟨draw.xid, rfl⟩

/-- A renewal that is not answered goes on when its time is up, or the worker gives the lease
up. -/
theorem react_renewing {ack : DhcpAck} {boundAt : Nat} {renewSent : Option Nat} {wait : Wait}
    (h : Worker.react mac ⟨now, .renewing ack boundAt xid renewSent wait⟩ input = some outcome)
    (silent : input.answersTo mac xid = false) :
    outcome = (.renewing ack boundAt xid renewSent wait, []) ∨
      (wait.deadline ≤ now ∧ outcome = renewIteration ack boundAt xid renewSent now) ∨
      outcome.1.lease = none := by
  cases input with
  | elapse d => cases h
  | closed | recvError =>
    cases h
    exact .inr (.inr rfl)
  | timeout draw =>
    obtain ⟨late, h⟩ := Option.ite_none_right_eq_some.mp h
    cases h
    exact .inr (.inl ⟨of_decide_eq_true late, rfl⟩)
  | frame payload draw =>
    simp only [Worker.react, onFrame, read_eq_none silent, Option.some.injEq] at h
    by_cases early : now < wait.deadline
    · rw [if_pos early] at h
      exact .inl h.symm
    · rw [if_neg early] at h
      exact .inr (.inl ⟨Nat.le_of_not_lt early, h.symm⟩)

/-- Without an acknowledgement no lease begins. -/
theorem lease_none_of_silent {w : Worker}
    (h : w.react mac input = some outcome) (silent : input.answers mac w.pc = false)
    (free : w.pc.lease = none) : outcome.1.lease = none := by
  cases Reacts.of_react h with
  | passed => exact free
  | acknowledged waits read =>
    rw [read_eq_none (answersTo_of_waits waits silent)] at read
    cases read
  | bound holds | renew holds => rw [free] at holds; cases holds
  | _ => rfl

end TrimRouter.DhcpClient
