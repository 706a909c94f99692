import TrimRouter.DhcpClient.Exchange
import TrimRouter.DhcpClient.Liveness

/-!
# No lease outlives its time

The waits of `bound_phase` and `renew_lease` of `services/dhcp_client/worker.rs` are computed from
the elapsed time in whole seconds, rounded down, so a wait may end up to a second after the instant
that it aims at, but not more.  So a lease of `L` seconds is cleared or replaced within `L + 1`
seconds (`lease_answered_in_time`).
-/

namespace TrimRouter.DhcpClient

open History

/-! ## The length of a wait -/

variable {now boundAt k n : Nat}

theorem fromSecs_le (le : k ≤ n) : fromSecs k ≤ fromSecs n :=
  Nat.mul_le_mul_right _ le

theorem one_le_retryInterval {remaining : Nat} : 1 ≤ retryInterval remaining := by
  unfold retryInterval
  split <;> omega

theorem retryInterval_le_remaining {remaining : Nat} (left : 0 < remaining) :
    retryInterval remaining ≤ remaining := by
  unfold retryInterval
  split <;> omega

theorem t1Secs_le {leaseSecs : Nat} : t1Secs leaseSecs ≤ leaseSecs :=
  Nat.div_le_self _ _

theorem t2Secs_le {leaseSecs : Nat} : t2Secs leaseSecs ≤ leaseSecs := by
  unfold t2Secs
  omega

/-- A wait of whole seconds, computed from the elapsed seconds, ends less than a second late. -/
theorem deadline_lt (after : boundAt ≤ now) (young : now < boundAt + fromSecs (2 ^ 32))
    (fits : elapsedSecs boundAt now + k ≤ n) : now + fromSecs k < boundAt + fromSecs (n + 1) := by
  have exact_secs : elapsedSecs boundAt now = (now - boundAt) / 1000000000 := by
    unfold elapsedSecs asSecs
    unfold fromSecs at young
    apply Nat.mod_eq_of_lt
    omega
  rw [exact_secs] at fits
  unfold fromSecs
  omega

/-- The end of the phase of `renew_lease` in which a wait begins after this many seconds, also in
seconds from the start of the lease. -/
def phaseEndSecs (leaseSecs elapsed : Nat) : Nat :=
  if t2Secs leaseSecs ≤ elapsed then leaseSecs else t2Secs leaseSecs

theorem phaseEndSecs_le {leaseSecs elapsed : Nat} : phaseEndSecs leaseSecs elapsed ≤ leaseSecs := by
  unfold phaseEndSecs
  split
  · exact le_rfl
  · exact t2Secs_le

/-- The start of the lease, and the second of it at which the phase of the worker ends. -/
def Pc.phaseEnd : Pc → Option (Nat × Nat)
  | .bound ack boundAt _ => some (boundAt, t1Secs ack.leaseSecs.toNat)
  | .renewing ack boundAt _ _ wait =>
    some (boundAt, phaseEndSecs ack.leaseSecs.toNat (elapsedSecs boundAt wait.start))
  | .discovering _ _ _ => none
  | .requesting _ _ _ _ => none
  | .failed _ => none
  | .resting _ => none
  | .stopped => none

/-- The wait of the worker begins within the lease and ends less than a second after its
phase. -/
def Pc.Within (pc : Pc) : Prop :=
  ∀ boundAt secs, pc.phaseEnd = some (boundAt, secs) → ∀ wait ∈ pc.wait,
    boundAt ≤ wait.start ∧ wait.deadline < boundAt + fromSecs (secs + 1)

/-- The worker begins to wait now, for at least a second. -/
structure Begins (now : Nat) (pc : Pc) : Prop where
  fresh : ∀ wait ∈ pc.wait, wait.start = now ∧ fromSecs 1 ≤ wait.timeout
  within : pc.Within

/-- The worker is in its wait. -/
structure Timed (now : Nat) (pc : Pc) : Prop where
  waiting : ∀ wait ∈ pc.wait, wait.start ≤ now ∧ now ≤ wait.deadline
  within : pc.Within

variable {mac : MacAddr} {pc : Pc} {retryDelaySecs : Nat} {jitter : Fin (fromSecs 2 + 1)}
  {xid : BitVec 32} {offer : DhcpOffer} {ack : DhcpAck} {renewSent : Option Nat} {draw : Draw}
  {payload : Option Message} {outcome : Outcome} {leaseSecs : BitVec 32}

theorem Begins.timed (begins : Begins now pc) : Timed now pc := by
  refine ⟨?_, begins.within⟩
  intro wait waits
  obtain ⟨start, -⟩ := begins.fresh wait waits
  unfold Wait.deadline
  omega

/-- A lease that the worker holds is young enough. -/
theorem Timed.lease (timed : Timed now pc) (holds : pc.lease = some (boundAt, leaseSecs)) :
    boundAt ≤ now ∧ now < boundAt + fromSecs (leaseSecs.toNat + 1) := by
  have inPhase : ∀ {secs : Nat} {wait : Wait}, secs ≤ leaseSecs.toNat →
      pc.phaseEnd = some (boundAt, secs) → pc.wait = some wait →
      boundAt ≤ now ∧ now < boundAt + fromSecs (leaseSecs.toNat + 1) := by
    intro secs wait le phase waits
    obtain ⟨start, deadline⟩ := timed.waiting wait waits
    obtain ⟨began, ends⟩ := timed.within boundAt secs phase wait waits
    unfold fromSecs at ends ⊢
    omega
  cases pc with
  | bound ack boundAt' wait =>
    cases holds
    exact inPhase t1Secs_le rfl rfl
  | renewing ack boundAt' xid renewSent wait =>
    cases holds
    exact inPhase phaseEndSecs_le rfl rfl
  | discovering | requesting | failed | resting | stopped => cases holds

theorem young_of_lt (young : now < boundAt + fromSecs (leaseSecs.toNat + 1)) :
    now < boundAt + fromSecs (2 ^ 32) :=
  Nat.lt_of_lt_of_le young (Nat.add_le_add_left (fromSecs_le leaseSecs.isLt) boundAt)

/-- A new wait outside of a lease. -/
theorem Begins.of_free {wait : Wait} (waits : pc.wait = some wait) (free : pc.phaseEnd = none)
    (start : wait.start = now) (long : fromSecs 1 ≤ wait.timeout) : Begins now pc := by
  constructor
  · intro wait' waits'
    cases waits.symm.trans waits'
    exact ⟨start, long⟩
  · intro boundAt secs phase
    cases free.symm.trans phase

/-- A new wait of whole seconds inside a lease. -/
theorem Begins.of_phase {secs : Nat} (waits : pc.wait = some ⟨now, fromSecs k⟩)
    (phase : pc.phaseEnd = some (boundAt, secs)) (after : boundAt ≤ now)
    (young : now < boundAt + fromSecs (2 ^ 32)) (long : 1 ≤ k)
    (fits : elapsedSecs boundAt now + k ≤ secs) : Begins now pc := by
  constructor
  · intro wait waits'
    cases waits.symm.trans waits'
    exact ⟨rfl, fromSecs_le long⟩
  · intro boundAt' secs' phase' wait waits'
    cases waits.symm.trans waits'
    cases phase.symm.trans phase'
    exact ⟨after, deadline_lt after young fits⟩

theorem discoverAttempt_begins : Begins now (discoverAttempt xid retryDelaySecs now jitter).1 :=
  .of_free rfl rfl rfl (Nat.le_max_left _ _)

theorem requestAttempt_begins :
    Begins now (requestAttempt xid offer retryDelaySecs now jitter).1 :=
  .of_free rfl rfl rfl (Nat.le_max_left _ _)

theorem restart_long : fromSecs 1 ≤ fromSecs socketRestartDelaySecs := by
  decide

theorem handlePhaseFailure_begins : Begins now (handlePhaseFailure now).1 :=
  .of_free rfl rfl rfl restart_long

theorem renewIteration_begins (after : boundAt ≤ now)
    (young : now < boundAt + fromSecs (ack.leaseSecs.toNat + 1)) :
    Begins now (renewIteration ack boundAt xid renewSent now).1 := by
  unfold renewIteration
  by_cases expired : ack.leaseSecs.toNat ≤ elapsedSecs boundAt now
  · rw [if_pos expired]
    exact handlePhaseFailure_begins
  · rw [if_neg expired]
    refine .of_phase rfl rfl after (young_of_lt young) ?_ ?_
    · rw [calculateRenewalParams_fst]
      exact one_le_retryInterval
    · rw [calculateRenewalParams_fst]
      have left : elapsedSecs boundAt now + remainingSecs ack boundAt now =
          phaseEndSecs ack.leaseSecs.toNat (elapsedSecs boundAt now) ∧
          0 < remainingSecs ack boundAt now := by
        unfold remainingSecs phaseEndSecs
        dsimp only
        split <;> omega
      have := retryInterval_le_remaining left.2
      change _ ≤ phaseEndSecs ack.leaseSecs.toNat (elapsedSecs boundAt now)
      omega

theorem boundLoop_begins (after : boundAt ≤ now)
    (young : now < boundAt + fromSecs (ack.leaseSecs.toNat + 1)) :
    Begins now (boundLoop ack boundAt xid now).1 := by
  unfold boundLoop
  dsimp only
  split
  · exact handlePhaseFailure_begins
  · split
    · rename_i early
      refine .of_phase rfl rfl after (young_of_lt young) ?_ ?_
      · unfold boundHeartbeatIntervalSecs
        omega
      · omega
    · exact renewIteration_begins after young

theorem boundPhase_begins : Begins now (boundPhase ack xid now).1 := by
  refine boundLoop_begins le_rfl ?_
  unfold fromSecs
  omega

theorem stopped_begins : Begins now .stopped := by
  constructor
  · exact nofun
  · exact nofun

theorem begins_or_passed {w : Worker} {input : Input} (timed : Timed w.now w.pc)
    (h : w.react mac input = some outcome) :
    Begins w.now outcome.1 ∨
      ∃ payload draw, input = .frame payload draw ∧ outcome = (w.pc, []) := by
  cases Reacts.of_react h with
  | @passed payload draw => exact .inr ⟨payload, draw, rfl, rfl⟩
  | discover free => exact .inl discoverAttempt_begins
  | request free => exact .inl requestAttempt_begins
  | acknowledged waits read => exact .inl boundPhase_begins
  | bound holds =>
    obtain ⟨after, young⟩ := timed.lease holds
    exact .inl (boundLoop_begins after young)
  | renew holds waits =>
    obtain ⟨after, young⟩ := timed.lease holds
    exact .inl (renewIteration_begins after young)
  | failed | lost => exact .inl handlePhaseFailure_begins
  | rest failed => exact .inl (.of_free rfl rfl rfl restart_long)
  | stopped => exact .inl stopped_begins

theorem Timed.react {w : Worker} {input : Input} (timed : Timed w.now w.pc)
    (h : w.react mac input = some outcome) : Timed w.now outcome.1 := by
  rcases begins_or_passed timed h with begins | ⟨payload, draw, -, rfl⟩
  · exact begins.timed
  · exact timed

/-! ## The trace -/

/-- A lease that stands now is younger than a second more than its time. -/
def Young (now : Nat) (ledger : Ledger) : Prop :=
  ∀ boundAt leaseSecs, ledger.standing = some (boundAt, leaseSecs) →
    now < boundAt + fromSecs (leaseSecs.toNat + 1)

/-- A lease is cleared or replaced while it is young. -/
def InTime (before : List Entry) (entry : Entry) : Prop :=
  entry.2.settles = true → Young entry.1 (ledger before)

variable {trace new after : List Entry}

theorem Young.record {before : Ledger} {traffic : Traffic} (young : Young now before) :
    Young now (before.record (now, traffic)) := by
  cases traffic with
  | received dhcp => exact young
  | sent msg =>
    cases msg with
    | applyWanLease ip prefixLen gateway dns =>
      intro boundAt leaseSecs stands
      cases stands
      unfold fromSecs
      omega
    | clearWanLease =>
      intro boundAt leaseSecs stands
      cases stands
    | sendDiscover | sendRequest | heartbeat => exact young

theorem inTime_append (each : Each InTime trace) (young : Young now (ledger trace))
    (atOnce : ∀ entry ∈ new, entry.1 = now) : Each InTime (trace ++ new) := by
  induction new generalizing trace with
  | nil =>
    rw [List.append_nil]
    exact each
  | cons entry new ih =>
    obtain ⟨time, traffic⟩ := entry
    cases atOnce _ List.mem_cons_self
    rw [List.append_cons]
    refine ih (each.concat fun _ => young) ?_ ?_
    · rw [ledger_concat]
      exact young.record
    · intro later listed
      exact atOnce later (List.mem_cons_of_mem _ listed)

theorem settled_or_standing (each : Each InTime (trace ++ after))
    (stands : (ledger trace).standing = some (boundAt, leaseSecs)) :
    (∃ entry ∈ after, entry.2.settles = true ∧
        entry.1 < boundAt + fromSecs (leaseSecs.toNat + 1)) ∨
      (ledger (trace ++ after)).standing = some (boundAt, leaseSecs) := by
  induction after generalizing trace with
  | nil =>
    rw [List.append_nil]
    exact .inr stands
  | cons entry after ih =>
    by_cases settles : entry.2.settles = true
    · have soon := each trace entry after rfl settles boundAt leaseSecs stands
      exact .inl ⟨entry, List.mem_cons_self, settles, soon⟩
    · rw [List.append_cons] at each ⊢
      have still : (ledger (trace ++ [entry])).standing = some (boundAt, leaseSecs) := by
        rw [ledger_concat, Ledger.standing_record (Bool.eq_false_of_not_eq_true settles)]
        exact stands
      rcases ih each still with ⟨later, listed, found⟩ | same
      · exact .inl ⟨later, List.mem_cons_of_mem _ listed, found⟩
      · exact .inr same

/-! ## Runs -/

/-- The worker, its waits and its trace. -/
structure OnTime (mac : MacAddr) (s : Recorded) : Prop where
  sound : Sound mac s.worker.pc s.trace
  timed : Timed s.worker.now s.worker.pc
  inTime : Each InTime s.trace

variable {s : Recorded}

theorem time_of_mem_sentAt {msgs : List ToParentMsg} {entry : Entry}
    (listed : entry ∈ sentAt now msgs) : entry.1 = now := by
  obtain ⟨msg, -, rfl⟩ := List.mem_map.mp listed
  rfl

theorem OnTime.young (onTime : OnTime mac s) : Young s.worker.now (ledger s.trace) := by
  intro boundAt leaseSecs stands
  rw [onTime.sound.standing] at stands
  exact (onTime.timed.lease stands).2

theorem Timed.step {t : Recorded} {input : Input} (timed : Timed s.worker.now s.worker.pc)
    (h : s.step mac input = some t) : Timed t.worker.now t.worker.pc := by
  cases Recorded.Moves.of_step h with
  | elapse inWait =>
    refine ⟨?_, timed.within⟩
    intro wait waits
    obtain ⟨start, -⟩ := timed.waiting wait waits
    exact ⟨Nat.le_add_right_of_le start, inWait wait waits⟩
  | react reacts => exact timed.react reacts

theorem OnTime.keep : Run.Inductive (Recorded.step mac) (fun _ _ => True) (OnTime mac) := by
  intro s input t onTime _ h
  have sound := Sound.keep s input t onTime.sound trivial h
  have timed := onTime.timed.step h
  cases Recorded.Moves.of_step h with
  | elapse inWait => exact ⟨sound, timed, onTime.inTime⟩
  | react reacts =>
    refine ⟨sound, timed, ?_⟩
    rw [List.append_assoc]
    refine inTime_append onTime.inTime onTime.young ?_
    intro entry listed
    rcases List.mem_append.mp listed with received | sent
    · obtain ⟨dhcp, -, rfl⟩ := List.mem_map.mp received
      rfl
    · exact time_of_mem_sentAt sent

theorem OnTime.init {start : Nat} : OnTime mac (Recorded.init start draw) := by
  refine ⟨.init, discoverAttempt_begins.timed, ?_⟩
  refine @inTime_append start [] (sentAt start (Worker.start start draw).2) .nil ?_ ?_
  · exact nofun
  · intro entry listed
    exact time_of_mem_sentAt listed

theorem OnTime.exec {start : Nat} {inputs : List Input}
    (run : Run.exec (Recorded.step mac) (Recorded.init start draw) inputs = some s) :
    OnTime mac s :=
  OnTime.keep.exec .init (.of_forall fun _ _ => trivial) run

/-! ### Time goes on -/

theorem step_elapse {d : Nat}
    (inWait : ∀ wait ∈ s.worker.pc.wait, s.worker.now + d ≤ wait.deadline) :
    s.step mac (.elapse d) = some ⟨⟨s.worker.now + d, s.worker.pc⟩, s.trace⟩ := by
  have allowed : s.worker.pc.wait.all (fun wait => s.worker.now + d ≤ wait.deadline) = true := by
    cases waits : s.worker.pc.wait with
    | none => rfl
    | some wait => exact decide_eq_true (inWait wait waits)
  simp [Recorded.step, Worker.step, allowed, receivedAt, sentAt, Input.received]

theorem onTimeout_isSome {wait : Wait} (waits : pc.wait = some wait) (draw : Draw)
    (now : Nat) : ∃ outcome, onTimeout draw now pc = some outcome := by
  cases pc with
  | stopped => cases waits
  | discovering | requesting | bound | renewing | failed | resting => exact ⟨_, rfl⟩

theorem exists_round {wait : Wait} (timed : Timed s.worker.now s.worker.pc)
    (waits : s.worker.pc.wait = some wait) (draw : Draw) :
    ∃ t : Recorded, Run.exec (Recorded.step mac) s
        [.elapse (wait.deadline - s.worker.now), .timeout draw] = some t ∧
      t.worker.now = wait.deadline ∧ Begins t.worker.now t.worker.pc := by
  obtain ⟨start, inWait⟩ := timed.waiting wait waits
  have sum : s.worker.now + (wait.deadline - s.worker.now) = wait.deadline :=
    Nat.add_sub_cancel' inWait
  have waited : s.step mac (.elapse (wait.deadline - s.worker.now)) =
      some ⟨⟨wait.deadline, s.worker.pc⟩, s.trace⟩ := by
    rw [step_elapse, sum]
    intro wait' waits'
    cases waits.symm.trans waits'
    exact Nat.le_of_eq sum
  obtain ⟨outcome, next⟩ := onTimeout_isSome waits draw wait.deadline
  have reacts : Worker.react mac ⟨wait.deadline, s.worker.pc⟩ (.timeout draw) = some outcome := by
    rw [Worker.react, if_pos, next]
    rw [waits]
    exact decide_eq_true le_rfl
  refine ⟨⟨⟨wait.deadline, outcome.1⟩,
    s.trace ++ receivedAt wait.deadline none ++ sentAt wait.deadline outcome.2⟩, ?_, rfl, ?_⟩
  · rw [Run.exec_cons, waited, Option.bind_some, Run.exec_cons, Recorded.step, Worker.step, reacts]
    · rfl
    · intro d same
      cases same
  · have atEnd : Timed wait.deadline s.worker.pc := by
      refine ⟨?_, timed.within⟩
      intro wait' waits'
      cases waits.symm.trans waits'
      exact ⟨Nat.le_trans start inWait, le_rfl⟩
    rcases begins_or_passed atEnd reacts with begins | ⟨payload, draw, same, -⟩
    · exact begins
    · cases same

theorem exists_later_of_stopped {goal : Nat} (idle : s.worker.pc.wait = none) :
    ∃ later t, Run.exec (Recorded.step mac) s later = some t ∧ goal ≤ t.worker.now := by
  have passes : s.step mac (.elapse (goal - s.worker.now)) =
      some ⟨⟨s.worker.now + (goal - s.worker.now), s.worker.pc⟩, s.trace⟩ := by
    apply step_elapse
    intro wait waits
    cases idle.symm.trans waits
  refine ⟨[.elapse (goal - s.worker.now)], _, Run.exec_cons_eq_some.mpr ⟨_, passes, rfl⟩, ?_⟩
  change goal ≤ s.worker.now + (goal - s.worker.now)
  omega

theorem exists_later_of_begins {goal : Nat} (begins : Begins s.worker.now s.worker.pc)
    (near : goal ≤ s.worker.now + fromSecs k) :
    ∃ later t, Run.exec (Recorded.step mac) s later = some t ∧ goal ≤ t.worker.now := by
  induction k generalizing s with
  | zero => exact ⟨[], s, rfl, near⟩
  | succ k ih =>
    cases waits : s.worker.pc.wait with
    | none => exact exists_later_of_stopped waits
    | some wait =>
      obtain ⟨start, long⟩ := begins.fresh wait waits
      obtain ⟨t, round, now, next⟩ := exists_round begins.timed waits ⟨0#32, 0⟩
      -- every wait takes a second at least
      have nearer : goal ≤ t.worker.now + fromSecs k := by
        rw [now, Wait.deadline, start]
        unfold fromSecs at *
        omega
      obtain ⟨later, u, run, reached⟩ := ih next nearer
      refine ⟨[Input.elapse (wait.deadline - s.worker.now), .timeout ⟨0#32, 0⟩] ++ later, u, ?_,
        reached⟩
      rw [Run.exec_append, round, Option.bind_some, run]

theorem exists_later (timed : Timed s.worker.now s.worker.pc) (goal : Nat) :
    ∃ later t, Run.exec (Recorded.step mac) s later = some t ∧ goal ≤ t.worker.now := by
  cases waits : s.worker.pc.wait with
  | none => exact exists_later_of_stopped waits
  | some wait =>
    obtain ⟨t, round, -, next⟩ := exists_round timed waits ⟨0#32, 0⟩
    have near : goal ≤ t.worker.now + fromSecs goal := by
      unfold fromSecs
      omega
    obtain ⟨later, u, run, reached⟩ := exists_later_of_begins next near
    refine ⟨[Input.elapse (wait.deadline - s.worker.now), .timeout ⟨0#32, 0⟩] ++ later, u, ?_,
      reached⟩
    rw [Run.exec_append, round, Option.bind_some, run]

/-- In every run of the worker, whatever the server does: a lease that was applied for an
acknowledgement of `L` seconds is cleared or replaced less than `L + 1` seconds later, or this
time is not over yet; a wait of `renew_lease` ends less than a second after its phase, which ends
at T2 for a renewal and with the lease for a rebinding; and time never stops. -/
theorem lease_answered_in_time {start : Nat} {inputs : List Input}
    (run : Run.exec (Recorded.step mac) (Recorded.init start draw) inputs = some s) :
    (∀ before after received now dhcp ip prefixLen gateway dns,
      s.trace = before ++ (received, .received dhcp) ::
          (now, .sent (.applyWanLease ip prefixLen gateway dns)) :: after →
        (∃ entry ∈ after, entry.2.settles = true ∧
            entry.1 < now + fromSecs ((parseLeaseOptions dhcp).leaseSecs.toNat + 1)) ∨
          s.worker.now < now + fromSecs ((parseLeaseOptions dhcp).leaseSecs.toNat + 1)) ∧
      (∀ ack boundAt xid renewSent wait,
        s.worker.pc = .renewing ack boundAt xid renewSent wait →
          if t2Secs ack.leaseSecs.toNat ≤ elapsedSecs boundAt wait.start then
            wait.deadline < boundAt + fromSecs (ack.leaseSecs.toNat + 1)
          else wait.deadline < boundAt + fromSecs (t2Secs ack.leaseSecs.toNat + 1)) ∧
      ∀ goal, ∃ later t, Run.exec (Recorded.step mac) s later = some t ∧ goal ≤ t.worker.now := by
  have onTime := OnTime.exec run
  refine ⟨?_, ?_, exists_later onTime.timed⟩
  · intro before after received now dhcp ip prefixLen gateway dns split
    rw [List.append_cons, List.append_cons] at split
    have each := onTime.inTime
    rw [split] at each
    have stands : (ledger (before ++ [(received, Traffic.received dhcp)] ++
        [(now, Traffic.sent (.applyWanLease ip prefixLen gateway dns))])).standing =
          some (now, (parseLeaseOptions dhcp).leaseSecs) := by
      rw [ledger_concat, ledger_concat]
      rfl
    rcases settled_or_standing each stands with settled | standing
    · exact .inl settled
    · rw [← split] at standing
      exact .inr (onTime.young _ _ standing)
  · intro ack boundAt xid renewSent wait pc
    have within := onTime.timed.within
    rw [pc] at within
    obtain ⟨-, ends⟩ := within _ _ rfl wait rfl
    unfold phaseEndSecs at ends
    split
    · rename_i rebinding
      rwa [if_pos rebinding] at ends
    · rename_i renewing
      rwa [if_neg renewing] at ends

/-- A lease of eight seconds, and then silence: the wait for T1 in two parts, and a request every
second up to the end. -/
def silenceRun : List Input :=
  serverRun 8#32 ++ [Input.elapse (fromSecs 3), .timeout clientDraw] ++
    (List.replicate 5 [Input.elapse (fromSecs 1), .timeout clientDraw]).flatten

/-- The lease is over after nine seconds, and the worker has cleared it after eight. -/
theorem silent_lease_answered_in_time :
    ∃ s before after, Run.exec (Recorded.step clientMac) (Recorded.init 0 clientDraw)
        silenceRun = some s ∧ s.worker.now = fromSecs 8 ∧
      s.trace = before ++ (0, .received (serverMessage .ack 8#32)) ::
        (0, .sent (.applyWanLease (.new 100 64 0 5) 24 (.new 100 64 0 1) [])) :: after ∧
      ((∃ entry ∈ after, entry.2.settles = true ∧ entry.1 < fromSecs 9) ∨
        s.worker.now < fromSecs 9) ∧
      (fromSecs 8, .sent .clearWanLease) ∈ after := by
  obtain ⟨s, run, now, applied, cleared⟩ : ∃ s, Run.exec (Recorded.step clientMac)
      (Recorded.init 0 clientDraw) silenceRun = some s ∧ s.worker.now = fromSecs 8 ∧
      s.trace.drop 6 = (0, .received (serverMessage .ack 8#32)) ::
        (0, .sent (.applyWanLease (.new 100 64 0 5) 24 (.new 100 64 0 1) [])) ::
          s.trace.drop 8 ∧
      (fromSecs 8, .sent .clearWanLease) ∈ s.trace.drop 8 := by
    decide +kernel
  have split := (List.take_append_drop 6 s.trace).symm
  rw [applied] at split
  have answered := (lease_answered_in_time run).1 _ _ _ _ _ _ _ _ _ split
  rw [Nat.zero_add] at answered
  exact ⟨s, _, _, run, now, split, answered, cleared⟩

end TrimRouter.DhcpClient
