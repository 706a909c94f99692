import TrimRouter.DhcpClient.RequestPhase

/-!
# The first request of a rebinding

`renew_lease` of `services/dhcp_client/worker.rs` sends when the time since its last request is at
least the current retry interval.  The interval halves the time that is left of the phase, so the
last request of the renewal is one second before T2; at T2 the interval becomes half of the rest of
the lease, and that second is compared with it.  `first_rebinding_sends_iff` follows from what each
round does while no answer comes (`Paced.keep`).
-/

namespace TrimRouter.DhcpClient

open Run

/-! ## The intervals -/

variable {mac : MacAddr} {ack : DhcpAck} {now since boundAt k n leaseSecs : Nat}
  {xid xid' renewXid : BitVec 32} {renewSent sent' : Option Nat} {wait : Wait}
  {trace more : List Entry} {s t : Recorded} {input : Input} {inputs : List Input}

theorem retryInterval_mono (le : k ≤ n) : retryInterval k ≤ retryInterval n := by
  unfold retryInterval
  split <;> split <;> omega

/-- The intervals of a phase end at its last second. -/
theorem eq_one_of_retryInterval_eq (left : 0 < n) (last : retryInterval n = n) : n = 1 := by
  unfold retryInterval at last
  split at last <;> omega

theorem retryInterval_le_one_iff : retryInterval n ≤ 1 ↔ n ≤ 3 := by
  unfold retryInterval
  split <;> omega

theorem rest_le_iff : leaseSecs - t2Secs leaseSecs ≤ 3 ↔ leaseSecs ≤ 24 := by
  unfold t2Secs
  omega

theorem t1Secs_le_t2Secs : t1Secs leaseSecs ≤ t2Secs leaseSecs := by
  unfold t1Secs t2Secs
  omega

theorem elapsedSecs_add (after : since ≤ now)
    (young : now + fromSecs k < since + fromSecs (2 ^ 32)) :
    elapsedSecs since (now + fromSecs k) = elapsedSecs since now + k := by
  unfold elapsedSecs asSecs fromSecs at *
  omega

theorem elapsedSecs_lt_iff (after : since ≤ now) (young : now < since + fromSecs (2 ^ 32)) :
    elapsedSecs since now < n ↔ now < since + fromSecs n := by
  unfold elapsedSecs asSecs fromSecs at *
  omega

theorem elapsedSecs_self_add (short : k < 2 ^ 32) : elapsedSecs now (now + fromSecs k) = k := by
  unfold elapsedSecs asSecs fromSecs
  omega

/-! ## One round -/

theorem remainingSecs_renewing (early : elapsedSecs boundAt now < t2Secs ack.leaseSecs.toNat) :
    remainingSecs ack boundAt now = t2Secs ack.leaseSecs.toNat - elapsedSecs boundAt now :=
  if_neg (Nat.not_le.mpr early)

theorem remainingSecs_rebinding (late : t2Secs ack.leaseSecs.toNat ≤ elapsedSecs boundAt now) :
    remainingSecs ack boundAt now = ack.leaseSecs.toNat - elapsedSecs boundAt now :=
  if_pos late

/-- A round of `renew_lease` within the lease: whether it sends, and how long it then waits. -/
theorem renewIteration_eq (lasts : elapsedSecs boundAt now < ack.leaseSecs.toNat) :
    renewIteration ack boundAt xid renewSent now =
      let interval := retryInterval (remainingSecs ack boundAt now)
      let shouldSend := renewSent.all fun t => interval ≤ elapsedSecs t now
      (.renewing ack boundAt xid (if shouldSend then some now else renewSent)
          ⟨now, fromSecs interval⟩,
        .heartbeat :: if shouldSend then
          [.sendRequest xid ack.ip
            (if t2Secs ack.leaseSecs.toNat ≤ elapsedSecs boundAt now then none else ack.serverIp)
            ack.ip]
        else []) := by
  unfold renewIteration
  rw [if_neg (Nat.not_le.mpr lasts)]
  dsimp only
  rw [calculateRenewalParams_fst]
  unfold calculateRenewalParams
  by_cases rebinding : t2Secs ack.leaseSecs.toNat ≤ elapsedSecs boundAt now
  · simp [rebinding]
  · simp [rebinding]

/-- What the last round of `renew_lease` has done.  The requests are those of the trace. -/
structure Round (ack : DhcpAck) (boundAt : Nat) (xid : BitVec 32) (renewSent : Option Nat)
    (wait : Wait) (trace : List Entry) : Prop where
  /-- no request is later than the one that the worker remembers -/
  latest : ∀ entry ∈ trace, entry.2.isRequest = true → ∃ t ∈ renewSent, entry.1 ≤ t
  past : ∀ t ∈ renewSent, t ≤ wait.start
  timeout : wait.timeout = fromSecs (retryInterval (remainingSecs ack boundAt wait.start))
  renewing : elapsedSecs boundAt wait.start < t2Secs ack.leaseSecs.toNat →
    renewSent = some wait.start
  rebinding : elapsedSecs boundAt wait.start = t2Secs ack.leaseSecs.toNat →
    if ack.leaseSecs.toNat ≤ 24 then
      (wait.start, .sent (.sendRequest xid ack.ip none ack.ip)) ∈ trace
    else ∃ t ∈ renewSent, t < wait.start

/-- The worker holds this lease and has not heard from the server since; or it has given the
lease up. -/
inductive Paced (ack : DhcpAck) (boundAt : Nat) : Recorded → Prop where
  | bound {now : Nat} {wait : Wait} {trace : List Entry} (quiet : Quiet trace) :
      Paced ack boundAt ⟨⟨now, .bound ack boundAt wait⟩, trace⟩
  | renewing {now : Nat} {xid : BitVec 32} {renewSent : Option Nat} {wait : Wait}
      {trace : List Entry} (round : Round ack boundAt xid renewSent wait trace) :
      Paced ack boundAt ⟨⟨now, .renewing ack boundAt xid renewSent wait⟩, trace⟩
  | free {s : Recorded} (free : s.worker.pc.lease = none) : Paced ack boundAt s

theorem Round.of_iteration (lasts : elapsedSecs boundAt now < ack.leaseSecs.toNat)
    (latest : ∀ entry ∈ trace, entry.2.isRequest = true → ∃ t ∈ renewSent, entry.1 ≤ t)
    (past : ∀ t ∈ renewSent, t < now)
    (renews : elapsedSecs boundAt now < t2Secs ack.leaseSecs.toNat →
      renewSent.all (fun t => retryInterval (remainingSecs ack boundAt now) ≤ elapsedSecs t now))
    (rebinds : elapsedSecs boundAt now = t2Secs ack.leaseSecs.toNat →
      (renewSent.all (fun t =>
        retryInterval (remainingSecs ack boundAt now) ≤ elapsedSecs t now) = true ↔
          ack.leaseSecs.toNat ≤ 24)) :
    Paced ack boundAt ⟨⟨now, (renewIteration ack boundAt xid renewSent now).1⟩,
      trace ++ sentAt now (renewIteration ack boundAt xid renewSent now).2⟩ := by
  rw [renewIteration_eq lasts]
  dsimp only
  refine .renewing ?_
  by_cases sends : renewSent.all (fun t =>
      retryInterval (remainingSecs ack boundAt now) ≤ elapsedSecs t now) = true
  · rw [if_pos sends, if_pos sends]
    refine ⟨?_, ?_, rfl, fun _ => rfl, ?_⟩
    · intro entry listed request
      refine ⟨now, rfl, ?_⟩
      rcases List.mem_append.mp listed with earlier | fresh
      · obtain ⟨t, sent, before⟩ := latest entry earlier request
        exact before.trans (past t sent).le
      · exact (time_of_mem_sentAt fresh).le
    · intro t sent
      exact (Option.some.inj sent).symm.le
    · intro atT2
      rw [if_pos ((rebinds atT2).mp sends)]
      simp [sentAt, Nat.le_of_eq atT2.symm]
  · rw [if_neg sends, if_neg sends]
    refine ⟨?_, fun t sent => (past t sent).le, rfl, ?_, ?_⟩
    · intro entry listed request
      rcases List.mem_append.mp listed with earlier | fresh
      · exact latest entry earlier request
      · rw [quiet_heartbeat entry fresh] at request
        cases request
    · intro early
      exact absurd (renews early) sends
    · intro atT2
      rw [if_neg (mt (rebinds atT2).mpr sends)]
      -- a worker that has not sent yet sends
      cases sent : renewSent with
      | none => rw [sent] at sends; exact absurd rfl sends
      | some t => exact ⟨t, rfl, past t sent⟩

theorem elapsedSecs_le_t1 (after : boundAt ≤ now)
    (young : now < boundAt + fromSecs (t1Secs ack.leaseSecs.toNat + 1)) :
    elapsedSecs boundAt now ≤ t1Secs ack.leaseSecs.toNat := by
  apply Nat.le_of_lt_succ
  rw [Nat.succ_eq_add_one, elapsedSecs_lt_iff after]
  · exact young
  · have bounded := ack.leaseSecs.isLt
    exact young.trans_le (Nat.add_le_add_left (fromSecs_le (by unfold t1Secs; omega)) boundAt)

/-- The rounds of `bound_phase`, up to the first one of the renewal. -/
theorem Paced.of_boundLoop (after : boundAt ≤ now)
    (young : now < boundAt + fromSecs (t1Secs ack.leaseSecs.toNat + 1))
    (quiet : Quiet trace) :
    Paced ack boundAt ⟨⟨now, (boundLoop ack boundAt xid now).1⟩,
      trace ++ sentAt now (boundLoop ack boundAt xid now).2⟩ := by
  have early := elapsedSecs_le_t1 after young
  unfold boundLoop
  dsimp only
  by_cases expired : ack.leaseSecs.toNat ≤ elapsedSecs boundAt now
  · rw [if_pos expired]
    exact .free rfl
  · rw [if_neg expired]
    by_cases waits : elapsedSecs boundAt now < t1Secs ack.leaseSecs.toNat
    · rw [if_pos waits]
      exact .bound (quiet.append quiet_heartbeat)
    · rw [if_neg waits]
      refine Round.of_iteration (Nat.lt_of_not_le expired) ?_ nofun (fun _ => rfl) ?_
      · intro entry earlier request
        rw [quiet entry earlier] at request
        cases request
      · intro atT2
        -- T1 is T2 for leases of one and two seconds only
        have short : ack.leaseSecs.toNat ≤ 24 := by
          unfold t1Secs t2Secs at *
          omega
        exact iff_of_true rfl short

theorem Round.next_elapsed (after : boundAt ≤ wait.start)
    (young : wait.deadline < boundAt + fromSecs (ack.leaseSecs.toNat + 1))
    (round : Round ack boundAt xid renewSent wait trace) :
    elapsedSecs boundAt wait.deadline =
      elapsedSecs boundAt wait.start + retryInterval (remainingSecs ack boundAt wait.start) := by
  unfold Wait.deadline at young ⊢
  rw [round.timeout] at young ⊢
  exact elapsedSecs_add after (young_of_lt young)

/-- Before T2 the last request is as old as the last round is long. -/
theorem Round.sent_elapsed (early : elapsedSecs boundAt wait.start < t2Secs ack.leaseSecs.toNat)
    (round : Round ack boundAt xid renewSent wait trace) :
    elapsedSecs wait.start wait.deadline =
      retryInterval (remainingSecs ack boundAt wait.start) := by
  unfold Wait.deadline
  rw [round.timeout]
  apply elapsedSecs_self_add
  have fits := retryInterval_le_remaining (Nat.sub_pos_of_lt early)
  have bounded := ack.leaseSecs.isLt
  have inLease := @t2Secs_le ack.leaseSecs.toNat
  rw [remainingSecs_renewing early]
  omega

theorem Paced.of_round (after : boundAt ≤ wait.start)
    (young : wait.deadline < boundAt + fromSecs (ack.leaseSecs.toNat + 1))
    (round : Round ack boundAt xid renewSent wait trace) :
    Paced ack boundAt ⟨⟨wait.deadline, (renewIteration ack boundAt xid renewSent wait.deadline).1⟩,
      trace ++ sentAt wait.deadline
        (renewIteration ack boundAt xid renewSent wait.deadline).2⟩ := by
  have next := round.next_elapsed after young
  have long : 1 ≤ retryInterval (remainingSecs ack boundAt wait.start) := one_le_retryInterval
  have later : wait.start < wait.deadline := by
    unfold Wait.deadline
    rw [round.timeout]
    have := fromSecs_le long
    unfold fromSecs at *
    omega
  by_cases expired : ack.leaseSecs.toNat ≤ elapsedSecs boundAt wait.deadline
  · unfold renewIteration
    rw [if_pos expired]
    exact .free rfl
  · have lasts := Nat.lt_of_not_le expired
    refine Round.of_iteration lasts round.latest (fun t sent => (round.past t sent).trans_lt later)
      ?_ ?_
    · intro early
      have before : elapsedSecs boundAt wait.start < t2Secs ack.leaseSecs.toNat := by omega
      rw [round.renewing before]
      apply decide_eq_true
      rw [round.sent_elapsed before]
      apply retryInterval_mono
      rw [remainingSecs_renewing before, remainingSecs_renewing early]
      omega
    · intro atT2
      have before : elapsedSecs boundAt wait.start < t2Secs ack.leaseSecs.toNat := by omega
      have last : retryInterval (remainingSecs ack boundAt wait.start) = 1 := by
        rw [remainingSecs_renewing before] at next ⊢
        have rest : retryInterval (t2Secs ack.leaseSecs.toNat - elapsedSecs boundAt wait.start) =
            t2Secs ack.leaseSecs.toNat - elapsedSecs boundAt wait.start := by
          omega
        exact rest.trans (eq_one_of_retryInterval_eq (Nat.sub_pos_of_lt before) rest)
      rw [round.renewing before, Option.all_some, decide_eq_true_iff, round.sent_elapsed before,
        last, retryInterval_le_one_iff, remainingSecs_rebinding atT2.ge, atT2, rest_le_iff]

theorem Round.append (round : Round ack boundAt xid renewSent wait trace) (quiet : Quiet more) :
    Round ack boundAt xid renewSent wait (trace ++ more) := by
  refine ⟨?_, round.past, round.timeout, round.renewing, ?_⟩
  · intro entry listed request
    rcases List.mem_append.mp listed with before | after
    · exact round.latest entry before request
    · rw [quiet entry after] at request
      cases request
  · intro atT2
    have done := round.rebinding atT2
    split
    · rename_i short
      rw [if_pos short] at done
      exact List.mem_append_left _ done
    · rename_i long
      rwa [if_neg long] at done

/-! ## Unanswered runs -/

/-- The worker right after an acknowledgement, with the trace from there on. -/
def Recorded.acknowledged (ack : DhcpAck) (renewXid : BitVec 32) (boundAt : Nat) : Recorded :=
  ⟨⟨boundAt, (boundPhase ack renewXid boundAt).1⟩,
    sentAt boundAt (boundPhase ack renewXid boundAt).2⟩

/-- What an unanswered step does. -/
inductive Silent (ack : DhcpAck) (boundAt : Nat) (s : Recorded) : Recorded → Prop where
  /-- time passes, or a frame is passed over -/
  | same {now : Nat} {more : List Entry} (quiet : Quiet more) :
      Silent ack boundAt s ⟨⟨now, s.worker.pc⟩, s.trace ++ more⟩
  /-- a round of `bound_phase`, before T1 or at T1 -/
  | loop {xid : BitVec 32} {more : List Entry} (before : Quiet (s.trace ++ more))
      (after : boundAt ≤ s.worker.now)
      (young : s.worker.now < boundAt + fromSecs (t1Secs ack.leaseSecs.toNat + 1)) :
      Silent ack boundAt s ⟨⟨s.worker.now, (boundLoop ack boundAt xid s.worker.now).1⟩,
        s.trace ++ more ++ sentAt s.worker.now (boundLoop ack boundAt xid s.worker.now).2⟩
  /-- a round of `renew_lease` -/
  | round {xid : BitVec 32} {renewSent : Option Nat} {wait : Wait} {more : List Entry}
      (pc : s.worker.pc = .renewing ack boundAt xid renewSent wait)
      (round : Round ack boundAt xid renewSent wait (s.trace ++ more))
      (after : boundAt ≤ wait.start)
      (young : wait.deadline < boundAt + fromSecs (ack.leaseSecs.toNat + 1)) :
      Silent ack boundAt s
        ⟨⟨wait.deadline, (renewIteration ack boundAt xid renewSent wait.deadline).1⟩,
          s.trace ++ more ++ sentAt wait.deadline
            (renewIteration ack boundAt xid renewSent wait.deadline).2⟩
  /-- the lease is given up -/
  | free {t : Recorded} (free : t.worker.pc.lease = none) : Silent ack boundAt s t

theorem Silent.of_step (timed : Timed s.worker.now s.worker.pc) (paced : Paced ack boundAt s)
    (silent : input.answers mac s.worker.pc = false) (h : s.step mac input = some t) :
    Silent ack boundAt s t := by
  cases Recorded.Moves.of_step h with
  | elapse inWait =>
    rw [← List.append_nil s.trace]
    exact .same (List.forall_mem_nil _)
  | @react _ outcome reacts =>
    cases paced with
    | @bound now wait trace quiet =>
      rcases react_bound reacts with ⟨xid, rfl⟩ | free
      · obtain ⟨start, ends⟩ := timed.waiting wait rfl
        obtain ⟨began, phase⟩ := timed.within _ _ rfl wait rfl
        exact .loop (quiet.append quiet_received) (began.trans start) (ends.trans_lt phase)
      · exact .free free
    | @renewing now xid renewSent wait trace round =>
      rcases react_renewing reacts (answersTo_of_waits rfl silent) with rfl | ⟨late, rfl⟩ | free
      · simp only [sentAt, List.map_nil, List.append_nil]
        exact .same quiet_received
      · obtain ⟨start, ends⟩ := timed.waiting wait rfl
        obtain ⟨began, phase⟩ := timed.within _ _ rfl wait rfl
        obtain rfl : now = wait.deadline := Nat.le_antisymm ends late
        refine .round rfl (round.append quiet_received) began ?_
        exact phase.trans_le (Nat.add_le_add_left (fromSecs_le
          (Nat.succ_le_succ phaseEndSecs_le)) boundAt)
      · exact .free free
    | free free => exact .free (lease_none_of_silent reacts silent free)

theorem Paced.keep : Inductive (Recorded.step mac)
    (fun s input => input.answers mac s.worker.pc = false)
    (fun s => Timed s.worker.now s.worker.pc ∧ Paced ack boundAt s) := by
  intro s input t ⟨timed, paced⟩ silent h
  refine ⟨timed.step h, ?_⟩
  cases Silent.of_step timed paced silent h with
  | same quiet =>
    cases paced with
    | bound before => exact .bound (before.append quiet)
    | renewing round => exact .renewing (round.append quiet)
    | free free => exact .free free
  | loop before after young => exact .of_boundLoop after young before
  | round pc round after young => exact .of_round after young round
  | free free => exact .free free

theorem Paced.start : Timed (Recorded.acknowledged ack renewXid boundAt).worker.now
    (Recorded.acknowledged ack renewXid boundAt).worker.pc ∧
      Paced ack boundAt (Recorded.acknowledged ack renewXid boundAt) := by
  refine ⟨boundPhase_begins.timed, ?_⟩
  have applied : Quiet (sentAt boundAt [applyLeaseConfig ack]) := by
    intro entry listed
    rw [List.mem_singleton.mp listed]
    rfl
  have young : boundAt < boundAt + fromSecs (t1Secs ack.leaseSecs.toNat + 1) := by
    unfold fromSecs
    omega
  exact Paced.of_boundLoop (Nat.le_refl boundAt) young applied

theorem now_le_of_step (h : s.step mac input = some t) : s.worker.now ≤ t.worker.now := by
  cases Recorded.Moves.of_step h with
  | elapse inWait => exact Nat.le_add_right _ _
  | react reacts => exact Nat.le_refl _

theorem start_of_renewIteration (pc : (renewIteration ack boundAt xid renewSent now).1 =
    .renewing ack boundAt xid' sent' wait) : wait.start = now := by
  by_cases expired : ack.leaseSecs.toNat ≤ elapsedSecs boundAt now
  · unfold renewIteration at pc
    rw [if_pos expired] at pc
    cases pc
  · rw [renewIteration_eq (Nat.lt_of_not_le expired)] at pc
    cases pc
    rfl

theorem elapsed_of_boundLoop (after : boundAt ≤ now)
    (young : now < boundAt + fromSecs (t1Secs ack.leaseSecs.toNat + 1))
    (pc : (boundLoop ack boundAt xid now).1 = .renewing ack boundAt xid' renewSent wait) :
    elapsedSecs boundAt wait.start ≤ t2Secs ack.leaseSecs.toNat := by
  have early := elapsedSecs_le_t1 after young
  unfold boundLoop at pc
  dsimp only at pc
  split at pc
  · cases pc
  · split at pc
    · cases pc
    · rw [start_of_renewIteration pc]
      exact early.trans t1Secs_le_t2Secs

/-- Somewhere in the run a round begins right at T2. -/
def RoundAtT2 (mac : MacAddr) (ack : DhcpAck) (renewXid : BitVec 32) (boundAt : Nat)
    (inputs : List Input) : Prop :=
  ∃ done t xid renewSent wait, done <+: inputs ∧
    exec (Recorded.step mac) (.acknowledged ack renewXid boundAt) done = some t ∧
    t.worker.pc = .renewing ack boundAt xid renewSent wait ∧
    elapsedSecs boundAt wait.start = t2Secs ack.leaseSecs.toNat

theorem RoundAtT2.append (round : RoundAtT2 mac ack renewXid boundAt inputs) :
    RoundAtT2 mac ack renewXid boundAt (inputs ++ [input]) := by
  obtain ⟨done, t, xid, renewSent, wait, inside, found⟩ := round
  exact ⟨done, t, xid, renewSent, wait, inside.trans (List.prefix_append _ _), found⟩

theorem exists_round_at_t2
    (silent : Meets (Recorded.step mac) (fun s input => input.answers mac s.worker.pc = false)
      (.acknowledged ack renewXid boundAt) inputs)
    (run : exec (Recorded.step mac) (.acknowledged ack renewXid boundAt) inputs = some s)
    (pc : s.worker.pc = .renewing ack boundAt xid renewSent wait)
    (late : t2Secs ack.leaseSecs.toNat ≤ elapsedSecs boundAt wait.start) :
    RoundAtT2 mac ack renewXid boundAt inputs := by
  -- a last round that is not after T2 is the one
  have this_one : elapsedSecs boundAt wait.start ≤ t2Secs ack.leaseSecs.toNat →
      RoundAtT2 mac ack renewXid boundAt inputs := fun inTime =>
    ⟨_, _, xid, renewSent, wait, List.prefix_rfl, run, pc, Nat.le_antisymm inTime late⟩
  induction inputs using List.reverseRecOn generalizing s xid renewSent wait with
  | nil =>
    cases run
    have young : boundAt < boundAt + fromSecs (t1Secs ack.leaseSecs.toNat + 1) := by
      unfold fromSecs
      omega
    exact this_one (elapsed_of_boundLoop (Nat.le_refl boundAt) young pc)
  | append_singleton inputs input ih =>
    rw [exec_append] at run
    obtain ⟨mid, part, last⟩ := Option.bind_eq_some_iff.mp run
    obtain ⟨t, taken, same⟩ := exec_cons_eq_some.mp last
    cases same
    obtain ⟨before, now, -⟩ := (meets_append part).mp silent
    obtain ⟨timed, paced⟩ := Paced.keep.exec Paced.start before part
    have earlier : ∀ {xid₀ sent₀ wait₀},
        mid.worker.pc = .renewing ack boundAt xid₀ sent₀ wait₀ →
        t2Secs ack.leaseSecs.toNat ≤ elapsedSecs boundAt wait₀.start →
        RoundAtT2 mac ack renewXid boundAt (inputs ++ [input]) := by
      intro xid₀ sent₀ wait₀ pc₀ late₀
      refine (ih before part pc₀ late₀ fun inTime => ?_).append
      exact ⟨_, _, xid₀, sent₀, wait₀, List.prefix_rfl, part, pc₀, Nat.le_antisymm inTime late₀⟩
    cases Silent.of_step timed paced now taken with
    | same quiet => exact earlier pc late
    | loop quiet after young => exact this_one (elapsed_of_boundLoop after young pc)
    | @round xid₀ sent₀ wait₀ more pc₀ round after young =>
      by_cases late₀ : t2Secs ack.leaseSecs.toNat ≤ elapsedSecs boundAt wait₀.start
      · exact earlier pc₀ late₀
      · have early := Nat.lt_of_not_le late₀
        apply this_one
        have fits := retryInterval_le_remaining (Nat.sub_pos_of_lt early)
        rw [start_of_renewIteration pc, round.next_elapsed after young,
          remainingSecs_renewing early]
        omega
    | free free =>
      rw [pc] at free
      cases free

/-- The last round that the worker has begun is the first one of the run that sees T2. -/
structure FirstRebinding (mac : MacAddr) (ack : DhcpAck) (renewXid : BitVec 32) (boundAt : Nat)
    (inputs : List Input) (s : Recorded) (xid : BitVec 32) (renewSent : Option Nat)
    (wait : Wait) : Prop where
  run : exec (Recorded.step mac) (.acknowledged ack renewXid boundAt) inputs = some s
  pc : s.worker.pc = .renewing ack boundAt xid renewSent wait
  late : t2Secs ack.leaseSecs.toNat ≤ elapsedSecs boundAt wait.start
  first : ∀ done t xid' sent' wait', done <+: inputs →
    exec (Recorded.step mac) (.acknowledged ack renewXid boundAt) done = some t →
    t.worker.pc = .renewing ack boundAt xid' sent' wait' →
    t2Secs ack.leaseSecs.toNat ≤ elapsedSecs boundAt wait'.start → wait'.start = wait.start

/-- A round that begins at the very instant of T2 is the first one that sees it. -/
theorem FirstRebinding.of_now
    (run : exec (Recorded.step mac) (.acknowledged ack renewXid boundAt) inputs = some s)
    (pc : s.worker.pc = .renewing ack boundAt xid renewSent wait)
    (now : s.worker.now = wait.start)
    (atT2 : wait.start = boundAt + fromSecs (t2Secs ack.leaseSecs.toNat)) :
    FirstRebinding mac ack renewXid boundAt inputs s xid renewSent wait := by
  have timedAlong : ∀ {done t}, exec (Recorded.step mac)
      (.acknowledged ack renewXid boundAt) done = some t → Timed t.worker.now t.worker.pc := by
    intro done t part
    exact exec_keeps (fun s => Timed s.worker.now s.worker.pc)
      (fun _ _ _ timed => timed.step) Paced.start.1 part
  have bounded := ack.leaseSecs.isLt
  have short := @t2Secs_le ack.leaseSecs.toNat
  refine ⟨run, pc, ?_, ?_⟩
  · rw [atT2, elapsedSecs_self_add (by omega)]
  · intro done t xid' sent' wait' inside part pc' late
    obtain ⟨rest, rfl⟩ := inside
    rw [exec_append, part, Option.bind_some] at run
    have timed := timedAlong part
    rw [pc'] at timed
    obtain ⟨begun, -⟩ := timed.waiting wait' rfl
    obtain ⟨after, -⟩ := timed.within _ _ rfl wait' rfl
    have before : t.worker.now ≤ s.worker.now :=
      exec_keeps (fun u => t.worker.now ≤ u.worker.now)
        (fun _ _ _ le h => le.trans (now_le_of_step h)) le_rfl run
    have young : wait'.start < boundAt + fromSecs (2 ^ 32) := by
      have := begun.trans (before.trans_eq (now.trans atT2))
      unfold fromSecs at *
      omega
    have notEarly := mt (elapsedSecs_lt_iff after young).mpr (Nat.not_lt.mpr late)
    omega

theorem FirstRebinding.round
    (rebinding : FirstRebinding mac ack renewXid boundAt inputs s xid renewSent wait)
    (silent : Meets (Recorded.step mac) (fun s input => input.answers mac s.worker.pc = false)
      (.acknowledged ack renewXid boundAt) inputs) :
    Round ack boundAt xid renewSent wait s.trace := by
  obtain ⟨-, paced⟩ := Paced.keep.exec Paced.start silent rebinding.run
  have pc := rebinding.pc
  cases paced with
  | bound quiet => cases pc
  | free free => rw [pc] at free; cases free
  | renewing round =>
    cases pc
    exact round

/-- In every run without an answer from the server, the first round of `renew_lease` that sees T2
broadcasts a request exactly when the lease has at most 24 seconds.  That round is right at T2. -/
theorem first_rebinding_sends_iff
    (silent : Meets (Recorded.step mac) (fun s input => input.answers mac s.worker.pc = false)
      (.acknowledged ack renewXid boundAt) inputs)
    (rebinding : FirstRebinding mac ack renewXid boundAt inputs s xid renewSent wait) :
    elapsedSecs boundAt wait.start = t2Secs ack.leaseSecs.toNat ∧
      ((wait.start, .sent (.sendRequest xid ack.ip none ack.ip)) ∈ s.trace ↔
        ack.leaseSecs.toNat ≤ 24) := by
  obtain ⟨done, t, xid', sent', wait', inside, part, pc', atT2'⟩ :=
    exists_round_at_t2 silent rebinding.run rebinding.pc rebinding.late
  have same := rebinding.first done t xid' sent' wait' inside part pc' atT2'.ge
  have atT2 : elapsedSecs boundAt wait.start = t2Secs ack.leaseSecs.toNat := same ▸ atT2'
  refine ⟨atT2, ?_⟩
  have round := rebinding.round silent
  have sent := round.rebinding atT2
  constructor
  · intro listed
    by_contra long
    rw [if_neg long] at sent
    obtain ⟨t, remembered, older⟩ := sent
    obtain ⟨t', remembered', newer⟩ := round.latest _ listed rfl
    cases remembered.symm.trans remembered'
    exact absurd older (Nat.not_lt.mpr newer)
  · intro short
    rwa [if_pos short] at sent

/-- The acknowledgement of a lease of this length. -/
def sampleAck (leaseSecs : BitVec 32) : DhcpAck where
  ip := .new 100 64 0 5
  mask := .new 255 255 255 0
  gateway := some (.new 100 64 0 1)
  serverIp := some (.new 100 64 0 1)
  leaseSecs := leaseSecs
  dnsServers := []

/-- Nothing arrives, and the waits take this many seconds. -/
def silentFor (waits : List Nat) : List Input :=
  waits.flatMap fun secs => [.elapse (fromSecs secs), .timeout clientDraw]

/-- A lease of 24 seconds: a broadcast at T2, after 21 seconds. -/
theorem first_rebinding_sends_at_t2 :
    ∃ s wait, Meets (Recorded.step clientMac)
        (fun s input => input.answers clientMac s.worker.pc = false)
        (.acknowledged (sampleAck 24) 7 0) (silentFor [3, 3, 3, 3, 4, 2, 1, 1, 1]) ∧
      FirstRebinding clientMac (sampleAck 24) 7 0 (silentFor [3, 3, 3, 3, 4, 2, 1, 1, 1]) s 7
        (some (fromSecs 21)) wait ∧ wait.start = fromSecs 21 ∧
      (wait.start, .sent (.sendRequest 7 (.new 100 64 0 5) none (.new 100 64 0 5))) ∈ s.trace := by
  have silent : Meets (Recorded.step clientMac)
      (fun s input => input.answers clientMac s.worker.pc = false)
      (.acknowledged (sampleAck 24) 7 0) (silentFor [3, 3, 3, 3, 4, 2, 1, 1, 1]) := by
    decide +kernel
  obtain ⟨s, run, worker⟩ : ∃ s, exec (Recorded.step clientMac) (.acknowledged (sampleAck 24) 7 0)
      (silentFor [3, 3, 3, 3, 4, 2, 1, 1, 1]) = some s ∧ s.worker =
        ⟨fromSecs 21, .renewing (sampleAck 24) 0 7 (some (fromSecs 21))
          ⟨fromSecs 21, fromSecs 1⟩⟩ := by
    decide +kernel
  have rebinding := FirstRebinding.of_now run (congrArg Worker.pc worker)
    (congrArg Worker.now worker) rfl
  have sends := (first_rebinding_sends_iff silent rebinding).2.mpr (by decide)
  exact ⟨s, _, silent, rebinding, rfl, sends⟩

/-- The waits of a lease of an hour up to T2: the rounds of `bound_phase` up to T1, and the halving
ones of the renewal. -/
def hourWaits : List Nat :=
  List.replicate 600 3 ++ [675, 337, 169, 84, 60, 12, 6, 3, 2, 1, 1]

/-- A lease of an hour: the last unicast request is sent after 3149 seconds, and at T2 the worker
waits for another 225 seconds without sending. -/
theorem first_rebinding_waits :
    ∃ s wait, Meets (Recorded.step clientMac)
        (fun s input => input.answers clientMac s.worker.pc = false)
        (.acknowledged (sampleAck 3600) 7 0) (silentFor hourWaits) ∧
      FirstRebinding clientMac (sampleAck 3600) 7 0 (silentFor hourWaits) s 7
        (some (fromSecs 3149)) wait ∧ wait.timeout = fromSecs 225 ∧
      (wait.start, .sent (.sendRequest 7 (.new 100 64 0 5) none (.new 100 64 0 5))) ∉ s.trace := by
  have silent : Meets (Recorded.step clientMac)
      (fun s input => input.answers clientMac s.worker.pc = false)
      (.acknowledged (sampleAck 3600) 7 0) (silentFor hourWaits) := by
    decide +kernel
  obtain ⟨s, run, worker⟩ : ∃ s, exec (Recorded.step clientMac)
      (.acknowledged (sampleAck 3600) 7 0) (silentFor hourWaits) = some s ∧ s.worker =
        ⟨fromSecs 3150, .renewing (sampleAck 3600) 0 7 (some (fromSecs 3149))
          ⟨fromSecs 3150, fromSecs 225⟩⟩ := by
    decide +kernel
  have rebinding := FirstRebinding.of_now run (congrArg Worker.pc worker)
    (congrArg Worker.now worker) rfl
  refine ⟨s, _, silent, rebinding, rfl, ?_⟩
  intro listed
  obtain ⟨t, remembered, newer⟩ := (rebinding.round silent).latest _ listed rfl
  cases remembered
  exact absurd newer (by decide +kernel)

end TrimRouter.DhcpClient
