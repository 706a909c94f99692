import TrimRouter.DhcpClient.Expiry

/-!
# How long the REQUEST phase lasts

`request_phase` of `services/dhcp_client/worker.rs` repeats its request with delays of 4, 8, 16, 32
and then always 64 seconds, each with a jitter of a second.  It counts no attempts, so only an
answer of the server, or the end of the socket to the parent, ends it.  `request_phase_returns_iff`
says when the phase ends, and how many requests it sends until then.
-/

namespace TrimRouter.DhcpClient

open Run

/-! ## Requests in a trace -/

/-- A request of the worker. -/
def Traffic.isRequest : Traffic → Bool
  | .sent (.sendRequest _ _ _ _) => true
  | _ => false

/-- A DISCOVER of the worker. -/
def Traffic.isDiscover : Traffic → Bool
  | .sent (.sendDiscover _) => true
  | _ => false

/-- The number of requests. -/
def requests (trace : List Entry) : Nat := trace.countP fun entry => entry.2.isRequest

/-- No entry is a request. -/
def Quiet (trace : List Entry) : Prop := ∀ entry ∈ trace, entry.2.isRequest = false

variable {mac : MacAddr} {xid : BitVec 32} {offer : DhcpOffer} {start delay now : Nat}
  {wait : Wait} {jitter : Fin (fromSecs 2 + 1)} {s t : Recorded} {input : Input}
  {inputs : List Input} {trace more : List Entry} {payload : Option Message}

theorem Quiet.append (left : Quiet trace) (right : Quiet more) : Quiet (trace ++ more) :=
  List.forall_mem_append.mpr ⟨left, right⟩

theorem quiet_heartbeat : Quiet (sentAt now [.heartbeat]) := by
  intro entry listed
  rw [List.mem_singleton.mp listed]
  rfl

theorem quiet_received : Quiet (receivedAt now payload) := by
  intro entry listed
  obtain ⟨dhcp, -, rfl⟩ := List.mem_map.mp listed
  rfl

theorem requests_append_quiet (quiet : Quiet more) : requests (trace ++ more) = requests trace := by
  unfold requests
  have nothing : more.countP (fun entry => entry.2.isRequest) = 0 := by
    rw [List.countP_eq_zero]
    intro entry listed
    rw [quiet entry listed]
    exact Bool.false_ne_true
  rw [List.countP_append, nothing, Nat.add_zero]

/-! ## The phase -/

/-- The worker right after an offer, with the trace from there on. -/
def Recorded.offered (xid : BitVec 32) (offer : DhcpOffer) (start : Nat)
    (jitter : Fin (fromSecs 2 + 1)) : Recorded :=
  ⟨⟨start, (requestAttempt xid offer initialRetryDelaySecs start jitter).1⟩,
    sentAt start (requestAttempt xid offer initialRetryDelaySecs start jitter).2⟩

/-- The worker is in the REQUEST phase for this offer. -/
def Pc.Requesting (xid : BitVec 32) (offer : DhcpOffer) (pc : Pc) : Prop :=
  ∃ delay wait, pc = .requesting xid offer delay wait

/-- The input ends a REQUEST phase: a matching answer, or the end of the socket. -/
def Input.concludes (mac : MacAddr) (xid : BitVec 32) (input : Input) : Bool :=
  input.answersTo mac xid || input.ends

/-- The worker is still asking, and its requests follow the clock: each of the waits so far took
between 3 and 65 seconds. -/
structure Asking (xid : BitVec 32) (offer : DhcpOffer) (start : Nat) (s : Recorded) (delay : Nat)
    (wait : Wait) : Prop where
  pc : s.worker.pc = .requesting xid offer delay wait
  delays : 4 ≤ delay ∧ delay ≤ 64
  timeout : fromSecs 3 ≤ wait.timeout ∧ wait.timeout ≤ fromSecs 65
  inWait : wait.start ≤ s.worker.now ∧ s.worker.now ≤ wait.deadline
  asked : 0 < requests s.trace
  slow : start + fromSecs 3 * (requests s.trace - 1) ≤ wait.start
  fast : wait.start ≤ start + fromSecs 65 * (requests s.trace - 1)
  noDiscover : ∀ entry ∈ s.trace, entry.2.isDiscover = false

theorem getJitteredDuration_bounds (delays : 4 ≤ delay ∧ delay ≤ 64) :
    fromSecs 3 ≤ getJitteredDuration delay jitter ∧
      getJitteredDuration delay jitter ≤ fromSecs 65 := by
  have drawn := jitter.isLt
  unfold getJitteredDuration fromSecs at *
  omega

theorem calculateNextDelay_bounds (delays : 4 ≤ delay ∧ delay ≤ 64) :
    4 ≤ calculateNextDelay delay ∧ calculateNextDelay delay ≤ 64 := by
  unfold calculateNextDelay maxRetryDelaySecs
  dsimp only
  split <;> omega

theorem requests_requestAttempt :
    requests (trace ++ sentAt now (requestAttempt xid offer delay now jitter).2) =
      requests trace + 1 := by
  unfold requests
  rw [List.countP_append]
  rfl

theorem noDiscover_received :
    ∀ entry ∈ receivedAt now payload, entry.2.isDiscover = false := by
  intro entry listed
  obtain ⟨dhcp, -, rfl⟩ := List.mem_map.mp listed
  rfl

theorem noDiscover_requestAttempt :
    ∀ entry ∈ sentAt now (requestAttempt xid offer delay now jitter).2,
      entry.2.isDiscover = false := by
  exact List.forall_mem_cons.mpr ⟨rfl, List.forall_mem_singleton.mpr rfl⟩

theorem Asking.offered :
    ∃ wait, Asking xid offer start (.offered xid offer start jitter)
      initialRetryDelaySecs wait := by
  have delays : 4 ≤ initialRetryDelaySecs ∧ initialRetryDelaySecs ≤ 64 := by decide
  have bounds := @getJitteredDuration_bounds initialRetryDelaySecs jitter delays
  have one : requests (Recorded.offered xid offer start jitter).trace = 1 := rfl
  refine ⟨_, rfl, delays, bounds, ⟨Nat.le_refl _, Nat.le_add_right _ _⟩, ?_, ?_, ?_, ?_⟩
  · rw [one]
    exact Nat.one_pos
  · rw [one]
    exact Nat.le_refl _
  · rw [one]
    exact Nat.le_refl _
  · exact @noDiscover_requestAttempt xid offer initialRetryDelaySecs start jitter

/-- While nothing ends the phase it goes on. -/
theorem Asking.step (asking : Asking xid offer start s delay wait)
    (silent : input.concludes mac xid = false) (h : s.step mac input = some t) :
    ∃ delay' wait', Asking xid offer start t delay' wait' := by
  obtain ⟨unanswered, lives⟩ := Bool.or_eq_false_iff.mp silent
  obtain ⟨pc, delays, timeout, ⟨begun, inTime⟩, asked, slow, fast, noDiscover⟩ := asking
  rcases s with ⟨⟨now, pc'⟩, trace⟩
  cases pc
  cases Recorded.Moves.of_step h with
  | elapse inWait =>
    refine ⟨delay, wait, rfl, delays, timeout, ⟨?_, inWait wait rfl⟩, asked, slow, fast,
      noDiscover⟩
    exact begun.trans (Nat.le_add_right _ _)
  | react reacts =>
    rcases react_requesting reacts unanswered lives with rfl | ⟨late, jitter, rfl⟩
    · simp only [sentAt, List.map_nil, List.append_nil]
      refine ⟨delay, wait, rfl, delays, timeout, ⟨begun, inTime⟩, ?_, ?_, ?_, ?_⟩
      · rwa [requests_append_quiet quiet_received]
      · rwa [requests_append_quiet quiet_received]
      · rwa [requests_append_quiet quiet_received]
      · exact List.forall_mem_append.mpr ⟨noDiscover, noDiscover_received⟩
    · -- the wait is over, and the next one begins with a request
      obtain rfl : now = wait.deadline := Nat.le_antisymm inTime late
      have delays' := calculateNextDelay_bounds delays
      have count : requests (trace ++ receivedAt wait.deadline input.received ++
          sentAt wait.deadline (requestAttempt xid offer (calculateNextDelay delay)
            wait.deadline jitter).2) = requests trace + 1 := by
        rw [requests_requestAttempt, requests_append_quiet quiet_received]
      refine ⟨calculateNextDelay delay, _, rfl, delays', getJitteredDuration_bounds delays',
        ⟨Nat.le_refl _, Nat.le_add_right _ _⟩, ?_, ?_, ?_, ?_⟩
      · rw [count]
        exact Nat.succ_pos _
      · rw [count]
        unfold Wait.deadline fromSecs at *
        dsimp only at *
        omega
      · rw [count]
        unfold Wait.deadline fromSecs at *
        dsimp only at *
        omega
      · rw [List.forall_mem_append, List.forall_mem_append]
        exact ⟨⟨noDiscover, noDiscover_received⟩, noDiscover_requestAttempt⟩

/-- The same for a whole run. -/
theorem Asking.exec (asking : Asking xid offer start s delay wait)
    (silent : ∀ input ∈ inputs, input.concludes mac xid = false)
    (run : exec (Recorded.step mac) s inputs = some t) :
    ∃ delay' wait', Asking xid offer start t delay' wait' := by
  induction inputs generalizing s delay wait with
  | nil =>
    cases run
    exact ⟨delay, wait, asking⟩
  | cons input rest ih =>
    obtain ⟨first, later⟩ := List.forall_mem_cons.mp silent
    obtain ⟨mid, taken, onward⟩ := exec_cons_eq_some.mp run
    obtain ⟨delay', wait', asking'⟩ := asking.step first taken
    exact ih asking' later onward

theorem boundLoop_ne_requesting {ack : DhcpAck} {boundAt : Nat} {renewXid : BitVec 32} :
    (boundLoop ack boundAt renewXid now).1 ≠ .requesting xid offer delay wait := by
  unfold boundLoop renewIteration
  dsimp only
  split
  · nofun
  · split
    · nofun
    · split
      · nofun
      · nofun

/-- A matching answer ends the phase, and so does the end of the socket. -/
theorem left_of_concludes (asking : Asking xid offer start s delay wait)
    (concludes : input.concludes mac xid = true) (h : s.step mac input = some t) :
    ¬ t.worker.pc.Requesting xid offer := by
  rintro ⟨delay', wait', still⟩
  rcases s with ⟨⟨now, pc⟩, trace⟩
  obtain rfl := asking.pc
  cases Recorded.Moves.of_step h with
  | elapse inWait => cases concludes
  | react reacts =>
    cases input with
    | elapse | timeout => cases concludes
    | closed | recvError =>
      cases reacts
      cases still
    | frame payload draw =>
      simp only [Worker.react, onFrame, Option.some.injEq] at reacts
      cases read : ((recvDhcpPacket mac payload).map (parseAckNak · xid)).getD .none with
      | none =>
        simp [Input.concludes, Input.answersTo, Input.ends, read] at concludes
      | nak =>
        rw [read] at reacts
        cases reacts
        cases still
      | ack ack =>
        rw [read] at reacts
        cases reacts
        exact boundLoop_ne_requesting still

/-- The first input that ends the phase is followed by a state outside of it. -/
theorem exists_left (asking : Asking xid offer start s delay wait)
    (concludes : ∃ input ∈ inputs, input.concludes mac xid = true)
    (run : exec (Recorded.step mac) s inputs = some t) :
    ∃ done u, done <+: inputs ∧ exec (Recorded.step mac) s done = some u ∧
      ¬ u.worker.pc.Requesting xid offer := by
  induction inputs generalizing s delay wait with
  | nil =>
    obtain ⟨input, listed, -⟩ := concludes
    cases listed
  | cons input rest ih =>
    obtain ⟨mid, taken, onward⟩ := exec_cons_eq_some.mp run
    cases now : input.concludes mac xid with
    | true =>
      refine ⟨[input], mid, List.prefix_append [input] rest, ?_,
        left_of_concludes asking now taken⟩
      exact exec_cons_eq_some.mpr ⟨mid, taken, rfl⟩
    | false =>
      obtain ⟨delay', wait', asking'⟩ := asking.step now taken
      obtain ⟨last, listed, ends⟩ := concludes
      have later : ∃ input ∈ rest, input.concludes mac xid = true := by
        rcases List.mem_cons.mp listed with rfl | inRest
        · rw [now] at ends
          cases ends
        · exact ⟨last, inRest, ends⟩
      obtain ⟨done, u, inside, part, left⟩ := ih asking' later onward
      exact ⟨input :: done, u, List.cons_prefix_cons.mpr ⟨rfl, inside⟩,
        exec_cons_eq_some.mpr ⟨mid, taken, part⟩, left⟩

/-- In every run from an offer on: the worker leaves the REQUEST phase exactly when a matching
answer arrives or the socket to the parent ends.  Until then it sends no DISCOVER, and the number
of its requests is at least a 65th and at most a third of the seconds, rounded up. -/
theorem request_phase_returns_iff
    (run : exec (Recorded.step mac) (.offered xid offer start jitter) inputs = some s) :
    ((∃ done t, done <+: inputs ∧
        exec (Recorded.step mac) (.offered xid offer start jitter) done = some t ∧
        ¬ t.worker.pc.Requesting xid offer) ↔
      ∃ input ∈ inputs, input.concludes mac xid = true) ∧
      ((∀ input ∈ inputs, input.concludes mac xid = false) →
        s.worker.pc.Requesting xid offer ∧ (∀ entry ∈ s.trace, entry.2.isDiscover = false) ∧
        (s.worker.now - start) / fromSecs 65 ≤ requests s.trace ∧
        requests s.trace ≤ (s.worker.now - start) / fromSecs 3 + 1) := by
  obtain ⟨wait, asking⟩ := @Asking.offered xid offer start jitter
  refine ⟨⟨?_, fun concludes => exists_left asking concludes run⟩, ?_⟩
  · rintro ⟨done, t, inside, part, left⟩
    by_contra nothing
    have silent : ∀ input ∈ done, input.concludes mac xid = false := by
      intro input listed
      by_contra concludes
      exact nothing ⟨input, inside.subset listed, Bool.eq_true_of_not_eq_false concludes⟩
    obtain ⟨delay', wait', still⟩ := asking.exec silent part
    exact left ⟨delay', wait', still.pc⟩
  · intro silent
    obtain ⟨delay', wait', pc, -, ⟨-, timeout⟩, ⟨begun, inTime⟩, asked, slow, fast, noDiscover⟩ :=
      asking.exec silent run
    refine ⟨⟨delay', wait', pc⟩, noDiscover, ?_, ?_⟩
    · rw [Nat.div_le_iff_le_mul_add_pred (by decide)]
      unfold Wait.deadline fromSecs at *
      omega
    · have few : requests s.trace - 1 ≤ (s.worker.now - start) / fromSecs 3 := by
        rw [Nat.le_div_iff_mul_le (by decide)]
        unfold fromSecs at *
        omega
      omega

/-- An offer, and a server that acknowledges it after two requests. -/
def sampleOffer : DhcpOffer := ⟨.new 100 64 0 5, some (.new 100 64 0 1)⟩

def lateAckRun : List Input :=
  [.elapse (fromSecs 3), .timeout clientDraw, .elapse (fromSecs 2),
    .frame (some (serverMessage .ack 3600)) clientDraw]

theorem request_phase_returns_on_ack :
    ∃ s, exec (Recorded.step clientMac) (.offered 7 sampleOffer 0 0) lateAckRun = some s ∧
      ∃ done t, done <+: lateAckRun ∧
        exec (Recorded.step clientMac) (.offered 7 sampleOffer 0 0) done = some t ∧
        ¬ t.worker.pc.Requesting 7 sampleOffer := by
  have runs : (exec (Recorded.step clientMac) (.offered 7 sampleOffer 0 0) lateAckRun).isSome := by
    decide +kernel
  obtain ⟨s, run⟩ := Option.isSome_iff_exists.mp runs
  refine ⟨s, run, (request_phase_returns_iff run).1.mpr ?_⟩
  exact ⟨.frame (some (serverMessage .ack 3600)) clientDraw, by simp [lateAckRun],
    by decide +kernel⟩

theorem exists_request (asking : Asking xid offer start s delay wait) :
    ∃ inputs t, (∀ input ∈ inputs, input.concludes mac xid = false) ∧
      exec (Recorded.step mac) s inputs = some t ∧ requests t.trace = requests s.trace + 1 := by
  obtain ⟨pc, -, -, ⟨begun, inTime⟩, -⟩ := asking
  rcases s with ⟨⟨now, pc'⟩, trace⟩
  cases pc
  have waited : Recorded.step mac ⟨⟨now, .requesting xid offer delay wait⟩, trace⟩
      (.elapse (wait.deadline - now)) =
        some ⟨⟨wait.deadline, .requesting xid offer delay wait⟩, trace⟩ := by
    have sum : now + (wait.deadline - now) = wait.deadline := Nat.add_sub_cancel' inTime
    rw [step_elapse, sum]
    intro wait' waits
    cases waits
    exact Nat.le_of_eq sum
  have asked : Recorded.step mac ⟨⟨wait.deadline, .requesting xid offer delay wait⟩, trace⟩
      (.timeout clientDraw) = some ⟨⟨wait.deadline, (requestAttempt xid offer
        (calculateNextDelay delay) wait.deadline clientDraw.jitter).1⟩,
          trace ++ [] ++ sentAt wait.deadline (requestAttempt xid offer (calculateNextDelay delay)
            wait.deadline clientDraw.jitter).2⟩ := by
    simp [Recorded.step, Worker.step, Worker.react, onTimeout, Pc.wait, receivedAt,
      Input.received]
  have silent : ∀ input ∈ [Input.elapse (wait.deadline - now), .timeout clientDraw],
      input.concludes mac xid = false := by
    exact List.forall_mem_cons.mpr ⟨rfl, List.forall_mem_singleton.mpr rfl⟩
  have run := exec_cons_eq_some.mpr ⟨_, waited, exec_cons_eq_some.mpr ⟨_, asked, exec_nil⟩⟩
  refine ⟨_, _, silent, run, ?_⟩
  rw [requests_requestAttempt, List.append_nil]

/-- The server is gone after its offer: there is no bound on how often the worker has asked while
it still waits for an answer. -/
theorem vanished_server_asked_forever :
    ¬ ∃ bound : Nat, ∀ inputs s, (∀ input ∈ inputs, input.concludes clientMac 7 = false) →
      exec (Recorded.step clientMac) (.offered 7 sampleOffer 0 0) inputs = some s →
      s.worker.pc.Requesting 7 sampleOffer → requests s.trace ≤ bound := by
  intro ⟨bound, few⟩
  obtain ⟨wait, asking⟩ := @Asking.offered 7 sampleOffer 0 0
  have often : ∀ n, ∃ inputs s, (∀ input ∈ inputs, input.concludes clientMac 7 = false) ∧
      exec (Recorded.step clientMac) (.offered 7 sampleOffer 0 0) inputs = some s ∧
      n < requests s.trace := by
    intro n
    induction n with
    | zero => exact ⟨[], _, List.forall_mem_nil _, exec_nil, asking.asked⟩
    | succ n ih =>
      obtain ⟨inputs, s, silent, run, more⟩ := ih
      obtain ⟨delay', wait', asking'⟩ := asking.exec silent run
      obtain ⟨round, t, silent', run', count⟩ := @exists_request clientMac _ _ _ _ _ _ asking'
      refine ⟨inputs ++ round, t, ?_, ?_, ?_⟩
      · exact List.forall_mem_append.mpr ⟨silent, silent'⟩
      · rw [exec_append, run, Option.bind_some, run']
      · rw [count]
        exact Nat.succ_lt_succ more
  obtain ⟨inputs, s, silent, run, more⟩ := often bound
  obtain ⟨delay', wait', still⟩ := asking.exec silent run
  exact absurd more (Nat.not_lt.mpr (few inputs s silent run ⟨delay', wait', still.pc⟩))

end TrimRouter.DhcpClient
