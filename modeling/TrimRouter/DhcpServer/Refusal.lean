import TrimRouter.DhcpServer.ClientView
import TrimRouter.DhcpServer.Exchange

/-!
# What a refused request leaves in the lease table

`validate_and_confirm` stores the client's new entry before the probe that can still refuse the
request, and a refusal after the probe only records a conflict hold on the address.  The result is
`nak_keeps_entry_iff`.
-/

namespace TrimRouter.DhcpServer

open Run

variable {cfg : ServerConfig} {s t u : State} {ls : List Label} {i : Nat} {m : MacAddr}
  {dhcp : Message}

/-- The step leaves the client's entry as it is. -/
def LeavesEntry (cfg : ServerConfig) (mac : MacAddr) (s : State) (l : Label) : Prop :=
  ∀ t ∈ step cfg s l, t.table.get mac = s.table.get mac

/-- The entry that a client had before its request was validated, with the changes made to it
in the run from the validation on.  Of the commands of the exchange itself only the validation
stores an entry, so these changes are those of other events. -/
def entryApart (cfg : ServerConfig) (mac : MacAddr) (s : State) (entry : Option ClientLease) :
    List Label → Option ClientLease
  | [] => entry
  | l :: ls =>
    match step cfg s l with
    | none => entry
    | some t =>
      entryApart cfg mac t
        (if t.table.get mac = s.table.get mac then entry else t.table.get mac) ls

/-- Either nothing has touched the entry in the run, or the last change to it is there. -/
theorem entryApart_cases (run : exec (step cfg) s ls = some t) (entry : Option ClientLease) :
    (Meets (step cfg) (LeavesEntry cfg m) s ls ∧ t.table.get m = s.table.get m ∧
        entryApart cfg m s entry ls = entry) ∨
      (¬ Meets (step cfg) (LeavesEntry cfg m) s ls ∧
        entryApart cfg m s entry ls = t.table.get m) := by
  induction ls generalizing s entry with
  | nil =>
    cases run
    exact .inl ⟨trivial, rfl, rfl⟩
  | cons l ls ih =>
    obtain ⟨r, first, rest⟩ := exec_cons_eq_some.mp run
    simp only [meets_cons, LeavesEntry, entryApart, first, Option.mem_def, Option.some.injEq,
      forall_eq']
    by_cases same : r.table.get m = s.table.get m
    · rw [if_pos same]
      rcases ih rest entry with ⟨meets, kept, apart⟩ | ⟨changed, apart⟩
      · exact .inl ⟨⟨same, meets⟩, kept.trans same, apart⟩
      · exact .inr ⟨fun both => changed both.2, apart⟩
    · -- from the first change on, the last change is what the table holds
      rw [if_neg same]
      refine .inr ⟨fun both => same both.1, ?_⟩
      rcases ih rest (r.table.get m) with ⟨-, kept, apart⟩ | ⟨-, apart⟩
      · rw [apart, kept]
      · exact apart

/-- The client's entry after the exchange is its entry before it, apart from the changes made
by others, exactly when the validation has left it alone or somebody has changed it since. -/
theorem entry_kept_iff (run : exec (step cfg) u ls = some t) :
    t.table.get m = entryApart cfg m u (s.table.get m) ls ↔
      u.table.get m = s.table.get m ∨ ¬ Meets (step cfg) (LeavesEntry cfg m) u ls := by
  rcases entryApart_cases run (s.table.get m) with ⟨meets, kept, apart⟩ | ⟨changed, apart⟩
  · rw [kept, apart]
    simp [meets]
  · simp [apart, changed]

/-- A request that is answered by a NAK leaves its client's entry as it was, apart from the
changes made by other events, unless the NAK comes after the validation has granted the request:
exactly when a granted request finds nobody else on the address, so that there is no NAK, or the
client already had the very entry that the validation stores, or another event changes the entry
after the validation. -/
theorem nak_keeps_entry_iff {msg : WorkerMsg} (asked : Validates cfg s i m dhcp u)
    (run : exec (step cfg) u ls = some t) (answers : t.answer i = some msg) :
    (msg = .sendNak m dhcp.xid → t.table.get m = entryApart cfg m u (s.table.get m) ls) ↔
      ∀ conf, s.confirmation cfg m dhcp = some conf →
        Meets (step cfg) (fun s l => ¬ FindsOther i m conf.ip s l) u ls ∨
          s.table.get m = some ⟨conf.ip, s.now + lanLeaseDuration, conf.hostname⟩ ∨
          ¬ Meets (step cfg) (LeavesEntry cfg m) u ls := by
  rw [entry_kept_iff run, asked.get m]
  cases granted : s.confirmation cfg m dhcp with
  | none => simp
  | some conf =>
    have answer := granted_answer asked granted run answers
    simp only [if_true, Option.some.injEq, forall_eq']
    rcases answer with ⟨clear, rfl⟩ | ⟨conflict, rfl⟩
    · simp [clear]
    · simp [conflict, eq_comm]

/-! ## The two kinds of NAK -/

/-- Client 1 asks for 192.168.1.50. -/
def claimRequest : Message :=
  (sampleMessage .request 1 (some (.new 192 168 1 50)) none).get rfl

/-- The request has reached the lease actor, which knows client 2 on `ip`. -/
def claimAsked (ip : Ipv4Addr) : List Label :=
  [.neighbor 2 ip, .main, .actor ⟨[], []⟩, .packet 1 (some claimRequest), .task 0]

/-- Client 2 is already on the address: the validation refuses the request and client 1 still
has no entry. -/
theorem nak_keeps_entry_of_refused :
    ∃ s u, exec (step sampleConfig) (State.init []) (claimAsked (.new 192 168 1 50)) = some s ∧
      Validates sampleConfig s 0 1 claimRequest u ∧ u.answer 0 = some (.sendNak 1 1) ∧
      s.confirmation sampleConfig 1 claimRequest = none ∧
      u.table.get 1 = entryApart sampleConfig 1 u (s.table.get 1) [] := by
  obtain ⟨s, reached, waiting, ⟨⟨cmd, _⟩, next, rfl⟩, refused, u, handled, answers⟩ :
      ∃ s, exec (step sampleConfig) (State.init []) (claimAsked (.new 192 168 1 50)) = some s ∧
        s.tasks[0]? = some ⟨1, claimRequest, .reply .gotConfirmation⟩ ∧
        (∃ mail, s.nextMail = some mail ∧ mail.caller = .task 0) ∧
        s.confirmation sampleConfig 1 claimRequest = none ∧
        ∃ u, step sampleConfig s (.actor ⟨[2], []⟩) = some u ∧
          u.answer 0 = some (.sendNak 1 1) := by
    decide +kernel
  have asked : Validates sampleConfig s 0 1 claimRequest u :=
    ⟨(Wf.init []).exec reached, waiting, ⟨cmd, next⟩, _, handled⟩
  have kept := (nak_keeps_entry_iff asked exec_nil answers).mpr fun conf granted => by
    cases refused.symm.trans granted
  exact ⟨s, u, reached, asked, answers, refused, kept rfl⟩

/-- During the probe client 2 is seen on the address that has been granted to client 1. -/
def claimProbed : List Label :=
  [.task 0, .neighbor 2 (.new 192 168 1 50), .main, .actor ⟨[2, 1], []⟩,
    .advance arpResolutionDelay, .task 0, .task 0, .actor ⟨[2, 1], []⟩, .task 0,
    .actor ⟨[2, 1], []⟩]

/-- The request is granted and refused after the probe: client 1 had no entry, nobody else has
touched its entry, and it keeps the address for an hour. -/
theorem nak_leaves_claim :
    ∃ s u t, exec (step sampleConfig) (State.init []) (claimAsked (.new 192 168 1 9)) = some s ∧
      Validates sampleConfig s 0 1 claimRequest u ∧
      exec (step sampleConfig) u claimProbed = some t ∧ t.answer 0 = some (.sendNak 1 1) ∧
      entryApart sampleConfig 1 u (s.table.get 1) claimProbed = none ∧
      t.table.get 1 = some ⟨.new 192 168 1 50, fromSecs 3600, none⟩ := by
  obtain ⟨s, reached, waiting, ⟨⟨cmd, _⟩, next, rfl⟩, u, handled, apart, t, run, facts⟩ :
      ∃ s, exec (step sampleConfig) (State.init []) (claimAsked (.new 192 168 1 9)) = some s ∧
        s.tasks[0]? = some ⟨1, claimRequest, .reply .gotConfirmation⟩ ∧
        (∃ mail, s.nextMail = some mail ∧ mail.caller = .task 0) ∧
        ∃ u, step sampleConfig s (.actor ⟨[2], []⟩) = some u ∧
          entryApart sampleConfig 1 u (s.table.get 1) claimProbed = none ∧
          ∃ t, exec (step sampleConfig) u claimProbed = some t ∧
            t.answer 0 = some (.sendNak 1 1) ∧
            t.table.get 1 = some ⟨.new 192 168 1 50, fromSecs 3600, none⟩ := by
    decide +kernel
  exact ⟨s, u, t, reached,
    ⟨(Wf.init []).exec reached, waiting, ⟨cmd, next⟩, _, handled⟩, run, facts.1, apart, facts.2⟩

end TrimRouter.DhcpServer
