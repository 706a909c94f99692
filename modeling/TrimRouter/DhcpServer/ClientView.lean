import TrimRouter.DhcpServer.WorkerFlow

/-!
# What the clients have been told

Statements about the worker's clients are about the messages that have left the worker: a
client holds an address from its acknowledgement on, and its name is in the DNS once the
registration has been sent.  `Tracked` runs the worker and keeps, per client, the last
acknowledgement, the name last registered under it, and that a release ends both.
-/

namespace TrimRouter.DhcpServer

/-- What one client has been told: the address last acknowledged and when, and the name last
registered for it under that lease. -/
structure ClientView where
  lease : Option (Ipv4Addr × Nat)
  name : Option String
deriving DecidableEq

namespace ClientView

/-- A client that has been told nothing, or has given its lease back. -/
def blank : ClientView := ⟨none, none⟩

/-- The lease has not run out. -/
def isLive (v : ClientView) (now : Nat) : Bool :=
  v.lease.any fun lease => decide (now < lease.2 + lanLeaseDuration)

/-- The client holds `ip`: its lease is on `ip` and has not run out. -/
def holds (v : ClientView) (now : Nat) (ip : Ipv4Addr) : Bool :=
  v.lease.any fun lease => lease.1 == ip && decide (now < lease.2 + lanLeaseDuration)

/-- `name` is registered for the client and its lease has not run out. -/
def owns (v : ClientView) (now : Nat) (name : String) : Bool :=
  v.isLive now && v.name == some name

/-- An acknowledgement renews a lease that has not run out, or starts one without a name. -/
def acked (v : ClientView) (now : Nat) (ip : Ipv4Addr) : ClientView :=
  ⟨some (ip, now), if v.isLive now then v.name else none⟩

/-- A registration. -/
def named (v : ClientView) (name : String) : ClientView := { v with name := some name }

theorem isLive_of_le {v : ClientView} {now later : Nat} (live : v.isLive later = true)
    (le : now ≤ later) : v.isLive now = true := by
  simp only [isLive, Option.any_eq_true, decide_eq_true_eq] at live ⊢
  obtain ⟨lease, told, running⟩ := live
  exact ⟨lease, told, by omega⟩

theorem owns_of_le {v : ClientView} {now later : Nat} {name : String}
    (owned : v.owns later name = true) (le : now ≤ later) : v.owns now name = true := by
  simp only [owns, Bool.and_eq_true] at owned ⊢
  exact ⟨isLive_of_le owned.1 le, owned.2⟩

end ClientView

/-- What a step means to a client. -/
inductive Notice where
  | acked (mac : MacAddr) (ip : Ipv4Addr)
  | named (mac : MacAddr) (name : String)
  | released (mac : MacAddr)
deriving DecidableEq

/-- What a message to the parent means to a client. -/
def Event.notice (e : Event) : Option Notice :=
  match e.msg with
  | .sendAck mac _ ip _ => some (.acked mac ip)
  | .registerLocalHost name _ => some (.named e.client name)
  | _ => none

/-- What a command of the lease actor means to a client: a release or a decline. -/
def LeaseCommand.notice : LeaseCommand → Option Notice
  | .release mac => some (.released mac)
  | _ => none

/-- What a step means to a client. -/
def notice (s : State) (l : Label) : Option Notice :=
  match l with
  | .actor _ => s.nextMail.bind fun mail => mail.cmd.notice
  | l => (emitted s l).bind Event.notice

/-- The worker with the views of its clients. -/
structure Tracked where
  worker : State
  views : HashMap MacAddr ClientView

namespace Tracked

/-- No client has been told anything. -/
def init (staticLeases : List StaticLease) : Tracked := ⟨State.init staticLeases, ∅⟩

/-- The view of one client. -/
def view (s : Tracked) (mac : MacAddr) : ClientView := (s.views.lookup mac).getD .blank

/-- The views after a notice. -/
def note (s : Tracked) : Option Notice → HashMap MacAddr ClientView
  | none => s.views
  | some (.acked mac ip) => s.views.insert mac ((s.view mac).acked s.worker.now ip)
  | some (.named mac name) => s.views.insert mac ((s.view mac).named name)
  | some (.released mac) => s.views.insert mac .blank

/-- A step of the worker, with the views of the clients. -/
def step (cfg : ServerConfig) (s : Tracked) (l : Label) : Option Tracked :=
  (DhcpServer.step cfg s.worker l).map fun worker => ⟨worker, s.note (notice s.worker l)⟩

end Tracked

variable {cfg : ServerConfig} {s t : Tracked} {l : Label} {m : MacAddr}

theorem Tracked.step_eq_some (h : s.step cfg l = some t) :
    Step cfg s.worker l t.worker ∧ t.views = s.note (notice s.worker l) := by
  obtain ⟨worker, stepped, rfl⟩ := Option.map_eq_some_iff.mp h
  exact ⟨.of_step stepped, rfl⟩

theorem Tracked.view_step (h : s.step cfg l = some t) :
    t.view m = match notice s.worker l with
      | none => s.view m
      | some (.acked mac ip) => if m = mac then (s.view m).acked s.worker.now ip else s.view m
      | some (.named mac name) => if m = mac then (s.view m).named name else s.view m
      | some (.released mac) => if m = mac then .blank else s.view m := by
  have views := (Tracked.step_eq_some h).2
  have inserted : ∀ (mac : MacAddr) (v : ClientView), t.views = s.views.insert mac v →
      t.view m = if m = mac then v else s.view m := by
    intro mac v stored
    simp only [Tracked.view, stored, HashMap.lookup_insert_eq]
    split <;> rfl
  cases seen : notice s.worker l with
  | none =>
    rw [seen] at views
    simp only [Tracked.view, views, Tracked.note]
  | some note =>
    rw [seen] at views
    cases note with
    | acked mac | named mac =>
      rw [inserted mac _ views]
      by_cases same : m = mac
      · subst same
        rfl
      · simp only [same, if_false]
    | released mac => exact inserted mac _ views

/-- A message that leaves the worker was under way, except for heartbeats. -/
theorem mem_pending_of_emitted {s : State} {e : Event} (sent : emitted s l = some e) :
    e ∈ s.pending ∨ ∃ leases, e.msg = .heartbeat leases := by
  cases l with
  | main =>
    simp only [emitted] at sent
    split at sent
    · rename_i event forwards
      cases sent
      exact .inl (List.mem_append_right _ (by simp [forwards, MainPc.pending]))
    · cases sent
      exact .inr ⟨_, rfl⟩
    · rename_i mac name rest listed
      cases sent
      exact .inl (List.mem_append_right _ (by simp [listed, MainPc.pending]))
    · cases sent
  | _ => cases sent

/-- A client is told something by a message under way, or by its own release. -/
theorem notice_eq_some {s : State} {n : Notice} (seen : notice s l = some n) :
    (l = .main ∧ ∃ e ∈ s.pending, emitted s l = some e ∧ e.notice = some n) ∨
      ∃ order mac caller, l = .actor order ∧ s.nextMail = some ⟨.release mac, caller⟩ ∧
        n = .released mac := by
  cases l with
  | actor order =>
    obtain ⟨⟨cmd, caller⟩, next, told⟩ := Option.bind_eq_some_iff.mp seen
    cases cmd with
    | release mac =>
      cases told
      exact .inr ⟨order, mac, caller, rfl, next, rfl⟩
    | _ => cases told
  | main =>
    obtain ⟨e, sent, told⟩ := Option.bind_eq_some_iff.mp seen
    rcases mem_pending_of_emitted sent with due | ⟨leases, beat⟩
    · exact .inl ⟨rfl, e, due, sent, told⟩
    · simp [Event.notice, beat] at told
  | _ => cases seen

/-! ## Exchanges on a sample network -/

/-- A LAN on 192.168.1.1/24. -/
def sampleConfig : ServerConfig := .ofLanIp (.slash24 (.new 192 168 1 1))

/-- A client's message, sent from the client's own MAC address. -/
def sampleMessage (messageType : MessageType) (client : BitVec 8) (ip : Option Ipv4Addr)
    (hostname : Option String) : Option Message :=
  some { isBootRequest := true, hlen := 6, chaddr := [0, 0, 0, 0, 0, client], giaddr := 0,
         ciaddr := 0, xid := 1, broadcast := false, messageType := some messageType,
         requestedIpAddress := ip, serverIdentifier := none, hostname := hostname }

/-- Task `i` queues a message and the main loop sends it. -/
def sending (i : Nat) : List Label := [.task i, .takeEvent, .main]

/-- Task `i` sends a command and the actor handles it. -/
def asking (i : Nat) (entries : List MacAddr) : List Label := [.task i, .actor ⟨entries, []⟩]

/-- A granted request handled by task `i`, up to its acknowledgement; `reserved` are the clients
with a reservation, and `before` and `after` those with an entry. -/
def reservedExchange (reserved : List MacAddr) (i : Nat) (client : BitVec 8) (ip : Ipv4Addr)
    (hostname : Option String) (before after : List MacAddr) : List Label :=
  [Label.packet (client.setWidth 48) (sampleMessage .request client (some ip) hostname), .task i,
    .actor ⟨before, reserved⟩] ++ sending i ++
    [Label.advance arpResolutionDelay, .task i, .task i, .actor ⟨after, reserved⟩] ++ sending i

/-- A granted request on a LAN without reservations. -/
def requestExchange : Nat → BitVec 8 → Ipv4Addr → Option String → List MacAddr → List MacAddr →
    List Label :=
  reservedExchange []

/-- Client 1 registers "laptop". -/
def laptopExchange : List Label :=
  requestExchange 0 1 (.new 192 168 1 7) (some "laptop") [] [1] ++ sending 0

/-- An offer of a new address handled by task `i`. -/
def discoverExchange (i : Nat) (client : BitVec 8) (hostname : Option String)
    (before after : List MacAddr) : List Label :=
  [Label.packet (client.setWidth 48) (sampleMessage .discover client none hostname)] ++
    asking i before ++ asking i before ++ sending i ++
    [Label.advance arpResolutionDelay, .task i] ++ asking i after ++ asking i after ++ sending i

end TrimRouter.DhcpServer
