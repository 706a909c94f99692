import TrimRouter.DhcpServer.ClientView
import TrimRouter.DhcpServer.Exchange

/-!
# What one frame can touch

A client that talks to the server directly (`giaddr` 0) can only act under the MAC address that its
frames carry: `is_spoofed_l2_packet` drops every other frame.  The result is
`frame_touches_sender_only`.
-/

namespace TrimRouter.DhcpServer

open Run

variable {cfg : ServerConfig} {s t : State} {l : Label} {ls : List Label} {m mac ethSrc : MacAddr}
  {dhcp : Message}

/-! ## The commands of one client -/

/-- The commands that the packet handlers send for a client. -/
def LeaseCommand.OfClient (mac : MacAddr) : LeaseCommand → Prop
  | .getExistingIp client | .allocateCandidate client _ _ | .confirmLease client _ _ _
  | .validateAndConfirmRequest client _ _ _ _ _ | .checkConflict _ client | .release client =>
    client = mac
  | .recordConflict _ _ => True
  | _ => False

variable {cmd : LeaseCommand}

theorem Calls.ofClient {k : Cont} (calls : Calls cfg mac dhcp cmd k) :
    cmd.OfClient mac := by
  cases calls <;> rfl

theorem Casts.ofClient {k : Cont} (casts : Casts mac dhcp cmd k) :
    cmd.OfClient mac := by
  cases casts with
  | confirm => rfl
  | _ => trivial

/-- The entry of a client is as it was, or it has expired and is gone. -/
def LeaseTable.Frame (before after : LeaseTable) (now : Nat) (m : MacAddr) : Prop :=
  after.get m = before.get m ∨
    after.get m = none ∧ ∃ lease, before.get m = some lease ∧ lease.expiry ≤ now

namespace LeaseTable.Frame

variable {a b c : LeaseTable} {now later : Nat}

theorem mono (frame : Frame a b now m) (le : now ≤ later) : Frame a b later m := by
  rcases frame with same | ⟨gone, lease, found, expired⟩
  · exact .inl same
  · exact .inr ⟨gone, lease, found, expired.trans le⟩

theorem trans (first : Frame a b now m) (second : Frame b c now m) : Frame a c now m := by
  rcases second with same | ⟨gone, lease, found, expired⟩
  · rcases first with same' | ⟨gone, lease, found, expired⟩
    · exact .inl (same.trans same')
    · exact .inr ⟨same.trans gone, lease, found, expired⟩
  · rcases first with same' | ⟨gone', -⟩
    · exact .inr ⟨gone, lease, same' ▸ found, expired⟩
    · rw [gone'] at found
      cases found

theorem evictExpired : Frame a (a.evictExpired now) now m := by
  unfold Frame
  rw [get_evictExpired]
  cases found : a.get m with
  | none => exact .inl rfl
  | some lease =>
    by_cases live : lease.isLive now = true
    · exact .inl (by simp [Option.filter, live])
    · refine .inr ⟨by simp [Option.filter, live], lease, rfl, ?_⟩
      rw [ClientLease.isLive_iff] at live
      exact Nat.le_of_not_lt live

theorem candidateBase : Frame a (a.candidateBase now mac) now m := by
  unfold LeaseTable.candidateBase
  split
  · exact evictExpired
  · exact .inl rfl

end LeaseTable.Frame

variable {table : LeaseTable}

theorem LeaseCommand.OfClient.written {now : Nat}
    {stored : MacAddr × ClientLease} (own : cmd.OfClient mac)
    (writes : cmd.written now table = some stored) : stored.1 = mac := by
  cases cmd with
  | allocateCandidate | validateAndConfirmRequest =>
    obtain ⟨_, -, rfl⟩ := Option.map_eq_some_iff.mp writes
    exact own
  | confirmLease client ip duration hostname =>
    cases writes
    exact own
  | addNeighbor => cases own
  | _ => cases writes

theorem LeaseCommand.OfClient.frame {now : Nat}
    {order : IterOrder} (own : cmd.OfClient mac) (other : m ≠ mac) :
    table.Frame (handleLeaseCommand now order table cmd).1 now m := by
  have kept : ∀ after : LeaseTable, after.get m = cmd.kept now table m →
      table.Frame after now m := by
    intro after same
    cases cmd with
    | allocateCandidate client net serverIp =>
      have base : table.Frame (table.candidateBase now client) now m := .candidateBase
      exact base.trans (.inl same)
    | release client =>
      cases own
      exact .inl (same.trans (if_neg other))
    | evictExpired | setStaticLeases => cases own
    | _ => exact .inl same
  have stores : (handleLeaseCommand now order table cmd).1.get m = _ := get_handleLeaseCommand cmd
  cases writes : cmd.written now table with
  | none =>
    rw [writes] at stores
    exact kept _ stores
  | some stored =>
    have sender : stored.1 = mac := own.written writes
    rw [writes] at stores
    exact kept _ (stores.trans (if_neg (sender ▸ other)))

/-! ## While a frame is processed -/

/-- The steps that a frame causes once it is received, and the passing of time. -/
def Label.processes : Label → Bool
  | .advance _ | .takeEvent | .main | .task _ | .actor _ => true
  | _ => false

/-- A worker with nothing to do. -/
def State.idle (now : Nat) (table : LeaseTable) : State where
  now := now
  table := table
  mailbox := Fifo.empty
  tasks := []
  main := .select
  events := Fifo.empty

/-- Everything under way belongs to the client `mac`, and the entries of the others are those of
`table` that have not expired. -/
structure Serving (cfg : ServerConfig) (table : LeaseTable) (mac : MacAddr) (s : State) : Prop where
  wf : Wf cfg s
  tasks : ∀ task ∈ s.tasks, task.mac = mac
  mails : ∀ mail ∈ s.mailbox.items, mail.cmd.OfClient mac
  main : s.main = .select ∨ ∃ event, s.main = .forward event
  entries : ∀ m, m ≠ mac → table.Frame s.table s.now m

theorem Wf.idle (now : Nat) (table : LeaseTable) : Wf cfg (State.idle now table) where
  tasks := by
    constructor
    · intro task member
      cases member
    · intro e due
      cases due
  mail := nofun
  waits := nofun
  once := List.nodup_nil

theorem proceed_of_idle {pc : MainPc} {expired : List (MacAddr × String)} {reply : LeaseReply}
    (idle : pc = .select ∨ ∃ event, pc = .forward event) : pc.proceed expired reply = pc := by
  rcases idle with rfl | ⟨event, rfl⟩
  · cases reply <;> rfl
  · cases reply <;> rfl

theorem Serving.keep (serving : Serving cfg table mac s)
    (own : l.processes = true) (h : Step cfg s l t) : Serving cfg table mac t where
  wf := serving.wf.keep h
  tasks := by
    intro task member
    rcases h.mem_tasks member with before | ⟨_, _, rfl, -⟩ | ⟨i, old, pc, found, -, rfl⟩
    · exact serving.tasks task before
    · cases own
    · exact serving.tasks old (List.mem_of_getElem? found)
  mails := by
    intro mail member
    rcases h.mem_mailbox serving.wf member with before | ⟨_, post⟩ | ⟨task, there, _, sends⟩
    · exact serving.mails mail before
    · -- the main loop only forwards events
      rcases serving.main with idle | ⟨event, forwards⟩
      · rw [idle] at post
        cases post
      · rw [forwards] at post
        cases post
    · rw [← serving.tasks task there]
      rcases sends with calls | casts
      · exact calls.ofClient
      · exact casts.ofClient
  main := by
    cases h with
    | branch idle branch => cases branch <;> cases own
    | takeEvent idle popped => exact .inr ⟨_, rfl⟩
    | mainMove move =>
      rcases serving.main with idle | ⟨event, forwards⟩
      · rw [idle] at move
        cases move
      · rw [forwards] at move
        cases move
        exact .inl rfl
    | mainPost post pushed =>
      rcases serving.main with idle | ⟨event, forwards⟩
      · rw [idle] at post
        cases post
      · rw [forwards] at post
        cases post
    | @actor order mail mailbox popped visits =>
      cases mail.caller with
      | task i =>
        simp only [deliver]
        split <;> exact serving.main
      | main =>
        simp only [deliver, proceed_of_idle serving.main]
        exact serving.main
      | nobody => exact serving.main
    | packet | cleanupTick => cases own
    | _ => exact serving.main
  entries := by
    intro m other
    have before := (serving.entries m other).mono h.now_le
    rcases h.table_eq with same | ⟨rfl, -⟩ | ⟨order, mail, rfl, next, -, handled⟩
    · rw [same]
      exact before
    · cases own
    · have cmd := serving.mails mail (State.mem_of_nextMail next)
      rw [handled]
      exact before.trans ((cmd.frame other).mono h.now_le)

/-! ## The sender of a frame -/

theorem MacAddr.octets_append (a b c d e f : BitVec 8) :
    MacAddr.octets (a ++ b ++ c ++ d ++ e ++ f) = [a, b, c, d, e, f] := by
  have skip : ∀ {w start : Nat} {x : BitVec w} {y : BitVec 8} {octet : BitVec 8}, 8 ≤ start →
      x.extractLsb' (start - 8) 8 = octet → (x ++ y).extractLsb' start 8 = octet :=
    fun past rest => (BitVec.extractLsb'_append_eq_of_le past).trans rest
  have last : ∀ {w : Nat} {x : BitVec w} {y : BitVec 8}, (x ++ y).extractLsb' 0 8 = y :=
    BitVec.extractLsb'_append_eq_right
  simp only [MacAddr.octets, List.map_cons, List.map_nil, List.cons.injEq, and_true]
  refine ⟨?_, ?_, ?_, ?_, ?_, last⟩
  · exact skip (by decide) (skip (by decide) (skip (by decide) (skip (by decide)
      BitVec.extractLsb'_append_eq_left)))
  · exact skip (by decide) (skip (by decide) (skip (by decide) (skip (by decide) last)))
  · exact skip (by decide) (skip (by decide) (skip (by decide) last))
  · exact skip (by decide) (skip (by decide) last)
  · exact skip (by decide) last

theorem take_chaddr (extracted : extractClientMac dhcp = some mac) :
    dhcp.chaddr.take 6 = mac.octets := by
  unfold extractClientMac at extracted
  split at extracted
  · cases extracted
  · split at extracted
    · rename_i a b c d e f rest chaddr
      dsimp only at extracted
      split at extracted
      · cases extracted
      · cases extracted
        rw [chaddr, MacAddr.octets_append]
        rfl
    · cases extracted

/-- A frame without a relay is taken only from its own client. -/
theorem mac_of_direct {task : Task} (direct : dhcp.giaddr = .unspecified)
    (taken : processIncomingPacket cfg ethSrc dhcp = some task) :
    task.mac = ethSrc ∧ extractClientMac dhcp = some ethSrc := by
  unfold processIncomingPacket at taken
  split at taken
  · cases taken
  · split at taken
    · cases taken
    · rename_i client extracted
      split at taken
      · cases taken
      · rename_i honest
        have same : ethSrc = client := by
          simpa [isSpoofedL2Packet, direct, Ipv4Addr.isUnspecified] using honest
        subst same
        refine ⟨?_, extracted⟩
        split at taken
        · cases taken
          rfl
        · split at taken
          · cases taken
            rfl
          · cases taken
        · cases taken
          rfl
        · cases taken
          rfl
        · cases taken
        · cases taken

/-- A worker that has nothing to do, whatever the time. -/
structure Rests (table : LeaseTable) (s : State) : Prop where
  table : s.table = table
  tasks : s.tasks = []
  mails : s.mailbox.items = []
  events : s.events.items = []
  main : s.main = .select

theorem Rests.keep (rests : Rests table s) (own : l.processes = true)
    (h : Step cfg s l t) : Rests table t := by
  have noTask : ∀ {i : Nat} {task : Task}, s.tasks[i]? ≠ some task := by
    intro i task found
    rw [rests.tasks] at found
    cases found
  cases h with
  | advance d => exact ⟨rests.table, rests.tasks, rests.mails, rests.events, rests.main⟩
  | packet | cleanupTick => cases own
  | branch idle branch => cases branch <;> cases own
  | takeEvent idle popped =>
    rw [rests.events] at popped
    cases popped
  | mainMove move =>
    rw [rests.main] at move
    cases move
  | mainPost post pushed =>
    rw [rests.main] at post
    cases post
  | call found | cast found | emit found | wake found => exact absurd found noTask
  | actor popped visits =>
    rw [rests.mails] at popped
    cases popped

theorem Rests.silent (rests : Rests table s) : emitted s l = none := by
  unfold emitted
  split
  · rw [rests.main]
  · rfl

/-- A worker that rests goes on resting, and sends nothing. -/
theorem Rests.exec (rests : Rests table s)
    (own : ∀ l ∈ ls, l.processes = true) (run : exec (step cfg) s ls = some t) :
    Rests table t ∧ Meets (step cfg) (fun s l => emitted s l = none) s ls := by
  induction ls generalizing s with
  | nil =>
    cases run
    exact ⟨rests, trivial⟩
  | cons l ls ih =>
    obtain ⟨r, first, rest⟩ := exec_cons_eq_some.mp run
    obtain ⟨now, later⟩ := List.forall_mem_cons.mp own
    obtain ⟨still, silent⟩ := ih (rests.keep now (.of_step first)) later rest
    refine ⟨still, rests.silent, fun r' taken => ?_⟩
    cases first.symm.trans taken
    exact silent

/-- For every table and every frame without a relay, processed with no other event: the entry
of every other client than the sender stays or has expired and is gone, and a frame with
another `chaddr` than the sender's leaves the table as it is and causes no message. -/
theorem frame_touches_sender_only {now : Nat} (direct : dhcp.giaddr = .unspecified)
    (own : ∀ l ∈ ls, l.processes = true)
    (run : exec (step cfg) (State.idle now table) (.packet ethSrc (some dhcp) :: ls) = some t) :
    (∀ m, m ≠ ethSrc → table.Frame t.table t.now m) ∧
      (dhcp.chaddr.take 6 ≠ ethSrc.octets →
        t.table = table ∧ t.pending = [] ∧
          Meets (step cfg) (fun s l => emitted s l = none) (State.idle now table)
            (.packet ethSrc (some dhcp) :: ls)) := by
  obtain ⟨r, received, rest⟩ := exec_cons_eq_some.mp run
  have wf := (Wf.idle now table).keep (Step.of_step received)
  cases received
  constructor
  · have serving : Serving cfg table ethSrc { State.idle now table with
        tasks := (processIncomingPacket cfg ethSrc dhcp).toList } := by
      refine ⟨wf, ?_, ?_, .inl rfl, fun _ _ => .inl rfl⟩
      · intro task member
        exact (mac_of_direct direct (Option.mem_toList.mp member)).1
      · exact nofun
    have keep : Inductive (step cfg) (fun _ l => l.processes = true)
        (Serving cfg table ethSrc) := by
      intro s l t serving own taken
      exact serving.keep own (.of_step taken)
    exact (keep.exec serving ((meets_labels rest).mpr own) rest).entries
  · intro other
    have dropped : processIncomingPacket cfg ethSrc dhcp = none := by
      by_contra taken
      obtain ⟨task, taken⟩ := Option.ne_none_iff_exists'.mp taken
      exact other (take_chaddr (mac_of_direct direct taken).2)
    have rests : Rests table { State.idle now table with
        tasks := (processIncomingPacket cfg ethSrc dhcp).toList } := by
      rw [dropped]
      exact ⟨rfl, rfl, rfl, rfl, rfl⟩
    obtain ⟨still, silent⟩ := rests.exec own rest
    refine ⟨still.table, ?_, rfl, fun r taken => ?_⟩
    · simp [State.pending, still.events, still.main, MainPc.pending]
    · cases taken
      exact silent

/-- A table with a lease of client 3. -/
def thirdLeased : LeaseTable :=
  LeaseTable.new.insert 3 ⟨.new 192 168 1 9, fromSecs 100, none⟩

/-- Client 1 is offered an address.  The lease of client 3 stays, and the frame that client 2
sends in the name of client 1 does nothing. -/
theorem offer_leaves_third :
    (∃ t, exec (step sampleConfig) (State.idle 0 thirdLeased)
        (discoverExchange 0 1 none [3] [1, 3]) = some t ∧
      ∀ m, m ≠ 1 → thirdLeased.Frame t.table t.now m) ∧
    ∃ t, exec (step sampleConfig) (State.idle 0 thirdLeased)
        [.packet 2 (sampleMessage .discover 1 none none), .advance 5] = some t ∧
      t.table = thirdLeased := by
  have offered : (exec (step sampleConfig) (State.idle 0 thirdLeased)
      (discoverExchange 0 1 none [3] [1, 3])).isSome = true := by
    decide +kernel
  have dropped : (exec (step sampleConfig) (State.idle 0 thirdLeased)
      [.packet 2 (sampleMessage .discover 1 none none), .advance 5]).isSome = true := by
    decide +kernel
  obtain ⟨t, run⟩ := Option.isSome_iff_exists.mp offered
  obtain ⟨t', run'⟩ := Option.isSome_iff_exists.mp dropped
  refine ⟨⟨t, run, (frame_touches_sender_only rfl ?_ run).1⟩,
    t', run', ((frame_touches_sender_only rfl ?_ run').2 (by decide)).1⟩
  · decide
  · decide

end TrimRouter.DhcpServer
