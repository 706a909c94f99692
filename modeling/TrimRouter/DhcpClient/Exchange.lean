import TrimRouter.DhcpClient.Steps
import TrimRouter.Lib.History
import TrimRouter.Lib.Run

/-!
# The exchanges of the DHCP client

The worker of `services/dhcp_client/worker.rs` with a record of the server messages that reach it
and of what it tells its parent, with the time of each.  `lease_follows_ack` relates the two.
-/

namespace TrimRouter.DhcpClient

open History

/-- What the worker receives and sends. -/
inductive Traffic where
  | received (dhcp : Message)
  | sent (msg : ToParentMsg)
deriving DecidableEq

/-- An event with its time. -/
abbrev Entry := Nat × Traffic

/-- Messages that are sent now. -/
def sentAt (now : Nat) (msgs : List ToParentMsg) : List Entry :=
  msgs.map fun msg => (now, .sent msg)

/-- A server message that is received now, if there is one. -/
def receivedAt (now : Nat) (payload : Option Message) : List Entry :=
  payload.toList.map fun dhcp => (now, .received dhcp)

/-- The server message of an input. -/
def Input.received : Input → Option Message
  | .frame payload _ => payload
  | .elapse _ => none
  | .timeout _ => none
  | .closed => none
  | .recvError => none

/-- The worker and the record of its traffic. -/
structure Recorded where
  worker : Worker
  trace : List Entry

namespace Recorded

/-- `run` is called. -/
def init (now : Nat) (draw : Draw) : Recorded :=
  ⟨(Worker.start now draw).1, sentAt now (Worker.start now draw).2⟩

/-- One step of the worker. -/
def step (mac : MacAddr) (s : Recorded) (input : Input) : Option Recorded :=
  (s.worker.step mac input).map fun (worker, msgs) =>
    ⟨worker,
      s.trace ++ receivedAt s.worker.now input.received ++ sentAt s.worker.now msgs⟩

/-- What a step can do. -/
inductive Moves (mac : MacAddr) (s : Recorded) : Input → Recorded → Prop where
  | elapse {d : Nat} (inWait : ∀ wait ∈ s.worker.pc.wait, s.worker.now + d ≤ wait.deadline) :
      Moves mac s (.elapse d) ⟨⟨s.worker.now + d, s.worker.pc⟩, s.trace⟩
  | react {input : Input} {outcome : Outcome} (reacts : s.worker.react mac input = some outcome) :
      Moves mac s input ⟨⟨s.worker.now, outcome.1⟩,
        s.trace ++ receivedAt s.worker.now input.received ++ sentAt s.worker.now outcome.2⟩

theorem Moves.of_step {mac : MacAddr} {s t : Recorded} {input : Input}
    (h : s.step mac input = some t) : Moves mac s input t := by
  obtain ⟨⟨worker, msgs⟩, taken, rfl⟩ := Option.map_eq_some_iff.mp h
  cases input with
  | elapse d =>
    obtain ⟨inWait, taken⟩ := Option.ite_none_right_eq_some.mp taken
    cases taken
    simp only [receivedAt, sentAt, Input.received, Option.toList_none, List.map_nil,
      List.append_nil]
    refine .elapse ?_
    intro wait waits
    simpa [Option.mem_def.mp waits] using inWait
  | frame | timeout | closed | recvError =>
    obtain ⟨outcome, reacts, same⟩ := Option.map_eq_some_iff.mp taken
    cases same
    exact .react reacts

end Recorded

/-! ## What a trace says -/

/-- The transaction id of an exchange that is begun or continued. -/
def exchangeXid : Entry → Option (BitVec 32)
  | (_, .sent (.sendDiscover xid)) => some xid
  | (_, .sent (.sendRequest xid _ _ _)) => some xid
  | (_, .sent (.applyWanLease _ _ _ _)) => none
  | (_, .sent .heartbeat) => none
  | (_, .sent .clearWanLease) => none
  | (_, .received _) => none

/-- The lease time that the last server message grants, and the lease that is applied and not
cleared, with its time. -/
structure Ledger where
  granted : BitVec 32
  standing : Option (Nat × BitVec 32)

def Ledger.record (ledger : Ledger) : Entry → Ledger
  | (_, .received dhcp) => { ledger with granted := (parseLeaseOptions dhcp).leaseSecs }
  | (now, .sent (.applyWanLease _ _ _ _)) => { ledger with standing := some (now, ledger.granted) }
  | (_, .sent .clearWanLease) => { ledger with standing := none }
  | (_, .sent (.sendDiscover _)) => ledger
  | (_, .sent (.sendRequest _ _ _ _)) => ledger
  | (_, .sent .heartbeat) => ledger

def ledger (trace : List Entry) : Ledger := trace.foldl Ledger.record ⟨0#32, none⟩

/-- The message applies a lease or clears it. -/
def Traffic.settles : Traffic → Bool
  | .sent (.applyWanLease _ _ _ _) => true
  | .sent .clearWanLease => true
  | .sent (.sendDiscover _) => false
  | .sent (.sendRequest _ _ _ _) => false
  | .sent .heartbeat => false
  | .received _ => false

/-- An acknowledgement for this client in the exchange that the trace is in. -/
structure Acknowledges (mac : MacAddr) (trace : List Entry) (dhcp : Message) : Prop where
  chaddr : mac.octets <+: dhcp.chaddr
  xid : lastSome exchangeXid trace = some dhcp.xid
  ack : dhcp.messageType = some .ack

/-- The lease of an acknowledgement. -/
def Message.lease (dhcp : Message) : ToParentMsg :=
  .applyWanLease dhcp.yiaddr
    ((maskToPrefixLen (dhcp.subnetMask.getD defaultSubnetMask)).getD 24)
    ((dhcp.router.bind List.head?).getD Ipv4Addr.unspecified) (dhcp.domainNameServer.getD [])

/-- A lease is applied right after its acknowledgement, and a discovery begins without one. -/
def Follows (mac : MacAddr) (before : List Entry) : Entry → Prop
  | (now, .sent (.applyWanLease ip prefixLen gateway dns)) => ∃ earlier dhcp,
      before = earlier ++ [(now, .received dhcp)] ∧ Acknowledges mac earlier dhcp ∧
        .applyWanLease ip prefixLen gateway dns = dhcp.lease
  | (_, .sent (.sendDiscover _)) => (ledger before).standing = none
  | (_, .sent (.sendRequest _ _ _ _)) => True
  | (_, .sent .heartbeat) => True
  | (_, .sent .clearWanLease) => True
  | (_, .received _) => True

section

variable {mac : MacAddr} {trace mid post : List Entry} {now : Nat} {dhcp : Message}
  {msg : ToParentMsg} {msgs : List ToParentMsg} {entry : Entry}

theorem ledger_append : ledger (trace ++ post) = post.foldl Ledger.record (ledger trace) :=
  List.foldl_append

theorem ledger_concat : ledger (trace ++ [entry]) = (ledger trace).record entry := by
  rw [ledger_append]
  rfl

/-- Only these messages change the standing lease. -/
theorem Ledger.standing_record {before : Ledger} (other : entry.2.settles = false) :
    (before.record entry).standing = before.standing := by
  obtain ⟨now, traffic⟩ := entry
  cases traffic with
  | received dhcp => rfl
  | sent msg =>
    cases msg with
    | applyWanLease | clearWanLease => cases other
    | sendDiscover | sendRequest | heartbeat => rfl

theorem Ledger.cleared {before : Ledger} (stood : before.standing ≠ none)
    (gone : (mid.foldl Ledger.record before).standing = none) :
    ∃ entry ∈ mid, entry.2 = .sent .clearWanLease := by
  induction mid generalizing before with
  | nil => exact absurd gone stood
  | cons entry mid ih =>
    by_cases clears : entry.2 = .sent .clearWanLease
    · exact ⟨entry, List.mem_cons_self, clears⟩
    · have still : (before.record entry).standing ≠ none := by
        obtain ⟨now, traffic⟩ := entry
        cases traffic with
        | received dhcp => exact stood
        | sent msg =>
          cases msg with
          | applyWanLease ip prefixLen gateway dns => exact Option.some_ne_none _
          | clearWanLease => exact absurd rfl clears
          | sendDiscover | sendRequest | heartbeat => exact stood
      obtain ⟨later, listed, clears⟩ := ih still gone
      exact ⟨later, List.mem_cons_of_mem _ listed, clears⟩

end

/-! ## The worker -/

/-- The trace agrees with where the worker is. -/
structure Sound (mac : MacAddr) (pc : Pc) (trace : List Entry) : Prop where
  follows : Each (Follows mac) trace
  standing : (ledger trace).standing = pc.lease
  exchange : ∀ xid ∈ pc.exchange, lastSome exchangeXid trace = some xid

section

variable {mac : MacAddr} {pc : Pc} {trace : List Entry} {now boundAt retryDelaySecs : Nat}
  {jitter : Fin (fromSecs 2 + 1)} {xid : BitVec 32} {offer : DhcpOffer} {ack : DhcpAck}
  {renewSent : Option Nat} {draw : Draw} {payload : Option Message} {dhcp : Message}
  {outcome : Outcome}

/-- A server message by itself changes nothing. -/
theorem Sound.receive (sound : Sound mac pc trace) :
    Sound mac pc (trace ++ [(now, Traffic.received dhcp)]) := by
  refine ⟨sound.follows.concat trivial, ?_, ?_⟩
  · rw [ledger_concat]
    exact sound.standing
  · intro xid waits
    rw [lastSome_concat]
    exact sound.exchange xid waits

section

variable (follows : Each (Follows mac) trace)

include follows

theorem heartbeat_follows (now : Nat) :
    Each (Follows mac) (trace ++ [(now, Traffic.sent .heartbeat)]) :=
  follows.concat trivial

theorem discoverAttempt_sound (free : (ledger trace).standing = none) :
    Sound mac (discoverAttempt xid retryDelaySecs now jitter).1
      (trace ++ sentAt now (discoverAttempt xid retryDelaySecs now jitter).2) := by
  have beats := heartbeat_follows follows now
  have free' : (ledger (trace ++ [(now, Traffic.sent .heartbeat)])).standing = none := by
    rw [ledger_concat]
    exact free
  rw [sentAt, discoverAttempt, List.map_cons, List.append_cons]
  refine ⟨beats.concat free', ?_, ?_⟩
  · rw [List.map_singleton, ledger_concat]
    exact free'
  · exact nofun

theorem requestAttempt_sound (free : (ledger trace).standing = none) :
    Sound mac (requestAttempt xid offer retryDelaySecs now jitter).1
      (trace ++ sentAt now (requestAttempt xid offer retryDelaySecs now jitter).2) := by
  rw [sentAt, requestAttempt, List.map_cons, List.append_cons, List.map_singleton]
  refine ⟨(heartbeat_follows follows now).concat trivial, ?_, ?_⟩
  · rw [ledger_concat, ledger_concat]
    exact free
  · intro xid waits
    cases waits
    exact lastSome_concat_some rfl

/-- Without a lease and outside of an exchange only the messages matter. -/
theorem Sound.idle (held : pc.lease = none) (apart : pc.exchange = none)
    (free : (ledger trace).standing = none) : Sound mac pc trace := by
  refine ⟨follows, free.trans held.symm, ?_⟩
  intro xid waits
  cases apart.symm.trans waits

theorem handlePhaseFailure_sound :
    Sound mac (handlePhaseFailure now).1 (trace ++ sentAt now (handlePhaseFailure now).2) := by
  have clears : Each (Follows mac) (trace ++ [(now, Traffic.sent .clearWanLease)]) :=
    follows.concat trivial
  refine .idle clears rfl rfl ?_
  rw [sentAt, handlePhaseFailure, List.map_singleton, ledger_concat]
  rfl

end

theorem sendingFirst_sound {msg : ToParentMsg}
    (after : Sound mac outcome.1 (trace ++ [(now, Traffic.sent msg)] ++ sentAt now outcome.2)) :
    Sound mac (outcome.sendingFirst [msg]).1
      (trace ++ sentAt now (outcome.sendingFirst [msg]).2) := by
  rw [List.append_assoc] at after
  exact after

theorem leaseLost_sound (follows : Each (Follows mac) trace) :
    Sound mac (leaseLost now).1 (trace ++ sentAt now (leaseLost now).2) :=
  sendingFirst_sound (handlePhaseFailure_sound (follows.concat trivial))

theorem renewIteration_sound (follows : Each (Follows mac) trace)
    (holds : (ledger trace).standing = some (boundAt, ack.leaseSecs))
    (continued : renewSent ≠ none → lastSome exchangeXid trace = some xid) :
    Sound mac (renewIteration ack boundAt xid renewSent now).1
      (trace ++ sentAt now (renewIteration ack boundAt xid renewSent now).2) := by
  have beats := heartbeat_follows follows now
  have holds' : (ledger (trace ++ [(now, Traffic.sent .heartbeat)])).standing =
      some (boundAt, ack.leaseSecs) := by
    rw [ledger_concat]
    exact holds
  unfold renewIteration
  by_cases expired : ack.leaseSecs.toNat ≤ elapsedSecs boundAt now
  · rw [if_pos expired]
    exact sendingFirst_sound (leaseLost_sound beats)
  · rw [if_neg expired]
    dsimp only
    generalize due : (renewSent.all fun t => _) = shouldSend
    rw [sentAt, List.map_cons, List.append_cons]
    cases shouldSend with
    | true =>
      refine ⟨beats.concat trivial, ?_, ?_⟩
      · rw [if_pos rfl, List.map_singleton, ledger_concat]
        exact holds'
      · intro xid waits
        cases waits
        exact lastSome_concat_some rfl
    | false =>
      have sent : renewSent ≠ none := by
        intro never
        rw [never] at due
        cases due
      simp only [Bool.false_eq_true, if_false, List.map_nil, List.append_nil]
      refine ⟨beats, holds', ?_⟩
      intro xid waits
      cases waits
      rw [lastSome_concat]
      exact continued sent

theorem boundLoop_sound (follows : Each (Follows mac) trace)
    (holds : (ledger trace).standing = some (boundAt, ack.leaseSecs)) :
    Sound mac (boundLoop ack boundAt xid now).1
      (trace ++ sentAt now (boundLoop ack boundAt xid now).2) := by
  unfold boundLoop
  dsimp only
  split
  · exact leaseLost_sound follows
  · split
    · refine ⟨follows.concat trivial, ?_, ?_⟩
      · rw [sentAt, List.map_singleton, ledger_concat]
        exact holds
      · exact nofun
    · exact renewIteration_sound follows holds fun sent => absurd rfl sent

/-- The acknowledgement that a wait ends with. -/
theorem ack_received
    (read : ((recvDhcpPacket mac payload).map (parseAckNak · xid)).getD .none = .ack ack) :
    ∃ dhcp, payload = some dhcp ∧ mac.octets <+: dhcp.chaddr ∧ dhcp.xid = xid ∧
      dhcp.messageType = some .ack ∧ applyLeaseConfig ack = dhcp.lease ∧
      ack.leaseSecs = (parseLeaseOptions dhcp).leaseSecs := by
  cases payload with
  | none => cases read
  | some dhcp =>
    unfold recvDhcpPacket at read
    rw [Option.filter_some] at read
    split at read
    · rename_i own
      unfold parseAckNak at read
      simp only [Option.map_some, Option.getD_some] at read
      split at read
      · cases read
      · rename_i same
        split at read
        · rename_i acks
          cases read
          exact ⟨dhcp, rfl, List.isPrefixOf_iff_prefix.mp own, not_not.mp same, acks, rfl, rfl⟩
        · cases read
        · cases read
    · cases read

theorem boundPhase_sound (follows : Each (Follows mac) trace)
    (acknowledges : Acknowledges mac trace dhcp) (applies : applyLeaseConfig ack = dhcp.lease)
    (granted : ack.leaseSecs = (parseLeaseOptions dhcp).leaseSecs) :
    Sound mac (boundPhase ack xid now).1
      (trace ++ [(now, Traffic.received dhcp)] ++ sentAt now (boundPhase ack xid now).2) := by
  have received : Each (Follows mac) (trace ++ [(now, Traffic.received dhcp)]) :=
    follows.concat trivial
  refine sendingFirst_sound (boundLoop_sound (received.concat ?_) ?_)
  · exact ⟨trace, dhcp, rfl, acknowledges, applies⟩
  · rw [ledger_concat, ledger_concat, granted]
    rfl

theorem Sound.recorded (sound : Sound mac pc trace) :
    Sound mac pc (trace ++ receivedAt now payload) := by
  cases payload with
  | none =>
    rw [receivedAt, Option.toList_none, List.map_nil, List.append_nil]
    exact sound
  | some dhcp => exact sound.receive

/-- The worker ends, and clears a lease that it holds. -/
theorem stopped_sound (sound : Sound mac pc trace) :
    Sound mac .stopped
      (trace ++ sentAt now (if pc.lease.isSome then [.clearWanLease] else [])) := by
  cases held : pc.lease with
  | none =>
    rw [Option.isSome_none, if_neg Bool.false_ne_true, sentAt, List.map_nil, List.append_nil]
    exact .idle sound.follows rfl rfl (sound.standing.trans held)
  | some lease =>
    rw [Option.isSome_some, if_pos rfl, sentAt, List.map_singleton]
    refine .idle (sound.follows.concat trivial) rfl rfl ?_
    rw [ledger_concat]
    rfl

theorem sound_of_silent (sound : Sound mac pc trace) : Sound mac pc (trace ++ sentAt now []) := by
  rw [sentAt, List.map_nil, List.append_nil]
  exact sound

theorem Sound.react {w : Worker} {input : Input} (sound : Sound mac w.pc trace)
    (h : w.react mac input = some outcome) :
    Sound mac outcome.1 (trace ++ receivedAt w.now input.received ++ sentAt w.now outcome.2) := by
  have recorded : Sound mac w.pc (trace ++ receivedAt w.now input.received) := sound.recorded
  cases Reacts.of_react h with
  | passed => exact sound_of_silent recorded
  | discover free => exact discoverAttempt_sound recorded.follows (recorded.standing.trans free)
  | request free => exact requestAttempt_sound recorded.follows (recorded.standing.trans free)
  | acknowledged waits read =>
    obtain ⟨dhcp, rfl, own, rfl, acks, applies, granted⟩ := ack_received read
    exact boundPhase_sound sound.follows ⟨own, sound.exchange _ waits, acks⟩ applies granted
  | bound holds => exact boundLoop_sound recorded.follows (recorded.standing.trans holds)
  | renew holds waits =>
    exact renewIteration_sound recorded.follows (recorded.standing.trans holds)
      fun _ => recorded.exchange _ waits
  | failed => exact handlePhaseFailure_sound recorded.follows
  | lost => exact leaseLost_sound recorded.follows
  | rest failed =>
    have free : (ledger (trace ++ _)).standing = none :=
      recorded.standing.trans (congrArg Pc.lease failed)
    exact sound_of_silent (.idle recorded.follows rfl rfl free)
  | stopped => exact stopped_sound recorded

end

/-! ## Runs -/

theorem Sound.keep {mac : MacAddr} :
    Run.Inductive (Recorded.step mac) (fun _ _ => True) fun s => Sound mac s.worker.pc s.trace := by
  intro s input t sound _ h
  cases Recorded.Moves.of_step h with
  | elapse inWait => exact sound
  | react reacts => exact sound.react reacts

theorem Sound.init {mac : MacAddr} {now : Nat} {draw : Draw} :
    Sound mac (Recorded.init now draw).worker.pc (Recorded.init now draw).trace :=
  @discoverAttempt_sound mac [] now initialRetryDelaySecs draw.jitter draw.xid .nil rfl

theorem Sound.exec {mac : MacAddr} {start : Nat} {draw : Draw} {inputs : List Input}
    {s : Recorded} (run : Run.exec (Recorded.step mac) (Recorded.init start draw) inputs = some s) :
    Sound mac s.worker.pc s.trace :=
  Sound.keep.exec .init (.of_forall fun _ _ => trivial) run

/-- In every run of the worker: a lease is applied right after an acknowledgement for this client
in the current exchange and is what the acknowledgement says, and between it and the next
discovery it is cleared. -/
theorem lease_follows_ack {mac : MacAddr} {start : Nat} {draw : Draw} {inputs : List Input}
    {s : Recorded} (run : Run.exec (Recorded.step mac) (Recorded.init start draw) inputs = some s) :
    (∀ before after now ip prefixLen gateway dns,
      s.trace = before ++ (now, .sent (.applyWanLease ip prefixLen gateway dns)) :: after →
        ∃ earlier dhcp, before = earlier ++ [(now, .received dhcp)] ∧
          dhcp.messageType = some .ack ∧ lastSome exchangeXid earlier = some dhcp.xid ∧
          mac.octets <+: dhcp.chaddr ∧ ip = dhcp.yiaddr ∧
          gateway = (dhcp.router.bind List.head?).getD Ipv4Addr.unspecified ∧
          dns = dhcp.domainNameServer.getD []) ∧
      ∀ before mid after now now' ip prefixLen gateway dns xid,
        s.trace = before ++ (now, .sent (.applyWanLease ip prefixLen gateway dns)) ::
            (mid ++ (now', .sent (.sendDiscover xid)) :: after) →
          ∃ entry ∈ mid, entry.2 = .sent .clearWanLease := by
  have sound := Sound.exec run
  constructor
  · intro before after now ip prefixLen gateway dns split
    obtain ⟨earlier, dhcp, same, acknowledges, carries⟩ := sound.follows _ _ _ split
    cases carries
    exact ⟨earlier, dhcp, same, acknowledges.ack, acknowledges.xid, acknowledges.chaddr, rfl, rfl,
      rfl⟩
  · intro before mid after now now' ip prefixLen gateway dns xid split
    rw [← List.cons_append, ← List.append_assoc] at split
    have gone : (ledger (before ++ _ :: mid)).standing = none := sound.follows _ _ _ split
    rw [ledger_append] at gone
    exact Ledger.cleared (Option.some_ne_none _) gone

/-- A client, the random numbers that it draws, and a server that offers it a lease of this
length. -/
def clientMac : MacAddr := 0x020000000007#48

def clientDraw : Draw := ⟨7#32, 0⟩

def serverMessage (messageType : MessageType) (leaseSecs : BitVec 32) : Message where
  xid := 7#32
  chaddr := clientMac.octets
  yiaddr := .new 100 64 0 5
  messageType := some messageType
  serverIdentifier := some (.new 100 64 0 1)
  subnetMask := some (.new 255 255 255 0)
  router := some [.new 100 64 0 1]
  domainNameServer := none
  addressLeaseTime := some leaseSecs

/-- An offer, another client's acknowledgement and the own one. -/
def serverRun (leaseSecs : BitVec 32) : List Input :=
  [.frame (some (serverMessage .offer leaseSecs)) clientDraw,
    .frame (some { serverMessage .ack leaseSecs with chaddr := [] }) clientDraw,
    .frame (some (serverMessage .ack leaseSecs)) clientDraw]

/-- The lease is applied once, for the third message. -/
theorem lease_follows_sample_ack :
    ∃ s before after, Run.exec (Recorded.step clientMac) (Recorded.init 0 clientDraw)
        (serverRun 8#32) = some s ∧
      s.trace = before ++ (0, .sent (.applyWanLease (.new 100 64 0 5) 24 (.new 100 64 0 1) [])) ::
        after ∧
      ∃ earlier dhcp, before = earlier ++ [(0, .received dhcp)] ∧
        dhcp.messageType = some .ack ∧ lastSome exchangeXid earlier = some dhcp.xid ∧
        clientMac.octets <+: dhcp.chaddr ∧ dhcp.yiaddr = .new 100 64 0 5 := by
  obtain ⟨s, run, seen⟩ : ∃ s, Run.exec (Recorded.step clientMac) (Recorded.init 0 clientDraw)
      (serverRun 8#32) = some s ∧ s.trace[7]? =
        some (0, .sent (.applyWanLease (.new 100 64 0 5) 24 (.new 100 64 0 1) [])) := by
    decide +kernel
  obtain ⟨short, applied⟩ := List.getElem?_eq_some_iff.mp seen
  have split := (List.take_append_drop 7 s.trace).symm
  rw [List.drop_eq_getElem_cons short, applied] at split
  obtain ⟨earlier, dhcp, before, ack, xid, chaddr, ip, -⟩ :=
    (lease_follows_ack run).1 _ _ _ _ _ _ _ split
  exact ⟨s, _, _, run, split, earlier, dhcp, before, ack, xid, chaddr, ip.symm⟩

end TrimRouter.DhcpClient
