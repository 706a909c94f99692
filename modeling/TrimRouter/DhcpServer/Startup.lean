import TrimRouter.Config.Documents
import TrimRouter.DhcpServer.Ipc
import TrimRouter.DhcpServer.Reservations

/-!
# The start of the DHCP server worker

Before its loop the parent sends the reservations to the worker, and before its own loop the
worker waits for them (`sync_initial_static_leases` of `services/dhcp_server/worker.rs`).  The
parent only logs a send that fails, and `IpcEndpoint::send` refuses a message of more than
`MAX_IPC_MSG_LEN` bytes.  The worker takes whatever comes first, and goes on without
reservations when that is another message.

The serialization is the work of the `postcard` crate, so the length of the message is a parameter
of the model; `postcardLen` is the length in the crate's wire format.  The result is
`reservations_first_iff`.
-/

namespace TrimRouter.DhcpServer

open Lan

/-- `MAX_IPC_MSG_LEN`. -/
def maxIpcMsgLen : Nat := 65536

/-- How far the worker has come. -/
inductive Phase where
  /-- in the `recv` of `sync_initial_static_leases` -/
  | syncing
  /-- past it -/
  | running
  /-- the process has ended -/
  | ended
deriving DecidableEq

/-- Parent and worker from the launch of the worker on. -/
structure Launch (down up : Nat) where
  phase : Phase
  pair : Pair down up

/-- One step of one of the two. -/
inductive LaunchLabel where
  | pair (l : PairLabel)
  /-- the worker receives its first message -/
  | sync
  /-- the worker finds the socket closed -/
  | closed

/-- The steps of the main loop, which begins after the synchronization. -/
def Label.ofMainLoop : Label → Bool
  | .advance _ => false
  | .task _ => false
  | .actor _ => false
  | .cleanupTick => false
  | _ => true

/-- The steps that the worker can take in a phase. -/
def Phase.allows : Phase → PairLabel → Bool
  | .running, _ => true
  | .syncing, .worker l => !l.ofMainLoop
  | .ended, .worker _ => false
  | _, .workerRecv => false
  | _, _ => true

/-- `sync_initial_static_leases` after its `recv`: the reservations are handed to the lease
actor, and any other message is dropped with a warning. -/
def State.sync (s : State) : ParentMsg → State
  | .setStaticLeases staticLeases => { s with main := .callStatic staticLeases }
  | _ => s

namespace Launch

variable {down up : Nat}

/-- The worker has been spawned, its lease actor runs, and the parent is in its first send. -/
def init (staticLeases : List StaticLease) : Launch down up :=
  ⟨.syncing, { Pair.init [] with parent := .forward (.setStaticLeases staticLeases) }⟩

variable (serializedLen : List StaticLease → Nat) (cfg : ServerConfig)

/-- The message that the parent is sending is refused because of its length.  Frames, of at
most 2048 bytes, and neighbour reports are always short enough. -/
def refused (s : Launch down up) : Bool :=
  match s.pair.parent with
  | .forward (.setStaticLeases staticLeases) => maxIpcMsgLen < serializedLen staticLeases
  | _ => false

/-- One step of one of the two. -/
def step (s : Launch down up) : LaunchLabel → Option (Launch down up)
  | .pair .parentSend =>
    -- the error is logged, and the parent enters its loop
    if s.refused serializedLen then some { s with pair := { s.pair with parent := .select } }
    else (s.pair.step cfg .parentSend).map fun pair => { s with pair }
  | .pair l =>
    if s.phase.allows l then (s.pair.step cfg l).map fun pair => { s with pair } else none
  | .sync =>
    if s.phase = .syncing then
      s.pair.toWorker.pop.map fun (msg, toWorker) =>
        ⟨.running, { s.pair with toWorker, worker := s.pair.worker.sync msg }⟩
    else none
  | .closed =>
    if s.pair.parent = .stopped ∧ s.pair.toWorker.items = [] ∧
        s.pair.worker.main = .select then
      some { s with phase := .ended }
    else none

/-- The command that a step sends to the lease actor on behalf of a client packet. -/
def issues (s : Launch down up) : LaunchLabel → Option LeaseCommand
  | .pair (.worker (.task i)) =>
    match s.pair.worker.tasks[i]? with
    | some ⟨_, _, .call cmd _⟩ => some cmd
    | some ⟨_, _, .cast cmd _⟩ => some cmd
    | _ => none
  | _ => none

end Launch

/-- The table holds exactly the reservations. -/
structure LeaseTable.HoldsExactly (table : LeaseTable) (staticLeases : List StaticLease) :
    Prop where
  byMac : ∀ mac r, table.staticLeases.lookup mac = some r ↔ r ∈ staticLeases ∧ r.mac = mac
  ips : ∀ ip, ip ∈ table.reservedIps ↔ ∃ r ∈ staticLeases, r.ip = ip

variable {down up : Nat} {cfg : ServerConfig} {serializedLen : List StaticLease → Nat}
  {staticLeases : List StaticLease} {s t : Launch down up} {l : LaunchLabel}

/-- Reservations in force are held exactly, if there is one per MAC address. -/
theorem Reserved.holdsExactly {worker : State} (reserved : Reserved staticLeases worker)
    (valid : ValidReservations staticLeases) : worker.table.HoldsExactly staticLeases := by
  constructor
  · intro mac r
    rw [reserved.byMac]
    constructor
    · exact mem_of_reservationOf
    · intro ⟨listed, owner⟩
      rw [← owner]
      exact valid.reservationOf_eq listed
  · intro ip
    rw [reserved.ips, List.mem_toFinset, List.mem_map]

/-! ## The reservations come first -/

/-- The message does not carry reservations. -/
def ParentMsg.other : ParentMsg → Bool
  | .setStaticLeases _ => false
  | _ => true

/-- The worker has received nothing yet. -/
structure State.Blank (worker : State) : Prop where
  main : worker.main = .select
  tasks : worker.tasks = []
  mailbox : worker.mailbox.items = []

/-- The worker has received the reservations: it hands them to the lease actor, waits for the
actor, or has them in force. -/
inductive Arrived (staticLeases : List StaticLease) (worker : State) : Prop where
  | calling (main : worker.main = .callStatic staticLeases) (tasks : worker.tasks = [])
      (mailbox : worker.mailbox.items = [])
  | called (main : worker.main = .replyStatic) (tasks : worker.tasks = [])
      (mailbox : worker.mailbox.items = [⟨.setStaticLeases staticLeases, .main⟩])
  | applied (reserved : Reserved staticLeases worker)

theorem State.Blank.keep {worker worker' : State} {l : Label} (blank : worker.Blank)
    (early : l.ofMainLoop = false) (h : Step cfg worker l worker') : worker'.Blank := by
  obtain ⟨main, tasks, mailbox⟩ := blank
  cases h with
  | advance | cleanupTick => exact ⟨main, tasks, mailbox⟩
  | packet | takeEvent | mainMove | mainPost => cases early
  | branch idle branch => cases branch <;> cases early
  | call found | cast found | emit found | wake found => simp [tasks] at found
  | actor popped visits => simp [mailbox] at popped

theorem Arrived.keep {worker worker' : State} {l : Label} (arrived : Arrived staticLeases worker)
    (wf : Wf cfg worker) (fixed : l.setsReservations = false) (h : Step cfg worker l worker') :
    Arrived staticLeases worker' := by
  cases arrived with
  | calling main tasks mailbox =>
    cases h with
    | advance | cleanupTick => exact .calling main tasks mailbox
    | packet idle | branch idle | takeEvent idle => simp [main] at idle
    | mainMove move =>
      rw [main] at move
      cases move
    | mainPost post pushed =>
      rw [main] at post
      cases post
      exact .called rfl tasks (by rw [pushed, mailbox, List.nil_append])
    | call found | cast found | emit found | wake found => simp [tasks] at found
    | actor popped visits => simp [mailbox] at popped
  | called main tasks mailbox =>
    cases h with
    | advance | cleanupTick => exact .called main tasks mailbox
    | packet idle | branch idle | takeEvent idle => simp [main] at idle
    | mainMove move =>
      rw [main] at move
      cases move
    | mainPost post pushed =>
      rw [main] at post
      cases post
    | call found | cast found | emit found | wake found => simp [tasks] at found
    | @actor order mail rest popped visits =>
      rw [mailbox] at popped
      obtain ⟨rfl, empty⟩ := List.cons.inj popped
      refine .applied ⟨fun mac => lookup_setStaticLeases, rfl, ?_, ?_⟩
      · intro mail' member
        rw [deliver_mailbox] at member
        change mail' ∈ rest.items at member
        rw [← empty] at member
        cases member
      · simp [deliver, main, MainPc.proceed, handleLeaseCommand, MainPc.setsReservations]
  | applied reserved => exact .applied (reserved.keep wf fixed h)

/-- Nothing on the way to the worker carries reservations. -/
structure Pair.Quiet (p : Pair down up) : Prop where
  queued : ∀ msg ∈ p.toWorker.items, msg.other = true
  sending : ∀ msg, p.parent = .forward msg → msg.other = true

theorem ParentMsg.other_of_forwarded {msg : ParentMsg} {l : PairLabel}
    (forwarded : Pair.Forwarded l msg) : msg.other = true := by
  cases l with
  | frame | neighbor =>
    cases forwarded
    rfl
  | _ => cases forwarded

/-- The loop of the parent sends no reservations. -/
theorem Pair.Quiet.keep {p q : Pair down up} {l : PairLabel} (quiet : p.Quiet)
    (h : Moves cfg p l q) : q.Quiet := by
  obtain ⟨queued, sending⟩ := quiet
  cases h with
  | own alone taken => exact ⟨queued, sending⟩
  | recv popped taken =>
    refine ⟨?_, sending⟩
    intro msg member
    exact queued msg (by rw [popped]; exact List.mem_cons_of_mem _ member)
  | take idle forwarded =>
    refine ⟨queued, ?_⟩
    intro msg forwarding
    cases forwarding
    exact ParentMsg.other_of_forwarded forwarded
  | send forwarding pushed =>
    refine ⟨?_, by simp⟩
    rw [pushed]
    exact List.forall_mem_append.mpr
      ⟨queued, List.forall_mem_singleton.mpr (sending _ forwarding)⟩
  | other settled elsewhere =>
    refine ⟨queued, ?_⟩
    intro msg forwarding
    exact absurd forwarding (elsewhere msg)

/-- The steps of the two from the launch on. -/
inductive Launch.Moves (serializedLen : List StaticLease → Nat) (cfg : ServerConfig)
    (s : Launch down up) : LaunchLabel → Launch down up → Prop where
  | drop (refused : s.refused serializedLen = true) :
      Moves serializedLen cfg s (.pair .parentSend)
        { s with pair := { s.pair with parent := .select } }
  | pair {l : PairLabel} {pair : Pair down up}
      (allowed : l = .parentSend ∨ s.phase.allows l = true) (moved : Pair.Moves cfg s.pair l pair) :
      Moves serializedLen cfg s (.pair l) { s with pair }
  | sync {msg : ParentMsg} {toWorker : Fifo ParentMsg down} (syncing : s.phase = .syncing)
      (popped : s.pair.toWorker.items = msg :: toWorker.items) :
      Moves serializedLen cfg s .sync
        ⟨.running, { s.pair with toWorker, worker := s.pair.worker.sync msg }⟩
  | closed (stopped : s.pair.parent = .stopped) (empty : s.pair.toWorker.items = []) :
      Moves serializedLen cfg s .closed { s with phase := .ended }

theorem Launch.Moves.of_step (h : s.step serializedLen cfg l = some t) :
    Moves serializedLen cfg s l t := by
  have allowed : ∀ {l : PairLabel},
      (if s.phase.allows l then (s.pair.step cfg l).map fun pair => { s with pair } else none) =
        some t → Moves serializedLen cfg s (.pair l) t := by
    intro l h
    obtain ⟨allows, h⟩ := Option.ite_none_right_eq_some.mp h
    obtain ⟨pair, moved, rfl⟩ := Option.map_eq_some_iff.mp h
    exact .pair (.inr allows) (.of_step moved)
  cases l with
  | pair l =>
    cases l with
    | parentSend =>
      simp only [step] at h
      split at h
      · rename_i refused
        cases h
        exact .drop refused
      · obtain ⟨pair, moved, rfl⟩ := Option.map_eq_some_iff.mp h
        exact .pair (.inl rfl) (.of_step moved)
    | _ => exact allowed h
  | sync =>
    simp only [step] at h
    obtain ⟨syncing, h⟩ := Option.ite_none_right_eq_some.mp h
    obtain ⟨⟨msg, toWorker⟩, popped, rfl⟩ := Option.map_eq_some_iff.mp h
    exact .sync syncing (Fifo.pop_eq_some.mp popped)
  | closed =>
    simp only [step] at h
    obtain ⟨⟨stopped, empty, -⟩, h⟩ := Option.ite_none_right_eq_some.mp h
    cases h
    exact .closed stopped empty

/-- How far the reservations have come. -/
inductive Stage (staticLeases : List StaticLease) (s : Launch down up) : Prop where
  /-- the parent is sending them -/
  | sending (syncing : s.phase = .syncing) (blank : s.pair.worker.Blank)
      (parent : s.pair.parent = .forward (.setStaticLeases staticLeases))
      (empty : s.pair.toWorker.items = [])
  /-- they are the first message in the queue to the worker -/
  | sent (syncing : s.phase = .syncing) (blank : s.pair.worker.Blank) (rest : List ParentMsg)
      (queue : s.pair.toWorker.items = .setStaticLeases staticLeases :: rest)
      (queued : ∀ msg ∈ rest, msg.other = true)
      (parent : ∀ msg, s.pair.parent = .forward msg → msg.other = true)
  /-- the worker has received them -/
  | arrived (synced : s.phase ≠ .syncing) (arrived : Arrived staticLeases s.pair.worker)
      (quiet : s.pair.Quiet)

theorem Phase.not_ofMainLoop {l : Label} (syncing : s.phase = .syncing)
    (allowed : PairLabel.worker l = .parentSend ∨ s.phase.allows (.worker l) = true) :
    l.ofMainLoop = false := by
  rcases allowed with same | allowed
  · cases same
  · rw [syncing] at allowed
    simpa [Phase.allows] using allowed

theorem Phase.not_recv (syncing : s.phase = .syncing)
    (allowed : PairLabel.workerRecv = .parentSend ∨ s.phase.allows .workerRecv = true) :
    False := by
  rcases allowed with same | allowed
  · cases same
  · rw [syncing] at allowed
    cases allowed

theorem Stage.keep_sending (fits : serializedLen staticLeases ≤ maxIpcMsgLen)
    (syncing : s.phase = .syncing) (blank : s.pair.worker.Blank)
    (parent : s.pair.parent = .forward (.setStaticLeases staticLeases))
    (empty : s.pair.toWorker.items = []) (h : s.Moves serializedLen cfg l t) :
    Stage staticLeases t := by
  cases h with
  | drop refused =>
    simp only [Launch.refused, parent, decide_eq_true_eq] at refused
    omega
  | pair allowed moved =>
    cases moved with
    | own alone taken =>
      have early := Phase.not_ofMainLoop syncing allowed
      exact .sending syncing (blank.keep early (.of_step taken)) parent empty
    | recv popped taken => exact (Phase.not_recv syncing allowed).elim
    | take idle forwarded => cases parent.symm.trans idle
    | @send msg toWorker sending pushed =>
      cases parent.symm.trans sending
      rw [empty] at pushed
      exact .sent syncing blank [] pushed (by simp) (by simp)
    | other settled elsewhere => exact absurd parent (settled _)
  | sync syncing popped => simp [empty] at popped
  | closed stopped empty => cases parent.symm.trans stopped

theorem Stage.keep_sent {rest : List ParentMsg} (syncing : s.phase = .syncing)
    (blank : s.pair.worker.Blank)
    (queue : s.pair.toWorker.items = .setStaticLeases staticLeases :: rest)
    (queued : ∀ msg ∈ rest, msg.other = true)
    (parent : ∀ msg, s.pair.parent = .forward msg → msg.other = true)
    (h : s.Moves serializedLen cfg l t) : Stage staticLeases t := by
  cases h with
  | drop refused => exact .sent syncing blank rest queue queued (by simp)
  | pair allowed moved =>
    cases moved with
    | own alone taken =>
      have early := Phase.not_ofMainLoop syncing allowed
      exact .sent syncing (blank.keep early (.of_step taken)) rest queue queued parent
    | recv popped taken => exact (Phase.not_recv syncing allowed).elim
    | take idle forwarded =>
      refine .sent syncing blank rest queue queued ?_
      intro msg forwarding
      cases forwarding
      exact ParentMsg.other_of_forwarded forwarded
    | @send msg toWorker sending pushed =>
      refine .sent syncing blank (rest ++ [msg]) (by simp [pushed, queue]) ?_ (by simp)
      exact List.forall_mem_append.mpr
        ⟨queued, List.forall_mem_singleton.mpr (parent msg sending)⟩
    | other settled elsewhere =>
      refine .sent syncing blank rest queue queued ?_
      intro msg forwarding
      exact absurd forwarding (elsewhere msg)
  | @sync msg toWorker syncing popped =>
    obtain ⟨rfl, remaining⟩ := List.cons.inj (queue.symm.trans popped)
    refine .arrived (by simp) (.calling rfl blank.tasks blank.mailbox) ⟨?_, parent⟩
    intro msg member
    exact queued msg (by rw [remaining]; exact member)
  | closed stopped empty => simp [queue] at empty

theorem ParentMsg.fixed_label {msg : ParentMsg} (other : msg.other = true) :
    msg.label.setsReservations = false := by
  cases msg with
  | setStaticLeases staticLeases => cases other
  | _ => rfl

theorem Pair.fixed_of_alone {l : Label} (alone : Pair.takesMessage l = false) :
    l.setsReservations = false := by
  cases l with
  | staticLeases staticLeases => cases alone
  | _ => rfl

theorem Stage.keep_arrived (wf : Wf cfg s.pair.worker) (synced : s.phase ≠ .syncing)
    (arrived : Arrived staticLeases s.pair.worker) (quiet : s.pair.Quiet)
    (h : s.Moves serializedLen cfg l t) : Stage staticLeases t := by
  cases h with
  | drop refused => exact .arrived synced arrived ⟨quiet.queued, by simp⟩
  | pair allowed moved =>
    have quiet' := quiet.keep moved
    cases moved with
    | own alone taken =>
      have fixed := Pair.fixed_of_alone alone
      exact .arrived synced (arrived.keep wf fixed (.of_step taken)) quiet'
    | @recv msg worker toWorker popped taken =>
      have other := quiet.queued msg (by rw [popped]; exact List.mem_cons_self)
      have fixed := ParentMsg.fixed_label other
      exact .arrived synced (arrived.keep wf fixed (.of_step taken)) quiet'
    | _ => exact .arrived synced arrived quiet'
  | sync syncing popped => exact absurd syncing synced
  | closed stopped empty => exact .arrived (by simp) arrived quiet

/-- A worker that waits for its first message is in no branch of its loop. -/
theorem Stage.main_of_syncing (stage : Stage staticLeases s) (syncing : s.phase = .syncing) :
    s.pair.worker.main = .select := by
  cases stage with
  | sending _ blank | sent _ blank => exact blank.main
  | arrived synced arrived quiet => exact absurd syncing synced

theorem Stage.keep_wf (stage : Stage staticLeases s) (wf : Wf cfg s.pair.worker)
    (h : s.Moves serializedLen cfg l t) : Wf cfg t.pair.worker := by
  cases h with
  | drop | closed => exact wf
  | pair allowed moved =>
    cases moved with
    | own _ taken | recv _ taken => exact wf.keep (.of_step taken)
    | _ => exact wf
  | @sync msg toWorker syncing popped =>
    have idle := stage.main_of_syncing syncing
    cases msg with
    | setStaticLeases staticLeases => exact wf.keep (.branch idle .static)
    | _ => exact wf

/-- The stage of the reservations, with the worker's own invariant. -/
structure Staged (cfg : ServerConfig) (staticLeases : List StaticLease) (s : Launch down up) :
    Prop where
  stage : Stage staticLeases s
  wf : Wf cfg s.pair.worker

theorem Staged.init :
    Staged cfg staticLeases (Launch.init staticLeases : Launch down up) where
  stage := .sending rfl ⟨rfl, rfl, rfl⟩ rfl rfl
  wf := Wf.init []

/-- If the message is not too long, no step makes the reservations miss the worker. -/
theorem Staged.keep (fits : serializedLen staticLeases ≤ maxIpcMsgLen) :
    Run.Inductive (Launch.step serializedLen cfg) (fun _ _ => True)
      (Staged cfg staticLeases : Launch down up → Prop) := by
  intro s l t ⟨stage, wf⟩ _ h
  have moved := Launch.Moves.of_step h
  refine ⟨?_, stage.keep_wf wf moved⟩
  cases stage with
  | sending syncing blank parent empty =>
    exact .keep_sending fits syncing blank parent empty moved
  | sent syncing blank rest queue queued parent =>
    exact .keep_sent syncing blank queue queued parent moved
  | arrived synced arrived quiet => exact .keep_arrived wf synced arrived quiet moved

/-- A command on behalf of a client comes from a task. -/
theorem Launch.tasks_of_issues {cmd : LeaseCommand} (issued : s.issues l = some cmd) :
    s.pair.worker.tasks ≠ [] := by
  intro none
  cases l with
  | pair l =>
    cases l with
    | worker l =>
      cases l with
      | task i => simp [issues, none] at issued
      | _ => cases issued
    | _ => cases issued
  | sync | closed => cases issued

/-- Where there is a task, the reservations are in force. -/
theorem Stage.reserved (stage : Stage staticLeases s) (busy : s.pair.worker.tasks ≠ []) :
    Reserved staticLeases s.pair.worker := by
  cases stage with
  | sending _ blank | sent _ blank => exact absurd blank.tasks busy
  | arrived synced arrived quiet =>
    cases arrived with
    | calling _ tasks | called _ tasks => exact absurd tasks busy
    | applied reserved => exact reserved

/-! ## A message that is too long -/

/-- The client of the run below. -/
def newcomer : MacAddr := 1

/-- The parent's send of the reservations fails, its next message is the first that the worker
receives, and then a client asks for an address. -/
def unreservedRun : List LaunchLabel :=
  [.pair .parentSend, .pair (.frame 0 none), .pair .parentSend, .sync,
    .pair (.frame newcomer (sampleMessage .discover 1 none none)), .pair .parentSend,
    .pair .workerRecv]

/-- After that run the worker is about to serve the client from a table without
reservations. -/
theorem exec_unreservedRun (long : maxIpcMsgLen < serializedLen staticLeases) :
    ∃ s : Launch (down + 1) up,
      Run.exec (Launch.step serializedLen cfg) (Launch.init staticLeases) unreservedRun = some s ∧
        s.issues (.pair (.worker (.task 0))) = some (.getExistingIp newcomer) ∧
        (s.step serializedLen cfg (.pair (.worker (.task 0)))).isSome = true ∧
        s.pair.worker.table = (State.init []).table := by
  have refused : (Launch.init staticLeases : Launch (down + 1) up).refused serializedLen = true :=
    decide_eq_true long
  have dropped : (Launch.init staticLeases : Launch (down + 1) up).step serializedLen cfg
      (.pair .parentSend) = some ⟨.syncing, Pair.init []⟩ := by
    rw [Launch.step, if_pos refused]
    rfl
  rw [unreservedRun, Run.exec_cons, dropped]
  exact ⟨_, rfl, rfl, rfl, rfl⟩

/-- A table without reservations holds no others. -/
theorem eq_nil_of_holdsExactly (holds : (State.init []).table.HoldsExactly staticLeases) :
    staticLeases = [] := by
  cases staticLeases with
  | nil => rfl
  | cons r rest =>
    have found := (holds.byMac r.mac r).mpr ⟨List.mem_cons_self, rfl⟩
    cases found

/-- For every accepted configuration and the LAN that is in use: no command of a client
reaches the lease table before it holds exactly the reservations, if and only if the message
with the reservations is not too long. -/
theorem reservations_first_iff {lib : Parsers} {doc : ConfigToml} {config : RouterConfig}
    (accepted : RouterConfig.parse lib doc = .ok config) (net : Ipv4Net)
    (empty : serializedLen [] ≤ maxIpcMsgLen) (down up : Nat) {reservations : List StaticLease}
    (remapped : reservations = remapStaticLeasesForSubnet config.staticLeases config.lanIp net) :
    (∀ (labels : List LaunchLabel) (s t : Launch (down + 1) up) (l : LaunchLabel)
        (cmd : LeaseCommand),
      Run.exec (Launch.step serializedLen (.ofLanIp net)) (Launch.init reservations) labels =
        some s →
      s.step serializedLen (.ofLanIp net) l = some t → s.issues l = some cmd →
        s.pair.worker.table.HoldsExactly reservations) ↔
      serializedLen reservations ≤ maxIpcMsgLen := by
  constructor
  · intro first
    by_contra long
    obtain ⟨s, run, issued, enabled, unreserved⟩ :=
      @exec_unreservedRun down up (.ofLanIp net) serializedLen reservations (by omega)
    obtain ⟨t, taken⟩ := Option.isSome_iff_exists.mp enabled
    have holds := first unreservedRun s t _ _ run taken issued
    rw [unreserved] at holds
    rw [eq_nil_of_holdsExactly holds] at long
    exact long empty
  · intro fits labels s t l cmd run _ issued
    have valid : ValidReservations reservations :=
      remapped ▸ validReservations_of_config accepted net
    have staged : Staged (.ofLanIp net) reservations s :=
      (Staged.keep fits).exec .init (.of_forall fun _ _ => trivial) run
    exact (staged.stage.reserved (Launch.tasks_of_issues issued)).holdsExactly valid

/-! ## The wire format -/

/-- The bytes of a `usize` in the variable-length format, seven bits each. -/
def varintLen (n : Nat) : Nat := n.log2 / 7 + 1

/-- The bytes of an optional host name. -/
def hostnameLen : Option String → Nat
  | none => 1
  | some name => 1 + varintLen name.utf8ByteSize + name.utf8ByteSize

/-- The bytes of a reservation: the MAC address with its length, the address, the name. -/
def StaticLease.postcardLen (lease : StaticLease) : Nat := 7 + 4 + hostnameLen lease.hostname

/-- The bytes of `SetStaticLeases`: the variant, the number of reservations, and them. -/
def postcardLen (staticLeases : List StaticLease) : Nat :=
  1 + varintLen staticLeases.length + (staticLeases.map StaticLease.postcardLen).sum

/-- Reservations without names. -/
def nameless (n : Nat) : List StaticLease := crowd (fun _ => none) n

theorem parse_nameless {n : Nat} (room : n ≤ 60000) :
    RouterConfig.parse .std (crowdDocWith (nameless n)) = .ok (crowdConfigWith (nameless n)) := by
  refine parse_crowd room ?_ ?_ ?_
  · exact nofun
  · simp
  · simp

theorem postcardLen_nameless {n : Nat} : postcardLen (nameless n) = 1 + varintLen n + 12 * n := by
  have each : (nameless n).map StaticLease.postcardLen = List.replicate n 12 := by
    simp [nameless, crowd, StaticLease.postcardLen, hostnameLen, Function.comp_def, List.map_const']
  have length : (nameless n).length = n := by simp [nameless, crowd]
  rw [postcardLen, each, length, List.sum_replicate_nat, Nat.mul_comm]

/-- Two reservations fit, so they are in force before the first client is served. -/
theorem reservations_first_for_two :
    RouterConfig.parse .std (crowdDocWith (nameless 2)) = .ok (crowdConfigWith (nameless 2)) ∧
      ∀ (labels : List LaunchLabel) (s t : Launch 16 16) (l : LaunchLabel) (cmd : LeaseCommand),
        Run.exec (Launch.step postcardLen (.ofLanIp crowdConfig.lanIp))
          (Launch.init (nameless 2)) labels = some s →
        s.step postcardLen (.ofLanIp crowdConfig.lanIp) l = some t → s.issues l = some cmd →
          s.pair.worker.table.HoldsExactly (nameless 2) := by
  have accepted := parse_nameless (n := 2) (by decide)
  have fits : postcardLen (nameless 2) ≤ maxIpcMsgLen := by
    rw [postcardLen_nameless]
    decide
  exact ⟨accepted,
    (reservations_first_iff accepted crowdConfig.lanIp (by decide) 15 16 rfl).mpr fits⟩

/-- Six thousand reservations are accepted, but the worker never receives them, and the first
client is served from a table without them. -/
theorem crowd_served_unreserved :
    RouterConfig.parse .std (crowdDocWith (nameless 6000)) = .ok (crowdConfigWith (nameless 6000)) ∧
      ∃ (labels : List LaunchLabel) (s t : Launch 16 16) (l : LaunchLabel) (cmd : LeaseCommand),
        Run.exec (Launch.step postcardLen (.ofLanIp crowdConfig.lanIp))
          (Launch.init (nameless 6000)) labels = some s ∧
        s.step postcardLen (.ofLanIp crowdConfig.lanIp) l = some t ∧ s.issues l = some cmd ∧
          ¬s.pair.worker.table.HoldsExactly (nameless 6000) := by
  refine ⟨parse_nameless (by decide), unreservedRun, ?_⟩
  have long : maxIpcMsgLen < postcardLen (nameless 6000) := by
    rw [postcardLen_nameless]
    decide
  obtain ⟨s, run, issued, enabled, unreserved⟩ :=
    @exec_unreservedRun 15 16 (.ofLanIp crowdConfig.lanIp) postcardLen (nameless 6000) long
  obtain ⟨t, taken⟩ := Option.isSome_iff_exists.mp enabled
  refine ⟨s, t, _, _, run, taken, issued, ?_⟩
  rw [unreserved]
  intro holds
  have none := congrArg List.length (eq_nil_of_holdsExactly holds)
  simp [nameless, crowd] at none

end TrimRouter.DhcpServer
