import TrimRouter.DhcpServer.Worker

/-!
# Parent and worker of the DHCP server

`run_parent_dhcp_server_monitor` of `services/dhcp_server/manager.rs` and the worker, joined by the
two directions of their socket pair, which are bounded queues of any capacities.  Each side runs one
branch of its `select!` at a time, and a send inside a branch waits until the queue has room.
`never_both_blocked` says when the two never wait for each other, and `deadlock_reachable` that
otherwise they can, whatever the capacities.
-/

namespace TrimRouter.DhcpServer

/-- `DhcpServerParentToWorkerMsg`, a frame as what it decodes to. -/
inductive ParentMsg where
  | rawPacket (ethSrc : MacAddr) (dhcp : Option Message)
  | addNeighbor (mac : MacAddr) (ip : Ipv4Addr)
  | setStaticLeases (staticLeases : List StaticLease)
deriving DecidableEq

/-- What the worker's main loop does on a message. -/
def ParentMsg.label : ParentMsg → Label
  | .rawPacket ethSrc dhcp => .packet ethSrc dhcp
  | .addNeighbor mac ip => .neighbor mac ip
  | .setStaticLeases staticLeases => .staticLeases staticLeases

/-- The await at which the parent's loop is suspended. -/
inductive ParentPc where
  /-- in `select!` -/
  | select
  /-- sending to the worker -/
  | forward (msg : ParentMsg)
  /-- in `handle_worker_ipc_msg` -/
  | handle (msg : WorkerMsg)
  /-- the loop has ended -/
  | stopped
deriving DecidableEq

/-- Both processes and the queues between them. -/
structure Pair (down up : Nat) where
  worker : State
  parent : ParentPc
  toWorker : Fifo ParentMsg down
  toParent : Fifo WorkerMsg up

/-- One step of one of the two. -/
inductive PairLabel where
  /-- the worker takes a step of its own; a send to the parent is one -/
  | worker (l : Label)
  /-- the worker's main loop receives a message -/
  | workerRecv
  /-- the parent receives a frame from the raw socket -/
  | frame (ethSrc : MacAddr) (dhcp : Option Message)
  /-- the parent receives a neighbour report that passes `parse_neighbor_update` -/
  | neighbor (mac : MacAddr) (ip : Ipv4Addr)
  /-- the parent goes on from its send -/
  | parentSend
  /-- the parent receives a message -/
  | parentRecv
  /-- and is done with it -/
  | handled
  /-- the parent's loop sees the shutdown signal -/
  | shutdown

namespace Pair

variable {down up : Nat}

/-- After `sync_initial_static_leases`. -/
def init (staticLeases : List StaticLease) : Pair down up :=
  ⟨State.init staticLeases, .select, .empty, .empty⟩

/-- The steps that the worker takes on a message, and not on its own. -/
def takesMessage : Label → Bool
  | .packet _ _ => true
  | .neighbor _ _ => true
  | .staticLeases _ => true
  | _ => false

/-- A step of the worker of its own.  What it emits goes into the queue to the parent. -/
def workerStep (cfg : ServerConfig) (p : Pair down up) (l : Label) : Option (Pair down up) :=
  if takesMessage l then none
  else match emitted p.worker l with
    | some event =>
      (p.toParent.push event.msg).bind fun toParent =>
        (step cfg p.worker l).map fun worker => { p with worker, toParent }
    | none => (step cfg p.worker l).map fun worker => { p with worker }

/-- A branch of the parent's `select!`. -/
def onSelect (p : Pair down up) (parent : ParentPc) : Option (Pair down up) :=
  if p.parent = .select then some { p with parent } else none

/-- One step of one of the two. -/
def step (cfg : ServerConfig) (p : Pair down up) : PairLabel → Option (Pair down up)
  | .worker l => p.workerStep cfg l
  | .workerRecv =>
    p.toWorker.pop.bind fun (msg, toWorker) =>
      (DhcpServer.step cfg p.worker msg.label).map fun worker => { p with worker, toWorker }
  | .frame ethSrc dhcp => p.onSelect (.forward (.rawPacket ethSrc dhcp))
  | .neighbor mac ip => p.onSelect (.forward (.addNeighbor mac ip))
  | .parentSend =>
    match p.parent with
    | .forward msg =>
      (p.toWorker.push msg).map fun toWorker => { p with toWorker, parent := .select }
    | _ => none
  | .parentRecv =>
    p.toParent.pop.bind fun (msg, toParent) => { p with toParent }.onSelect (.handle msg)
  | .handled =>
    match p.parent with
    | .handle _ => some { p with parent := .select }
    | _ => none
  | .shutdown => p.onSelect .stopped

/-- The parent waits in `ipc.send` for room. -/
def parentBlocked (p : Pair down up) : Bool :=
  match p.parent with
  | .forward _ => decide p.toWorker.Full
  | _ => false

/-- The worker's main loop waits in `ipc.send` for room. -/
def workerBlocked (p : Pair down up) : Bool :=
  (emitted p.worker .main).isSome && decide p.toParent.Full

/-- The parent takes a frame or a neighbour report only while the queue to the worker has
room. -/
def Unhurried (p : Pair down up) : PairLabel → Prop
  | .frame _ _ => ¬p.toWorker.Full
  | .neighbor _ _ => ¬p.toWorker.Full
  | _ => True

instance (p : Pair down up) : ∀ l, Decidable (p.Unhurried l) := by
  intro l
  unfold Unhurried
  split <;> infer_instance

variable {cfg : ServerConfig} {p q : Pair down up} {l : PairLabel}

/-- The parent does not wait in a send. -/
def Flowing (p : Pair down up) : Prop := ∀ msg, p.parent = .forward msg → ¬p.toWorker.Full

theorem Flowing.not_blocked (flowing : p.Flowing) : p.parentBlocked = false := by
  unfold parentBlocked
  split
  · rename_i msg forwarding
    exact decide_eq_false (flowing msg forwarding)
  · rfl

/-- A parent that is not in a send does not wait in one. -/
theorem Flowing.of_parent {pc : ParentPc} (at_pc : p.parent = pc)
    (idle : ∀ msg, pc ≠ .forward msg) : p.Flowing := by
  intro msg forwarding
  exact absurd (at_pc.symm.trans forwarding) (idle msg)

theorem onSelect_eq_some {parent : ParentPc} (h : p.onSelect parent = some q) :
    p.parent = .select ∧ q = { p with parent } := by
  unfold onSelect at h
  split at h
  · rename_i idle
    exact ⟨idle, (Option.some.inj h).symm⟩
  · cases h

/-- What the parent's loop sends on to the worker. -/
def Forwarded : PairLabel → ParentMsg → Prop
  | .frame ethSrc dhcp, msg => msg = .rawPacket ethSrc dhcp
  | .neighbor mac ip, msg => msg = .addNeighbor mac ip
  | _, _ => False

/-- The steps of the two, by what they do to the worker and to the queue to it. -/
inductive Moves (cfg : ServerConfig) (p : Pair down up) : PairLabel → Pair down up → Prop where
  /-- the worker takes a step of its own -/
  | own {l : Label} {worker : State} {toParent : Fifo WorkerMsg up}
      (alone : takesMessage l = false) (taken : DhcpServer.step cfg p.worker l = some worker) :
      Moves cfg p (.worker l) { p with worker, toParent }
  | recv {msg : ParentMsg} {worker : State} {toWorker : Fifo ParentMsg down}
      (popped : p.toWorker.items = msg :: toWorker.items)
      (taken : DhcpServer.step cfg p.worker msg.label = some worker) :
      Moves cfg p .workerRecv { p with worker, toWorker }
  | take {l : PairLabel} {msg : ParentMsg} (idle : p.parent = .select)
      (forwarded : Forwarded l msg) : Moves cfg p l { p with parent := .forward msg }
  | send {msg : ParentMsg} {toWorker : Fifo ParentMsg down} (sending : p.parent = .forward msg)
      (pushed : toWorker.items = p.toWorker.items ++ [msg]) :
      Moves cfg p .parentSend { p with toWorker, parent := .select }
  /-- the parent handles a message of the worker, or stops -/
  | other {l : PairLabel} {parent : ParentPc} {toParent : Fifo WorkerMsg up}
      (settled : ∀ msg, p.parent ≠ .forward msg) (elsewhere : ∀ msg, parent ≠ .forward msg) :
      Moves cfg p l { p with parent, toParent }

theorem Moves.of_workerStep {l : Label} (h : p.workerStep cfg l = some q) :
    Moves cfg p (.worker l) q := by
  unfold workerStep at h
  split at h
  · cases h
  · rename_i alone
    have alone := Bool.eq_false_iff.mpr alone
    split at h
    · obtain ⟨toParent, -, h⟩ := Option.bind_eq_some_iff.mp h
      obtain ⟨worker, taken, rfl⟩ := Option.map_eq_some_iff.mp h
      exact .own alone taken
    · obtain ⟨worker, taken, rfl⟩ := Option.map_eq_some_iff.mp h
      exact .own alone taken

theorem Moves.of_step (h : p.step cfg l = some q) : Moves cfg p l q := by
  cases l with
  | worker l => exact .of_workerStep h
  | workerRecv =>
    obtain ⟨⟨msg, toWorker⟩, popped, h⟩ := Option.bind_eq_some_iff.mp h
    obtain ⟨worker, taken, rfl⟩ := Option.map_eq_some_iff.mp h
    exact .recv (Fifo.pop_eq_some.mp popped) taken
  | frame | neighbor =>
    obtain ⟨idle, rfl⟩ := onSelect_eq_some h
    exact .take idle rfl
  | parentSend =>
    simp only [step] at h
    split at h
    · rename_i sending
      obtain ⟨toWorker, pushed, rfl⟩ := Option.map_eq_some_iff.mp h
      exact .send sending (Fifo.push_eq_some.mp pushed).2
    · cases h
  | parentRecv =>
    obtain ⟨⟨msg, toParent⟩, -, h⟩ := Option.bind_eq_some_iff.mp h
    obtain ⟨idle, rfl⟩ := onSelect_eq_some h
    change p.parent = .select at idle
    exact .other (by simp [idle]) (by simp)
  | handled =>
    simp only [step] at h
    split at h
    · rename_i handling
      cases h
      exact .other (by simp [handling]) (by simp)
    · cases h
  | shutdown =>
    obtain ⟨idle, rfl⟩ := onSelect_eq_some h
    exact .other (by simp [idle]) (by simp)

/-- A frame or a neighbour report is taken while the queue to the worker has room. -/
theorem Unhurried.of_forwarded {msg : ParentMsg} (unhurried : p.Unhurried l)
    (forwarded : Forwarded l msg) : ¬p.toWorker.Full := by
  cases l with
  | frame | neighbor => exact unhurried
  | _ => cases forwarded

theorem Flowing.keep :
    Run.Inductive (step cfg) Unhurried (Flowing : Pair down up → Prop) := by
  intro p l q flowing unhurried h
  cases Moves.of_step h with
  | own alone taken => exact flowing
  | @recv msg worker toWorker popped taken =>
    have bounded := p.toWorker.bounded
    intro msg' _ full
    change toWorker.items.length = down at full
    rw [popped, List.length_cons] at bounded
    omega
  | take idle forwarded => exact fun _ _ => unhurried.of_forwarded forwarded
  | send sending pushed => exact .of_parent rfl (by simp)
  | other settled elsewhere => exact .of_parent rfl elsewhere

end Pair

open Pair

/-- If the parent takes frames and neighbour reports only while the queue to the worker has
room, parent and worker never wait for each other. -/
theorem never_both_blocked {down up : Nat} {cfg : ServerConfig} {staticLeases : List StaticLease}
    {labels : List PairLabel} {p : Pair down up}
    (unhurried : Run.Meets (Pair.step cfg) Unhurried (init staticLeases : Pair down up) labels)
    (run : Run.exec (Pair.step cfg) (init staticLeases) labels = some p) :
    ¬(p.parentBlocked = true ∧ p.workerBlocked = true) := by
  have idle : ∀ msg, ParentPc.select ≠ .forward msg := by simp
  have start : (init staticLeases : Pair down up).Flowing := .of_parent rfl idle
  have flowing := Flowing.keep.exec start unhurried run
  intro blocked
  rw [flowing.not_blocked] at blocked
  cases blocked.1

/-! ### The deadlock -/

variable {down up : Nat} {cfg : ServerConfig} {parent : ParentPc} {toWorker : Fifo ParentMsg down}
  {toParent : Fifo WorkerMsg up}

/-- The first half of the heartbeat of an idle worker, up to the send. -/
def beginBeat : List PairLabel :=
  [.worker .heartbeatTick, .worker .main, .worker (.actor ⟨[], []⟩)]

/-- One heartbeat of an idle worker. -/
def beat : List PairLabel :=
  beginBeat ++ [PairLabel.worker .main, .worker .main, .worker (.actor ⟨[], []⟩), .worker .main]

theorem exec_beginBeat :
    Run.exec (Pair.step cfg) ⟨State.init [], parent, toWorker, toParent⟩ beginBeat =
      some ⟨{ State.init [] with main := .sendHeartbeat [] }, parent, toWorker, toParent⟩ := rfl

theorem exec_beat {toParent' : Fifo WorkerMsg up}
    (room : toParent.push (.heartbeat []) = some toParent') :
    Run.exec (Pair.step cfg) ⟨State.init [], parent, toWorker, toParent⟩ beat =
      some ⟨State.init [], parent, toWorker, toParent'⟩ := by
  have sent : Run.exec (Pair.step cfg) ⟨State.init [], parent, toWorker, toParent⟩ beat =
      (toParent.push (.heartbeat [])).bind fun q =>
        some ⟨State.init [], parent, toWorker, q⟩ := by
    unfold beat
    rw [Run.exec_append, exec_beginBeat]
    simp only [Option.bind_some, Run.exec_cons, Pair.step, workerStep, takesMessage, emitted,
      Bool.false_eq_true, if_false]
    cases toParent.push (.heartbeat []) <;> rfl
  rw [sent, room]
  rfl

/-- Rounds that each push a message fill a queue. -/
theorem exec_fill {α : Type} {size : Nat} {msg : α} {round : List PairLabel}
    (cfg : ServerConfig) (at_ : Fifo α size → Pair down up)
    (turn : ∀ queue next, queue.push msg = some next →
      Run.exec (Pair.step cfg) (at_ queue) round = some (at_ next))
    (queue : Fifo α size) (n : Nat) (room : queue.items.length + n ≤ size) :
    ∃ full : Fifo α size, full.items.length = queue.items.length + n ∧
      Run.exec (Pair.step cfg) (at_ queue) (List.replicate n round).flatten = some (at_ full) := by
  induction n generalizing queue with
  | zero => exact ⟨queue, rfl, rfl⟩
  | succ n ih =>
    cases pushed : queue.push msg with
    | none =>
      have full := Fifo.push_eq_none.mp pushed
      unfold Fifo.Full at full
      omega
    | some next =>
      have length : next.items.length = queue.items.length + 1 := by
        rw [(Fifo.push_eq_some.mp pushed).2, List.length_append]
        rfl
      obtain ⟨full, filled, run⟩ := ih next (by omega)
      refine ⟨full, by omega, ?_⟩
      rw [List.replicate_succ, List.flatten_cons, Run.exec_append, turn queue next pushed]
      exact run

theorem exec_frame {worker : State} {next : Fifo ParentMsg down}
    (room : toWorker.push (.rawPacket 0 none) = some next) :
    Run.exec (Pair.step cfg) ⟨worker, .select, toWorker, toParent⟩
      [.frame 0 none, .parentSend] = some ⟨worker, .select, next, toParent⟩ := by
  have both : Run.exec (Pair.step cfg) ⟨worker, .select, toWorker, toParent⟩
      [.frame 0 none, .parentSend] =
      ((toWorker.push (.rawPacket 0 none)).map fun q =>
        ⟨worker, .select, q, toParent⟩).bind some := rfl
  rw [both, room]
  rfl

/-- Whatever the capacities: the worker's heartbeats fill one queue and frames the other, and
then both sides start one more send. -/
theorem deadlock_reachable (cfg : ServerConfig) (down up : Nat) :
    ∃ (labels : List PairLabel) (p : Pair down up),
      Run.exec (Pair.step cfg) (init []) labels = some p ∧
        p.parentBlocked = true ∧ p.workerBlocked = true := by
  obtain ⟨toParent, upFull, heartbeats⟩ := exec_fill cfg
    (fun q => (⟨State.init [], .select, .empty, q⟩ : Pair down up)) (fun _ _ => exec_beat)
    .empty up (by simp)
  obtain ⟨toWorker, downFull, frames⟩ := exec_fill cfg
    (fun q => (⟨{ State.init [] with main := .sendHeartbeat [] }, .select, q, toParent⟩ :
      Pair down up)) (fun _ _ => exec_frame) .empty down (by simp)
  refine ⟨(List.replicate up beat).flatten ++ beginBeat ++
    (List.replicate down [.frame 0 none, .parentSend]).flatten ++ [.frame 0 none],
    ⟨{ State.init [] with main := .sendHeartbeat [] }, .forward (.rawPacket 0 none), toWorker,
      toParent⟩, ?_, ?_, ?_⟩
  · have start : (init [] : Pair down up) = ⟨State.init [], .select, .empty, .empty⟩ := rfl
    rw [Run.exec_append, Run.exec_append, Run.exec_append, start, heartbeats, Option.bind_some,
      exec_beginBeat, Option.bind_some, frames]
    rfl
  · have full : toWorker.Full := by simpa [Fifo.Full] using downFull
    exact decide_eq_true full
  · have full : toParent.Full := by simpa [Fifo.Full] using upFull
    exact decide_eq_true full

/-- The LAN of the runs below. -/
def sampleServer : ServerConfig := .ofLanIp (.slash24 (.new 192 168 1 1))

/-- The parent waits to send a frame to the worker, and the worker waits to send its heartbeat
to the parent. -/
theorem deadlock_at_capacity_one :
    ∃ (labels : List PairLabel) (p : Pair 1 1),
      Run.exec (Pair.step sampleServer) (init []) labels = some p ∧
        p.parentBlocked = true ∧ p.workerBlocked = true :=
  deadlock_reachable sampleServer 1 1

/-- The worker waits in its second heartbeat, and the parent has taken a frame while there was
room. -/
theorem never_both_blocked_after_frames :
    ∃ p : Pair 1 1, Run.exec (Pair.step sampleServer) (init []) (beat ++ beginBeat ++
        [.frame 0 none, .parentSend]) = some p ∧ p.workerBlocked = true ∧
      ¬(p.parentBlocked = true ∧ p.workerBlocked = true) := by
  have unhurried : Run.Meets (Pair.step sampleServer) Unhurried (init [] : Pair 1 1)
      (beat ++ beginBeat ++ [.frame 0 none, .parentSend]) := by
    decide +kernel
  obtain ⟨p, run, waits⟩ : ∃ p, Run.exec (Pair.step sampleServer) (init [] : Pair 1 1)
      (beat ++ beginBeat ++ [.frame 0 none, .parentSend]) = some p ∧ p.workerBlocked = true := by
    decide +kernel
  exact ⟨p, run, waits, never_both_blocked unhurried run⟩

end TrimRouter.DhcpServer
