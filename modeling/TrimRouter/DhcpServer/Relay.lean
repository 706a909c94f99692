import TrimRouter.Dns.Replication
import TrimRouter.DhcpServer.Ipc
import TrimRouter.DhcpServer.WireFormat

/-!
# The parent of the DHCP server between its worker and the rest

`run_parent_dhcp_server_monitor` and `handle_worker_ipc_msg` of `services/dhcp_server/manager.rs`,
joined with the DNS forwarder by the channel of local-host events.  The worker is not part of the
model: it may send anything.  Its messages lead to frames on the LAN and to events for the DNS
forwarder, and an event is sent with a `send` that waits for room in the channel.
`worker_contained` and `local_dns_unpoisoned` bound what the worker can do, `serving_enabled` and
`serving_blocked` are about the waits.
-/

namespace TrimRouter.DhcpServer

open Lan Dns

/-- The event that a message is passed on as. -/
def WorkerMsg.localHostEvent : WorkerMsg → Option LocalHostEvent
  | .registerLocalHost name ip => some (.register name ip)
  | .deregisterLocalHost name => some (.deregister name)
  | .sendOffer _ _ _ _ => none
  | .sendAck _ _ _ _ => none
  | .sendNak _ _ => none
  | .probeArpConflict _ => none
  | .heartbeat _ => none

/-- Who put an event into the channel. -/
inductive Origin where
  /-- the parent, for its worker -/
  | worker
  /-- `init` or the LAN manager -/
  | other
deriving DecidableEq

/-- The parent and the DNS forwarder.  `frames` and `pushed` are the histories of what the
parent has transmitted and of what was put into the channel, which the code never reads. -/
structure Relay (cap : Nat) where
  parent : ParentPc
  forwarder : Forwarder cap
  frames : List (List (BitVec 8))
  pushed : List (Origin × LocalHostEvent)

/-- One step. -/
inductive RelayLabel where
  /-- the parent receives a frame from the raw socket -/
  | frame (ethSrc : MacAddr) (dhcp : Option Message)
  /-- the parent receives a neighbour report that passes `parse_neighbor_update` -/
  | neighbor (mac : MacAddr) (ip : Ipv4Addr)
  /-- the parent is done with a send to the worker -/
  | forwarded
  /-- the parent receives a message of the worker -/
  | recv (msg : WorkerMsg)
  /-- the parent goes on in `handle_worker_ipc_msg` -/
  | handled
  /-- the parent's loop ends: shutdown, or the worker is gone, which a send to it also finds -/
  | leave
  /-- a step of the DNS forwarder, or another event for it -/
  | dns (l : ForwarderLabel)

/-- The steps of the parent. -/
def RelayLabel.ofParent : RelayLabel → Bool
  | .dns _ => false
  | _ => true

namespace Relay

variable {cap : Nat}

/-- The parent enters its loop, with the given events in the channel. -/
def init (queued : Fifo LocalHostEvent 64) : Relay cap :=
  ⟨.select, .init queued, [], queued.items.map (.other, ·)⟩

/-- A branch of the parent's `select!`. -/
def onSelect (s : Relay cap) (parent : ParentPc) : Option (Relay cap) :=
  if s.parent = .select then some { s with parent } else none

variable (lib : Hickory) (customDns : List Ipv4Addr) (codec : Dhcproto)
  (config : ServerNetworkConfig)

/-- `handle_worker_ipc_msg`: an event waits for room in the channel. -/
def handle (s : Relay cap) (msg : WorkerMsg) : Option (Relay cap) :=
  match msg.localHostEvent with
  | some event =>
    (s.forwarder.step lib customDns (.localHost event)).map fun forwarder =>
      { s with forwarder, pushed := s.pushed ++ [(.worker, event)], parent := .select }
  | none =>
    some { s with
      frames := s.frames ++ (transmitted codec config msg).toList, parent := .select }

/-- One step of the parent or of the DNS forwarder. -/
def step (s : Relay cap) : RelayLabel → Option (Relay cap)
  | .frame ethSrc dhcp => s.onSelect (.forward (.rawPacket ethSrc dhcp))
  | .neighbor mac ip => s.onSelect (.forward (.addNeighbor mac ip))
  | .forwarded =>
    match s.parent with
    | .forward _ => some { s with parent := .select }
    | _ => none
  | .recv msg => s.onSelect (.handle msg)
  | .handled =>
    match s.parent with
    | .handle msg => s.handle lib customDns codec config msg
    | _ => none
  | .leave =>
    match s.parent with
    | .select => some { s with parent := .stopped }
    | .forward _ => some { s with parent := .stopped }
    | .handle _ => none
    | .stopped => none
  | .dns l =>
    (s.forwarder.step lib customDns l).map fun forwarder =>
      { s with forwarder, pushed := s.pushed ++ l.puts.map (.other, ·) }

end Relay

/-- The steps, by what they do to the histories. -/
inductive Relay.Moves {cap : Nat} (lib : Hickory) (customDns : List Ipv4Addr) (codec : Dhcproto)
    (config : ServerNetworkConfig) (s : Relay cap) : RelayLabel → Relay cap → Prop where
  /-- the parent moves within its loop -/
  | parent {l : RelayLabel} {parent : ParentPc} (idle : ∀ msg, parent ≠ .handle msg) :
      Moves lib customDns codec config s l { s with parent }
  | recv {msg : WorkerMsg} : Moves lib customDns codec config s (.recv msg)
      { s with parent := .handle msg }
  | announce {msg : WorkerMsg} {event : LocalHostEvent} {forwarder : Forwarder cap}
      (handling : s.parent = .handle msg) (announced : msg.localHostEvent = some event)
      (queued : s.forwarder.step lib customDns (.localHost event) = some forwarder) :
      Moves lib customDns codec config s .handled
        { s with forwarder, pushed := s.pushed ++ [(.worker, event)], parent := .select }
  | transmit {msg : WorkerMsg} (handling : s.parent = .handle msg) :
      Moves lib customDns codec config s .handled
        { s with
          frames := s.frames ++ (transmitted codec config msg).toList, parent := .select }
  | dns {l : ForwarderLabel} {forwarder : Forwarder cap}
      (taken : s.forwarder.step lib customDns l = some forwarder) :
      Moves lib customDns codec config s (.dns l)
        { s with forwarder, pushed := s.pushed ++ l.puts.map (.other, ·) }

variable {cap : Nat} {lib : Hickory} {customDns : List Ipv4Addr} {codec : Dhcproto}
  {config : ServerNetworkConfig} {serverMac : MacAddr} {lanNet : Ipv4Net}
  {queued : Fifo LocalHostEvent 64} {labels : List RelayLabel} {s t : Relay cap} {l : RelayLabel}

theorem Relay.onSelect_eq_some {parent : ParentPc} (h : s.onSelect parent = some t) :
    s.parent = .select ∧ t = { s with parent } := by
  obtain ⟨idle, h⟩ := Option.ite_none_right_eq_some.mp h
  exact ⟨idle, (Option.some.inj h).symm⟩

theorem Relay.Moves.of_step (h : s.step lib customDns codec config l = some t) :
    Moves lib customDns codec config s l t := by
  cases l with
  | frame | neighbor =>
    obtain ⟨-, rfl⟩ := onSelect_eq_some h
    exact .parent (by simp)
  | forwarded =>
    simp only [step] at h
    split at h
    · cases h
      exact .parent (by simp)
    · cases h
  | recv msg =>
    obtain ⟨-, rfl⟩ := onSelect_eq_some h
    exact .recv
  | handled =>
    simp only [step] at h
    split at h
    · rename_i msg handling
      unfold handle at h
      split at h
      · rename_i event announced
        obtain ⟨forwarder, queued, rfl⟩ := Option.map_eq_some_iff.mp h
        exact .announce handling announced queued
      · cases h
        exact .transmit handling
    · cases h
  | leave =>
    simp only [step] at h
    split at h
    · cases h
      exact .parent (by simp)
    · cases h
      exact .parent (by simp)
    · cases h
    · cases h
  | dns l =>
    obtain ⟨forwarder, taken, rfl⟩ := Option.map_eq_some_iff.mp h
    exact .dns taken

/-! ## On the wire -/

/-- Whatever its worker sends, every frame that the parent has transmitted is a lease reply, a
refusal or a probe of its own. -/
theorem worker_contained (documented : codec.Documented)
    (run : Run.exec (Relay.step lib customDns codec (.ofLanNet serverMac lanNet))
      (Relay.init queued) labels = some s) :
    ∀ frame ∈ s.frames, Contained codec (.ofLanNet serverMac lanNet) frame := by
  refine Run.exec_keeps (fun s : Relay cap =>
    ∀ frame ∈ s.frames, Contained codec (.ofLanNet serverMac lanNet) frame) ?_ ?_ run
  · intro s l t contained h
    cases Relay.Moves.of_step h with
    | transmit handling =>
      exact List.forall_mem_append.mpr ⟨contained, fun _ now =>
        contained_of_transmitted documented (Option.mem_toList.mp now)⟩
    | parent | recv | announce | dns => exact contained
  · exact nofun

/-- A router at 192.168.1.1. -/
def relayLan : Ipv4Net := .slash24 (.new 192 168 1 1)

/-- Its steps, with concrete libraries. -/
abbrev relayStep : Relay 4 → RelayLabel → Option (Relay 4) :=
  Relay.step Uncompressed.library [] WireFormat.codec (.ofLanNet 2 relayLan)

/-- Offers inside and outside the LAN, a refusal and a probe. -/
def hostileRun : List RelayLabel :=
  [.recv (.sendOffer 1 7 (.new 192 168 1 7) false), .handled,
    .recv (.sendOffer 1 7 (.new 8 8 8 8) false), .handled,
    .recv (.sendAck 1 7 (.new 192 168 1 1) true), .handled,
    .recv (.sendNak 1 7), .handled,
    .recv (.probeArpConflict (.new 192 168 1 9)), .handled]

/-- Three of the five messages lead to a frame. -/
theorem worker_contained_hostile :
    ∃ s : Relay 4, Run.exec relayStep (Relay.init .empty) hostileRun = some s ∧
      s.frames.length = 3 ∧ ∀ frame ∈ s.frames,
        Contained WireFormat.codec (.ofLanNet 2 relayLan) frame := by
  obtain ⟨s, run, three⟩ : ∃ s, Run.exec relayStep (Relay.init .empty) hostileRun = some s ∧
      s.frames.length = 3 := by
    decide +kernel
  exact ⟨s, run, three, worker_contained WireFormat.documented run⟩

/-! ## Into the local names -/

/-- The events of the worker that the parent should pass on: names in their sanitized form,
addresses of the LAN, and nothing about the router. -/
def Good (lanNet : Ipv4Net) : LocalHostEvent → Prop
  | .register name ip =>
    sanitizeHostname name = some name ∧ lanNet.contains ip = true ∧ name ≠ routerHostname
  | .deregister name => name ≠ routerHostname

instance (lanNet : Ipv4Net) : DecidablePred (Good lanNet) := by
  intro x
  unfold Good
  split <;> infer_instance

theorem Good.name_ne {event : LocalHostEvent} (good : Good lanNet event) :
    routerHostname ≠ event.name := by
  cases event with
  | register name ip => exact good.2.2.symm
  | deregister name => exact good.symm

/-- The worker sends only such events. -/
def Polite {cap : Nat} (lanNet : Ipv4Net) (_ : Relay cap) : RelayLabel → Prop
  | .recv msg => ∀ event ∈ msg.localHostEvent, Good lanNet event
  | _ => True

instance : Decidable (Polite lanNet s l) := by
  unfold Polite
  split <;> infer_instance

/-- The events of `init` and of the LAN manager among those that the forwarder has
processed. -/
def Relay.others {cap : Nat} (s : Relay cap) : List LocalHostEvent :=
  ((s.pushed.take s.forwarder.processed.length).filter (·.1 == .other)).map Prod.snd

/-- Events about other names can be left out. -/
theorem lookup_foldl_others {events : List (Origin × LocalHostEvent)} {hosts hosts' : Hosts}
    {name : String} (same : hosts.lookup name = hosts'.lookup name)
    (apart : ∀ event, (.worker, event) ∈ events → name ≠ event.name) :
    ((events.map Prod.snd).foldl Hosts.handle hosts).lookup name =
      (((events.filter (·.1 == .other)).map Prod.snd).foldl Hosts.handle hosts').lookup name := by
  induction events generalizing hosts hosts' with
  | nil => exact same
  | cons e events ih =>
    obtain ⟨origin, event⟩ := e
    have later : ∀ event, (.worker, event) ∈ events → name ≠ event.name :=
      fun event listed => apart event (List.mem_cons_of_mem _ listed)
    cases origin with
    | worker =>
      have other := apart event List.mem_cons_self
      refine ih ?_ later
      rw [lookup_handle, if_neg other]
      exact same
    | other =>
      refine ih ?_ later
      rw [lookup_handle, lookup_handle, same]

/-- The state of the relay under a worker whose events are good. -/
structure Unpoisoned {cap : Nat} (customDns : List Ipv4Addr) (lanNet : Ipv4Net) (s : Relay cap) :
    Prop where
  synced : s.forwarder.Synced customDns
  history : s.pushed.map Prod.snd = s.forwarder.processed ++ s.forwarder.localHosts.items
  pushed : ∀ event, (.worker, event) ∈ s.pushed → Good lanNet event
  handling : ∀ msg, s.parent = .handle msg → ∀ event ∈ msg.localHostEvent, Good lanNet event

theorem Unpoisoned.init :
    Unpoisoned customDns lanNet (Relay.init queued : Relay cap) where
  synced := .init
  history := by
    simp [Relay.init, Forwarder.init, Function.comp_def]
  pushed := by
    simp [Relay.init]
  handling := by
    simp [Relay.init]

theorem Unpoisoned.keep :
    Run.Inductive (Relay.step lib customDns codec config) (Polite lanNet)
      (Unpoisoned customDns lanNet : Relay cap → Prop) := by
  intro s l t ⟨synced, history, pushed, handling⟩ polite h
  cases Relay.Moves.of_step h with
  | parent idle => exact ⟨synced, history, pushed, fun msg now => absurd now (idle msg)⟩
  | recv =>
    refine ⟨synced, history, pushed, ?_⟩
    intro msg now
    cases now
    exact polite
  | @announce msg event forwarder at_msg announced queued =>
    refine ⟨Forwarder.Synced.keep _ _ _ synced trivial queued, ?_, ?_, by simp⟩
    · rw [List.map_append, history, (Forwarder.Queued.of_step queued).history]
      rfl
    · intro event' listed
      rcases List.mem_append.mp listed with before | now
      · exact pushed event' before
      · cases List.mem_singleton.mp now
        exact handling msg at_msg event announced
  | transmit at_msg => exact ⟨synced, history, pushed, by simp⟩
  | @dns l forwarder taken =>
    refine ⟨Forwarder.Synced.keep _ _ _ synced trivial taken, ?_, ?_, handling⟩
    · rw [List.map_append, history, (Forwarder.Queued.of_step taken).history]
      simp [Function.comp_def]
    · intro event listed
      rcases List.mem_append.mp listed with before | now
      · exact pushed event before
      · simp at now

/-- The processed events are the first ones that were put into the channel. -/
theorem Unpoisoned.processed_eq (sound : Unpoisoned customDns lanNet s) :
    s.forwarder.processed = (s.pushed.take s.forwarder.processed.length).map Prod.snd := by
  rw [List.map_take, sound.history, List.take_left' rfl]

/-- In every run in which the worker sends only good events: every registration that the parent
passes on for it is one, and the DNS worker's address of the router is what the events of the
others make it. -/
theorem local_dns_unpoisoned
    (polite : Run.Meets (Relay.step lib customDns codec (.ofLanNet serverMac lanNet))
      (Polite lanNet) (Relay.init queued : Relay cap) labels)
    (run : Run.exec (Relay.step lib customDns codec (.ofLanNet serverMac lanNet))
      (Relay.init queued) labels = some s) :
    (∀ name ip, (.worker, .register name ip) ∈ s.pushed →
        sanitizeHostname name = some name ∧ lanNet.contains ip = true) ∧
      ∀ sys, s.forwarder.worker = some sys → s.forwarder.Settled →
        sys.worker.localTable.hosts.lookup routerHostname =
          (s.others.foldl Hosts.handle ∅).lookup routerHostname := by
  have sound := Unpoisoned.keep.exec .init polite run
  constructor
  · intro name ip listed
    obtain ⟨sanitized, inside, -⟩ := sound.pushed _ listed
    exact ⟨sanitized, inside⟩
  · intro sys running settled
    rw [sound.synced.lookup_hosts settled running, sound.processed_eq]
    refine lookup_foldl_others rfl ?_
    intro event listed
    exact (sound.pushed event (List.mem_of_mem_take listed)).name_ne

/-- The channel as `init` leaves it. -/
def routerQueued : Fifo LocalHostEvent 64 :=
  Fifo.empty.tryPush (.register routerHostname (.new 192 168 1 1))

/-- The DNS forwarder starts, the worker sends a message, and what is in the channel reaches the
DNS worker. -/
def relayRun (msg : WorkerMsg) : List RelayLabel :=
  [.dns .spawn, .dns .begin, .dns (.clone []), .dns .send, .recv msg, .handled, .dns .takeEvent,
    .dns .send, .dns .takeEvent, .dns .send, .dns (.workerRecv calm), .dns (.workerRecv calm)]

/-- A client of the LAN gets its name, and the router keeps its address. -/
theorem local_dns_unpoisoned_nas :
    Run.Meets relayStep (Polite relayLan) (Relay.init routerQueued)
      (relayRun (.registerLocalHost "nas" (.new 192 168 1 7))) ∧
    ∃ (s : Relay 4) (sys : System),
      Run.exec relayStep (Relay.init routerQueued)
        (relayRun (.registerLocalHost "nas" (.new 192 168 1 7))) = some s ∧
      s.forwarder.worker = some sys ∧ s.forwarder.Settled ∧
      s.pushed = [(.other, .register routerHostname (.new 192 168 1 1)),
        (.worker, .register "nas" (.new 192 168 1 7))] ∧
      sys.worker.localTable.hosts.lookup routerHostname =
        (s.others.foldl Hosts.handle ∅).lookup routerHostname := by
  have polite : Run.Meets relayStep (Polite relayLan) (Relay.init routerQueued)
      (relayRun (.registerLocalHost "nas" (.new 192 168 1 7))) := by
    decide +kernel
  obtain ⟨s, run, there, monitor, socket, pushed⟩ :
      ∃ s, Run.exec relayStep (Relay.init routerQueued)
        (relayRun (.registerLocalHost "nas" (.new 192 168 1 7))) = some s ∧
        s.forwarder.worker.isSome ∧ s.forwarder.monitor = .select ∧
        s.forwarder.toWorker.items = [] ∧
        s.pushed = [(.other, .register routerHostname (.new 192 168 1 1)),
          (.worker, .register "nas" (.new 192 168 1 7))] := by
    decide +kernel
  obtain ⟨sys, running⟩ := Option.isSome_iff_exists.mp there
  have settled : s.forwarder.Settled := ⟨.inl monitor, socket⟩
  obtain ⟨-, router⟩ := local_dns_unpoisoned polite run
  exact ⟨polite, s, sys, run, running, settled, pushed, router sys running settled⟩

/-- A worker that registers the router's own name at a foreign address: the parent passes the
event on, and the DNS worker answers with that address. -/
theorem router_poisoned :
    ∃ (s : Relay 4) (sys : System),
      Run.exec relayStep (Relay.init routerQueued)
        (relayRun (.registerLocalHost routerHostname (.new 6 6 6 6))) = some s ∧
      s.forwarder.worker = some sys ∧
      (.worker, .register routerHostname (.new 6 6 6 6)) ∈ s.pushed ∧
      relayLan.contains (.new 6 6 6 6) = false ∧
      sys.worker.localTable.hosts.lookup routerHostname = some (.new 6 6 6 6) := by
  obtain ⟨s, run, pushed, sys, running, poisoned⟩ :
      ∃ s, Run.exec relayStep (Relay.init routerQueued)
        (relayRun (.registerLocalHost routerHostname (.new 6 6 6 6))) = some s ∧
        (.worker, .register routerHostname (.new 6 6 6 6)) ∈ s.pushed ∧
        ∃ sys, s.forwarder.worker = some sys ∧
          sys.worker.localTable.hosts.lookup routerHostname = some (.new 6 6 6 6) := by
    decide +kernel
  exact ⟨s, sys, run, running, pushed, by decide, poisoned⟩

/-! ## Waiting on the channel -/

/-- The parent has an event to put into the channel. -/
def Relay.announcing {cap : Nat} (s : Relay cap) : Bool :=
  match s.parent with
  | .handle msg => msg.localHostEvent.isSome
  | .select => false
  | .forward _ => false
  | .stopped => false

/-- The parent has a step that it can take on its own. -/
def Relay.Enabled {cap : Nat} (lib : Hickory) (customDns : List Ipv4Addr) (codec : Dhcproto)
    (config : ServerNetworkConfig) (s : Relay cap) : Prop :=
  ∃ l : RelayLabel, l.ofParent = true ∧ (s.step lib customDns codec config l).isSome = true

/-- The parent receives an event only while there is room for it, and nobody else takes the last
slot before it has put it there. -/
def Roomy {cap : Nat} (s : Relay cap) : RelayLabel → Prop
  | .recv msg =>
    msg.localHostEvent.isSome = true → s.forwarder.localHosts.items.length < 64
  | .dns l =>
    s.announcing = true → s.forwarder.localHosts.items.length + l.puts.length < 64
  | _ => True

instance : Decidable (Roomy s l) := by
  unfold Roomy
  split <;> infer_instance

theorem Relay.isSome_handle {msg : WorkerMsg} :
    (s.handle lib customDns codec config msg).isSome = true ↔
      (msg.localHostEvent.isSome = true → s.forwarder.localHosts.items.length < 64) := by
  unfold handle
  split
  · rename_i event announced
    simp [announced, Forwarder.step, Fifo.isSome_push]
  · rename_i quiet
    simp [quiet]

/-- The parent is stuck just when it has an event and the channel is full. -/
theorem Relay.enabled_iff (running : s.parent ≠ .stopped) :
    s.Enabled lib customDns codec config ↔
      (s.announcing = true → s.forwarder.localHosts.items.length < 64) := by
  unfold Enabled announcing
  split
  · rename_i msg pc
    rw [← @isSome_handle _ lib customDns codec config]
    constructor
    · intro ⟨l, parents, enabled⟩
      cases l <;> simp_all [step, onSelect, RelayLabel.ofParent]
    · intro enabled
      refine ⟨.handled, rfl, ?_⟩
      simpa only [step, pc] using enabled
  · rename_i pc
    constructor
    · exact nofun
    · intro _
      exact ⟨.leave, rfl, by simp [step, pc]⟩
  · rename_i msg pc
    constructor
    · exact nofun
    · intro _
      exact ⟨.forwarded, rfl, by simp [step, pc]⟩
  · rename_i pc
    exact absurd pc running

theorem Relay.room_keep :
    Run.Inductive (Relay.step lib customDns codec config) Roomy fun s : Relay cap =>
      s.announcing = true → s.forwarder.localHosts.items.length < 64 := by
  intro s l t room roomy h
  cases Relay.Moves.of_step h with
  | @parent _ parent idle =>
    intro announcing
    unfold Relay.announcing at announcing
    cases parent with
    | handle msg => exact absurd rfl (idle msg)
    | select | forward | stopped => cases announcing
  | recv => exact roomy
  | announce | transmit => simp [Relay.announcing]
  | dns taken =>
    intro announcing
    exact Nat.lt_of_le_of_lt (Forwarder.Queued.of_step taken).length_le (roomy announcing)

/-- In every run in which the parent has room whenever it takes an event of its worker, it can
take a step of its own until it ends, whatever the DNS forwarder does. -/
theorem serving_enabled
    (roomy : Run.Meets (Relay.step lib customDns codec config) Roomy
      (Relay.init queued : Relay cap) labels)
    (run : Run.exec (Relay.step lib customDns codec config) (Relay.init queued) labels = some s)
    (running : s.parent ≠ .stopped) : s.Enabled lib customDns codec config := by
  refine (Relay.enabled_iff running).mpr (Relay.room_keep.exec ?_ roomy run)
  intro announcing
  cases announcing

/-- The worker registers `n` clients one after the other. -/
def registerRun (n : Nat) : List RelayLabel :=
  (List.replicate n [.recv (.registerLocalHost "pc" (.new 192 168 1 7)), .handled]).flatten

/-- With the DNS forwarder down there is room for 63 clients besides the router. -/
theorem serving_enabled_63 :
    Run.Meets relayStep Roomy (Relay.init routerQueued) (registerRun 63) ∧
    ∃ s : Relay 4, Run.exec relayStep (Relay.init routerQueued) (registerRun 63) = some s ∧
      s.parent ≠ .stopped ∧ s.forwarder.localHosts.items.length = 64 ∧
      s.Enabled Uncompressed.library [] WireFormat.codec (.ofLanNet 2 relayLan) := by
  have roomy : Run.Meets relayStep Roomy (Relay.init routerQueued) (registerRun 63) := by
    decide +kernel
  obtain ⟨s, run, running, full⟩ : ∃ s, Run.exec relayStep (Relay.init routerQueued)
      (registerRun 63) = some s ∧ s.parent ≠ .stopped ∧
      s.forwarder.localHosts.items.length = 64 := by
    decide +kernel
  exact ⟨roomy, s, run, running, full, serving_enabled roomy run running⟩

/-- One client more, and the parent waits for the DNS forwarder: it neither forwards a frame nor
sees the shutdown. -/
theorem serving_blocked :
    ∃ s : Relay 4, Run.exec relayStep (Relay.init routerQueued)
        (registerRun 63 ++ [.recv (.registerLocalHost "tv" (.new 192 168 1 8))]) = some s ∧
      s.parent ≠ .stopped ∧
      ¬s.Enabled Uncompressed.library [] WireFormat.codec (.ofLanNet 2 relayLan) := by
  obtain ⟨s, run, running, announcing, full⟩ : ∃ s, Run.exec relayStep (Relay.init routerQueued)
      (registerRun 63 ++ [.recv (.registerLocalHost "tv" (.new 192 168 1 8))]) = some s ∧
      s.parent ≠ .stopped ∧ s.announcing = true ∧
      s.forwarder.localHosts.items.length = 64 := by
    decide +kernel
  refine ⟨s, run, running, ?_⟩
  rw [Relay.enabled_iff running]
  intro room
  have := room announcing
  omega

end TrimRouter.DhcpServer
