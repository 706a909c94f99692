import TrimRouter.DhcpServer.Task
import TrimRouter.Lib.Fifo
import TrimRouter.Lib.Run

/-!
# The DHCP server worker

The worker process of `services/dhcp_server/worker.rs`: the main loop, the packet tasks it has
spawned and the lease actor, which talk over two bounded channels.  `step` is one step of one of
them; the label says which, and carries what comes from outside (a frame, a neighbour report, the
iteration order of a hash map).  A timer may fire whenever its loop waits for it, so the model has
every interleaving of the timers with the rest.  Invariants are proved by cases on `Step`.
-/

namespace TrimRouter.DhcpServer

/-- Who waits for the reply to a command. -/
inductive Caller where
  | task (i : Nat)
  | main
  | nobody
deriving DecidableEq

/-- A command in the lease actor's channel. -/
structure Mail where
  cmd : LeaseCommand
  caller : Caller
deriving DecidableEq

/-- The await at which the main loop (`run_server_loop`) is suspended. -/
inductive MainPc where
  /-- in `select!` -/
  | select
  /-- sending an event to the parent -/
  | forward (event : Event)
  /-- the heartbeat branch: `get_active_leases` -/
  | callActive
  | replyActive
  /-- and sending the heartbeat -/
  | sendHeartbeat (leases : List DhcpLeaseInfo)
  /-- and `evict_expired` -/
  | callEvict
  | replyEvict
  /-- and the loop over the expired host names, here with the clients they belonged to -/
  | deregister (expired : List (MacAddr × String))
  /-- the neighbour branch: `add_neighbor` -/
  | castNeighbor (mac : MacAddr) (ip : Ipv4Addr)
  /-- the reservation branch: `set_static_leases` -/
  | callStatic (staticLeases : List StaticLease)
  | replyStatic
deriving DecidableEq

/-- The worker process. -/
structure State where
  now : Nat
  table : LeaseTable
  mailbox : Fifo Mail 64
  tasks : List Task
  main : MainPc
  events : Fifo Event 32

/-- One choice of the scheduler, with the input that the step takes from outside. -/
inductive Label where
  /-- the clock advances -/
  | advance (d : Nat)
  /-- the main loop receives a frame: its layer-2 source and the message in it -/
  | packet (ethSrc : MacAddr) (dhcp : Option Message)
  /-- the main loop receives a neighbour report -/
  | neighbor (mac : MacAddr) (ip : Ipv4Addr)
  /-- the main loop receives new reservations -/
  | staticLeases (staticLeases : List StaticLease)
  /-- the heartbeat timer fires in the main loop -/
  | heartbeatTick
  /-- the main loop takes an event from the event channel -/
  | takeEvent
  /-- the main loop goes on from the send it is suspended in -/
  | main
  /-- a task goes on from the send or the sleep it is suspended in -/
  | task (i : Nat)
  /-- the lease actor handles the oldest command -/
  | actor (order : IterOrder)
  /-- the cleanup timer fires in the lease actor -/
  | cleanupTick

/-- The worker after `sync_initial_static_leases`. -/
def State.init (staticLeases : List StaticLease) : State where
  now := 0
  table := LeaseTable.new.setStaticLeases staticLeases
  mailbox := Fifo.empty
  tasks := []
  main := .select
  events := Fifo.empty

/-- The main loop after a reply of the lease actor. -/
def MainPc.proceed (pc : MainPc) (expired : List (MacAddr × String)) : LeaseReply → MainPc
  | .active leases => if pc = .replyActive then .sendHeartbeat leases else pc
  | .expired _ => if pc = .replyEvict then .deregister expired else pc
  | .unit => if pc = .replyStatic then .select else pc
  | _ => pc

variable (cfg : ServerConfig)

/-- Hand the reply of the lease actor to whoever waits for it. -/
def deliver (s : State) (expired : List (MacAddr × String)) (reply : LeaseReply) :
    Caller → State
  | .nobody => s
  | .main => { s with main := s.main.proceed expired reply }
  | .task i =>
    match s.tasks[i]? with
    | some ⟨mac, dhcp, .reply k⟩ =>
      { s with tasks := s.tasks.set i ⟨mac, dhcp, Task.proceed cfg mac dhcp s.now k reply⟩ }
    | _ => s

/-- The lease actor handles a command. -/
def runActor (s : State) (order : IterOrder) : Option State :=
  match s.mailbox.pop with
  | none => none
  | some (mail, mailbox) =>
    if order.Visits s.table then
      let (table, reply) := handleLeaseCommand s.now order s.table mail.cmd
      some (deliver cfg { s with table, mailbox } (s.table.expiredHostnames s.now order) reply
        mail.caller)
    else none

/-- Put a command into the lease actor's channel. -/
def State.post (s : State) (cmd : LeaseCommand) (caller : Caller) : Option State :=
  (s.mailbox.push ⟨cmd, caller⟩).map fun mailbox => { s with mailbox }

/-- A task goes on from the send or the sleep it is suspended in. -/
def runTask (s : State) (i : Nat) : Option State :=
  match s.tasks[i]? with
  | none => none
  | some task =>
    let resume (pc : TaskPc) (s : State) : State :=
      { s with tasks := s.tasks.set i { task with pc } }
    let next (k : Cont) : TaskPc := Task.proceed cfg task.mac task.dhcp s.now k .unit
    match task.pc with
    | .call cmd k => (s.post cmd (.task i)).map (resume (.reply k))
    | .cast cmd k => (s.post cmd .nobody).map (resume (next k))
    | .emit event k =>
      (s.events.push event).map fun events => resume (next k) { s with events }
    | .sleep wake k => if wake ≤ s.now then some (resume (next k) s) else none
    | .reply _ | .done => none

/-- The main loop goes on from the send it is suspended in. -/
def runMain (s : State) : Option State :=
  match s.main with
  | .forward _ => some { s with main := .select }
  | .callActive => (s.post .getActiveLeases .main).map ({ · with main := .replyActive })
  | .sendHeartbeat _ => some { s with main := .callEvict }
  | .callEvict => (s.post .evictExpired .main).map ({ · with main := .replyEvict })
  | .deregister [] => some { s with main := .select }
  | .deregister (_ :: expired) => some { s with main := .deregister expired }
  | .castNeighbor mac ip => (s.post (.addNeighbor mac ip) .nobody).map ({ · with main := .select })
  | .callStatic staticLeases =>
    (s.post (.setStaticLeases staticLeases) .main).map ({ · with main := .replyStatic })
  | .select | .replyActive | .replyEvict | .replyStatic => none

/-- A branch of the main loop's `select!`. -/
def onSelect (s : State) (branch : State) : Option State :=
  if s.main = .select then some branch else none

/-- The neighbour branch sends the report on when it is about another host of the LAN. -/
def MainPc.ofNeighbor (mac : MacAddr) (ip : Ipv4Addr) : MainPc :=
  if cfg.net.contains ip && ip != cfg.serverIp then .castNeighbor mac ip else .select

/-- One step of the worker. -/
def step (s : State) : Label → Option State
  | .advance d => some { s with now := s.now + d }
  | .packet ethSrc dhcp =>
    onSelect s { s with
      tasks := s.tasks ++ (dhcp.bind (processIncomingPacket cfg ethSrc)).toList }
  | .neighbor mac ip => onSelect s { s with main := .ofNeighbor cfg mac ip }
  | .staticLeases staticLeases => onSelect s { s with main := .callStatic staticLeases }
  | .heartbeatTick => onSelect s { s with main := .callActive }
  | .takeEvent =>
    match s.events.pop with
    | none => none
    | some (event, events) => onSelect s { s with events, main := .forward event }
  | .main => runMain s
  | .task i => runTask cfg s i
  | .actor order => runActor cfg s order
  | .cleanupTick => some { s with table := s.table.evictExpired s.now }

/-- The message that a step sends to the parent, with its origin. -/
def emitted (s : State) : Label → Option Event
  | .main =>
    match s.main with
    | .forward event => some event
    | .sendHeartbeat leases => some ⟨MacAddr.zero, 0, .heartbeat leases⟩
    | .deregister ((mac, name) :: _) => some ⟨mac, 0, .deregisterLocalHost name⟩
    | _ => none
  | _ => none

/-- The command that the lease actor handles next. -/
def State.nextMail (s : State) : Option Mail := s.mailbox.pop.map Prod.fst

/-! ## What a step can do -/

/-- The moves of the main loop that touch nothing else. -/
inductive MainMove : MainPc → MainPc → Prop
  | forwarded {event : Event} : MainMove (.forward event) .select
  | beat {leases : List DhcpLeaseInfo} : MainMove (.sendHeartbeat leases) .callEvict
  | deregistered {e : MacAddr × String} {expired : List (MacAddr × String)} :
    MainMove (.deregister (e :: expired)) (.deregister expired)
  | finished : MainMove (.deregister []) .select

/-- The commands of the main loop. -/
inductive MainPost : MainPc → Mail → MainPc → Prop
  | active : MainPost .callActive ⟨.getActiveLeases, .main⟩ .replyActive
  | evict : MainPost .callEvict ⟨.evictExpired, .main⟩ .replyEvict
  | neighbor {mac : MacAddr} {ip : Ipv4Addr} :
    MainPost (.castNeighbor mac ip) ⟨.addNeighbor mac ip, .nobody⟩ .select
  | static {staticLeases : List StaticLease} :
    MainPost (.callStatic staticLeases) ⟨.setStaticLeases staticLeases, .main⟩ .replyStatic

/-- What the branches of `select!` do that touch the main loop only. -/
inductive MainBranch : Label → MainPc → Prop
  | neighbor {mac : MacAddr} {ip : Ipv4Addr} :
    MainBranch (.neighbor mac ip) (.ofNeighbor cfg mac ip)
  | static {staticLeases : List StaticLease} :
    MainBranch (.staticLeases staticLeases) (.callStatic staticLeases)
  | heartbeat : MainBranch .heartbeatTick .callActive

/-- The steps of the worker. -/
inductive Step : State → Label → State → Prop
  | advance {s : State} (d : Nat) : Step s (.advance d) { s with now := s.now + d }
  | packet {s : State} {ethSrc : MacAddr} {dhcp : Option Message} :
    s.main = .select →
    Step s (.packet ethSrc dhcp)
      { s with tasks := s.tasks ++ (dhcp.bind (processIncomingPacket cfg ethSrc)).toList }
  | branch {s : State} {l : Label} {pc : MainPc} :
    s.main = .select → MainBranch cfg l pc → Step s l { s with main := pc }
  | takeEvent {s : State} {event : Event} {events : Fifo Event 32} :
    s.main = .select → s.events.items = event :: events.items →
    Step s .takeEvent { s with events, main := .forward event }
  | mainMove {s : State} {pc : MainPc} :
    MainMove s.main pc → Step s .main { s with main := pc }
  | mainPost {s : State} {mail : Mail} {pc : MainPc} {mailbox : Fifo Mail 64} :
    MainPost s.main mail pc → mailbox.items = s.mailbox.items ++ [mail] →
    Step s .main { s with mailbox, main := pc }
  | call {s : State} {i : Nat} {mac : MacAddr} {dhcp : Message} {cmd : LeaseCommand} {k : Cont}
      {mailbox : Fifo Mail 64} :
    s.tasks[i]? = some ⟨mac, dhcp, .call cmd k⟩ →
    mailbox.items = s.mailbox.items ++ [⟨cmd, .task i⟩] →
    Step s (.task i) { s with mailbox, tasks := s.tasks.set i ⟨mac, dhcp, .reply k⟩ }
  | cast {s : State} {i : Nat} {mac : MacAddr} {dhcp : Message} {cmd : LeaseCommand} {k : Cont}
      {mailbox : Fifo Mail 64} :
    s.tasks[i]? = some ⟨mac, dhcp, .cast cmd k⟩ →
    mailbox.items = s.mailbox.items ++ [⟨cmd, .nobody⟩] →
    Step s (.task i) { s with
      mailbox, tasks := s.tasks.set i ⟨mac, dhcp, Task.proceed cfg mac dhcp s.now k .unit⟩ }
  | emit {s : State} {i : Nat} {mac : MacAddr} {dhcp : Message} {event : Event} {k : Cont}
      {events : Fifo Event 32} :
    s.tasks[i]? = some ⟨mac, dhcp, .emit event k⟩ →
    events.items = s.events.items ++ [event] →
    Step s (.task i) { s with
      events, tasks := s.tasks.set i ⟨mac, dhcp, Task.proceed cfg mac dhcp s.now k .unit⟩ }
  | wake {s : State} {i : Nat} {mac : MacAddr} {dhcp : Message} {wake : Nat} {k : Cont} :
    s.tasks[i]? = some ⟨mac, dhcp, .sleep wake k⟩ → wake ≤ s.now →
    Step s (.task i) { s with
      tasks := s.tasks.set i ⟨mac, dhcp, Task.proceed cfg mac dhcp s.now k .unit⟩ }
  | actor {s : State} {order : IterOrder} {mail : Mail} {mailbox : Fifo Mail 64} :
    s.mailbox.items = mail :: mailbox.items → order.Visits s.table →
    Step s (.actor order)
      (deliver cfg
        { s with table := (handleLeaseCommand s.now order s.table mail.cmd).1, mailbox }
        (s.table.expiredHostnames s.now order)
        (handleLeaseCommand s.now order s.table mail.cmd).2 mail.caller)
  | cleanupTick {s : State} :
    Step s .cleanupTick { s with table := s.table.evictExpired s.now }

variable {cfg} {s t : State} {l : Label}

theorem onSelect_eq_some {branch : State} (h : onSelect s branch = some t) :
    s.main = .select ∧ branch = t := by
  unfold onSelect at h
  split at h
  · exact ⟨‹_›, Option.some.inj h⟩
  · cases h

theorem post_eq_some {cmd : LeaseCommand} {caller : Caller} (h : s.post cmd caller = some t) :
    ∃ mailbox, mailbox.items = s.mailbox.items ++ [⟨cmd, caller⟩] ∧ t = { s with mailbox } := by
  obtain ⟨mailbox, pushed, rfl⟩ := Option.map_eq_some_iff.mp h
  exact ⟨mailbox, (Fifo.push_eq_some.mp pushed).2, rfl⟩

theorem Step.of_runMain (h : runMain s = some t) : Step cfg s .main t := by
  have posts : ∀ {pc pc' : MainPc} {mail : Mail}, MainPost pc mail pc' → s.main = pc →
      (s.post mail.cmd mail.caller).map ({ · with main := pc' }) = some t →
      Step cfg s .main t := by
    intro pc pc' mail sends at_pc moved
    obtain ⟨s', posted, rfl⟩ := Option.map_eq_some_iff.mp moved
    obtain ⟨mailbox, pushed, rfl⟩ := post_eq_some posted
    exact .mainPost (at_pc ▸ sends) pushed
  unfold runMain at h
  split at h
  · rename_i pc
    cases h
    exact .mainMove (pc ▸ .forwarded)
  · rename_i pc
    exact posts .active pc h
  · rename_i pc
    cases h
    exact .mainMove (pc ▸ .beat)
  · rename_i pc
    exact posts .evict pc h
  · rename_i pc
    cases h
    exact .mainMove (pc ▸ .finished)
  · rename_i pc
    cases h
    exact .mainMove (pc ▸ .deregistered)
  · rename_i pc
    exact posts .neighbor pc h
  · rename_i pc
    exact posts .static pc h
  all_goals cases h

theorem Step.of_runTask {i : Nat} (h : runTask cfg s i = some t) : Step cfg s (.task i) t := by
  unfold runTask at h
  split at h
  · cases h
  · rename_i task found
    obtain ⟨mac, dhcp, pc⟩ := task
    cases pc with
    | call cmd k =>
      obtain ⟨s', posted, rfl⟩ := Option.map_eq_some_iff.mp h
      obtain ⟨mailbox, pushed, rfl⟩ := post_eq_some posted
      exact .call found pushed
    | cast cmd k =>
      obtain ⟨s', posted, rfl⟩ := Option.map_eq_some_iff.mp h
      obtain ⟨mailbox, pushed, rfl⟩ := post_eq_some posted
      exact .cast found pushed
    | emit event k =>
      obtain ⟨events, pushed, rfl⟩ := Option.map_eq_some_iff.mp h
      exact .emit found (Fifo.push_eq_some.mp pushed).2
    | sleep wake k =>
      simp only at h
      split at h
      · rename_i awake
        cases h
        exact .wake found awake
      · cases h
    | reply | done => cases h

theorem Step.of_runActor {order : IterOrder} (h : runActor cfg s order = some t) :
    Step cfg s (.actor order) t := by
  unfold runActor at h
  split at h
  · cases h
  · rename_i mail mailbox popped
    split at h
    · rename_i visits
      cases h
      exact .actor (Fifo.pop_eq_some.mp popped) visits
    · cases h

theorem Step.of_step (h : step cfg s l = some t) : Step cfg s l t := by
  cases l with
  | advance d =>
    cases h
    exact .advance d
  | packet ethSrc dhcp =>
    obtain ⟨idle, rfl⟩ := onSelect_eq_some h
    exact .packet idle
  | neighbor mac ip =>
    obtain ⟨idle, rfl⟩ := onSelect_eq_some h
    exact .branch idle .neighbor
  | staticLeases staticLeases =>
    obtain ⟨idle, rfl⟩ := onSelect_eq_some h
    exact .branch idle .static
  | heartbeatTick =>
    obtain ⟨idle, rfl⟩ := onSelect_eq_some h
    exact .branch idle .heartbeat
  | takeEvent =>
    simp only [step] at h
    split at h
    · cases h
    · rename_i event events popped
      obtain ⟨idle, rfl⟩ := onSelect_eq_some h
      exact .takeEvent idle (Fifo.pop_eq_some.mp popped)
  | main => exact .of_runMain h
  | task i => exact .of_runTask h
  | actor order => exact .of_runActor h
  | cleanupTick =>
    cases h
    exact .cleanupTick

end TrimRouter.DhcpServer
