import TrimRouter.DhcpServer.LeaseEffects
import TrimRouter.DhcpServer.Worker

/-!
# What is under way in the worker

Two rules for invariants of the worker, proved once from the cases of `Step`.

* `LocalRule.keep`: a predicate on single tasks and single events that the code of a
  task keeps holds of all of them along every run.
* `PassesOn.step`, `Ledger.step`: what the tasks and the queued events still owe (an
  acknowledgement, a name to register) was already owed before the step, unless a reply of the
  lease actor has just created it.

`Wf` is the invariant that ties the commands in the lease actor's channel to the tasks
that wait for them.
-/

namespace TrimRouter.DhcpServer

variable {cfg : ServerConfig} {s t : State} {l : Label} {i : Nat} {mac : MacAddr} {dhcp : Message}
  {task : Task} {cmd : LeaseCommand} {mail : Mail} {pc pc' : MainPc}

/-- No client has an entry at the start. -/
theorem State.get_init {staticLeases : List StaticLease} {m : MacAddr} :
    (State.init staticLeases).table.get m = none := by
  have empty : LeaseTable.new.get m = none := rfl
  exact (LeaseTable.get_setStaticLeases staticLeases).trans (by simp [empty])

/-- The messages that the main loop is about to send. -/
def MainPc.pending : MainPc → List Event
  | .forward event => [event]
  | .deregister expired => expired.map fun (mac, name) => ⟨mac, 0, .deregisterLocalHost name⟩
  | _ => []

/-- The messages that have left their task and not yet the worker. -/
def State.pending (s : State) : List Event := s.events.items ++ s.main.pending

theorem MainMove.pending_subset (move : MainMove pc pc') :
    ∀ e ∈ pc'.pending, e ∈ pc.pending := by
  intro e due
  cases move with
  | deregistered =>
    simp only [MainPc.pending, List.map_cons, List.mem_cons]
    exact .inr due
  | _ => cases due

theorem MainPost.pending_eq (post : MainPost pc mail pc') : pc'.pending = [] := by
  cases post <;> rfl

theorem MainBranch.pending_eq (branch : MainBranch cfg l pc) : pc.pending = [] := by
  cases branch with
  | neighbor =>
    unfold MainPc.ofNeighbor
    split <;> rfl
  | _ => rfl

section

variable {expired : List (MacAddr × String)} {reply : LeaseReply} {caller : Caller}

theorem MainPc.proceed_pending {e : Event} (due : e ∈ (pc.proceed expired reply).pending) :
    e ∈ pc.pending ∨
      ∃ mac name, (mac, name) ∈ expired ∧ e = ⟨mac, 0, .deregisterLocalHost name⟩ := by
  cases reply with
  | active | unit =>
    simp only [proceed] at due
    split at due
    · cases due
    · exact .inl due
  | expired names =>
    simp only [proceed] at due
    split at due
    · simp only [pending, List.mem_map, Prod.exists] at due
      obtain ⟨mac, name, listed, rfl⟩ := due
      exact .inr ⟨mac, name, listed, rfl⟩
    · exact .inl due
  | _ => exact .inl due

/-! ## Delivering a reply -/

@[simp]
theorem deliver_now :
    (deliver cfg s expired reply caller).now = s.now := by
  cases caller with
  | task i =>
    simp only [deliver]
    split <;> rfl
  | _ => rfl

@[simp]
theorem deliver_table : (deliver cfg s expired reply caller).table = s.table := by
  cases caller with
  | task i =>
    simp only [deliver]
    split <;> rfl
  | _ => rfl

@[simp]
theorem deliver_mailbox : (deliver cfg s expired reply caller).mailbox = s.mailbox := by
  cases caller with
  | task i =>
    simp only [deliver]
    split <;> rfl
  | _ => rfl

theorem mem_pending_deliver {e : Event} (due : e ∈ (deliver cfg s expired reply caller).pending) :
    e ∈ s.pending ∨
      ∃ mac name, (mac, name) ∈ expired ∧ e = ⟨mac, 0, .deregisterLocalHost name⟩ := by
  cases caller with
  | task i =>
    simp only [deliver] at due
    split at due <;> exact .inl due
  | main =>
    simp only [deliver, State.pending, List.mem_append] at due ⊢
    rcases due with queued | later
    · exact .inl (.inl queued)
    · rcases MainPc.proceed_pending later with before | fresh
      · exact .inl (.inr before)
      · exact .inr fresh
  | nobody => exact .inl due

end

/-! ## What a step does to the tasks and to the messages under way -/

theorem State.nextMail_of_items {mailbox : Fifo Mail 64}
    (popped : s.mailbox.items = mail :: mailbox.items) : s.nextMail = some mail := by
  rw [State.nextMail, Fifo.pop_eq_some.mpr popped]
  rfl

theorem State.mem_of_nextMail (next : s.nextMail = some mail) :
    mail ∈ s.mailbox.items := by
  obtain ⟨⟨mail', mailbox⟩, popped, rfl⟩ := Option.map_eq_some_iff.mp next
  rw [Fifo.pop_eq_some.mp popped]
  exact List.mem_cons_self

/-- The clock stands still except in its own steps. -/
theorem Step.now_eq (h : Step cfg s l t) :
    t.now = s.now ∨ ∃ d, l = .advance d ∧ t.now = s.now + d := by
  cases h with
  | advance d => exact .inr ⟨d, rfl, rfl⟩
  | actor popped visits => exact .inl deliver_now
  | _ => exact .inl rfl

theorem Step.now_le (h : Step cfg s l t) : s.now ≤ t.now := by
  rcases h.now_eq with same | ⟨d, -, grown⟩
  · exact Nat.le_of_eq same.symm
  · omega

theorem Step.awake {wake : Nat} {k : Cont}
    (h : Step cfg s (.task i) t) (found : s.tasks[i]? = some ⟨mac, dhcp, .sleep wake k⟩) :
    wake ≤ s.now := by
  cases h with
  | branch idle branch => cases branch
  | call found' | cast found' | emit found' => cases found.symm.trans found'
  | wake found' awake =>
    cases found.symm.trans found'
    exact awake

/-- Where a task goes on after a send or a sleep. -/
def TaskPc.resume : TaskPc → Option Cont
  | .cast _ k | .emit _ k | .sleep _ k => some k
  | _ => none

/-- The ways in which a task leaves an await, with the await it reaches. -/
inductive TaskMove (cfg : ServerConfig) (s : State) (l : Label) (i : Nat) (task : Task) :
    TaskPc → Prop
  | called {cmd : LeaseCommand} {k : Cont} :
    l = .task i → task.pc = .call cmd k → TaskMove cfg s l i task (.reply k)
  | resumed {k : Cont} :
    l = .task i → task.pc.resume = some k →
    TaskMove cfg s l i task (Task.proceed cfg task.mac task.dhcp s.now k .unit)
  | replied {order : IterOrder} {cmd : LeaseCommand} {k : Cont} :
    l = .actor order → order.Visits s.table → s.nextMail = some ⟨cmd, .task i⟩ →
    task.pc = .reply k →
    TaskMove cfg s l i task (Task.proceed cfg task.mac task.dhcp s.now k
      (handleLeaseCommand s.now order s.table cmd).2)

theorem Step.tasks_eq (h : Step cfg s l t) :
    t.tasks = s.tasks ∨
      (∃ started : Option Task, t.tasks = s.tasks ++ started.toList ∧
        ∀ task ∈ started, ∃ ethSrc dhcp, l = .packet ethSrc (some dhcp) ∧
          processIncomingPacket cfg ethSrc dhcp = some task) ∨
      ∃ i old pc, s.tasks[i]? = some old ∧ TaskMove cfg s l i old pc ∧
        t.tasks = s.tasks.set i ⟨old.mac, old.dhcp, pc⟩ := by
  cases h with
  | packet idle =>
    refine .inr (.inl ⟨_, rfl, fun task started => ?_⟩)
    obtain ⟨dhcp, rfl, taken⟩ := Option.bind_eq_some_iff.mp started
    exact ⟨_, dhcp, rfl, taken⟩
  | call found pushed => exact .inr (.inr ⟨_, _, _, found, .called rfl rfl, rfl⟩)
  | cast found | emit found | wake found =>
    exact .inr (.inr ⟨_, _, _, found, .resumed rfl rfl, rfl⟩)
  | @actor order mail mailbox popped visits =>
    have next := State.nextMail_of_items popped
    obtain ⟨cmd, caller⟩ := mail
    cases caller with
    | task i =>
      simp only [deliver]
      split
      · rename_i found
        exact .inr (.inr ⟨_, _, _, found, .replied rfl visits next rfl, rfl⟩)
      · exact .inl rfl
    | main | nobody => exact .inl rfl
  | _ => exact .inl rfl

/-- A task after a step was there before it, has just been started, or has just moved. -/
theorem Step.mem_tasks (h : Step cfg s l t) (member : task ∈ t.tasks) :
    task ∈ s.tasks ∨
      (∃ ethSrc dhcp, l = .packet ethSrc (some dhcp) ∧
        processIncomingPacket cfg ethSrc dhcp = some task) ∨
      ∃ i old pc, s.tasks[i]? = some old ∧ TaskMove cfg s l i old pc ∧
        task = ⟨old.mac, old.dhcp, pc⟩ := by
  rcases h.tasks_eq with same | ⟨started, appended, taken⟩ | ⟨i, old, pc, found, move, moved⟩
  · exact .inl (same ▸ member)
  · rw [appended] at member
    rcases List.mem_append.mp member with before | new
    · exact .inl before
    · exact .inr (.inl (taken task (Option.mem_toList.mp new)))
  · rw [moved] at member
    rcases List.mem_or_eq_of_mem_set member with before | rfl
    · exact .inl before
    · exact .inr (.inr ⟨i, old, pc, found, move, rfl⟩)

/-- A message under way after a step was so before it, has just been queued by its task, or is
the deregistration of a host name that has just expired. -/
theorem Step.mem_pending (h : Step cfg s l t) {e : Event} (due : e ∈ t.pending) :
    e ∈ s.pending ∨
      (∃ (i : Nat) (mac : MacAddr) (dhcp : Message) (k : Cont),
        s.tasks[i]? = some ⟨mac, dhcp, .emit e k⟩) ∨
      ∃ order mac name, l = .actor order ∧ order.Visits s.table ∧
        (mac, name) ∈ s.table.expiredHostnames s.now order ∧
        e = ⟨mac, 0, .deregisterLocalHost name⟩ := by
  have queued : e ∈ s.events.items → e ∈ s.pending := List.mem_append_left _
  cases h with
  | branch idle branch =>
    simp only [State.pending, branch.pending_eq, List.append_nil] at due
    exact .inl (queued due)
  | takeEvent idle popped =>
    refine .inl (queued ?_)
    rw [popped]
    simp only [State.pending, MainPc.pending, List.mem_append, List.mem_singleton] at due
    rcases due with later | rfl
    · exact List.mem_cons_of_mem _ later
    · exact List.mem_cons_self
  | mainMove move =>
    rcases List.mem_append.mp due with before | later
    · exact .inl (queued before)
    · exact .inl (List.mem_append_right _ (move.pending_subset e later))
  | mainPost post pushed =>
    simp only [State.pending, post.pending_eq, List.append_nil] at due
    exact .inl (queued due)
  | emit found pushed =>
    simp only [State.pending, pushed, List.mem_append, List.mem_singleton] at due
    rcases due with (before | rfl) | later
    · exact .inl (queued before)
    · exact .inr (.inl ⟨_, _, _, _, found⟩)
    · exact .inl (List.mem_append_right _ later)
  | actor popped visits =>
    rcases mem_pending_deliver due with before | ⟨mac, name, listed, rfl⟩
    · exact .inl before
    · exact .inr (.inr ⟨_, mac, name, rfl, visits, listed, rfl⟩)
  | _ => exact .inl due

/-! ## Local predicates -/

/-- Predicates on a task and on an event that every piece of a task's code keeps. -/
structure LocalRule (cfg : ServerConfig) where
  task : Nat → MacAddr → Message → TaskPc → Prop
  event : Nat → Event → Prop
  taskLater : ∀ {now later mac dhcp pc}, task now mac dhcp pc → now ≤ later →
    task later mac dhcp pc
  eventLater : ∀ {now later e}, event now e → now ≤ later → event later e
  start : ∀ {now ethSrc dhcp task'}, processIncomingPacket cfg ethSrc dhcp = some task' →
    task now task'.mac task'.dhcp task'.pc
  call : ∀ {now mac dhcp cmd k}, task now mac dhcp (.call cmd k) → task now mac dhcp (.reply k)
  reply : ∀ {now mac dhcp k} (r : LeaseReply), task now mac dhcp (.reply k) →
    task now mac dhcp (Task.proceed cfg mac dhcp now k r)
  cast : ∀ {now mac dhcp cmd k}, task now mac dhcp (.cast cmd k) →
    task now mac dhcp (Task.proceed cfg mac dhcp now k .unit)
  emit : ∀ {now mac dhcp e k}, task now mac dhcp (.emit e k) →
    event now e ∧ task now mac dhcp (Task.proceed cfg mac dhcp now k .unit)
  wake : ∀ {now mac dhcp wake k}, task now mac dhcp (.sleep wake k) → wake ≤ now →
    task now mac dhcp (Task.proceed cfg mac dhcp now k .unit)
  expired : ∀ {now mac name}, event now ⟨mac, 0, .deregisterLocalHost name⟩

/-- The rule's predicates hold of every task and of every message under way. -/
structure LocalRule.Holds (R : LocalRule cfg) (s : State) : Prop where
  tasks : ∀ task ∈ s.tasks, R.task s.now task.mac task.dhcp task.pc
  pending : ∀ e ∈ s.pending, R.event s.now e

theorem LocalRule.holds_init (R : LocalRule cfg) (staticLeases : List StaticLease) :
    R.Holds (State.init staticLeases) where
  tasks := by
    intro task member
    cases member
  pending := by
    intro e due
    cases due

theorem LocalRule.move (R : LocalRule cfg) {pc : TaskPc}
    (holds : R.task s.now task.mac task.dhcp task.pc) (h : Step cfg s l t)
    (found : s.tasks[i]? = some task) (move : TaskMove cfg s l i task pc) :
    R.task s.now task.mac task.dhcp pc := by
  obtain ⟨mac, dhcp, pc'⟩ := task
  cases move with
  | called own atCall =>
    cases atCall
    exact R.call holds
  | resumed own goesOn =>
    subst own
    cases pc' with
    | cast cmd k =>
      cases goesOn
      exact R.cast holds
    | emit e k =>
      cases goesOn
      exact (R.emit holds).2
    | sleep wake k =>
      cases goesOn
      exact R.wake holds (h.awake found)
    | _ => cases goesOn
  | replied actor visits next atReply =>
    cases atReply
    exact R.reply _ holds

theorem LocalRule.keep (R : LocalRule cfg) (holds : R.Holds s) (h : Step cfg s l t) :
    R.Holds t := by
  obtain ⟨tasks, pending⟩ := holds
  have grows := h.now_le
  refine ⟨fun task member => ?_, fun e due => ?_⟩
  · refine R.taskLater ?_ grows
    rcases h.mem_tasks member with before | ⟨_, _, -, taken⟩ | ⟨i, old, pc, found, move, rfl⟩
    · exact tasks task before
    · exact R.start taken
    · have moved := R.move (tasks old (List.mem_of_getElem? found)) h found move
      exact moved
  · refine R.eventLater ?_ grows
    rcases h.mem_pending due with before | ⟨i, mac, dhcp, k, found⟩ | ⟨_, mac, name, -, -, -, rfl⟩
    · exact pending e before
    · exact (R.emit (tasks _ (List.mem_of_getElem? found))).1
    · exact R.expired

/-! ## Commands and the tasks that wait for them -/

/-- The commands whose reply a task waits for, and where it goes on. -/
inductive Calls (cfg : ServerConfig) (mac : MacAddr) (dhcp : Message) :
    LeaseCommand → Cont → Prop
  | existing : Calls cfg mac dhcp (.getExistingIp mac) .gotExistingIp
  | candidate : Calls cfg mac dhcp (.allocateCandidate mac cfg.net cfg.serverIp) .gotCandidate
  | checkCandidate {ip : Ipv4Addr} :
    Calls cfg mac dhcp (.checkConflict ip mac) (.checkedCandidate ip)
  | validate :
    Calls cfg mac dhcp (.validateAndConfirmRequest mac (requestedIp dhcp) cfg.serverIp cfg.net
      lanLeaseDuration (extractSanitizedHostname dhcp)) .gotConfirmation
  | checkGrant {grant : Grant} :
    Calls cfg mac dhcp (.checkConflict grant.confirmation.ip mac) (.checkedGrant grant)
  | release : Calls cfg mac dhcp (.release mac) .gotReleased

/-- The commands without a reply. -/
inductive Casts (mac : MacAddr) (dhcp : Message) : LeaseCommand → Cont → Prop
  | recordCandidate {ip : Ipv4Addr} :
    Casts mac dhcp (.recordConflict ip conflictHoldDuration) .recordedCandidate
  | recordGrant {ip : Ipv4Addr} :
    Casts mac dhcp (.recordConflict ip conflictHoldDuration) .recordedGrant
  | confirm {ip : Ipv4Addr} :
    Casts mac dhcp (.confirmLease mac ip lanLeaseDuration (extractSanitizedHostname dhcp))
      (.confirmedLease ip)

/-- The points that the code of a task reaches. -/
def TaskPc.Wf (cfg : ServerConfig) (mac : MacAddr) (dhcp : Message) : TaskPc → Prop
  | .call cmd k => Calls cfg mac dhcp cmd k
  | .reply k => ∃ cmd, Calls cfg mac dhcp cmd k
  | .cast cmd k => Casts mac dhcp cmd k
  | _ => True

theorem Task.proceed_wf {now : Nat} (k : Cont)
    (reply : LeaseReply) : (Task.proceed cfg mac dhcp now k reply).Wf cfg mac dhcp := by
  cases k with
  | gotExistingIp =>
    simp only [Task.proceed]
    split
    · exact .confirm
    · exact .candidate
  | gotCandidate | gotConfirmation | gotReleased =>
    simp only [Task.proceed]
    split <;> trivial
  | waitedCandidate ip => exact .checkCandidate
  | checkedCandidate ip =>
    simp only [Task.proceed]
    split
    · exact .recordCandidate
    · exact .confirm
  | recordedCandidate => exact .candidate
  | waitedGrant grant => exact .checkGrant
  | checkedGrant grant =>
    simp only [Task.proceed]
    split
    · exact .recordGrant
    · trivial
  | sentAck grant =>
    simp only [Task.proceed, Task.register]
    split
    · trivial
    · split <;> trivial
  | sentDeregister grant =>
    simp only [Task.proceed, Task.register]
    split <;> trivial
  | _ => trivial

theorem processIncomingPacket_wf {ethSrc : MacAddr}
    (taken : processIncomingPacket cfg ethSrc dhcp = some task) :
    ∃ cmd k, task.pc = .call cmd k ∧ Calls cfg task.mac task.dhcp cmd k ∧
      (k = .gotExistingIp ∨ k = .gotConfirmation ∨ k = .gotReleased) := by
  unfold processIncomingPacket at taken
  split at taken
  · cases taken
  · split at taken
    · cases taken
    · split at taken
      · cases taken
      · split at taken
        · cases taken
          exact ⟨_, _, rfl, .existing, .inl rfl⟩
        · split at taken
          · cases taken
            exact ⟨_, _, rfl, .validate, .inr (.inl rfl)⟩
          · cases taken
        · cases taken
          exact ⟨_, _, rfl, .release, .inr (.inr rfl)⟩
        · cases taken
          exact ⟨_, _, rfl, .release, .inr (.inr rfl)⟩
        · cases taken
        · cases taken

/-- Every task is at a point that its code reaches. -/
def wfRule (cfg : ServerConfig) : LocalRule cfg where
  task _ mac dhcp pc := pc.Wf cfg mac dhcp
  event _ _ := True
  taskLater wf _ := wf
  eventLater _ _ := trivial
  start taken := by
    obtain ⟨cmd, k, at_call, calls, -⟩ := processIncomingPacket_wf taken
    rw [at_call]
    exact calls
  call calls := ⟨_, calls⟩
  reply r _ := Task.proceed_wf _ r
  cast _ := Task.proceed_wf _ _
  emit _ := ⟨trivial, Task.proceed_wf _ _⟩
  wake _ _ := Task.proceed_wf _ _
  expired := trivial

/-- The commands carry the worker's own network, server address and lease time. -/
def LeaseCommand.Wf (cfg : ServerConfig) : LeaseCommand → Prop
  | .allocateCandidate _ net serverIp => net = cfg.net ∧ serverIp = cfg.serverIp
  | .confirmLease _ _ duration _ => duration = lanLeaseDuration
  | .validateAndConfirmRequest _ _ serverIp net duration _ =>
    serverIp = cfg.serverIp ∧ net = cfg.net ∧ duration = lanLeaseDuration
  | _ => True

theorem Calls.wf {k : Cont} (calls : Calls cfg mac dhcp cmd k) : cmd.Wf cfg := by
  cases calls with
  | candidate => exact ⟨rfl, rfl⟩
  | validate => exact ⟨rfl, rfl, rfl⟩
  | _ => trivial

theorem Casts.wf {k : Cont} (casts : Casts mac dhcp cmd k) : cmd.Wf cfg := by
  cases casts with
  | confirm => rfl
  | _ => trivial

theorem MainPost.wf (post : MainPost pc mail pc') :
    mail.cmd.Wf cfg := by
  cases post <;> trivial

/-- The task that waits for the reply to a command. -/
def Mail.task? (mail : Mail) : Option Nat :=
  match mail.caller with
  | .task i => some i
  | _ => none

/-- Each command whose reply a task waits for is the one that the task has sent. -/
def Waits (cfg : ServerConfig) (mails : List Mail) (tasks : List Task) : Prop :=
  ∀ mail ∈ mails, ∀ i ∈ mail.task?, ∃ mac dhcp k,
    tasks[i]? = some ⟨mac, dhcp, .reply k⟩ ∧ Calls cfg mac dhcp mail.cmd k

variable {mails : List Mail} {tasks : List Task}

theorem Waits.append {started : List Task}
    (waits : Waits cfg mails tasks) : Waits cfg mails (tasks ++ started) := by
  intro mail member i sender
  obtain ⟨mac, dhcp, k, waiting, calls⟩ := waits mail member i sender
  have inside : i < tasks.length := (List.getElem?_eq_some_iff.mp waiting).1
  exact ⟨mac, dhcp, k, by rw [List.getElem?_append_left inside, waiting], calls⟩

/-- Changing a task that no command in the channel waits for. -/
theorem Waits.set (waits : Waits cfg mails tasks) (free : i ∉ mails.filterMap Mail.task?) :
    Waits cfg mails (tasks.set i task) := by
  intro mail member j sender
  obtain ⟨mac, dhcp, k, waiting, calls⟩ := waits mail member j sender
  have different : i ≠ j := by
    rintro rfl
    exact free (List.mem_filterMap.mpr ⟨mail, member, sender⟩)
  exact ⟨mac, dhcp, k, by rw [List.getElem?_set_ne different, waiting], calls⟩

theorem Waits.free (waits : Waits cfg mails tasks) (found : tasks[i]? = some task)
    (running : ∀ k, task.pc ≠ .reply k) : i ∉ mails.filterMap Mail.task? := by
  intro listed
  obtain ⟨mail, member, sender⟩ := List.mem_filterMap.mp listed
  obtain ⟨mac, dhcp, k, waiting, -⟩ := waits mail member i sender
  rw [found] at waiting
  cases waiting
  exact running k rfl

theorem MainPost.task?_eq (post : MainPost pc mail pc') :
    mail.task? = none := by
  cases post <;> rfl

/-- A state in which each command in the actor's channel is well formed and, when a task
waits for its reply, is the one command that the task has sent. -/
structure Wf (cfg : ServerConfig) (s : State) : Prop where
  tasks : (wfRule cfg).Holds s
  mail : ∀ mail ∈ s.mailbox.items, mail.cmd.Wf cfg
  waits : Waits cfg s.mailbox.items s.tasks
  once : (s.mailbox.items.filterMap Mail.task?).Nodup

theorem Wf.init (staticLeases : List StaticLease) : Wf cfg (State.init staticLeases) where
  tasks := (wfRule cfg).holds_init staticLeases
  mail := by
    intro mail member
    cases member
  waits := by
    intro mail member
    cases member
  once := List.nodup_nil

theorem Wf.atPc (wf : Wf cfg s) (found : s.tasks[i]? = some task) :
    task.pc.Wf cfg task.mac task.dhcp :=
  wf.tasks.tasks _ (List.mem_of_getElem? found)

/-- A command sent without waiting for its reply. -/
theorem Wf.post_silent (silent : mail.task? = none) (once : (mails.filterMap Mail.task?).Nodup)
    (waits : Waits cfg mails tasks) :
    ((mails ++ [mail]).filterMap Mail.task?).Nodup ∧ Waits cfg (mails ++ [mail]) tasks := by
  have same : (mails ++ [mail]).filterMap Mail.task? = mails.filterMap Mail.task? := by
    simp [silent]
  refine ⟨same ▸ once, fun mail' member i sender => ?_⟩
  rcases List.mem_append.mp member with before | new
  · exact waits mail' before i sender
  · rw [List.mem_singleton.mp new, silent] at sender
    cases sender

theorem Wf.keep (wf : Wf cfg s) (h : Step cfg s l t) : Wf cfg t := by
  have tasks := (wfRule cfg).keep wf.tasks h
  have ⟨_, mail, waits, once⟩ := wf
  cases h with
  | advance | branch | takeEvent | mainMove | cleanupTick => exact ⟨tasks, mail, waits, once⟩
  | packet idle => exact ⟨tasks, mail, waits.append, once⟩
  | mainPost post pushed =>
    obtain ⟨once', waits'⟩ := Wf.post_silent post.task?_eq once waits
    refine ⟨tasks, ?_, ?_, ?_⟩
    · rw [pushed]
      exact List.forall_mem_append.mpr ⟨mail, List.forall_mem_singleton.mpr post.wf⟩
    · rw [pushed]
      exact waits'
    · rw [pushed]
      exact once'
  | @call i mac dhcp cmd k mailbox found pushed =>
    have free : i ∉ s.mailbox.items.filterMap Mail.task? :=
      waits.free found (by simp)
    have calls : Calls cfg mac dhcp cmd k := wf.atPc found
    refine ⟨tasks, ?_, ?_, ?_⟩
    · rw [pushed]
      exact List.forall_mem_append.mpr ⟨mail, List.forall_mem_singleton.mpr calls.wf⟩
    · rw [pushed]
      intro mail' member j sender
      rcases List.mem_append.mp member with before | new
      · exact waits.set free mail' before j sender
      · rw [List.mem_singleton.mp new] at sender ⊢
        cases sender
        have inside : i < s.tasks.length := (List.getElem?_eq_some_iff.mp found).1
        exact ⟨mac, dhcp, k, List.getElem?_set_self inside, calls⟩
    · rw [pushed, List.filterMap_append]
      simp only [List.filterMap_cons, List.filterMap_nil, Mail.task?]
      exact List.nodup_append.mpr ⟨once, List.nodup_singleton i, by
        rintro a listed b new rfl
        rw [List.mem_singleton.mp new] at listed
        exact free listed⟩
  | @cast i mac dhcp cmd k mailbox found pushed =>
    have casts : Casts mac dhcp cmd k := wf.atPc found
    have free := waits.free found (by simp)
    have silent : Mail.task? ⟨cmd, .nobody⟩ = none := rfl
    obtain ⟨once', waits'⟩ := Wf.post_silent silent once (waits.set free)
    refine ⟨tasks, ?_, ?_, ?_⟩
    · rw [pushed]
      exact List.forall_mem_append.mpr ⟨mail, List.forall_mem_singleton.mpr casts.wf⟩
    · rw [pushed]
      exact waits'
    · rw [pushed]
      exact once'
  | emit found | wake found => exact ⟨tasks, mail, waits.set (waits.free found (by simp)), once⟩
  | @actor order handled mailbox popped visits =>
    rw [popped] at mail waits once
    have mail' : ∀ mail ∈ mailbox.items, mail.cmd.Wf cfg :=
      fun mail' member => mail mail' (List.mem_cons_of_mem _ member)
    have waits' : Waits cfg mailbox.items s.tasks :=
      fun mail' member => waits mail' (List.mem_cons_of_mem _ member)
    have once' : (mailbox.items.filterMap Mail.task?).Nodup :=
      once.sublist ((List.sublist_cons_self _ _).filterMap _)
    refine ⟨tasks, by simpa using mail', ?_, by simpa using once'⟩
    rw [deliver_mailbox]
    cases caller : handled.caller with
    | main | nobody => exact waits'
    | task i =>
      -- the command just handled was the only one of its task
      have free : i ∉ mailbox.items.filterMap Mail.task? := by
        have sender : handled.task? = some i := by simp [Mail.task?, caller]
        rw [List.filterMap_cons_some sender] at once
        exact (List.nodup_cons.mp once).1
      simp only [deliver]
      split
      · exact waits'.set free
      · exact waits'

theorem Wf.waiting (wf : Wf cfg s)
    (next : s.nextMail = some ⟨cmd, .task i⟩) (found : s.tasks[i]? = some task) :
    ∃ k, task.pc = .reply k ∧ Calls cfg task.mac task.dhcp cmd k := by
  obtain ⟨mac, dhcp, k, waiting, calls⟩ :=
    wf.waits _ (State.mem_of_nextMail next) i (by simp [Mail.task?])
  cases found.symm.trans waiting
  exact ⟨k, rfl, calls⟩

/-- Where a command in the lease actor's channel comes from. -/
theorem Step.mem_mailbox (wf : Wf cfg s) (h : Step cfg s l t) (member : mail ∈ t.mailbox.items) :
    mail ∈ s.mailbox.items ∨ (∃ pc, MainPost s.main mail pc) ∨
      ∃ task ∈ s.tasks, ∃ k, Calls cfg task.mac task.dhcp mail.cmd k ∨
        Casts task.mac task.dhcp mail.cmd k := by
  have posted : ∀ {new : Mail} {mailbox : Fifo Mail 64},
      mailbox.items = s.mailbox.items ++ [new] → mail ∈ mailbox.items →
      mail ∈ s.mailbox.items ∨ mail = new := by
    intro new mailbox pushed listed
    rw [pushed, List.mem_append, List.mem_singleton] at listed
    exact listed
  cases h with
  | mainPost post pushed =>
    rcases posted pushed member with before | rfl
    · exact .inl before
    · exact .inr (.inl ⟨_, post⟩)
  | call found pushed =>
    have there := List.mem_of_getElem? found
    rcases posted pushed member with before | rfl
    · exact .inl before
    · exact .inr (.inr ⟨_, there, _, .inl (wf.tasks.tasks _ there)⟩)
  | cast found pushed =>
    have there := List.mem_of_getElem? found
    rcases posted pushed member with before | rfl
    · exact .inl before
    · exact .inr (.inr ⟨_, there, _, .inr (wf.tasks.tasks _ there)⟩)
  | actor popped visits =>
    rw [deliver_mailbox] at member
    exact .inl (popped ▸ List.mem_cons_of_mem _ member)
  | _ => exact .inl member

theorem Step.table_eq (h : Step cfg s l t) :
    t.table = s.table ∨ (l = .cleanupTick ∧ t.table = s.table.evictExpired s.now) ∨
      ∃ order mail, l = .actor order ∧ s.nextMail = some mail ∧ order.Visits s.table ∧
        t.table = (handleLeaseCommand s.now order s.table mail.cmd).1 := by
  cases h with
  | actor popped visits =>
    exact .inr (.inr ⟨_, _, rfl, State.nextMail_of_items popped, visits, deliver_table⟩)
  | cleanupTick => exact .inr (.inl ⟨rfl, rfl⟩)
  | _ => exact .inl rfl

/-- An entry after a step was there before, or is the one that the lease actor stores. -/
theorem Step.get_table {m : MacAddr} {lease : ClientLease} (h : Step cfg s l t)
    (found : t.table.get m = some lease) :
    s.table.get m = some lease ∨ ∃ order mail, l = .actor order ∧ s.nextMail = some mail ∧
      mail.cmd.written s.now s.table = some (m, lease) := by
  rcases h.table_eq with same | ⟨-, evicted⟩ | ⟨order, mail, actor, next, -, handled⟩
  · exact .inl (same ▸ found)
  · rw [evicted] at found
    exact .inl (LeaseTable.get_evictExpired_eq_some.mp found).1
  · rw [handled] at found
    rcases LeaseCommand.written_or_get found with written | before
    · exact .inr ⟨order, mail, actor, next, written⟩
    · exact .inl before

theorem Step.of_actor {order : IterOrder} (h : Step cfg s (.actor order) t)
    (next : s.nextMail = some mail) :
    order.Visits s.table ∧ ∃ mailbox, t = deliver cfg
      { s with table := (handleLeaseCommand s.now order s.table mail.cmd).1, mailbox }
      (s.table.expiredHostnames s.now order)
      (handleLeaseCommand s.now order s.table mail.cmd).2 mail.caller := by
  cases h with
  | branch idle branch => cases branch
  | actor popped visits =>
    cases next.symm.trans (State.nextMail_of_items popped)
    exact ⟨visits, _, rfl⟩

theorem Step.table_of_actor {order : IterOrder} (h : Step cfg s (.actor order) t)
    (next : s.nextMail = some mail) :
    t.table = (handleLeaseCommand s.now order s.table mail.cmd).1 := by
  obtain ⟨-, mailbox, rfl⟩ := h.of_actor next
  exact deliver_table

/-! ## What tasks and events owe -/

section

variable {α : Type}

/-- What a task owes at an await, when it owes `due k` at the continuation `k` and a message
`e` stands for `owed e`. -/
def TaskPc.due (due : Cont → List α) (owed : Event → List α) : TaskPc → List α
  | .call _ k | .reply k | .cast _ k | .sleep _ k => due k
  | .emit e k => owed e ++ due k
  | .done => []

variable (due : MacAddr → Cont → List α) (owed : Event → List α)

/-- Everything that the tasks and the messages under way owe. -/
def State.owing (s : State) : List α :=
  s.tasks.flatMap (fun task => task.pc.due (due task.mac) owed) ++ s.pending.flatMap owed

/-- A task owes nothing at its start, and by its own moves it only passes on what it owes. -/
structure PassesOn (cfg : ServerConfig) : Prop where
  start : ∀ mac, due mac .gotExistingIp = [] ∧ due mac .gotConfirmation = [] ∧
    due mac .gotReleased = []
  flow : ∀ {mac dhcp now k x},
    x ∈ (Task.proceed cfg mac dhcp now k .unit).due (due mac) owed → x ∈ due mac k

/-- What the lease actor's next step makes a task or the main loop owe. -/
inductive Replied (cfg : ServerConfig) (s : State) (order : IterOrder) : α → Prop
  | reply {i : Nat} {mac : MacAddr} {dhcp : Message} {cmd : LeaseCommand} {k : Cont} {x : α} :
    s.nextMail = some ⟨cmd, .task i⟩ → s.tasks[i]? = some ⟨mac, dhcp, .reply k⟩ →
    Calls cfg mac dhcp cmd k →
    x ∈ (Task.proceed cfg mac dhcp s.now k
      (handleLeaseCommand s.now order s.table cmd).2).due (due mac) owed →
    Replied cfg s order x
  | expired {mac : MacAddr} {name : String} {x : α} :
    (mac, name) ∈ s.table.expiredHostnames s.now order →
    x ∈ owed ⟨mac, 0, .deregisterLocalHost name⟩ → Replied cfg s order x

variable {due owed}

theorem State.mem_owing {x : α} :
    x ∈ s.owing due owed ↔ (∃ task ∈ s.tasks, x ∈ task.pc.due (due task.mac) owed) ∨
      ∃ e ∈ s.pending, x ∈ owed e := by
  simp [State.owing]

theorem PassesOn.due_start (passes : PassesOn due owed cfg) {ethSrc : MacAddr}
    (taken : processIncomingPacket cfg ethSrc dhcp = some task) :
    task.pc.due (due task.mac) owed = [] := by
  obtain ⟨cmd, k, atCall, -, first⟩ := processIncomingPacket_wf taken
  obtain ⟨existing, confirmation, released⟩ := passes.start task.mac
  rw [atCall, TaskPc.due]
  rcases first with rfl | rfl | rfl
  · exact existing
  · exact confirmation
  · exact released

theorem PassesOn.move (passes : PassesOn due owed cfg) (wf : Wf cfg s)
    {pc : TaskPc} {x : α} (found : s.tasks[i]? = some task) (move : TaskMove cfg s l i task pc)
    (owes : x ∈ pc.due (due task.mac) owed) :
    x ∈ task.pc.due (due task.mac) owed ∨
      ∃ order, l = .actor order ∧ order.Visits s.table ∧ Replied due owed cfg s order x := by
  obtain ⟨mac, dhcp, pc'⟩ := task
  cases move with
  | called own atCall =>
    cases atCall
    exact .inl owes
  | resumed own goesOn =>
    have passed := passes.flow owes
    cases pc' with
    | cast | sleep =>
      cases goesOn
      exact .inl passed
    | emit e k =>
      cases goesOn
      exact .inl (List.mem_append_right _ passed)
    | _ => cases goesOn
  | replied actor visits next atReply =>
    cases atReply
    obtain ⟨k, same, calls⟩ := wf.waiting next found
    cases same
    exact .inr ⟨_, actor, visits, .reply next found calls owes⟩

theorem PassesOn.step (passes : PassesOn due owed cfg) (wf : Wf cfg s) (h : Step cfg s l t)
    {x : α} (owes : x ∈ t.owing due owed) :
    x ∈ s.owing due owed ∨
      ∃ order, l = .actor order ∧ order.Visits s.table ∧ Replied due owed cfg s order x := by
  rw [State.mem_owing] at owes ⊢
  rcases owes with ⟨task, member, due⟩ | ⟨e, member, due⟩
  · rcases h.mem_tasks member with before | ⟨_, _, -, taken⟩ | ⟨i, old, pc, found, move, rfl⟩
    · exact .inl (.inl ⟨task, before, due⟩)
    · rw [passes.due_start taken] at due
      cases due
    · rcases passes.move wf found move due with old' | replied
      · exact .inl (.inl ⟨old, List.mem_of_getElem? found, old'⟩)
      · exact .inr replied
  · rcases h.mem_pending member with before | ⟨i, mac, dhcp, k, found⟩ |
      ⟨order, mac, name, actor, visits, listed, rfl⟩
    · exact .inl (.inr ⟨e, before, due⟩)
    · exact .inl (.inl ⟨_, List.mem_of_getElem? found, List.mem_append_left _ due⟩)
    · exact .inr ⟨order, actor, visits, .expired listed due⟩

/-- A reading of continuations and messages as what they still owe, which the code of a task
only passes on: it takes on something new only from a granted request or a release. -/
structure Ledger (cfg : ServerConfig) (α : Type) where
  due : MacAddr → Cont → List α
  owed : Event → List α
  start : ∀ mac, due mac .gotExistingIp = [] ∧ due mac .gotConfirmation = [] ∧
    due mac .gotReleased = []
  flow : ∀ {mac dhcp now k reply x},
    reply = LeaseReply.unit ∨ k ≠ .gotConfirmation ∧ k ≠ .gotReleased →
    x ∈ (Task.proceed cfg mac dhcp now k reply).due (due mac) owed → x ∈ due mac k

variable (L : Ledger cfg α)

/-- Everything that is owed in a state. -/
def Ledger.all (s : State) : List α :=
  s.tasks.flatMap (fun task => task.pc.due (L.due task.mac) L.owed) ++ s.pending.flatMap L.owed

/-- The request that the lease actor handles next in `s` is granted. -/
structure Granted (cfg : ServerConfig) (s : State) (mac : MacAddr) (dhcp : Message)
    (confirmation : LeaseConfirmation) : Prop where
  next : ∃ caller, s.nextMail = some ⟨.validateAndConfirmRequest mac (requestedIp dhcp)
    cfg.serverIp cfg.net lanLeaseDuration (extractSanitizedHostname dhcp), caller⟩
  granted : (s.table.validateAndConfirm s.now mac (requestedIp dhcp) cfg.serverIp cfg.net
    lanLeaseDuration (extractSanitizedHostname dhcp)).2 = some confirmation

/-- What the lease actor's next command newly makes a task or the main loop owe. -/
inductive Ledger.Fresh (s : State) (order : IterOrder) : α → Prop
  | granted {mac : MacAddr} {dhcp : Message} {confirmation : LeaseConfirmation} {x : α} :
    Granted cfg s mac dhcp confirmation →
    x ∈ L.owed ⟨mac, s.now, .probeArpConflict confirmation.ip⟩ ++
      L.due mac (.probedGrant ⟨confirmation, s.now⟩) → Fresh s order x
  | refused {mac : MacAddr} {dhcp : Message} {x : α} :
    x ∈ L.owed ⟨mac, s.now, .sendNak mac dhcp.xid⟩ ++ L.due mac .finished → Fresh s order x
  | released {mac : MacAddr} {lease : ClientLease} {name : String} {x : α} :
    (∃ caller, s.nextMail = some ⟨.release mac, caller⟩) → s.table.get mac = some lease →
    lease.hostname = some name →
    x ∈ L.owed ⟨mac, s.now, .deregisterLocalHost name⟩ ++ L.due mac .finished → Fresh s order x
  | expired {mac : MacAddr} {name : String} {x : α} :
    (mac, name) ∈ s.table.expiredHostnames s.now order →
    x ∈ L.owed ⟨mac, 0, .deregisterLocalHost name⟩ → Fresh s order x

theorem Ledger.mem_all {x : α} :
    x ∈ L.all s ↔ (∃ task ∈ s.tasks, x ∈ task.pc.due (L.due task.mac) L.owed) ∨
      ∃ e ∈ s.pending, x ∈ L.owed e :=
  State.mem_owing

theorem Ledger.reply {k : Cont} {order : IterOrder} {x : α} (calls : Calls cfg mac dhcp cmd k)
    (next : s.nextMail = some ⟨cmd, caller⟩)
    (due : x ∈ (Task.proceed cfg mac dhcp s.now k
      (handleLeaseCommand s.now order s.table cmd).2).due (L.due mac) L.owed) :
    x ∈ L.due mac k ∨ L.Fresh s order x := by
  cases calls with
  | existing | candidate | checkCandidate | checkGrant => exact .inl (L.flow (.inr (by simp)) due)
  | validate =>
    simp only [handleLeaseCommand, Task.proceed, LeaseReply.asConfirmation] at due
    split at due
    · rename_i confirmation granted
      exact .inr (.granted ⟨⟨caller, next⟩, granted⟩ due)
    · exact .inr (.refused due)
  | release =>
    simp only [handleLeaseCommand, Task.proceed, LeaseReply.asReleasedHostname,
      LeaseTable.remove_snd, Option.bind_map] at due
    split at due
    · rename_i name released
      obtain ⟨lease, found, named⟩ := Option.bind_eq_some_iff.mp released
      exact .inr (.released ⟨caller, next⟩ found named due)
    · cases due

theorem Ledger.passesOn : PassesOn L.due L.owed cfg where
  start := L.start
  flow := L.flow (.inl rfl)

/-- What is owed after a step was owed before it, or the lease actor's reply has just
created it. -/
theorem Ledger.step (wf : Wf cfg s) (h : Step cfg s l t) {x : α} (owes : x ∈ L.all t) :
    x ∈ L.all s ∨ ∃ order, l = .actor order ∧ order.Visits s.table ∧ L.Fresh s order x := by
  rcases L.passesOn.step wf h owes with before | ⟨order, actor, visits, replied⟩
  · exact .inl before
  · cases replied with
    | reply next waiting calls due =>
      rcases L.reply calls next due with old | fresh
      · exact .inl (L.mem_all.mpr (.inl ⟨_, List.mem_of_getElem? waiting, old⟩))
      · exact .inr ⟨order, actor, visits, fresh⟩
    | expired listed due => exact .inr ⟨order, actor, visits, .expired listed due⟩

end

end TrimRouter.DhcpServer
