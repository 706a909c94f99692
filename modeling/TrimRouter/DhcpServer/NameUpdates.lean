import TrimRouter.DhcpServer.ClientView
import TrimRouter.Lan.Manager

/-!
# Updates of the local names

The worker tells the DNS forwarder about names with `RegisterLocalHost` and
`DeregisterLocalHost`.  `updateLedger` accounts for the updates that have been decided, by
the lease actor's reply, and not yet sent.
-/

namespace TrimRouter.DhcpServer

open Lan

variable {cfg : ServerConfig} {s t : State} {l : Label} {m : MacAddr}
  {x : MacAddr × LocalHostEvent}

/-- The registration that a granted request leads to. -/
def LeaseConfirmation.registration (confirmation : LeaseConfirmation) : List LocalHostEvent :=
  confirmation.hostname.toList.map fun name => .register name confirmation.ip

/-- The deregistration that a granted request leads to. -/
def LeaseConfirmation.deregistration (confirmation : LeaseConfirmation) : List LocalHostEvent :=
  confirmation.oldHostnameToDeregister.toList.map .deregister

theorem mem_registration {confirmation : LeaseConfirmation} {name : String} {ip : Ipv4Addr} :
    .register name ip ∈ confirmation.registration ++ confirmation.deregistration ↔
      confirmation.hostname = some name ∧ confirmation.ip = ip := by
  simp [LeaseConfirmation.registration, LeaseConfirmation.deregistration]

theorem mem_deregistration {confirmation : LeaseConfirmation} {name : String} :
    .deregister name ∈ confirmation.registration ++ confirmation.deregistration ↔
      confirmation.oldHostnameToDeregister = some name := by
  simp [LeaseConfirmation.registration, LeaseConfirmation.deregistration]

/-- What a task still has to tell the DNS, with its client. -/
def updatesDue (mac : MacAddr) : Cont → List (MacAddr × LocalHostEvent)
  | .probedGrant grant | .waitedGrant grant | .checkedGrant grant | .sentAck grant =>
    (grant.confirmation.registration ++ grant.confirmation.deregistration).map (mac, ·)
  | .sentDeregister grant => grant.confirmation.registration.map (mac, ·)
  | _ => []

/-- The update that a message carries. -/
def Event.update (e : Event) : Option LocalHostEvent :=
  match e.msg with
  | .registerLocalHost name ip => some (.register name ip)
  | .deregisterLocalHost name => some (.deregister name)
  | _ => none

/-- The update that a message carries, with the client it is about. -/
def updatesOwed (e : Event) : List (MacAddr × LocalHostEvent) :=
  e.update.toList.map (e.client, ·)

/-- The last message of a granted request is its registration. -/
theorem due_register {mac : MacAddr} {now : Nat} {grant : Grant} :
    (Task.register mac now grant).due (updatesDue mac) updatesOwed =
      grant.confirmation.registration.map (mac, ·) := by
  unfold Task.register LeaseConfirmation.registration
  split
  · rename_i name named
    rw [named]
    rfl
  · rename_i unnamed
    rw [unnamed]
    rfl

/-- The updates that a task owes after an await are those it owed before, except that a grant
or a release brings some and a conflict drops them. -/
theorem due_proceed {mac : MacAddr} {dhcp : Message} {now : Nat} {k : Cont} {reply : LeaseReply}
    (passive : reply = .unit ∨ k ≠ .gotConfirmation ∧ k ≠ .gotReleased) :
    x ∈ (Task.proceed cfg mac dhcp now k reply).due (updatesDue mac) updatesOwed ↔
      x ∈ updatesDue mac k ∧ ((∃ grant, k = .checkedGrant grant) → reply.asConflict = false) := by
  cases k with
  | gotExistingIp =>
    simp only [Task.proceed]
    split <;> simp [Task.confirm, Task.allocate, TaskPc.due, updatesDue]
  | gotCandidate =>
    simp only [Task.proceed]
    split <;> simp [TaskPc.due, updatesDue, updatesOwed, Event.update]
  | checkedCandidate ip =>
    simp only [Task.proceed]
    split <;> simp [Task.confirm, TaskPc.due, updatesDue]
  | gotConfirmation =>
    rcases passive with rfl | ⟨different, -⟩
    · simp [Task.proceed, LeaseReply.asConfirmation, TaskPc.due, updatesDue, updatesOwed,
        Event.update]
    · exact absurd rfl different
  | checkedGrant grant =>
    simp only [Task.proceed]
    split
    · rename_i conflict
      simp [conflict, TaskPc.due, updatesDue]
    · rename_i free
      simp [free, TaskPc.due, updatesDue, updatesOwed, Event.update]
  | sentAck grant =>
    simp only [Task.proceed]
    split
    · rename_i old replaced
      simp [TaskPc.due, updatesDue, updatesOwed, Event.update, LeaseConfirmation.deregistration,
        replaced, or_comm]
    · rename_i kept
      rw [due_register]
      simp [updatesDue, LeaseConfirmation.deregistration, kept]
  | sentDeregister grant =>
    simp only [Task.proceed]
    rw [due_register]
    simp [updatesDue]
  | gotReleased =>
    rcases passive with rfl | ⟨-, different⟩
    · simp [Task.proceed, LeaseReply.asReleasedHostname, TaskPc.due, updatesDue]
    · exact absurd rfl different
  | _ => simp [Task.proceed, Task.allocate, TaskPc.due, updatesDue, updatesOwed, Event.update]

/-- The updates under way. -/
def updateLedger (cfg : ServerConfig) : Ledger cfg (MacAddr × LocalHostEvent) where
  due := updatesDue
  owed := updatesOwed
  start _ := ⟨rfl, rfl, rfl⟩
  flow passive due := ((due_proceed passive).mp due).1

/-- What the lease actor newly decides. -/
inductive Decided (cfg : ServerConfig) (s : State) (order : IterOrder) :
    MacAddr × LocalHostEvent → Prop
  | granted {mac : MacAddr} {dhcp : Message} {confirmation : LeaseConfirmation}
      {update : LocalHostEvent} :
    Granted cfg s mac dhcp confirmation →
    update ∈ confirmation.registration ++ confirmation.deregistration →
    Decided cfg s order (mac, update)
  | released {mac : MacAddr} {lease : ClientLease} {name : String} :
    s.table.get mac = some lease → lease.hostname = some name →
    Decided cfg s order (mac, .deregister name)
  | expired {mac : MacAddr} {name : String} :
    (mac, name) ∈ s.table.expiredHostnames s.now order →
    Decided cfg s order (mac, .deregister name)

theorem updateLedger_fresh {order : IterOrder} (fresh : (updateLedger cfg).Fresh s order x) :
    Decided cfg s order x := by
  cases fresh with
  | granted grants due =>
    rcases List.mem_append.mp due with probe | later
    · cases probe
    · obtain ⟨update, listed, rfl⟩ := List.mem_map.mp later
      exact .granted grants listed
  | refused due =>
    rcases List.mem_append.mp due with nak | later
    · cases nak
    · cases later
  | released next found named due =>
    rcases List.mem_append.mp due with deregister | later
    · cases List.mem_singleton.mp deregister
      exact .released found named
    · cases later
  | expired listed due =>
    cases List.mem_singleton.mp due
    exact .expired listed

/-! ## The clients' views -/

theorem owns_step {s t : Tracked} {name : String} (h : s.step cfg l = some t)
    (owned : (t.view m).owns t.worker.now name = true) :
    (s.view m).owns s.worker.now name = true ∨
      ∃ ip, (m, .register name ip) ∈ (updateLedger cfg).all s.worker := by
  have earlier := (Tracked.step_eq_some h).1.now_le
  rw [Tracked.view_step h] at owned
  cases seen : notice s.worker l with
  | none =>
    rw [seen] at owned
    exact .inl (ClientView.owns_of_le owned earlier)
  | some note =>
    rw [seen] at owned
    cases note with
    | acked mac ip =>
      simp only at owned
      split at owned
      · -- the acknowledgement keeps the name of a lease that had not run out
        simp only [ClientView.owns, ClientView.acked, Bool.and_eq_true, beq_iff_eq] at owned
        obtain ⟨-, named⟩ := owned
        split at named
        · rename_i live
          exact .inl (by simp [ClientView.owns, live, named])
        · cases named
      · exact .inl (ClientView.owns_of_le owned earlier)
    | named mac name' =>
      simp only at owned
      split at owned
      · rename_i same
        have registered : name' = name := by
          simp only [ClientView.owns, ClientView.named, Bool.and_eq_true, beq_iff_eq,
            Option.some.injEq] at owned
          exact owned.2
        subst same registered
        rcases notice_eq_some seen with ⟨-, e, due, -, told⟩ | ⟨_, _, _, _, _, released⟩
        · obtain ⟨client, since, msg⟩ := e
          cases msg with
          | registerLocalHost name ip =>
            cases told
            refine .inr ⟨ip, (updateLedger cfg).mem_all.mpr (.inr ⟨_, due, ?_⟩)⟩
            exact List.mem_singleton.mpr rfl
          | _ => cases told
        · cases released
      · exact .inl (ClientView.owns_of_le owned earlier)
    | released mac =>
      simp only at owned
      split at owned
      · cases owned
      · exact .inl (ClientView.owns_of_le owned earlier)

/-! ## Updates stay under way until they are sent -/

/-- The granted request whose probe finds another client on its address when the lease actor
handles `mail`. -/
def State.conflicting (s : State) (order : IterOrder) (mail : Mail) : Option (MacAddr × Grant) :=
  match mail.cmd, mail.caller with
  | .checkConflict ip mac, .task i =>
    match s.tasks[i]? with
    | some ⟨client, _, .reply (.checkedGrant grant)⟩ =>
      if (s.table.getMacByIp s.now order ip).any (· != mac) then some (client, grant) else none
    | _ => none
  | _, _ => none

theorem MainPc.pending_of_proceed {pc : MainPc} {expired : List (MacAddr × String)}
    {reply : LeaseReply} {e : Event} (due : e ∈ pc.pending) :
    e ∈ (pc.proceed expired reply).pending := by
  cases pc with
  | forward | deregister => cases reply <;> exact due
  | _ => cases due

/-- A message that the main loop is about to send is sent by its next move or stays. -/
theorem MainMove.pending_or_sent {pc : MainPc} {e : Event} (move : MainMove s.main pc)
    (due : e ∈ s.main.pending) : e ∈ pc.pending ∨ emitted s .main = some e := by
  simp only [emitted]
  generalize s.main = before at move due
  cases move with
  | forwarded =>
    cases List.mem_singleton.mp due
    exact .inr rfl
  | deregistered =>
    rcases List.mem_cons.mp due with rfl | later
    · exact .inr rfl
    · exact .inl later
  | _ => cases due

theorem MainPost.nothing_pending {pc pc' : MainPc} {mail : Mail} (post : MainPost pc mail pc') :
    pc.pending = [] := by
  cases post <;> rfl

/-- A task other than the one that is replaced stays in the list. -/
theorem mem_set_of_mem {tasks : List Task} {i : Nat} {old new task : Task}
    (found : tasks[i]? = some old) (member : task ∈ tasks) :
    task = old ∨ task ∈ tasks.set i new := by
  obtain ⟨j, at_j⟩ := List.mem_iff_getElem?.mp member
  by_cases same : i = j
  · subst same
    exact .inl (Option.some.inj (at_j.symm.trans found))
  · exact .inr (List.mem_iff_getElem?.mpr ⟨j, by rw [List.getElem?_set_ne same, at_j]⟩)

theorem owes_of_set {tasks : List Task} {i : Nat} {dhcp : Message} {pc pc' : TaskPc}
    (found : tasks[i]? = some ⟨m, dhcp, pc⟩)
    (passes : x ∈ pc.due (updatesDue m) updatesOwed → x ∈ pc'.due (updatesDue m) updatesOwed)
    (owes : ∃ task ∈ tasks, x ∈ task.pc.due (updatesDue task.mac) updatesOwed) :
    ∃ task ∈ tasks.set i ⟨m, dhcp, pc'⟩, x ∈ task.pc.due (updatesDue task.mac) updatesOwed := by
  obtain ⟨task, member, due⟩ := owes
  rcases mem_set_of_mem found member with rfl | stays
  · have inside : i < tasks.length := (List.getElem?_eq_some_iff.mp found).1
    exact ⟨_, List.mem_iff_getElem?.mpr ⟨i, List.getElem?_set_self inside⟩, passes due⟩
  · exact ⟨task, stays, due⟩

theorem due_of_resumed {dhcp : Message} {now : Nat} {k : Cont} (due : x ∈ updatesDue m k) :
    x ∈ (Task.proceed cfg m dhcp now k .unit).due (updatesDue m) updatesOwed :=
  (due_proceed (.inl rfl)).mpr ⟨due, fun _ => rfl⟩

theorem mem_updates :
    x ∈ (updateLedger cfg).all s ↔
      (∃ task ∈ s.tasks, x ∈ task.pc.due (updatesDue task.mac) updatesOwed) ∨
        ∃ e ∈ s.pending, x ∈ updatesOwed e :=
  (updateLedger cfg).mem_all

/-- Where the reply of the lease actor leaves the updates: only a conflict drops them. -/
theorem updates_of_reply (order : IterOrder) {mail : Mail} {i : Nat} {dhcp : Message}
    {cmd : LeaseCommand} {k : Cont} (sends : mail = ⟨cmd, .task i⟩)
    (waiting : s.tasks[i]? = some ⟨m, dhcp, .reply k⟩) (calls : Calls cfg m dhcp cmd k)
    (due : x ∈ updatesDue m k) :
    x ∈ (Task.proceed cfg m dhcp s.now k
        (handleLeaseCommand s.now order s.table cmd).2).due (updatesDue m) updatesOwed ∨
      ∃ grant, s.conflicting order mail = some (m, grant) ∧
        x ∈ updatesDue m (.checkedGrant grant) := by
  cases calls with
  | @checkGrant grant =>
    by_cases conflict : (s.table.getMacByIp s.now order grant.confirmation.ip).any (· != m) = true
    · exact .inr ⟨grant, by simp [State.conflicting, sends, waiting, conflict], due⟩
    · refine .inl ((due_proceed (.inr (by simp))).mpr ⟨due, fun _ => ?_⟩)
      simpa [handleLeaseCommand, LeaseReply.asConflict] using conflict
  | _ => cases due

/-- A message for the parent stays queued until it is sent. -/
theorem Step.pending_or_sent {e : Event} (h : Step cfg s l t) (pending : e ∈ s.pending) :
    e ∈ t.pending ∨ emitted s l = some e := by
  cases h with
  | branch idle branch =>
    left
    simp only [State.pending, idle, MainPc.pending, List.append_nil] at pending
    exact List.mem_append_left _ pending
  | takeEvent idle popped =>
    left
    simp only [State.pending, idle, popped, MainPc.pending, List.append_nil,
      List.mem_cons] at pending
    simp only [State.pending, MainPc.pending, List.mem_append, List.mem_singleton]
    exact pending.symm
  | mainMove move =>
    rcases List.mem_append.mp pending with queued | last
    · exact .inl (List.mem_append_left _ queued)
    · exact (move.pending_or_sent last).imp_left (List.mem_append_right _)
  | mainPost post pushed =>
    left
    simp only [State.pending, post.nothing_pending, List.append_nil] at pending
    exact List.mem_append_left _ pending
  | emit found pushed =>
    left
    simp only [State.pending, pushed, List.mem_append] at pending ⊢
    exact pending.imp_left .inl
  | @actor order mail mailbox popped visits =>
    left
    cases caller : mail.caller with
    | nobody => exact pending
    | main =>
      rcases List.mem_append.mp pending with queued | last
      · exact List.mem_append_left _ queued
      · exact List.mem_append_right _ (MainPc.pending_of_proceed last)
    | task i =>
      simp only [deliver]
      split <;> exact pending
  | _ => exact .inl pending

theorem owes_persists (wf : Wf cfg s) (h : Step cfg s l t)
    (owes : ∃ task ∈ s.tasks, x ∈ task.pc.due (updatesDue task.mac) updatesOwed) :
    (∃ task ∈ t.tasks, x ∈ task.pc.due (updatesDue task.mac) updatesOwed) ∨
      (∃ e ∈ t.pending, x ∈ updatesOwed e) ∨
      ∃ order mail mac grant, l = .actor order ∧ s.nextMail = some mail ∧
        s.conflicting order mail = some (mac, grant) ∧
        x ∈ updatesDue mac (.checkedGrant grant) := by
  cases h with
  | packet idle =>
    obtain ⟨task, member, due⟩ := owes
    exact .inl ⟨task, List.mem_append_left _ member, due⟩
  | call found pushed => exact .inl (owes_of_set found id owes)
  | cast found | wake found => exact .inl (owes_of_set found due_of_resumed owes)
  | @emit i mac dhcp event k events found pushed =>
    by_cases queued : x ∈ updatesOwed event
    · refine .inr (.inl ⟨event, List.mem_append_left _ ?_, queued⟩)
      rw [pushed]
      exact List.mem_append_right _ (List.mem_singleton.mpr rfl)
    · refine .inl (owes_of_set found (fun due => ?_) owes)
      rcases List.mem_append.mp due with now | later
      · exact absurd now queued
      · exact due_of_resumed later
  | @actor order mail mailbox popped visits =>
    have next := State.nextMail_of_items popped
    cases caller : mail.caller with
    | nobody | main => exact .inl owes
    | task i =>
      obtain ⟨mac, dhcp, k, waiting, calls⟩ := wf.waits mail
        (by rw [popped]; exact List.mem_cons_self) i (by simp [Mail.task?, caller])
      have sends : mail = ⟨mail.cmd, .task i⟩ := by rw [← caller]
      simp only [deliver, waiting]
      obtain ⟨task, member, due⟩ := owes
      rcases mem_set_of_mem waiting member with rfl | stays
      · rcases updates_of_reply order sends waiting calls due with
          passed | ⟨grant, conflict, dropped⟩
        · have inside : i < s.tasks.length := (List.getElem?_eq_some_iff.mp waiting).1
          exact .inl ⟨_, List.mem_iff_getElem?.mpr ⟨i, List.getElem?_set_self inside⟩, passed⟩
        · exact .inr (.inr ⟨order, mail, mac, grant, rfl, next, conflict, dropped⟩)
      · exact .inl ⟨task, stays, due⟩
  | _ => exact .inl owes

/-- An update under way stays under way, is sent, or was owed by a granted request whose probe
finds a conflict. -/
theorem updateLedger_persists (wf : Wf cfg s) (h : Step cfg s l t)
    (due : x ∈ (updateLedger cfg).all s) :
    x ∈ (updateLedger cfg).all t ∨ (∃ e, emitted s l = some e ∧ x ∈ updatesOwed e) ∨
      ∃ order mail mac grant, l = .actor order ∧ s.nextMail = some mail ∧
        s.conflicting order mail = some (mac, grant) ∧
        x ∈ updatesDue mac (.checkedGrant grant) := by
  rw [mem_updates] at due ⊢
  rcases due with owes | ⟨e, pending, owed⟩
  · rcases owes_persists wf h owes with task | queued | dropped
    · exact .inl (.inl task)
    · exact .inl (.inr queued)
    · exact .inr (.inr dropped)
  · rcases h.pending_or_sent pending with stays | sent
    · exact .inl (.inr ⟨e, stays, owed⟩)
    · exact .inr (.inl ⟨e, sent, owed⟩)

end TrimRouter.DhcpServer
