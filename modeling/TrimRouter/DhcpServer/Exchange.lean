import TrimRouter.DhcpServer.LeaseConflict
import TrimRouter.DhcpServer.WorkerFlow

/-!
# One REQUEST from its validation to its answer

The task of a DHCPREQUEST is followed through a run of the worker while everything else in the
worker goes on: other tasks, the main loop, the timers and the lease actor.  `granted_answer` says
which answer the task gives.  Once a request is granted, its task is in one of the phases of
`verify_arp_conflict` and `handle_dhcp_request` (`ProbePhase`).
-/

namespace TrimRouter.DhcpServer

open Run

variable {cfg : ServerConfig} {s t u : State} {l : Label} {ls : List Label} {i : Nat}
  {m : MacAddr} {dhcp : Message}

/-- The worker stays well formed along a run. -/
theorem Wf.exec (wf : Wf cfg s) (run : exec (step cfg) s ls = some t) : Wf cfg t :=
  exec_keeps (Wf cfg) (fun _ _ _ wf h => wf.keep (Step.of_step h)) wf run

/-! ## The moves of a task -/

/-- The lease actor's next step is a reply to task `i`. -/
def RepliesTo (s : State) (l : Label) (i : Nat) : Prop :=
  ∃ order cmd, l = .actor order ∧ s.nextMail = some ⟨cmd, .task i⟩

theorem getElem?_set_own {tasks : List Task} {task task' : Task}
    (found : tasks[i]? = some task) : (tasks.set i task')[i]? = some task' := by
  have inside : i < tasks.length := (List.getElem?_eq_some_iff.mp found).1
  rw [List.getElem?_set_self inside]

theorem Step.taskMove (wf : Wf cfg s) (h : Step cfg s l t) {task : Task}
    (found : s.tasks[i]? = some task) :
    (t.tasks[i]? = some task ∧ ¬ RepliesTo s l i) ∨
      ∃ pc, t.tasks[i]? = some ⟨task.mac, task.dhcp, pc⟩ ∧ TaskMove cfg s l i task pc := by
  by_cases replies : RepliesTo s l i
  · obtain ⟨order, cmd, rfl, next⟩ := replies
    obtain ⟨k, waits, -⟩ := wf.waiting next found
    obtain ⟨visits, mailbox, rfl⟩ := h.of_actor next
    obtain ⟨mac, dhcp, pc⟩ := task
    subst waits
    refine .inr ⟨_, ?_, .replied rfl visits next rfl⟩
    simp only [deliver, found]
    exact getElem?_set_own found
  · rcases h.tasks_eq with same | ⟨started, appended, -⟩ | ⟨j, old, pc, there, move, moved⟩
    · exact .inl ⟨by rw [same, found], replies⟩
    · have inside : i < s.tasks.length := (List.getElem?_eq_some_iff.mp found).1
      exact .inl ⟨by rw [appended, List.getElem?_append_left inside, found], replies⟩
    · by_cases own : j = i
      · subst own
        cases found.symm.trans there
        exact .inr ⟨pc, by rw [moved]; exact getElem?_set_own found, move⟩
      · exact .inl ⟨by rw [moved, List.getElem?_set_ne own, found], replies⟩

/-! ## The phases of a granted request -/

/-- The answer to its client that a task is about to queue. -/
def TaskPc.answer : TaskPc → Option WorkerMsg
  | .emit ⟨_, _, .sendAck clientMac xid leasedIp broadcast⟩ _ =>
    some (.sendAck clientMac xid leasedIp broadcast)
  | .emit ⟨_, _, .sendNak clientMac xid⟩ _ => some (.sendNak clientMac xid)
  | _ => none

/-- The answer that task `i` is about to queue. -/
def State.answer (s : State) (i : Nat) : Option WorkerMsg :=
  s.tasks[i]?.bind fun task => task.pc.answer

/-- The lease actor's next reply tells task `i` that another client holds the address. -/
def FindsOther (i : Nat) (mac : MacAddr) (ip : Ipv4Addr) (s : State) (l : Label) : Prop :=
  ∃ order holder, l = .actor order ∧ s.nextMail = some ⟨.checkConflict ip mac, .task i⟩ ∧
    s.table.getMacByIp s.now order ip = some holder ∧ holder ≠ mac

/-- The awaits of a granted request, with whether its check has found another client on the
address. -/
inductive ProbePhase (mac : MacAddr) (dhcp : Message) (grant : Grant) : Bool → TaskPc → Prop
  | probe {since : Nat} : ProbePhase mac dhcp grant false
    (.emit ⟨mac, since, .probeArpConflict grant.confirmation.ip⟩ (.probedGrant grant))
  | wait {wake : Nat} : ProbePhase mac dhcp grant false (.sleep wake (.waitedGrant grant))
  | ask : ProbePhase mac dhcp grant false
    (.call (.checkConflict grant.confirmation.ip mac) (.checkedGrant grant))
  | asked : ProbePhase mac dhcp grant false (.reply (.checkedGrant grant))
  | hold : ProbePhase mac dhcp grant true
    (.cast (.recordConflict grant.confirmation.ip conflictHoldDuration) .recordedGrant)
  | refuse {since : Nat} : ProbePhase mac dhcp grant true
    (.emit ⟨mac, since, .sendNak mac dhcp.xid⟩ .finished)
  | acknowledge : ProbePhase mac dhcp grant false
    (.emit ⟨mac, grant.since, .sendAck mac dhcp.xid grant.confirmation.ip dhcp.broadcast⟩
      (.sentAck grant))
  | deregister {since : Nat} {old : String} : ProbePhase mac dhcp grant false
    (.emit ⟨mac, since, .deregisterLocalHost old⟩ (.sentDeregister grant))
  | register {since : Nat} {name : String} {ip : Ipv4Addr} : ProbePhase mac dhcp grant false
    (.emit ⟨mac, since, .registerLocalHost name ip⟩ .finished)
  | done {found : Bool} : ProbePhase mac dhcp grant found .done

variable {grant : Grant} {found : Bool}

/-- The answer of a granted request tells whether its check has found another client. -/
theorem ProbePhase.answer_eq {pc : TaskPc} {msg : WorkerMsg}
    (phase : ProbePhase m dhcp grant found pc) (answers : pc.answer = some msg) :
    msg = if found then .sendNak m dhcp.xid
      else .sendAck m dhcp.xid grant.confirmation.ip dhcp.broadcast := by
  cases phase with
  | refuse | acknowledge =>
    cases answers
    rfl
  | _ => cases answers

/-- The send or sleep that ends a phase leads to the next phase. -/
theorem ProbePhase.resumed {now : Nat} {pc : TaskPc} {k : Cont}
    (phase : ProbePhase m dhcp grant found pc) (goesOn : pc.resume = some k) :
    ProbePhase m dhcp grant found (Task.proceed cfg m dhcp now k .unit) := by
  have registers : ProbePhase m dhcp grant false (Task.register m now grant) := by
    unfold Task.register
    split
    · exact .register
    · exact .done
  cases phase with
  | probe =>
    cases goesOn
    exact .wait
  | wait =>
    cases goesOn
    exact .ask
  | hold =>
    cases goesOn
    exact .refuse
  | refuse | register =>
    cases goesOn
    exact .done
  | acknowledge =>
    cases goesOn
    simp only [Task.proceed]
    split
    · exact .deregister
    · exact registers
  | deregister =>
    cases goesOn
    exact registers
  | _ => cases goesOn

/-- Only the check of the request itself finds another client for it. -/
theorem FindsOther.repliesTo {ip : Ipv4Addr} (finds : FindsOther i m ip s l) :
    RepliesTo s l i := by
  obtain ⟨order, holder, actor, next, -⟩ := finds
  exact ⟨order, _, actor, next⟩

open Classical in
theorem proceed_checkedGrant {now : Nat} {order : IterOrder} {table : LeaseTable} :
    Task.proceed cfg m dhcp now (.checkedGrant grant)
        (handleLeaseCommand now order table (.checkConflict grant.confirmation.ip m)).2 =
      if ∃ holder, table.getMacByIp now order grant.confirmation.ip = some holder ∧ holder ≠ m then
        .cast (.recordConflict grant.confirmation.ip conflictHoldDuration) .recordedGrant
      else
        .emit ⟨m, grant.since, .sendAck m dhcp.xid grant.confirmation.ip dhcp.broadcast⟩
          (.sentAck grant) := by
  have conflict : (handleLeaseCommand now order table
      (.checkConflict grant.confirmation.ip m)).2.asConflict = true ↔
      ∃ holder, table.getMacByIp now order grant.confirmation.ip = some holder ∧ holder ≠ m := by
    rw [← checkConflict_eq]
    simp [handleLeaseCommand, LeaseReply.asConflict]
  simp only [Task.proceed, conflict]

theorem ProbePhase.next {pc : TaskPc} (wf : Wf cfg s) (h : Step cfg s l t)
    (there : s.tasks[i]? = some ⟨m, dhcp, pc⟩) (phase : ProbePhase m dhcp grant found pc) :
    ∃ found' pc', t.tasks[i]? = some ⟨m, dhcp, pc'⟩ ∧ ProbePhase m dhcp grant found' pc' ∧
      (found' = true ↔ found = true ∨ FindsOther i m grant.confirmation.ip s l) := by
  have notActor : ∀ {j : Nat}, l = .task j → ¬ FindsOther i m grant.confirmation.ip s l := by
    rintro j rfl ⟨order, holder, actor, -⟩
    cases actor
  rcases h.taskMove wf there with ⟨stays, silent⟩ | ⟨pc', goes, move⟩
  · have passive : ¬ FindsOther i m grant.confirmation.ip s l := fun finds =>
      silent finds.repliesTo
    exact ⟨found, pc, stays, phase, by simp [passive]⟩
  · cases move with
    | called own atCall =>
      have passive := notActor own
      cases phase with
      | ask =>
        cases atCall
        exact ⟨false, _, goes, .asked, by simp [passive]⟩
      | _ => cases atCall
    | resumed own goesOn =>
      exact ⟨found, _, goes, phase.resumed goesOn, by simp [notActor own]⟩
    | @replied order cmd k actor visits next atReply =>
      cases phase with
      | asked =>
        obtain ⟨k', same, calls⟩ := wf.waiting next there
        cases same
        cases atReply
        cases calls
        subst actor
        by_cases conflict : ∃ holder,
            s.table.getMacByIp s.now order grant.confirmation.ip = some holder ∧ holder ≠ m
        · obtain ⟨holder, first, different⟩ := conflict
          refine ⟨true, _, goes, ?_, ?_⟩
          · rw [proceed_checkedGrant, if_pos ⟨holder, first, different⟩]
            exact .hold
          · simp only [Bool.false_eq_true, false_or, true_iff]
            exact ⟨order, holder, rfl, next, first, different⟩
        · have clear : ¬ FindsOther i m grant.confirmation.ip s (.actor order) := by
            rintro ⟨order', holder, same, -, first, different⟩
            cases same
            exact conflict ⟨holder, first, different⟩
          refine ⟨false, _, goes, ?_, by simp [clear]⟩
          rw [proceed_checkedGrant, if_neg conflict]
          exact .acknowledge
      | _ => cases atReply

/-- Along every run, the phase of a granted request tells whether a check of its task has
found another client on the address. -/
theorem ProbePhase.after {pc : TaskPc} (wf : Wf cfg s) (there : s.tasks[i]? = some ⟨m, dhcp, pc⟩)
    (phase : ProbePhase m dhcp grant found pc) (run : exec (step cfg) s ls = some t) :
    ∃ found' pc', t.tasks[i]? = some ⟨m, dhcp, pc'⟩ ∧ ProbePhase m dhcp grant found' pc' ∧
      (found' = false ↔ found = false ∧
        Meets (step cfg) (fun s l => ¬ FindsOther i m grant.confirmation.ip s l) s ls) := by
  induction ls generalizing s found pc with
  | nil =>
    cases run
    exact ⟨found, pc, there, phase, by simp⟩
  | cons l ls ih =>
    obtain ⟨r, first, rest⟩ := exec_cons_eq_some.mp run
    obtain ⟨found', pc', there', phase', finds⟩ := phase.next wf (.of_step first) there
    obtain ⟨found'', pc'', there'', phase'', meets⟩ :=
      ih (wf.keep (.of_step first)) there' phase' rest
    refine ⟨found'', pc'', there'', phase'', meets.trans ?_⟩
    rw [meets_cons, first]
    simp only [Option.mem_def, Option.some.injEq, forall_eq']
    have earlier : found' = false ↔ found = false ∧ ¬ FindsOther i m grant.confirmation.ip s l := by
      rw [← Bool.not_eq_true, finds, not_or, Bool.not_eq_true]
    rw [earlier, and_assoc]

/-! ## The answer of a request -/

/-- What `validate_and_confirm` answers to the request at the instant of the state. -/
def State.confirmation (cfg : ServerConfig) (s : State) (mac : MacAddr) (dhcp : Message) :
    Option LeaseConfirmation :=
  (s.table.validateAndConfirm s.now mac (requestedIp dhcp) cfg.serverIp cfg.net
    lanLeaseDuration (extractSanitizedHostname dhcp)).2

/-- In `s` task `i` waits for the validation of its request, which the lease actor handles
next; `u` is the worker after that. -/
structure Validates (cfg : ServerConfig) (s : State) (i : Nat) (mac : MacAddr) (dhcp : Message)
    (u : State) : Prop where
  wf : Wf cfg s
  waiting : s.tasks[i]? = some ⟨mac, dhcp, .reply .gotConfirmation⟩
  next : ∃ cmd, s.nextMail = some ⟨cmd, .task i⟩
  handled : ∃ order, step cfg s (.actor order) = some u

namespace Validates

section

variable (asked : Validates cfg s i m dhcp u)

include asked

theorem stepped : ∃ order, Step cfg s (.actor order) u := by
  obtain ⟨order, handled⟩ := asked.handled
  exact ⟨order, .of_step handled⟩

theorem wf_after : Wf cfg u := by
  obtain ⟨order, handled⟩ := asked.stepped
  exact asked.wf.keep handled

theorem mail :
    s.nextMail = some ⟨.validateAndConfirmRequest m (requestedIp dhcp) cfg.serverIp cfg.net
      lanLeaseDuration (extractSanitizedHostname dhcp), .task i⟩ := by
  obtain ⟨cmd, next⟩ := asked.next
  obtain ⟨k, atReply, calls⟩ := asked.wf.waiting next asked.waiting
  cases atReply
  cases calls
  exact next

theorem task :
    u.tasks[i]? = some ⟨m, dhcp, Task.proceed cfg m dhcp s.now .gotConfirmation
      (.confirmation (s.confirmation cfg m dhcp))⟩ := by
  obtain ⟨order, handled⟩ := asked.stepped
  rcases handled.taskMove asked.wf asked.waiting with ⟨-, silent⟩ | ⟨pc, goes, move⟩
  · exact absurd ⟨order, _, rfl, asked.mail⟩ silent
  · cases move with
    | called own | resumed own => cases own
    | @replied order' cmd k actor visits next atReply =>
      cases actor
      cases atReply
      cases asked.mail.symm.trans next
      exact goes

/-- The entries after the validation: a granted request has stored the client's. -/
theorem get (mac : MacAddr) :
    u.table.get mac = match s.confirmation cfg m dhcp with
      | some conf =>
        if mac = m then some ⟨conf.ip, s.now + lanLeaseDuration, conf.hostname⟩
        else s.table.get mac
      | none => s.table.get mac := by
  obtain ⟨order, handled⟩ := asked.stepped
  rw [handled.table_of_actor asked.mail, LeaseCommand.get_handleLeaseCommand]
  simp only [LeaseCommand.written, LeaseCommand.kept]
  unfold State.confirmation
  cases (s.table.validateAndConfirm s.now m (requestedIp dhcp) cfg.serverIp cfg.net
    lanLeaseDuration (extractSanitizedHostname dhcp)).2 <;> rfl

end

end Validates

/-- A granted request is acknowledged exactly when its check finds no other client on the
address, and is answered by a NAK otherwise. -/
theorem granted_answer {msg : WorkerMsg} {conf : LeaseConfirmation}
    (asked : Validates cfg s i m dhcp u) (granted : s.confirmation cfg m dhcp = some conf)
    (run : exec (step cfg) u ls = some t) (answers : t.answer i = some msg) :
    (Meets (step cfg) (fun s l => ¬ FindsOther i m conf.ip s l) u ls ∧
        msg = .sendAck m dhcp.xid conf.ip dhcp.broadcast) ∨
      (¬ Meets (step cfg) (fun s l => ¬ FindsOther i m conf.ip s l) u ls ∧
        msg = .sendNak m dhcp.xid) := by
  have there := asked.task
  rw [granted] at there
  have probing : ProbePhase m dhcp ⟨conf, s.now⟩ false
      (.emit ⟨m, s.now, .probeArpConflict conf.ip⟩ (.probedGrant ⟨conf, s.now⟩)) := .probe
  obtain ⟨found, pc, there', phase, clear⟩ := probing.after asked.wf_after there run
  simp only [State.answer, there', Option.bind_some] at answers
  have answer := phase.answer_eq answers
  cases found with
  | false => exact .inl ⟨(clear.mp rfl).2, answer⟩
  | true =>
    refine .inr ⟨fun meets => ?_, answer⟩
    cases clear.mpr ⟨rfl, meets⟩

/-! ## A worker with nothing else to do answers -/

theorem exists_step_emit (cfg : ServerConfig) {e : Event} {k : Cont}
    (there : s.tasks[i]? = some ⟨m, dhcp, .emit e k⟩) (room : s.events.items.length < 32) :
    ∃ t, step cfg s (.task i) = some t ∧ t.mailbox = s.mailbox ∧ t.now = s.now ∧
      t.tasks[i]? = some ⟨m, dhcp, Task.proceed cfg m dhcp s.now k .unit⟩ := by
  have pushes : (s.events.push e).isSome = true := Fifo.isSome_push.mpr room
  obtain ⟨events, pushed⟩ := Option.isSome_iff_exists.mp pushes
  refine ⟨{ s with
    events, tasks := s.tasks.set i ⟨m, dhcp, Task.proceed cfg m dhcp s.now k .unit⟩ }, ?_, rfl, rfl,
    getElem?_set_own there⟩
  simp [step, runTask, there, pushed]

theorem exists_step_wake (cfg : ServerConfig) {wake : Nat} {k : Cont}
    (there : s.tasks[i]? = some ⟨m, dhcp, .sleep wake k⟩) (awake : wake ≤ s.now) :
    ∃ t, step cfg s (.task i) = some t ∧ t.mailbox = s.mailbox ∧
      t.tasks[i]? = some ⟨m, dhcp, Task.proceed cfg m dhcp s.now k .unit⟩ := by
  refine ⟨{ s with tasks := s.tasks.set i ⟨m, dhcp, Task.proceed cfg m dhcp s.now k .unit⟩ }, ?_,
    rfl, getElem?_set_own there⟩
  simp [step, runTask, there, awake]

theorem exists_step_call (cfg : ServerConfig) {cmd : LeaseCommand} {k : Cont}
    (there : s.tasks[i]? = some ⟨m, dhcp, .call cmd k⟩) (empty : s.mailbox.items = []) :
    ∃ t, step cfg s (.task i) = some t ∧ t.nextMail = some ⟨cmd, .task i⟩ ∧
      t.tasks[i]? = some ⟨m, dhcp, .reply k⟩ := by
  have pushes : (s.mailbox.push ⟨cmd, .task i⟩).isSome = true :=
    Fifo.isSome_push.mpr (by simp [empty])
  obtain ⟨mailbox, pushed⟩ := Option.isSome_iff_exists.mp pushes
  have items : mailbox.items = ⟨cmd, .task i⟩ :: (Fifo.empty : Fifo Mail 64).items := by
    rw [(Fifo.push_eq_some.mp pushed).2, empty]
    rfl
  refine ⟨{ s with mailbox, tasks := s.tasks.set i ⟨m, dhcp, .reply k⟩ }, ?_,
    State.nextMail_of_items items, getElem?_set_own there⟩
  simp [step, runTask, there, State.post, pushed]

theorem exists_step_actor (cfg : ServerConfig) {mail : Mail} (next : s.nextMail = some mail) :
    ∃ order t, step cfg s (.actor order) = some t := by
  obtain ⟨⟨_, mailbox⟩, popped, rfl⟩ := Option.map_eq_some_iff.mp next
  have visits : IterOrder.Visits ⟨s.table.byMac.keys, s.table.staticLeases.keys⟩ s.table :=
    ⟨List.Perm.refl _, List.Perm.refl _⟩
  refine ⟨⟨s.table.byMac.keys, s.table.staticLeases.keys⟩, Option.isSome_iff_exists.mp ?_⟩
  simp [step, runActor, popped, visits]

/-- From its validation a granted request gets to its check without the help of anybody else,
when the lease actor's channel is empty and the event channel is not full. -/
theorem Validates.check_reached {conf : LeaseConfirmation} (asked : Validates cfg s i m dhcp u)
    (granted : s.confirmation cfg m dhcp = some conf) (empty : u.mailbox.items = [])
    (room : u.events.items.length < 32) :
    ∃ v, exec (step cfg) u [.task i, .advance arpResolutionDelay, .task i, .task i] = some v ∧
      v.nextMail = some ⟨.checkConflict conf.ip m, .task i⟩ ∧
      v.tasks[i]? = some ⟨m, dhcp, .reply (.checkedGrant ⟨conf, s.now⟩)⟩ := by
  have there := asked.task
  rw [granted] at there
  obtain ⟨a, probes, sameMail, sameNow, sleeps⟩ := exists_step_emit cfg there room
  have later : ({ a with now := a.now + arpResolutionDelay } : State).tasks[i]? =
      some ⟨m, dhcp, .sleep (u.now + arpResolutionDelay) (.waitedGrant ⟨conf, s.now⟩)⟩ := sleeps
  obtain ⟨b, wakes, sameMail', calls⟩ := exists_step_wake cfg later (by simp [sameNow])
  obtain ⟨v, posts, next, waits⟩ := exists_step_call cfg calls (by rw [sameMail', sameMail, empty])
  refine ⟨v, ?_, next, waits⟩
  simp only [exec_cons, probes, Option.bind_some]
  simp only [step] at wakes posts ⊢
  simp [wakes, posts]

end TrimRouter.DhcpServer
