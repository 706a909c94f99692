import TrimRouter.DhcpServer.ConflictHolds
import TrimRouter.Lib.Trace

/-!
# The probe loop

`probe_and_allocate_ip` takes a candidate from the pool, probes it, and starts over when the probe
finds another client on it.  The loop has no counter.  What ends it is the hold that each round
leaves on its candidate: the `RecordConflict` of a round is in the lease actor's channel before the
`AllocateCandidate` of the next one.  So every round probes an address that no earlier round has
probed (`Looping.keep`), and the loop ends (`probing_terminates`).
-/

namespace TrimRouter.DhcpServer

open Run

variable {cfg : ServerConfig} {s t : State} {l : Label} {i : Nat} {mac : MacAddr} {dhcp : Message}
  {ip : Ipv4Addr} {limit : Nat}

/-! ## Commands ahead of a task's own -/

/-- The commands that the lease actor handles before the one that task `i` waits for. -/
def ahead (i : Nat) (mails : List Mail) : List Mail :=
  mails.takeWhile fun mail => mail.task? != some i

theorem mem_ahead_append {mails new : List Mail} {mail : Mail} (member : mail ∈ ahead i mails) :
    mail ∈ ahead i (mails ++ new) := by
  unfold ahead at member ⊢
  rw [List.takeWhile_append]
  split
  · exact List.mem_append_left _ ((List.takeWhile_sublist _).subset member)
  · exact member

/-- When the task waits for no command, all commands are ahead of its next one. -/
theorem ahead_of_free {mails : List Mail} (free : i ∉ mails.filterMap Mail.task?) :
    ahead i mails = mails := by
  refine List.takeWhile_eq_self_iff.mpr fun mail member => ?_
  rw [bne_iff_ne]
  intro sender
  exact free (List.mem_filterMap.mpr ⟨mail, member, sender⟩)

/-- The address is on hold until `limit`, or will be before the task's next command. -/
def Settled (limit i : Nat) (s : State) (ip : Ipv4Addr) : Prop :=
  s.table.HoldsUntil limit ip ∨
    ∃ mail ∈ ahead i s.mailbox.items, mail.cmd = .recordConflict ip conflictHoldDuration

theorem Step.mailbox_eq (h : Step cfg s l t) :
    (∃ new, t.mailbox.items = s.mailbox.items ++ new) ∨
    ∃ order mail, l = .actor order ∧ s.mailbox.items = mail :: t.mailbox.items ∧
      t.table = (handleLeaseCommand s.now order s.table mail.cmd).1 := by
  cases h with
  | mainPost _ pushed | call _ pushed | cast _ pushed => exact .inl ⟨_, pushed⟩
  | actor popped visits =>
    exact .inr ⟨_, _, rfl, popped.trans (by rw [deliver_mailbox]), deliver_table⟩
  | _ => exact .inl ⟨[], (List.append_nil _).symm⟩

/-- Until the holds run out, what is settled stays settled. -/
theorem Settled.keep (settled : Settled limit i s ip) (h : Step cfg s l t) (full : FullHolds s)
    (before : s.now < limit) (recent : limit ≤ s.now + conflictHoldDuration) :
    Settled limit i t ip := by
  rcases settled with held | ⟨mail, member, records⟩
  · exact .inl (held.step h full before recent)
  · rcases h.mailbox_eq with ⟨new, appended⟩ | ⟨order, next, rfl, popped, handled⟩
    · refine .inr ⟨mail, ?_, records⟩
      rw [appended]
      exact mem_ahead_append member
    · rw [popped, ahead, List.takeWhile_cons] at member
      split at member
      · rcases List.mem_cons.mp member with rfl | later
        · refine .inl ⟨s.now + conflictHoldDuration, ?_, recent⟩
          rw [handled, records]
          exact HashMap.lookup_insert_eq.trans (if_pos rfl)
        · exact .inr ⟨mail, later, records⟩
      · cases member

/-- When the lease actor is about to reply to the task, all that is settled is on hold. -/
theorem Settled.held (settled : Settled limit i s ip) {cmd : LeaseCommand}
    (next : s.nextMail = some ⟨cmd, .task i⟩) : s.table.HoldsUntil limit ip := by
  rcases settled with held | ⟨mail, member, -⟩
  · exact held
  · obtain ⟨⟨first, mailbox⟩, popped, rfl⟩ := Option.map_eq_some_iff.mp next
    rw [Fifo.pop_eq_some.mp popped, ahead, List.takeWhile_cons] at member
    simp [Mail.task?] at member

/-! ## The rounds of a task -/

/-- The step moves task `i`. -/
def Label.moves (i : Nat) (s : State) : Label → Bool
  | .task j => j == i
  | .actor _ => s.nextMail.any fun mail => mail.caller == .task i
  | _ => false

theorem Step.moved (wf : Wf cfg s) (h : Step cfg s l t) {task : Task}
    (found : s.tasks[i]? = some task) (moves : l.moves i s = true) :
    ∃ pc, t.tasks[i]? = some ⟨task.mac, task.dhcp, pc⟩ ∧ TaskMove cfg s l i task pc := by
  rcases h.taskMove wf found with ⟨stays, silent⟩ | moved
  · -- the task's own step always moves it
    cases h with
    | branch idle branch => cases branch <;> cases moves
    | @actor order mail mailbox popped visits =>
      have next := State.nextMail_of_items popped
      obtain ⟨cmd, caller⟩ := mail
      simp only [Label.moves, next, Option.any_some, beq_iff_eq] at moves
      subst moves
      exact absurd ⟨order, cmd, rfl, next⟩ silent
    | call there pushed =>
      cases beq_iff_eq.mp moves
      cases found.symm.trans there
      exact ⟨_, getElem?_set_own found, .called rfl rfl⟩
    | cast there | emit there | wake there =>
      cases beq_iff_eq.mp moves
      cases found.symm.trans there
      exact ⟨_, getElem?_set_own found, .resumed rfl rfl⟩
    | _ => cases moves
  · exact moved

theorem Step.unmoved (wf : Wf cfg s) (h : Step cfg s l t) {task : Task}
    (found : s.tasks[i]? = some task) (moves : l.moves i s = false) :
    t.tasks[i]? = some task := by
  rcases h.taskMove wf found with ⟨stays, -⟩ | ⟨pc, -, move⟩
  · exact stays
  · cases move with
    | called own | resumed own => simp [own, Label.moves] at moves
    | replied actor visits next => simp [actor, Label.moves, next] at moves

/-- The awaits of the loop in `probe_and_allocate_ip`, with the candidate of the round. -/
inductive LoopPhase (cfg : ServerConfig) (mac : MacAddr) : Nat → Option Ipv4Addr → TaskPc → Prop
  | ask : LoopPhase cfg mac 0 none (Task.allocate cfg mac)
  | asked : LoopPhase cfg mac 1 none (.reply .gotCandidate)
  | probe {since : Nat} {ip : Ipv4Addr} : LoopPhase cfg mac 2 (some ip)
    (.emit ⟨mac, since, .probeArpConflict ip⟩ (.probedCandidate ip))
  | wait {wake : Nat} {ip : Ipv4Addr} : LoopPhase cfg mac 3 (some ip)
    (.sleep wake (.waitedCandidate ip))
  | check {ip : Ipv4Addr} : LoopPhase cfg mac 4 (some ip)
    (.call (.checkConflict ip mac) (.checkedCandidate ip))
  | checked {ip : Ipv4Addr} : LoopPhase cfg mac 5 (some ip) (.reply (.checkedCandidate ip))
  | record {ip : Ipv4Addr} : LoopPhase cfg mac 6 (some ip)
    (.cast (.recordConflict ip conflictHoldDuration) .recordedCandidate)

/-- The awaits at which the task goes on when `probe_and_allocate_ip` returns: it confirms the
address, or it ends without one. -/
inductive Returned (mac : MacAddr) (dhcp : Message) : TaskPc → Prop
  | found {ip : Ipv4Addr} : Returned mac dhcp (Task.confirm mac dhcp ip)
  | exhausted : Returned mac dhcp .done

/-- The awaits after the loop. -/
inductive AfterLoop (mac : MacAddr) (dhcp : Message) : TaskPc → Prop
  | returned {pc : TaskPc} : Returned mac dhcp pc → AfterLoop mac dhcp pc
  | offer {since : Nat} {ip : Ipv4Addr} : AfterLoop mac dhcp
    (.emit ⟨mac, since, .sendOffer mac dhcp.xid ip dhcp.broadcast⟩ .finished)

/-- The await is one of the loop. -/
def TaskPc.inLoop : TaskPc → Bool
  | .call _ .gotCandidate | .reply .gotCandidate | .emit _ (.probedCandidate _)
  | .sleep _ (.waitedCandidate _) | .call _ (.checkedCandidate _) | .reply (.checkedCandidate _)
  | .cast _ .recordedCandidate => true
  | _ => false

/-- The worker with a record of what task `i` has done in the loop: the addresses that it has
probed, latest first, its calls of `allocate_candidate` and its moves. -/
structure Probing where
  worker : State
  probed : List Ipv4Addr
  rounds : Nat
  moves : Nat

namespace Probing

/-- The task enters the loop. -/
def enter (s : State) : Probing := ⟨s, [], 0, 0⟩

/-- What a move from an await adds to the record. -/
def note (s : Probing) (pc : TaskPc) : Probing :=
  { s with
    probed := match pc with
      | .emit _ (.probedCandidate ip) => ip :: s.probed
      | _ => s.probed
    rounds := match pc with
      | .call _ .gotCandidate => s.rounds + 1
      | _ => s.rounds
    moves := if pc.inLoop then s.moves + 1 else s.moves }

/-- One step of the worker, recorded. -/
def step (cfg : ServerConfig) (i : Nat) (s : Probing) (l : Label) : Option Probing :=
  (DhcpServer.step cfg s.worker l).map fun t =>
    let noted := if l.moves i s.worker then
        (s.worker.tasks[i]?).elim s fun task => s.note task.pc
      else s
    { noted with worker := t }

end Probing

theorem Step.casted {cmd : LeaseCommand} {k : Cont} (h : Step cfg s (.task i) t)
    (found : s.tasks[i]? = some ⟨mac, dhcp, .cast cmd k⟩) :
    t.mailbox.items = s.mailbox.items ++ [⟨cmd, .nobody⟩] := by
  cases h with
  | branch idle branch => cases branch
  | call there | emit there | wake there => cases found.symm.trans there
  | cast there pushed =>
    cases found.symm.trans there
    exact pushed

/-- What a move does to the phase of the loop. -/
inductive PhaseMove (cfg : ServerConfig) (i : Nat) (mac : MacAddr) (s t : State) :
    Nat → Option Ipv4Addr → Nat → Option Ipv4Addr → Prop
  /-- the pool yields a candidate -/
  | candidate {cmd : LeaseCommand} {ip : Ipv4Addr} : s.nextMail = some ⟨cmd, .task i⟩ →
    (s.table.allocateCandidate s.now mac cfg.net cfg.serverIp).2 = some ip →
    PhaseMove cfg i mac s t 1 none 2 (some ip)
  /-- the round goes on -/
  | next {n : Nat} {cand : Option Ipv4Addr} : n ≠ 1 → n < 6 →
    PhaseMove cfg i mac s t n cand (n + 1) cand
  /-- the hold is in the channel and the next round starts -/
  | again {ip : Ipv4Addr} : ahead i t.mailbox.items = t.mailbox.items →
    ⟨.recordConflict ip conflictHoldDuration, .nobody⟩ ∈ t.mailbox.items →
    PhaseMove cfg i mac s t 6 (some ip) 0 none

variable {n : Nat} {cand : Option Ipv4Addr} {pc : TaskPc}

theorem LoopPhase.move {pc' : TaskPc} (wf : Wf cfg s)
    (h : Step cfg s l t) (found : s.tasks[i]? = some ⟨mac, dhcp, pc⟩)
    (phase : LoopPhase cfg mac n cand pc) (move : TaskMove cfg s l i ⟨mac, dhcp, pc⟩ pc') :
    Returned mac dhcp pc' ∨
      ∃ n' cand', LoopPhase cfg mac n' cand' pc' ∧ PhaseMove cfg i mac s t n cand n' cand' := by
  cases move with
  | called own atCall =>
    cases phase with
    | ask =>
      cases atCall
      exact .inr ⟨1, none, .asked, .next (by decide) (by decide)⟩
    | check =>
      cases atCall
      exact .inr ⟨5, _, .checked, .next (by decide) (by decide)⟩
    | _ => cases atCall
  | resumed own goesOn =>
    subst own
    cases phase with
    | probe =>
      cases goesOn
      exact .inr ⟨3, _, .wait, .next (by decide) (by decide)⟩
    | wait =>
      cases goesOn
      exact .inr ⟨4, _, .check, .next (by decide) (by decide)⟩
    | record =>
      cases goesOn
      have pushed := h.casted found
      have free := wf.waits.free found (by simp)
      refine .inr ⟨0, none, .ask, .again ?_ ?_⟩
      · refine ahead_of_free ?_
        rw [pushed, List.filterMap_append]
        simpa [Mail.task?] using free
      · rw [pushed]
        exact List.mem_append_right _ List.mem_cons_self
    | _ => cases goesOn
  | @replied order cmd k actor visits next atReply =>
    obtain ⟨k', same, calls⟩ := wf.waiting next found
    cases same
    cases phase with
    | asked =>
      cases atReply
      cases calls
      simp only [handleLeaseCommand, Task.proceed, LeaseReply.asIp]
      cases allocated : (s.table.allocateCandidate s.now mac cfg.net cfg.serverIp).2 with
      | none => exact .inl .exhausted
      | some ip => exact .inr ⟨2, some ip, .probe, .candidate next allocated⟩
    | checked =>
      cases atReply
      simp only [Task.proceed]
      split
      · exact .inr ⟨6, _, .record, .next (by decide) (by decide)⟩
      · exact .inl .found

theorem AfterLoop.move {pc' : TaskPc} (after : AfterLoop mac dhcp pc)
    (move : TaskMove cfg s l i ⟨mac, dhcp, pc⟩ pc') : AfterLoop mac dhcp pc' := by
  cases move with
  | called own atCall =>
    rcases after with ⟨⟨⟩ | ⟨⟩⟩ | ⟨⟩ <;> cases atCall
  | resumed own goesOn =>
    rcases after with ⟨⟨⟩ | ⟨⟩⟩ | ⟨⟩
    · cases goesOn
      exact .offer
    · cases goesOn
    · cases goesOn
      exact .returned .exhausted
  | replied actor visits next atReply =>
    rcases after with ⟨⟨⟩ | ⟨⟩⟩ | ⟨⟩ <;> cases atReply

/-! ## Every round probes another address -/

/-- The record of the loop: the probed addresses are different hosts, and they bound the rounds
and the moves. -/
structure Tally (cfg : ServerConfig) (s : Probing) : Prop where
  distinct : s.probed.Nodup
  hosts : ∀ ip ∈ s.probed, ip ∈ cfg.net.hosts ∧ ip ≠ cfg.serverIp
  rounds : s.rounds ≤ s.probed.length + 1
  moves : s.moves ≤ 7 * s.rounds

/-- The record of a task in phase `n` of a round: every address probed in an earlier round is
settled, and the candidate of this round is a new one. -/
structure InRound (cfg : ServerConfig) (limit i n : Nat) (cand : Option Ipv4Addr) (s : Probing) :
    Prop where
  settled : ∀ ip ∈ s.probed, Settled limit i s.worker ip ∨ 3 ≤ n ∧ cand = some ip
  fresh : n = 2 → ∀ ip, cand = some ip →
    ip ∉ s.probed ∧ ip ∈ cfg.net.hosts ∧ ip ≠ cfg.serverIp
  rounds : s.rounds = s.probed.length + if n = 1 ∨ n = 2 then 1 else 0
  moves : s.moves + (if n = 0 then 0 else 7) = 7 * s.rounds + n

/-- Task `i` is in the loop or has left it. -/
structure Looping (cfg : ServerConfig) (limit i : Nat) (mac : MacAddr) (dhcp : Message)
    (s : Probing) : Prop where
  wf : Wf cfg s.worker
  full : FullHolds s.worker
  recent : limit ≤ s.worker.now + conflictHoldDuration
  tally : Tally cfg s
  task : ∃ pc, s.worker.tasks[i]? = some ⟨mac, dhcp, pc⟩ ∧
    (AfterLoop mac dhcp pc ∨
      ∃ n cand, LoopPhase cfg mac n cand pc ∧ InRound cfg limit i n cand s)

/-- The phases record what the task has done. -/
theorem LoopPhase.note (phase : LoopPhase cfg mac n cand pc) (s : Probing) :
    (s.note pc).moves = s.moves + 1 ∧
      (s.note pc).rounds = (if n = 0 then s.rounds + 1 else s.rounds) ∧
      (s.note pc).probed = if n = 2 then cand.toList ++ s.probed else s.probed := by
  cases phase <;> exact ⟨rfl, rfl, rfl⟩

theorem AfterLoop.note (after : AfterLoop mac dhcp pc) (s : Probing) :
    s.note pc = s := by
  rcases after with ⟨⟨⟩ | ⟨⟩⟩ | ⟨⟩ <;> rfl

/-- A pool candidate is a host that is not on hold. -/
theorem LeaseTable.HoldsUntil.ne_candidate {table : LeaseTable} {now : Nat} {cand : Ipv4Addr}
    (held : table.HoldsUntil limit ip) (before : now < limit)
    (unreserved : table.staticLeases.lookup mac = none)
    (allocated : (table.allocateCandidate now mac cfg.net cfg.serverIp).2 = some cand) :
    ip ≠ cand := by
  rintro rfl
  obtain ⟨expiry, found, le⟩ := held
  have elapsed := LeaseTable.unheld_of_candidate unreserved allocated expiry found
  omega

theorem InRound.move {n' : Nat} {cand' : Option Ipv4Addr} {s : Probing}
    (phase : LoopPhase cfg mac n cand pc) (round : InRound cfg limit i n cand s)
    (looping : Looping cfg limit i mac dhcp s) (before : s.worker.now < limit)
    (unreserved : s.worker.table.staticLeases.lookup mac = none) (h : Step cfg s.worker l t)
    (moves : PhaseMove cfg i mac s.worker t n cand n' cand') :
    InRound cfg limit i n' cand' { s.note pc with worker := t } := by
  obtain ⟨movesEq, roundsEq, probedEq⟩ := phase.note s
  have still : ∀ ip, Settled limit i s.worker ip → Settled limit i t ip :=
    fun ip settled => settled.keep h looping.full before looping.recent
  cases moves with
  | @candidate cmd ip next allocated =>
    have held : ∀ old ∈ s.probed, s.worker.table.HoldsUntil limit old := by
      intro old listed
      rcases round.settled old listed with settled | ⟨late, -⟩
      · exact settled.held next
      · omega
    have free := allocated
    rw [LeaseTable.allocateCandidate_snd unreserved, LeaseTable.findHost_eq_some_iff] at free
    refine ⟨fun old listed => ?_, fun _ new same => ?_, ?_, ?_⟩
    · rw [probedEq] at listed
      exact .inl (still old (.inl (held old listed)))
    · cases same
      rw [probedEq]
      refine ⟨fun listed => ?_, free.1.host, free.1.notServer⟩
      exact (held ip listed).ne_candidate before unreserved allocated rfl
    · rw [roundsEq, probedEq]
      exact round.rounds
    · have moves := round.moves
      simp only [movesEq, roundsEq]
      simp at moves ⊢
      omega
  | next notOne below =>
    refine ⟨fun old listed => ?_, fun two => absurd two (by omega), ?_, ?_⟩
    · rw [probedEq] at listed
      split at listed
      · rename_i two
        rcases List.mem_append.mp listed with now | earlier
        · exact .inr ⟨by omega, Option.mem_toList.mp now⟩
        · rcases round.settled old earlier with settled | ⟨late, -⟩
          · exact .inl (still old settled)
          · omega
      · rcases round.settled old listed with settled | ⟨late, same⟩
        · exact .inl (still old settled)
        · exact .inr ⟨by omega, same⟩
    · have rounds := round.rounds
      rw [roundsEq, probedEq]
      cases phase <;> simp at rounds ⊢ <;> omega
    · have moves := round.moves
      rw [movesEq, roundsEq]
      cases phase <;> simp at moves ⊢ <;> omega
  | again all queued =>
    refine ⟨fun old listed => ?_, fun two => (by cases two), ?_, ?_⟩
    · rw [probedEq] at listed
      rcases round.settled old listed with settled | ⟨-, same⟩
      · exact .inl (still old settled)
      · cases same
        refine .inl (.inr ⟨⟨.recordConflict _ conflictHoldDuration, .nobody⟩, ?_, rfl⟩)
        rw [all]
        exact queued
    · rw [roundsEq, probedEq]
      exact round.rounds
    · have moves := round.moves
      rw [movesEq, roundsEq]
      simp at moves ⊢
      omega

theorem Tally.withWorker {s : Probing} (tally : Tally cfg s) (t : State) :
    Tally cfg { s with worker := t } :=
  ⟨tally.distinct, tally.hosts, tally.rounds, tally.moves⟩

/-- A move in a round keeps the record as it should be: the address that it may add is a new
one. -/
theorem InRound.tally_note {s : Probing}
    (phase : LoopPhase cfg mac n cand pc) (round : InRound cfg limit i n cand s)
    (tally : Tally cfg s) : Tally cfg (s.note pc) := by
  obtain ⟨movesEq, roundsEq, probedEq⟩ := phase.note s
  have rounds := round.rounds
  have moves := round.moves
  cases phase with
  | probe =>
    obtain ⟨new, host⟩ := round.fresh rfl _ rfl
    refine ⟨?_, ?_, ?_, ?_⟩
    · rw [probedEq]
      exact List.nodup_cons.mpr ⟨new, tally.distinct⟩
    · rw [probedEq]
      exact List.forall_mem_cons.mpr ⟨host, tally.hosts⟩
    · rw [roundsEq, probedEq]
      simp at rounds ⊢
      omega
    · rw [movesEq, roundsEq]
      simp at moves ⊢
      omega
  | _ =>
    refine ⟨probedEq ▸ tally.distinct, probedEq ▸ tally.hosts, ?_, ?_⟩
    · rw [roundsEq, probedEq]
      simp at rounds ⊢
      omega
    · rw [movesEq, roundsEq]
      simp at moves ⊢
      omega

theorem Probing.step_eq_some {s t : Probing} (taken : s.step cfg i l = some t) :
    Step cfg s.worker l t.worker ∧
      t = { (if l.moves i s.worker then
          (s.worker.tasks[i]?).elim s fun task => s.note task.pc
        else s) with worker := t.worker } := by
  obtain ⟨worker, stepped, rfl⟩ := Option.map_eq_some_iff.mp taken
  exact ⟨.of_step stepped, rfl⟩

/-- Until the first hold of the loop runs out, a step keeps the loop going as described. -/
theorem Looping.keep {s t : Probing} (looping : Looping cfg limit i mac dhcp s)
    (before : s.worker.now < limit)
    (unreserved : s.worker.table.staticLeases.lookup mac = none)
    (taken : s.step cfg i l = some t) : Looping cfg limit i mac dhcp t := by
  obtain ⟨h, noted⟩ := Probing.step_eq_some taken
  obtain ⟨pc, found, place⟩ := looping.task
  have recent : limit ≤ t.worker.now + conflictHoldDuration :=
    looping.recent.trans (Nat.add_le_add_right h.now_le _)
  have wf := looping.wf.keep h
  have full := looping.full.keep looping.wf h
  generalize t.worker = worker at h noted recent wf full
  subst noted
  by_cases moves : l.moves i s.worker = true
  · obtain ⟨pc', goes, move⟩ := h.moved looping.wf found moves
    rw [if_pos moves, found, Option.elim_some]
    rcases place with after | ⟨n, cand, phase, round⟩
    · rw [after.note]
      exact ⟨wf, full, recent, looping.tally.withWorker worker, pc', goes, .inl (after.move move)⟩
    · refine ⟨wf, full, recent, (round.tally_note phase looping.tally).withWorker worker, pc', goes,
        ?_⟩
      rcases phase.move looping.wf h found move with left | ⟨n', cand', phase', next⟩
      · exact .inl (.returned left)
      · exact .inr ⟨n', cand', phase', round.move phase looping before unreserved h next⟩
  · rw [if_neg moves]
    have stays := h.unmoved looping.wf found (Bool.eq_false_iff.mpr moves)
    refine ⟨wf, full, recent, looping.tally.withWorker worker, pc, stays, ?_⟩
    rcases place with after | ⟨n, cand, phase, round⟩
    · exact .inl after
    · refine .inr ⟨n, cand, phase, fun ip listed => ?_, round.fresh, round.rounds, round.moves⟩
      rcases round.settled ip listed with settled | current
      · exact .inl (settled.keep h looping.full before looping.recent)
      · exact .inr current

/-! ## The loop ends -/

theorem LoopPhase.inLoop (phase : LoopPhase cfg mac n cand pc) : pc.inLoop = true := by
  cases phase <;> rfl

theorem AfterLoop.inLoop (after : AfterLoop mac dhcp pc) : pc.inLoop = false := by
  rcases after with ⟨⟨⟩ | ⟨⟩⟩ | ⟨⟩ <;> rfl

/-- Task `i` is at an await of the loop. -/
def Probing.isInside (i : Nat) (s : Probing) : Bool :=
  s.worker.tasks[i]?.any fun task => task.pc.inLoop

/-- Task `i` has just returned from the loop. -/
def Probing.Returns (i : Nat) (mac : MacAddr) (dhcp : Message) (s : Probing) : Prop :=
  ∃ pc, s.worker.tasks[i]? = some ⟨mac, dhcp, pc⟩ ∧ Returned mac dhcp pc

theorem Looping.advance {s t : Probing} (looping : Looping cfg limit i mac dhcp s)
    (inside : s.isInside i = true) (taken : s.step cfg i l = some t) :
    (t.isInside i = true ∨ t.Returns i mac dhcp) ∧
      t.moves = s.moves + if l.moves i s.worker then 1 else 0 := by
  obtain ⟨h, noted⟩ := Probing.step_eq_some taken
  obtain ⟨pc, found, place⟩ := looping.task
  simp only [Probing.isInside, found, Option.any_some] at inside
  generalize t.worker = worker at h noted
  subst noted
  rcases place with after | ⟨n, cand, phase, -⟩
  · rw [after.inLoop] at inside
    cases inside
  · by_cases moves : l.moves i s.worker = true
    · obtain ⟨pc', goes, move⟩ := h.moved looping.wf found moves
      simp only [if_pos moves, found, Option.elim_some]
      refine ⟨?_, (phase.note s).1⟩
      rcases phase.move looping.wf h found move with left | ⟨n', cand', phase', -⟩
      · exact .inr ⟨pc', goes, left⟩
      · exact .inl (by simp [Probing.isInside, goes, phase'.inLoop])
    · have stays := h.unmoved looping.wf found (Bool.eq_false_iff.mpr moves)
      simp only [if_neg moves]
      exact ⟨.inl (by simp [Probing.isInside, stays, inside]), rfl⟩

/-- A task is about to start the loop in `probe_and_allocate_ip`. -/
structure Enters (cfg : ServerConfig) (s : State) (i : Nat) (mac : MacAddr) (dhcp : Message) :
    Prop where
  wf : Wf cfg s
  full : FullHolds s
  task : s.tasks[i]? = some ⟨mac, dhcp, Task.allocate cfg mac⟩

theorem Enters.looping (enters : Enters cfg s i mac dhcp) :
    Looping cfg (s.now + conflictHoldDuration) i mac dhcp (.enter s) where
  wf := enters.wf
  full := enters.full
  recent := Nat.le_refl _
  tally := by
    refine ⟨List.nodup_nil, ?_, by simp [Probing.enter], by simp [Probing.enter]⟩
    intro ip listed
    cases listed
  task := by
    refine ⟨_, enters.task, .inr ⟨0, none, .ask, ?_, ?_, rfl, rfl⟩⟩
    · exact nofun
    · exact nofun

theorem Tally.rounds_le {s : Probing} (tally : Tally cfg s) :
    s.rounds ≤ (cfg.net.hosts.erase cfg.serverIp).length + 1 := by
  have inside : s.probed ⊆ cfg.net.hosts.erase cfg.serverIp := by
    intro ip listed
    obtain ⟨host, notServer⟩ := tally.hosts ip listed
    exact (List.mem_erase_of_ne notServer).mpr host
  have fewer := (List.subperm_of_subset tally.distinct inside).length_le
  have rounds := tally.rounds
  omega

variable {ρ : Trace (Probing.step cfg i)}

/-- As long as the first hold can last, the trace is in the loop as described. -/
theorem looping_of_trace (enters : Enters cfg s i mac dhcp) (start : ρ.state 0 = .enter s)
    (unreserved : ∀ n, (ρ.state n).worker.table.staticLeases.lookup mac = none) (n : Nat)
    (inTime : (ρ.state n).worker.now < s.now + conflictHoldDuration) :
    Looping cfg (s.now + conflictHoldDuration) i mac dhcp (ρ.state n) := by
  induction n with
  | zero =>
    rw [start]
    exact enters.looping
  | succ n ih =>
    cases taken : ρ.label n with
    | none =>
      have same := ρ.next n
      rw [taken] at same
      rw [same] at inTime ⊢
      exact ih inTime
    | some l =>
      have stepped := Trace.step_of_label taken
      have earlier := (Probing.step_eq_some stepped).1.now_le
      have before : (ρ.state n).worker.now < s.now + conflictHoldDuration := by omega
      exact (ih before).keep before (unreserved n) stepped

theorem returns_or_inside (looping : ∀ n, (ρ.state n).isInside i = true →
      Looping cfg limit i mac dhcp (ρ.state n)) {k : Nat} (inside : (ρ.state k).isInside i = true)
    (later : k ≤ n) :
    (∃ m, k ≤ m ∧ (ρ.state m).Returns i mac dhcp) ∨
      (ρ.state n).isInside i = true ∧ (ρ.state k).moves ≤ (ρ.state n).moves := by
  induction n, later using Nat.le_induction with
  | base => exact .inr ⟨inside, Nat.le_refl _⟩
  | succ n later ih =>
    rcases ih with returned | ⟨still, counted⟩
    · exact .inl returned
    · cases taken : ρ.label n with
      | none =>
        have same := ρ.next n
        rw [taken] at same
        rw [same]
        exact .inr ⟨still, counted⟩
      | some l =>
        obtain ⟨place, moves⟩ := (looping n still).advance still (Trace.step_of_label taken)
        rcases place with inLoop | returned
        · exact .inr ⟨inLoop, by omega⟩
        · exact .inl ⟨n + 1, Nat.le_succ_of_le later, returned⟩

/-- In every trace of the worker, from a task's entry into the loop of `probe_and_allocate_ip` on,
for a client without a reservation.  As long as less time has passed than a hold lasts, no address
has been probed twice, only hosts other than the server have been probed, and the rounds are at
most one more than these hosts, that is at most as many as there are hosts when the server is one
of them.  If the task's awaits in the loop all come to an end, in less time than a hold lasts, the
loop returns. -/
theorem probing_terminates (enters : Enters cfg s i mac dhcp) (start : ρ.state 0 = .enter s)
    (unreserved : ∀ n, (ρ.state n).worker.table.staticLeases.lookup mac = none) :
    (∀ n, (ρ.state n).worker.now < s.now + conflictHoldDuration →
      (ρ.state n).probed.Nodup ∧
      (∀ ip ∈ (ρ.state n).probed, ip ∈ cfg.net.hosts ∧ ip ≠ cfg.serverIp) ∧
      (ρ.state n).rounds ≤ (cfg.net.hosts.erase cfg.serverIp).length + 1 ∧
      (cfg.serverIp ∈ cfg.net.hosts → (ρ.state n).rounds ≤ cfg.net.hosts.length)) ∧
    ((∀ n, (ρ.state n).isInside i = true →
        (ρ.state n).worker.now < s.now + conflictHoldDuration ∧
        ∃ m l, n ≤ m ∧ ρ.label m = some l ∧ l.moves i (ρ.state m).worker = true) →
      ∃ n, (ρ.state n).Returns i mac dhcp) := by
  have looping := looping_of_trace enters start unreserved
  constructor
  · intro n inTime
    have tally := (looping n inTime).tally
    refine ⟨tally.distinct, tally.hosts, tally.rounds_le, fun host => ?_⟩
    have rounds := tally.rounds_le
    have shorter := List.length_erase_of_mem host
    have some := List.length_pos_of_mem host
    omega
  · intro awaits
    have inTime : ∀ n, (ρ.state n).isInside i = true →
        Looping cfg (s.now + conflictHoldDuration) i mac dhcp (ρ.state n) :=
      fun n inside => looping n (awaits n inside).1
    -- each further move brings the task closer to the bound on its moves
    have descend : ∀ k, 0 ≤ k → (ρ.state k).isInside i = true → ∃ m, k ≤ m ∧
        ((ρ.state m).Returns i mac dhcp ∨ (ρ.state m).isInside i = true ∧
          7 * ((cfg.net.hosts.erase cfg.serverIp).length + 1) - (ρ.state m).moves <
            7 * ((cfg.net.hosts.erase cfg.serverIp).length + 1) - (ρ.state k).moves) := by
      intro k _ inside
      obtain ⟨-, m, l, later, taken, moves⟩ := awaits k inside
      rcases returns_or_inside inTime inside later with ⟨r, after, returned⟩ | ⟨still, counted⟩
      · exact ⟨r, after, .inl returned⟩
      · obtain ⟨place, movesEq⟩ := (inTime m still).advance still (Trace.step_of_label taken)
        rw [if_pos moves] at movesEq
        refine ⟨m + 1, Nat.le_succ_of_le later, ?_⟩
        rcases place with inLoop | returned
        · have tally := (inTime (m + 1) inLoop).tally
          have rounds := tally.rounds_le
          have bound := tally.moves
          exact .inr ⟨inLoop, by omega⟩
        · exact .inl returned
    have here : (ρ.state 0).isInside i = true := by
      rw [start]
      simp [Probing.isInside, Probing.enter, enters.task, Task.allocate, TaskPc.inLoop]
    obtain ⟨n, -, returned⟩ := Trace.leadsTo_rank (P := fun t => t.isInside i = true)
      (Q := fun t => t.Returns i mac dhcp)
      (fun t : Probing => 7 * ((cfg.net.hosts.erase cfg.serverIp).length + 1) - t.moves)
      descend here
    exact ⟨n, returned⟩

/-! ## A loop with one conflict -/

/-- A DISCOVER of client 1. -/
def loopDiscover : Message := (sampleMessage .discover 1 none none).get rfl

/-- Client 1 sends a DISCOVER and enters the loop. -/
def loopEntry : List Label := [Label.packet 1 (some loopDiscover)] ++ asking 0 []

/-- The first candidate is probed and client 2 is seen on it; the second one is free. -/
def oneConflict : List Label :=
  asking 0 [] ++ [Label.task 0, .neighbor 2 (.new 192 168 1 2), .main, .actor ⟨[1], []⟩,
    .advance arpResolutionDelay, .task 0] ++ asking 0 [2, 1] ++ asking 0 [2, 1] ++
    asking 0 [2, 1] ++ [Label.task 0, .advance arpResolutionDelay, .task 0] ++ asking 0 [2, 1]

/-- The loop probes two addresses and returns. -/
theorem loop_returns_after_conflict :
    ∃ s, ∃ ρ : Trace (Probing.step sampleConfig 0),
      Enters sampleConfig s 0 1 loopDiscover ∧ ρ.state 0 = .enter s ∧
      (ρ.state 19).probed.length = 2 ∧ (ρ.state 19).probed.Nodup ∧
      ∃ n, (ρ.state n).Returns 0 1 loopDiscover := by
  obtain ⟨s, reached, empty, task, ⟨t, run, two, left⟩, each, r, last, moves⟩ :
      ∃ s, exec (step sampleConfig) (State.init []) loopEntry = some s ∧ s.mailbox.items = [] ∧
        s.tasks[0]? = some ⟨1, loopDiscover, Task.allocate sampleConfig 1⟩ ∧
        (∃ t, exec (Probing.step sampleConfig 0) (.enter s) oneConflict = some t ∧
          t.probed.length = 2 ∧ t.isInside 0 = false) ∧
        (∀ n < 20, ∃ t,
          exec (Probing.step sampleConfig 0) (.enter s) (oneConflict.take n) = some t ∧
          t.worker.table.staticLeases.lookup 1 = none ∧
          t.worker.now < s.now + conflictHoldDuration) ∧
        ∃ t, exec (Probing.step sampleConfig 0) (.enter s) (oneConflict.take 18) = some t ∧
          (Label.actor ⟨[2, 1], []⟩).moves 0 t.worker = true := by
    decide +kernel
  have enters : Enters sampleConfig s 0 1 loopDiscover := by
    refine ⟨(Wf.init []).exec reached, ?_, task⟩
    intro mail member
    rw [empty] at member
    cases member
  have length : oneConflict.length = 19 := by decide
  have always : ∀ n, ((Trace.ofRun run).state n).worker.table.staticLeases.lookup 1 = none ∧
      ((Trace.ofRun run).state n).worker.now < s.now + conflictHoldDuration := by
    refine Trace.forall_state_ofRun (P := fun u : Probing =>
      u.worker.table.staticLeases.lookup 1 = none ∧
        u.worker.now < s.now + conflictHoldDuration) fun n inside => each n ?_
    omega
  have ended : ∀ n, 19 ≤ n → (Trace.ofRun run).state n = t :=
    fun n past => Trace.state_ofRun (length ▸ past)
  have start : (Trace.ofRun run).state 0 = .enter s := rfl
  have result := probing_terminates enters start fun n => (always n).1
  refine ⟨s, Trace.ofRun run, enters, start, ?_, (result.1 19 (always 19).2).1, result.2 ?_⟩
  · rw [ended 19 (Nat.le_refl _)]
    exact two
  · intro n inside
    -- the last step of the run is one of the task
    refine ⟨(always n).2, 18, .actor ⟨[2, 1], []⟩, ?_, rfl, ?_⟩
    · by_contra late
      rw [ended n (by omega), left] at inside
      cases inside
    · simpa only [Trace.ofRun, last, Option.getD_some] using moves

end TrimRouter.DhcpServer
