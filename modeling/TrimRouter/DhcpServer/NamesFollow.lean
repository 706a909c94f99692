import TrimRouter.DhcpServer.NameUpdates

/-!
# The local names follow the leases

The DNS forwarder keeps a copy of the names that the worker registers (`Mirrored.hosts`), and the
worker maintains it by updates.  A pair of name and address in the copy should belong to a table
entry.  The worker decides an update where a granted request, a release or the eviction of the main
loop changes an entry; the actor's own cleanup, the eviction in `next_available_ip`, a DISCOVER, a
neighbour report and new reservations change entries and decide nothing.  `names_follow_leases` is
about runs in which entries change silently only if their name is not registered.
-/

namespace TrimRouter.DhcpServer

open Run Lan

variable {cfg : ServerConfig} {s t : State} {l : Label} {m : MacAddr} {name : String}
  {ip : Ipv4Addr} {order : IterOrder} {mail : Mail}

/-! ## Who waits for the reply to a command -/

/-- The main loop waits for the reply to the command. -/
def MainPc.awaits : MainPc → LeaseCommand → Bool
  | .replyActive, .getActiveLeases => true
  | .replyEvict, .evictExpired => true
  | .replyStatic, .setStaticLeases _ => true
  | _, _ => false

/-- The commands that decide updates come from somebody who waits for the reply. -/
def Mail.Addressed (mail : Mail) : Prop :=
  match mail.cmd with
  | .validateAndConfirmRequest .. | .release _ => ∃ i, mail.caller = .task i
  | .evictExpired => mail.caller = .main
  | _ => True

/-- The main loop has at most one command in the channel, the one whose reply it waits for. -/
structure Routed (s : State) : Prop where
  addressed : ∀ mail ∈ s.mailbox.items, mail.Addressed
  main : ∀ mail ∈ s.mailbox.items, mail.caller = .main → s.main.awaits mail.cmd = true
  once : s.mailbox.items.Pairwise fun a b => ¬(a.caller = .main ∧ b.caller = .main)

theorem Routed.init (staticLeases : List StaticLease) : Routed (State.init staticLeases) where
  addressed := nofun
  main := nofun
  once := List.Pairwise.nil

/-- While the main loop waits for nothing, no command in the channel is its own. -/
theorem Routed.caller_ne_main (routed : Routed s) (free : ∀ cmd, s.main.awaits cmd = false) :
    ∀ mail ∈ s.mailbox.items, mail.caller ≠ .main := by
  intro mail member mine
  have waits := routed.main mail member mine
  rw [free mail.cmd] at waits
  cases waits

theorem MainMove.free {pc pc' : MainPc} (move : MainMove pc pc') (cmd : LeaseCommand) :
    pc.awaits cmd = false := by
  cases move <;> rfl

theorem MainPost.free {pc pc' : MainPc} (post : MainPost pc mail pc') (cmd : LeaseCommand) :
    pc.awaits cmd = false := by
  cases post <;> rfl

theorem MainPost.addressed {pc pc' : MainPc} (post : MainPost pc mail pc') :
    mail.Addressed ∧ (mail.caller = .main → pc'.awaits mail.cmd = true) := by
  cases post with
  | neighbor => exact ⟨trivial, nofun⟩
  | active | static => exact ⟨trivial, fun _ => rfl⟩
  | evict => exact ⟨rfl, fun _ => rfl⟩

theorem Calls.addressed {dhcp : Message} {cmd : LeaseCommand} {k : Cont} {i : Nat}
    (calls : Calls cfg m dhcp cmd k) : Mail.Addressed ⟨cmd, .task i⟩ := by
  cases calls with
  | validate | release => exact ⟨i, rfl⟩
  | _ => trivial

theorem Casts.addressed {dhcp : Message} {cmd : LeaseCommand} {k : Cont}
    (casts : Casts m dhcp cmd k) : Mail.Addressed ⟨cmd, .nobody⟩ := by
  cases casts <;> trivial

/-- Only its own reply moves the main loop. -/
theorem deliver_main {expired : List (MacAddr × String)} {reply : LeaseReply} {caller : Caller}
    (other : caller ≠ .main) : (deliver cfg s expired reply caller).main = s.main := by
  cases caller with
  | nobody => rfl
  | main => exact absurd rfl other
  | task i =>
    simp only [deliver]
    split <;> rfl

/-- A command enters the channel. -/
theorem Routed.push (routed : Routed s) (pushed : t.mailbox.items = s.mailbox.items ++ [mail])
    (addressed : mail.Addressed)
    (old : ∀ mail' ∈ s.mailbox.items, mail'.caller = .main → t.main.awaits mail'.cmd = true)
    (new : mail.caller = .main → t.main.awaits mail.cmd = true)
    (apart : ∀ mail' ∈ s.mailbox.items, ¬(mail'.caller = .main ∧ mail.caller = .main)) :
    Routed t := by
  refine ⟨?_, ?_, ?_⟩
  · rw [pushed]
    exact List.forall_mem_append.mpr ⟨routed.addressed, List.forall_mem_singleton.mpr addressed⟩
  · rw [pushed]
    intro mail' member mine
    rcases List.mem_append.mp member with before | last
    · exact old mail' before mine
    · rw [List.mem_singleton.mp last] at mine ⊢
      exact new mine
  · rw [pushed]
    refine List.pairwise_append.mpr ⟨routed.once, List.pairwise_singleton _ _, ?_⟩
    intro mail' member b last
    rw [List.mem_singleton.mp last]
    exact apart mail' member

theorem Routed.keep (routed : Routed s) (wf : Wf cfg s) (h : Step cfg s l t) : Routed t := by
  have keeps : ∀ {t : State}, t.mailbox = s.mailbox → (∀ cmd, s.main.awaits cmd = false) →
      Routed t := by
    intro t same free
    refine ⟨same ▸ routed.addressed, fun mail member mine => ?_, same ▸ routed.once⟩
    rw [same] at member
    exact absurd mine (routed.caller_ne_main free mail member)
  cases h with
  | branch idle | takeEvent idle => exact keeps rfl (by simp [idle, MainPc.awaits])
  | mainMove move => exact keeps rfl move.free
  | mainPost post pushed =>
    obtain ⟨addressed, waits⟩ := post.addressed
    refine routed.push pushed addressed ?_ waits ?_
    · exact fun mail member mine => absurd mine (routed.caller_ne_main post.free mail member)
    · exact fun mail member both => routed.caller_ne_main post.free mail member both.1
  | call found pushed =>
    exact routed.push pushed (Calls.addressed (wf.atPc found)) routed.main nofun
      fun mail member both => nomatch both.2
  | cast found pushed =>
    exact routed.push pushed (Casts.addressed (wf.atPc found)) routed.main nofun
      fun mail member both => nomatch both.2
  | @actor order handled mailbox popped visits =>
    obtain ⟨addressed, main, once⟩ := routed
    rw [popped] at addressed main once
    obtain ⟨alone, once'⟩ := List.pairwise_cons.mp once
    refine ⟨?_, ?_, ?_⟩
    · rw [deliver_mailbox]
      exact fun mail member => addressed mail (List.mem_cons_of_mem _ member)
    · rw [deliver_mailbox]
      intro mail member mine
      by_cases own : handled.caller = .main
      · exact absurd ⟨own, mine⟩ (alone mail member)
      · rw [deliver_main own]
        exact main mail (List.mem_cons_of_mem _ member) mine
    · rw [deliver_mailbox]
      exact once'
  | _ => exact ⟨routed.addressed, routed.main, routed.once⟩

/-! ## The updates that a command decides -/

variable {requestedIp : Option Ipv4Addr} {serverIp : Ipv4Addr} {hostname : Option String}
  {lease : ClientLease}

section

variable (wf : Wf cfg s) (routed : Routed s) (h : Step cfg s (.actor order) t)
  (next : s.nextMail = some mail)

include wf routed h next

theorem updates_of_task {x : MacAddr × LocalHostEvent}
    (tasked : mail.Addressed → ∃ i, mail.caller = .task i)
    (owes : ∀ mac dhcp k, Calls cfg mac dhcp mail.cmd k →
      x ∈ (Task.proceed cfg mac dhcp s.now k
        (handleLeaseCommand s.now order s.table mail.cmd).2).due (updatesDue mac) updatesOwed) :
    x ∈ (updateLedger cfg).all t := by
  obtain ⟨-, mailbox, rfl⟩ := h.of_actor next
  obtain ⟨i, caller⟩ := tasked (routed.addressed mail (State.mem_of_nextMail next))
  obtain ⟨mac, dhcp, k, waiting, calls⟩ := wf.waits mail (State.mem_of_nextMail next) i
    (by simp [Mail.task?, caller])
  rw [caller]
  simp only [deliver, waiting]
  have inside : i < s.tasks.length := (List.getElem?_eq_some_iff.mp waiting).1
  exact mem_updates.mpr (.inl ⟨_,
    List.mem_iff_getElem?.mpr ⟨i, List.getElem?_set_self inside⟩, owes mac dhcp k calls⟩)

theorem updates_of_granted {net : Ipv4Net} {duration : Nat} {confirmation : LeaseConfirmation}
    {update : LocalHostEvent}
    (request : mail.cmd = .validateAndConfirmRequest m requestedIp serverIp net duration hostname)
    (granted : (s.table.validateAndConfirm s.now m requestedIp serverIp net duration
      hostname).2 = some confirmation)
    (listed : update ∈ confirmation.registration ++ confirmation.deregistration) :
    (m, update) ∈ (updateLedger cfg).all t := by
  refine updates_of_task wf routed h next (by simp [Mail.Addressed, request])
    fun mac dhcp k calls => ?_
  rw [request] at calls ⊢
  cases calls
  simp only [handleLeaseCommand, granted, Task.proceed, LeaseReply.asConfirmation, TaskPc.due]
  exact List.mem_append_right _ (List.mem_map_of_mem listed)

theorem updates_of_release (release : mail.cmd = .release m) (found : s.table.get m = some lease)
    (named : lease.hostname = some name) : (m, .deregister name) ∈ (updateLedger cfg).all t := by
  refine updates_of_task wf routed h next (by simp [Mail.Addressed, release])
    fun mac dhcp k calls => ?_
  rw [release] at calls ⊢
  cases calls
  simp [handleLeaseCommand, LeaseTable.remove_snd, found, named, Task.proceed,
    LeaseReply.asReleasedHostname, TaskPc.due, updatesOwed, Event.update]

omit wf in
theorem updates_of_evict (evicts : mail.cmd = .evictExpired)
    (expired : (m, name) ∈ s.table.expiredHostnames s.now order) :
    (m, .deregister name) ∈ (updateLedger cfg).all t := by
  have caller : mail.caller = .main := by
    have addressed := routed.addressed mail (State.mem_of_nextMail next)
    simpa [Mail.Addressed, evicts] using addressed
  have waits := routed.main mail (State.mem_of_nextMail next) caller
  have atReply : s.main = .replyEvict := by
    rw [evicts] at waits
    unfold MainPc.awaits at waits
    split at waits <;> simp_all
  obtain ⟨-, mailbox, rfl⟩ := h.of_actor next
  rw [caller, evicts]
  refine mem_updates.mpr (.inr ⟨⟨m, 0, .deregisterLocalHost name⟩, ?_, ?_⟩)
  · refine List.mem_append_right _ ?_
    simp only [deliver, handleLeaseCommand, MainPc.proceed, atReply, if_true, MainPc.pending]
    exact List.mem_map.mpr ⟨(m, name), expired, rfl⟩
  · exact List.mem_singleton.mpr rfl

end

/-! ## The entries that a command changes -/

/-- Some entry has the name and the address. -/
def LeaseTable.Backs (t : LeaseTable) (name : String) (ip : Ipv4Addr) : Prop :=
  ∃ m lease, t.get m = some lease ∧ lease.hostname = some name ∧ lease.ip = ip

namespace LeaseCommand

variable {table : LeaseTable} {now : Nat} {lease : ClientLease}

/-- The command may take the entry of the client away or give it another name or address: it
evicts expired entries, ends the lease, moves the client, or is about the client and comes with
another name or address. -/
def disturbs (now : Nat) (table : LeaseTable) (m : MacAddr) (lease : ClientLease) :
    LeaseCommand → Bool
  | .allocateCandidate mac _ _ =>
    m == mac || ((table.staticLeases.lookup mac).isNone && !lease.isLive now)
  | .confirmLease mac ip _ hostname => m == mac && (lease.ip != ip || lease.hostname != hostname)
  | .validateAndConfirmRequest mac requestedIp _ _ _ requestedHostname =>
    m == mac && (requestedIp.any (· != lease.ip) ||
      ((table.staticLeases.lookup mac).bind StaticLease.hostname).or requestedHostname !=
        lease.hostname ||
      lease.hostname.any fun name => table.isHostnameTakenByOther now name mac)
  | .release mac => m == mac
  | .evictExpired => !lease.isLive now
  | .addNeighbor mac ip => m == mac && lease.ip != ip
  | .setStaticLeases staticLeases => table.isMoved staticLeases m
  | .getExistingIp _ | .checkConflict .. | .recordConflict .. | .getActiveLeases => false

/-- The commands that decide updates for the entries they change. -/
def announces : LeaseCommand → Bool
  | .validateAndConfirmRequest .. | .release _ | .evictExpired => true
  | _ => false

/-- A granted request without another name or address renews the entry as it is. -/
theorem granted_of_undisturbed {net : Ipv4Net} {duration : Nat} {conf : LeaseConfirmation}
    (found : table.get m = some lease)
    (calm : (validateAndConfirmRequest m requestedIp serverIp net duration hostname).disturbs now
      table m lease = false)
    (granted : (table.validateAndConfirm now m requestedIp serverIp net duration hostname).2 =
      some conf) : conf.ip = lease.ip ∧ conf.hostname = lease.hostname := by
  simp only [disturbs, beq_self_eq_true, Bool.true_and, Bool.or_eq_false_iff, bne_eq_false_iff_eq,
    Option.any_eq_false] at calm
  obtain ⟨⟨sameIp, sameName⟩, untaken⟩ := calm
  constructor
  · have target := (LeaseTable.validateAndConfirm_granted granted).target
    cases requestedIp with
    | none =>
      rw [found] at target
      exact (Option.some.inj target).symm
    | some ip =>
      rw [Option.some_or] at target
      rw [← Option.some.inj target]
      exact sameIp ip rfl
  · rw [(LeaseTable.validateAndConfirm_granted granted).named, sameName]
    cases named : lease.hostname with
    | none => rfl
    | some name => simp [untaken name named]

theorem get_of_undisturbed (order : IterOrder) {cmd : LeaseCommand}
    (found : table.get m = some lease)
    (calm : cmd.disturbs now table m lease = false) :
    ∃ lease', (handleLeaseCommand now order table cmd).1.get m = some lease' ∧
      lease'.hostname = lease.hostname ∧ lease'.ip = lease.ip := by
  rw [get_handleLeaseCommand]
  cases cmd with
  | allocateCandidate mac net serverIp =>
    simp only [disturbs, Bool.or_eq_false_iff, beq_eq_false_iff_ne, Bool.and_eq_false_iff,
      Option.isNone_eq_false_iff, Bool.not_eq_false'] at calm
    obtain ⟨other, stays⟩ := calm
    have kept : (allocateCandidate mac net serverIp).kept now table m = some lease := by
      simp only [kept, LeaseTable.candidateBase]
      split
      · rename_i unreserved
        rw [unreserved] at stays
        refine LeaseTable.get_evictExpired_eq_some.mpr ⟨found, ?_⟩
        simpa using stays
      · exact found
    refine ⟨lease, ?_, rfl, rfl⟩
    simp only [written]
    cases (table.allocateCandidate now mac net serverIp).2 with
    | none => exact kept
    | some ip => simpa [other] using kept
  | confirmLease mac ip duration hostname =>
    simp only [written, kept]
    split
    · rename_i same
      subst same
      simp only [disturbs, beq_self_eq_true, Bool.true_and, Bool.or_eq_false_iff,
        bne_eq_false_iff_eq] at calm
      exact ⟨_, rfl, calm.2.symm, calm.1.symm⟩
    · exact ⟨lease, found, rfl, rfl⟩
  | validateAndConfirmRequest mac requestedIp serverIp net duration hostname =>
    simp only [written, kept]
    cases granted : (table.validateAndConfirm now mac requestedIp serverIp net duration
      hostname).2 with
    | none => exact ⟨lease, found, rfl, rfl⟩
    | some conf =>
      simp only [Option.map_some]
      split
      · rename_i same
        subst same
        obtain ⟨sameIp, sameName⟩ := granted_of_undisturbed found calm granted
        exact ⟨_, rfl, sameName, sameIp⟩
      · exact ⟨lease, found, rfl, rfl⟩
  | release mac =>
    simp only [disturbs, beq_eq_false_iff_ne] at calm
    exact ⟨lease, by simp [written, kept, calm, found], rfl, rfl⟩
  | evictExpired =>
    simp only [disturbs, Bool.not_eq_false'] at calm
    refine ⟨lease, ?_, rfl, rfl⟩
    exact LeaseTable.get_evictExpired_eq_some.mpr ⟨found, ClientLease.isLive_iff.mp calm⟩
  | addNeighbor mac ip =>
    simp only [written, kept]
    split
    · rename_i mac' lease' writes
      split at writes
      · cases writes
      · rename_i heeded
        cases writes
        split
        · -- a report about the client on its own address is ignored
          rename_i same
          subst same
          simp only [disturbs, beq_self_eq_true, Bool.true_and, bne_eq_false_iff_eq] at calm
          simp [LeaseTable.ignoresNeighbor, found, calm] at heeded
        · exact ⟨lease, found, rfl, rfl⟩
    · exact ⟨lease, found, rfl, rfl⟩
  | setStaticLeases staticLeases =>
    simp only [disturbs] at calm
    exact ⟨lease, by simp [written, kept, calm, found], rfl, rfl⟩
  | recordConflict | getExistingIp | checkConflict | getActiveLeases =>
    exact ⟨lease, found, rfl, rfl⟩

end LeaseCommand

theorem update_of_granted {net : Ipv4Net} {duration now : Nat} {conf : LeaseConfirmation}
    {table : LeaseTable}
    (granted : (table.validateAndConfirm now m requestedIp serverIp net duration hostname).2 =
      some conf) (found : table.get m = some lease) (named : lease.hostname = some name) :
    ∃ update ∈ conf.registration ++ conf.deregistration, update.name = name := by
  have replaced := (LeaseTable.validateAndConfirm_granted granted).replaced
  rw [found, Option.bind_some, named] at replaced
  by_cases same : conf.hostname = some name
  · exact ⟨.register name conf.ip, mem_registration.mpr ⟨same, rfl⟩, rfl⟩
  · refine ⟨.deregister name, mem_deregistration.mpr ?_, rfl⟩
    rw [replaced]
    cases new : conf.hostname with
    | none => rfl
    | some name' =>
      have different : name ≠ name' := by
        rintro rfl
        exact same new
      simp [LeaseTable.oldHostnameToDeregister, different]

/-- Where a command that decides updates disturbs an entry, the entry's pair stays in the table
or an update of its name is under way. -/
theorem update_of_disturbed (wf : Wf cfg s) (routed : Routed s)
    (h : Step cfg s (.actor order) t) (next : s.nextMail = some mail)
    (announces : mail.cmd.announces = true) (found : s.table.get m = some lease)
    (named : lease.hostname = some name)
    (disturbed : mail.cmd.disturbs s.now s.table m lease = true) :
    t.table.Backs name lease.ip ∨ ∃ x ∈ (updateLedger cfg).all t, x.2.name = name := by
  cases cmd : mail.cmd with
  | validateAndConfirmRequest mac requestedIp serverIp net duration hostname =>
    simp only [cmd, LeaseCommand.disturbs, Bool.and_eq_true, beq_iff_eq] at disturbed
    cases disturbed.1
    cases granted : (s.table.validateAndConfirm s.now m requestedIp serverIp net duration
      hostname).2 with
    | none =>
      refine .inl ⟨m, lease, ?_, named, rfl⟩
      rw [h.table_of_actor next, cmd]
      simp only [handleLeaseCommand, LeaseTable.validateAndConfirm_fst, granted]
      exact found
    | some conf =>
      obtain ⟨update, listed, about⟩ := update_of_granted granted found named
      exact .inr ⟨_, updates_of_granted wf routed h next cmd granted listed, about⟩
  | release mac =>
    simp only [cmd, LeaseCommand.disturbs, beq_iff_eq] at disturbed
    cases disturbed
    exact .inr ⟨_, updates_of_release wf routed h next cmd found named, rfl⟩
  | evictExpired =>
    simp only [cmd, LeaseCommand.disturbs, Bool.not_eq_true'] at disturbed
    have expired : (m, name) ∈ s.table.expiredHostnames s.now order :=
      (LeaseTable.mem_expiredHostnames (h.of_actor next).1).mpr
        ⟨lease, found, by simpa [ClientLease.isLive] using disturbed, named⟩
    exact .inr ⟨_, updates_of_evict routed h next cmd expired, rfl⟩
  | _ =>
    rw [cmd] at announces
    cases announces

/-! ## The copy in the DNS -/

/-- The worker with the names that it has registered and not deregistered since. -/
structure Mirrored where
  worker : State
  hosts : Hosts

namespace Mirrored

/-- Nothing is registered. -/
def init (staticLeases : List StaticLease) : Mirrored := ⟨State.init staticLeases, ∅⟩

/-- The names after the message that a step sends. -/
def note (s : Mirrored) (l : Label) : Hosts :=
  match (emitted s.worker l).bind Event.update with
  | some update => s.hosts.handle update
  | none => s.hosts

/-- A step of the worker, with the registered names. -/
def step (cfg : ServerConfig) (s : Mirrored) (l : Label) : Option Mirrored :=
  (DhcpServer.step cfg s.worker l).map fun worker => ⟨worker, s.note l⟩

theorem step_eq_some {s t : Mirrored} (h : s.step cfg l = some t) :
    Step cfg s.worker l t.worker ∧ t.hosts = s.note l := by
  obtain ⟨worker, stepped, rfl⟩ := Option.map_eq_some_iff.mp h
  exact ⟨.of_step stepped, rfl⟩

end Mirrored

/-- The entry may go: no registration of its name and address is under way, and they are
registered only if the change is announced. -/
def MayGo (cfg : ServerConfig) (s : Mirrored) (announced : Bool) (lease : ClientLease) : Prop :=
  ∀ name ∈ lease.hostname,
    (∀ x ∈ (updateLedger cfg).all s.worker, x.2 ≠ .register name lease.ip) ∧
      (announced = true ∨ s.hosts.lookup name ≠ some lease.ip)
deriving Decidable

/-- The probe of the granted request may find a conflict: the request has no name to deregister,
and its own name is not registered on another address. -/
def MayFail (s : Mirrored) (confirmation : LeaseConfirmation) : Prop :=
  confirmation.oldHostnameToDeregister = none ∧
    ∀ name ∈ confirmation.hostname, ∀ ip ∈ s.hosts.lookup name, ip = confirmation.ip
deriving Decidable

/-- The step takes no entry away whose name is registered or being registered, unless it decides
an update for it. -/
def NamesAnnounced (cfg : ServerConfig) (s : Mirrored) (l : Label) : Prop :=
  match l with
  | .actor order => ∀ mail ∈ s.worker.nextMail,
      (∀ e ∈ s.worker.table.byMac.entries,
        mail.cmd.disturbs s.worker.now s.worker.table e.1 e.2 = true →
          MayGo cfg s mail.cmd.announces e.2) ∧
      ∀ failed ∈ s.worker.conflicting order mail, MayFail s failed.2.confirmation
  | .cleanupTick => ∀ e ∈ s.worker.table.byMac.entries,
      e.2.isLive s.worker.now = false → MayGo cfg s false e.2
  | _ => True

instance (s : Mirrored) (l : Label) : Decidable (NamesAnnounced cfg s l) := by
  apply @Label.casesOn _ l
  case actor => exact fun _ => inferInstanceAs (Decidable (∀ mail ∈ s.worker.nextMail, _))
  case cleanupTick => exact inferInstanceAs (Decidable (∀ e ∈ s.worker.table.byMac.entries, _))
  all_goals intros; exact .isTrue trivial

theorem backs_step {s t : Mirrored} (announced : NamesAnnounced cfg s l)
    (h : Step cfg s.worker l t.worker) (backed : s.worker.table.Backs name ip) :
    t.worker.table.Backs name ip ∨
      ∃ m lease, s.worker.table.get m = some lease ∧ lease.hostname = some name ∧
        lease.ip = ip ∧ (MayGo cfg s false lease ∨ ∃ order mail, l = .actor order ∧
          s.worker.nextMail = some mail ∧ MayGo cfg s mail.cmd.announces lease ∧
          mail.cmd.disturbs s.worker.now s.worker.table m lease = true) := by
  obtain ⟨m, lease, found, named, onIp⟩ := backed
  have entry := HashMap.mem_entries_iff.mpr found
  rcases h.table_eq with same | ⟨rfl, evicted⟩ | ⟨order, mail, rfl, next, -, handled⟩
  · rw [same]
    exact .inl ⟨m, lease, found, named, onIp⟩
  · cases live : lease.isLive s.worker.now with
    | true =>
      refine .inl ⟨m, lease, ?_, named, onIp⟩
      rw [evicted]
      exact LeaseTable.get_evictExpired_eq_some.mpr ⟨found, ClientLease.isLive_iff.mp live⟩
    | false => exact .inr ⟨m, lease, found, named, onIp, .inl (announced _ entry live)⟩
  · cases disturbed : mail.cmd.disturbs s.worker.now s.worker.table m lease with
    | true =>
      exact .inr ⟨m, lease, found, named, onIp,
        .inr ⟨order, mail, rfl, next, (announced mail next).1 _ entry disturbed, disturbed⟩⟩
    | false =>
      obtain ⟨lease', kept, sameName, sameIp⟩ :=
        LeaseCommand.get_of_undisturbed order found disturbed
      rw [handled]
      exact .inl ⟨m, lease', kept, sameName.trans named, sameIp.trans onIp⟩

/-- Every registration under way has its entry, and every registered pair has its entry or an
update of its name under way. -/
structure Follows (cfg : ServerConfig) (s : Mirrored) : Prop where
  wf : Wf cfg s.worker
  routed : Routed s.worker
  registrations : ∀ {m : MacAddr} {name : String} {ip : Ipv4Addr},
    (m, .register name ip) ∈ (updateLedger cfg).all s.worker → s.worker.table.Backs name ip
  hosts : ∀ {name : String} {ip : Ipv4Addr}, s.hosts.lookup name = some ip →
    s.worker.table.Backs name ip ∨ ∃ x ∈ (updateLedger cfg).all s.worker, x.2.name = name

theorem Follows.init (staticLeases : List StaticLease) :
    Follows cfg (Mirrored.init staticLeases) where
  wf := Wf.init staticLeases
  routed := Routed.init staticLeases
  registrations := nofun
  hosts := nofun

theorem backs_of_granted {dhcp : Message} {conf : LeaseConfirmation}
    (h : Step cfg s (.actor order) t) (grants : Granted cfg s m dhcp conf)
    (named : conf.hostname = some name) : t.table.Backs name conf.ip := by
  obtain ⟨caller, next⟩ := grants.next
  refine ⟨m, ⟨conf.ip, s.now + lanLeaseDuration, conf.hostname⟩, ?_, named, rfl⟩
  rw [h.table_of_actor next, LeaseCommand.get_handleLeaseCommand]
  simp [LeaseCommand.written, grants.granted]

section

variable {s t : Mirrored} (follows : Follows cfg s) (announced : NamesAnnounced cfg s l)
  (h : Step cfg s.worker l t.worker)

include follows announced h

/-- A registration under way keeps its entry. -/
theorem Follows.backs_of_due (due : (m, .register name ip) ∈ (updateLedger cfg).all s.worker) :
    t.worker.table.Backs name ip := by
  rcases backs_step announced h (follows.registrations due) with
    stays | ⟨m', lease, -, named, rfl, free | ⟨order, mail, -, -, free, -⟩⟩
  · exact stays
  · exact absurd rfl ((free name named).1 _ due)
  · exact absurd rfl ((free name named).1 _ due)

theorem Follows.registrations_step
    (due : (m, .register name ip) ∈ (updateLedger cfg).all t.worker) :
    t.worker.table.Backs name ip := by
  rcases (updateLedger cfg).step follows.wf h due with before | ⟨order, rfl, -, fresh⟩
  · exact follows.backs_of_due announced h before
  · cases updateLedger_fresh fresh with
    | granted grants listed =>
      obtain ⟨named, rfl⟩ := mem_registration.mp listed
      exact backs_of_granted h grants named

/-- A registered pair that has its entry keeps it, or an update of its name gets under way. -/
theorem Follows.backed_step (registered : s.hosts.lookup name = some ip)
    (backed : s.worker.table.Backs name ip) :
    t.worker.table.Backs name ip ∨ ∃ x ∈ (updateLedger cfg).all t.worker, x.2.name = name := by
  rcases backs_step announced h backed with
    stays | ⟨m, lease, found, named, rfl, free | ⟨order, mail, rfl, next, free, disturbed⟩⟩
  · exact .inl stays
  · rcases (free name named).2 with never | absent
    · cases never
    · exact absurd registered absent
  · rcases (free name named).2 with announces | absent
    · exact update_of_disturbed follows.wf follows.routed h next announces found named disturbed
    · exact absurd registered absent

/-- A name with an update under way keeps one, unless it is sent, or its pair has an entry. -/
theorem Follows.update_step {x : MacAddr × LocalHostEvent}
    (registered : s.hosts.lookup name = some ip) (due : x ∈ (updateLedger cfg).all s.worker)
    (about : x.2.name = name) (unsent : ∀ e, emitted s.worker l = some e → x ∉ updatesOwed e) :
    t.worker.table.Backs name ip ∨ ∃ x ∈ (updateLedger cfg).all t.worker, x.2.name = name := by
  rcases updateLedger_persists follows.wf h due with
    stays | ⟨e, sent, owes⟩ | ⟨order, mail, mac, grant, rfl, next, conflict, dropped⟩
  · exact .inr ⟨x, stays, about⟩
  · exact absurd owes (unsent e sent)
  · -- the probe found a conflict: the request had nothing to deregister, and its name is
    -- registered, if at all, on the address of the entry that the request has stored
    obtain ⟨nothing, sameIp⟩ := (announced mail next).2 _ conflict
    obtain ⟨update, listed, rfl⟩ := List.mem_map.mp dropped
    cases update with
    | deregister name' =>
      rw [mem_deregistration.mp listed] at nothing
      cases nothing
    | register name' ip' =>
      obtain ⟨named, rfl⟩ := mem_registration.mp listed
      cases about
      have same : ip = grant.confirmation.ip := sameIp name' named ip registered
      rw [same]
      exact .inl (follows.backs_of_due announced h due)

theorem Follows.hosts_step (registered : (s.note l).lookup name = some ip) :
    t.worker.table.Backs name ip ∨ ∃ x ∈ (updateLedger cfg).all t.worker, x.2.name = name := by
  unfold Mirrored.note at registered
  split at registered
  · rename_i update carries
    obtain ⟨e, sent, updates⟩ := Option.bind_eq_some_iff.mp carries
    rw [lookup_handle] at registered
    split at registered
    · -- the message is about the name itself: it registers a pair that has its entry
      rename_i about
      cases update with
      | deregister name' => cases registered
      | register name' ip' =>
        cases registered
        rw [about]
        have due : (e.client, .register name' ip) ∈ (updateLedger cfg).all s.worker := by
          rcases mem_pending_of_emitted sent with pending | ⟨leases, beat⟩
          · refine mem_updates.mpr (.inr ⟨e, pending, ?_⟩)
            simp [updatesOwed, updates]
          · simp [Event.update, beat] at updates
        exact .inl (follows.backs_of_due announced h due)
    · rename_i other
      rcases follows.hosts registered with backed | ⟨x, due, about⟩
      · exact follows.backed_step announced h registered backed
      · refine follows.update_step announced h registered due about fun e' sent' owes => ?_
        cases sent.symm.trans sent'
        obtain ⟨update', carried, rfl⟩ := List.mem_map.mp owes
        rw [updates] at carried
        cases List.mem_singleton.mp carried
        exact other about.symm
  · rename_i silent
    rcases follows.hosts registered with backed | ⟨x, due, about⟩
    · exact follows.backed_step announced h registered backed
    · refine follows.update_step announced h registered due about fun e sent owes => ?_
      rw [sent, Option.bind_some] at silent
      simp [updatesOwed, silent] at owes

end

theorem Follows.keep : Inductive (Mirrored.step cfg) (NamesAnnounced cfg) (Follows cfg) := by
  intro s l t follows announced h
  obtain ⟨stepped, hosts⟩ := Mirrored.step_eq_some h
  refine ⟨follows.wf.keep stepped, follows.routed.keep follows.wf stepped,
    follows.registrations_step announced stepped, fun registered => ?_⟩
  rw [hosts] at registered
  exact follows.hosts_step announced stepped registered

/-- In a run in which no step takes an entry away silently while its name and address are
registered, or at all while they are being registered, and no probe fails whose request still
has something to correct: whenever no update is under way, each registered pair of name and
address belongs to a table entry. -/
theorem names_follow_leases {staticLeases : List StaticLease} {ls : List Label} {s : Mirrored}
    (meets : Meets (Mirrored.step cfg) (NamesAnnounced cfg) (Mirrored.init staticLeases) ls)
    (run : exec (Mirrored.step cfg) (Mirrored.init staticLeases) ls = some s)
    (quiet : (updateLedger cfg).all s.worker = [])
    (registered : s.hosts.lookup name = some ip) :
    ∃ m lease, s.worker.table.get m = some lease ∧ lease.hostname = some name ∧
      lease.ip = ip := by
  have follows := Follows.keep.exec (Follows.init staticLeases) meets run
  rcases follows.hosts registered with backed | ⟨x, due, -⟩
  · exact backed
  · rw [quiet] at due
    cases due

/-- Client 1 registers "laptop" and then changes its name to "tablet". -/
def renamingRun : List Label :=
  laptopExchange ++
    requestExchange 1 1 (.new 192 168 1 7) (some "tablet") [1] [1] ++ sending 1 ++ sending 1

/-- The run meets the condition, and the new name belongs to the client's entry. -/
theorem names_follow_leases_after_renaming :
    ∃ s, exec (Mirrored.step sampleConfig) (Mirrored.init []) renamingRun = some s ∧
      s.hosts.lookup "tablet" = some (.new 192 168 1 7) ∧
      ∃ m lease, s.worker.table.get m = some lease ∧ lease.hostname = some "tablet" ∧
        lease.ip = .new 192 168 1 7 := by
  have meets : Meets (Mirrored.step sampleConfig) (NamesAnnounced sampleConfig)
      (Mirrored.init []) renamingRun := by
    decide +kernel
  obtain ⟨s, run, quiet, registered⟩ : ∃ s, exec (Mirrored.step sampleConfig) (Mirrored.init [])
      renamingRun = some s ∧ (updateLedger sampleConfig).all s.worker = [] ∧
      s.hosts.lookup "tablet" = some (.new 192 168 1 7) := by
    decide +kernel
  exact ⟨s, run, registered, names_follow_leases meets run quiet registered⟩

/-- No task, command, event or message is under way. -/
def State.isQuiet (s : State) : Bool :=
  s.tasks.all (fun task => decide (task.pc = .done)) && s.mailbox.items.isEmpty &&
    s.events.items.isEmpty && decide (s.main = .select)

/-- Client 1 registers "laptop"; a DISCOVER without a name replaces its entry. -/
def forgottenNameRun : List Label :=
  laptopExchange ++
    [Label.packet 1 (sampleMessage .discover 1 none none)] ++ asking 1 [1] ++ asking 1 [1] ++
    sending 1

/-- Client 1 registers "laptop"; its lease runs out and the actor's own cleanup comes first. -/
def cleanedUpRun : List Label :=
  laptopExchange ++
    [Label.advance lanLeaseDuration, .cleanupTick]

/-- After either run nothing is under way, the name is registered and no entry has it. -/
theorem name_outlives_lease :
    (∃ s, exec (Mirrored.step sampleConfig) (Mirrored.init []) forgottenNameRun = some s ∧
      s.worker.isQuiet = true ∧ s.hosts.lookup "laptop" = some (.new 192 168 1 7) ∧
      ∀ e ∈ s.worker.table.byMac.entries, e.2.hostname ≠ some "laptop") ∧
    ∃ s, exec (Mirrored.step sampleConfig) (Mirrored.init []) cleanedUpRun = some s ∧
      s.worker.isQuiet = true ∧ s.hosts.lookup "laptop" = some (.new 192 168 1 7) ∧
      ∀ e ∈ s.worker.table.byMac.entries, e.2.hostname ≠ some "laptop" := by
  decide +kernel

end TrimRouter.DhcpServer
