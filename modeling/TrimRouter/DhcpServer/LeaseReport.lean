import Mathlib.Data.List.ReduceOption
import TrimRouter.DhcpServer.Exchange
import TrimRouter.DhcpServer.Startup

/-!
# The size of the lease report

Every heartbeat carries the list of the leases (`get_active_leases`), one item for each client with
a live entry and each reservation without one.  `IpcEndpoint::send` refuses a message of more than
`MAX_IPC_MSG_LEN` bytes, and the worker only logs the refusal, so a heartbeat that is too long never
reaches the parent.  `heartbeat_sent_iff` says which heartbeats are sent.
-/

namespace TrimRouter

namespace DhcpServer

/-! ## The wire format -/

/-- The length of one item of the report: the MAC address with its length, the address, the
host name, the remaining seconds and the flag. -/
def DhcpLeaseInfo.postcardLen (info : DhcpLeaseInfo) : Nat :=
  7 + 4 + hostnameLen info.hostname + varintLen info.expiresInSeconds + 1

/-- The length of a message of the worker in the format of `postcard`. -/
def WorkerMsg.postcardLen : WorkerMsg → Nat
  | .sendOffer _ xid _ _ => 1 + 7 + varintLen xid.toNat + 4 + 1
  | .sendAck _ xid _ _ => 1 + 7 + varintLen xid.toNat + 4 + 1
  | .sendNak _ xid => 1 + 7 + varintLen xid.toNat
  | .probeArpConflict _ => 1 + 4
  | .heartbeat leases =>
    1 + varintLen leases.length + (leases.map DhcpLeaseInfo.postcardLen).sum
  | .registerLocalHost name _ => 1 + varintLen name.utf8ByteSize + name.utf8ByteSize + 4
  | .deregisterLocalHost name => 1 + varintLen name.utf8ByteSize + name.utf8ByteSize

/-- `IpcEndpoint::send` at the worker: the message that goes out, if it is not too long. -/
def ipcSend (msg : WorkerMsg) : Option WorkerMsg :=
  if maxIpcMsgLen < msg.postcardLen then none else some msg

theorem ipcSend_isSome {msg : WorkerMsg} :
    (ipcSend msg).isSome ↔ msg.postcardLen ≤ maxIpcMsgLen := by
  unfold ipcSend
  split <;> simp <;> omega

/-- A number below `2 ^ 14` takes one byte or two. -/
theorem varintLen_of_lt {n : Nat} (small : n < 16384) :
    varintLen n = 1 + if 128 ≤ n then 1 else 0 := by
  rcases Nat.eq_zero_or_pos n with rfl | positive
  · decide
  have nonzero : n ≠ 0 := by omega
  have upper : n.log2 < 14 := (Nat.log2_lt nonzero).mpr small
  have middle : n.log2 < 7 ↔ n < 2 ^ 7 := Nat.log2_lt nonzero
  unfold varintLen
  split <;> omega

/-! ## The report of a table -/

variable {t : LeaseTable} {now : Nat} {order : IterOrder}

namespace LeaseTable

/-- The live entries. -/
def liveEntries (t : LeaseTable) (now : Nat) : List ClientLease :=
  t.byMac.values.filter fun lease => lease.isLive now

/-- The reservations of clients without a live entry. -/
def idleReservations (t : LeaseTable) (now : Nat) : List StaticLease :=
  (t.staticLeases.retain fun mac _ => !(t.get mac).any fun lease => lease.isLive now).values

/-- The host names in a report. -/
def reportedNames (t : LeaseTable) (now : Nat) : List String :=
  ((t.liveEntries now).map ClientLease.hostname ++
    (t.idleReservations now).map StaticLease.hostname).reduceOption

/-- The number of live entries that have 128 seconds or more to go. -/
def longLeases (t : LeaseTable) (now : Nat) : Nat :=
  (t.liveEntries now).countP fun lease => now + fromSecs 128 ≤ lease.expiry

/-- The clients, the names and the long leases of the table leave room for the report: every
client takes 14 bytes, every name its length with a varint for it, every long lease one byte
more, and the message a tag and the number of the clients. -/
def RoomForReport (t : LeaseTable) (now : Nat) : Prop :=
  let clients := (t.liveEntries now).length + (t.idleReservations now).length
  let names := (t.reportedNames now).map String.utf8ByteSize
  1 + varintLen clients + 14 * clients + (names.sum + (names.map varintLen).sum) +
    t.longLeases now ≤ maxIpcMsgLen
deriving Decidable

/-- The host names and the remaining seconds in a report. -/
def reportItems (t : LeaseTable) (now : Nat) : List (Option String × Nat) :=
  (t.liveEntries now).map (fun lease => (lease.hostname, asSecs (lease.expiry - now))) ++
    (t.idleReservations now).map fun lease => (lease.hostname, 0)

theorem getActiveLeases_perm (visits : order.Visits t) :
    ((t.getActiveLeases now order).map fun info => (info.hostname, info.expiresInSeconds)).Perm
      (t.reportItems now) := by
  have owners : ∀ mac, ((((t.byMac.iter order.byMac).filter fun e => e.2.isLive now).map
      Prod.fst).contains mac) = (t.get mac).any fun lease => lease.isLive now := by
    intro mac
    rw [Bool.eq_iff_iff, List.contains_iff_mem, List.mem_map, Option.any_eq_true]
    constructor
    · rintro ⟨⟨mac, lease⟩, kept, rfl⟩
      obtain ⟨visited, live⟩ := List.mem_filter.mp kept
      exact ⟨lease, HashMap.lookup_of_mem_iter visited, live⟩
    · rintro ⟨lease, found, live⟩
      have visited := (HashMap.mem_iter visits.1).mpr found
      exact ⟨(mac, lease), List.mem_filter.mpr ⟨visited, live⟩, rfl⟩
  have active := ((HashMap.iter_perm visits.1).filter fun e => e.2.isLive now).map
    fun e => (e.2.hostname, asSecs (e.2.expiry - now))
  have idle := ((HashMap.iter_perm visits.2).filter fun e =>
    !(t.get e.1).any fun lease => lease.isLive now).map fun e => (e.2.hostname, 0)
  simp only [List.filter_map, List.map_map, Function.comp_def] at active idle
  simp only [getActiveLeases, reportItems, owners, List.map_append, List.map_map, Function.comp_def,
    liveEntries, idleReservations, HashMap.values, HashMap.retain, List.filter_map]
  exact active.append idle

/-- No entry lasts longer than a lease. -/
def Expiring (t : LeaseTable) (now : Nat) : Prop :=
  ∀ mac lease, t.get mac = some lease → lease.expiry ≤ now + lanLeaseDuration

theorem reportItems_short (expiring : t.Expiring now) : ∀ x ∈ t.reportItems now, x.2 < 16384 := by
  intro x listed
  rcases List.mem_append.mp listed with active | idle
  · obtain ⟨lease, member, rfl⟩ := List.mem_map.mp active
    obtain ⟨mac, found⟩ := HashMap.mem_values_iff.mp (List.mem_filter.mp member).1
    have bound := expiring mac lease found
    simp only [asSecs, lanLeaseDuration, fromSecs] at bound ⊢
    omega
  · obtain ⟨lease, -, rfl⟩ := List.mem_map.mp idle
    exact Nat.zero_lt_succ _

theorem length_reportItems :
    (t.reportItems now).length = (t.liveEntries now).length + (t.idleReservations now).length := by
  simp [reportItems]

theorem names_reportItems :
    ((t.reportItems now).map Prod.fst).reduceOption = t.reportedNames now := by
  simp [reportItems, reportedNames, Function.comp_def]

theorem countP_reportItems :
    (t.reportItems now).countP (fun x => 128 ≤ x.2) = t.longLeases now := by
  have long : ∀ lease : ClientLease,
      128 ≤ asSecs (lease.expiry - now) ↔ now + fromSecs 128 ≤ lease.expiry := by
    intro lease
    simp only [asSecs, fromSecs]
    omega
  simp [reportItems, longLeases, List.countP_append, List.countP_map, Function.comp_def, long]

end LeaseTable

theorem sum_itemLen {items : List (Option String × Nat)} (short : ∀ x ∈ items, x.2 < 16384) :
    (items.map fun x => 7 + 4 + hostnameLen x.1 + varintLen x.2 + 1).sum =
      14 * items.length +
        ((((items.map Prod.fst).reduceOption).map String.utf8ByteSize).sum +
          ((((items.map Prod.fst).reduceOption).map String.utf8ByteSize).map varintLen).sum) +
        items.countP fun x => 128 ≤ x.2 := by
  induction items with
  | nil => rfl
  | cons x rest ih =>
    obtain ⟨name, seconds⟩ := x
    have first := varintLen_of_lt (short _ List.mem_cons_self)
    have others := ih fun x member => short x (List.mem_cons_of_mem _ member)
    simp only [List.map_cons, List.sum_cons, List.length_cons, List.countP_cons,
      decide_eq_true_eq] at first others ⊢
    cases name with
    | none =>
      have unnamed : hostnameLen none = 1 := rfl
      rw [List.reduceOption_cons_of_none]
      omega
    | some name =>
      have named : hostnameLen (some name) =
        1 + varintLen name.utf8ByteSize + name.utf8ByteSize := rfl
      simp only [List.reduceOption_cons_of_some, List.map_cons, List.sum_cons]
      omega

theorem LeaseTable.heartbeat_fits (visits : order.Visits t) (expiring : t.Expiring now) :
    (WorkerMsg.heartbeat (t.getActiveLeases now order)).postcardLen ≤ maxIpcMsgLen ↔
      t.RoomForReport now := by
  have report : ((t.getActiveLeases now order).map fun info =>
      (info.hostname, info.expiresInSeconds)).Perm (t.reportItems now) :=
    getActiveLeases_perm visits
  have length := report.length_eq
  have size := (report.map fun x => 7 + 4 + hostnameLen x.1 + varintLen x.2 + 1).sum_eq
  rw [sum_itemLen (reportItems_short expiring), names_reportItems, countP_reportItems,
    length_reportItems, List.map_map] at size
  rw [List.length_map, length_reportItems] at length
  have total : ((t.getActiveLeases now order).map DhcpLeaseInfo.postcardLen).sum = _ := size
  simp only [WorkerMsg.postcardLen, RoomForReport, total, length]
  omega

/-! ## Reachable tables -/

section

open Run

variable {cfg : ServerConfig} {s s' : State} {l : Label} {ls : List Label}
  {staticLeases : List StaticLease}

theorem LeaseCommand.written_expiring {cmd : LeaseCommand} {mac : MacAddr} {lease : ClientLease}
    (wf : cmd.Wf cfg) (stored : cmd.written now t = some (mac, lease)) :
    lease.expiry ≤ now + lanLeaseDuration := by
  have candidate : candidateHoldDuration ≤ lanLeaseDuration := by decide
  have neighbor : neighborHoldDuration ≤ lanLeaseDuration := by decide
  cases cmd with
  | allocateCandidate client net serverIp =>
    obtain ⟨ip, -, made⟩ := Option.map_eq_some_iff.mp stored
    cases made
    exact Nat.add_le_add_left candidate now
  | confirmLease client ip duration hostname =>
    cases stored
    exact Nat.add_le_add_left (Nat.le_of_eq wf) now
  | validateAndConfirmRequest client requestedIp serverIp net duration hostname =>
    obtain ⟨conf, -, made⟩ := Option.map_eq_some_iff.mp stored
    cases made
    exact Nat.add_le_add_left (Nat.le_of_eq wf.2.2) now
  | addNeighbor client ip =>
    simp only [LeaseCommand.written] at stored
    split at stored
    · cases stored
    · cases stored
      exact Nat.add_le_add_left neighbor now
  | _ => cases stored

theorem LeaseTable.Expiring.keep (wf : Wf cfg s) (expiring : s.table.Expiring s.now)
    (h : Step cfg s l s') : s'.table.Expiring s'.now := by
  intro mac lease found
  have later : s.now + lanLeaseDuration ≤ s'.now + lanLeaseDuration :=
    Nat.add_le_add_right h.now_le _
  refine Nat.le_trans ?_ later
  rcases h.get_table found with before | ⟨order, mail, -, next, written⟩
  · exact expiring mac lease before
  · exact LeaseCommand.written_expiring (wf.mail mail (State.mem_of_nextMail next)) written

theorem expiring_of_run (reached : exec (step cfg) (State.init staticLeases) ls = some s) :
    s.table.Expiring s.now := by
  have start : Wf cfg (State.init staticLeases) ∧
      (State.init staticLeases).table.Expiring (State.init staticLeases).now := by
    refine ⟨Wf.init staticLeases, ?_⟩
    intro mac lease found
    cases State.get_init.symm.trans found
  refine (exec_keeps (fun s => Wf cfg s ∧ s.table.Expiring s.now) ?_ start reached).2
  intro r l u both taken
  exact ⟨both.1.keep (.of_step taken), both.2.keep both.1 (.of_step taken)⟩

/-- In every reachable state, in whatever order the maps are visited: the heartbeat with the
leases is sent exactly if the clients with a live entry or a reservation, their names and the
long leases leave room for it. -/
theorem heartbeat_sent_iff (reached : exec (step cfg) (State.init staticLeases) ls = some s)
    (visits : order.Visits s.table) :
    (ipcSend (.heartbeat (s.table.getActiveLeases s.now order))).isSome ↔
      s.table.RoomForReport s.now := by
  rw [ipcSend_isSome]
  exact LeaseTable.heartbeat_fits visits (expiring_of_run reached)

/-- The report of a neighbour that has just been seen is sent. -/
theorem neighbor_heartbeat_sent :
    ∃ s, exec (step (.ofLanIp crowdConfig.lanIp)) (State.init (nameless 1))
        [.neighbor 0x020000001111#48 0x0a000909#32, .main, .actor ⟨[], [0x020000000000#48]⟩] =
          some s ∧
      (ipcSend (.heartbeat (s.table.getActiveLeases s.now
        ⟨[0x020000001111#48], [0x020000000000#48]⟩))).isSome := by
  obtain ⟨s, reached, visits, room⟩ : ∃ s, exec (step (.ofLanIp crowdConfig.lanIp))
      (State.init (nameless 1))
      [.neighbor 0x020000001111#48 0x0a000909#32, .main, .actor ⟨[], [0x020000000000#48]⟩] =
        some s ∧ IterOrder.Visits ⟨[0x020000001111#48], [0x020000000000#48]⟩ s.table ∧
      s.table.RoomForReport s.now := by
    decide +kernel
  exact ⟨s, reached, (heartbeat_sent_iff reached visits).mpr room⟩

/-! ## A report that is too long -/

theorem nodup_mac_nameless {n : Nat} (room : n ≤ 60000) :
    ((nameless n).map StaticLease.mac).Nodup := by
  simp only [nameless, crowd, List.map_map]
  refine List.Nodup.map_on ?_ List.nodup_range
  intro i inside j insideJ same
  rw [List.mem_range] at inside insideJ
  simp only [Function.comp_apply] at same
  bv_omega

section

variable (unique : (staticLeases.map StaticLease.mac).Nodup)

include unique

theorem isOrder_init :
    (State.init staticLeases).table.staticLeases.IsOrder (staticLeases.map StaticLease.mac) := by
  refine (List.perm_ext_iff_of_nodup unique
    (State.init staticLeases).table.staticLeases.keys_nodup).mpr ?_
  intro mac
  rw [HashMap.mem_keys_iff, List.mem_map]
  constructor
  · rintro ⟨r, listed, rfl⟩
    rw [Reserved.init.byMac, ← Option.isSome_iff_exists, reservationOf, List.find?_isSome]
    exact ⟨r, List.mem_reverse.mpr listed, beq_self_eq_true r.mac⟩
  · rintro ⟨r, found⟩
    rw [Reserved.init.byMac] at found
    obtain ⟨listed, owner⟩ := mem_of_reservationOf found
    exact ⟨r, listed, owner⟩

/-- The table at the start has no entry of a client to visit. -/
theorem visits_init :
    IterOrder.Visits ⟨[], staticLeases.map StaticLease.mac⟩ (State.init staticLeases).table := by
  refine ⟨?_, isOrder_init unique⟩
  have empty : (State.init staticLeases).table.byMac.keys = [] := by
    apply List.eq_nil_iff_forall_not_mem.mpr
    intro mac member
    obtain ⟨lease, found⟩ := HashMap.mem_keys_iff.mp member
    cases State.get_init.symm.trans found
  rw [HashMap.IsOrder, empty]

/-- Before the first client comes, all reservations are idle. -/
theorem length_idleReservations_init :
    ((State.init staticLeases).table.idleReservations now).length = staticLeases.length := by
  have all : (State.init staticLeases).table.staticLeases.entries.filter (fun e =>
      !((State.init staticLeases).table.get e.1).any fun lease => lease.isLive now) =
        (State.init staticLeases).table.staticLeases.entries := by
    apply List.filter_eq_self.mpr
    intro e member
    rw [State.get_init]
    rfl
  have keys := (isOrder_init unique).length_eq
  simp only [AList.keys, List.keys, List.length_map] at keys
  rw [LeaseTable.idleReservations, HashMap.values, List.length_map, keys]
  exact congrArg List.length all

end

/-- Five thousand reservations are accepted and reach the worker, but no heartbeat does that it
sends before the first client comes. -/
theorem crowd_heartbeat_refused :
    RouterConfig.parse .std (crowdDocWith (nameless 5000)) = .ok (crowdConfigWith (nameless 5000)) ∧
      postcardLen (nameless 5000) ≤ maxIpcMsgLen ∧
      ∃ s order, exec (step (.ofLanIp crowdConfig.lanIp)) (State.init (nameless 5000))
          [.heartbeatTick, .main] = some s ∧ order.Visits s.table ∧
        ipcSend (.heartbeat (s.table.getActiveLeases s.now order)) = none := by
  have fits : postcardLen (nameless 5000) ≤ maxIpcMsgLen := by
    rw [postcardLen_nameless]
    decide
  have unique : ((nameless 5000).map StaticLease.mac).Nodup := nodup_mac_nameless (by decide)
  have visits := visits_init unique
  refine ⟨parse_nameless (by decide), fits, _, _, rfl, visits, ?_⟩
  have start : exec (step (.ofLanIp crowdConfig.lanIp)) (State.init (nameless 5000)) [] =
      some (State.init (nameless 5000)) := rfl
  have expiring : (State.init (nameless 5000)).table.Expiring 0 := expiring_of_run start
  have crowded : ¬(State.init (nameless 5000)).table.RoomForReport 0 := by
    have clients : ((State.init (nameless 5000)).table.idleReservations 0).length = 5000 := by
      rw [length_idleReservations_init unique]
      simp [nameless, crowd]
    simp only [LeaseTable.RoomForReport, clients, maxIpcMsgLen]
    omega
  rw [← LeaseTable.heartbeat_fits visits expiring, ← ipcSend_isSome,
    Option.not_isSome_iff_eq_none] at crowded
  exact crowded

end

end DhcpServer

end TrimRouter
