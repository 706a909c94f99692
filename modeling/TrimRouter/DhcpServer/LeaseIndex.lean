import TrimRouter.DhcpServer.LeaseEffects
import TrimRouter.Lib.Run

/-!
# The index of allocated addresses

`allocated_ips` is meant to list exactly the addresses that the entries of `by_mac` carry.  It is
kept up by removing the address of every entry that is removed or replaced, which is wrong when a
second entry carries the same address.  A command that takes an entry off an address which an entry
staying in the table carries strands the address, and `indexConsistent_prefixes_iff` says that
nothing else breaks the index.
-/

namespace TrimRouter.DhcpServer

open Run

variable {t : LeaseTable} {now : Nat} {order : IterOrder} {m mac other : MacAddr}
  {lease : ClientLease} {ip : Ipv4Addr}

namespace LeaseTable

/-- The index lists exactly the addresses that some entry carries. -/
def IndexConsistent (t : LeaseTable) : Prop :=
  ∀ ip, ip ∈ t.allocatedIps ↔ ∃ m lease, t.get m = some lease ∧ lease.ip = ip

/-- An entry of another client than `mac` carries `ip`. -/
def CarriedByOther (t : LeaseTable) (mac : MacAddr) (ip : Ipv4Addr) : Prop :=
  ∃ m lease, m ≠ mac ∧ t.get m = some lease ∧ lease.ip = ip

/-- Giving `mac` an entry on `target`, or none, takes its entry off an address that another
entry carries as well. -/
def LeavesShared (t : LeaseTable) (mac : MacAddr) (target : Option Ipv4Addr) : Prop :=
  ∃ old, t.get mac = some old ∧ target ≠ some old.ip ∧ t.CarriedByOther mac old.ip

theorem new_indexConsistent : LeaseTable.new.IndexConsistent := by
  intro ip
  simp [LeaseTable.new, get]

theorem evictExpired_indexConsistent : (t.evictExpired now).IndexConsistent := by
  intro ip
  simp only [evictExpired, List.mem_toFinset, List.mem_map, HashMap.mem_values_iff, get]
  constructor
  · rintro ⟨lease, ⟨m, found⟩, onIp⟩
    exact ⟨m, lease, found, onIp⟩
  · rintro ⟨m, lease, found, onIp⟩
    exact ⟨lease, ⟨m, found⟩, onIp⟩

theorem mem_allocatedIps_remove :
    ip ∈ (t.remove mac).1.allocatedIps ↔
      ip ∈ t.allocatedIps ∧ ∀ l, t.get mac = some l → l.ip ≠ ip := by
  unfold remove
  cases t.get mac with
  | none => simp
  | some old => simp [and_comm, eq_comm]

theorem mem_allocatedIps_insert :
    ip ∈ (t.insert mac lease).allocatedIps ↔
      ip = lease.ip ∨ ip ∈ t.allocatedIps ∧ ∀ l, t.get mac = some l → l.ip ≠ ip := by
  unfold insert
  cases t.get mac with
  | none => simp
  | some old => simp [and_comm, eq_comm]

theorem carried_insert_iff :
    (∃ m l, (t.insert mac lease).get m = some l ∧ l.ip = ip) ↔
      ip = lease.ip ∨ t.CarriedByOther mac ip := by
  constructor
  · rintro ⟨m, l, found, onIp⟩
    rw [get_insert] at found
    split at found
    · cases found
      exact .inl onIp.symm
    · rename_i different
      exact .inr ⟨m, l, different, found, onIp⟩
  · rintro (rfl | ⟨m, l, different, found, onIp⟩)
    · exact ⟨mac, lease, by simp [get_insert], rfl⟩
    · exact ⟨m, l, by rw [get_insert, if_neg different, found], onIp⟩

theorem insert_indexConsistent_iff (consistent : t.IndexConsistent) :
    (t.insert mac lease).IndexConsistent ↔ ¬ t.LeavesShared mac (some lease.ip) := by
  constructor
  · rintro right ⟨old, found, moved, shared⟩
    -- the entry that stays carries the old address, but the index has lost it
    have indexed := (right old.ip).mpr (carried_insert_iff.mpr (.inr shared))
    rcases mem_allocatedIps_insert.mp indexed with same | ⟨-, off⟩
    · exact moved (by rw [same])
    · exact off old found rfl
  · intro alone ip
    rw [mem_allocatedIps_insert, carried_insert_iff, consistent ip]
    refine or_congr_right' fun different => ?_
    constructor
    · rintro ⟨⟨m, l, found, onIp⟩, off⟩
      refine ⟨m, l, ?_, found, onIp⟩
      rintro rfl
      exact off l found onIp
    · rintro ⟨m, l, other, found, onIp⟩
      refine ⟨⟨m, l, found, onIp⟩, ?_⟩
      rintro old foundOld rfl
      refine alone ⟨old, foundOld, ?_, m, l, other, found, onIp⟩
      exact fun same => different (Option.some.inj same).symm

/-- The second table has lost the entries of some clients, and its index the addresses of
these entries. -/
structure Drops (gone : MacAddr → Prop) (t t' : LeaseTable) : Prop where
  entries : ∀ m l, t'.get m = some l ↔ ¬ gone m ∧ t.get m = some l
  index : ∀ ip, ip ∈ t'.allocatedIps ↔
    ip ∈ t.allocatedIps ∧ ∀ m l, gone m → t.get m = some l → l.ip ≠ ip

namespace Drops

variable {t' t'' : LeaseTable} {gone gone' : MacAddr → Prop}

/-- The index stays right exactly when no lost entry shares its address with one that stays. -/
theorem indexConsistent_iff (drops : Drops gone t t') (consistent : t.IndexConsistent) :
    t'.IndexConsistent ↔
      ¬ ∃ m l, gone m ∧ t.get m = some l ∧
        ∃ other l', ¬ gone other ∧ t.get other = some l' ∧ l'.ip = l.ip := by
  constructor
  · rintro right ⟨m, l, left, found, other, l', stays, foundOther, same⟩
    have indexed := (right l.ip).mpr
      ⟨other, l', (drops.entries other l').mpr ⟨stays, foundOther⟩, same⟩
    exact ((drops.index l.ip).mp indexed).2 m l left found rfl
  · intro apart ip
    rw [drops.index, consistent ip]
    constructor
    · rintro ⟨⟨m, l, found, onIp⟩, off⟩
      exact ⟨m, l, (drops.entries m l).mpr ⟨fun left => off m l left found onIp, found⟩, onIp⟩
    · rintro ⟨other, l', found, onIp⟩
      obtain ⟨stays, foundOther⟩ := (drops.entries other l').mp found
      refine ⟨⟨other, l', foundOther, onIp⟩, fun m l left found same => ?_⟩
      exact apart ⟨m, l, left, found, other, l', stays, foundOther, onIp.trans same.symm⟩

theorem refl (kept : ∀ m l, t.get m = some l → ¬ gone m) : Drops gone t t where
  entries := fun m l => ⟨fun found => ⟨kept m l found, found⟩, And.right⟩
  index := fun _ => ⟨fun indexed => ⟨indexed, fun m l left found => absurd left (kept m l found)⟩,
    And.left⟩

theorem trans (first : Drops gone t t') (second : Drops gone' t' t'') :
    Drops (fun m => gone m ∨ gone' m) t t'' where
  entries := by
    intro m l
    rw [second.entries, first.entries]
    tauto
  index := by
    intro ip
    rw [second.index, first.index]
    constructor
    · rintro ⟨⟨indexed, off⟩, offLater⟩
      refine ⟨indexed, fun m l left found => ?_⟩
      by_cases early : gone m
      · exact off m l early found
      · exact offLater m l (left.resolve_left early) ((first.entries m l).mpr ⟨early, found⟩)
    · rintro ⟨indexed, off⟩
      refine ⟨⟨indexed, fun m l left => off m l (.inl left)⟩, fun m l left found => ?_⟩
      exact off m l (.inr left) ((first.entries m l).mp found).2

theorem remove : Drops (· = mac) t (t.remove mac).1 where
  entries := by
    intro m l
    rw [get_remove]
    by_cases same : m = mac <;> simp [same]
  index := by
    intro ip
    rw [mem_allocatedIps_remove]
    refine and_congr_right' ⟨?_, fun off l => off mac l rfl⟩
    rintro off m l rfl
    exact off l

theorem dropMoved (r : StaticLease) :
    Drops (fun m => t.isMoved [r] m = true) t (t.dropMoved r) := by
  have moved : ∀ m, t.isMoved [r] m = true ↔
      m = r.mac ∧ ∃ existing, t.get m = some existing ∧ existing.ip ≠ r.ip := by
    intro m
    simp [isMoved, Option.any_eq_true, eq_comm (a := m)]
  unfold LeaseTable.dropMoved
  split
  · rename_i existing found
    split
    · rename_i other
      have only : (fun m => t.isMoved [r] m = true) = (· = r.mac) := by
        funext m
        refine propext ((moved m).trans ⟨And.left, ?_⟩)
        rintro rfl
        exact ⟨rfl, existing, found, other⟩
      rw [only]
      exact remove
    · rename_i same
      refine refl fun m l foundAt left => ?_
      obtain ⟨rfl, existing', found', other⟩ := (moved m).mp left
      cases found.symm.trans found'
      exact same other
  · rename_i absent
    refine refl fun m l foundAt left => ?_
    obtain ⟨rfl, -⟩ := (moved m).mp left
    cases absent.symm.trans foundAt

theorem foldl_dropMoved (staticLeases : List StaticLease) :
    Drops (fun m => t.isMoved staticLeases m = true) t
      (staticLeases.foldl LeaseTable.dropMoved t) := by
  induction staticLeases generalizing t with
  | nil => exact refl fun m l _ => by simp [isMoved]
  | cons r rest ih =>
    have split : (fun m => t.isMoved (r :: rest) m = true) = fun m =>
        t.isMoved [r] m = true ∨ (t.dropMoved r).isMoved rest m = true := by
      funext m
      by_cases first : t.isMoved [r] m
      · have all : t.isMoved (r :: rest) m = true := by simp_all [isMoved]
        simp [first, all]
      · -- the first reservation leaves this entry to the later ones
        have stays : (t.dropMoved r).get m = t.get m := by rw [get_dropMoved, if_neg first]
        simp_all [isMoved]
    rw [split]
    exact (dropMoved r).trans ih

end Drops

/-- Removing an entry keeps the index right exactly when it strands no address. -/
theorem remove_indexConsistent_iff (consistent : t.IndexConsistent) :
    (t.remove mac).1.IndexConsistent ↔ ¬ t.LeavesShared mac none := by
  rw [Drops.remove.indexConsistent_iff consistent]
  refine not_congr ⟨?_, ?_⟩
  · rintro ⟨m, old, rfl, found, shared⟩
    exact ⟨old, found, nofun, shared⟩
  · rintro ⟨old, found, -, shared⟩
    exact ⟨mac, old, rfl, found, shared⟩

/-- Setting the reservations keeps the index right exactly when no entry that it removes
shares its address with one that it keeps. -/
theorem setStaticLeases_indexConsistent_iff (consistent : t.IndexConsistent)
    (staticLeases : List StaticLease) :
    (t.setStaticLeases staticLeases).IndexConsistent ↔
      ¬ ∃ m l, t.isMoved staticLeases m = true ∧ t.get m = some l ∧
        ∃ other l', t.isMoved staticLeases other = false ∧ t.get other = some l' ∧
          l'.ip = l.ip := by
  have drops : Drops (fun m => t.isMoved staticLeases m = true) t
      (t.setStaticLeases staticLeases) :=
    ⟨(Drops.foldl_dropMoved staticLeases).entries, (Drops.foldl_dropMoved staticLeases).index⟩
  simpa only [Bool.not_eq_true] using drops.indexConsistent_iff consistent

end LeaseTable

namespace LeaseCommand

open LeaseTable

/-- The table whose entry a storing command replaces. -/
def base (now : Nat) (t : LeaseTable) : LeaseCommand → LeaseTable
  | .allocateCandidate mac _ _ => t.candidateBase now mac
  | _ => t

/-- The command takes an entry off an address, by removing the entry or by storing one on
another address, while an entry that stays in the table carries that address. -/
def Strands (now : Nat) (t : LeaseTable) (cmd : LeaseCommand) : Prop :=
  match cmd with
  | .release mac => t.LeavesShared mac none
  | .setStaticLeases staticLeases =>
    ∃ m l, t.isMoved staticLeases m = true ∧ t.get m = some l ∧
      ∃ other l', t.isMoved staticLeases other = false ∧ t.get other = some l' ∧ l'.ip = l.ip
  | cmd => ∃ mac lease, cmd.written now t = some (mac, lease) ∧
      (cmd.base now t).LeavesShared mac (some lease.ip)

theorem candidateBase_indexConsistent (consistent : t.IndexConsistent) :
    (t.candidateBase now mac).IndexConsistent := by
  unfold candidateBase
  split
  · exact evictExpired_indexConsistent
  · exact consistent

/-- The commands that may store an entry. -/
def stores : LeaseCommand → Bool
  | .allocateCandidate .. | .confirmLease .. | .validateAndConfirmRequest .. | .addNeighbor .. =>
    true
  | _ => false

theorem handleLeaseCommand_of_stores (cmd : LeaseCommand) (storing : cmd.stores = true) :
    (handleLeaseCommand now order t cmd).1 =
      match cmd.written now t with
      | none => cmd.base now t
      | some (mac, lease) => (cmd.base now t).insert mac lease := by
  cases cmd with
  | allocateCandidate mac net serverIp =>
    simp only [handleLeaseCommand, written, base, allocateCandidate_fst]
    cases (t.allocateCandidate now mac net serverIp).2 <;> rfl
  | confirmLease mac ip duration hostname => rfl
  | validateAndConfirmRequest mac requestedIp serverIp net duration hostname =>
    simp only [handleLeaseCommand, written, base, validateAndConfirm_fst]
    cases (t.validateAndConfirm now mac requestedIp serverIp net duration hostname).2 <;> rfl
  | addNeighbor mac ip =>
    simp only [handleLeaseCommand, written, base, updateFromNeighbor]
    split <;> rfl
  | _ => cases storing

theorem strands_of_stores (cmd : LeaseCommand) (storing : cmd.stores = true) :
    cmd.Strands now t ↔ ∃ mac lease, cmd.written now t = some (mac, lease) ∧
      (cmd.base now t).LeavesShared mac (some lease.ip) := by
  cases cmd with
  | allocateCandidate | confirmLease | validateAndConfirmRequest | addNeighbor => rfl
  | _ => cases storing

theorem base_indexConsistent (consistent : t.IndexConsistent) (cmd : LeaseCommand) :
    (cmd.base now t).IndexConsistent := by
  cases cmd with
  | allocateCandidate mac net serverIp =>
    exact candidateBase_indexConsistent consistent
  | _ => exact consistent

theorem indexConsistent_iff_of_stores (consistent : t.IndexConsistent) (cmd : LeaseCommand)
    (storing : cmd.stores = true) :
    (handleLeaseCommand now order t cmd).1.IndexConsistent ↔ ¬ cmd.Strands now t := by
  have before : (cmd.base now t).IndexConsistent := base_indexConsistent consistent cmd
  rw [handleLeaseCommand_of_stores cmd storing, strands_of_stores cmd storing]
  cases written : cmd.written now t with
  | none => exact iff_of_true before (by rintro ⟨_, _, stored, -⟩; cases stored)
  | some entry =>
    obtain ⟨mac, lease⟩ := entry
    rw [insert_indexConsistent_iff before]
    refine not_congr ⟨fun shared => ⟨mac, lease, rfl, shared⟩, ?_⟩
    rintro ⟨mac', lease', stored, shared⟩
    cases stored
    exact shared

theorem indexConsistent_iff (consistent : t.IndexConsistent) (cmd : LeaseCommand) :
    (handleLeaseCommand now order t cmd).1.IndexConsistent ↔ ¬ cmd.Strands now t := by
  have unchanged : ∀ {t' : LeaseTable}, t'.IndexConsistent → cmd.written now t = none →
      (t'.IndexConsistent ↔ ¬ ∃ mac lease, cmd.written now t = some (mac, lease) ∧
        (cmd.base now t).LeavesShared mac (some lease.ip)) := by
    intro t' consistent' silent
    refine iff_of_true consistent' ?_
    rintro ⟨mac, lease, stored, -⟩
    rw [silent] at stored
    cases stored
  cases cmd with
  | allocateCandidate | confirmLease | addNeighbor | validateAndConfirmRequest =>
    exact indexConsistent_iff_of_stores consistent _ rfl
  | release mac => exact remove_indexConsistent_iff consistent
  | setStaticLeases staticLeases =>
    exact setStaticLeases_indexConsistent_iff consistent staticLeases
  | evictExpired => exact unchanged evictExpired_indexConsistent rfl
  | recordConflict | getExistingIp | checkConflict | getActiveLeases =>
    exact unchanged consistent rfl

end LeaseCommand

/-! ## Runs of the lease actor -/

/-- One turn of the loop of the lease actor. -/
inductive ActorInput where
  | cleanupTick
  | command (cmd : LeaseCommand) (order : IterOrder)

/-- `run_lease_actor_loop`: one turn, at some instant. -/
def runLeaseActor (t : LeaseTable) : Nat × ActorInput → Option LeaseTable
  | (now, .cleanupTick) => some (t.evictExpired now)
  | (now, .command cmd order) => some (handleLeaseCommand now order t cmd).1

/-- The turn does not take an entry off an address that a staying entry carries. -/
def NoStrand (t : LeaseTable) : Nat × ActorInput → Prop
  | (_, .cleanupTick) => True
  | (now, .command cmd _) => ¬ cmd.Strands now t

theorem runLeaseActor_indexConsistent_iff (consistent : t.IndexConsistent)
    {input : Nat × ActorInput} {t' : LeaseTable} (turn : runLeaseActor t input = some t') :
    t'.IndexConsistent ↔ NoStrand t input := by
  rcases input with ⟨now, tick | ⟨cmd, order⟩⟩
  · cases turn
    exact iff_of_true LeaseTable.evictExpired_indexConsistent trivial
  · cases turn
    exact LeaseCommand.indexConsistent_iff consistent cmd

theorem exec_runLeaseActor (t : LeaseTable) (inputs : List (Nat × ActorInput)) :
    ∃ last, exec runLeaseActor t inputs = some last := by
  induction inputs generalizing t with
  | nil => exact ⟨t, rfl⟩
  | cons input inputs ih =>
    rcases input with ⟨now, tick | ⟨cmd, order⟩⟩
    · exact ih _
    · exact ih _

/-- The index is right after every prefix of a run of the lease actor exactly when no
command of the run strands an address. -/
theorem indexConsistent_prefixes_iff (inputs : List (Nat × ActorInput)) :
    (∀ done t, done <+: inputs → exec runLeaseActor LeaseTable.new done = some t →
      t.IndexConsistent) ↔ Meets runLeaseActor NoStrand LeaseTable.new inputs := by
  obtain ⟨last, run⟩ := exec_runLeaseActor LeaseTable.new inputs
  apply prefixes_iff_meets _ LeaseTable.new_indexConsistent run
  intro t input t' consistent turn
  exact runLeaseActor_indexConsistent_iff consistent turn

/-- Client 1 is granted 192.168.1.7, client 2 is seen on the same address as a neighbour
and releases it: the entry of client 1 still carries the address, the index does not. -/
theorem release_loses_shared_address :
    ∃ t, exec runLeaseActor LeaseTable.new
        [(0, .command (.validateAndConfirmRequest 1 (some (.new 192 168 1 7))
            (.new 192 168 1 1) ⟨.new 192 168 1 1, 24, by decide⟩ (fromSecs 3600) none) ⟨[], []⟩),
         (1, .command (.addNeighbor 2 (.new 192 168 1 7)) ⟨[1], []⟩),
         (2, .command (.release 2) ⟨[1, 2], []⟩)] = some t ∧
      t.get 1 = some ⟨.new 192 168 1 7, fromSecs 3600, none⟩ ∧
      Ipv4Addr.new 192 168 1 7 ∉ t.allocatedIps ∧ ¬ t.IndexConsistent := by
  refine ⟨_, rfl, by decide, by decide, ?_⟩
  intro right
  exact absurd ((right (.new 192 168 1 7)).mpr ⟨1, ⟨.new 192 168 1 7, fromSecs 3600, none⟩,
    by decide, rfl⟩) (by decide)

end TrimRouter.DhcpServer
