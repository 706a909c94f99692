import TrimRouter.Config.Accepted
import TrimRouter.Lan.Coherence

/-!
# When the LAN moves

`check_and_resolve` tests two networks for an overlap by their bases.  Networks are blocks of
addresses, so the test finds every shared address, and a runner moves at most once: from the initial
address to the backup one.  The result is `migration_resolves_conflicts`.
-/

namespace TrimRouter.Lan

open Run

variable {cfg : RouterConfig} {wan net backupNet here : Ipv4Net} {lease : WanLease}

/-! ## One decision -/

/-- Some address belongs to both networks. -/
def SharesAddress (left right : Ipv4Net) : Prop := (left.addresses ∩ right.addresses).Nonempty

/-- The lease has this address and the mask of this network, of a usual size. -/
structure HasNetwork (lease : WanLease) (wan : Ipv4Net) : Prop where
  ip : lease.ip = some wan.addr
  mask : lease.mask = some wan.netmask
  prefixLen : 8 ≤ wan.prefixLen ∧ wan.prefixLen ≤ 30

theorem isSubnetOverlap_iff : isSubnetOverlap wan net = true ↔ SharesAddress wan net := by
  unfold isSubnetOverlap
  rw [Bool.or_eq_true]
  constructor
  · intro overlap
    rcases overlap with inWan | inNet
    · exact ⟨net.network, Ipv4Net.mem_addresses.mpr inWan, Ipv4Net.network_mem_addresses⟩
    · exact ⟨wan.network, Ipv4Net.network_mem_addresses, Ipv4Net.mem_addresses.mpr inNet⟩
  · intro ⟨ip, inWan, inNet⟩
    rw [Ipv4Net.mem_addresses] at inWan inNet
    by_contra neither
    obtain ⟨notInWan, notInNet⟩ := not_or.mp neither
    exact Ipv4Net.disjoint_of_bases (Bool.eq_false_iff.mpr notInWan)
      (Bool.eq_false_iff.mpr notInNet) ⟨inWan, inNet⟩

/-- The decision for a lease with a network of a usual size. -/
theorem checkAndResolve_of_network (has : HasNetwork lease wan) :
    checkAndResolve lease here backupNet =
      if !isSubnetOverlap wan here then none
      else if here = backupNet then none
      else if isSubnetOverlap wan backupNet then none
      else some backupNet := by
  have valid : isValidSubnetPrefix wan.prefixLen = true := by
    unfold isValidSubnetPrefix
    simp [has.prefixLen.1, has.prefixLen.2]
  have known : Ipv4Net.new wan.addr wan.prefixLen = some wan := dif_pos wan.prefixLen_le
  unfold checkAndResolve
  rw [has.ip, has.mask]
  dsimp only [Option.bind_eq_bind, Option.bind_some]
  rw [Ipv4Net.maskToPrefixLen_netmask]
  dsimp only [Option.bind_some]
  rw [valid, known]
  rfl

/-- A check leaves the LAN in a conflict only when moving would not help. -/
theorem stays_on_conflict (has : HasNetwork lease wan) (shares : SharesAddress wan here)
    (stays : checkAndResolve lease here backupNet = none) :
    here = backupNet ∨ SharesAddress wan backupNet := by
  rw [checkAndResolve_of_network has, isSubnetOverlap_iff.mpr shares] at stays
  by_cases onBackup : here = backupNet
  · exact .inl onBackup
  · right
    rw [← isSubnetOverlap_iff]
    simpa [onBackup] using stays

/-! ## The address of a runner -/

/-- The address of a running LAN manager. -/
def Runner.currentIp : Runner → Option Ipv4Net
  | .off => none
  | .starting currentIp => some currentIp
  | .idle currentIp => some currentIp
  | .shifting currentIp _ => some currentIp

/-- The runner waits for the next event. -/
def Runner.isIdle : Runner → Bool
  | .idle _ => true
  | _ => false

/-- The address stays, or goes from the initial one to the backup one. -/
def Moves (cfg : RouterConfig) (before after : Ipv4Net) : Prop :=
  after = before ∨ before = cfg.lanIp ∧ after = cfg.backupLanIp

theorem Moves.trans {first second third : Ipv4Net} (left : Moves cfg first second)
    (right : Moves cfg second third) (distinct : cfg.lanIp ≠ cfg.backupLanIp) :
    Moves cfg first third := by
  rcases left with rfl | ⟨fromLan, toBackup⟩
  · exact right
  · rcases right with rfl | ⟨fromLan', -⟩
    · exact .inr ⟨fromLan, toBackup⟩
    · exact absurd (fromLan'.symm.trans toBackup) distinct

namespace State

variable {s t u : State} {l : Label} {labels : List Label}

/-- The runner is on one of the two addresses, and what it has yet to do leads to the backup
one. -/
structure Located (cfg : RouterConfig) (s : State) : Prop where
  current : ∀ c, s.runner.currentIp = some c → c = cfg.lanIp ∨ c = cfg.backupLanIp
  target : ∀ newIp, .setCurrentIp newIp ∈ s.runner.pending → newIp = cfg.backupLanIp

theorem Located.congr (located : s.Located cfg) (same : t.runner = s.runner) : t.Located cfg := by
  refine ⟨?_, ?_⟩
  · rw [same]
    exact located.current
  · rw [same]
    exact located.target

theorem mem_shift_setCurrentIp {newIp : Ipv4Net}
    (listed : .setCurrentIp newIp ∈ shiftLanSubnet cfg net) : newIp = net := by
  simpa [shiftLanSubnet] using listed

theorem Located.check (located : s.Located cfg) (running : s.runner.currentIp = some here) :
    (s.check cfg here).Located cfg ∧ (s.check cfg here).runner.currentIp = some here := by
  have home : ∀ c, some here = some c → c = cfg.lanIp ∨ c = cfg.backupLanIp := by
    intro c same
    exact located.current c (running.trans same)
  unfold State.check
  cases decision : checkAndResolve s.wanLease here cfg.backupLanIp with
  | none => exact ⟨⟨home, nofun⟩, rfl⟩
  | some newIp =>
    refine ⟨⟨home, ?_⟩, rfl⟩
    intro newIp' listed
    exact (mem_shift_setCurrentIp listed).trans (checkAndResolve_eq decision)

theorem Located.act {action : Action} {rest : List Action} (located : s.Located cfg)
    (shifting : s.runner = .shifting here (action :: rest)) :
    Moves cfg here (currentAfter here action) := by
  cases action with
  | setCurrentIp newIp =>
    have target : newIp = cfg.backupLanIp := by
      apply located.target
      rw [shifting]
      exact List.mem_cons_self
    have known := located.current here (by rw [shifting]; rfl)
    rcases known with onLan | onBackup
    · exact .inr ⟨onLan, target⟩
    · exact .inl (target.trans onBackup.symm)
  | _ => exact .inl rfl

theorem located_of_moves {before after : Ipv4Net} (moves : Moves cfg before after)
    (known : before = cfg.lanIp ∨ before = cfg.backupLanIp) :
    after = cfg.lanIp ∨ after = cfg.backupLanIp := by
  rcases moves with rfl | ⟨-, toBackup⟩
  · exact known
  · exact .inr toBackup

/-- A runner that is not stopped stays located, and its address moves as it may. -/
theorem Located.step (located : s.Located cfg) (running : l ≠ .stop)
    (taken : s.step cfg l = some t) :
    t.Located cfg ∧ ∀ c, s.runner.currentIp = some c →
      ∃ c', t.runner.currentIp = some c' ∧ Moves cfg c c' := by
  have stays : t.runner = s.runner → t.Located cfg ∧ ∀ c, s.runner.currentIp = some c →
      ∃ c', t.runner.currentIp = some c' ∧ Moves cfg c c' := by
    intro same
    refine ⟨located.congr same, ?_⟩
    intro c here
    exact ⟨c, same ▸ here, .inl rfl⟩
  cases Step.of_step taken with
  | wanLease | clientEvent | consume => exact stays rfl
  | stop idle => exact absurd rfl running
  | @start outcome off =>
    refine ⟨?_, fun c here => by rw [off] at here; cases here⟩
    cases outcome with
    | running => exact ⟨fun c here => .inl (Option.some.inj here).symm, nofun⟩
    | notStarted | noNetlink => exact located
  | @check currentIp awake =>
    have here : s.runner.currentIp = some currentIp := by
      rcases awake with starting | idle
      · rw [starting]
        rfl
      · rw [idle]
        rfl
    obtain ⟨after, same⟩ := located.check here
    refine ⟨after, fun c at_c => ⟨currentIp, same, .inl ?_⟩⟩
    exact Option.some.inj (here.symm.trans at_c)
  | @act firewall currentIp action rest shifting =>
    have moves := located.act shifting
    have here : s.runner.currentIp = some currentIp := by
      rw [shifting]
      rfl
    refine ⟨⟨fun c at_c => ?_, fun newIp listed => ?_⟩, fun c at_c => ?_⟩
    · rw [← Option.some.inj at_c]
      exact located_of_moves moves (located.current currentIp here)
    · apply located.target newIp
      rw [shifting]
      exact List.mem_cons_of_mem _ listed
    · rw [here] at at_c
      cases at_c
      exact ⟨_, rfl, moves⟩
  | @arrive firewall currentIp shifting =>
    have here : s.runner.currentIp = some currentIp := by
      rw [shifting]
      rfl
    refine ⟨⟨fun c at_c => located.current c (here.trans at_c), nofun⟩, fun c at_c => ?_⟩
    exact ⟨currentIp, rfl, .inl (Option.some.inj (here.symm.trans at_c))⟩

/-- The same for a whole run. -/
theorem Located.exec {c : Ipv4Net} (distinct : cfg.lanIp ≠ cfg.backupLanIp)
    (located : s.Located cfg) (here : s.runner.currentIp = some c) (running : .stop ∉ labels)
    (run : exec (State.step cfg) s labels = some t) :
    t.Located cfg ∧ ∃ c', t.runner.currentIp = some c' ∧ Moves cfg c c' := by
  induction labels generalizing s c with
  | nil =>
    cases run
    exact ⟨located, c, here, .inl rfl⟩
  | cons l rest ih =>
    obtain ⟨first, later⟩ := not_or.mp (mt List.mem_cons.mpr running)
    obtain ⟨mid, taken, onward⟩ := exec_cons_eq_some.mp run
    obtain ⟨located', moved⟩ := located.step (Ne.symm first) taken
    obtain ⟨c₁, here₁, moves₁⟩ := moved c here
    obtain ⟨final, c₂, here₂, moves₂⟩ := ih located' here₁ later onward
    exact ⟨final, c₂, here₂, moves₁.trans moves₂ distinct⟩

/-! ## The end of a check -/

/-- The check in `t` ends in `u`, the first state after it in which the runner waits again.  Its
shift, if there is one, is interleaved with everything else. -/
def Checks (cfg : RouterConfig) (t u : State) : Prop :=
  ∃ decided labels, t.step cfg .check = some decided ∧
    exec (State.step cfg) decided labels = some u ∧
    Meets (State.step cfg) (fun s _ => s.runner.isIdle = false) decided labels ∧
    u.runner.isIdle = true

/-- The runner is on its way to the backup address, or has arrived. -/
def Underway (cfg : RouterConfig) (s : State) : Prop :=
  s.runner = .idle cfg.backupLanIp ∨
    ∃ c actions, s.runner = .shifting c actions ∧ actions.foldl currentAfter c = cfg.backupLanIp

/-- On its way the runner takes the actions of the shift only. -/
theorem Underway.keep :
    Run.Inductive (State.step cfg) (fun s _ => s.runner.isIdle = false) (Underway cfg) := by
  intro s l t underway busy taken
  rcases underway with idle | ⟨c, actions, shifting, arrives⟩
  · rw [idle] at busy
    cases busy
  · cases Step.of_step taken with
    | wanLease | clientEvent | consume => exact .inr ⟨c, actions, shifting, arrives⟩
    | stop idle => rw [shifting] at idle; cases idle
    | start off => rw [shifting] at off; cases off
    | check running =>
      rw [shifting] at running
      rcases running with starting | idle
      · cases starting
      · cases idle
    | act here =>
      rw [shifting] at here
      cases here
      exact .inr ⟨_, _, rfl, arrives⟩
    | arrive here =>
      rw [shifting] at here
      cases here
      exact .inl (congrArg Runner.idle arrives)

/-- A check either leaves everything but the runner alone and is over at once, or ends on the
backup address. -/
theorem Checks.cases (checks : Checks cfg t u) :
    (∃ c, t.runner.currentIp = some c ∧ checkAndResolve t.wanLease c cfg.backupLanIp = none ∧
      u.runner = .idle c ∧ u.wanLease = t.wanLease) ∨ u.runner = .idle cfg.backupLanIp := by
  obtain ⟨decided, labels, taken, run, busy, idle⟩ := checks
  cases Step.of_step taken with
  | @check c running =>
    unfold State.check at run busy
    cases decision : checkAndResolve t.wanLease c cfg.backupLanIp with
    | none =>
      rw [decision] at run busy
      cases labels with
      | nil =>
        cases run
        refine .inl ⟨c, ?_, decision, rfl, rfl⟩
        rcases running with starting | idle
        · rw [starting]
          rfl
        · rw [idle]
          rfl
      | cons l rest => cases busy.1
    | some newIp =>
      right
      rw [decision, checkAndResolve_eq decision] at run busy
      have underway := Underway.keep.exec
        (.inr ⟨c, _, rfl, foldl_currentAfter_shift⟩) busy run
      rcases underway with arrived | ⟨c', actions, shifting, -⟩
      · exact arrived
      · rw [shifting] at idle
        cases idle

end State

/-- The LAN address of one runner, over every sequence of WAN leases and every interleaving of
its steps: it is the initial or the backup one, moves only from the first to the second, and
after a check shares addresses with the WAN network only when moving cannot help. -/
theorem migration_resolves_conflicts {lib : Parsers} {doc : ConfigToml} {start s : State}
    {labels : List Label} (accepted : RouterConfig.parse lib doc = .ok cfg)
    (fresh : start.runner = .starting cfg.lanIp) (running : .stop ∉ labels)
    (run : exec (State.step cfg) start labels = some s) :
    cfg.lanIp ≠ cfg.backupLanIp ∧
      (∃ c, s.runner.currentIp = some c ∧ (c = cfg.lanIp ∨ c = cfg.backupLanIp)) ∧
      (∀ done rest mid, labels = done ++ rest → exec (State.step cfg) start done = some mid →
        s.runner.currentIp = mid.runner.currentIp ∨
          mid.runner.currentIp = some cfg.lanIp ∧ s.runner.currentIp = some cfg.backupLanIp) ∧
      ∀ checked c wan, State.Checks cfg s checked → checked.runner.currentIp = some c →
        (HasNetwork s.wanLease wan ∨ HasNetwork checked.wanLease wan) → SharesAddress wan c →
        c = cfg.backupLanIp ∨ SharesAddress wan cfg.backupLanIp := by
  have sound := accepted_sound accepted
  have distinct : cfg.lanIp ≠ cfg.backupLanIp := by
    intro same
    exact sound.disjoint cfg.lanIp.addr ⟨Ipv4Net.contains_addr, same ▸ Ipv4Net.contains_addr⟩
  have located : start.Located cfg := by
    refine ⟨?_, ?_⟩
    · intro c here
      rw [fresh] at here
      exact .inl (Option.some.inj here).symm
    · rw [fresh]
      nofun
  have here : start.runner.currentIp = some cfg.lanIp := by
    rw [fresh]
    rfl
  obtain ⟨final, c, current, -⟩ := located.exec distinct here running run
  refine ⟨distinct, ⟨c, current, final.current c current⟩, ?_, ?_⟩
  · intro done rest mid split before
    rw [split, List.mem_append, not_or] at running
    rw [split, exec_append, before, Option.bind_some] at run
    obtain ⟨located', c₁, here₁, -⟩ := located.exec distinct here running.1 before
    obtain ⟨-, c₂, here₂, moves⟩ := located'.exec distinct here₁ running.2 run
    rw [here₁, here₂]
    rcases moves with rfl | ⟨fromLan, toBackup⟩
    · exact .inl rfl
    · exact .inr ⟨congrArg some fromLan, congrArg some toBackup⟩
  · intro checked c wan checks current has shares
    rcases checks.cases with ⟨c', -, stays, idle, sameLease⟩ | arrived
    · rw [idle] at current
      cases current
      rw [sameLease, or_self] at has
      exact stays_on_conflict has shares stays
    · rw [arrived] at current
      exact .inl (Option.some.inj current).symm

/-- A new runner of the sample configuration, before its first check. -/
def sampleStart : State :=
  { State.boot sampleConfig with runner := .starting sampleConfig.lanIp }

/-- The WAN has an address of the LAN. -/
def sampleConflict : State :=
  { sampleStart with wanLease := sampleLease (.new 192 168 1 77) }

/-- A check with a shift. -/
def shiftLabels : List Label := .check :: List.replicate 8 (.act .replaced)

/-- The check moves the LAN out of a conflict with the WAN. -/
theorem migration_resolves_sample_conflict :
    RouterConfig.parse .std sampleDoc = .ok sampleConfig ∧
      ∃ s, exec (State.step sampleConfig) sampleStart
          [.wanLease (sampleLease (.new 192 168 1 77))] = some s ∧
        HasNetwork s.wanLease (.slash24 (.new 192 168 1 77)) ∧
        SharesAddress (.slash24 (.new 192 168 1 77)) sampleConfig.lanIp ∧
        (∃ checked, State.Checks sampleConfig s checked ∧
          checked.runner.currentIp = some sampleConfig.backupLanIp) ∧
        ∀ checked c wan, State.Checks sampleConfig s checked →
          checked.runner.currentIp = some c →
          (HasNetwork s.wanLease wan ∨ HasNetwork checked.wanLease wan) → SharesAddress wan c →
          c = sampleConfig.backupLanIp ∨ SharesAddress wan sampleConfig.backupLanIp := by
  have shared : SharesAddress (.slash24 (.new 192 168 1 77)) sampleConfig.lanIp :=
    isSubnetOverlap_iff.mp (by decide)
  have running : Label.stop ∉ [Label.wanLease (sampleLease (.new 192 168 1 77))] := by simp
  have busy : Meets (State.step sampleConfig) (fun s _ => s.runner.isIdle = false)
      sampleConflict shiftLabels := by
    decide +kernel
  obtain ⟨moved, run, idle⟩ : ∃ s, exec (State.step sampleConfig) sampleConflict shiftLabels =
      some s ∧ s.runner = .idle sampleConfig.backupLanIp := by
    decide +kernel
  obtain ⟨decided, taken, onward⟩ := exec_cons_eq_some.mp run
  refine ⟨parse_sampleDoc, sampleConflict, rfl, ⟨rfl, rfl, by decide⟩, shared, ⟨moved, ?_, ?_⟩,
    (migration_resolves_conflicts parse_sampleDoc rfl running rfl).2.2.2⟩
  · exact ⟨decided, _, taken, onward, busy.2 decided taken, congrArg Runner.isIdle idle⟩
  · exact congrArg Runner.currentIp idle

end TrimRouter.Lan
