import TrimRouter.Lan.Manager
import TrimRouter.Lib.Run

/-!
# The firewall

`init/firewall.rs`: the rules of the packet filter, and `configure_firewall` with its two
commits to the kernel, one that deletes the old table and one that adds the new one.  Either
may be refused.  At boot an error ends the router; in `update_firewall_for_subnet` of the LAN
manager it is logged and the router goes on.

The kernel holds the table of the router or none, and without it lets all input pass.  The table is
one of IPv4, and so are the packets.  `ruleset_protects` is about the table, `filter_kept_iff` about
runs of the two commits, and `call_refines` about the model of the LAN manager.

Left out: the log messages, and the encoding of rules as netlink messages.
-/

namespace TrimRouter.Firewall

open Run Check

/-! ## Packets and rules -/

/-- The state that connection tracking gives a packet. -/
inductive CtState where
  | invalid
  | established
  | related
  | new
  | untracked
deriving DecidableEq

/-- The protocol above IP. -/
inductive Protocol where
  | tcp
  | udp
  | icmp
  | other (number : BitVec 8)
deriving DecidableEq

/-- What the rules read of a packet. -/
structure Packet where
  iif : Option String
  oif : Option String
  ct : CtState
  protocol : Protocol
  /-- the destination port, for TCP and UDP -/
  dport : BitVec 16
deriving DecidableEq

/-- One condition of a rule. -/
inductive Expr where
  | ctState (states : List CtState)
  | iiface (name : String)
  | oiface (name : String)
  | dport (port : BitVec 16) (protocol : Protocol)
  | icmp
deriving DecidableEq

/-- What a rule does with a packet that meets its conditions. -/
inductive Statement where
  | accept
  | drop
  | dnat (ip : Ipv4Addr) (port : BitVec 16)
  | masquerade
deriving DecidableEq

/-- A `Rule` of a chain. -/
structure Rule where
  exprs : List Expr
  statement : Statement
deriving DecidableEq

/-- `HookClass`, as far as it is used. -/
inductive Hook where
  | preRouting
  | postRouting
  | input
deriving DecidableEq

/-- `ChainType`, as far as it is used. -/
inductive ChainType where
  | nat
  | filter
deriving DecidableEq

/-- `ChainPolicy`, which is also the verdict on a packet. -/
inductive ChainPolicy where
  | accept
  | drop
deriving DecidableEq

/-- A `Chain` with its rules. -/
structure Chain where
  name : String
  hook : Hook
  priority : Int
  type : ChainType
  policy : ChainPolicy
  rules : List Rule
deriving DecidableEq

/-- A `Table` with its chains. -/
structure Table where
  name : String
  chains : List Chain
deriving DecidableEq

/-! ## What the kernel does with a packet -/

/-- The packet meets the condition. -/
def Expr.holds (packet : Packet) : Expr → Bool
  | .ctState states => states.contains packet.ct
  | .iiface name => packet.iif == some name
  | .oiface name => packet.oif == some name
  | .dport port protocol => packet.protocol == protocol && packet.dport == port
  | .icmp => packet.protocol == .icmp

/-- The packet meets every condition of the rule. -/
def Rule.holds (packet : Packet) (rule : Rule) : Bool := rule.exprs.all (Expr.holds packet)

/-- The verdict of a rule on a packet that meets its conditions: address translation lets
the packet pass. -/
def Statement.verdict : Statement → ChainPolicy
  | .drop => .drop
  | _ => .accept

/-- The first rule whose conditions hold decides, and the policy when there is none. -/
def Chain.verdict (packet : Packet) (chain : Chain) : ChainPolicy :=
  match chain.rules.find? (Rule.holds packet) with
  | some rule => rule.statement.verdict
  | none => chain.policy

/-- What becomes of a packet for the router itself: it is dropped if a chain at the input
hook drops it, and accepted otherwise, so always when there is no table. -/
def input (kernel : Option Table) (packet : Packet) : ChainPolicy :=
  match kernel with
  | none => .accept
  | some table =>
    if (table.chains.filter (·.hook == .input)).any (·.verdict packet == .drop) then .drop
    else .accept

/-! ## The rules of the router -/

/-- `IFNAMSIZ`. -/
def ifnamsiz : Nat := 16

/-- `WAN_INTERFACE`. -/
def wanInterface : String := "wan"

/-- `LAN_INTERFACE`. -/
def lanInterface : String := "lan"

/-- The errors of `configure_firewall`. -/
inductive FirewallError where
  | invalidInterfaceName (name : String)
  | sameInterface (name : String)
  /-- the kernel refused a commit -/
  | query
deriving DecidableEq

/-- The texts of the errors that `configure_firewall` words itself. -/
def FirewallError.message : FirewallError → Option String
  | .invalidInterfaceName name =>
    some ("Invalid network interface name '" ++ name ++ "': must be non-empty, < "
      ++ toString ifnamsiz ++ " bytes, and contain no null bytes")
  | .sameInterface name =>
    some ("WAN and LAN interfaces must be distinct (both given as '" ++ name ++ "')")
  | .query => none

/-- `validate_interface_name`. -/
def validateInterfaceName (name : String) : Except FirewallError Unit :=
  ensure (!(name.isEmpty || ifnamsiz ≤ name.utf8ByteSize || name.toList.contains '\x00'))
    (.invalidInterfaceName name)

/-- `ct_invalid`. -/
def ctInvalid : Expr := .ctState [.invalid]

/-- `ct_established_and_related`. -/
def ctEstablishedAndRelated : Expr := .ctState [.established, .related]

/-- `build_single_dnat_rule`. -/
def buildSingleDnatRule (wanIface : String) (protocol : Protocol) (extPort : BitVec 16)
    (intIp : Ipv4Addr) (intPort : BitVec 16) : Rule :=
  ⟨[.iiface wanIface, .dport extPort protocol], .dnat intIp intPort⟩

/-- `build_dnat_rules`: a forward of both protocols has two rules, the one for TCP first. -/
def buildDnatRules (wanIface : String) (rules : List PortForwardRule) : List Rule :=
  rules.flatMap fun rule =>
    (if rule.protocol == .tcp || rule.protocol == .both then
      [buildSingleDnatRule wanIface .tcp rule.externalPort rule.internalIp rule.internalPort]
    else []) ++
    (if rule.protocol == .udp || rule.protocol == .both then
      [buildSingleDnatRule wanIface .udp rule.externalPort rule.internalIp rule.internalPort]
    else [])

/-- `build_nat_rule`. -/
def buildNatRule (wanIface : String) : Rule := ⟨[.oiface wanIface], .masquerade⟩

/-- `build_filter_rules`. -/
def buildFilterRules (wanIface lanIface : String) : List Rule :=
  [⟨[ctInvalid], .drop⟩,
   ⟨[.iiface "lo"], .accept⟩,
   ⟨[ctEstablishedAndRelated], .accept⟩,
   ⟨[.iiface lanIface], .accept⟩,
   ⟨[.iiface wanIface, .dport clientPort .udp], .accept⟩,
   ⟨[.icmp], .accept⟩]

/-- The chain `filter_input`. -/
def filterChain (wanIface lanIface : String) : Chain where
  name := "filter_input"
  hook := .input
  priority := 0
  type := .filter
  policy := .drop
  rules := buildFilterRules wanIface lanIface

/-- The table that the second commit of `configure_firewall` adds. -/
def ruleset (wanIface lanIface : String) (portForwards : List PortForwardRule) : Table where
  name := "trimrouter"
  chains :=
    [{ name := "nat_prerouting", hook := .preRouting, priority := -100, type := .nat
       policy := .accept, rules := buildDnatRules wanIface portForwards },
     { name := "nat_postrouting", hook := .postRouting, priority := 100, type := .nat
       policy := .accept, rules := [buildNatRule wanIface] },
     filterChain wanIface lanIface]

/-- The checks of `configure_firewall` before its first commit, and the table that its
second one adds. -/
def prepare (wanIface lanIface : String) (portForwards : List PortForwardRule) :
    Except FirewallError Table := do
  validateInterfaceName wanIface
  validateInterfaceName lanIface
  ensure (wanIface ≠ lanIface) (.sameInterface wanIface)
  .ok (ruleset wanIface lanIface portForwards)

theorem prepare_router (portForwards : List PortForwardRule) :
    prepare wanInterface lanInterface portForwards =
      .ok (ruleset wanInterface lanInterface portForwards) := by
  rfl

/-! ## The calls of `configure_firewall` -/

/-- How far a call of `configure_firewall` is. -/
inductive Call where
  | idle
  /-- before the commit of `flush_existing_table` -/
  | flushing (table : Table)
  /-- before the commit that adds the table -/
  | adding (table : Table)
deriving DecidableEq

/-- The kernel and the call that is under way. -/
structure State where
  kernel : Option Table
  call : Call
deriving DecidableEq

/-- One step. -/
inductive Label where
  /-- a call, with the forwards of the subnet -/
  | configure (portForwards : List PortForwardRule)
  /-- the commit of the deletion; that there is no table to delete is no error -/
  | flush (accepted : Bool)
  /-- the commit of the new table -/
  | add (accepted : Bool)
deriving DecidableEq

/-- The step of a label.  The caller of a call that ends in an error goes on. -/
def step (s : State) : Label → Option State
  | .configure portForwards =>
    match s.call with
    | .idle =>
      match prepare wanInterface lanInterface portForwards with
      | .ok table => some { s with call := .flushing table }
      | .error _ => some s
    | _ => none
  | .flush accepted =>
    match s.call with
    | .flushing table =>
      if accepted then some { kernel := none, call := .adding table }
      else some { s with call := .idle }
    | _ => none
  | .add accepted =>
    match s.call with
    | .adding table =>
      if accepted then some { kernel := some table, call := .idle }
      else some { s with call := .idle }
    | _ => none

/-- The kernel before boot. -/
def State.start : State := ⟨none, .idle⟩

/-- The kernel after `setup_loopback_and_firewall`, which ends the router unless
`configure_firewall` succeeds. -/
def State.booted (portForwards : List PortForwardRule) : State :=
  ⟨some (ruleset wanInterface lanInterface portForwards), .idle⟩

/-- The steps of one call, given the answers of the kernel. -/
def callLabels (portForwards : List PortForwardRule) (flushed added : Bool) : List Label :=
  if flushed then [.configure portForwards, .flush true, .add added]
  else [.configure portForwards, .flush false]

theorem exec_boot (portForwards : List PortForwardRule) :
    exec step .start (callLabels portForwards true true) = some (.booted portForwards) := rfl

/-- What the answers of the kernel make of a call, in the terms of the LAN manager. -/
def outcome (flushed added : Bool) : Lan.FirewallOutcome :=
  if flushed then if added then .replaced else .deleted else .kept

/-- A call does to the forwards in the kernel what the action of the LAN manager does. -/
theorem call_refines (s : Lan.State) (currentIp : Ipv4Net) (portForwards : List PortForwardRule)
    (flushed added : Bool) :
    exec step ⟨s.firewall.map (ruleset wanInterface lanInterface), .idle⟩
        (callLabels portForwards flushed added) =
      some ⟨(s.perform currentIp (outcome flushed added)
        (.updateFirewall portForwards)).firewall.map (ruleset wanInterface lanInterface),
        .idle⟩ := by
  cases flushed with
  | false => rfl
  | true => cases added <;> rfl

/-! ## The filter -/

/-- Input from the WAN that the router did not ask for, apart from the DHCP client's port
and ICMP. -/
structure Packet.Unsolicited (packet : Packet) : Prop where
  wan : packet.iif = some wanInterface
  fresh : packet.ct ∉ [CtState.established, CtState.related]
  port : ¬ (packet.protocol = .udp ∧ packet.dport = clientPort)
  notIcmp : packet.protocol ≠ .icmp

/-- The filter is in the kernel and keeps unsolicited input from the WAN out. -/
structure Protects (kernel : Option Table) : Prop where
  chain : ∃ table ∈ kernel, ∃ chain ∈ table.chains,
    chain.name = "filter_input" ∧ chain.hook = .input ∧ chain.policy = .drop
  drops : ∀ packet : Packet, packet.Unsolicited → input kernel packet = .drop

theorem Chain.verdict_eq_drop {chain : Chain} {packet : Packet} (policy : chain.policy = .drop)
    (rules : ∀ rule ∈ chain.rules, rule.holds packet = true → rule.statement = .drop) :
    chain.verdict packet = .drop := by
  unfold Chain.verdict
  cases found : chain.rules.find? (Rule.holds packet) with
  | none => exact policy
  | some rule =>
    have drops := rules rule (List.mem_of_find?_eq_some found) (List.find?_some found)
    simp only [drops, Statement.verdict]

theorem filterChain_verdict {packet : Packet} (unsolicited : packet.Unsolicited) :
    (filterChain wanInterface lanInterface).verdict packet = .drop := by
  obtain ⟨wan, fresh, port, notIcmp⟩ := unsolicited
  have fromLo : packet.iif ≠ some "lo" := by rw [wan]; decide
  have fromLan : packet.iif ≠ some lanInterface := by rw [wan]; decide
  apply Chain.verdict_eq_drop rfl
  intro rule member holds
  simp only [filterChain, buildFilterRules, List.mem_cons, List.not_mem_nil, or_false] at member
  rcases member with rfl | rfl | rfl | rfl | rfl | rfl
  · rfl
  · simp [Rule.holds, Expr.holds, fromLo] at holds
  · simp [Rule.holds, Expr.holds, ctEstablishedAndRelated] at holds fresh
    exact (holds.elim fresh.1 fresh.2).elim
  · simp [Rule.holds, Expr.holds, fromLan] at holds
  · simp only [Rule.holds, Expr.holds, List.all_cons, List.all_nil, Bool.and_true,
      Bool.and_eq_true, beq_iff_eq] at holds
    exact absurd holds.2 port
  · simp [Rule.holds, Expr.holds, notIcmp] at holds

theorem ruleset_protects (portForwards : List PortForwardRule) :
    Protects (some (ruleset wanInterface lanInterface portForwards)) := by
  refine ⟨⟨_, rfl, filterChain wanInterface lanInterface, by simp [ruleset], rfl, rfl, rfl⟩, ?_⟩
  intro packet unsolicited
  have drop := filterChain_verdict unsolicited
  simp [input, ruleset, filterChain] at drop ⊢
  exact drop

theorem not_protects_none : ¬ Protects none := by
  intro protects
  obtain ⟨table, present, -⟩ := protects.chain
  cases present

/-- A table that a call is about to put into the kernel protects. -/
def Call.Sound : Call → Prop
  | .idle => True
  | .flushing table => Protects (some table)
  | .adding table => Protects (some table)

/-! ## The filter along a run -/

/-- What a step does to the kernel and to the call. -/
inductive Step : State → Label → State → Prop
  | configure {kernel : Option Table} (portForwards : List PortForwardRule) :
      Step ⟨kernel, .idle⟩ (.configure portForwards)
        ⟨kernel, .flushing (ruleset wanInterface lanInterface portForwards)⟩
  | flush {kernel : Option Table} (table : Table) :
      Step ⟨kernel, .flushing table⟩ (.flush true) ⟨none, .adding table⟩
  | flushRefused {kernel : Option Table} (table : Table) :
      Step ⟨kernel, .flushing table⟩ (.flush false) ⟨kernel, .idle⟩
  | add {kernel : Option Table} (table : Table) :
      Step ⟨kernel, .adding table⟩ (.add true) ⟨some table, .idle⟩
  | addRefused {kernel : Option Table} (table : Table) :
      Step ⟨kernel, .adding table⟩ (.add false) ⟨kernel, .idle⟩

theorem Step.of_step {s t : State} {l : Label} (h : step s l = some t) : Step s l t := by
  rcases s with ⟨kernel, call⟩
  cases l with
  | configure portForwards =>
    cases call with
    | idle =>
      simp only [step, prepare_router, Option.some.injEq] at h
      subst h
      exact .configure portForwards
    | flushing | adding => cases h
  | flush accepted =>
    cases call with
    | idle | adding => cases h
    | flushing table =>
      cases accepted <;> cases h
      · exact .flushRefused table
      · exact .flush table
  | add accepted =>
    cases call with
    | idle | flushing => cases h
    | adding table =>
      cases accepted <;> cases h
      · exact .addRefused table
      · exact .add table

theorem sound_step {s t : State} {l : Label} (sound : s.call.Sound) (h : step s l = some t) :
    t.call.Sound := by
  cases Step.of_step h with
  | configure portForwards => exact ruleset_protects portForwards
  | flush table => exact sound
  | flushRefused | add | addRefused => trivial

theorem sound_exec {ls : List Label} {portForwards : List PortForwardRule} {s : State}
    (run : exec step (.booted portForwards) ls = some s) : s.call.Sound := by
  have start : (State.booted portForwards).call.Sound := trivial
  exact exec_keeps (fun s => s.call.Sound) (fun _ _ _ sound => sound_step sound) start run

/-- The filter is in the kernel, and a call under way brings a filter too. -/
structure Guarded (s : State) : Prop where
  protects : Protects s.kernel
  sound : s.call.Sound

/-- A step takes the filter away exactly when it commits the deletion. -/
theorem guarded_step_iff {s t : State} {l : Label} (guarded : Guarded s)
    (h : step s l = some t) : Guarded t ↔ l ≠ .flush true := by
  have sound := sound_step guarded.sound h
  cases Step.of_step h with
  | configure | flushRefused | addRefused => exact iff_of_true ⟨guarded.protects, sound⟩ nofun
  | flush table =>
    refine iff_of_false ?_ (· rfl)
    intro guarded'
    exact not_protects_none guarded'.protects
  | add table => exact iff_of_true ⟨guarded.sound, sound⟩ nofun

/-- After boot the filter is in the kernel in every state of a run exactly when no deletion
of a table is committed in it. -/
theorem filter_kept_iff {portForwards : List PortForwardRule} {ls : List Label} {last : State}
    (run : exec step (.booted portForwards) ls = some last) :
    (∀ done s, done <+: ls → exec step (.booted portForwards) done = some s →
      Protects s.kernel) ↔ ∀ l ∈ ls, l ≠ .flush true := by
  have start : Guarded (.booted portForwards) := ⟨ruleset_protects portForwards, trivial⟩
  rw [← meets_labels run, ← prefixes_iff_meets (fun _ _ _ => guarded_step_iff) start run]
  constructor
  · intro protects done s before part
    exact ⟨protects done s before part, sound_exec part⟩
  · intro guarded done s before part
    exact (guarded done s before part).protects

/-- A shift whose first commit is refused keeps the filter. -/
theorem filter_kept_by_refused_shift :
    exec step (.booted []) [.configure [], .flush false] = some (.booted []) ∧
      ∀ done s, done <+: [Label.configure [], .flush false] →
        exec step (.booted []) done = some s → Protects s.kernel := by
  have run : exec step (.booted []) [.configure [], .flush false] = some (.booted []) := rfl
  exact ⟨run, (filter_kept_iff run).mpr (by decide)⟩

/-- A connection to the SSH port that arrives on the WAN. -/
def sshProbe : Packet := ⟨some "wan", none, .new, .tcp, 22⟩

/-- One shift of the LAN whose second commit is refused: the filter is gone between the two
commits and after the shift, and a packet that it dropped gets in. -/
theorem failed_shift_opens_wan :
    sshProbe.Unsolicited ∧ input (State.booted []).kernel sshProbe = .drop ∧
    exec step (.booted []) [.configure [], .flush true] =
      some ⟨none, .adding (ruleset wanInterface lanInterface [])⟩ ∧
    exec step (.booted []) [.configure [], .flush true, .add false] = some ⟨none, .idle⟩ ∧
    input none sshProbe = .accept ∧ ¬ Protects none := by
  refine ⟨⟨rfl, by decide, by decide, by decide⟩, by decide, rfl, rfl, rfl, not_protects_none⟩

end TrimRouter.Firewall
