import Mathlib.Data.List.Basic
import TrimRouter.Lib.HashMap
import TrimRouter.Net

/-!
# The services of an interface

The handlers of link messages of `interface.rs`.  The netlink requests that they make succeed.  A
message without a name or an address is completed from the cache of links, whose names and addresses
stay what they were when the link appeared.
-/

namespace TrimRouter.Interface

/-- What is done about an interface. -/
inductive Act where
  | rename (index : BitVec 32) (name : String)
  | ensureUp (name : String)
  | startServices
  | stopServices
deriving DecidableEq

/-- The name and the MAC address of a `ManagedInterface`.  The configuration has no other than
unicast addresses. -/
structure Target where
  name : String
  mac : MacAddr
  nonzero : mac ≠ .zero
deriving DecidableEq

/-- `ManagedInterface`, with what was done about it. -/
structure ManagedInterface extends Target where
  activeIndex : Option (BitVec 32)
  acts : List Act
deriving DecidableEq

namespace ManagedInterface

/-- `ManagedInterface::new`. -/
def new (target : Target) : ManagedInterface := { target with activeIndex := none, acts := [] }

/-- The calls of `start_services` and `stop_services`. -/
def calls (iface : ManagedInterface) : List Act :=
  iface.acts.filter fun act => act = .startServices ∨ act = .stopServices

/-- `activate_interface`. -/
def activateInterface (iface : ManagedInterface) (index : BitVec 32) (currentName : String) :
    ManagedInterface :=
  let renamed := if currentName = iface.name then [] else [.rename index iface.name]
  { iface with
    activeIndex := some index
    acts := iface.acts ++ renamed ++ [.ensureUp iface.name, .startServices] }

/-- `handle_new_link`. -/
def handleNewLink (index : BitVec 32) (name : String) (mac : MacAddr) (iface : ManagedInterface) :
    ManagedInterface :=
  if mac = iface.mac then
    if iface.activeIndex = none then iface.activateInterface index name
    else if iface.activeIndex = some index then
      { iface with acts := iface.acts ++ [.ensureUp iface.name] }
    else iface
  else if name = iface.name then
    { iface with
      acts := iface.acts ++ [.rename index (iface.name ++ "_old_" ++ toString index.toNat)] }
  else iface

/-- `handle_del_link`. -/
def handleDelLink (index : BitVec 32) (iface : ManagedInterface) : ManagedInterface :=
  if iface.activeIndex = some index then
    { iface with activeIndex := none, acts := iface.acts ++ [.stopServices] }
  else iface

end ManagedInterface

/-- `LinkAttribute`. -/
inductive LinkAttribute where
  | ifName (name : String)
  | address (addr : List (BitVec 8))
  | other

/-- `LinkMessage`, with the flag `LowerUp`. -/
structure LinkMessage where
  index : BitVec 32
  lowerUp : Bool
  attributes : List LinkAttribute

/-- `mac_from_slice`. -/
def macFromSlice : List (BitVec 8) → Option MacAddr
  | [a, b, c, d, e, f] => some (a ++ b ++ c ++ d ++ e ++ f)
  | _ => none

/-- `parse_link_attributes`. -/
def parseLinkAttributes (attributes : List LinkAttribute) : Option String × Option MacAddr :=
  attributes.foldl (fun (name, address) nla =>
    match nla with
    | .ifName n => (some n, address)
    | .address addr => (name, macFromSlice addr)
    | .other => (name, address)) (none, none)

/-- The cache of links: the name, the MAC address and the carrier by the index. -/
abbrev LinkStates := HashMap (BitVec 32) (String × MacAddr × Bool)

/-- `update_carrier_state`. -/
def updateCarrierState (index : BitVec 32) (name : String) (mac : MacAddr) (carrier : Bool)
    (linkStates : LinkStates) : LinkStates :=
  match linkStates.lookup index with
  | some (cachedName, cachedMac, cachedCarrier) =>
    if cachedCarrier = carrier then linkStates
    else linkStates.insert index (cachedName, cachedMac, carrier)
  | none => linkStates.insert index (name, mac, carrier)

/-- The variables of `monitor_interfaces`. -/
structure Monitor where
  interfaces : List ManagedInterface
  linkStates : LinkStates

/-- A link message, with what `if_indextoname` finds. -/
inductive Event where
  | newLink (msg : LinkMessage) (ifIndextoname : Option String)
  | delLink (msg : LinkMessage)

def Event.index : Event → BitVec 32
  | .newLink msg _ => msg.index
  | .delLink msg => msg.index

/-- The address in the message itself. -/
def Event.address : Event → Option MacAddr
  | .newLink msg _ => (parseLinkAttributes msg.attributes).2
  | .delLink _ => none

namespace Monitor

/-- The name and the address of a link in `handle_new_link_event`. -/
def resolve (m : Monitor) (msg : LinkMessage) (ifIndextoname : Option String) :
    Option (String × MacAddr) :=
  match parseLinkAttributes msg.attributes with
  | (some name, some addr) => some (name, addr)
  | (name, address) =>
    match m.linkStates.lookup msg.index with
    | some (cachedName, cachedMac, _) => some (name.getD cachedName, address.getD cachedMac)
    | none => (name <|> ifIndextoname).map fun name => (name, address.getD .zero)

/-- `handle_new_link_event`. -/
def handleNewLinkEvent (m : Monitor) (msg : LinkMessage) (ifIndextoname : Option String) :
    Monitor :=
  match m.resolve msg ifIndextoname with
  | none => m
  | some (n, addr) =>
    if n = "lo" then m
    else
      { interfaces := m.interfaces.map (·.handleNewLink msg.index n addr)
        linkStates := updateCarrierState msg.index n addr msg.lowerUp m.linkStates }

/-- `handle_del_link_event`. -/
def handleDelLinkEvent (m : Monitor) (msg : LinkMessage) : Monitor where
  interfaces := m.interfaces.map (·.handleDelLink msg.index)
  linkStates := m.linkStates.erase msg.index

/-- `process_netlink_message`. -/
def processNetlinkMessage (m : Monitor) : Event → Monitor
  | .newLink msg ifIndextoname => m.handleNewLinkEvent msg ifIndextoname
  | .delLink msg => m.handleDelLinkEvent msg

/-- The monitor after the messages. -/
def run (targets : List Target) (events : List Event) : Monitor :=
  events.foldl processNetlinkMessage ⟨targets.map .new, ∅⟩

end Monitor

/-! ## What was announced -/

/-- The addresses that the link has announced since it appeared, the latest one first. -/
def announced (index : BitVec 32) (events : List Event) : List MacAddr :=
  events.foldl (fun macs event =>
    if event.index = index then
      match event with
      | .newLink msg _ => (parseLinkAttributes msg.attributes).2.toList ++ macs
      | .delLink _ => []
    else macs) []

/-- The calls of services that are started and stopped in turn, and whether they run after them. -/
def InTurn (calls : List Act) (running : Bool) : Prop :=
  ∃ n, calls = (List.range n).map (fun i => if i % 2 = 0 then .startServices else .stopServices) ∧
    running = decide (n % 2 = 1)

theorem InTurn.concat {calls : List Act} {running : Bool} (inTurn : InTurn calls running) :
    InTurn (calls ++ [if running then .stopServices else .startServices]) (!running) := by
  obtain ⟨n, rfl, rfl⟩ := inTurn
  refine ⟨n + 1, ?_, ?_⟩
  · rcases Nat.mod_two_eq_zero_or_one n with parity | parity <;> simp [List.range_succ, parity]
  · rw [← decide_not, decide_eq_decide]
    omega

variable {targets : List Target} {events : List Event} {event : Event} {m : Monitor}
  {iface iface' : ManagedInterface} {index : BitVec 32} {name : String} {mac : MacAddr}
  {carrier : Bool} {msg : LinkMessage} {ifIndextoname : Option String} {linkStates : LinkStates}

theorem announced_of_ne (other : event.index ≠ index) :
    announced index (events ++ [event]) = announced index events := by
  simp [announced, other]

theorem announced_newLink :
    announced msg.index (events ++ [.newLink msg ifIndextoname]) =
      (parseLinkAttributes msg.attributes).2.toList ++ announced msg.index events := by
  simp [announced, Event.index]

theorem head?_announced (given : event.address = some mac) :
    (announced event.index (events ++ [event])).head? = some mac := by
  cases event with
  | newLink msg ifIndextoname =>
    have given : (parseLinkAttributes msg.attributes).2 = some mac := given
    rw [Event.index, announced_newLink, given]
    rfl
  | delLink msg => cases given

/-- What was announced is forgotten when the link disappears. -/
theorem mem_announced_concat (before : mac ∈ announced index events)
    (there : ∀ msg, event = .delLink msg → msg.index ≠ index) :
    mac ∈ announced index (events ++ [event]) := by
  by_cases same : event.index = index
  · cases event with
    | newLink msg ifIndextoname =>
      subst same
      rw [Event.index, announced_newLink]
      exact List.mem_append_right _ before
    | delLink msg => exact absurd same (there msg rfl)
  · rwa [announced_of_ne same]

/-! ## The cache -/

/-- The cached addresses were announced, or are zeros. -/
def Cached (events : List Event) (linkStates : LinkStates) : Prop :=
  ∀ index name mac carrier, linkStates.lookup index = some (name, mac, carrier) →
    mac ∈ announced index events ∨ mac = .zero

theorem Cached.newLink (cached : Cached events linkStates) :
    Cached (events ++ [.newLink msg ifIndextoname]) linkStates :=
  fun index name mac carrier lookup =>
    (cached index name mac carrier lookup).imp (mem_announced_concat · nofun) id

theorem Cached.insert (cached : Cached events linkStates)
    (new : mac ∈ announced index events ∨ mac = .zero) :
    Cached events (linkStates.insert index (name, mac, carrier)) := by
  intro other name mac carrier found
  rw [HashMap.lookup_insert_eq] at found
  split at found
  · rename_i same
    cases found
    exact same ▸ new
  · exact cached _ _ _ _ found

theorem Cached.updateCarrierState (cached : Cached events linkStates)
    (new : mac ∈ announced index events ∨ mac = .zero) :
    Cached events (updateCarrierState index name mac carrier linkStates) := by
  unfold Interface.updateCarrierState
  split
  · rename_i lookup
    split
    · exact cached
    · exact cached.insert (cached _ _ _ _ lookup)
  · exact cached.insert new

theorem Cached.delLink (cached : Cached events linkStates) :
    Cached (events ++ [.delLink msg]) (linkStates.erase msg.index) := by
  intro index name mac carrier found
  rw [HashMap.lookup_erase_eq] at found
  split at found
  · cases found
  · rename_i other
    have same : announced index (events ++ [.delLink msg]) = announced index events :=
      announced_of_ne (Ne.symm other)
    exact same ▸ cached _ _ _ _ found

/-- A message without an address has the cached one, or zeros. -/
theorem resolve_address (found : m.resolve msg ifIndextoname = some (name, mac)) :
    mac = ((parseLinkAttributes msg.attributes).2.or
      ((m.linkStates.lookup msg.index).map (·.2.1))).getD .zero := by
  unfold Monitor.resolve at found
  generalize parseLinkAttributes msg.attributes = parsed at found ⊢
  generalize m.linkStates.lookup msg.index = cached at found ⊢
  rcases parsed with ⟨_ | given, _ | addr⟩ <;> rcases cached with _ | ⟨_, _, _⟩ <;>
    simp_all [Option.map_eq_some_iff]

theorem Cached.resolve (cached : Cached events m.linkStates)
    (found : m.resolve msg ifIndextoname = some (name, mac)) :
    mac ∈ announced msg.index (events ++ [.newLink msg ifIndextoname]) ∨ mac = .zero := by
  rw [announced_newLink, resolve_address found]
  cases (parseLinkAttributes msg.attributes).2 with
  | some addr => exact .inl List.mem_cons_self
  | none =>
    cases lookup : m.linkStates.lookup msg.index with
    | some state => exact cached _ _ _ _ lookup
    | none => exact .inr rfl

/-! ## What a message does to an interface -/

inductive Changes (events : List Event) (event : Event) (iface : ManagedInterface) :
    ManagedInterface → Prop
  | quiet {iface' : ManagedInterface} (target : iface'.mac = iface.mac)
      (calls : iface'.calls = iface.calls) (active : iface'.activeIndex = iface.activeIndex)
      (there : ∀ msg, event = .delLink msg → iface.activeIndex ≠ some msg.index) :
      Changes events event iface iface'
  | started {iface' : ManagedInterface} (target : iface'.mac = iface.mac)
      (given : ∀ addr ∈ event.address, addr = iface.mac)
      (own : iface.mac ∈ announced event.index (events ++ [event]))
      (inactive : iface.activeIndex = none) (calls : iface'.calls = iface.calls ++ [.startServices])
      (active : iface'.activeIndex = some event.index) : Changes events event iface iface'
  | stopped {iface' : ManagedInterface} (here : iface.activeIndex = some event.index)
      (calls : iface'.calls = iface.calls ++ [.stopServices])
      (inactive : iface'.activeIndex = none) : Changes events event iface iface'

theorem Changes.newLink (given : ∀ addr ∈ (parseLinkAttributes msg.attributes).2, addr = mac)
    (address : mac ∈ announced msg.index (events ++ [.newLink msg ifIndextoname]) ∨ mac = .zero) :
    Changes events (.newLink msg ifIndextoname) iface (iface.handleNewLink msg.index name mac) := by
  unfold ManagedInterface.handleNewLink
  split
  · rename_i own
    subst own
    split
    · rename_i inactive
      refine .started rfl given (address.resolve_right iface.nonzero) inactive ?_ rfl
      unfold ManagedInterface.activateInterface ManagedInterface.calls
      split <;> simp
    · split
      · exact .quiet rfl (by simp [ManagedInterface.calls]) rfl nofun
      · exact .quiet rfl rfl rfl nofun
  · split
    · exact .quiet rfl (by simp [ManagedInterface.calls]) rfl nofun
    · exact .quiet rfl rfl rfl nofun

theorem Changes.delLink : Changes events (.delLink msg) iface (iface.handleDelLink msg.index) := by
  unfold ManagedInterface.handleDelLink
  split
  · rename_i here
    exact .stopped here (by simp [ManagedInterface.calls]) rfl
  · rename_i other
    refine .quiet rfl rfl rfl ?_
    rintro msg' ⟨⟩
    exact other

theorem Cached.step (cached : Cached events m.linkStates) (event : Event) :
    Cached (events ++ [event]) (m.processNetlinkMessage event).linkStates ∧
      ∃ f, (m.processNetlinkMessage event).interfaces = m.interfaces.map f ∧
        ∀ iface, Changes events event iface (f iface) := by
  cases event with
  | newLink msg ifIndextoname =>
    have same : ∃ f, m.interfaces = m.interfaces.map f ∧
        ∀ iface, Changes events (.newLink msg ifIndextoname) iface (f iface) :=
      ⟨id, (List.map_id _).symm, fun _ => .quiet rfl rfl rfl nofun⟩
    unfold Monitor.processNetlinkMessage Monitor.handleNewLinkEvent
    dsimp only
    split
    · exact ⟨cached.newLink, same⟩
    · rename_i addr found
      have address := cached.resolve found
      have given : ∀ own ∈ (parseLinkAttributes msg.attributes).2, own = addr := by
        intro own given
        rw [resolve_address found, Option.mem_def.mp given]
        rfl
      split
      · exact ⟨cached.newLink, same⟩
      · exact ⟨cached.newLink.updateCarrierState address, _, rfl, fun _ => .newLink given address⟩
  | delLink msg => exact ⟨cached.delLink, _, rfl, fun _ => .delLink⟩

/-- The services were started and stopped in turn, and run while the link is there. -/
structure ManagedInterface.Follows (events : List Event) (iface : ManagedInterface) : Prop where
  inTurn : InTurn iface.calls iface.activeIndex.isSome
  announced : ∀ index, iface.activeIndex = some index → iface.mac ∈ announced index events

theorem Changes.follows (changes : Changes events event iface iface')
    (follows : iface.Follows events) : iface'.Follows (events ++ [event]) := by
  have next := follows.inTurn.concat
  cases changes with
  | quiet target calls active there =>
    refine ⟨by rw [calls, active]; exact follows.inTurn, fun index active' => ?_⟩
    rw [active] at active'
    rw [target]
    refine mem_announced_concat (follows.announced index active') fun msg del same => ?_
    exact there msg del (same ▸ active')
  | started target given own inactive calls active =>
    rw [inactive] at next
    refine ⟨by rw [calls, active]; exact next, fun index active' => ?_⟩
    cases active.symm.trans active'
    rwa [target]
  | stopped here calls inactive =>
    rw [here] at next
    refine ⟨by rw [calls, inactive]; exact next, fun index active => ?_⟩
    cases inactive.symm.trans active

theorem run_concat :
    Monitor.run targets (events ++ [event]) =
      (Monitor.run targets events).processNetlinkMessage event := List.foldl_concat ..

theorem run_follows : Cached events (Monitor.run targets events).linkStates ∧
    ∀ iface ∈ (Monitor.run targets events).interfaces, iface.Follows events := by
  induction events using List.reverseRecOn with
  | nil => exact ⟨nofun, List.forall_mem_map.mpr fun target _ => ⟨⟨0, rfl, rfl⟩, nofun⟩⟩
  | append_singleton events event ih =>
    obtain ⟨cached, f, after, changes⟩ := ih.1.step event
    rw [run_concat]
    refine ⟨cached, after ▸ List.forall_mem_map.mpr fun iface listed => ?_⟩
    exact (changes iface).follows (ih.2 iface listed)

/-- In every run, the services of an interface are started and stopped in turn, the last call was a
start exactly while the interface has an index, and the link with this index has announced the
address of the interface since it appeared.  A message of another link, with another address, starts
and stops nothing, if the address is in the message or the link has announced no other address since
it appeared. -/
theorem services_follow_link (targets : List Target) (events : List Event) :
    (∀ iface ∈ (Monitor.run targets events).interfaces,
      InTurn iface.calls iface.activeIndex.isSome ∧
      ∀ index, iface.activeIndex = some index → iface.mac ∈ announced index events) ∧
    ∀ event, (event.address = none → ∀ left ∈ announced event.index (events ++ [event]),
        ∀ right ∈ announced event.index (events ++ [event]), left = right) →
      ∀ (position : Nat) (iface iface' : ManagedInterface),
        (Monitor.run targets events).interfaces[position]? = some iface →
        (Monitor.run targets (events ++ [event])).interfaces[position]? = some iface' →
        iface.activeIndex ≠ some event.index →
        (announced event.index (events ++ [event])).head? ≠ some iface.mac →
        iface'.calls = iface.calls := by
  obtain ⟨cached, follows⟩ := @run_follows targets events
  refine ⟨fun iface listed => ⟨(follows iface listed).1, (follows iface listed).2⟩,
    fun event steady position iface iface' before after otherIndex otherMac => ?_⟩
  obtain ⟨-, f, next, changes⟩ := cached.step event
  rw [run_concat, next, List.getElem?_map, before] at after
  cases after
  cases changes iface with
  | quiet _ calls => exact calls
  | started _ given own =>
    cases address : event.address with
    | some addr =>
      rw [head?_announced address, given addr address] at otherMac
      exact absurd rfl otherMac
    | none =>
      -- the address would be the only one that the link has announced
      obtain ⟨latest, rest, list⟩ := List.exists_cons_of_ne_nil (List.ne_nil_of_mem own)
      have first : latest = iface.mac :=
        steady address latest (list ▸ List.mem_cons_self) iface.mac own
      exact absurd (by rw [list, first]; rfl) otherMac
  | stopped here => exact absurd here otherIndex

/-- A message of the link with that index, and its name and address if there are. -/
def linkMessage (index : BitVec 32) (name : Option String) (addr : Option (List (BitVec 8))) :
    LinkMessage :=
  ⟨index, true, name.toList.map .ifName ++ addr.toList.map .address⟩

/-- The WAN of the runs below. -/
def sampleWan : Target := ⟨"wan", 0x020000000001, by decide⟩

/-- Two links have had the address of the WAN, the second one has changed its own, and the first one
has gone. -/
def changedLink : List Event :=
  [.newLink (linkMessage 2 (some "eth0") (some [2, 0, 0, 0, 0, 1])) none,
    .newLink (linkMessage 3 (some "eth1") (some [2, 0, 0, 0, 0, 1])) none,
    .newLink (linkMessage 3 (some "eth1") (some [2, 0, 0, 0, 0, 2])) none,
    .delLink (linkMessage 2 none none)]

/-- A message of the second link with its address starts nothing. -/
theorem services_follow_changed_link :
    ∃ iface iface', (Monitor.run [sampleWan] changedLink).interfaces[0]? = some iface ∧
      (Monitor.run [sampleWan] (changedLink ++ [.newLink (linkMessage 3 (some "eth1")
        (some [2, 0, 0, 0, 0, 2])) none])).interfaces[0]? = some iface' ∧
      iface'.calls = iface.calls :=
  ⟨_, _, rfl, rfl, (services_follow_link [sampleWan] changedLink).2
    (.newLink (linkMessage 3 (some "eth1") (some [2, 0, 0, 0, 0, 2])) none) (by decide) 0 _ _ rfl
    rfl (by decide) (by decide)⟩

/-- A message without an address starts the services on it. -/
theorem changed_link_starts_services :
    ∃ (wan : Target) (events : List Event) (event : Event) (iface iface' : ManagedInterface),
      (Monitor.run [wan] events).interfaces[0]? = some iface ∧
      (Monitor.run [wan] (events ++ [event])).interfaces[0]? = some iface' ∧
      iface.activeIndex ≠ some event.index ∧
      (announced event.index (events ++ [event])).head? = some 0x020000000002 ∧
      iface.mac = 0x020000000001 ∧ iface.calls = [.startServices, .stopServices] ∧
      iface'.calls = [.startServices, .stopServices, .startServices] := by
  refine ⟨sampleWan, changedLink, .newLink (linkMessage 3 (some "eth1") none) none, _, _, rfl, rfl,
    ?_⟩
  decide

end TrimRouter.Interface
