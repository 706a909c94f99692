import TrimRouter.Dns.Replication
import TrimRouter.Dns.Zones
import TrimRouter.Lib.ReverseIndex

/-!
# The two tables of local names

The worker keeps the addresses of the local names and, for reverse lookups, the name of each
address.  When a name is registered anew or taken out, the name of its old address goes, although
another registered name may have the same address.  `tables_agree_iff` says when that matters.
-/

namespace TrimRouter.Dns

open Run
open Uncompressed (library emit askFor)

/-- The tables as a map with a reverse index. -/
def LocalDnsTable.index (table : LocalDnsTable) : ReverseIndex String Ipv4Addr :=
  ⟨table.hosts.lookup, table.ips.lookup⟩

/-- The name of an address has the address, and every address of a name has a name. -/
structure LocalDnsTable.Agrees (table : LocalDnsTable) : Prop where
  reverse : ∀ ip name, table.ips.lookup ip = some name → table.hosts.lookup name = some ip
  forward : ∀ name ip, table.hosts.lookup name = some ip → table.ips.lookup ip ≠ none

/-- No other name has the address of the name. -/
def LocalDnsTable.Alone (table : LocalDnsTable) (name : String) (ip : Ipv4Addr) : Prop :=
  ∀ other, table.hosts.lookup other = some ip → other = name

/-- The message takes no address from a name that another name has too. -/
def LocalDnsTable.FreesOwn (table : LocalDnsTable) : Event → Prop
  | .registerLocalHost name ip =>
    ∀ old, table.hosts.lookup name = some old → old = ip ∨ table.Alone name old
  | .deregisterLocalHost name => ∀ old, table.hosts.lookup name = some old → table.Alone name old
  | _ => True

instance (table : LocalDnsTable) (name : String) (ip : Ipv4Addr) :
    Decidable (table.Alone name ip) :=
  decidable_of_iff (∀ e ∈ table.hosts.entries, e.2 = ip → e.1 = name)
    ⟨fun all other found => all ⟨other, ip⟩ (HashMap.mem_entries_iff.mpr found) rfl,
      fun alone e listed same => alone e.1 (same ▸ HashMap.mem_entries_iff.mp listed)⟩

instance (table : LocalDnsTable) (event : Event) : Decidable (table.FreesOwn event) := by
  unfold LocalDnsTable.FreesOwn
  split
  · exact Option.decidableForallMem _
  · exact Option.decidableForallMem _
  · infer_instance

variable {table : LocalDnsTable} {name : String} {ip : Ipv4Addr}

/-! ## One message -/

namespace LocalDnsTable

theorem lookup_ips_deregister {other : Ipv4Addr} :
    (table.deregister name).ips.lookup other = (table.index.release name).key other := by
  cases has : table.hosts.lookup name with
  | none =>
    rw [ReverseIndex.release_of_none has, deregister, has]
    rfl
  | some old =>
    rw [ReverseIndex.release_of_some has, deregister, has]
    simp only [Function.update_apply]
    exact HashMap.lookup_erase_eq

theorem index_deregister : (table.deregister name).index = table.index.release name := by
  apply ReverseIndex.ext
  · rw [ReverseIndex.value_release]
    exact lookup_deregister
  · funext other
    exact lookup_ips_deregister

theorem index_register : (table.register name ip).index = table.index.assign name ip := by
  apply ReverseIndex.ext
  · rw [ReverseIndex.value_assign]
    exact lookup_register
  · -- the second table is that after a deregistration, with the new entry
    have released : (table.register name ip).ips = (table.deregister name).ips.insert ip name := by
      unfold register deregister
      split <;> rfl
    funext other
    change (table.register name ip).ips.lookup other = _
    rw [released, HashMap.lookup_insert_eq, lookup_ips_deregister]
    exact (Function.update_apply (table.index.release name).key ip (some name) other).symm

theorem agrees_iff : table.Agrees ↔ table.index.Sound ∧ table.index.Complete :=
  ⟨fun agrees => ⟨agrees.reverse, agrees.forward⟩, fun both => ⟨both.1, both.2⟩⟩

theorem agrees_register_iff (agrees : table.Agrees) :
    (table.register name ip).Agrees ↔ table.FreesOwn (.registerLocalHost name ip) := by
  obtain ⟨sound, complete⟩ := agrees_iff.mp agrees
  rw [agrees_iff, index_register, ReverseIndex.complete_assign_iff complete]
  exact and_iff_right sound.assign

theorem agrees_deregister_iff (agrees : table.Agrees) :
    (table.deregister name).Agrees ↔ table.FreesOwn (.deregisterLocalHost name) := by
  obtain ⟨sound, complete⟩ := agrees_iff.mp agrees
  rw [agrees_iff, index_deregister, ReverseIndex.complete_release_iff complete]
  exact and_iff_right sound.release

end LocalDnsTable

/-! ## Reverse lookups -/

variable {lib : Hickory} {query : Bytes} {message : Message} {question : Query} {net : Ipv4Net}

/-- A reverse lookup for an address with a name is answered. -/
theorem resolveQuestion_ptr (ptr : question.queryType = .ptr)
    (asks : lib.parseArpaName question.name = some net) (host : net.prefixLen = 32)
    (named : table.ips.lookup net.addr = some name) {target : Name}
    (written : lib.nameFromAscii (name ++ "." ++ localDomain ++ ".") = some target) :
    ∃ response, resolveQuestion lib table message question = some response := by
  have zones : resolveZones lib table message question =
      some (ptrResponse message question.name target) := by
    simp [resolveZones, ptr, resolvePtr, asks, host, named, written]
  unfold resolveQuestion
  split
  · split
    · split
      · exact ⟨_, rfl⟩
      · exact ⟨_, rfl⟩
    · split
      · exact ⟨_, rfl⟩
      · exact ⟨_, zones⟩
  · exact ⟨_, zones⟩

/-- The query is a reverse lookup for the address. -/
structure AsksName (lib : Hickory) (query : Bytes) (ip : Ipv4Addr) : Prop where
  question : ∃ message question net, lib.fromBytes query = some message ∧
    message.opCode = .query ∧ message.queries.head? = some question ∧
    question.queryType = .ptr ∧ lib.parseArpaName question.name = some net ∧
    net.prefixLen = 32 ∧ net.addr = ip

theorem LocalDnsTable.Agrees.ptr_answered (agrees : table.Agrees) (asks : AsksName lib query ip)
    (registered : table.hosts.lookup name = some ip)
    (written : ∀ name ip, table.hosts.lookup name = some ip →
      lib.nameFromAscii (name ++ "." ++ localDomain ++ ".") ≠ none) :
    tryResolveLocalQuery lib table query ≠ none := by
  obtain ⟨message, question, net, parsed, opCode, first, ptr, arpa, host, rfl⟩ := asks.question
  obtain ⟨owner, named⟩ := Option.ne_none_iff_exists'.mp (agrees.forward name _ registered)
  obtain ⟨target, target'⟩ :=
    Option.ne_none_iff_exists'.mp (written owner _ (agrees.reverse _ owner named))
  obtain ⟨response, resolved⟩ : ∃ response,
      resolveQuestion lib table message question = some response :=
    resolveQuestion_ptr ptr arpa host named target'
  have answer := tryResolveLocalQuery_eq_some.mpr
    ⟨message, question, response, parsed, opCode, first, resolved, rfl⟩
  rw [answer]
  exact nofun

/-! ## A run -/

variable {labels : List (Env × Event)} {s t : System} {label : Env × Event}

theorem localTable_of_step (step : System.step lib s label = some t) :
    t.worker.localTable =
      match label.2 with
      | .registerLocalHost name ip => s.worker.localTable.register name ip
      | .deregisterLocalHost name => s.worker.localTable.deregister name
      | _ => s.worker.localTable := by
  obtain ⟨env, event⟩ := label
  obtain ⟨sent, handled⟩ := System.worker_of_step step
  have table : ∀ w, (w, []) = (t.worker, sent) → t.worker.localTable = w.localTable := by
    intro w result
    rw [(Prod.mk.inj result).1]
  cases event with
  | registerLocalHost | deregisterLocalHost => exact table _ (Option.some.inj handled)
  | setUpstreamResolvers servers =>
    exact table { s.worker with upstreamServers := servers } (Option.some.inj handled)
  | _ => exact ((Step.of_handle handled).sameNames rfl).localTable

/-- A step keeps the tables in agreement exactly when it frees no shared address. -/
theorem agrees_of_step_iff (agrees : s.worker.localTable.Agrees)
    (step : System.step lib s label = some t) :
    t.worker.localTable.Agrees ↔ s.worker.localTable.FreesOwn label.2 := by
  obtain ⟨env, event⟩ := label
  rw [localTable_of_step step]
  cases event with
  | registerLocalHost name ip => exact LocalDnsTable.agrees_register_iff agrees
  | deregisterLocalHost name => exact LocalDnsTable.agrees_deregister_iff agrees
  | _ => exact iff_of_true agrees trivial

theorem sound_of_step (sound : s.worker.localTable.index.Sound)
    (step : System.step lib s label = some t) : t.worker.localTable.index.Sound := by
  obtain ⟨env, event⟩ := label
  rw [localTable_of_step step]
  cases event with
  | registerLocalHost name ip =>
    simp only [LocalDnsTable.index_register]
    exact sound.assign
  | deregisterLocalHost name =>
    simp only [LocalDnsTable.index_deregister]
    exact sound.release
  | _ => exact sound

/-- In every run of the worker, the name of an address has that address.  The tables agree after
every part of the run exactly when no message takes from a name an address that another name has
too.  Where they agree, a reverse lookup for a registered address is answered locally. -/
theorem tables_agree_iff (run : exec (System.step lib) .init labels = some s) :
    (∀ ip name, s.worker.localTable.ips.lookup ip = some name →
      s.worker.localTable.hosts.lookup name = some ip) ∧
    ((∀ done t, done <+: labels → exec (System.step lib) .init done = some t →
        t.worker.localTable.Agrees) ↔
      Meets (System.step lib) (fun s label => s.worker.localTable.FreesOwn label.2) .init labels) ∧
    (s.worker.localTable.Agrees →
      (∀ name ip, s.worker.localTable.hosts.lookup name = some ip →
        lib.nameFromAscii (name ++ "." ++ localDomain ++ ".") ≠ none) →
      ∀ name ip query, s.worker.localTable.hosts.lookup name = some ip → AsksName lib query ip →
        tryResolveLocalQuery lib s.worker.localTable query ≠ none) := by
  have start : System.init.worker.localTable.Agrees := ⟨nofun, nofun⟩
  refine ⟨?_, ?_, ?_⟩
  · exact exec_keeps (fun s => s.worker.localTable.index.Sound)
      (fun _ _ _ sound step => sound_of_step sound step) start.reverse run
  · have exact' : ∀ s label t, s.worker.localTable.Agrees → System.step lib s label = some t →
        (t.worker.localTable.Agrees ↔ s.worker.localTable.FreesOwn label.2) :=
      fun _ _ _ agrees step => agrees_of_step_iff agrees step
    exact prefixes_iff_meets exact' start run
  · intro agrees written name ip query registered asks
    exact agrees.ptr_answered asks registered written

/-- The messages of the parent, one after another. -/
def parentMessages (events : List Event) : List (Env × Event) :=
  events.map fun event => (⟨0, [1], true, [], []⟩, event)

/-- Two hosts with addresses of their own, of which one gets a new address. -/
def movingHost : List (Env × Event) :=
  parentMessages [Event.registerLocalHost "nas" (.new 192 168 1 10),
    .registerLocalHost "tv" (.new 192 168 1 11), .registerLocalHost "nas" (.new 192 168 1 12),
    .deregisterLocalHost "tv"]

/-- A reverse lookup for `192.168.1.x`. -/
def ptrQuestion (x : String) : Message :=
  askFor 5 [x, "1", "168", "192", "in-addr", "arpa"] .ptr

def ptrQuery (x : String) : Bytes := emit (ptrQuestion x)

/-- The tables agree all the time, and the new address is found. -/
theorem moving_host_agrees :
    ∃ s, exec (System.step library) .init movingHost = some s ∧
      (∀ done t, done <+: movingHost →
        exec (System.step library) .init done = some t →
          t.worker.localTable.Agrees) ∧
      tryResolveLocalQuery library s.worker.localTable (ptrQuery "12") ≠ none := by
  obtain ⟨s, run, registered⟩ : ∃ s, exec (System.step library) .init movingHost =
      some s ∧ s.worker.localTable.hosts.lookup "nas" = some (.new 192 168 1 12) := by
    decide +kernel
  obtain ⟨-, agree, answered⟩ := tables_agree_iff run
  have always := agree.mpr (by decide +kernel)
  have asks : AsksName library (ptrQuery "12") (.new 192 168 1 12) :=
    ⟨ptrQuestion "12", _, ⟨.new 192 168 1 12, 32, Nat.le_refl 32⟩, by decide +kernel, rfl, rfl, rfl,
      by decide +kernel, rfl, rfl⟩
  refine ⟨s, run, always, ?_⟩
  exact answered (always movingHost s (List.prefix_refl _) run)
    (fun _ _ _ => Option.some_ne_none _) "nas" _ _ registered asks

/-- Two names for one address, of which one goes. -/
def sharedAddress : List (Env × Event) :=
  parentMessages [Event.registerLocalHost "nas" (.new 192 168 1 10),
    .registerLocalHost "files" (.new 192 168 1 10), .deregisterLocalHost "files"]

/-- The other name still has the address, but a reverse lookup for it goes to a resolver. -/
theorem shared_address_forgotten :
    ∃ s, exec (System.step library) .init sharedAddress = some s ∧
      s.worker.localTable.hosts.lookup "nas" = some (.new 192 168 1 10) ∧
      s.worker.localTable.ips.lookup (.new 192 168 1 10) = none ∧
      (handleIncomingQuery library ⟨0, [1], true, [], []⟩ s.worker (ptrQuery "10")
        (.udp 0 ⟨.v4 (.new 192 168 1 20), 5000⟩)).2 =
          [.upstream fallbackDnsServer (setXid 1 (ptrQuery "10"))] := by
  decide +kernel

end TrimRouter.Dns
