import Mathlib.Data.List.Nodup
import Mathlib.Logic.Relation

/-!
# Depth-first search with a limit of levels

Nodes are listed after the nodes that they lead to.  The search goes down a limited number of
levels, and the visited nodes are shared by all its branches.  A search that comes to a visited node
that is not listed would have come around in a circle; `Taller` excludes that without the path to
the node.
-/

namespace TrimRouter.DepthFirst

universe u

/-- The listed and the visited nodes. -/
structure Progress (α : Type u) where
  order : List α
  visited : List α
deriving DecidableEq

variable {α : Type u} {deps : α → Option (List α)} {s t u : Progress α} {a b c : α}
  {levels k : Nat}

/-! ## Chains -/

/-- A node with an entry leads to another one. -/
def Edge (deps : α → Option (List α)) (a b : α) : Prop :=
  (∃ next, deps a = some next ∧ b ∈ next) ∧ (deps b).isSome = true

/-- A chain of so many edges begins at the node. -/
def HasChain (deps : α → Option (List α)) : Nat → α → Prop
  | 0, _ => True
  | k + 1, a => ∃ b, Edge deps a b ∧ HasChain deps k b

theorem HasChain.pred (chain : HasChain deps (k + 1) a) : HasChain deps k a := by
  induction k generalizing a with
  | zero => trivial
  | succ k ih =>
    obtain ⟨b, edge, chain⟩ := chain
    exact ⟨b, edge, ih chain⟩

/-- Longer chains begin at the first node than at the second. -/
def Taller (deps : α → Option (List α)) (a b : α) : Prop :=
  ∃ k, HasChain deps k a ∧ ¬ HasChain deps k b

theorem Taller.of_edge (edge : Edge deps a b) (short : ¬ HasChain deps k b) : Taller deps a b := by
  induction k with
  | zero => exact absurd trivial short
  | succ k ih =>
    by_cases chain : HasChain deps k b
    · exact ⟨k + 1, ⟨b, edge, chain⟩, short⟩
    · exact ih chain

theorem Taller.trans_edge (taller : Taller deps a b) (edge : Edge deps b c) : Taller deps a c := by
  obtain ⟨k, chain, short⟩ := taller
  exact ⟨k, chain, fun longer => short (HasChain.pred ⟨c, edge, longer⟩)⟩

/-! ## What a search adds -/

/-- Nodes with an entry, each once, that had not been visited, are added. -/
structure Grows (deps : α → Option (List α)) (s t : Progress α) : Prop where
  visited : s.visited ⊆ t.visited
  order : ∃ new, t.order = s.order ++ new ∧ new.Nodup ∧
    ∀ a ∈ new, a ∉ s.visited ∧ a ∈ t.visited ∧ (deps a).isSome = true

theorem Grows.refl : Grows deps s s :=
  ⟨List.Subset.refl _, [], (List.append_nil _).symm, .nil, nofun⟩

theorem Grows.trans (first : Grows deps s t) (second : Grows deps t u) : Grows deps s u := by
  obtain ⟨new, order, once, fresh⟩ := first.order
  obtain ⟨new', order', once', fresh'⟩ := second.order
  refine ⟨List.Subset.trans first.visited second.visited, new ++ new', ?_, ?_, ?_⟩
  · rw [order', order, List.append_assoc]
  · refine List.nodup_append.mpr ⟨once, once', ?_⟩
    intro a listed b listed' same
    exact (fresh' b listed').1 (same ▸ (fresh a listed).2.1)
  · intro a listed
    rcases List.mem_append.mp listed with listed | listed
    · obtain ⟨unvisited, visited, known⟩ := fresh a listed
      exact ⟨unvisited, second.visited visited, known⟩
    · obtain ⟨unvisited, visited, known⟩ := fresh' a listed
      exact ⟨fun before => unvisited (first.visited before), visited, known⟩

theorem Grows.foldl {f : Progress α → α → Progress α} (each : ∀ s b, Grows deps s (f s b))
    (next : List α) : Grows deps s (next.foldl f s) := by
  induction next generalizing s with
  | nil => exact .refl
  | cons b next ih => exact (each s b).trans ih

theorem Grows.subset (grows : Grows deps s t) : s.order ⊆ t.order := by
  obtain ⟨new, order, -⟩ := grows.order
  rw [order]
  exact List.subset_append_left _ _

/-- Each listed node comes after the nodes that it leads to. -/
def Ordered (deps : α → Option (List α)) (order : List α) : Prop :=
  ∀ front a rest, order = front ++ a :: rest → ∀ b, Edge deps a b → b ∈ front

theorem Ordered.concat {order : List α} (ordered : Ordered deps order)
    (after : ∀ b, Edge deps a b → b ∈ order) : Ordered deps (order ++ [a]) := by
  intro front a' rest whole b edge
  rcases List.eq_nil_or_concat rest with rfl | ⟨rest, z, rfl⟩
  · obtain ⟨rfl, same⟩ := List.append_inj' whole rfl
    cases same
    exact after b edge
  · rw [List.concat_eq_append, ← List.cons_append, ← List.append_assoc] at whole
    obtain ⟨rfl, -⟩ := List.append_inj' whole rfl
    exact ordered _ _ _ rfl b edge

/-- The visited nodes are listed, or have the property. -/
def ListedOr (deps : α → Option (List α)) (P : α → Prop) (s : Progress α) : Prop :=
  ∀ m ∈ s.visited, (deps m).isSome = true → m ∈ s.order ∨ P m

/-- The search from the targets ends with all of them listed, and with nothing begun. -/
structure Finishes (deps : α → Option (List α)) (targets : List α) (s t : Progress α) : Prop where
  grows : Grows deps s t
  ordered : Ordered deps t.order
  finished : ListedOr deps (· ∈ s.visited) t
  listed : ∀ b ∈ targets, (deps b).isSome = true → b ∈ t.order
  reached : ∀ m ∈ t.order, m ∈ s.order ∨
    ∃ b ∈ targets, (deps b).isSome = true ∧ Relation.ReflTransGen (Edge deps) b m

theorem Finishes.listedOr {targets : List α} {P : α → Prop} (fin : Finishes deps targets s t)
    (before : ListedOr deps P s) : ListedOr deps P t := by
  intro m visited known
  rcases fin.finished m visited known with listed | visited
  · exact .inl listed
  · exact (before m visited known).imp (fun listed => fin.grows.subset listed) id

theorem Finishes.cons {next : List α} (first : Finishes deps [b] s t)
    (second : Finishes deps next t u) : Finishes deps (b :: next) s u := by
  refine ⟨first.grows.trans second.grows, second.ordered, second.listedOr first.finished, ?_, ?_⟩
  · intro target listed known
    rcases List.mem_cons.mp listed with rfl | later
    · exact second.grows.subset (first.listed target (List.mem_singleton_self _) known)
    · exact second.listed target later known
  · intro m listed
    rcases second.reached m listed with before | ⟨target, later, path⟩
    · refine (first.reached m before).imp id fun ⟨target, same, path⟩ => ?_
      exact ⟨target, List.mem_singleton.mp same ▸ List.mem_cons_self, path⟩
    · exact .inr ⟨target, List.mem_cons_of_mem _ later, path⟩

/-- A node is listed when the search from the nodes below it has ended. -/
theorem Finishes.enter {next : List α} (known : deps a = some next)
    (below : Finishes deps next { s with visited := a :: s.visited } t)
    (grows : Grows deps s { t with order := t.order ++ [a] }) :
    Finishes deps [a] s { t with order := t.order ++ [a] } := by
  have some' : (deps a).isSome = true := by
    rw [known]
    rfl
  refine ⟨grows, ?_, ?_, fun b target _ => List.mem_append_right _ target, ?_⟩
  · refine below.ordered.concat fun b edge => ?_
    obtain ⟨⟨next', known', target⟩, entry⟩ := edge
    cases known.symm.trans known'
    exact below.listed b target entry
  · intro m visited entry
    rcases below.finished m visited entry with listed | before
    · exact .inl (List.mem_append_left _ listed)
    · refine (List.mem_cons.mp before).imp (fun own => ?_) id
      exact List.mem_append_right _ (List.mem_singleton.mpr own)
  · intro m listed
    rcases List.mem_append.mp listed with listed | last
    · refine (below.reached m listed).imp id fun ⟨b, target, entry, path⟩ => ?_
      exact ⟨a, List.mem_singleton_self a, some', .head ⟨⟨next, known, target⟩, entry⟩ path⟩
    · exact .inr ⟨a, List.mem_singleton_self a, some', List.mem_singleton.mp last ▸ .refl⟩

/-- The search from each target in turn, where the property of begun nodes allows the next one. -/
theorem Finishes.foldl {f : Progress α → α → Progress α} {P : α → Prop} {next : List α}
    (each : ∀ s, ∀ b ∈ next, Ordered deps s.order → ListedOr deps P s → Finishes deps [b] s (f s b))
    (ordered : Ordered deps s.order) (begun : ListedOr deps P s) :
    Finishes deps next s (next.foldl f s) := by
  induction next generalizing s with
  | nil => exact ⟨.refl, ordered, fun _ visited _ => .inr visited, nofun, fun _ => .inl⟩
  | cons b next ih =>
    have first := each s b List.mem_cons_self ordered begun
    exact first.cons (ih (fun s b later => each s b (List.mem_cons_of_mem _ later)) first.ordered
      (first.listedOr begun))

/-! ## The search -/

variable [DecidableEq α]

/-- Visit a node with so many levels to go.  A node without an entry is not listed. -/
def visit (deps : α → Option (List α)) : Nat → α → Progress α → Progress α
  | 0, _, s => s
  | levels + 1, a, s =>
    if a ∈ s.visited then s
    else
      match deps a with
      | none => { s with visited := a :: s.visited }
      | some next =>
        let s := next.foldl (fun s b => visit deps levels b s) { s with visited := a :: s.visited }
        { s with order := s.order ++ [a] }

theorem visit_grows (s : Progress α) : Grows deps s (visit deps levels a s) := by
  induction levels generalizing a s with
  | zero => exact .refl
  | succ levels ih =>
    rw [visit]
    split
    · exact .refl
    · rename_i unvisited
      cases known : deps a with
      | none => exact ⟨List.subset_cons_self _ _, [], (List.append_nil _).symm, .nil, nofun⟩
      | some next =>
        obtain ⟨visited, new, order, once, fresh⟩ :=
          Grows.foldl (s := { s with visited := a :: s.visited }) (fun s b => @ih b s) next
        have here := visited List.mem_cons_self
        refine ⟨List.Subset.trans (List.subset_cons_self _ _) visited, new ++ [a], ?_, ?_, ?_⟩
        · dsimp only
          rw [order, List.append_assoc]
        · refine List.nodup_append.mpr ⟨once, List.nodup_singleton a, ?_⟩
          intro b listed c last same
          rw [List.mem_singleton.mp last] at same
          exact (fresh b listed).1 (same ▸ List.mem_cons_self)
        · intro b listed
          rcases List.mem_append.mp listed with listed | last
          · obtain ⟨unvisited, visited, known⟩ := fresh b listed
            exact ⟨fun before => unvisited (List.mem_cons_of_mem _ before), visited, known⟩
          · rw [List.mem_singleton.mp last]
            exact ⟨unvisited, here, by rw [known]; rfl⟩

theorem finishes_of_none (unknown : deps a = none) (ordered : Ordered deps s.order) :
    Finishes deps [a] s (visit deps levels a s) := by
  obtain ⟨same, visited⟩ : (visit deps levels a s).order = s.order ∧
      ∀ m ∈ (visit deps levels a s).visited, m = a ∨ m ∈ s.visited := by
    cases levels with
    | zero => exact ⟨rfl, fun _ => .inr⟩
    | succ levels =>
      rw [visit, unknown]
      split
      · exact ⟨rfl, fun _ => .inr⟩
      · exact ⟨rfl, fun _ => List.mem_cons.mp⟩
  refine ⟨visit_grows s, same ▸ ordered, fun m seen known => ?_, fun b target known => ?_, ?_⟩
  · refine (visited m seen).elim (fun own => ?_) .inr
    rw [own, unknown] at known
    cases known
  · rw [List.mem_singleton.mp target, unknown] at known
    cases known
  · intro m listed
    exact .inl (same ▸ listed)

/-- A search with enough levels for every chain, among nodes that were begun higher up. -/
theorem visit_finishes (short : ¬ HasChain deps levels a) (ordered : Ordered deps s.order)
    (begun : ListedOr deps (Taller deps · a) s) : Finishes deps [a] s (visit deps levels a s) := by
  induction levels generalizing a s with
  | zero => exact absurd trivial short
  | succ levels ih =>
    cases known : deps a with
    | none => exact finishes_of_none known ordered
    | some next =>
      by_cases visited : a ∈ s.visited
      · rw [visit, if_pos visited]
        refine ⟨.refl, ordered, fun _ visited _ => .inr visited, fun b target entry => ?_,
          fun _ => .inl⟩
        rw [List.mem_singleton.mp target] at entry ⊢
        rcases begun a visited entry with listed | ⟨k, chain, none'⟩
        · exact listed
        · exact absurd chain none'
      · -- the nodes below the new one are lower than it and than those that were begun
        have each : ∀ s', ∀ b ∈ next, Ordered deps s'.order →
            ListedOr deps (fun m => m = a ∨ Taller deps m a) s' →
              Finishes deps [b] s' (visit deps levels b s') := by
          intro s' b target ordered' begun'
          cases entry : deps b with
          | none => exact finishes_of_none entry ordered'
          | some _ =>
            have edge : Edge deps a b := ⟨⟨next, known, target⟩, by rw [entry]; rfl⟩
            have lower : ¬ HasChain deps levels b := fun chain => short ⟨b, edge, chain⟩
            refine ih lower ordered' fun m visited entry => ?_
            refine (begun' m visited entry).imp id fun higher => ?_
            rcases higher with rfl | taller
            · exact .of_edge edge lower
            · exact taller.trans_edge edge
        have begun' : ListedOr deps (fun m => m = a ∨ Taller deps m a)
            { s with visited := a :: s.visited } := by
          intro m visited entry
          rcases List.mem_cons.mp visited with rfl | before
          · exact .inr (.inl rfl)
          · exact (begun m before entry).imp id .inr
        have result : visit deps (levels + 1) a s =
            let t := next.foldl (fun s b => visit deps levels b s)
              { s with visited := a :: s.visited }
            { t with order := t.order ++ [a] } := by
          rw [visit, if_neg visited, known]
        rw [result]
        exact (Finishes.foldl each (s := { s with visited := a :: s.visited }) ordered begun').enter
          known (result ▸ visit_grows s)

/-- From a node whose chains are no longer than the levels: the nodes with an entry that can be
reached are listed, each after those that it leads to, and the first node is the last one. -/
theorem visit_correct (short : ¬ HasChain deps levels a) :
    (∀ m, m ∈ (visit deps levels a ⟨[], []⟩).order ↔
        (deps m).isSome = true ∧ Relation.ReflTransGen (Edge deps) a m) ∧
      Ordered deps (visit deps levels a ⟨[], []⟩).order ∧
      ((deps a).isSome = true → (visit deps levels a ⟨[], []⟩).order.getLast? = some a) := by
  have fin : Finishes deps [a] ⟨[], []⟩ (visit deps levels a ⟨[], []⟩) :=
    visit_finishes short (fun front _ _ whole => by cases front <;> cases whole) nofun
  refine ⟨fun m => ⟨fun listed => ?_, fun reach => ?_⟩, fin.ordered, fun known => ?_⟩
  · obtain ⟨new, order, -, fresh⟩ := fin.grows.order
    rcases fin.reached m listed with before | ⟨b, target, -, path⟩
    · cases before
    · rw [order] at listed
      exact ⟨(fresh m listed).2.2, List.mem_singleton.mp target ▸ path⟩
  · obtain ⟨entry, path⟩ := reach
    induction path with
    | refl => exact fin.listed a (List.mem_singleton_self a) entry
    | tail path edge ih =>
      obtain ⟨⟨next, known, -⟩, -⟩ := id edge
      obtain ⟨front, rest, whole⟩ := List.append_of_mem (ih (by rw [known]; rfl))
      rw [whole]
      exact List.mem_append_left _ (fin.ordered _ _ _ whole _ edge)
  · cases levels with
    | zero => exact absurd trivial short
    | succ levels =>
      obtain ⟨next, known⟩ := Option.isSome_iff_exists.mp known
      rw [visit, if_neg List.not_mem_nil, known]
      exact List.getLast?_concat

end TrimRouter.DepthFirst
