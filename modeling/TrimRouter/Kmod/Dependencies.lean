import TrimRouter.Lib.DepthFirst
import TrimRouter.Lib.HashMap

/-!
# Dependencies of kernel modules

`resolve_deps_recursive` of `init/kmod.rs`: the files to load for a module, from the map of
`modules.dep`.  Names are looked up with `-` for `_`.  The recursion stops below a depth of 64, and
by the set of visited names, which all branches share.  It is a depth-first search in the map.
-/

namespace TrimRouter.Kmod

open DepthFirst

/-- The map of `parse_modules_dep`: the file of each module and the names that it depends on. -/
abbrev DepMap := HashMap String (String × List String)

/-- `MAX_DEP_RECURSION_DEPTH`. -/
def maxDepRecursionDepth : Nat := 64

/-- `name.replace('_', "-")`. -/
def normalize (name : String) : String :=
  String.ofList (name.toList.map fun c => if c = '_' then '-' else c)

/-- The lists that the recursion fills: `resolved` and `visited`. -/
structure Resolution where
  resolved : List String
  visited : List String
deriving DecidableEq

/-- `resolve_deps_recursive_internal`, with the number of depths from its own to the limit. -/
def resolveDepsRecursiveInternal (depMap : DepMap) : Nat → String → Resolution → Resolution
  | 0, _, s => s
  | depths + 1, modName, s =>
    let normalized := normalize modName
    if normalized ∈ s.visited then s
    else
      let s := { s with visited := normalized :: s.visited }
      match depMap.lookup normalized with
      | none => s
      | some (path, deps) =>
        let s := deps.foldl (fun s dep => resolveDepsRecursiveInternal depMap depths dep s) s
        { s with resolved := s.resolved ++ [path] }

/-- `resolve_deps_recursive`: from depth 0 to the limit. -/
def resolveDepsRecursive (modName : String) (depMap : DepMap) (s : Resolution) : Resolution :=
  resolveDepsRecursiveInternal depMap (maxDepRecursionDepth + 1) modName s

/-- The dependencies of a module of the map, by the names under which they are looked up. -/
def DepMap.deps (depMap : DepMap) (name : String) : Option (List String) :=
  (depMap.lookup name).map fun entry => entry.2.map normalize

/-- The file of a module of the map. -/
def DepMap.path (depMap : DepMap) (name : String) : Option String :=
  (depMap.lookup name).map fun entry => entry.1

/-- A module of the map depends on another one. -/
def DepMap.DependsOn (depMap : DepMap) : String → String → Prop := Edge depMap.deps

/-- The files of the listed modules. -/
def Resolution.of (depMap : DepMap) (s : Progress String) : Resolution :=
  ⟨s.order.filterMap depMap.path, s.visited⟩

variable {depMap : DepMap}

/-- The function is a depth-first search in the map. -/
theorem resolveDepsRecursiveInternal_eq {depths : Nat} {modName : String} {s : Progress String} :
    resolveDepsRecursiveInternal depMap depths modName (.of depMap s) =
      .of depMap (visit depMap.deps depths (normalize modName) s) := by
  induction depths generalizing modName s with
  | zero => rfl
  | succ depths ih =>
    have each : ∀ (deps : List String) (s : Progress String),
        deps.foldl (fun s dep => resolveDepsRecursiveInternal depMap depths dep s) (.of depMap s) =
          .of depMap ((deps.map normalize).foldl (fun s b => visit depMap.deps depths b s) s) := by
      intro deps
      induction deps with
      | nil => exact fun _ => rfl
      | cons dep deps ih' =>
        intro s
        rw [List.foldl_cons, List.map_cons, List.foldl_cons, ih, ih']
    rw [resolveDepsRecursiveInternal, visit]
    change (if normalize modName ∈ s.visited then _ else _) = _
    split
    · rfl
    · cases found : depMap.lookup (normalize modName) with
      | none =>
        rw [DepMap.deps, found]
        rfl
      | some entry =>
        obtain ⟨path, deps⟩ := entry
        have below : deps.foldl (fun s dep => resolveDepsRecursiveInternal depMap depths dep s)
            ⟨(Resolution.of depMap s).resolved, normalize modName :: s.visited⟩ = _ :=
          each deps { s with visited := normalize modName :: s.visited }
        have file : depMap.path (normalize modName) = some path := by
          rw [DepMap.path, found]
          rfl
        rw [DepMap.deps, found]
        dsimp only [Option.map_some]
        rw [show (Resolution.of depMap s).visited = s.visited from rfl, below]
        simp [Resolution.of, file]

theorem map_path_of_known {modules : List String}
    (known : ∀ name ∈ modules, (depMap.deps name).isSome = true) :
    modules.map depMap.path = (modules.filterMap depMap.path).map some := by
  induction modules with
  | nil => rfl
  | cons name modules ih =>
    have first := known name List.mem_cons_self
    rw [DepMap.deps, Option.isSome_map] at first
    obtain ⟨entry, found⟩ := Option.isSome_iff_exists.mp first
    have file : depMap.path name = some entry.1 := by
      rw [DepMap.path, found]
      rfl
    rw [List.map_cons, List.filterMap_cons, file, List.map_cons,
      ih fun name listed => known name (List.mem_cons_of_mem _ listed)]

/-- No module is listed twice.  If every chain of dependencies from the module has at most 64
steps, which excludes cycles, then the modules of the map that it needs are listed, each one after
those that it depends on, and the module itself comes last. -/
theorem dependency_order (depMap : DepMap) (root : String) :
    ∃ modules : List String,
      modules.map depMap.path = (resolveDepsRecursive root depMap ⟨[], []⟩).resolved.map some ∧
      modules.Nodup ∧
      ((∀ k, HasChain depMap.deps k (normalize root) → k ≤ 64) →
        (∀ name, name ∈ modules ↔ name ∈ depMap.keys ∧
          Relation.ReflTransGen depMap.DependsOn (normalize root) name) ∧
        (∀ front name rest, modules = front ++ name :: rest →
          ∀ dep, depMap.DependsOn name dep → dep ∈ front) ∧
        (normalize root ∈ depMap.keys → modules.getLast? = some (normalize root))) := by
  have grows : Grows depMap.deps ⟨[], []⟩ (visit depMap.deps 65 (normalize root) ⟨[], []⟩) :=
    visit_grows _
  obtain ⟨new, order, once, fresh⟩ := grows.order
  have result : resolveDepsRecursive root depMap ⟨[], []⟩ = _ :=
    @resolveDepsRecursiveInternal_eq depMap 65 root ⟨[], []⟩
  have known : ∀ name, (depMap.deps name).isSome = true ↔ name ∈ depMap.keys := by
    intro name
    rw [DepMap.deps, Option.isSome_map, HashMap.mem_keys_iff, Option.isSome_iff_exists]
  refine ⟨new, ?_, once, fun short => ?_⟩
  · rw [result, Resolution.of, order, List.nil_append]
    exact map_path_of_known fun name listed => (fresh name listed).2.2
  · have noChain : ¬ HasChain depMap.deps 65 (normalize root) := by
      intro chain
      have := short 65 chain
      omega
    obtain ⟨reached, ordered, last⟩ := visit_correct noChain
    rw [order, List.nil_append] at reached ordered last
    refine ⟨fun name => ?_, ordered, fun present => last ((known _).mpr present)⟩
    rw [reached, known]
    rfl

end TrimRouter.Kmod
