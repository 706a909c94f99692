import Mathlib.Algebra.Order.BigOperators.Group.List
import Mathlib.Data.List.AList

/-!
# Hash maps with an explicit iteration order

A hash map is an association list without repeated keys (`AList`).  Lookups,
insertions and removals do not depend on the order of the entries; what does
depend on it takes the order as an argument, so a statement about every iteration
order quantifies over every `order` with `IsOrder m order`.
-/

namespace TrimRouter

universe u v w

/-- A finite map from `κ` to `ν`. -/
abbrev HashMap (κ : Type u) (ν : Type v) := AList fun _ : κ => ν

namespace HashMap

variable {κ : Type u} {ν : Type v} [DecidableEq κ]

/-- Keep the entries that satisfy `p`. -/
def retain (m : HashMap κ ν) (p : κ → ν → Bool) : HashMap κ ν :=
  ⟨m.entries.filter fun e => p e.1 e.2, m.nodupKeys.sublist List.filter_sublist⟩

/-- The values, in the order of the entries. -/
def values (m : HashMap κ ν) : List ν := m.entries.map fun e => e.2

/-- `order` lists every key of the map once. -/
def IsOrder (m : HashMap κ ν) (order : List κ) : Prop := order.Perm m.keys

instance (m : HashMap κ ν) (order : List κ) : Decidable (m.IsOrder order) :=
  inferInstanceAs (Decidable (order.Perm m.keys))

/-- The entries in the order in which an iteration visits them. -/
def iter (m : HashMap κ ν) (order : List κ) : List (κ × ν) :=
  order.filterMap fun k => (m.lookup k).map fun v => (k, v)

/-- Write an entry over a function that gives the values of a map. -/
def write (f : κ → Option ν) (e : κ × ν) : κ → Option ν := Function.update f e.1 (some e.2)

variable {m : HashMap κ ν} {p : κ → ν → Bool} {k k' : κ} {v w : ν} {order : List κ}

theorem lookup_insert_eq : (m.insert k v).lookup k' = if k' = k then some v else m.lookup k' := by
  by_cases h : k' = k
  · subst h
    simp
  · simp [AList.lookup_insert_ne h, h]

/-- A map filled from a list has, under each key, the last listed value. -/
theorem lookup_foldl_insert {key : ν → κ} {vs : List ν} :
    (vs.foldl (fun map v => map.insert (key v) v) m).lookup k =
      (vs.reverse.find? fun v => key v == k).or (m.lookup k) := by
  induction vs generalizing m with
  | nil => rfl
  | cons v rest ih =>
    rw [List.foldl_cons, ih, lookup_insert_eq, List.reverse_cons, List.find?_append]
    cases rest.reverse.find? fun v => key v == k with
    | some found => rfl
    | none =>
      by_cases same : k = key v
      · simp [same]
      · have other : (key v == k) = false := by simpa using Ne.symm same
        simp [same, other]

theorem lookup_erase_eq : (m.erase k).lookup k' = if k' = k then none else m.lookup k' := by
  by_cases h : k' = k
  · subst h
    simp
  · simp [AList.lookup_erase_ne h, h]

theorem mem_entries_iff : (⟨k, v⟩ : Σ _ : κ, ν) ∈ m.entries ↔ m.lookup k = some v :=
  AList.mem_lookup_iff.symm

theorem mem_values_iff : v ∈ m.values ↔ ∃ k, m.lookup k = some v := by
  simp only [values, List.mem_map, Sigma.exists, mem_entries_iff]
  constructor
  · rintro ⟨k, w, found, rfl⟩
    exact ⟨k, found⟩
  · rintro ⟨k, found⟩
    exact ⟨k, v, found, rfl⟩

theorem mem_keys_iff : k ∈ m.keys ↔ ∃ v, m.lookup k = some v := by
  rw [← AList.mem_keys, ← AList.lookup_isSome, Option.isSome_iff_exists]

theorem lookup_retain_eq_some :
    (m.retain p).lookup k = some v ↔ m.lookup k = some v ∧ p k v = true := by
  rw [← mem_entries_iff, ← mem_entries_iff]
  simp [retain]

theorem lookup_retain : (m.retain p).lookup k = (m.lookup k).filter (p k) := by
  ext v
  simp [lookup_retain_eq_some, Option.filter_eq_some_iff]

theorem lookup_of_mem_iter (visited : (k, v) ∈ m.iter order) : m.lookup k = some v := by
  simp only [iter, List.mem_filterMap, Option.map_eq_some_iff, Prod.mk.injEq] at visited
  obtain ⟨k₀, -, v₀, found, rfl, rfl⟩ := visited
  exact found

theorem mem_iter_of_mem (listed : k ∈ order) (found : m.lookup k = some v) :
    (k, v) ∈ m.iter order := by
  simp only [iter, List.mem_filterMap, Option.map_eq_some_iff, Prod.mk.injEq]
  exact ⟨k, listed, v, found, rfl, rfl⟩

theorem mem_iter (visits : m.IsOrder order) : (k, v) ∈ m.iter order ↔ m.lookup k = some v := by
  refine ⟨lookup_of_mem_iter, ?_⟩
  intro found
  exact mem_iter_of_mem (visits.mem_iff.mpr (mem_keys_iff.mpr ⟨v, found⟩)) found

/-- The entries are one of the orders in which a map can be visited. -/
theorem iter_keys : m.iter m.keys = m.entries.map fun e => (e.1, e.2) := by
  have found : ∀ e ∈ m.entries,
      ((m.lookup e.1).map fun v => (e.1, v)) = some ((fun e => (e.1, e.2)) e) := by
    intro e member
    rw [mem_entries_iff.mp member, Option.map_some]
  rw [iter, AList.keys, List.keys, List.filterMap_map]
  exact (List.filterMap_congr found).trans (congrFun List.filterMap_eq_map m.entries)

theorem iter_perm (visits : m.IsOrder order) :
    (m.iter order).Perm (m.entries.map fun e => (e.1, e.2)) := by
  rw [← iter_keys]
  exact visits.filterMap _

theorem iter_append {more : List κ} : m.iter (order ++ more) = m.iter order ++ m.iter more :=
  List.filterMap_append

/-- An iteration visits the keys in the given order. -/
theorem map_fst_iter (visits : m.IsOrder order) : (m.iter order).map Prod.fst = order := by
  rw [iter, List.map_filterMap]
  refine (List.filterMap_congr ?_).trans List.filterMap_some
  intro k member
  obtain ⟨v, found⟩ := mem_keys_iff.mp (visits.mem_iff.mp member)
  rw [found]
  rfl

theorem nodup_iter (visits : m.IsOrder order) : ((m.iter order).map Prod.fst).Nodup := by
  rw [map_fst_iter visits]
  exact visits.nodup_iff.mpr m.keys_nodup

omit [DecidableEq κ] in
/-- A map has no more entries than a list that has all its keys. -/
theorem length_le_of_subset {keys : List κ} (sub : m.keys ⊆ keys) :
    m.entries.length ≤ keys.length := by
  have counted := (List.subperm_of_subset m.keys_nodup sub).length_le
  rwa [AList.keys, List.keys, List.length_map] at counted

/-- Entries of a map, written over a function, give the values of the map for their keys. -/
theorem foldl_update_of_lookup {entries : List (κ × ν)} {f : κ → Option ν}
    (listed : ∀ e ∈ entries, m.lookup e.1 = some e.2) :
    entries.foldl write f k =
      if k ∈ entries.map Prod.fst then m.lookup k else f k := by
  induction entries generalizing f with
  | nil => simp
  | cons e rest ih =>
    have first := listed e List.mem_cons_self
    rw [List.foldl_cons, ih fun e' member => listed e' (List.mem_cons_of_mem e member)]
    by_cases same : k = e.1
    · subst same
      simp [first, write]
    · have other : write f e k = f k := Function.update_of_ne same _ _
      simp only [other, List.map_cons, List.mem_cons, same, false_or]

/-- A map is rebuilt from its entries, in whatever order they are visited. -/
theorem foldl_update_iter (visits : m.IsOrder order) :
    (m.iter order).foldl write (fun _ => none) = m.lookup := by
  funext k
  rw [foldl_update_of_lookup fun e visited => lookup_of_mem_iter visited]
  split
  · rfl
  · rename_i missing
    cases found : m.lookup k with
    | none => rfl
    | some v =>
      have visited := (mem_iter visits).mpr found
      exact absurd (List.mem_map_of_mem visited) missing

/-- The entry of a key and the entries without it are the entries. -/
theorem perm_erase (found : m.lookup k = some v) :
    m.entries.Perm (⟨k, v⟩ :: (m.erase k).entries) := by
  have key : k ∈ m.entries.keys := by
    rw [← AList.keys, mem_keys_iff]
    exact ⟨v, found⟩
  obtain ⟨b, front, back, -, split, erased⟩ := List.exists_of_kerase key
  have member : (⟨k, b⟩ : Σ _ : κ, ν) ∈ m.entries := by simp [split]
  have same := mem_entries_iff.mp member
  rw [found] at same
  cases same
  have rest : (m.erase k).entries = front ++ back := erased
  rw [rest, split]
  exact List.perm_middle

theorem entries_erase_of_none (missing : m.lookup k = none) : (m.erase k).entries = m.entries := by
  apply List.kerase_of_notMem_keys
  intro key
  rw [← AList.keys, mem_keys_iff, missing] at key
  obtain ⟨v, found⟩ := key
  cases found

theorem entries_insert : (m.insert k v).entries = ⟨k, v⟩ :: (m.erase k).entries := rfl

theorem length_erase (found : m.lookup k = some v) :
    m.entries.length = (m.erase k).entries.length + 1 :=
  (perm_erase found).length_eq

/-- An insertion adds at most one entry. -/
theorem length_insert_le : (m.insert k v).entries.length ≤ m.entries.length + 1 := by
  rw [entries_insert, List.length_cons]
  cases found : m.lookup k with
  | none => rw [entries_erase_of_none found]
  | some w =>
    have := length_erase found
    omega

theorem length_insert_of_some (found : m.lookup k = some w) :
    (m.insert k v).entries.length = m.entries.length := by
  rw [entries_insert, List.length_cons, length_erase found]

section Total

variable {M : Type w} [AddCommMonoid M] (f : ν → M)

omit [DecidableEq κ]

/-- The sum of a measure over the values. -/
def total (m : HashMap κ ν) : M := (m.entries.map fun e => f e.2).sum

variable {f}

theorem total_retain_le [PartialOrder M] [CanonicallyOrderedAdd M] [IsOrderedAddMonoid M] :
    total f (m.retain p) ≤ total f m := by
  have sub : ((m.retain p).entries.map fun e => f e.2).Sublist (m.entries.map fun e => f e.2) :=
    List.filter_sublist.map _
  exact sub.sum_le_sum fun _ _ => zero_le

variable [DecidableEq κ]

theorem total_erase (found : m.lookup k = some v) : f v + total f (m.erase k) = total f m := by
  unfold total
  rw [((perm_erase found).map _).sum_eq, List.map_cons, List.sum_cons]

/-- A new value for a key counts in place of the old one. -/
theorem total_insert_of_some (found : m.lookup k = some v) :
    total f (m.insert k w) + f v = total f m + f w := by
  have inserted : total f (m.insert k w) = f w + total f (m.erase k) := by
    unfold total
    rw [entries_insert, List.map_cons, List.sum_cons]
  rw [inserted, ← total_erase found]
  ac_rfl

theorem total_insert_of_none (missing : m.lookup k = none) :
    total f (m.insert k v) = f v + total f m := by
  unfold total
  rw [entries_insert, entries_erase_of_none missing, List.map_cons, List.sum_cons]

end Total

end HashMap

end TrimRouter
