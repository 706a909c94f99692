import Mathlib.Algebra.GroupWithZero.Nat
import Mathlib.Data.List.Basic
import Mathlib.Data.List.DropRight

/-!
# Bounded first-in-first-out queues

The model of a bounded channel.  The bound is part of the type, so a queue that
holds more than its capacity cannot be built.  `push` is a send that waits when the
queue is full (`none`), `tryPush` one that gives the message up, and `pop` a
receive that waits when it is empty.
-/

namespace TrimRouter

universe u

/-- A queue of at most `cap` messages, oldest first. -/
structure Fifo (α : Type u) (cap : Nat) where
  items : List α
  bounded : items.length ≤ cap

namespace Fifo

variable {α : Type u} {cap : Nat}

/-- The queue that holds nothing. -/
def empty : Fifo α cap := ⟨[], Nat.zero_le cap⟩

/-- No room for a further message. -/
def Full (q : Fifo α cap) : Prop := q.items.length = cap
deriving Decidable

/-- Append a message; `none` when the queue is full. -/
def push (q : Fifo α cap) (a : α) : Option (Fifo α cap) :=
  if h : q.items.length < cap then some ⟨q.items ++ [a], by simpa [Nat.succ_le_iff] using h⟩
  else none

/-- Append a message, or drop it when the queue is full. -/
def tryPush (q : Fifo α cap) (a : α) : Fifo α cap := (q.push a).getD q

/-- Append a message, for which the oldest one makes room when the queue is full. -/
def pushEvict [NeZero cap] (q : Fifo α cap) (a : α) : Fifo α cap :=
  ⟨(if cap ≤ q.items.length then q.items.tail else q.items) ++ [a], by
    have room := Nat.pos_of_ne_zero (NeZero.ne cap)
    have := q.bounded
    split <;> simp <;> omega⟩

/-- Take the oldest message; `none` when the queue is empty. -/
def pop (q : Fifo α cap) : Option (α × Fifo α cap) :=
  match h : q.items with
  | [] => none
  | a :: rest => some (a, ⟨rest, by
      have := q.bounded
      simp only [h, List.length_cons] at this
      omega⟩)

variable {q r : Fifo α cap} {a b : α}

@[ext]
theorem ext (same : q.items = r.items) : q = r := by
  cases q
  cases r
  cases same
  rfl

@[simp]
theorem items_empty : (empty : Fifo α cap).items = [] := rfl

theorem push_eq_some :
    q.push a = some r ↔ q.items.length < cap ∧ r.items = q.items ++ [a] := by
  unfold push
  split
  · rename_i room
    simp only [Option.some.injEq, room, true_and]
    exact ⟨fun h => h ▸ rfl, fun h => Fifo.ext h.symm⟩
  · rename_i full
    simp [full]

theorem push_eq_none : q.push a = none ↔ q.Full := by
  have := q.bounded
  unfold push Full
  split <;> simp <;> omega

theorem isSome_push : (q.push a).isSome = true ↔ q.items.length < cap := by
  unfold push
  split
  · rename_i room
    simp [room]
  · rename_i full
    simp [full]

theorem pop_eq_some : q.pop = some (a, r) ↔ q.items = a :: r.items := by
  unfold pop
  split
  · rename_i nothing
    simp [nothing]
  · rename_i head tail some_message
    simp only [some_message, Option.some.injEq, Prod.mk.injEq, List.cons.injEq]
    exact and_congr_right fun _ => ⟨fun h => h ▸ rfl, fun h => Fifo.ext h⟩

/-- A send adds its message. -/
theorem mem_of_push (pushed : q.push a = some r) : b ∈ r.items ↔ b ∈ q.items ∨ b = a := by
  rw [(push_eq_some.mp pushed).2, List.mem_append, List.mem_singleton]

/-- A receive takes a message of the queue and leaves the others. -/
theorem mem_of_pop (popped : q.pop = some (a, r)) : b ∈ q.items ↔ b = a ∨ b ∈ r.items := by
  rw [pop_eq_some.mp popped, List.mem_cons]

theorem items_tryPush :
    (q.tryPush a).items = if q.items.length < cap then q.items ++ [a] else q.items := by
  unfold tryPush push
  split <;> rfl

/-- Of messages that are dropped when the queue is full, the first ones are queued. -/
theorem items_foldl_tryPush {as : List α} :
    (as.foldl tryPush q).items = (q.items ++ as).take cap := by
  have bounded := q.bounded
  induction as generalizing q with
  | nil => rw [List.foldl_nil, List.append_nil, List.take_of_length_le bounded]
  | cons a rest ih =>
    rw [List.foldl_cons, ih (q.tryPush a).bounded, items_tryPush]
    split
    · rw [List.append_assoc, List.singleton_append]
    · -- the queue is full, so nothing of the rest fits
      have full : q.items.length = cap := by omega
      rw [List.take_left' full, List.take_left' full]

theorem items_pushEvict_of_lt [NeZero cap] (room : q.items.length < cap) :
    (q.pushEvict a).items = q.items ++ [a] := by
  have notFull : ¬ cap ≤ q.items.length := by omega
  simp only [pushEvict, if_neg notFull]

theorem items_pushEvict_of_le [NeZero cap] (full : cap ≤ q.items.length) :
    (q.pushEvict a).items = q.items.tail ++ [a] := by
  simp only [pushEvict, if_pos full]

/-- Of messages for which the oldest ones make room, the last ones are queued. -/
theorem items_foldl_pushEvict [NeZero cap] {as : List α} :
    (as.foldl pushEvict q).items = (q.items ++ as).rtake cap := by
  induction as generalizing q with
  | nil =>
    have bounded := q.bounded
    rw [List.foldl_nil, List.append_nil, List.rtake, Nat.sub_eq_zero_of_le bounded,
      List.drop_zero]
  | cons a rest ih =>
    rw [List.foldl_cons, ih]
    by_cases room : q.items.length < cap
    · rw [items_pushEvict_of_lt room, List.append_assoc, List.singleton_append]
    · rw [items_pushEvict_of_le (by omega), List.append_assoc, List.singleton_append]
      cases first : q.items with
      | nil =>
        have positive := Nat.pos_of_ne_zero (NeZero.ne cap)
        rw [first, List.length_nil] at room
        omega
      | cons b later =>
        -- the message that made room is not among the last ones either
        rw [first, List.length_cons] at room
        have more : (later ++ a :: rest).length + 1 - cap =
            (later ++ a :: rest).length - cap + 1 := by
          rw [List.length_append, List.length_cons]
          omega
        rw [List.tail_cons, List.cons_append, List.rtake, List.rtake, List.length_cons, more,
          List.drop_succ_cons]

/-- The message that was appended is the last one. -/
theorem exists_items_pushEvict [NeZero cap] (q : Fifo α cap) (a : α) :
    ∃ front, front ⊆ q.items ∧ (q.pushEvict a).items = front ++ [a] := by
  by_cases room : q.items.length < cap
  · exact ⟨q.items, fun _ member => member, items_pushEvict_of_lt room⟩
  · exact ⟨q.items.tail, fun _ member => List.mem_of_mem_tail member,
      items_pushEvict_of_le (by omega)⟩

end Fifo

end TrimRouter
