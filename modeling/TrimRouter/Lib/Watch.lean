import Mathlib.Data.Option.Basic

/-!
# Watch channels

A channel that keeps only the value sent last.  A receiver remembers the version it has
marked as seen: `borrow` reads the value and marks nothing, `borrowAndUpdate` marks what it
reads, and `changed` waits for a version that is not marked yet and marks it.  A clone of a
receiver starts with the marks of the original.
-/

namespace TrimRouter

universe u

/-- The shared part of the channel. -/
structure Watch (α : Type u) where
  value : α
  version : Nat
  /-- the sender is gone -/
  closed : Bool
deriving DecidableEq

namespace Watch

variable {α : Type u}

/-- A receiver, as the version it has seen. -/
structure Receiver where
  seen : Nat
deriving DecidableEq

/-- A new channel, and the first receiver, which has seen the initial value. -/
def channel (a : α) : Watch α × Receiver := (⟨a, 0, false⟩, ⟨0⟩)

/-- Replace the value. -/
def send (w : Watch α) (a : α) : Watch α := { w with value := a, version := w.version + 1 }

/-- Drop the sender. -/
def close (w : Watch α) : Watch α := { w with closed := true }

/-- Read the value and mark nothing. -/
def borrow (w : Watch α) : α := w.value

/-- Read the value and mark it as seen. -/
def borrowAndUpdate (w : Watch α) : α × Receiver := (w.value, ⟨w.version⟩)

/-- What `changed` returns, `Ok` as `true`, with the receiver after it; `none` while it
waits. -/
def changed (w : Watch α) (rx : Receiver) : Option (Bool × Receiver) :=
  if w.version ≠ rx.seen then some (true, ⟨w.version⟩)
  else if w.closed then some (false, rx)
  else none

/-- After an `Ok` the receiver has seen the value. -/
theorem changed_ok {w : Watch α} {rx rx' : Receiver}
    (changed : w.changed rx = some (true, rx')) : rx' = ⟨w.version⟩ := by
  unfold Watch.changed at changed
  split at changed
  · cases changed
    rfl
  · split at changed <;> cases changed

/-- An `Ok` reports a version that the receiver has not seen. -/
theorem unread_of_changed {w : Watch α} {rx rx' : Receiver}
    (changed : w.changed rx = some (true, rx')) : w.version ≠ rx.seen := by
  unfold Watch.changed at changed
  split at changed
  · rename_i unread
    exact unread
  · split at changed <;> cases changed

/-! ## Flags -/

/-- The flag, if it is raised, is new for the receiver. -/
def Pending (w : Watch Bool) (rx : Receiver) : Prop :=
  rx.seen ≤ w.version ∧ (w.borrow = true → rx.seen < w.version)

namespace Pending

variable {w : Watch Bool} {rx : Receiver}

theorem channel : Pending (Watch.channel false).1 (Watch.channel false).2 := by
  refine ⟨Nat.le_refl _, ?_⟩
  intro raised
  cases raised

theorem send {a : Bool} (pending : Pending w rx) : Pending (w.send a) rx := by
  have newer : rx.seen < (w.send a).version := Nat.lt_succ_of_le pending.1
  exact ⟨Nat.le_of_lt newer, fun _ => newer⟩

theorem close (pending : Pending w rx) : Pending w.close rx := pending

/-- A receiver that has just seen a lowered flag. -/
theorem of_lowered (lowered : w.borrow = false) : Pending w ⟨w.version⟩ := by
  refine ⟨Nat.le_refl _, ?_⟩
  intro raised
  rw [lowered] at raised
  cases raised

/-- A raised flag wakes the receiver. -/
theorem changed (pending : Pending w rx) (raised : w.borrow = true) :
    w.changed rx = some (true, ⟨w.version⟩) := by
  have newer : rx.seen < w.version := pending.2 raised
  unfold Watch.changed
  rw [if_pos (by omega)]

end Pending

end Watch

end TrimRouter
