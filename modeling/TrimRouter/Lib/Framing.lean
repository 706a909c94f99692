import Mathlib.Data.List.Forall2

/-!
# Messages on a stream that arrives in pieces

A stream is read by waits for input, each of which ends with a piece of the stream or is given up.
A piece may be larger or smaller than what is wanted, and may be empty, which does not end a wait.
After the last one the other side has closed the stream.
-/

namespace TrimRouter.Chunked

universe u

variable {α : Type u}

/-- What a wait for input ends with. -/
inductive Input (α : Type u) where
  | data (chunk : List α)
  | timeout
deriving DecidableEq

inductive ReadError where
  | timeout
  | eof
deriving DecidableEq

/-! ## Reading -/

/-- One read into a buffer with some room.  It has no items at the end of the stream only. -/
def read (room : Nat) : List (Input α) → Except ReadError (List α × List (Input α))
  | [] => .ok ([], [])
  | .timeout :: _ => .error .timeout
  | .data [] :: input => read room input
  | .data (item :: chunk) :: input =>
    .ok ((item :: chunk).take room, .data ((item :: chunk).drop room) :: input)

/-- Read until there is no room left.  Each read takes an item, so the room bounds the reads. -/
def fill : Nat → Nat → List (Input α) → Except ReadError (List α × List (Input α))
  | _, 0, input => .ok ([], input)
  | 0, _ + 1, _ => .error .eof
  | fuel + 1, room + 1, input =>
    match read (room + 1) input with
    | .error e => .error e
    | .ok (got, input) =>
      if got = [] then .error .eof
      else
        match fill fuel (room + 1 - got.length) input with
        | .error e => .error e
        | .ok (more, input) => .ok (got ++ more, input)

/-- Read exactly `n` items. -/
def readExact (n : Nat) (input : List (Input α)) : Except ReadError (List α × List (Input α)) :=
  fill n n input

/-- What arrives before a wait is given up. -/
def available : List (Input α) → List α
  | [] => []
  | .timeout :: _ => []
  | .data chunk :: input => chunk ++ available input

/-- Why nothing arrives after that. -/
def ending : List (Input α) → ReadError
  | [] => .eof
  | .timeout :: _ => .timeout
  | .data _ :: input => ending input

variable {input input' : List (Input α)} {n room : Nat}

theorem available_map_data {chunks : List (List α)} :
    available (chunks.map .data) = chunks.flatten := by
  induction chunks with
  | nil => rfl
  | cons chunk chunks ih => rw [List.map_cons, available, ih, List.flatten_cons]

theorem ending_map_data {chunks : List (List α)} : ending (chunks.map .data) = .eof := by
  induction chunks with
  | nil => rfl
  | cons chunk chunks ih => rw [List.map_cons, ending, ih]

/-- A read into a buffer with room takes some of what arrives, if there is anything. -/
theorem read_of_available (some' : available input ≠ []) (positive : 0 < room) :
    ∃ got input', read room input = .ok (got, input') ∧ got ≠ [] ∧ got.length ≤ room ∧
      available input = got ++ available input' ∧ ending input' = ending input := by
  induction input with
  | nil => exact absurd rfl some'
  | cons first input ih =>
    rcases first with (- | ⟨item, chunk⟩) | -
    · exact ih some'
    · refine ⟨_, _, rfl, ?_, List.length_take_le _ _, ?_, rfl⟩
      · rw [Ne, List.take_eq_nil_iff]
        rintro (empty | none)
        · exact Nat.lt_irrefl 0 (empty ▸ positive)
        · exact List.cons_ne_nil _ _ none
      · rw [available, available, ← List.append_assoc, List.take_append_drop]
    · exact absurd rfl some'

/-- A read at the end has nothing, or is given up. -/
theorem read_of_not_available (room : Nat) (nothing : available input = []) :
    (ending input = .eof ∧ read room input = .ok ([], [])) ∨
      (ending input = .timeout ∧ read room input = .error .timeout) := by
  induction input with
  | nil => exact .inl ⟨rfl, rfl⟩
  | cons first input ih =>
    rcases first with (- | ⟨item, chunk⟩) | -
    · exact ih nothing
    · cases nothing
    · exact .inr ⟨rfl, rfl⟩

theorem fill_eq {fuel : Nat} (enough : room ≤ fuel) :
    (room ≤ (available input).length →
      ∃ input', fill fuel room input = .ok ((available input).take room, input') ∧
        available input' = (available input).drop room ∧ ending input' = ending input) ∧
    ((available input).length < room → fill fuel room input = .error (ending input)) := by
  induction fuel generalizing room input with
  | zero =>
    cases Nat.le_zero.mp enough
    exact ⟨fun _ => ⟨input, rfl, rfl, rfl⟩, nofun⟩
  | succ fuel ih =>
    cases room with
    | zero => exact ⟨fun _ => ⟨input, rfl, rfl, rfl⟩, nofun⟩
    | succ room =>
      by_cases nothing : available input = []
      · refine ⟨fun long => ?_, fun _ => ?_⟩
        · rw [nothing] at long
          cases long
        · unfold fill
          rcases read_of_not_available (room + 1) nothing with ⟨ended, done⟩ | ⟨ended, done⟩
          · rw [done, ended]
            rfl
          · rw [done, ended]
      · obtain ⟨got, later, done, some', short, split, same⟩ :=
          read_of_available nothing (Nat.succ_pos room)
        have positive := List.length_pos_iff.mpr some'
        have rest := @ih later (room + 1 - got.length) (by omega)
        have length : (available input).length = got.length + (available later).length := by
          rw [split, List.length_append]
        unfold fill
        rw [done]
        simp only [some', if_false]
        refine ⟨fun long => ?_, fun lacking => ?_⟩
        · obtain ⟨final, filled, left, same'⟩ := rest.1 (by omega)
          refine ⟨final, ?_, ?_, same'.trans same⟩
          · rw [filled, split, List.take_append, List.take_of_length_le short]
          · rw [left, split, List.drop_append, List.drop_of_length_le short, List.nil_append]
        · rw [rest.2 (by omega), same]

/-- What is read is what arrives first. -/
theorem readExact_of_le (long : n ≤ (available input).length) :
    ∃ input', readExact n input = .ok ((available input).take n, input') ∧
      available input' = (available input).drop n ∧ ending input' = ending input :=
  (fill_eq (Nat.le_refl n)).1 long

/-- If too little arrives, the read fails for the reason that nothing more does. -/
theorem readExact_of_lt (lacking : (available input).length < n) :
    readExact n input = .error (ending input) :=
  (fill_eq (Nat.le_refl n)).2 lacking

theorem readExact_eq_ok {items : List α} (done : readExact n input = .ok (items, input')) :
    items.length = n ∧ available input = items ++ available input' ∧
      ending input' = ending input := by
  by_cases long : n ≤ (available input).length
  · obtain ⟨left, done', rest, same⟩ := readExact_of_le long
    rw [done] at done'
    cases done'
    exact ⟨List.length_take_of_le long, by rw [rest, List.take_append_drop], same⟩
  · rw [readExact_of_lt (Nat.lt_of_not_le long)] at done
    cases done

/-! ## Messages -/

/-- Read at most so many messages. -/
def readMany (read : List (Input α) → Option (List α × List (Input α))) :
    Nat → List (Input α) → List (List α) × List (Input α)
  | 0, input => ([], input)
  | fuel + 1, input =>
    match read input with
    | none => ([], input)
    | some (message, input) =>
      let (messages, input) := readMany read fuel input
      (message :: messages, input)

/-- Read messages until there is none.  If each has an item, there are not more of them than
items. -/
def readAll (read : List (Input α) → Option (List α × List (Input α))) (input : List (Input α)) :
    List (List α) × List (Input α) :=
  readMany read ((available input).length + 1) input

/-- Messages after a header that announces their length. -/
structure Framing (α : Type u) where
  headerSize : Nat
  headerSize_pos : 0 < headerSize
  announced : List α → Nat
  Accepts : Nat → Prop
  decidable : DecidablePred Accepts

namespace Framing

instance (f : Framing α) : DecidablePred f.Accepts := f.decidable

/-- The next message.  There is none if the stream ends or the length is not acceptable. -/
def read (f : Framing α) (input : List (Input α)) : Option (List α × List (Input α)) :=
  match readExact f.headerSize input with
  | .error _ => none
  | .ok (header, input) =>
    if f.Accepts (f.announced header) then
      match readExact (f.announced header) input with
      | .error _ => none
      | .ok (message, input) => some (message, input)
    else none

/-- The message in its frame. -/
def Frames (f : Framing α) (message frame : List α) : Prop :=
  ∃ header, frame = header ++ message ∧ header.length = f.headerSize ∧
    f.announced header = message.length ∧ f.Accepts message.length

variable {f : Framing α} {message frame rest : List α} {messages frames : List (List α)}

theorem Frames.pos (framed : f.Frames message frame) : 0 < frame.length := by
  obtain ⟨header, rfl, size, -, -⟩ := framed
  have positive := f.headerSize_pos
  rw [List.length_append]
  omega

theorem read_frame (framed : f.Frames message frame) (next : available input = frame ++ rest) :
    ∃ input', f.read input = some (message, input') ∧ available input' = rest ∧
      ending input' = ending input := by
  obtain ⟨header, rfl, size, announced, accepts⟩ := framed
  have long : f.headerSize ≤ (available input).length := by
    rw [next, List.length_append, List.length_append]
    omega
  obtain ⟨input₁, first, left, same⟩ := readExact_of_le long
  rw [next, List.append_assoc] at first left
  rw [List.take_left' size] at first
  rw [List.drop_left' size] at left
  have long' : message.length ≤ (available input₁).length := by
    rw [left, List.length_append]
    omega
  obtain ⟨input₂, second, left', same'⟩ := readExact_of_le long'
  rw [left, List.take_left] at second
  rw [left, List.drop_left] at left'
  refine ⟨input₂, ?_, left', same'.trans same⟩
  simp only [read, first, announced, accepts, if_true, second]

/-- A message that is read was in a frame, which was the next to arrive. -/
theorem read_eq_some (done : f.read input = some (message, input')) :
    ∃ frame, f.Frames message frame ∧ available input = frame ++ available input' ∧
      ending input' = ending input := by
  unfold read at done
  split at done
  · cases done
  · rename_i header input₁ first
    obtain ⟨size, next, same⟩ := readExact_eq_ok first
    split at done
    · rename_i accepts
      split at done
      · cases done
      · rename_i message' input₂ second
        obtain ⟨length, next', same'⟩ := readExact_eq_ok second
        cases done
        refine ⟨header ++ message, ⟨header, rfl, size, length.symm, ?_⟩, ?_, same'.trans same⟩
        · rw [length]
          exact accepts
        · rw [next, next', List.append_assoc]
    · cases done

theorem length_lt_of_read (done : f.read input = some (message, input')) :
    (available input').length < (available input).length := by
  obtain ⟨frame, framed, next, -⟩ := read_eq_some done
  have positive := framed.pos
  rw [next, List.length_append]
  omega

/-- If frames arrive, their messages are read, and then what comes after the frames. -/
theorem readMany_frames {fuel : Nat} (enough : (available input).length < fuel)
    (all : List.Forall₂ f.Frames messages frames)
    (next : available input = frames.flatten ++ rest)
    (stop : ∀ input', available input' = rest → ending input' = ending input →
      f.read input' = none) :
    ∃ input', readMany f.read fuel input = (messages, input') ∧ available input' = rest ∧
      ending input' = ending input := by
  induction all generalizing fuel input with
  | nil =>
    obtain ⟨fuel, rfl⟩ := Nat.exists_eq_succ_of_ne_zero (Nat.ne_zero_of_lt enough)
    refine ⟨input, ?_, next, rfl⟩
    rw [readMany, stop input next rfl]
  | @cons message frame messages frames framed all ih =>
    obtain ⟨fuel, rfl⟩ := Nat.exists_eq_succ_of_ne_zero (Nat.ne_zero_of_lt enough)
    rw [List.flatten_cons, List.append_assoc] at next
    obtain ⟨input₁, done, next', same⟩ := read_frame framed next
    have shorter := length_lt_of_read done
    obtain ⟨input₂, later, left, same'⟩ := @ih input₁ fuel (by omega) next'
      (fun input' left same' => stop input' left (same'.trans same))
    refine ⟨input₂, ?_, left, same'.trans same⟩
    rw [readMany, done]
    simp only [later]

theorem readAll_frames (all : List.Forall₂ f.Frames messages frames)
    (next : available input = frames.flatten ++ rest)
    (stop : ∀ input', available input' = rest → ending input' = ending input →
      f.read input' = none) :
    ∃ input', readAll f.read input = (messages, input') ∧ available input' = rest ∧
      ending input' = ending input :=
  readMany_frames (Nat.lt_succ_self _) all next stop

end Framing

/-! ## Writing -/

/-- What has been written to a stream, and how much more is taken before the stream breaks. -/
structure Writer (α : Type u) where
  written : List α
  room : Option Nat
deriving DecidableEq

/-- Write all the items, and say whether that was possible. -/
def Writer.writeAll (w : Writer α) (items : List α) : Bool × Writer α :=
  match w.room with
  | none => (true, ⟨w.written ++ items, none⟩)
  | some room =>
    if items.length ≤ room then (true, ⟨w.written ++ items, some (room - items.length)⟩)
    else (false, ⟨w.written ++ items.take room, some 0⟩)

end TrimRouter.Chunked
