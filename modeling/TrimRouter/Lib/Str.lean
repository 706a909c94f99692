import Mathlib.Algebra.GroupWithZero.Nat
import Mathlib.Data.List.DropRight
import Mathlib.Data.List.Infix

/-!
# The methods of `str`

A text is the list of its characters.
-/

namespace TrimRouter

abbrev Text := List Char

/-- `char::is_whitespace`, the characters with the Unicode property White_Space. -/
def isWhitespace (c : Char) : Bool :=
  let n := c.toNat
  (0x9 ≤ n && n ≤ 0xD) || n == 0x20 || n == 0x85 || n == 0xA0 || n == 0x1680 ||
    (0x2000 ≤ n && n ≤ 0x200A) || n == 0x2028 || n == 0x2029 || n == 0x202F || n == 0x205F ||
    n == 0x3000

namespace Str

/-- `str::len`, in bytes. -/
def byteLength (text : Text) : Nat := (text.map Char.utf8Size).sum

/-- The first `n` bytes; `none` where they end inside a character. -/
def takeBytes : Text → Nat → Option Text
  | _, 0 => some []
  | [], _ + 1 => none
  | c :: text, n + 1 =>
    if c.utf8Size ≤ n + 1 then (takeBytes text (n + 1 - c.utf8Size)).map (c :: ·) else none

/-- `trim_start`. -/
def trimStart (text : Text) : Text := text.dropWhile isWhitespace

/-- `trim_end`. -/
def trimEnd (text : Text) : Text := text.rdropWhile isWhitespace

/-- `str::contains`. -/
def contains (text pattern : Text) : Bool := decide (pattern <:+: text)

/-- `split_once`. -/
def splitOnce (c : Char) (text : Text) : Option (Text × Text) :=
  match text.dropWhile (· ≠ c) with
  | [] => none
  | _ :: rest => some (text.takeWhile (· ≠ c), rest)

/-- A line without the carriage return at its end. -/
def stripReturn (line : Text) : Text :=
  if line.getLast? = some '\r' then line.dropLast else line

/-- The parts of a text between its line feeds. -/
def segments : Text → List Text
  | [] => []
  | c :: text =>
    if c = '\n' then [] :: segments text
    else match segments text with
      | [] => [[c]]
      | first :: rest => (c :: first) :: rest

/-- `lines`. -/
def lines (text : Text) : List Text := (segments text).map stripReturn

/-- The text in the brackets that a text starts with, and what is behind them. -/
def bracketed : Text → Option (Text × Text)
  | '[' :: rest => splitOnce ']' rest
  | _ => none

theorem splitOnce_eq_some_iff {c : Char} {text front rest : Text} :
    splitOnce c text = some (front, rest) ↔ c ∉ front ∧ text = front ++ c :: rest := by
  constructor
  · intro divided
    unfold splitOnce at divided
    split at divided
    · cases divided
    · rename_i d later dropped
      obtain ⟨rfl, rfl⟩ : text.takeWhile (· ≠ c) = front ∧ later = rest := by
        simpa using divided
      have first : d = c := by
        have stops := List.head?_dropWhile_not (fun x => decide (x ≠ c)) text
        rw [dropped] at stops
        simpa using stops
      refine ⟨fun member => ?_, ?_⟩
      · simpa using List.mem_takeWhile_imp member
      · rw [← first, ← dropped, first, List.takeWhile_append_dropWhile]
  · intro parts
    obtain ⟨free, rfl⟩ := parts
    have passes : ∀ x ∈ front, decide (x ≠ c) = true := by
      intro x member
      exact decide_eq_true fun same => free (same ▸ member)
    unfold splitOnce
    rw [List.dropWhile_append_of_pos passes, List.takeWhile_append_of_pos passes]
    simp

theorem bracketed_eq_some_iff {text inner rest : Text} :
    bracketed text = some (inner, rest) ↔ ']' ∉ inner ∧ text = '[' :: (inner ++ ']' :: rest) := by
  unfold bracketed
  split
  · rw [splitOnce_eq_some_iff, List.cons_inj_right]
  · rename_i other
    refine iff_of_false nofun fun within => ?_
    exact other _ within.2

end Str

end TrimRouter
