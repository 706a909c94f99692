import Mathlib.Data.BitVec

/-!
# Numbers in network byte order

`put k n` writes a number as `k` bytes, the most significant one first, and `take k` reads
one from the front of a byte string.
-/

namespace TrimRouter.Wire

/-- The number as `k` bytes; what does not fit is lost. -/
def put : Nat → Nat → List (BitVec 8)
  | 0, _ => []
  | k + 1, n => BitVec.ofNat 8 (n / 256 ^ k) :: put k (n % 256 ^ k)

/-- The number in the first `k` bytes, and the bytes after them. -/
def take : Nat → List (BitVec 8) → Option (Nat × List (BitVec 8))
  | 0, bytes => some (0, bytes)
  | _ + 1, [] => none
  | k + 1, b :: bytes => (take k bytes).map fun (n, rest) => (b.toNat * 256 ^ k + n, rest)

/-- Skip `k` bytes. -/
def skip (k : Nat) (bytes : List (BitVec 8)) : Option (List (BitVec 8)) :=
  if k ≤ bytes.length then some (bytes.drop k) else none

variable {k n : Nat} {rest : List (BitVec 8)}

@[simp]
theorem length_put : (put k n).length = k := by
  induction k generalizing n with
  | zero => rfl
  | succ k ih => rw [put, List.length_cons, ih]

/-- A number that fits is read back as it was written. -/
theorem take_put (fits : n < 256 ^ k) : take k (put k n ++ rest) = some (n, rest) := by
  induction k generalizing n with
  | zero =>
    have zero : n = 0 := by omega
    rw [zero]
    rfl
  | succ k ih =>
    have positive : 0 < 256 ^ k := Nat.pow_pos (by decide)
    have small : n % 256 ^ k < 256 ^ k := Nat.mod_lt _ positive
    have high : n / 256 ^ k < 256 := by
      rw [Nat.div_lt_iff_lt_mul positive, ← Nat.pow_succ']
      exact fits
    have byte : (BitVec.ofNat 8 (n / 256 ^ k)).toNat = n / 256 ^ k := by
      rw [BitVec.toNat_ofNat]
      exact Nat.mod_eq_of_lt high
    rw [put, List.cons_append, take, ih small, Option.map_some, byte]
    simp only [Nat.div_add_mod']

/-- The same for a bit vector of at most that width. -/
theorem take_put_bitVec {w : Nat} (x : BitVec w) (width : w ≤ 8 * k) :
    take k (put k x.toNat ++ rest) = some (x.toNat, rest) := by
  apply take_put
  calc
    x.toNat < 2 ^ w := x.isLt
    _ ≤ 2 ^ (8 * k) := Nat.pow_le_pow_right (by decide) width
    _ = 256 ^ k := by rw [Nat.pow_mul]

theorem skip_append {front : List (BitVec 8)} (length : front.length = k) :
    skip k (front ++ rest) = some rest := by
  unfold skip
  rw [if_pos (by rw [List.length_append]; omega), List.drop_left' length]

end TrimRouter.Wire
