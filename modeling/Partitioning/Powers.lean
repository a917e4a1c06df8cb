/-!
# Powers of two and ten

Both are spelled with `Nat.pow`, so that they are the same function for every module, whichever
instances of powers it imports.
-/

namespace Partitioning

/-- The number of values of `n` bits. -/
def twoTo (n : Nat) : Nat := Nat.pow 2 n

/-- One more than the greatest number of `n` decimal digits. -/
def tenTo (n : Nat) : Nat := Nat.pow 10 n

/-- A scale of zero changes nothing. -/
@[simp] theorem tenTo_zero : tenTo 0 = 1 := rfl

/-- One more digit of scale. -/
theorem tenTo_succ (n : Nat) : tenTo (n + 1) = tenTo n * 10 := rfl

/-- Scaling twice scales by the sum. -/
theorem tenTo_add (m n : Nat) : tenTo (m + n) = tenTo m * tenTo n :=
  Nat.pow_add 10 m n

/-- A greater scale is a greater factor. -/
theorem tenTo_le_tenTo {m n : Nat} (h : m ≤ n) : tenTo m ≤ tenTo n :=
  Nat.pow_le_pow_right (by decide) h

/-- Scaling can be undone. -/
theorem tenTo_pos (n : Nat) : 0 < tenTo n :=
  Nat.pow_pos (by decide)

end Partitioning
