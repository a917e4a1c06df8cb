/-!
# Integers of fixed width

Reading an integer into a word that may be too narrow for it, and integers of 128 bits.
-/

namespace Partitioning

namespace Width

/-- The word of 32 bits with this value, if there is one. -/
def int32? (n : Int) : Option Int32 :=
  if -0x80000000 ≤ n ∧ n < 0x80000000 then some (Int32.ofInt n) else none

def int64? (n : Int) : Option Int64 :=
  if -0x8000000000000000 ≤ n ∧ n < 0x8000000000000000 then some (Int64.ofInt n) else none

def uint32? (n : Nat) : Option UInt32 :=
  if n < 0x100000000 then some (UInt32.ofNat n) else none

def uint64? (n : Nat) : Option UInt64 :=
  if n < 0x10000000000000000 then some (UInt64.ofNat n) else none

end Width

/-- A signed integer of 128 bits. -/
structure Int128 where
  toInt : Int
  lower : -0x80000000000000000000000000000000 ≤ toInt
  upper : toInt < 0x80000000000000000000000000000000

namespace Int128

instance : DecidableEq Int128 := fun a b =>
  if h : a.toInt = b.toInt then isTrue (by cases a; cases b; cases h; rfl)
  else isFalse fun e => h (congrArg toInt e)

/-- The word with this value, if there is one. -/
def ofInt? (n : Int) : Option Int128 :=
  if h : -0x80000000000000000000000000000000 ≤ n ∧ n < 0x80000000000000000000000000000000 then
    some ⟨n, h.1, h.2⟩
  else none

end Int128

end Partitioning
