/-!
# Powers of two and ten

Binary numbers are scaled by powers of two and decimals by powers of ten.

## Main definitions

* `twoTo`, `tenTo`: the powers.
-/

namespace EntitySql.Number

/-- Two to a power. -/
def twoTo (n : Nat) : Nat :=
  Nat.pow 2 n

/-- Ten to a power. -/
def tenTo (n : Nat) : Nat :=
  Nat.pow 10 n

/-- No factor of ten gives one. -/
@[simp] theorem tenTo_zero : tenTo 0 = 1 := rfl

/-- One more power of ten is one more factor of ten. -/
theorem tenTo_succ (n : Nat) : tenTo (n + 1) = tenTo n * 10 := rfl

end EntitySql.Number
