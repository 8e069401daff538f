/-! # Widths of whole numbers

A number fits so many bits without a sign when it lies below the power of two with that exponent;
with a sign, half of the range lies below zero.
-/

namespace StubServer.Number

/-- Whether a number can be stored in `bits` bits without a sign. -/
def fits (bits n : Nat) : Bool := n < 1 <<< bits

/-- Whether a number can be stored in `bits` bits, one of them for the sign. -/
def fitsSigned (bits : Nat) (n : Int) : Bool :=
  if 0 ≤ n then fits (bits - 1) n.toNat else n.natAbs ≤ 1 <<< (bits - 1)

/-- The power of ten with this exponent. -/
def tenPower (exponent : Nat) : Nat := Nat.pow 10 exponent

end StubServer.Number
