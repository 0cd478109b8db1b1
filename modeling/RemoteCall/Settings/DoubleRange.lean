/-!
# Decimal numbers within the range of doubles

A decimal number `significand * 10 ^ exponent` is turned into a double by one multiplication: the
significand and the power of ten are each rounded to the nearest double, and so is their product.
`DoubleRange.exceeds` says when that product is too large for any double.
-/

namespace RemoteCall

namespace DoubleRange

/-- The number of significant bits of a double. -/
def precision : Nat := 53

/-- The nearest number with at most `precision` significant bits; of two, the even one. -/
def round (n : Nat) : Nat :=
  let excess := n.log2 + 1 - precision
  let unit := 1 <<< excess
  let rest := n % unit
  let low := n / unit * unit
  if rest * 2 < unit ∨ (rest * 2 = unit ∧ n / unit % 2 = 0) then low
  else if excess = 0 then n
  else low + unit

/-- The least number that rounds to no double: halfway between the largest double and the power of
two above it. -/
def overflow : Nat := 1 <<< 1024 - 1 <<< 970

/-- Whether `significand * 10 ^ exponent` is beyond the range of doubles. -/
def exceeds (significand : Nat) (exponent : Int) : Bool :=
  match exponent with
  | .negSucc _ => false
  | .ofNat e =>
    significand != 0 && (308 < e || overflow ≤ round significand * round (Nat.pow 10 e))

end DoubleRange

end RemoteCall
