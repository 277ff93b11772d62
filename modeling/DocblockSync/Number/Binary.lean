import DocblockSync.Number.Power

/-! Binary numbers with 53 significant bits: the nearest one to a quotient, products and quotients of
them, and the scaling of a whole number by a power of ten. Halves go to the even neighbour. -/

namespace DocblockSync

/-- The number `mantissa · 2 ^ exponent`. -/
structure Binary where
  mantissa : Nat
  exponent : Int
  deriving Repr, DecidableEq

namespace Binary

def roundDiv (numerator denominator : Nat) : Nat :=
  let quotient := numerator / denominator
  let rest := numerator % denominator
  if denominator < 2 * rest || (2 * rest == denominator && quotient % 2 == 1) then quotient + 1
  else quotient

def inUnits (numerator denominator : Nat) (exponent : Int) : Nat × Nat :=
  (numerator * twoTo (-exponent).toNat, denominator * twoTo exponent.toNat)

def leastExponent : Int := -1074

def mostExponent : Int := 971

def zero : Binary := ⟨0, leastExponent⟩

/-- The exponent at which a positive quotient has 53 bits before the point, but not a smaller one than
the least. -/
def exponentOf (numerator denominator : Nat) : Int :=
  let fine : Int := (Nat.log2 numerator : Int) - Nat.log2 denominator - 53
  let (n, d) := inUnits numerator denominator fine
  max leastExponent (if n / d < twoTo 53 then fine else fine + 1)

def nearest? (numerator denominator : Nat) : Option Binary :=
  if numerator == 0 then some zero
  else
    let exponent := exponentOf numerator denominator
    let (n, d) := inUnits numerator denominator exponent
    let mantissa := roundDiv n d
    let result : Binary :=
      if mantissa == twoTo 53 then ⟨twoTo 52, exponent + 1⟩ else ⟨mantissa, exponent⟩
    if result.exponent ≤ mostExponent then some result else none

def times? (a b : Binary) : Option Binary :=
  let exponent := a.exponent + b.exponent
  nearest? (a.mantissa * b.mantissa * twoTo exponent.toNat) (twoTo (-exponent).toNat)

def over? (a b : Binary) : Option Binary :=
  let exponent := a.exponent - b.exponent
  nearest? (a.mantissa * twoTo exponent.toNat) (b.mantissa * twoTo (-exponent).toNat)

def mostPower : Nat := 308

def shrink? : Nat → Binary → Nat → Option Binary
  | 0, _, _ => some zero
  | fuel + 1, a, power =>
      if power ≤ mostPower then (nearest? (tenTo power) 1).bind a.over?
      else if a.mantissa == 0 then some a
      else
        match (nearest? (tenTo mostPower) 1).bind a.over? with
        | some quotient => shrink? fuel quotient (power - mostPower)
        | none => none

/-- The number of divisions by the greatest power of ten that leave nothing of a number of 64 bits. -/
def shrinkSteps : Nat := 4

def ofScientific? (digits : Nat) (exponent : Int) : Option Binary :=
  match nearest? digits 1 with
  | none => none
  | some a =>
      if exponent < 0 then a.shrink? shrinkSteps exponent.natAbs
      else if exponent.natAbs ≤ mostPower then (nearest? (tenTo exponent.natAbs) 1).bind a.times?
      else if a.mantissa == 0 then some a
      else none

end Binary

end DocblockSync
