import DocblockSync.Number.Binary
import DocblockSync.Text.Basic

/-! Decimal digits of binary numbers: the fewest that read back as the same number and, among those,
the ones nearest to it. -/

namespace DocblockSync

open Text

/-- The number `digits · 10 ^ exponent`. -/
structure Decimal where
  digits : Nat
  exponent : Int
  deriving Repr, DecidableEq

/-- The same number without zeros at the end of its digits; the fuel bounds their count. -/
def Decimal.strip : Nat → Decimal → Decimal
  | 0, d => d
  | fuel + 1, d =>
      if d.digits != 0 && d.digits % 10 == 0 then strip fuel ⟨d.digits / 10, d.exponent + 1⟩ else d

namespace Binary

def compareScaled (a : Nat) (i : Int) (b : Nat) (j : Int) : Ordering :=
  compare (a * tenTo i.toNat * twoTo (-j).toNat) (b * twoTo j.toNat * tenTo (-i).toNat)

/-- Whether a decimal is nearer to this number than to its neighbours. Halfway to a neighbour it still
is if the mantissa is even; below a power of two the neighbour is only half as far away. -/
def readsBack (a : Binary) (d : Decimal) : Bool :=
  let narrow := a.mantissa == twoTo 52 && a.exponent != leastExponent
  let low := compareScaled d.digits d.exponent
    (if narrow then 4 * a.mantissa - 1 else 4 * a.mantissa - 2) (a.exponent - 2)
  let high := compareScaled d.digits d.exponent (4 * a.mantissa + 2) (a.exponent - 2)
  let even := a.mantissa % 2 == 0
  (low == .gt || (even && low == .eq)) && (high == .lt || (even && high == .eq))

def inTens (a : Binary) (exponent : Int) : Nat × Nat :=
  (a.mantissa * twoTo a.exponent.toNat * tenTo (-exponent).toNat,
    twoTo (-a.exponent).toNat * tenTo exponent.toNat)

def readingBack? (a : Binary) (exponent : Int) : Option Decimal :=
  let (n, d) := a.inTens exponent
  let nearer := roundDiv n d
  let further := if nearer == n / d then n / d + 1 else n / d
  [nearer, further].map (⟨·, exponent⟩) |>.find? a.readsBack

def magnitude (a : Binary) : Int :=
  let estimate : Int := ((Nat.log2 a.mantissa : Int) + a.exponent) * 30103 / 100000
  if compareScaled 1 estimate a.mantissa a.exponent == .gt then estimate
  else if compareScaled 1 (estimate + 1) a.mantissa a.exponent == .gt then estimate + 1
  else estimate + 2

def shortest (a : Binary) : Decimal :=
  ((List.range 17).findSome? fun (digits : Nat) => a.readingBack? (a.magnitude - digits - 1)).getD
    ⟨(a.inTens (a.magnitude - 17)).1 / (a.inTens (a.magnitude - 17)).2, a.magnitude - 17⟩

end Binary

def integerText (n : Int) : Text := if n < 0 then '-' :: ofNat n.natAbs else ofNat n.natAbs

/-- A decimal with a point or, where that would need many zeros, with an exponent. -/
def Decimal.text (d : Decimal) : Text :=
  let digits := ofNat d.digits
  let point := digits.length + d.exponent
  if 0 ≤ d.exponent && point ≤ 16 then
    digits ++ List.replicate d.exponent.toNat '0' ++ ".0".toList
  else if 0 < point && point ≤ 16 then
    digits.take point.toNat ++ '.' :: digits.drop point.toNat
  else if -5 < point && point ≤ 0 then
    "0.".toList ++ List.replicate (-point).toNat '0' ++ digits
  else
    digits.take 1 ++ (if digits.length == 1 then [] else '.' :: digits.drop 1) ++
      'e' :: integerText (point - 1)

def Binary.text (a : Binary) : Text :=
  if a.mantissa == 0 then "0.0".toList else (a.shortest.strip 17).text

end DocblockSync
