/-
Double precision in exact arithmetic.

A finite magnitude is a natural number times a power of two, with at most 53
significant bits and an exponent no smaller than -1074.  Every operation computes its
exact result as a quotient of natural numbers and rounds it once, to the nearest
magnitude and to the even one of two equally near.
-/
namespace Turnstile.Decimal

/-- The quotient rounded to the nearest natural number, a half to the even neighbour. -/
def roundDiv (num den : Nat) : Nat :=
  let q := num / den
  let r := num % den
  if 2 * r < den then q else if den < 2 * r then q + 1 else q + q % 2

/-- The magnitude `mantissa · 2 ^ exponent`. -/
structure Binary64 where
  mantissa : Nat
  exponent : Int
  deriving DecidableEq, Repr

namespace Binary64

/-- The exponent of the smallest magnitude above zero. -/
def leastExponent : Int := -1074

/-- The exponent of the largest finite magnitude. -/
def greatestExponent : Int := 971

/-- The smallest mantissa of 53 bits. -/
def leastNormal : Nat := 0x10000000000000

def zero : Binary64 := ⟨0, leastExponent⟩

/-- The magnitude as a quotient: its numerator. -/
def num (d : Binary64) : Nat := d.mantissa * Nat.pow 2 d.exponent.toNat

/-- The magnitude as a quotient: its denominator. -/
def den (d : Binary64) : Nat := Nat.pow 2 (-d.exponent).toNat

/-- The exponent at which a positive quotient has 53 significant bits, or the least one. -/
def exponentOf (num den : Nat) : Int :=
  let guess : Int := (num.log2 : Int) - den.log2 - 52
  let exponent :=
    if num * Nat.pow 2 (-guess).toNat < leastNormal * den * Nat.pow 2 guess.toNat then guess - 1
    else guess
  max exponent leastExponent

/-- The nearest magnitude to a quotient; none beyond the finite range. -/
def round? (num den : Nat) : Option Binary64 :=
  if num = 0 then some zero
  else
    let exponent := exponentOf num den
    let mantissa := roundDiv (num * Nat.pow 2 (-exponent).toNat) (den * Nat.pow 2 exponent.toNat)
    let rounded : Binary64 :=
      if mantissa = 2 * leastNormal then ⟨leastNormal, exponent + 1⟩ else ⟨mantissa, exponent⟩
    if greatestExponent < rounded.exponent then none else some rounded

/-- The rounded product. -/
def times? (a b : Binary64) : Option Binary64 := round? (a.num * b.num) (a.den * b.den)

/-- The rounded quotient; the divisor is not zero. -/
def dividedBy? (a b : Binary64) : Option Binary64 := round? (a.num * b.den) (a.den * b.num)

/-- The largest power of ten that is a finite magnitude. -/
def greatestTenth : Nat := 308

/-- The magnitude nearest to `10 ^ k`, for `k` up to 308. -/
def tenth? (k : Nat) : Option Binary64 := round? (Nat.pow 10 k) 1

/-- A natural number below `2 ^ 64` times `10 ^ k`: number and power are rounded first and
their product once more. -/
def scaleUp? (n k : Nat) : Option Binary64 :=
  if k ≤ greatestTenth then do times? (← round? n 1) (← tenth? k)
  else if n = 0 then some zero
  else none

/-- A natural number below `2 ^ 64` divided by `10 ^ k`, in steps of at most 308 powers, each
rounded; two full steps bring every such number to zero. -/
def scaleDown? (n k : Nat) : Option Binary64 :=
  if k ≤ greatestTenth then do dividedBy? (← round? n 1) (← tenth? k)
  else if k ≤ 2 * greatestTenth then do
    dividedBy? (← dividedBy? (← round? n 1) (← tenth? greatestTenth)) (← tenth? (k - greatestTenth))
  else some zero

end Binary64

end Turnstile.Decimal
