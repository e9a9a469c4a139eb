/-
The fewest digits that read back.

Every real number nearer to a magnitude than to its neighbours rounds to it.  Among the
decimals in that interval the printed one has the fewest digits, and of those it is the
nearest to the magnitude.  For one digit, two digits and so on the two decimals next to
the magnitude are tried in exact arithmetic; seventeen digits always suffice.
-/
import Turnstile.Decimal.Binary64

namespace Turnstile.Decimal

/-- A decimal `0.d₁d₂… · 10 ^ point`: its digits, the last one not a zero, and where the point
stands relative to the first. -/
structure Digits where
  digits : List Char
  point : Int
  deriving DecidableEq, Repr

/-- The decimal digits of a natural number. -/
def natDigits (n : Nat) : List Char := Nat.toDigits 10 n

/-- The text of a natural number. -/
def natText (n : Nat) : String := String.ofList (natDigits n)

namespace Binary64

/-- How many digits stand before the point; zero or less when the magnitude is below one. -/
def digitsBeforePoint (d : Binary64) : Int :=
  if d.den ≤ d.num then ((natDigits (d.num / d.den)).length : Int)
  else 1 - (natDigits ((d.den - 1) / d.num)).length

/-- The multiple of `10 ^ unit` that rounds to the magnitude, if one of the two next to the
magnitude does: the nearer one, or of two equally near the even one. -/
def multiple? (d : Binary64) (unit : Int) : Option Nat :=
  let quarter := d.exponent - 2
  let scale := Nat.pow 10 unit.toNat * Nat.pow 2 (-quarter).toNat
  let step := Nat.pow 2 quarter.toNat * Nat.pow 10 (-unit).toNat
  let value := 4 * d.mantissa * step
  let gap := if d.mantissa = leastNormal ∧ leastExponent < d.exponent then step else 2 * step
  let low := value - gap
  let high := value + 2 * step
  let rounds (c : Nat) : Bool :=
    if d.mantissa % 2 = 0 then low ≤ c * scale && c * scale ≤ high
    else low < c * scale && c * scale < high
  let down := value / scale
  let up := down + 1
  match rounds down, rounds up with
  | false, false => none
  | true, false => some down
  | false, true => some up
  | true, true =>
    let below := value - down * scale
    let above := up * scale - value
    if below < above then some down
    else if above < below then some up
    else if down % 2 = 0 then some down else some up

/-- The decimal `n · 10 ^ unit` with the zeros at its end taken off. -/
def trimmed (n : Nat) (unit : Int) : Digits :=
  let digits := natDigits n
  { digits := (digits.reverse.dropWhile (· = '0')).reverse
    point := digits.length + unit }

/-- The fewest digits that read back as the magnitude, which is not zero. -/
def shortest (d : Binary64) : Digits :=
  let point := d.digitsBeforePoint
  let found := (List.range 17).findSome? fun n =>
    let unit := point - (n + 1 : Nat)
    (d.multiple? unit).map (trimmed · unit)
  found.getD { digits := ['0'], point := 0 }

end Binary64

end Turnstile.Decimal
