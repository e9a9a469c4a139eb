/-
Numbers of JSON values, and how they are written.

A whole number that fits 64 bits is kept exactly.  Every other number is a double, and
it is written with the fewest digits that read back: positionally with a point from
`0.00001` up to sixteen digits, otherwise with an exponent that carries its sign.
-/
import Turnstile.Decimal.Shortest

namespace Turnstile.Json

open Decimal

/-- A number: a whole one, or a signed double. -/
inductive Number where
  | integer (n : Int)
  | double (negative : Bool) (magnitude : Binary64)
  deriving DecidableEq, Repr

namespace Number

/-- The most digits that may stand before the point. -/
def widestWhole : Int := 16

/-- The most zeros that may follow the point before the first digit. -/
def widestGap : Int := 4

/-- Digits with a point among them, or with an exponent when they would reach too far. -/
def place (d : Digits) : List Char :=
  let count : Int := d.digits.length
  if 0 < d.point ∧ d.point ≤ widestWhole then
    if count ≤ d.point then
      d.digits ++ List.replicate (d.point - count).toNat '0' ++ ['.', '0']
    else
      d.digits.take d.point.toNat ++ '.' :: d.digits.drop d.point.toNat
  else if -widestGap ≤ d.point ∧ d.point ≤ 0 then
    ['0', '.'] ++ List.replicate (-d.point).toNat '0' ++ d.digits
  else
    let exponent := d.point - 1
    let sign := if exponent < 0 then '-' else '+'
    let fraction := match d.digits.drop 1 with
      | [] => []
      | digits => '.' :: digits
    d.digits.take 1 ++ fraction ++ 'e' :: sign :: natDigits exponent.natAbs

/-- How a magnitude is written. -/
def magnitudeText (d : Binary64) : List Char :=
  if d.mantissa = 0 then ['0', '.', '0'] else place d.shortest

/-- How a number is written. -/
def chars : Number → List Char
  | integer n => if n < 0 then '-' :: natDigits n.natAbs else natDigits n.natAbs
  | double negative magnitude =>
    if negative then '-' :: magnitudeText magnitude else magnitudeText magnitude

def text (n : Number) : String := String.ofList n.chars

end Number

end Turnstile.Json
