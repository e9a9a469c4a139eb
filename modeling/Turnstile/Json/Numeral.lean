/-
Numerals: numbers as a JSON text spells them, and the numbers they stand for.

Of a numeral's digits the leading ones that fit 64 bits are taken exactly and the others
only set the scale.  A whole number that fits is exact; anything else, and minus zero,
becomes a double by one scaling with a power of ten.
-/
import Turnstile.Json.Number
import Turnstile.Json.Scan

namespace Turnstile.Json

open Decimal

/-- A number as it is spelled. -/
structure Numeral where
  negative : Bool
  whole : List Char
  /-- The digits after the point, none when there is no point. -/
  fraction : List Char
  /-- Whether the exponent is negative, and its digits. -/
  exponent : Option (Bool × List Char)
  deriving DecidableEq, Repr

namespace Numeral

/-! ### Reading the spelling -/

/-- The digits that have to stand next; `cut` is the problem when the text ends instead. -/
def digits (cut : Problem) (cs : List Char) : Except Problem (List Char × List Char) :=
  match cs.takeWhile Char.isDigit, cs.dropWhile Char.isDigit with
  | [], [] => .error cut
  | [], _ :: _ => .error .malformed
  | found, rest => .ok (found, rest)

/-- The whole digits: a zero stands alone. -/
def readWhole (cut : Problem) (cs : List Char) : Except Problem (List Char × List Char) := do
  let (whole, rest) ← digits cut cs
  match whole with
  | '0' :: _ :: _ => .error .malformed
  | _ => .ok (whole, rest)

/-- The digits after a point, if one stands next. -/
def readFraction (cut : Problem) (cs : List Char) : Except Problem (List Char × List Char) :=
  match cs with
  | '.' :: rest => digits cut rest
  | rest => .ok ([], rest)

/-- The sign of an exponent, and what is left after it. -/
def exponentSign : List Char → Bool × List Char
  | '-' :: rest => (true, rest)
  | '+' :: rest => (false, rest)
  | rest => (false, rest)

/-- The exponent, if one stands next. -/
def readExponent (cut : Problem) (cs : List Char) :
    Except Problem (Option (Bool × List Char) × List Char) :=
  match cs with
  | c :: rest =>
    if c = 'e' || c = 'E' then do
      let (negative, rest) := exponentSign rest
      let (found, rest) ← digits cut rest
      .ok (some (negative, found), rest)
    else .ok (none, cs)
  | [] => .ok (none, [])

/-- Reads a numeral; `cut` is the problem when the text ends inside it. -/
def read (cut : Problem) (cs : List Char) : Except Problem (Numeral × List Char) := do
  let (negative, cs) := match cs with
    | '-' :: rest => (true, rest)
    | cs => (false, cs)
  let (whole, cs) ← readWhole cut cs
  let (fraction, cs) ← readFraction cut cs
  let (exponent, cs) ← readExponent cut cs
  .ok ({ negative, whole, fraction, exponent }, cs)

/-- Whether a numeral can start with the character. -/
def canStart (c : Char) : Bool := c = '-' || c.isDigit

/-! ### The number it stands for -/

/-- The largest number that 64 bits hold. -/
def greatestExact : Nat := 0xffffffffffffffff

/-- The largest number that 64 bits hold with a minus sign. -/
def greatestNegated : Nat := 0x8000000000000000

/-- The value of a decimal digit. -/
def digitValue (c : Char) : Nat := c.toNat - '0'.toNat

/-- Appends leading digits to a number while it fits 64 bits, and gives back the others. -/
def gather : Nat → List Char → Nat × List Char
  | n, [] => (n, [])
  | n, c :: cs =>
    let next := n * 10 + digitValue c
    if next ≤ greatestExact then gather next cs else (n, c :: cs)

/-- The number that digits spell. -/
def valueOf (digits : List Char) : Nat := digits.foldl (fun n c => n * 10 + digitValue c) 0

/-- The power of ten that an exponent stands for. -/
def power (n : Numeral) : Int :=
  match n.exponent with
  | none => 0
  | some (negative, digits) => if negative then -(valueOf digits : Int) else valueOf digits

/-- The magnitude of a number below `2 ^ 64` times a power of ten; none beyond the range. -/
def magnitude? (n : Nat) (power : Int) : Option Binary64 :=
  if 0 ≤ power then Binary64.scaleUp? n power.toNat else Binary64.scaleDown? n (-power).toNat

/-- The number a numeral stands for; none when it is beyond the range of doubles. -/
def number? (n : Numeral) : Option Number :=
  let (exact, unread) := gather 0 n.whole
  let isExact := unread.isEmpty && n.fraction.isEmpty && n.exponent.isNone
  if isExact && !n.negative then some (.integer exact)
  else if isExact && 0 < exact && exact ≤ greatestNegated then some (.integer (-(exact : Int)))
  else
    let (significand, unused) := gather exact n.fraction
    let scale : Int := (unread.length : Int) - ((n.fraction.length : Int) - unused.length)
    (magnitude? significand (scale + n.power)).map (.double n.negative)

end Numeral

end Turnstile.Json
