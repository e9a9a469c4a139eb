/-
Percent decoding.

A percent sign with two hexadecimal digits after it stands for one byte; any other
percent sign stands for itself.  The bytes have to be UTF-8 in the end.
-/
import Turnstile.Json.Scan

namespace Turnstile.Http

/-- The code of a percent sign. -/
def percentSign : UInt8 := 0x25

/-- The value of a byte that is a hexadecimal digit. -/
def hexByte? (b : UInt8) : Option Nat := Json.hexValue? (Char.ofNat b.toNat)

/-- The bytes that percent-encoded bytes stand for. -/
def percentDecode : List UInt8 → List UInt8
  | a :: b :: c :: rest =>
    if a = percentSign then
      match hexByte? b, hexByte? c with
      | some high, some low => UInt8.ofNat (high * 16 + low) :: percentDecode rest
      | _, _ => a :: percentDecode (b :: c :: rest)
    else a :: percentDecode (b :: c :: rest)
  | rest => rest

/-- The text that percent-encoded text stands for, if it is one. -/
def decodeText? (s : List Char) : Option String :=
  String.fromUTF8? ⟨(percentDecode (String.ofList s).toUTF8.data.toList).toArray⟩

end Turnstile.Http
