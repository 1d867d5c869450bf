import ServicePlacement.Decimal.Nearest
import ServicePlacement.Text.Digits

/-!
Decimal literals and two ways to round one to a double. One way takes the nearest double. The other
takes as many digits as fit into a word and multiplies or divides them by a power of ten, so that it
rounds once or twice more and may end beside the nearest double.
-/
namespace ServicePlacement.Decimal

structure Literal where
  negative : Bool
  whole : List Char
  fraction : List Char
  exponent : Int

abbrev Rounding := Literal → Float

def appendDigits (n : Nat) : List Char → Nat × List Char
  | [] => (n, [])
  | c :: rest =>
    let extended := 10 * n + (c.toNat - 48)
    if extended < 18446744073709551616 then appendDigits extended rest else (n, c :: rest)

def powerOfTen (k : Nat) : Float := nearest 1 k

/-- Multiply by a power of ten with one rounding, or divide with one or two; powers above `10 ^ 308`
are no doubles. -/
def scale (x : Float) (exponent : Int) : Float :=
  if x == 0 then x
  else if 308 < exponent then 1.0 / 0.0
  else if 0 ≤ exponent then x * powerOfTen exponent.toNat
  else if -308 ≤ exponent then x / powerOfTen (-exponent).toNat
  else if -616 ≤ exponent then x / powerOfTen 308 / powerOfTen (-exponent - 308).toNat
  else 0

namespace Literal

def nearest (l : Literal) : Float :=
  let digits := (Text.ofDigits? 10 (l.whole ++ l.fraction)).getD 0
  signedNearest l.negative digits (l.exponent - l.fraction.length)

/-- Round by scaling the digits that fit into a word. Digits before the point that do not fit count
as zeros, even if digits behind the point fit again. -/
def scaled (l : Literal) : Float :=
  let (n, zeros) := appendDigits 0 l.whole
  let (n, ignored) := appendDigits n l.fraction
  let places : Int := l.fraction.length - ignored.length
  let x := scale (UInt64.ofNat n).toFloat (l.exponent + zeros.length - places)
  if l.negative then -x else x

end Literal

end ServicePlacement.Decimal
