/-!
The double nearest to a decimal number. Exponents far outside the range of doubles are settled by
the number of digits alone, so that no power of ten larger than the number itself is ever formed.
-/
namespace ServicePlacement.Decimal

def nearest (mantissa : Nat) (exponent : Int) : Float :=
  if mantissa = 0 then 0
  else
    let magnitude := exponent + (Nat.toDigits 10 mantissa).length
    if 310 < magnitude then 1.0 / 0.0
    else if magnitude < -330 then 0
    else Float.ofScientific mantissa (decide (exponent < 0)) exponent.natAbs

def signedNearest (negative : Bool) (mantissa : Nat) (exponent : Int) : Float :=
  if negative then -nearest mantissa exponent else nearest mantissa exponent

end ServicePlacement.Decimal
