/-!
The fewest decimal digits that read back as a given double, and of those the nearest to it. A finite
double is `significand * 2 ^ exponent`; the reals that round to it form an interval around it, which
includes its ends when the significand is even. For one digit, two digits, and so on, the two
neighbours of the double on the decimal grid are tested against that interval in whole numbers.
-/
namespace ServicePlacement.Decimal

structure Binary where
  significand : Nat
  exponent : Int
  /-- The next smaller double is only half as far away as the next larger one. -/
  closeBelow : Bool

def Binary.ofFloat (x : Float) : Binary :=
  let bits : Nat := x.toBits.toNat % 9223372036854775808
  let fraction : Nat := bits % 4503599627370496
  let biased : Nat := bits / 4503599627370496
  if biased = 0 then ⟨fraction, -1074, false⟩
  else ⟨4503599627370496 + fraction, (biased : Int) - 1075, decide (fraction = 0 ∧ 1 < biased)⟩

def compareScaled (a : Nat) (k : Int) (num den : Nat) : Ordering :=
  if 0 ≤ k then compare (a * Nat.pow 10 k.toNat * den) num
  else compare (a * den) (num * Nat.pow 10 (-k).toNat)

/-- The largest `p` with `10 ^ p ≤ num / den`, for positive `num` and `den`. -/
def order (num den : Nat) : Int :=
  let p : Int := (Nat.toDigits 10 num).length - (Nat.toDigits 10 den).length
  if compareScaled 1 p num den == .gt then p - 1 else p

/-- The larger and smaller grid points around `num / den` that lie in the rounding interval, the
nearer one; a tie goes to the even one. -/
def onGrid? (b : Binary) (num den : Nat) (k : Int) : Option Nat :=
  let below := if 0 ≤ k then num / (den * Nat.pow 10 k.toNat) else num * Nat.pow 10 (-k).toNat / den
  let closed := b.significand % 2 == 0
  -- the interval runs from `low / (4 * den)` to `high / (4 * den)`, scaled like `num`
  let unit := num / b.significand
  let low := 4 * num - (if b.closeBelow then unit else 2 * unit)
  let high := 4 * num + 2 * unit
  let inside (a : Nat) : Bool :=
    let atLow := compareScaled a k low (4 * den)
    let atHigh := compareScaled a k high (4 * den)
    (atLow == .gt || (closed && atLow == .eq)) && (atHigh == .lt || (closed && atHigh == .eq))
  match inside below, inside (below + 1) with
  | false, false => none
  | true, false => some below
  | false, true => some (below + 1)
  | true, true =>
    match compareScaled (2 * below + 1) k (2 * num) den with
    | .gt => some below
    | .lt => some (below + 1)
    | .eq => some (if below % 2 == 0 then below else below + 1)

def stripZeros : Nat → Nat → Int → Nat × Int
  | 0, digits, k => (digits, k)
  | fuel + 1, digits, k =>
    if digits % 10 == 0 then stripZeros fuel (digits / 10) (k + 1) else (digits, k)

def shortest (b : Binary) : Nat × Int :=
  let num := b.significand * Nat.pow 2 b.exponent.toNat
  let den := Nat.pow 2 (-b.exponent).toNat
  let top := order num den
  let tryDigits (n : Nat) : Option (Nat × Int) :=
    let k := top - n
    (onGrid? b num den k).map fun d => stripZeros 20 d k
  ((List.range 18).findSome? tryDigits).getD (num, 0)

/-- How a number is laid out: where positional notation ends on either side (`none` for never), what
follows a whole number, and what stands before an exponent that is not negative. The bounds are on
the position of the point, counted from the first digit. -/
structure Style where
  leastPoint : Option Int
  greatestPoint : Option Int
  wholeEnd : String
  exponentSign : String

private def zeros (n : Nat) : List Char := List.replicate n '0'

def positional (style : Style) (digits : List Char) (point : Int) : List Char :=
  if point ≤ 0 then '0' :: '.' :: (zeros (-point).toNat ++ digits)
  else if digits.length ≤ point.toNat then
    digits ++ zeros (point.toNat - digits.length) ++ style.wholeEnd.toList
  else digits.take point.toNat ++ '.' :: digits.drop point.toNat

def scientific (style : Style) (digits : List Char) (point : Int) : List Char :=
  let sign := if 1 ≤ point then style.exponentSign else ""
  let exponent := sign.toList ++ (toString (point - 1)).toList
  match digits with
  | [d] => d :: 'e' :: exponent
  | d :: rest => d :: '.' :: rest ++ 'e' :: exponent
  | [] => []

def Style.text (style : Style) (x : Float) : List Char :=
  let sign := if x.toBits.toNat ≥ 9223372036854775808 then ['-'] else []
  let b := Binary.ofFloat x
  if b.significand = 0 then sign ++ '0' :: style.wholeEnd.toList
  else
    let (digits, k) := shortest b
    let ds := Nat.toDigits 10 digits
    let point := k + ds.length
    let small := match style.leastPoint with | some p => decide (point < p) | none => false
    let large := match style.greatestPoint with | some p => decide (p < point) | none => false
    sign ++ if small || large then scientific style ds point else positional style ds point

end ServicePlacement.Decimal
