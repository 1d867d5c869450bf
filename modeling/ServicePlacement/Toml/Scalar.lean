import ServicePlacement.Toml.Value
import ServicePlacement.Decimal.Nearest

/-!
Numbers, truth values, dates and times of TOML, each as the whole of a word.
-/
namespace ServicePlacement.Toml

def digitRun? (base : Nat) : List Char → Option (List Char)
  | [] => none
  | [c] => if Text.isDigitOf base c then some [c] else none
  | c :: '_' :: rest =>
    if Text.isDigitOf base c then (digitRun? base rest).map (c :: ·) else none
  | c :: rest => if Text.isDigitOf base c then (digitRun? base rest).map (c :: ·) else none

def splitSign : List Char → Bool × List Char
  | '+' :: rest => (false, rest)
  | '-' :: rest => (true, rest)
  | cs => (false, cs)

def wholeDigits? (cs : List Char) : Option (List Char) :=
  match digitRun? 10 cs with
  | some ('0' :: _ :: _) => none
  | result => result

def inRange? (n : Int) : Option Int :=
  if -9223372036854775808 ≤ n ∧ n < 9223372036854775808 then some n else none

def integer? (cs : List Char) : Option Int :=
  match cs with
  | '0' :: 'x' :: rest => based 16 rest
  | '0' :: 'o' :: rest => based 8 rest
  | '0' :: 'b' :: rest => based 2 rest
  | _ => do
    let (negative, rest) := splitSign cs
    let digits ← wholeDigits? rest
    let n ← Text.ofDigits? 10 digits
    inRange? (if negative then -(n : Int) else n)
where
  based (base : Nat) (rest : List Char) : Option Int := do
    let digits ← digitRun? base rest
    let n ← Text.ofDigits? base digits
    inRange? n

def splitExponent (cs : List Char) : List Char × Option (List Char) :=
  let isMark (c : Char) := c == 'e' || c == 'E'
  match cs.dropWhile fun c => !isMark c with
  | [] => (cs, none)
  | _ :: rest => (cs.takeWhile fun c => !isMark c, some rest)

def splitPoint (cs : List Char) : List Char × Option (List Char) :=
  match cs.dropWhile (· != '.') with
  | [] => (cs, none)
  | _ :: rest => (cs.takeWhile (· != '.'), some rest)

/-- A float with a fraction, an exponent or both. One that is too large for a double is refused,
unless it is negative. -/
def float? (cs : List Char) : Option Float := do
  let (negative, rest) := splitSign cs
  match rest with
  | ['i', 'n', 'f'] => return if negative then -(1.0 / 0.0) else 1.0 / 0.0
  | ['n', 'a', 'n'] => return 0.0 / 0.0
  | _ =>
    let (mantissa, exponent) := splitExponent rest
    let (whole, fraction) := splitPoint mantissa
    if exponent.isNone && fraction.isNone then none
    else
      let wholeDigits ← wholeDigits? whole
      let fractionDigits ←
        match fraction with
        | some cs => digitRun? 10 cs
        | none => some []
      let power ←
        match exponent with
        | some cs => do
          let (negative, cs) := splitSign cs
          let digits ← digitRun? 10 cs
          let n ← Text.ofDigits? 10 digits
          pure (if negative then -(n : Int) else n)
        | none => some 0
      let n ← Text.ofDigits? 10 (wholeDigits ++ fractionDigits)
      let x := Decimal.signedNearest negative n (power - fractionDigits.length)
      if !negative && x.isInf then none else return x

def twoDigits? (a b : Char) : Option Nat :=
  if Text.isDigit a && Text.isDigit b then Text.ofDigits? 10 [a, b] else none

def daysIn (year month : Nat) : Nat :=
  if month == 2 then
    if year % 4 == 0 && (year % 100 != 0 || year % 400 == 0) then 29 else 28
  else if month == 4 || month == 6 || month == 9 || month == 11 then 30
  else 31

def date? : List Char → Option (List Char)
  | a :: b :: c :: d :: '-' :: e :: f :: '-' :: g :: h :: rest => do
    let high ← twoDigits? a b
    let low ← twoDigits? c d
    let month ← twoDigits? e f
    let day ← twoDigits? g h
    if 1 ≤ month && month ≤ 12 && 1 ≤ day && day ≤ daysIn (100 * high + low) month then some rest
    else none
  | _ => none

def secondFraction? : List Char → Option (List Char)
  | '.' :: rest =>
    match rest.takeWhile Text.isDigit with
    | [] => none
    | _ => some (rest.dropWhile Text.isDigit)
  | cs => some cs

def time? : List Char → Option (List Char)
  | a :: b :: ':' :: c :: d :: ':' :: e :: f :: rest => do
    let hour ← twoDigits? a b
    let minute ← twoDigits? c d
    let second ← twoDigits? e f
    if hour ≤ 23 && minute ≤ 59 && second ≤ 60 then secondFraction? rest else none
  | _ => none

def isOffset : List Char → Bool
  | [] => true
  | ['Z'] => true
  | ['z'] => true
  | [sign, a, b, ':', c, d] =>
    (sign == '+' || sign == '-') &&
      match twoDigits? a b, twoDigits? c d with
      | some hour, some minute => hour ≤ 23 && minute ≤ 59
      | _, _ => false
  | _ => false

def isMoment (cs : List Char) : Bool :=
  match date? cs with
  | some [] => true
  | some (c :: rest) =>
    (c == 'T' || c == 't' || c == ' ') &&
      match time? rest with
      | some rest => isOffset rest
      | none => false
  | none =>
    match time? cs with
    | some rest => rest.isEmpty
    | none => false

def isWordChar (c : Char) : Bool :=
  Text.isDigitOf 36 c || c == '_' || c == '+' || c == '-' || c == '.' || c == ':'

def wordValue? (cs : List Char) : Option Value :=
  if cs == "true".toList then some (.bool true)
  else if cs == "false".toList then some (.bool false)
  else if isMoment cs then some .moment
  else
    match integer? cs with
    | some n => some (.integer n)
    | none => (float? cs).map .real

/-- A word at the beginning of a text and what follows it. A date takes in a time of day that
follows it after one blank. -/
def readWord (cs : List Char) : List Char × List Char :=
  let word := cs.takeWhile isWordChar
  let rest := cs.dropWhile isWordChar
  match date? word, rest with
  | some [], ' ' :: c :: more =>
    if Text.isDigit c then
      (word ++ ' ' :: (c :: more).takeWhile isWordChar, (c :: more).dropWhile isWordChar)
    else (word, rest)
  | _, _ => (word, rest)

end ServicePlacement.Toml
