import ServicePlacement.Json.Basic
import ServicePlacement.Decimal.Literal

/-!
The lexical elements of a JSON text. A string literal may be well formed and yet stand for no text,
when its escapes leave a surrogate without its partner; such a literal can be skipped but not kept.
-/
namespace ServicePlacement.Json

/-- A value without parts. `string none` is a literal that stands for no text. -/
inductive Scalar where
  | null
  | bool (b : Bool)
  | number (n : Number)
  | string (s : Option String)

inductive Token where
  | openArray
  | closeArray
  | openObject
  | closeObject
  | comma
  | colon
  | scalar (s : Scalar)

inductive Piece where
  | char (c : Char)
  | unit (n : Nat)

def isHighSurrogate (n : Nat) : Bool := 0xD800 ≤ n && n < 0xDC00

def isLowSurrogate (n : Nat) : Bool := 0xDC00 ≤ n && n < 0xE000

def assemble : List Piece → Option (List Char)
  | [] => some []
  | .char c :: rest => (assemble rest).map (c :: ·)
  | .unit n :: rest =>
    if isHighSurrogate n then
      match rest with
      | .unit low :: rest' =>
        if isLowSurrogate low then
          (assemble rest').map (Char.ofNat (0x10000 + (n - 0xD800) * 0x400 + (low - 0xDC00)) :: ·)
        else none
      | _ => none
    else if isLowSurrogate n then none
    else (assemble rest).map (Char.ofNat n :: ·)

def simpleEscape? : Char → Option Char
  | '"' => some '"'
  | '\\' => some '\\'
  | '/' => some '/'
  | 'b' => some '\x08'
  | 'f' => some '\x0c'
  | 'n' => some '\n'
  | 'r' => some '\r'
  | 't' => some '\t'
  | _ => none

def readPieces : List Char → Option (List Piece × List Char)
  | [] => none
  | '"' :: rest => some ([], rest)
  | '\\' :: 'u' :: a :: b :: c :: d :: rest => do
    let n ← Text.ofDigits? 16 [a, b, c, d]
    let (pieces, rest) ← readPieces rest
    return (.unit n :: pieces, rest)
  | '\\' :: e :: rest => do
    let c ← simpleEscape? e
    let (pieces, rest) ← readPieces rest
    return (.char c :: pieces, rest)
  | c :: rest =>
    if c.toNat < 0x20 || c == '\\' then none
    else do
      let (pieces, rest) ← readPieces rest
      return (.char c :: pieces, rest)

def spanDigits (cs : List Char) : List Char × List Char :=
  (cs.takeWhile Text.isDigit, cs.dropWhile Text.isDigit)

def readFraction (cs : List Char) : Option (List Char × List Char) :=
  match cs with
  | '.' :: rest =>
    let (digits, rest) := spanDigits rest
    if digits.isEmpty then none else some (digits, rest)
  | _ => some ([], cs)

def readExponent (cs : List Char) : Option (Option Int × List Char) :=
  match cs with
  | c :: rest =>
    if c == 'e' || c == 'E' then
      let (negative, rest) : Bool × List Char :=
        match rest with
        | '+' :: rest => (false, rest)
        | '-' :: rest => (true, rest)
        | _ => (false, rest)
      let (digits, rest) := spanDigits rest
      match Text.ofDigits? 10 digits with
      | some n => some (some (if negative then -(n : Int) else n), rest)
      | none => none
    else some (none, cs)
  | [] => some (none, [])

def wholeNumber (rounding : Decimal.Rounding) (l : Decimal.Literal) (n : Nat) : Number :=
  if l.negative then
    if 0 < n ∧ n ≤ 9223372036854775808 then .negative (Int64.ofInt (-n)) else .real (rounding l)
  else if n < 18446744073709551616 then .word (UInt64.ofNat n)
  else .real (rounding l)

def readWhole (cs : List Char) : Option (List Char × List Char) :=
  match spanDigits cs with
  | ([], _) => none
  | ('0' :: _ :: _, _) => none
  | result => some result

def readNumber (rounding : Decimal.Rounding) (cs : List Char) : Option (Number × List Char) := do
  let (negative, cs) : Bool × List Char :=
    match cs with
    | '-' :: rest => (true, rest)
    | _ => (false, cs)
  let (whole, cs) ← readWhole cs
  let (fraction, cs) ← readFraction cs
  let (exponent, cs) ← readExponent cs
  let literal : Decimal.Literal := { negative, whole, fraction, exponent := exponent.getD 0 }
  if fraction.isEmpty && exponent.isNone then
    return (wholeNumber rounding literal (← Text.ofDigits? 10 whole), cs)
  else return (.real (rounding literal), cs)

def isSpace (c : Char) : Bool := c == ' ' || c == '\n' || c == '\t' || c == '\r'

def tokensUpTo (rounding : Decimal.Rounding) : Nat → List Char → Option (List Token)
  | _, [] => some []
  | 0, _ => none
  | bound + 1, c :: rest =>
    let andThen (t : Token) (rest : List Char) : Option (List Token) :=
      (tokensUpTo rounding bound rest).map (t :: ·)
    if isSpace c then tokensUpTo rounding bound rest
    else
      match c, rest with
      | '[', rest => andThen .openArray rest
      | ']', rest => andThen .closeArray rest
      | '{', rest => andThen .openObject rest
      | '}', rest => andThen .closeObject rest
      | ',', rest => andThen .comma rest
      | ':', rest => andThen .colon rest
      | 'n', 'u' :: 'l' :: 'l' :: rest => andThen (.scalar .null) rest
      | 't', 'r' :: 'u' :: 'e' :: rest => andThen (.scalar (.bool true)) rest
      | 'f', 'a' :: 'l' :: 's' :: 'e' :: rest => andThen (.scalar (.bool false)) rest
      | '"', rest => do
        let (pieces, rest) ← readPieces rest
        andThen (.scalar (.string ((assemble pieces).map String.ofList))) rest
      | _, _ => do
        let (n, rest) ← readNumber rounding (c :: rest)
        andThen (.scalar (.number n)) rest

def tokens (rounding : Decimal.Rounding) (cs : List Char) : Option (List Token) :=
  tokensUpTo rounding cs.length cs

end ServicePlacement.Json
