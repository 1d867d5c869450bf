import ServicePlacement.Json.Token

/-!
JSON text without white space. Strings escape the quote, the backslash and the control characters
below space, and nothing else.
-/
namespace ServicePlacement.Json

/-- Doubles have the fewest digits that read back, with a point from `1e-5` up to below `1e16` and
an exponent with a sign outside. -/
def numberStyle : Decimal.Style := ⟨some (-4), some 16, ".0", "+"⟩

def Number.text : Number → List Char
  | .word n => Text.toDecimal n.toNat
  | .negative n => '-' :: Text.toDecimal n.toInt.natAbs
  | .real x => if x.isFinite then numberStyle.text x else "null".toList

def escape (c : Char) : List Char :=
  if c == '"' then ['\\', '"']
  else if c == '\\' then ['\\', '\\']
  else if c == '\x08' then ['\\', 'b']
  else if c == '\x0c' then ['\\', 'f']
  else if c == '\n' then ['\\', 'n']
  else if c == '\r' then ['\\', 'r']
  else if c == '\t' then ['\\', 't']
  else if c.toNat < 0x20 then '\\' :: 'u' :: Text.toHex4 c.toNat
  else [c]

def quote (s : String) : List Char := '"' :: s.toList.flatMap escape ++ ['"']

def separate : List (List Char) → List Char
  | [] => []
  | [x] => x
  | x :: rest => x ++ ',' :: separate rest

mutual

def chars : Json → List Char
  | null => "null".toList
  | bool true => "true".toList
  | bool false => "false".toList
  | number n => n.text
  | string s => quote s
  | array items => '[' :: separate (itemChars items) ++ [']']
  | object fields => '{' :: separate (fieldChars fields) ++ ['}']

def itemChars : List Json → List (List Char)
  | [] => []
  | x :: rest => x.chars :: itemChars rest

def fieldChars : List (String × Json) → List (List Char)
  | [] => []
  | f :: rest => (quote f.1 ++ ':' :: f.2.chars) :: fieldChars rest

end

def render (v : Json) : String := String.ofList v.chars

end ServicePlacement.Json
