import ServicePlacement.Text.Digits

/-!
The four kinds of TOML string: basic or literal, on one line or over several lines. Each reader
starts after the opening delimiter and returns the text and what follows the closing one.
-/
namespace ServicePlacement.Toml

def isBlank (c : Char) : Bool := c == ' ' || c == '\t'

def isPlain (c : Char) : Bool := c == '\t' || (0x20 ≤ c.toNat && c.toNat != 0x7F)

def newline? : List Char → Option (List Char)
  | '\n' :: rest => some rest
  | '\r' :: '\n' :: rest => some rest
  | _ => none

def scalar? (n : Nat) : Option Char :=
  if n < 0xD800 || (0xE000 ≤ n && n < 0x110000) then some (Char.ofNat n) else none

def simpleEscape? : Char → Option Char
  | 'b' => some '\x08'
  | 't' => some '\t'
  | 'n' => some '\n'
  | 'f' => some '\x0c'
  | 'r' => some '\r'
  | '"' => some '"'
  | '\\' => some '\\'
  | _ => none

def prepend (c : Char) (r : Option (List Char × List Char)) : Option (List Char × List Char) :=
  r.map fun (cs, rest) => (c :: cs, rest)

def readBasic : List Char → Option (List Char × List Char)
  | [] => none
  | '"' :: rest => some ([], rest)
  | '\\' :: 'u' :: a :: b :: c :: d :: rest => do
    let n ← Text.ofDigits? 16 [a, b, c, d]
    let ch ← scalar? n
    prepend ch (readBasic rest)
  | '\\' :: 'U' :: a :: b :: c :: d :: e :: f :: g :: h :: rest => do
    let n ← Text.ofDigits? 16 [a, b, c, d, e, f, g, h]
    let ch ← scalar? n
    prepend ch (readBasic rest)
  | '\\' :: e :: rest => do
    let ch ← simpleEscape? e
    prepend ch (readBasic rest)
  | c :: rest => if isPlain c && c != '\\' then prepend c (readBasic rest) else none

def readLiteral : List Char → Option (List Char × List Char)
  | [] => none
  | '\'' :: rest => some ([], rest)
  | c :: rest => if isPlain c then prepend c (readLiteral rest) else none

/-- A basic string over several lines. Up to two quotes are part of the text, also just before the
closing three. After a backslash at the end of a line, `skipping` is set until the next character
that is neither blank nor a line break. -/
def readBasicLines (skipping : Bool) : List Char → Option (List Char × List Char)
  | [] => none
  | '"' :: '"' :: '"' :: '"' :: '"' :: rest => some (['"', '"'], rest)
  | '"' :: '"' :: '"' :: '"' :: rest => some (['"'], rest)
  | '"' :: '"' :: '"' :: rest => some ([], rest)
  | '\\' :: 'u' :: a :: b :: c :: d :: rest => do
    let n ← Text.ofDigits? 16 [a, b, c, d]
    let ch ← scalar? n
    prepend ch (readBasicLines false rest)
  | '\\' :: 'U' :: a :: b :: c :: d :: e :: f :: g :: h :: rest => do
    let n ← Text.ofDigits? 16 [a, b, c, d, e, f, g, h]
    let ch ← scalar? n
    prepend ch (readBasicLines false rest)
  | '\\' :: rest =>
    if (newline? (rest.dropWhile isBlank)).isSome then readBasicLines true rest
    else
      match rest with
      | e :: rest => do
        let ch ← simpleEscape? e
        prepend ch (readBasicLines false rest)
      | [] => none
  | '\r' :: '\n' :: rest =>
    if skipping then readBasicLines true rest else prepend '\n' (readBasicLines false rest)
  | '\n' :: rest =>
    if skipping then readBasicLines true rest else prepend '\n' (readBasicLines false rest)
  | c :: rest =>
    if skipping && isBlank c then readBasicLines true rest
    else if isPlain c then prepend c (readBasicLines false rest)
    else none

def readLiteralLines : List Char → Option (List Char × List Char)
  | [] => none
  | '\'' :: '\'' :: '\'' :: '\'' :: '\'' :: rest => some (['\'', '\''], rest)
  | '\'' :: '\'' :: '\'' :: '\'' :: rest => some (['\''], rest)
  | '\'' :: '\'' :: '\'' :: rest => some ([], rest)
  | '\r' :: '\n' :: rest => prepend '\n' (readLiteralLines rest)
  | '\n' :: rest => prepend '\n' (readLiteralLines rest)
  | c :: rest => if isPlain c then prepend c (readLiteralLines rest) else none

/-- A line break right after the opening delimiter is not part of the text. -/
def dropNewline (cs : List Char) : List Char := (newline? cs).getD cs

def readString? : List Char → Option (List Char × List Char)
  | '"' :: '"' :: '"' :: rest => readBasicLines false (dropNewline rest)
  | '"' :: rest => readBasic rest
  | '\'' :: '\'' :: '\'' :: rest => readLiteralLines (dropNewline rest)
  | '\'' :: rest => readLiteral rest
  | _ => none

end ServicePlacement.Toml
