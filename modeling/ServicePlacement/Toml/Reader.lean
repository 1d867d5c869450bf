import ServicePlacement.Toml.Quoted
import ServicePlacement.Toml.Scalar
import ServicePlacement.Toml.Table

/-!
Reading the lines of a TOML document. Arrays and inline tables may be nested to a fixed depth, and
the parts of a dotted key are limited to the same number.
-/
namespace ServicePlacement.Toml

def nestingLimit : Nat := 80

/-- Pass over blanks, line breaks and comments, as between the elements of an array; the flag is set
inside a comment. -/
def skipTrivia : Bool → List Char → List Char
  | _, [] => []
  | _, '\r' :: '\n' :: rest => skipTrivia false rest
  | _, '\n' :: rest => skipTrivia false rest
  | true, c :: rest => if isPlain c then skipTrivia true rest else c :: rest
  | false, c :: rest =>
    if isBlank c then skipTrivia false rest
    else if c == '#' then skipTrivia true rest
    else c :: rest

def skipBlanks (cs : List Char) : List Char := cs.dropWhile isBlank

def endLine? (cs : List Char) : Option (List Char) :=
  let rest :=
    match skipBlanks cs with
    | '#' :: rest => rest.dropWhile isPlain
    | rest => rest
  match rest with
  | [] => some []
  | _ => newline? rest

def isKeyChar (c : Char) : Bool := Text.isDigitOf 36 c || c == '_' || c == '-'

def readKeyPart (cs : List Char) : Option (String × List Char) :=
  match cs with
  | '"' :: rest => (readBasic rest).map fun (k, rest) => (String.ofList k, rest)
  | '\'' :: rest => (readLiteral rest).map fun (k, rest) => (String.ofList k, rest)
  | _ =>
    match cs.takeWhile isKeyChar with
    | [] => none
    | k => some (String.ofList k, cs.dropWhile isKeyChar)

def readKeyUpTo : Nat → List Char → Option (List String × List Char)
  | 0, _ => none
  | bound + 1, cs => do
    let (part, rest) ← readKeyPart (skipBlanks cs)
    match skipBlanks rest with
    | '.' :: rest => do
      let (parts, rest) ← readKeyUpTo bound rest
      return (part :: parts, rest)
    | rest => return ([part], rest)

def readKey (cs : List Char) : Option (List String × List Char) :=
  readKeyUpTo (nestingLimit - 1) cs

def readPair (readValue : List Char → Option (Value × List Char)) (cs : List Char) :
    Option ((List String × Value) × List Char) := do
  let (path, rest) ← readKey cs
  match rest with
  | '=' :: rest => do
    let (value, rest) ← readValue (skipBlanks rest)
    return ((path, value), rest)
  | _ => none

def readItems (readValue : List Char → Option (Value × List Char)) :
    Nat → List Char → Option (List Value × List Char)
  | 0, _ => none
  | bound + 1, cs =>
    match skipTrivia false cs with
    | ']' :: rest => some ([], rest)
    | cs => do
      let (value, rest) ← readValue cs
      match skipTrivia false rest with
      | ',' :: rest => do
        let (values, rest) ← readItems readValue bound rest
        return (value :: values, rest)
      | ']' :: rest => return ([value], rest)
      | _ => none

def readPairs (readValue : List Char → Option (Value × List Char)) :
    Nat → List Char → Option (List (List String × Value) × List Char)
  | 0, _ => none
  | bound + 1, cs => do
    let (pair, rest) ← readPair readValue cs
    match skipBlanks rest with
    | ',' :: rest => do
      let (pairs, rest) ← readPairs readValue bound rest
      return (pair :: pairs, rest)
    | '}' :: rest => return ([pair], rest)
    | _ => none

def readValue : Nat → List Char → Option (Value × List Char)
  | 0, cs => readPlain cs
  | depth + 1, cs =>
    match cs with
    | '[' :: rest => do
      let (items, rest) ← readItems (readValue depth) (rest.length + 1) rest
      return (.array items, rest)
    | '{' :: rest =>
      match skipBlanks rest with
      | '}' :: rest => some (.table [], rest)
      | _ => do
        let (pairs, rest) ← readPairs (readValue depth) (rest.length + 1) rest
        let value ← Table.inline? pairs
        return (value, rest)
    | _ => readPlain cs
where
  readPlain (cs : List Char) : Option (Value × List Char) :=
    match readString? cs with
    | some (s, rest) => some (.string (String.ofList s), rest)
    | none =>
      let (word, rest) := readWord cs
      (wordValue? word).map fun v => (v, rest)

def readLine (cs : List Char) : Option (Line × List Char) :=
  match cs with
  | '[' :: '[' :: rest => do
    let (path, rest) ← readKey rest
    match rest with
    | ']' :: ']' :: rest => return (.element path, rest)
    | _ => none
  | '[' :: rest => do
    let (path, rest) ← readKey rest
    match rest with
    | ']' :: rest => return (.header path, rest)
    | _ => none
  | _ => do
    let ((path, value), rest) ← readPair (readValue (nestingLimit - 1)) cs
    return (.assign path value, rest)

def readLines : Nat → List Char → Option (List Line)
  | 0, _ => none
  | bound + 1, cs =>
    match skipBlanks cs with
    | [] => some []
    | c :: rest =>
      if c == '#' || c == '\n' || c == '\r' then do
        let rest ← endLine? (c :: rest)
        readLines bound rest
      else do
        let (line, rest) ← readLine (c :: rest)
        let rest ← endLine? rest
        let lines ← readLines bound rest
        return line :: lines

def lines? (s : String) : Option (List Line) :=
  let cs := s.toList
  let cs := match cs with | '\uFEFF' :: rest => rest | _ => cs
  readLines (cs.length + 1) cs

def parse? (s : String) : Option Value := do
  let lines ← lines? s
  Table.ofLines? lines

end ServicePlacement.Toml
