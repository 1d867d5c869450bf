import ServicePlacement.Pattern.Flags
import ServicePlacement.Pattern.Look
import ServicePlacement.Text.Digits

/-!
What stands behind a backslash in a pattern: a character, a set of characters, or a condition on the
place.
-/
namespace ServicePlacement.Pattern

inductive Atom where
  | literal (c : Char)
  | set (s : CharSet)
  | look (l : Regex.Look)

def scalar? (n : Nat) : Option Char :=
  if n < 0xD800 || (0xE000 ≤ n && n < 0x110000) then some (Char.ofNat n) else none

def hexDigits (f : Flags) : Nat → List Char → Option (List Char × List Char)
  | 0, cs => some ([], cs)
  | n + 1, cs =>
    match f.skip cs with
    | c :: rest =>
      if Text.isDigitOf 16 c then (hexDigits f n rest).map fun r => (c :: r.1, r.2) else none
    | [] => none

/-- A character given by its code point, in braces or with the given number of digits. Without
Unicode two digits write a byte, and a single byte above 127 is not a text. -/
def hexEscape (f : Flags) (width : Nat) (cs : List Char) : Option (Atom × List Char) :=
  match f.skip cs with
  | '{' :: rest =>
    match f.takeSpaced (Text.isDigitOf 16) false rest with
    | (digits, '}' :: rest) => do
      let c ← scalar? (← Text.ofDigits? 16 digits)
      return (.literal c, rest)
    | _ => none
  | cs => do
    let (digits, rest) ← hexDigits f width cs
    let c ← scalar? (← Text.ofDigits? 16 digits)
    if width == 2 && !f.unicode && 0x80 ≤ c.toNat then none else return (.literal c, rest)

def cutAt? (mark : List Char) : List Char → Option (List Char × List Char)
  | [] => none
  | c :: rest =>
    if mark.isPrefixOf (c :: rest) then some ([], (c :: rest).drop mark.length)
    else (cutAt? mark rest).map fun r => (c :: r.1, r.2)

def propertySet? (name : List Char) : Option (Bool × CharSet) :=
  match cutAt? "!=".toList name with
  | some (property, value) => (Unicode.withValue? property value).map fun s => (true, s)
  | none =>
    let set? := match cutAt? [':'] name <|> cutAt? ['='] name with
      | some (property, value) => Unicode.withValue? property value
      | none => Unicode.named? name
    set?.map fun s => (false, s)

def propertyEscape (f : Flags) (negated : Bool) (cs : List Char) : Option (Atom × List Char) := do
  let (name, rest) ← match f.skip cs with
    | [] => none
    | '{' :: rest =>
      match f.takeSpaced (· != '}') false rest with
      | (name, '}' :: rest) => some (name, rest)
      | _ => none
    | '\\' :: _ => none
    | c :: rest => some ([c], rest)
  if !f.unicode then none
  else
    let (excluded, s) ← propertySet? name
    let s := f.fold s
    return (.set (if negated != excluded then s.compl else s), rest)

def asciiDigits : CharSet := .range 0x30 0x39

def asciiBlanks : CharSet := .unions [.range 9 13, .singleton ' ']

def letterClass (f : Flags) (letter : Char) : Option CharSet :=
  let negated (s : CharSet) : Option CharSet := if f.unicode then some s.compl else none
  let digits := if f.unicode then Unicode.decimalDigits else asciiDigits
  let blanks := if f.unicode then Unicode.having "whitespace" else asciiBlanks
  let words := Regex.wordSet f.unicode
  match letter with
  | 'd' => some digits
  | 's' => some blanks
  | 'w' => some words
  | 'D' => negated digits
  | 'S' => negated blanks
  | 'W' => negated words
  | _ => none

def edge? (name : String) : Option Regex.Edge :=
  match name with
  | "start" => some .wordStart
  | "end" => some .wordEnd
  | "start-half" => some .startHalf
  | "end-half" => some .endHalf
  | _ => none

/-- The edge of a word, which may be named in braces. Braces that do not begin like a name are left
to be read as a repetition. -/
def edgeEscape (f : Flags) (cs : List Char) : Option (Atom × List Char) :=
  let isNamePart (c : Char) : Bool := c.isAlpha || c == '-'
  match cs with
  | '{' :: rest =>
    match f.skip rest with
    | [] => none
    | c :: rest =>
      if isNamePart c then
        match f.takeSpaced isNamePart false (c :: rest) with
        | (name, '}' :: rest) =>
          (edge? (String.ofList name)).map fun e => (.look (.word f.unicode e), rest)
        | _ => none
      else some (.look (.word f.unicode .boundary), cs)
  | _ => some (.look (.word f.unicode .boundary), cs)

def isEscapable (c : Char) : Bool :=
  c.toNat < 0x80 && !c.isAlphanum && c != '<' && c != '>'

def readEscape (f : Flags) : List Char → Option (Atom × List Char)
  | [] => none
  | c :: rest =>
    match c with
    | 'x' => hexEscape f 2 rest
    | 'u' => hexEscape f 4 rest
    | 'U' => hexEscape f 8 rest
    | 'p' => propertyEscape f false rest
    | 'P' => propertyEscape f true rest
    | 'a' => some (.literal '\x07', rest)
    | 'f' => some (.literal '\x0c', rest)
    | 't' => some (.literal '\t', rest)
    | 'n' => some (.literal '\n', rest)
    | 'r' => some (.literal '\r', rest)
    | 'v' => some (.literal '\x0b', rest)
    | 'A' => some (.look .textStart, rest)
    | 'z' => some (.look .textEnd, rest)
    | 'b' => edgeEscape f rest
    | 'B' => some (.look (.word f.unicode .noBoundary), rest)
    | '<' => some (.look (.word f.unicode .wordStart), rest)
    | '>' => some (.look (.word f.unicode .wordEnd), rest)
    | c =>
      if isEscapable c then some (.literal c, rest)
      else (letterClass f c).map fun s => (.set s, rest)

end ServicePlacement.Pattern
