import ServicePlacement.Toml.Value

/-!
TOML text. A string is written in the plainest of four ways that can hold it; a header is set off by
an empty line from what stands before it.
-/
namespace ServicePlacement.Toml

def longestRun (q : Char) : Nat → Nat → List Char → Nat
  | _, best, [] => best
  | run, best, c :: rest =>
    if c == q then longestRun q (run + 1) (max best (run + 1)) rest else longestRun q 0 best rest

def needsCode (c : Char) : Bool :=
  (c.toNat < 0x20 && c != '\t' && c != '\n') || c.toNat == 0x7F

inductive Quoting where
  | basic
  | literal
  | basicLines
  | literalLines
deriving DecidableEq

/-- The plainest way to write a string: without escapes on one line if possible, then without
escapes over several lines, then with escapes. -/
def quoting (cs : List Char) : Quoting :=
  let plain := !cs.any needsCode
  let slash := cs.contains '\\'
  let broken := cs.contains '\n'
  let quotes := longestRun '"' 0 0 cs
  let apostrophes := longestRun '\'' 0 0 cs
  if plain && !slash && quotes == 0 && !broken then .basic
  else if plain && apostrophes == 0 && !broken then .literal
  else if plain && !slash && quotes ≤ 2 then .basicLines
  else if plain && apostrophes ≤ 2 then .literalLines
  else if broken then .basicLines
  else .basic

def upperHex (n : Nat) : Char := if n < 10 then Char.ofNat (48 + n) else Char.ofNat (55 + n)

/-- The inside of a basic string. Quotes are escaped where a run of them passes `allowed`; `run`
counts the quotes just written. -/
def escapeBasic (allowed : Nat) (oneLine : Bool) : Nat → List Char → List Char
  | _, [] => []
  | run, c :: rest =>
    if c == '"' then
      if run < allowed then '"' :: escapeBasic allowed oneLine (run + 1) rest
      else '\\' :: '"' :: escapeBasic allowed oneLine 0 rest
    else
      let written :=
        if c == '\x08' then ['\\', 'b']
        else if c == '\t' then ['\\', 't']
        else if c == '\x0c' then ['\\', 'f']
        else if c == '\r' then ['\\', 'r']
        else if c == '\\' then ['\\', '\\']
        else if c == '\n' then (if oneLine then ['\\', 'n'] else ['\n'])
        else if needsCode c then
          ['\\', 'u', '0', '0', upperHex (c.toNat / 16), upperHex (c.toNat % 16)]
        else [c]
      written ++ escapeBasic allowed oneLine 0 rest

def quote (s : String) : List Char :=
  let cs := s.toList
  let opening := if cs.contains '\n' then ['\n'] else []
  match quoting cs with
  | .basic => '"' :: escapeBasic 0 true 0 cs ++ ['"']
  | .literal => '\'' :: cs ++ ['\'']
  | .basicLines => "\"\"\"".toList ++ opening ++ escapeBasic 2 false 0 cs ++ "\"\"\"".toList
  | .literalLines => "'''".toList ++ opening ++ cs ++ "'''".toList

/-- The text of a value as it follows an equals sign. Only strings, integers and empty arrays are
written. -/
def valueText : Value → List Char
  | .string s => quote s
  | .integer n => (toString n).toList
  | _ => ['[', ']']

def pathText (path : List String) : List Char := (".".intercalate path).toList

def Line.text : Line → List Char
  | .assign path v => pathText path ++ " = ".toList ++ valueText v ++ ['\n']
  | .header path => '[' :: pathText path ++ "]\n".toList
  | .element path => "[[".toList ++ pathText path ++ "]]\n".toList

def Line.opensTable : Line → Bool
  | .assign _ _ => false
  | _ => true

def renderChars (lines : List Line) : List Char :=
  lines.flatMap fun line => (if line.opensTable then ['\n'] else []) ++ line.text

def render (lines : List Line) : String := String.ofList (renderChars lines)

end ServicePlacement.Toml
