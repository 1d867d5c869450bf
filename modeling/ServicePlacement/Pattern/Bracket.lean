import ServicePlacement.Pattern.Escape

/-!
Sets of characters in brackets. Items stand side by side or are joined by the operators `&&`, `--`
and `~~`, which bind equally and to the left; brackets may be inside one another.
-/
namespace ServicePlacement.Pattern

structure Operand where
  set : CharSet
  nesting : Nat := 0

inductive Joint where
  | both
  | onlyLeft
  | notBoth

def Joint.apply : Joint → CharSet → CharSet → CharSet
  | both => CharSet.inter
  | onlyLeft => CharSet.sdiff
  | notBoth => CharSet.symmDiff

/-- A bracket whose end is still to come: the operator that waits for its right side, with the left
one, and the items since then, last first. -/
structure OpenBracket where
  negated : Bool
  waiting : Option (Joint × Operand) := none
  items : List Operand := []

namespace OpenBracket

def add (b : OpenBracket) (item : Operand) : OpenBracket := { b with items := item :: b.items }

def joined (f : Flags) (b : OpenBracket) : Operand :=
  let right : Operand := match b.items with
    | [item] => item
    | items =>
      { set := .unions (items.map (·.set)),
        nesting := if items.isEmpty then 0 else (items.map (·.nesting)).foldl max 0 + 1 }
  match b.waiting with
  | none => right
  | some (joint, left) =>
    { set := joint.apply (f.fold left.set) (f.fold right.set),
      nesting := max left.nesting right.nesting + 1 }

def close? (f : Flags) (b : OpenBracket) : Option Operand :=
  let inside := b.joined f
  let folded := f.fold inside.set
  let set := if b.negated then folded.compl else folded
  if f.unicode || set.isAscii then some { set, nesting := inside.nesting + 1 } else none

end OpenBracket

def leadingHyphens (f : Flags) (b : OpenBracket) (inComment : Bool) :
    List Char → OpenBracket × List Char
  | [] => (b, [])
  | c :: rest =>
    if inComment then leadingHyphens f b (c != '\n') rest
    else if f.verbose && Text.isBlank c then leadingHyphens f b false rest
    else if f.verbose && c == '#' then leadingHyphens f b true rest
    else if c == '-' then leadingHyphens f (b.add { set := .singleton '-' }) false rest
    else (b, c :: rest)

def openBracket (f : Flags) (cs : List Char) : OpenBracket × List Char :=
  let (b, cs) : OpenBracket × List Char := match f.skip cs with
    | '^' :: rest => ({ negated := true }, rest)
    | cs => ({ negated := false }, cs)
  match leadingHyphens f b false cs with
  | (b, ']' :: rest) =>
    if b.items.isEmpty then (b.add { set := .singleton ']' }, rest) else (b, ']' :: rest)
  | r => r

def asciiClass? (name : String) : Option CharSet :=
  let letters := [CharSet.range 0x41 0x5A, CharSet.range 0x61 0x7A]
  match name with
  | "alnum" => some (.unions (asciiDigits :: letters))
  | "alpha" => some (.unions letters)
  | "ascii" => some (.range 0 0x7F)
  | "blank" => some (.ofChars ['\t', ' '])
  | "cntrl" => some ((CharSet.range 0 0x1F).union (.range 0x7F 0x7F))
  | "digit" => some asciiDigits
  | "graph" => some (.range 0x21 0x7E)
  | "lower" => some (.range 0x61 0x7A)
  | "print" => some (.range 0x20 0x7E)
  | "punct" =>
    some (.unions [.range 0x21 0x2F, .range 0x3A 0x40, .range 0x5B 0x60, .range 0x7B 0x7E])
  | "space" => some asciiBlanks
  | "upper" => some (.range 0x41 0x5A)
  | "word" => some Regex.asciiWord
  | "xdigit" => some (.unions [asciiDigits, .range 0x41 0x46, .range 0x61 0x66])
  | _ => none

def namedClass? (cs : List Char) : Option (Bool × CharSet × List Char) := do
  let cs ← match cs with | ':' :: rest => some rest | _ => none
  let (negated, cs) := match cs with | '^' :: rest => (true, rest) | _ => (false, cs)
  match cs.span (· != ':') with
  | (name, ':' :: ']' :: rest) => return (negated, ← asciiClass? (String.ofList name), rest)
  | _ => none

def bracketAtom (f : Flags) : List Char → Option (Atom × List Char)
  | [] => none
  | '\\' :: rest => readEscape f rest
  | c :: rest => some (.literal c, rest)

def literal? (f : Flags) : Atom → Option Char
  | .literal c => if f.unicode || c.toNat < 0x80 then some c else none
  | _ => none

def atomSet? (f : Flags) (a : Atom) : Option CharSet :=
  match a with
  | .set s => some s
  | .literal _ => (literal? f a).map .singleton
  | .look _ => none

/-- What comes next after layout, where the first `#` is skipped but not the rest of its comment. -/
def peek? (f : Flags) (cs : List Char) : Option Char :=
  if !f.verbose then cs.head?
  else match cs.dropWhile Text.isBlank with
    | '#' :: rest => (rest.dropWhile Text.isBlank).head?
    | cs => cs.head?

def bracketItem (f : Flags) (cs : List Char) : Option (CharSet × List Char) := do
  let (first, cs) ← bracketAtom f cs
  match f.skip cs with
  | [] => none
  | '-' :: rest =>
    if peek? f rest == some ']' || peek? f rest == some '-' then
      return (← atomSet? f first, '-' :: rest)
    else
      let (second, rest) ← bracketAtom f (f.skip rest)
      let low ← literal? f first
      let high ← literal? f second
      if low ≤ high then return (.range low.toNat high.toNat, rest) else none
  | cs => return (← atomSet? f first, cs)

/-- Read on up to the end of the outermost bracket. At least one character is read for each unit of
fuel. -/
def bracketRest (f : Flags) : Nat → OpenBracket → List OpenBracket → List Char →
    Option (Operand × List Char)
  | 0, _, _, _ => none
  | fuel + 1, b, outer, cs =>
    let operator (joint : Joint) (rest : List Char) : Option (Operand × List Char) :=
      bracketRest f fuel { b with waiting := some (joint, b.joined f), items := [] } outer rest
    match f.skip cs with
    | [] => none
    | '[' :: rest =>
      match namedClass? rest with
      | some (negated, s, rest) =>
        let s := f.fold s
        if negated && !f.unicode then none
        else bracketRest f fuel (b.add { set := if negated then s.compl else s }) outer rest
      | none =>
        let (inner, rest) := openBracket f rest
        bracketRest f fuel inner (b :: outer) rest
    | ']' :: rest =>
      match b.close? f, outer with
      | none, _ => none
      | some o, [] => some (o, rest)
      | some o, parent :: outer => bracketRest f fuel (parent.add o) outer rest
    | '&' :: '&' :: rest => operator .both rest
    | '-' :: '-' :: rest => operator .onlyLeft rest
    | '~' :: '~' :: rest => operator .notBoth rest
    | cs =>
      match bracketItem f cs with
      | some (s, rest) => bracketRest f fuel (b.add { set := s }) outer rest
      | none => none

def readBracket (f : Flags) (cs : List Char) : Option (Operand × List Char) :=
  let (b, rest) := openBracket f cs
  bracketRest f (cs.length + 1) b [] rest

end ServicePlacement.Pattern
