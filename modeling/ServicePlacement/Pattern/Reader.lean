import ServicePlacement.Pattern.Bracket
import ServicePlacement.Pattern.Regex
import ServicePlacement.Unicode.Added

/-!
Reading a pattern: sequences of parts, alternatives, groups, repetitions and changes of flags. The
groups that are still open are on a stack; each step reads at least one character.
-/
namespace ServicePlacement.Pattern

structure Part where
  regex : Regex
  nesting : Nat := 0

inductive Item where
  | part (p : Part)
  | flags

namespace Item

def regex : Item → Regex
  | part p => p.regex
  | flags => .empty

def nesting : Item → Nat
  | part p => p.nesting
  | flags => 0

end Item

def nestingLimit : Nat := 250

def sequence (items : List Item) : Part :=
  match items with
  | [item] => ⟨item.regex, item.nesting⟩
  | [] => ⟨.empty, 0⟩
  | items =>
    ⟨.inSequence (items.reverse.map Item.regex), (items.map Item.nesting).foldl max 0 + 1⟩

def choice (alternatives : List Part) : Part :=
  match alternatives with
  | [] => ⟨.empty, 0⟩
  | [part] => part
  | alternatives =>
    ⟨.choice (alternatives.reverse.map (·.regex)), (alternatives.map (·.nesting)).foldl max 0 + 1⟩

structure OpenGroup where
  index : Option Nat
  flags : Flags
  alternatives : List Part
  items : List Item

/-- How far a pattern has been read: the flags in force, the finished alternatives and the items of
the innermost group, the groups around it, and the number and the names of the groups so far. -/
structure Reading where
  flags : Flags := {}
  alternatives : List Part := []
  items : List Item := []
  outer : List OpenGroup := []
  groups : Nat := 0
  names : List (List Char) := []

namespace Reading

def add (s : Reading) (p : Part) : Reading := { s with items := .part p :: s.items }

def contents (s : Reading) : Part := choice (sequence s.items :: s.alternatives)

def enter (s : Reading) (index : Option Nat) (inside : Flags) : Reading :=
  { s with
    flags := inside
    alternatives := []
    items := []
    outer := ⟨index, s.flags, s.alternatives, s.items⟩ :: s.outer }

def enterNumbered (s : Reading) : Reading :=
  { s with groups := s.groups + 1 }.enter (some (s.groups + 1)) s.flags

def leave? (s : Reading) : Option Reading :=
  match s.outer with
  | [] => none
  | g :: outer =>
    let inside := s.contents
    let regex := match g.index with
      | some index => .capture index inside.regex
      | none => inside.regex
    if inside.nesting < nestingLimit then
      some { s with
        flags := g.flags
        alternatives := g.alternatives
        items := .part ⟨regex, inside.nesting + 1⟩ :: g.items
        outer }
    else none

/-- Repeat the last item, unless it is nested too deeply. The flags can change which repetitions are
the lazy ones. -/
def repeat? (s : Reading) (least : Nat) (most : Option Nat) (marked : Bool) : Option Reading :=
  match s.items with
  | .part p :: items =>
    let regex := .times least most (marked == s.flags.swapGreed) p.regex
    if p.nesting < nestingLimit then
      some { s with items := .part ⟨regex, p.nesting + 1⟩ :: items }
    else none
  | _ => none

end Reading

def takeMark : List Char → Bool × List Char
  | '?' :: rest => (true, rest)
  | cs => (false, cs)

def countOf (f : Flags) (cs : List Char) : Option Nat × List Char :=
  let (digits, rest) := f.takeSpaced Text.isDigit false (f.skip (cs.dropWhile Text.isBlank))
  let count := (Text.ofDigits? 10 digits).filter (· < 4294967296)
  (count, f.skip (rest.dropWhile Text.isBlank))

def bounds? (f : Flags) (cs : List Char) : Option (Nat × Option Nat × List Char) := do
  let (least, cs) := countOf f (f.skip cs)
  let least ← least
  match cs with
  | '}' :: rest => return (least, some least, rest)
  | ',' :: rest =>
    match f.skip rest with
    | '}' :: rest => return (least, none, rest)
    | rest =>
      let (most, rest) := countOf f rest
      let most ← most
      match rest with
      | '}' :: rest => if least ≤ most then return (least, some most, rest) else none
      | _ => none
  | _ => none

def groupName? (cs : List Char) : Option (List Char × List Char) :=
  match cs.span (· != '>') with
  | (first :: more, '>' :: rest) =>
    let startsName := first == '_' || Unicode.Latest.alphabetic.contains first
    let continuesName (c : Char) : Bool := "_.[]".contains c || Unicode.Latest.alphanumeric.contains c
    if startsName && more.all continuesName then some (first :: more, rest) else none
  | _ => none

def namedGroup? (s : Reading) (cs : List Char) : Option (Reading × List Char) := do
  let (name, rest) ← groupName? cs
  if s.names.contains name then none
  else return ({ s with names := name :: s.names }.enterNumbered, rest)

/-- What an opening parenthesis begins: a group, or a change of flags up to the end of the group
around it. A look at the text around a match is not supported. -/
def parenthesis? (s : Reading) (cs : List Char) : Option (Reading × List Char) :=
  match s.flags.skip cs with
  | '?' :: '=' :: _ | '?' :: '!' :: _ | '?' :: '<' :: '=' :: _ | '?' :: '<' :: '!' :: _ => none
  | '?' :: 'P' :: '<' :: rest => namedGroup? s rest
  | '?' :: '<' :: rest => namedGroup? s rest
  | '?' :: rest =>
    match flagLetters [] true false rest with
    | none => none
    | some (given, ':', rest) => some (s.enter none (s.flags.setAll given.reverse), rest)
    | some ([], _, _) => none
    | some (given, _, rest) =>
      some ({ s with flags := s.flags.setAll given.reverse, items := .flags :: s.items }, rest)
  | cs => some (s.enterNumbered, cs)

def setPart (f : Flags) (s : CharSet) : Part := ⟨.oneOf s f.unicode, 0⟩

def literalPart (f : Flags) (c : Char) : Part := setPart f (f.fold (.singleton c))

/-- Any character but the end of a line. Without Unicode that would be a byte, which is no text. -/
def dot? (f : Flags) : Option Part :=
  if !f.unicode then none
  else if f.dotAll then some (setPart f .full)
  else some (setPart f (CharSet.ofChars (if f.crlf then ['\n', '\r'] else ['\n'])).compl)

def lineEdge (f : Flags) (text line : Regex.Look) : Part :=
  ⟨.look (if f.multiLine then line else text), 0⟩

def atomPart (f : Flags) : Atom → Part
  | .literal c => literalPart f c
  | .set s => setPart f s
  | .look l => ⟨.look l, 0⟩

namespace Reading

def repetition? (s : Reading) (least : Nat) (most : Option Nat) (rest : List Char) :
    Option (Reading × List Char) :=
  let (marked, rest) := takeMark rest
  (s.repeat? least most marked).map fun s => (s, rest)

def step? (s : Reading) (c : Char) (rest : List Char) : Option (Reading × List Char) :=
  let f := s.flags
  match c with
  | '(' => parenthesis? s rest
  | ')' => s.leave?.map fun s => (s, rest)
  | '|' => some ({ s with alternatives := sequence s.items :: s.alternatives, items := [] }, rest)
  | '[' => (readBracket f rest).map fun (o, rest) =>
    (s.add { setPart f o.set with nesting := o.nesting }, rest)
  | '?' => s.repetition? 0 (some 1) rest
  | '*' => s.repetition? 0 none rest
  | '+' => s.repetition? 1 none rest
  | '{' => do
    let (least, most, rest) ← bounds? f rest
    s.repetition? least most (f.skip rest)
  | '\\' => (readEscape f rest).map fun (a, rest) => (s.add (atomPart f a), rest)
  | '.' => (dot? f).map fun p => (s.add p, rest)
  | '^' => some (s.add (lineEdge f .textStart (.lineStart f.crlf)), rest)
  | '$' => some (s.add (lineEdge f .textEnd (.lineEnd f.crlf)), rest)
  | c => some (s.add (literalPart f c), rest)

def run : Nat → Reading → List Char → Option Reading
  | 0, _, _ => none
  | fuel + 1, s, cs =>
    match s.flags.skip cs with
    | [] => some s
    | c :: rest =>
      match s.step? c rest with
      | some (s, rest) => run fuel s rest
      | none => none

end Reading

def part? (cs : List Char) : Option Part :=
  match Reading.run (cs.length + 1) {} cs with
  | some s =>
    let whole := s.contents
    if s.outer.isEmpty && whole.nesting ≤ nestingLimit then some whole else none
  | none => none

end ServicePlacement.Pattern
