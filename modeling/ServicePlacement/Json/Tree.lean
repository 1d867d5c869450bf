import ServicePlacement.Json.Token

/-!
What a JSON text says, field by field in the order of the text, with repeated keys kept. The text is
read by a machine over its tokens whose stack holds the arrays and objects that are still open, so
nesting has no limit here; a caller that keeps a value looks at its `depth`.
-/
namespace ServicePlacement.Json

inductive Tree where
  | scalar (s : Scalar)
  | array (items : List Tree)
  | object (fields : List (Option String × Tree))

inductive Frame where
  | items (before : List Tree)
  | fields (before : List (Option String × Tree)) (key : Option String)

inductive Reading where
  | value (open_ : List Frame)
  | firstItem (open_ : List Frame)
  | firstKey (open_ : List Frame)
  | key (before : List (Option String × Tree)) (open_ : List Frame)
  | colon (before : List (Option String × Tree)) (key : Option String) (open_ : List Frame)
  | done (t : Tree) (open_ : List Frame)

namespace Reading

def begin? (open_ : List Frame) : Token → Option Reading
  | .scalar s => some (.done (.scalar s) open_)
  | .openArray => some (.firstItem open_)
  | .openObject => some (.firstKey open_)
  | _ => none

def step : Reading → Token → Option Reading
  | value open_, t => begin? open_ t
  | firstItem open_, .closeArray => some (done (.array []) open_)
  | firstItem open_, t => begin? (.items [] :: open_) t
  | firstKey open_, .closeObject => some (done (.object []) open_)
  | firstKey open_, .scalar (.string s) => some (colon [] s open_)
  | key before open_, .scalar (.string s) => some (colon before s open_)
  | colon before k open_, .colon => some (value (.fields before k :: open_))
  | done t (.items before :: open_), .comma => some (value (.items (t :: before) :: open_))
  | done t (.items before :: open_), .closeArray =>
    some (done (.array (t :: before).reverse) open_)
  | done t (.fields before k :: open_), .comma => some (key ((k, t) :: before) open_)
  | done t (.fields before k :: open_), .closeObject =>
    some (done (.object ((k, t) :: before).reverse) open_)
  | _, _ => none

end Reading

namespace Tree

def ofTokens? (ts : List Token) : Option Tree :=
  match ts.foldlM Reading.step (.value []) with
  | some (.done t []) => some t
  | _ => none

def parseRounding? (rounding : Decimal.Rounding) (s : String) : Option Tree :=
  (tokens rounding s.toList).bind ofTokens?

def parse? (s : String) : Option Tree := parseRounding? Decimal.Literal.scaled s

mutual

def depth : Tree → Nat
  | scalar _ => 0
  | array items => depthOfItems items + 1
  | object fields => depthOfFields fields + 1

def depthOfItems : List Tree → Nat
  | [] => 0
  | t :: rest => max t.depth (depthOfItems rest)

def depthOfFields : List (Option String × Tree) → Nat
  | [] => 0
  | f :: rest => max f.2.depth (depthOfFields rest)

end

def scalarValue? : Scalar → Option Json
  | .null => some .null
  | .bool b => some (.bool b)
  | .number (.real x) => if x.isFinite then some (.number (.real x)) else none
  | .number n => some (.number n)
  | .string s => s.map .string

mutual

def value? : Tree → Option Json
  | scalar s => scalarValue? s
  | array items => (itemValues? items).map .array
  | object fields => (fieldValues? fields).map fun fs => .object (sortFields fs)

def itemValues? : List Tree → Option (List Json)
  | [] => some []
  | t :: rest => do
    let v ← t.value?
    let vs ← itemValues? rest
    return v :: vs

def fieldValues? : List (Option String × Tree) → Option (List (String × Json))
  | [] => some []
  | f :: rest => do
    let k ← f.1
    let v ← f.2.value?
    let vs ← fieldValues? rest
    return (k, v) :: vs

end

end Tree

mutual

def tree : Json → Tree
  | null => .scalar .null
  | bool b => .scalar (.bool b)
  | number n => .scalar (.number n)
  | string s => .scalar (.string (some s))
  | array items => .array (treeItems items)
  | object fields => .object (treeFields fields)

def treeItems : List Json → List Tree
  | [] => []
  | x :: rest => x.tree :: treeItems rest

def treeFields : List (String × Json) → List (Option String × Tree)
  | [] => []
  | f :: rest => (some f.1, f.2.tree) :: treeFields rest

end

def depthLimit : Nat := 127

def Tree.kept? (t : Tree) : Option Json := if t.depth ≤ depthLimit then t.value? else none

def parse? (s : String) : Option Json := (Tree.parse? s).bind Tree.kept?

def parseNearest? (s : String) : Option Json :=
  (Tree.parseRounding? Decimal.Literal.nearest s).bind Tree.kept?

end ServicePlacement.Json
