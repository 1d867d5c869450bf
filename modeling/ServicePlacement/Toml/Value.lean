import ServicePlacement.Json.Record

/-!
TOML values, and the lines a TOML document consists of.
-/
namespace ServicePlacement.Toml

/-- A TOML value. Dates and times are told from all else, not from one another. -/
inductive Value where
  | string (s : String)
  | integer (n : Int)
  | real (x : Float)
  | bool (b : Bool)
  | moment
  | array (items : List Value)
  | table (fields : List (String × Value))

inductive Line where
  | assign (path : List String) (value : Value)
  | header (path : List String)
  | element (path : List String)

def dialect : Json.Dialect where
  allowsSurplus := true
  isEmptyPayload
    | .object [] => true
    | .array [] => true
    | _ => false

namespace Value

def wholeScalar (n : Int) : Json.Scalar :=
  .number (if 0 ≤ n then .word (UInt64.ofNat n.toNat) else .negative (Int64.ofInt n))

mutual

/-- The tree of a value. A date or time is like a table, but its only part is one that no record asks
for. -/
def tree : Value → Json.Tree
  | string s => .scalar (.string (some s))
  | integer n => .scalar (wholeScalar n)
  | real x => .scalar (.number (.real x))
  | bool b => .scalar (.bool b)
  | moment => .object [(some "date-time", .scalar .null)]
  | array items => .array (treeItems items)
  | table fields => .object (treeFields fields)

def treeItems : List Value → List Json.Tree
  | [] => []
  | v :: rest => v.tree :: treeItems rest

def treeFields : List (String × Value) → List (Option String × Json.Tree)
  | [] => []
  | f :: rest => (some f.1, f.2.tree) :: treeFields rest

end

end Value

end ServicePlacement.Toml
