import ServicePlacement.SortedMap
import ServicePlacement.Decimal.Shortest

/-!
JSON values. Numbers are told apart by what they can stand for: a word, a negative integer, or a
double. An object is a list of fields; its canonical form has them in ascending order of keys, each
key once.
-/
namespace ServicePlacement

inductive Json.Number where
  | word (n : UInt64)
  | negative (n : Int64)
  | real (x : Float)

inductive Json where
  | null
  | bool (b : Bool)
  | number (n : Json.Number)
  | string (s : String)
  | array (items : List Json)
  | object (fields : List (String × Json))

namespace Json

instance : Inhabited Json := ⟨null⟩

def word (n : UInt64) : Json := number (.word n)

/-- A double; a value that is not finite has no JSON number and becomes null. -/
def ofFloat (x : Float) : Json := if x.isFinite then number (.real x) else null

def ofOption (s : Option String) : Json :=
  match s with
  | some s => string s
  | none => null

def sortFields (fields : List (String × Json)) : List (String × Json) :=
  (SortedMap.ofList fields).entries

mutual

def canonical : Json → Json
  | array items => array (canonicalItems items)
  | object fields => object (sortFields (canonicalFields fields))
  | value => value

def canonicalItems : List Json → List Json
  | [] => []
  | x :: rest => canonical x :: canonicalItems rest

def canonicalFields : List (String × Json) → List (String × Json)
  | [] => []
  | f :: rest => (f.1, canonical f.2) :: canonicalFields rest

end

/-- The field of an object, the last one where there are several. -/
def field? (key : String) : Json → Option Json
  | object fields => (fields.reverse.find? fun f => f.1 == key).map (·.2)
  | _ => none

end Json

end ServicePlacement
