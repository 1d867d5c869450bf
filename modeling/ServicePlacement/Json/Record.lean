import ServicePlacement.Json.Tree

/-!
Taking typed values out of a tree. A record may be written as an object, in any order of fields and
with unknown ones among them, or as an array of its fields in their declared order. A known field
must not be given twice.
-/
namespace ServicePlacement.Json

structure Dialect where
  /-- A record written as an array may have more elements than the record has fields. -/
  allowsSurplus : Bool
  /-- What stands beside a bare name that is written as an object with one field. -/
  isEmptyPayload : Tree → Bool

def Dialect.json : Dialect where
  allowsSurplus := false
  isEmptyPayload
    | .scalar .null => true
    | _ => false

structure Record where
  given : List (String × Tree)
  /-- The record was written as an array, where nothing but fields with a default can be missing. -/
  positional : Bool

def textFields? (fields : List (Option String × Tree)) : Option (List (String × Tree)) :=
  fields.mapM fun f => f.1.map fun k => (k, f.2)

namespace Tree

def record? (dialect : Dialect) (names : List String) : Tree → Option Record
  | object fields => do
    let given ← textFields? fields
    if names.all fun n => decide (given.countP (fun f => f.1 == n) ≤ 1) then
      some ⟨given, false⟩
    else none
  | array items =>
    if items.length ≤ names.length || dialect.allowsSurplus then some ⟨names.zip items, true⟩
    else none
  | scalar _ => none

def text? : Tree → Option String
  | scalar (.string s) => s
  | _ => none

def flag? : Tree → Option Bool
  | scalar (.bool b) => some b
  | _ => none

def word? : Tree → Option UInt64
  | scalar (.number (.word n)) => some n
  | _ => none

def word32? (t : Tree) : Option UInt32 := do
  let n ← t.word?
  if n.toNat < 4294967296 then some (UInt32.ofNat n.toNat) else none

def real? : Tree → Option Float
  | scalar (.number (.word n)) => some n.toFloat
  | scalar (.number (.negative n)) => some n.toFloat
  | scalar (.number (.real x)) => if x.isFinite then some x else none
  | _ => none

def optional? {α : Type} (decode : Tree → Option α) : Tree → Option (Option α)
  | scalar .null => some none
  | t => (decode t).map some

def list? {α : Type} (decode : Tree → Option α) : Tree → Option (List α)
  | array items => items.mapM decode
  | _ => none

def map? {α : Type} (decode : Tree → Option α) : Tree → Option (SortedMap String α)
  | object fields => do
    let given ← textFields? fields
    let entries ← given.mapM fun f => (decode f.2).map fun v => (f.1, v)
    return SortedMap.ofList entries
  | _ => none

def name? (dialect : Dialect) : Tree → Option String
  | scalar (.string s) => s
  | object [(k, payload)] => if dialect.isEmptyPayload payload then k else none
  | _ => none

end Tree

namespace Record

def find? (r : Record) (name : String) : Option Tree :=
  (r.given.find? fun f => f.1 == name).map (·.2)

def required {α : Type} (r : Record) (name : String) (decode : Tree → Option α) : Option α :=
  (r.find? name).bind decode

def withDefault {α : Type} (r : Record) (name : String) (default : α)
    (decode : Tree → Option α) : Option α :=
  match r.find? name with
  | some t => decode t
  | none => some default

/-- A field that may be null, or left out of an object. -/
def nullable {α : Type} (r : Record) (name : String) (decode : Tree → Option α) :
    Option (Option α) :=
  match r.find? name with
  | some t => t.optional? decode
  | none => if r.positional then none else some none

/-- A field that may be null, or left out altogether. -/
def optional {α : Type} (r : Record) (name : String) (decode : Tree → Option α) :
    Option (Option α) :=
  r.withDefault name none (Tree.optional? decode)

end Record

end ServicePlacement.Json
