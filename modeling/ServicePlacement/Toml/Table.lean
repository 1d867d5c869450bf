import ServicePlacement.Toml.Value

/-!
Building the tables of a document from its lines. A table may be opened by a header, come into being
on the way to another header, or be made by a dotted key; the three kinds differ in what may be
added to them later.
-/
namespace ServicePlacement.Toml.Table

inductive Kind where
  /-- By its own header, or as an element of an array of tables, or as the document. -/
  | header
  /-- On the way to the header of a table inside it. -/
  | implied
  | dotted
deriving DecidableEq

inductive Node where
  | value (v : Value)
  | table (kind : Kind) (fields : List (String × Node))
  | elements (tables : List (List (String × Node)))

abbrev Fields := List (String × Node)

def find? (key : String) (fields : Fields) : Option Node :=
  (fields.find? fun f => f.1 == key).map (·.2)

def put (key : String) (node : Node) (fields : Fields) : Fields :=
  if fields.any fun f => f.1 == key then
    fields.map fun f => if f.1 == key then (key, node) else f
  else fields ++ [(key, node)]

/-- Change the table at the end of a path. Tables that are missing on the way are made, of the kind
that `byDots` tells. A dotted key does not pass through a table that has its own header. -/
def descend (byDots : Bool) (change : Kind → Fields → Option Fields) :
    List String → Kind → Fields → Option Fields
  | [], kind, fields => change kind fields
  | key :: path, _, fields =>
    match find? key fields with
    | none => do
      let kind := if byDots then Kind.dotted else Kind.implied
      let inner ← descend byDots change path kind []
      return put key (.table kind inner) fields
    | some (.table kind inner) =>
      if byDots && kind == .header then none
      else do
        let inner ← descend byDots change path kind inner
        return put key (.table kind inner) fields
    | some (.elements tables) =>
      match tables.reverse with
      | [] => none
      | last :: before => do
        let last ← descend byDots change path .header last
        return put key (.elements (before.reverse ++ [last])) fields
    | some (.value _) => none

def splitLast : List String → Option (List String × String)
  | [] => none
  | [key] => some ([], key)
  | part :: rest => (splitLast rest).map fun (path, key) => (part :: path, key)

/-- Give a dotted key its value. A key must be new, and only a table that was made by dots takes
fields that are given by dots. -/
def assign (path : List String) (v : Value) (kind : Kind) (fields : Fields) : Option Fields := do
  let (path, key) ← splitLast path
  let add (kind : Kind) (fields : Fields) : Option Fields :=
    if (kind == .dotted) == path.isEmpty then none
    else if (find? key fields).isSome then none
    else some (fields ++ [(key, .value v)])
  descend true add path kind fields

def openTable (path : List String) (fields : Fields) : Option Fields := do
  let (path, key) ← splitLast path
  let add (_ : Kind) (fields : Fields) : Option Fields :=
    match find? key fields with
    | none => some (fields ++ [(key, .table .header [])])
    | some (.table .implied inner) => some (put key (.table .header inner) fields)
    | some _ => none
  descend false add path .header fields

def openElement (path : List String) (fields : Fields) : Option Fields := do
  let (path, key) ← splitLast path
  let add (_ : Kind) (fields : Fields) : Option Fields :=
    match find? key fields with
    | none => some (fields ++ [(key, .elements [[]])])
    | some (.elements tables) => some (put key (.elements (tables ++ [[]])) fields)
    | some _ => none
  descend false add path .header fields

mutual

def Node.toValue : Node → Value
  | .value v => v
  | .table _ fields => .table (fieldValues fields)
  | .elements tables => .array (tableValues tables)

def fieldValues : List (String × Node) → List (String × Value)
  | [] => []
  | f :: rest => (f.1, f.2.toValue) :: fieldValues rest

def tableValues : List (List (String × Node)) → List Value
  | [] => []
  | t :: rest => .table (fieldValues t) :: tableValues rest

end

def inline? (pairs : List (List String × Value)) : Option Value := do
  let fields ← pairs.foldlM (fun fields pair => assign pair.1 pair.2 .header fields) []
  return .table (fieldValues fields)

structure Draft where
  fields : Fields
  current : List String

def Draft.add (d : Draft) : Line → Option Draft
  | .assign path v => do
    let fields ← descend false (assign path v) d.current .header d.fields
    return { d with fields }
  | .header path => do
    let fields ← openTable path d.fields
    return ⟨fields, path⟩
  | .element path => do
    let fields ← openElement path d.fields
    return ⟨fields, path⟩

def ofLines? (lines : List Line) : Option Value := do
  let d ← lines.foldlM Draft.add ⟨[], []⟩
  return .table (fieldValues d.fields)

end ServicePlacement.Toml.Table
