import ServicePlacement.Cluster
import ServicePlacement.Json.Printer
import ServicePlacement.Json.Record
import ServicePlacement.Demand.Error

/-!
The form in which the demand of one name travels: the name, the kind of profile, and what that kind
writes.
-/
namespace ServicePlacement.Demand

open Json (Tree Dialect)

structure Export where
  name : ServiceName
  kind : String
  stats : Json

namespace Export

def ofTree? (t : Tree) : Option Export := do
  let r ← t.record? Dialect.json ["name", "profile", "stats"]
  let name ← r.required "name" Tree.text?
  let kind ← r.required "profile" Tree.text?
  let stats ← r.required "stats" Tree.value?
  return { name, kind, stats }

def ofJson? (v : Json) : Option Export := ofTree? v.tree

def keptDepth (t : Tree) : Nat :=
  match t.record? Dialect.json ["name", "profile", "stats"] with
  | some r => ((r.find? "stats").map Tree.depth).getD 0
  | none => 0

def parse? (s : String) : Option Export := do
  let t ← Tree.parse? s
  if keptDepth t < Json.depthLimit then ofTree? t else none

def toJson (e : Export) : Json :=
  .object [("name", .string e.name), ("profile", .string e.kind), ("stats", e.stats)]

def render (e : Export) : String := e.toJson.render

def check (e : Export) (name : ServiceName) (kind : String) : Except DemandError Unit :=
  if e.name != name then .error (.nameMismatch name e.name)
  else if e.kind != kind then .error (.kindMismatch kind e.kind)
  else .ok ()

end Export

end ServicePlacement.Demand
