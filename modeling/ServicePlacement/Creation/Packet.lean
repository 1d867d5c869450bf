import ServicePlacement.Creation.Request
import ServicePlacement.Json.Record
import ServicePlacement.Json.Printer

/-!
Creation requests as JSON. Parts that say nothing are left out of the text and have their defaults
when it is read; the policy is always there.
-/
namespace ServicePlacement.CreateRequest

open Json (Tree)

def fieldIf (condition : Bool) (key : String) (value : Json) : List (String × Json) :=
  if condition then [(key, value)] else []

def entryJson (e : ServiceName × String) : Json :=
  .object [("NAME", .string e.1), ("STATE", .string e.2)]

def fields (r : CreateRequest) : List (String × Json) :=
  ("NAME", .string r.name) ::
    (fieldIf r.state.isSome "STATE" (Json.ofOption r.state) ++
      fieldIf (!r.states.isEmpty) "NAME_STATE_ARRAY" (.array (r.states.entries.map entryJson)) ++
      fieldIf (!r.failed.isEmpty) "FAILED_CREATES" (.array (r.failed.toList.map .string)) ++
      fieldIf r.initGroup.isSome "INIT_GROUP"
        (.array ((r.initGroup.getD .empty).toList.map fun e => .string e.text)) ++
      [("RECONFIGURE_UPON_ACTIVES_CHANGE", .string r.policy.text)] ++
      fieldIf r.sender.isSome "SENDER" (Json.ofOption (r.sender.map Endpoint.text)) ++
      fieldIf r.isAnswer "IS_RESPONSE" (.bool true))

def toJson (r : CreateRequest) : Json := (Json.object r.fields).canonical

def render (r : CreateRequest) : String := (Json.object r.fields).render

def endpointOfTree? (t : Tree) : Option Endpoint := t.text?.bind Endpoint.parse?

def entryOfTree? (t : Tree) : Option (ServiceName × String) := do
  let r ← t.record? .json ["NAME", "STATE"]
  let name ← r.required "NAME" Tree.text?
  let state ← r.optional "STATE" Tree.text?
  return (name, state.getD "")

def ofTree? (t : Tree) : Option CreateRequest := do
  let r ← t.record? .json
    ["NAME", "STATE", "NAME_STATE_ARRAY", "FAILED_CREATES", "INIT_GROUP",
      "RECONFIGURE_UPON_ACTIVES_CHANGE", "SENDER", "IS_RESPONSE"]
  let name ← r.required "NAME" Tree.text?
  let state ← r.optional "STATE" Tree.text?
  let entries ← r.withDefault "NAME_STATE_ARRAY" [] (Tree.list? entryOfTree?)
  let failed ← r.withDefault "FAILED_CREATES" [] (Tree.list? Tree.text?)
  let initGroup ← r.optional "INIT_GROUP" (Tree.list? endpointOfTree?)
  let policy ← r.required "RECONFIGURE_UPON_ACTIVES_CHANGE" fun t =>
    (t.name? .json).bind Policy.ofText?
  let sender ← r.optional "SENDER" endpointOfTree?
  let isAnswer ← r.withDefault "IS_RESPONSE" false Tree.flag?
  return {
    name
    state
    states := .ofList entries
    failed := .ofList failed
    initGroup := initGroup.map .ofList
    policy
    sender
    isAnswer }

def ofJson? (v : Json) : Option CreateRequest := ofTree? v.tree

def parse? (s : String) : Option CreateRequest := (Tree.parse? s).bind ofTree?

end ServicePlacement.CreateRequest
