import ServicePlacement.Cluster
import ServicePlacement.Json.Record
import ServicePlacement.Json.Printer

/-!
The operations that a replicated application is asked to execute, and their JSON text. One fixed
text that is no JSON stands for the operation that does nothing.
-/
namespace ServicePlacement

namespace Operation

inductive Kind where
  | standard
  | other
deriving DecidableEq

namespace Kind

instance : Inhabited Kind := ⟨standard⟩

def all : List Kind := [standard, other]

def id : Kind → UInt32
  | standard => 401
  | other => 402

def ofId? (n : UInt32) : Option Kind :=
  if n = 401 then some standard else if n = 402 then some other else none

def unknownMessage (n : UInt32) : String := "unknown request type " ++ toString n.toNat

theorem ofId?_id (k : Kind) : ofId? k.id = some k := by
  cases k <;> rfl

end Kind

end Operation

structure Operation where
  service : Option ServiceName
  epoch : UInt32
  id : UInt64
  value : String
  kind : Operation.Kind
  isStop : Bool
deriving DecidableEq

namespace Operation

open Json (Tree)

def noopText : String := "NO_OP"

def noop : Operation where
  service := none
  epoch := 0
  id := 0
  value := noopText
  kind := .standard
  isStop := false

def write (service : ServiceName) (id : UInt64) (value : String) : Operation where
  service := some service
  epoch := 0
  id := id
  value := value
  kind := .standard
  isStop := false

def withKind (o : Operation) (kind : Kind) : Operation := { o with kind }

def withEpoch (o : Operation) (epoch : UInt32) : Operation := { o with epoch }

def stop (o : Operation) : Operation := { o with isStop := true }

def isNoop (o : Operation) : Bool := o.service.isNone && o.value == noopText

def summary (o : Operation) : String :=
  if o.isNoop then noopText
  else
    o.service.getD "-" ++ ":" ++ toString o.epoch.toNat ++ ":" ++ toString o.id.toNat ++ ":" ++
      toString o.kind.id.toNat

def fields (o : Operation) : List (String × Json) :=
  (match o.service with
    | some s => [("NAME", .string s)]
    | none => []) ++
    [("EPOCH", .word o.epoch.toUInt64),
      ("QID", .word o.id),
      ("VALUE", .string o.value),
      ("TYPE", .word o.kind.id.toUInt64),
      ("IS_STOP", .bool o.isStop)]

def render (o : Operation) : String := (Json.object o.fields).render

def ofTree? (t : Tree) : Option Operation := do
  let r ← t.record? .json ["NAME", "EPOCH", "QID", "VALUE", "TYPE", "IS_STOP"]
  let service ← r.optional "NAME" Tree.text?
  let epoch ← r.withDefault "EPOCH" 0 Tree.word32?
  let id ← r.withDefault "QID" 0 Tree.word?
  let value ← r.withDefault "VALUE" "" Tree.text?
  let kind ← r.required "TYPE" fun t => t.word32?.bind Kind.ofId?
  let isStop ← r.withDefault "IS_STOP" false Tree.flag?
  return { service, epoch, id, value, kind, isStop }

def parse? (s : String) : Option Operation :=
  if s = noopText then some noop else (Tree.parse? s).bind ofTree?

end Operation

end ServicePlacement
