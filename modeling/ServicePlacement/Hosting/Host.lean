import ServicePlacement.Hosting.Operation
import ServicePlacement.SortedMap

/-!
A small application: one text for every service that is hosted here. Only a restore makes or
removes a service; an operation changes at most the text of a service that is there.
-/
namespace ServicePlacement

structure Host where
  states : SortedMap ServiceName String
deriving DecidableEq

namespace Host

def empty : Host := ⟨.empty⟩

def size (h : Host) : Nat := h.states.size

def isEmpty (h : Host) : Bool := h.states.isEmpty

def checkpoint (h : Host) (name : ServiceName) : Option String := h.states.get? name

def restore (h : Host) (name : ServiceName) (state : Option String) : Host :=
  ⟨h.states.alter name fun _ => state⟩

def write (h : Host) (o : Operation) : Bool × Host :=
  match o.service with
  | none => (true, h)
  | some name =>
    if o.isStop then (true, h)
    else if h.states.contains name then (true, ⟨h.states.insert name o.value⟩)
    else (false, h)

def execute (h : Host) (o : Operation) : Bool × Host :=
  if o.isNoop then (true, h)
  else
    match o.kind with
    | .standard => h.write o
    | .other => (false, h)

def kinds : SortedSet UInt32 := .ofList (Operation.Kind.all.map Operation.Kind.id)

end Host

end ServicePlacement
