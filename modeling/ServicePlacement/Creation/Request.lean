import ServicePlacement.Cluster
import ServicePlacement.Policy

/-!
Requests to create services. A request asks for one name with its initial state, or is a batch that
asks for every name of a map, with one of them as its head. The answer to a request has the same
form and lists the names that could not be created.
-/
namespace ServicePlacement

inductive CreationError where
  | emptyBatch
  | zeroBatchSize
deriving DecidableEq

def CreationError.message : CreationError → String
  | emptyBatch => "batched create needs at least one name"
  | zeroBatchSize => "batch size must be positive"

abbrev NameStates := SortedMap ServiceName String

inductive Outcome where
  | confirmed
  | unconfirmed
  | notInRequest
deriving DecidableEq

structure CreateRequest where
  /-- The only name of a request for one name, the head of a batch. -/
  name : ServiceName
  state : Option String
  states : NameStates
  /-- The names that an answer reports as not created. -/
  failed : SortedSet ServiceName
  initGroup : Option (SortedSet Endpoint)
  policy : Policy
  sender : Option Endpoint
  isAnswer : Bool
deriving DecidableEq

namespace CreateRequest

def single (name : ServiceName) (state : String) (policy : Policy) : CreateRequest where
  name := name
  state := some state
  states := .empty
  failed := .empty
  initGroup := none
  policy := policy
  sender := none
  isAnswer := false

def batch (states : NameStates) (policy : Policy) : Except CreationError CreateRequest :=
  match states.head? with
  | none => .error .emptyBatch
  | some (name, state) => .ok { single name state policy with states }

/-- The answer to a request, for the given names. An answer without names keeps the head of the
request. -/
def answer (request : CreateRequest) (states : NameStates) (failed : SortedSet ServiceName) :
    CreateRequest :=
  let head : ServiceName × Option String :=
    match states.head? with
    | some (name, state) => (name, some state)
    | none => (request.name, request.state)
  { name := head.1
    state := head.2
    states
    failed
    initGroup := none
    policy := request.policy
    sender := request.sender
    isAnswer := true }

def withInitGroup (r : CreateRequest) (group : List Endpoint) : CreateRequest :=
  { r with initGroup := some (.ofList group) }

def withPolicy (r : CreateRequest) (policy : Policy) : CreateRequest := { r with policy }

def withSender (r : CreateRequest) (sender : Endpoint) : CreateRequest :=
  { r with sender := some sender }

def headOnly (r : CreateRequest) : CreateRequest := { r with states := .empty }

def isBatch (r : CreateRequest) : Bool := !r.states.isEmpty

def size (r : CreateRequest) : Nat := if r.isBatch then r.states.size else 1

def names (r : CreateRequest) : SortedSet ServiceName :=
  if r.isBatch then r.states.keys else .singleton r.name

def outcome (r : CreateRequest) (name : ServiceName) : Outcome :=
  let asked := if r.isBatch then r.states.contains name else r.name == name
  if !asked then .notInRequest
  else if r.failed.contains name then .unconfirmed
  else .confirmed

def unconfirmed (r : CreateRequest) : List ServiceName := r.failed.toList

def summary (r : CreateRequest) : String :=
  "CREATE_SERVICE_NAME:" ++ r.name ++
    (if r.isBatch then ":|batched|=" ++ toString r.states.size else "") ++
    (if r.failed.isEmpty then "" else ":|failed|=" ++ toString r.failed.size) ++
    (if r.isAnswer then ":response" else "")

end CreateRequest

end ServicePlacement
