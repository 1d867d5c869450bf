import ServicePlacement.Creation.Request
import ServicePlacement.HashRing

/-!
Cutting batches: by the owners of their names, and to a bounded size.
-/
namespace ServicePlacement

def pieces {α : Type} (size : Nat) (l : List α) : List (List α) := go l.length l
where
  go : Nat → List α → List (List α)
    | 0, _ => []
    | _, [] => []
    | bound + 1, l => l.take size :: go bound (l.drop size)

namespace CreateRequest

def share (r : CreateRequest) (names : SortedSet ServiceName) :
    Except CreationError CreateRequest := do
  let sub ← batch (r.states.filter fun n _ => names.contains n) r.policy
  return { sub with
    failed := r.failed.filter fun n => names.contains n
    sender := r.sender
    isAnswer := r.isAnswer }

def split (r : CreateRequest) (ring : HashRing) :
    Except CreationError (SortedMap NodeId CreateRequest) := do
  if r.isBatch then
    let parts ← (ring.shares r.states.keys.toList).entries.mapM fun e => do
      let sub ← r.share e.2
      return (e.1, sub)
    return .ofList parts
  else return .singleton (ring.owner r.name) r

def batches (states : NameStates) (size : Nat) (policy : Policy) :
    Except CreationError (List CreateRequest) :=
  if size = 0 then .error .zeroBatchSize
  else (pieces size states.entries).mapM fun piece => batch (.ofList piece) policy

def statesByOwner (states : NameStates) (ring : HashRing) : SortedMap NodeId NameStates :=
  states.entries.foldl
    (fun m e => m.alter (ring.owner e.1) fun own => some ((own.getD .empty).insert e.1 e.2)) .empty

def batchesByOwner (states : NameStates) (size : Nat) (policy : Policy) (ring : HashRing) :
    Except CreationError (List CreateRequest) := do
  if size = 0 then throw .zeroBatchSize
  let parts ← (statesByOwner states ring).entries.mapM fun e => batches e.2 size policy
  return parts.flatten

def owners (requests : List CreateRequest) (ring : HashRing) : SortedSet NodeId :=
  .ofList ((requests.flatMap fun r => r.names.toList).map ring.owner)

end CreateRequest

end ServicePlacement
