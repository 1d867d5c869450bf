import ServicePlacement.Net.Endpoint
import ServicePlacement.SortedMap

/-!
The view of a cluster: its active replicas, where they are reachable if that is known, and its
reconfigurators.
-/
namespace ServicePlacement

abbrev NodeId := String

abbrev ServiceName := String

structure Cluster where
  replicas : SortedMap NodeId (Option Endpoint)
  reconfigurators : SortedSet NodeId
deriving DecidableEq

namespace Cluster

def empty : Cluster := ⟨.empty, .empty⟩

instance : Inhabited Cluster := ⟨empty⟩

def withReplica (c : Cluster) (id : NodeId) (endpoint : Option Endpoint) : Cluster :=
  { c with replicas := c.replicas.insert id endpoint }

def withReconfigurator (c : Cluster) (id : NodeId) : Cluster :=
  { c with reconfigurators := c.reconfigurators.insert id }

def activeReplicas (c : Cluster) : SortedSet NodeId := c.replicas.keys

def endpoint? (c : Cluster) (id : NodeId) : Option Endpoint := (c.replicas.get? id).join

end Cluster

end ServicePlacement
