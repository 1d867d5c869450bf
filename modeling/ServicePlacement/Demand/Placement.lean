import ServicePlacement.Cluster
import ServicePlacement.Demand.Rate

/-!
Where a name is to be hosted: replicas next to its most frequent senders first, then those it has
now, then any others, as many as it has now.
-/
namespace ServicePlacement.Demand

abbrev Placement := SortedSet NodeId

namespace Placement

def localTo? (c : Cluster) (chosen : Placement) (sender : IpAddress) : Option NodeId :=
  c.activeReplicas.toList.find? fun id =>
    !chosen.contains id && ((c.endpoint? id).map Endpoint.ip == some sender)

def chooseLocal (c : Cluster) (wanted : Nat) (chosen : Placement) : List IpAddress → Placement
  | [] => chosen
  | sender :: rest =>
    if wanted ≤ chosen.size then chosen
    else match localTo? c chosen sender with
      | some id => chooseLocal c wanted (chosen.insert id) rest
      | none => chooseLocal c wanted chosen rest

def fill (wanted : Nat) (chosen : Placement) : List NodeId → Placement
  | [] => chosen
  | id :: rest => if wanted ≤ chosen.size then chosen else fill wanted (chosen.insert id) rest

def fillers (c : Cluster) (current : Placement) : List NodeId :=
  current.toList.filter c.activeReplicas.contains ++
    c.activeReplicas.toList.filter fun id => !current.contains id

def best (c : Cluster) (current : Placement) (senders : List IpAddress) : Placement :=
  let wanted := max current.size 1
  fill wanted (chooseLocal c wanted .empty senders) (fillers c current)

end Placement

namespace RateStats

def propose (p : RateParams) (s : RateStats) (current : Placement) (c : Cluster) (now : UInt64) :
    Option Placement :=
  if s.inCooldown p now then none
  else if s.total < p.minRequests then none
  else if c.activeReplicas.isEmpty then none
  else
    let chosen := Placement.best c current s.senders.ranked
    if chosen.isEmpty || chosen == current then none else some chosen

end RateStats

end ServicePlacement.Demand
