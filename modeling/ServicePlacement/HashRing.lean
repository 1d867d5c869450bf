import ServicePlacement.Cluster
import ServicePlacement.Digest.Sha256
import ServicePlacement.Settings

/-!
The consistent-hash ring over the reconfigurators. Every reconfigurator holds a number of tokens on
a circle of 64-bit words, and a service name belongs to the first token at or after its own. The
walk from there around the circle gives the group of reconfigurators that look after the name.
-/
namespace ServicePlacement

inductive RingError where
  | noReconfigurators
  | noVirtualNodes
deriving DecidableEq

def RingError.message : RingError → String
  | noReconfigurators => "no reconfigurators configured"
  | noVirtualNodes => "virtual node count must be positive"

def token (s : String) : UInt64 := (Sha256.hash s.toUTF8.toList).leading

def nodeToken (node : NodeId) (i : Nat) : UInt64 := token (node ++ "#" ++ toString i)

namespace HashRing

def claims (nodes : SortedSet NodeId) (virtualNodes : Nat) : List (UInt64 × NodeId) :=
  nodes.toList.flatMap fun node => (List.range virtualNodes).map fun i => (nodeToken node i, node)

/-- The tokens with their holders: where several nodes ask for a token, the first one has it. -/
def tokensOf (nodes : SortedSet NodeId) (virtualNodes : Nat) : SortedMap UInt64 NodeId :=
  (claims nodes virtualNodes).foldl (fun m e => m.insertNew e.1 e.2) .empty

end HashRing

structure HashRing where
  nodes : SortedSet NodeId
  virtualNodes : UInt64
  groupSize : UInt64
  tokens : SortedMap UInt64 NodeId
  tokens_eq : tokens = HashRing.tokensOf nodes virtualNodes.toNat
  nodes_ne_nil : nodes.toList ≠ []
  virtualNodes_pos : 0 < virtualNodes.toNat
deriving DecidableEq

namespace HashRing

def defaultGroupSize : UInt64 := 3

def defaultVirtualNodes : UInt64 := 64

def build (nodes : List NodeId) (virtualNodes : UInt64) : Except RingError HashRing :=
  if hv : 0 < virtualNodes.toNat then
    let set := SortedSet.ofList nodes
    if hn : set.toList ≠ [] then
      .ok ⟨set, virtualNodes, defaultGroupSize, tokensOf set virtualNodes.toNat, rfl, hn, hv⟩
    else .error .noReconfigurators
  else .error .noVirtualNodes

def withGroupSize (r : HashRing) (n : UInt64) : HashRing := { r with groupSize := max n 1 }

def ofSettings (nodes : List NodeId) (s : Settings.Ring) : Except RingError HashRing :=
  (build nodes s.virtualNodes).map fun r => r.withGroupSize s.groupSize

def walkFrom (r : HashRing) (place : UInt64) : List NodeId :=
  let isBefore (e : UInt64 × NodeId) : Bool := e.1 < place
  (r.tokens.entries.dropWhile isBefore ++ r.tokens.entries.takeWhile isBefore).map (·.2)

theorem alter_ne_nil {m : SortedMap UInt64 NodeId} {k : UInt64} {v : NodeId} :
    (m.insertNew k v).entries ≠ [] := by
  intro h
  have hk := SortedMap.get?_alter m k k fun old => some (old.getD v)
  rw [SortedMap.get?, show (m.alter k _).entries = [] from h] at hk
  simp [SortedMap.lookupIn] at hk

theorem tokens_ne_nil (r : HashRing) : r.tokens.entries ≠ [] := by
  have hclaims : claims r.nodes r.virtualNodes.toNat ≠ [] := by
    intro h
    obtain ⟨node, hnode⟩ := List.exists_mem_of_ne_nil _ r.nodes_ne_nil
    have hmem : (nodeToken node 0, node) ∈ claims r.nodes r.virtualNodes.toNat :=
      List.mem_flatMap.2 ⟨node, hnode, List.mem_map.2 ⟨0, List.mem_range.2 r.virtualNodes_pos, rfl⟩⟩
    rw [h] at hmem
    exact absurd hmem List.not_mem_nil
  rw [r.tokens_eq, tokensOf, ← List.dropLast_concat_getLast hclaims, List.foldl_append]
  exact alter_ne_nil

theorem walkFrom_ne_nil (r : HashRing) (place : UInt64) : r.walkFrom place ≠ [] := by
  intro h
  have hnil := List.map_eq_nil_iff.1 h
  have hpair := List.append_eq_nil_iff.1 hnil
  apply r.tokens_ne_nil
  have hsplit :=
    List.takeWhile_append_dropWhile (p := fun e : UInt64 × NodeId => decide (e.1 < place))
    (l := r.tokens.entries)
  rw [hpair.1, hpair.2] at hsplit
  exact hsplit.symm

def walk (r : HashRing) (name : ServiceName) : List NodeId := r.walkFrom (token name)

def owner (r : HashRing) (name : ServiceName) : NodeId :=
  (r.walk name).head (r.walkFrom_ne_nil (token name))

def group (r : HashRing) (name : ServiceName) (size : Nat) : List NodeId :=
  (r.walk name).eraseDups.take size

def defaultGroup (r : HashRing) (name : ServiceName) : List NodeId :=
  r.group name r.groupSize.toNat

def shares (r : HashRing) (names : List ServiceName) : SortedMap NodeId (SortedSet ServiceName) :=
  names.foldl
    (fun m name => m.alter (r.owner name) fun share => some ((share.getD .empty).insert name))
    .empty

end HashRing

def ownerAmong (nodes : List NodeId) (name : ServiceName) : Except RingError NodeId :=
  (HashRing.build nodes HashRing.defaultVirtualNodes).map fun r => r.owner name

def sharesAmong (nodes : List NodeId) (names : List ServiceName) :
    Except RingError (SortedMap NodeId (SortedSet ServiceName)) :=
  (HashRing.build nodes HashRing.defaultVirtualNodes).map fun r => r.shares names

end ServicePlacement
