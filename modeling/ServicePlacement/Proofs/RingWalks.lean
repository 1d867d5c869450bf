import ServicePlacement.Proofs.Distinct
import ServicePlacement.Proofs.RingOwner

/-!
The group of a name on any ring, also where nodes left tokens to others. The walk around the circle
meets exactly the nodes that hold a token, each of them first at its nearest one, so the different
nodes of the walk stand in the order of these distances. A group is the beginning of that order
(`group_lists_nearest_holders`). The search for it can stop as soon as it has found enough, and it
never finds more nodes than the ring has.
-/
namespace ServicePlacement.HashRing

def Holds (r : HashRing) (node : NodeId) : Prop := ∃ place, r.tokens.get? place = some node

def holders (r : HashRing) : SortedSet NodeId := .ofList (r.tokens.entries.map Prod.snd)

theorem mem_holders {r : HashRing} {node : NodeId} : node ∈ r.holders ↔ r.Holds node := by
  unfold holders Holds
  rw [SortedSet.mem_ofList, List.mem_map]
  constructor
  · rintro ⟨e, he, rfl⟩
    exact ⟨e.1, SortedMap.get?_eq_some_iff.mpr he⟩
  · rintro ⟨place, hplace⟩
    exact ⟨(place, node), SortedMap.get?_eq_some_iff.mp hplace, rfl⟩

theorem Holds.mem_nodes {r : HashRing} {node : NodeId} (h : r.Holds node) : node ∈ r.nodes := by
  obtain ⟨place, hplace⟩ := h
  rw [r.tokens_eq] at hplace
  exact (asksFor_of_get?_tokensOf hplace).1.1

/-- A walk meets the nodes that hold a token, wherever it begins. -/
theorem mem_walk {r : HashRing} {name : ServiceName} {node : NodeId} :
    node ∈ r.walk name ↔ r.Holds node := by
  unfold walk
  rw [walkFrom_eq_map, ← mem_holders, holders, SortedSet.mem_ofList]
  simp only [List.mem_map, mem_entriesFrom]

theorem holders_eq_nodes {r : HashRing} (h : ∀ node ∈ r.nodes, r.Holds node) :
    r.holders = r.nodes := by
  apply SortedSet.ext_mem
  intro node
  rw [mem_holders]
  exact ⟨Holds.mem_nodes, h node⟩

theorem size_holders_le (r : HashRing) : r.holders.size ≤ r.nodes.size := by
  have hsub : r.holders.toList ⊆ r.nodes.toList := by
    intro node hnode
    exact (mem_holders.mp hnode).mem_nodes
  exact (List.subperm_of_subset r.holders.nodup_toList hsub).length_le

/-- The number of different nodes of a walk. -/
theorem length_eraseDups_walk (r : HashRing) (name : ServiceName) :
    (r.walk name).eraseDups.length = r.holders.size := by
  have hperm : (r.walk name).eraseDups.Perm r.holders.toList := by
    apply (List.perm_ext_iff_of_nodup (nodup_eraseDups _) r.holders.nodup_toList).mpr
    intro node
    rw [List.mem_eraseDups, mem_walk, ← mem_holders]
    rfl
  exact hperm.length_eq

theorem length_group_eq (r : HashRing) (name : ServiceName) (k : Nat) :
    (r.group name k).length = min k r.holders.size := by
  unfold group
  rw [List.length_take, length_eraseDups_walk]

/-- A group as large as the ring has all nodes that the walk meets. -/
theorem group_size_nodes (r : HashRing) (name : ServiceName) :
    r.group name r.nodes.size = (r.walk name).eraseDups := by
  have hle := r.size_holders_le
  apply List.take_of_length_le
  rw [length_eraseDups_walk]
  exact hle

theorem mem_group {r : HashRing} {name : ServiceName} {k : Nat} {node : NodeId}
    (h : node ∈ r.group name k) : r.Holds node :=
  mem_walk.mp (List.mem_eraseDups.mp (List.mem_of_mem_take h))

/-! ### The search along the walk -/

def gather (wanted : Nat) : List NodeId → List NodeId → List NodeId
  | found, [] => found
  | found, node :: rest =>
    if found.length = wanted then found
    else if node ∈ found then gather wanted found rest
    else gather wanted (found ++ [node]) rest

theorem gather_eq {wanted : Nat} {found : List NodeId} (hnodup : found.Nodup)
    (hroom : found.length ≤ wanted) (walk : List NodeId) :
    gather wanted found walk = (found ++ walk).eraseDups.take wanted := by
  induction walk generalizing found with
  | nil => rw [gather, List.append_nil, eraseDups_of_nodup hnodup, List.take_of_length_le hroom]
  | cons node rest ih =>
    unfold gather
    split
    · rename_i hfull
      rw [List.eraseDups_append, eraseDups_of_nodup hnodup, ← hfull, List.take_left]
    · rename_i hmissing
      split
      · rename_i hknown
        rw [ih hnodup hroom, List.eraseDups_append, List.eraseDups_append]
        simp [List.removeAll, hknown]
      · rename_i hnew
        have hnodup' : (found ++ [node]).Nodup := by
          rw [← List.concat_eq_append, List.nodup_concat]
          exact ⟨hnew, hnodup⟩
        have hroom' : (found ++ [node]).length ≤ wanted := by
          rw [List.length_append, List.length_singleton]
          omega
        rw [ih hnodup' hroom', List.append_assoc]
        rfl

/-- A search for no more nodes than the ring has, which stops once it has them, finds the group. -/
theorem group_eq_gather (r : HashRing) (name : ServiceName) (k : Nat) :
    r.group name k = gather (min k r.nodes.size) [] (r.walk name) := by
  have hlength : (r.walk name).eraseDups.length ≤ r.nodes.size := by
    rw [length_eraseDups_walk]
    exact r.size_holders_le
  rw [gather_eq List.nodup_nil (Nat.zero_le _), List.nil_append, group, ← List.take_take,
    List.take_of_length_le hlength]

/-! ### The order of a group -/

def HoldsNearer (r : HashRing) (place : UInt64) (a b : NodeId) : Prop :=
  ∃ near, r.tokens.get? near = some a ∧
    ∀ far, r.tokens.get? far = some b → clockwise place near < clockwise place far

theorem group_pairwise (r : HashRing) (name : ServiceName) (k : Nat) :
    (r.group name k).Pairwise (r.HoldsNearer (token name)) := by
  have hfirsts := pairwise_eraseDups_map Prod.snd (r.entriesFrom_pairwise (token name))
  have hwalk : (r.walk name).eraseDups.Pairwise (r.HoldsNearer (token name)) := by
    unfold walk
    rw [walkFrom_eq_map]
    refine hfirsts.imp fun {a b} hab => ?_
    obtain ⟨e, he, rfl, hfarther⟩ := hab
    refine ⟨e.1, SortedMap.get?_eq_some_iff.mpr (mem_entriesFrom.mp he), fun far hfar => ?_⟩
    exact hfarther (far, b) (mem_entriesFrom.mpr (SortedMap.get?_eq_some_iff.mp hfar)) rfl
  exact hwalk.sublist (List.take_sublist _ _)

/-- A group begins with the owner. -/
theorem head?_group (r : HashRing) (name : ServiceName) {k : Nat} (hk : 0 < k) :
    (r.group name k).head? = some (r.owner name) := by
  have hhead := r.head?_walk name
  unfold group
  rw [List.head?_take, if_neg (Nat.ne_of_gt hk)]
  cases hwalk : r.walk name with
  | nil => exact absurd hwalk (r.walkFrom_ne_nil (token name))
  | cons node rest =>
    rw [hwalk] at hhead
    rw [List.eraseDups_cons]
    exact hhead

/-- The group of a name has no node twice, only nodes that hold a token, and as many of these as are
asked for or there are. It begins with the owner and goes on in the order of the nodes' nearest
tokens, so a smaller group is the beginning of a larger one, and it is what the search along the
walk finds. -/
theorem group_lists_nearest_holders (r : HashRing) (name : ServiceName) (k : Nat) :
    r.group name k = gather (min k r.nodes.size) [] (r.walk name) ∧
      (r.group name k).Nodup ∧
      (∀ node ∈ r.group name k, node ∈ r.nodes ∧ r.Holds node) ∧
      (r.group name k).length = min k r.holders.size ∧
      ((∀ node ∈ r.nodes, r.Holds node) → (r.group name k).length = min k r.nodes.size) ∧
      (r.group name k).Pairwise (r.HoldsNearer (token name)) ∧
      (1 ≤ k → (r.group name k).head? = some (r.owner name)) ∧
      ∀ k', k ≤ k' → r.group name k <+: r.group name k' := by
  refine ⟨r.group_eq_gather name k, ?_, ?_, r.length_group_eq name k, ?_, r.group_pairwise name k,
    fun hk => r.head?_group name hk, fun k' hk' => List.take_prefix_take_left hk'⟩
  · exact (nodup_eraseDups _).sublist (List.take_sublist _ _)
  · intro node hnode
    have hholds := mem_group hnode
    exact ⟨hholds.mem_nodes, hholds⟩
  · intro hall
    rw [length_group_eq, holders_eq_nodes hall]

/-- A group that is larger than the ring has all three nodes, and the group of two is its beginning.
-/
theorem group_lists_nearest_holders_three :
    ∃ r, build ["RC2", "RC1", "RC0"] 2 = .ok r ∧ (∀ node ∈ r.nodes, r.Holds node) ∧
      r.group "svc0" 5 = ["RC1", "RC2", "RC0"] ∧ (r.group "svc0" 5).length = min 5 r.nodes.size ∧
      (1 ≤ 2 ∧ (r.group "svc0" 2).head? = some (r.owner "svc0")) ∧
      2 ≤ 5 ∧ r.group "svc0" 2 <+: r.group "svc0" 5 := by
  have hnodes : ["RC2", "RC1", "RC0"] ≠ [] := by decide
  obtain ⟨r, hr, -, -⟩ := exists_build hnodes (v := 2) (by decide)
  have hcomputed : (build ["RC2", "RC1", "RC0"] 2).toOption.map
      (fun r => (decide (∀ node ∈ r.nodes.toList, node ∈ r.holders), r.group "svc0" 5)) =
        some (true, ["RC1", "RC2", "RC0"]) := by decide +kernel
  rw [hr] at hcomputed
  obtain ⟨hkept, hgroup⟩ := Prod.mk.inj (Option.some.inj hcomputed)
  have hholds : ∀ node ∈ r.nodes, r.Holds node := by
    intro node hnode
    exact mem_holders.mp (of_decide_eq_true hkept node hnode)
  obtain ⟨-, -, -, -, hlength, -, -, -⟩ := group_lists_nearest_holders r "svc0" 5
  obtain ⟨-, -, -, -, -, -, hhead, hbegins⟩ := group_lists_nearest_holders r "svc0" 2
  exact ⟨r, hr, hholds, hgroup, hlength hholds, ⟨by decide, hhead (by decide)⟩, by decide,
    hbegins 5 (by decide)⟩

end ServicePlacement.HashRing
