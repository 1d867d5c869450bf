import ServicePlacement.Proofs.RingOwner

/-!
Cutting names into shares. A share is made where a first name asks for it and grows by one name at
a time; what comes out is the set of the names of one owner, whatever order the names came in. So
the shares are a partition of the names (`shares_partition_names`), which depends on their set
alone.
-/
namespace ServicePlacement.HashRing

def shareOf (r : HashRing) (names : List ServiceName) (node : NodeId) : SortedSet ServiceName :=
  ((r.shares names).get? node).getD .empty

/-- A node's share is the set of its names; a node without names has none. -/
theorem get?_shares (r : HashRing) (names : List ServiceName) (node : NodeId) :
    (r.shares names).get? node =
      if (names.filter fun name => r.owner name = node) = [] then none
      else some (SortedSet.ofList (names.filter fun name => r.owner name = node)) :=
  SortedMap.get?_foldl_group r.owner SortedSet.insert .empty names node

theorem mem_of_get?_shares {r : HashRing} {names : List ServiceName} {node : NodeId}
    {share : SortedSet ServiceName} (h : (r.shares names).get? node = some share)
    (name : ServiceName) : name ∈ share ↔ name ∈ names ∧ r.owner name = node := by
  rw [get?_shares] at h
  split at h
  · cases h
  · cases h
    rw [SortedSet.mem_ofList, List.mem_filter, decide_eq_true_iff]

/-- No share is empty. -/
theorem exists_mem_of_get?_shares {r : HashRing} {names : List ServiceName} {node : NodeId}
    {share : SortedSet ServiceName} (h : (r.shares names).get? node = some share) :
    ∃ name, name ∈ share := by
  have hmem := mem_of_get?_shares h
  rw [get?_shares] at h
  split at h
  · cases h
  · rename_i hne
    obtain ⟨name, hname⟩ := List.exists_mem_of_ne_nil _ hne
    rw [List.mem_filter, decide_eq_true_iff] at hname
    exact ⟨name, (hmem name).mpr hname⟩

/-- The nodes with a share are the owners of the names. -/
theorem exists_get?_shares_iff {r : HashRing} {names : List ServiceName} {node : NodeId} :
    (∃ share, (r.shares names).get? node = some share) ↔
      ∃ name ∈ names, r.owner name = node := by
  constructor
  · rintro ⟨share, h⟩
    obtain ⟨name, hname⟩ := exists_mem_of_get?_shares h
    exact ⟨name, (mem_of_get?_shares h name).mp hname⟩
  · rintro ⟨name, hmem, howner⟩
    have hne : (names.filter fun name => r.owner name = node) ≠ [] :=
      List.ne_nil_of_mem (List.mem_filter.mpr ⟨hmem, decide_eq_true howner⟩)
    exact ⟨_, (get?_shares r names node).trans (if_neg hne)⟩

theorem mem_shareOf {r : HashRing} {names : List ServiceName} {node : NodeId}
    {name : ServiceName} : name ∈ r.shareOf names node ↔ name ∈ names ∧ r.owner name = node := by
  unfold shareOf
  cases h : (r.shares names).get? node with
  | some share => exact mem_of_get?_shares h name
  | none =>
    constructor
    · intro hmem
      cases hmem
    · rintro ⟨hmem, howner⟩
      obtain ⟨share, hshare⟩ := exists_get?_shares_iff.mpr ⟨name, hmem, howner⟩
      rw [h] at hshare
      cases hshare

/-- Two shares that have a name in common are the share of one node. -/
theorem eq_of_mem_shares {r : HashRing} {names : List ServiceName} {a b : NodeId}
    {s t : SortedSet ServiceName} (hs : (r.shares names).get? a = some s)
    (ht : (r.shares names).get? b = some t) {name : ServiceName} (hleft : name ∈ s)
    (hright : name ∈ t) : a = b := by
  have ha := ((mem_of_get?_shares hs name).mp hleft).2
  have hb := ((mem_of_get?_shares ht name).mp hright).2
  exact ha.symm.trans hb

/-- Neither the order nor the repetition of the names matters to the shares. -/
theorem shares_congr {names names' : List ServiceName} (h : ∀ name, name ∈ names' ↔ name ∈ names)
    (r : HashRing) : r.shares names' = r.shares names := by
  apply SortedMap.ext_get?
  intro node
  have hset : SortedSet.ofList (names'.filter fun name => r.owner name = node) =
      .ofList (names.filter fun name => r.owner name = node) := by
    apply SortedSet.ext_mem
    intro name
    simp only [SortedSet.mem_ofList, List.mem_filter, h]
  have hempty : (names'.filter fun name => r.owner name = node) = [] ↔
      (names.filter fun name => r.owner name = node) = [] := by
    simp only [List.filter_eq_nil_iff, h]
  rw [get?_shares, get?_shares, hset]
  simp only [hempty]

/-- The owner and the shares among some nodes are those of the ring that they make with the default
number of tokens. -/
theorem exists_defaultRing {nodes : List NodeId} (h : nodes ≠ []) :
    ∃ r, build nodes defaultVirtualNodes = .ok r ∧
      (∀ name, ownerAmong nodes name = .ok (r.owner name)) ∧
      ∀ names, sharesAmong nodes names = .ok (r.shares names) := by
  obtain ⟨r, hr, -, -⟩ := exists_build h (v := defaultVirtualNodes) (by decide)
  refine ⟨r, hr, fun name => ?_, fun names => ?_⟩
  · rw [ownerAmong, hr]
    rfl
  · rw [sharesAmong, hr]
    rfl

/-- The shares of a list of names are a partition of its names by their owners. Every share has
names and belongs to a node of the ring, no name is in two shares, the names of the list are the
names in shares, and only their set counts. Without a ring at hand the nodes are enough, as long as
there is one. -/
theorem shares_partition_names (r : HashRing) (names : List ServiceName) :
    (∀ node name, (∃ share, (r.shares names).get? node = some share ∧ name ∈ share) ↔
        name ∈ names ∧ r.owner name = node) ∧
      (∀ node share, (r.shares names).get? node = some share →
        (∃ name, name ∈ share) ∧ node ∈ r.nodes) ∧
      (∀ a b s t, (r.shares names).get? a = some s → (r.shares names).get? b = some t → a ≠ b →
        ∀ name ∈ s, name ∉ t) ∧
      (∀ name, (∃ node share, (r.shares names).get? node = some share ∧ name ∈ share) ↔
        name ∈ names) ∧
      (∀ names', (∀ name, name ∈ names' ↔ name ∈ names) → r.shares names' = r.shares names) ∧
      (∀ nodes, nodes ≠ [] → ∃ s, build nodes defaultVirtualNodes = .ok s ∧
        (∀ name, ownerAmong nodes name = .ok (s.owner name)) ∧
        sharesAmong nodes names = .ok (s.shares names)) ∧
      (∀ name, ownerAmong [] name = .error .noReconfigurators) ∧
      sharesAmong [] names = .error .noReconfigurators := by
  have hshare : ∀ node name,
      (∃ share, (r.shares names).get? node = some share ∧ name ∈ share) ↔
        name ∈ names ∧ r.owner name = node := by
    intro node name
    constructor
    · rintro ⟨share, hget, hmem⟩
      exact (mem_of_get?_shares hget name).mp hmem
    · intro hname
      obtain ⟨share, hget⟩ := exists_get?_shares_iff.mpr ⟨name, hname⟩
      exact ⟨share, hget, (mem_of_get?_shares hget name).mpr hname⟩
  refine ⟨hshare, ?_, ?_, ?_, fun names' h => shares_congr h r, ?_, fun name => rfl, rfl⟩
  · intro node share hget
    obtain ⟨name, hmem⟩ := exists_mem_of_get?_shares hget
    obtain ⟨-, howner⟩ := (mem_of_get?_shares hget name).mp hmem
    have hnode := (r.nearest_owner name).1
    rw [howner] at hnode
    exact ⟨⟨name, hmem⟩, hnode⟩
  · intro a b s t hs ht hne name hleft hright
    exact hne (eq_of_mem_shares hs ht hleft hright)
  · intro name
    constructor
    · rintro ⟨node, hmem⟩
      exact ((hshare node name).mp hmem).1
    · intro hname
      exact ⟨r.owner name, (hshare _ name).mpr ⟨hname, rfl⟩⟩
  · intro nodes hnodes
    obtain ⟨s, hs, howner, hshares⟩ := exists_defaultRing hnodes
    exact ⟨s, hs, howner, hshares names⟩

/-- The only node has all names, in whatever order and however often they come. -/
theorem shares_partition_names_one_node :
    ["RC0"] ≠ [] ∧ (∀ name, name ∈ ["a", "b"] ↔ name ∈ ["b", "a", "b"]) ∧
      ∃ r, build ["RC0"] defaultVirtualNodes = .ok r ∧
        sharesAmong ["RC0"] ["b", "a", "b"] = .ok (r.shares ["b", "a", "b"]) ∧
        r.shares ["a", "b"] = r.shares ["b", "a", "b"] ∧
        ∃ share, (r.shares ["b", "a", "b"]).get? "RC0" = some share ∧ "a" ∈ share := by
  have hsame : ∀ name, name ∈ ["a", "b"] ↔ name ∈ ["b", "a", "b"] := by
    intro name
    simp only [List.mem_cons, List.not_mem_nil, or_false]
    tauto
  have hnodes : ["RC0"] ≠ [] := by decide
  obtain ⟨r, hr, hset, -⟩ := exists_build hnodes (v := defaultVirtualNodes) (by decide)
  obtain ⟨hshare, -, -, -, hcongr, hfree, -, -⟩ := shares_partition_names r ["b", "a", "b"]
  obtain ⟨s, hs, -, hshares⟩ := hfree ["RC0"] hnodes
  rw [hr] at hs
  cases hs
  have howner : r.owner "a" = "RC0" := by
    have hmem := (r.nearest_owner "a").1
    rw [hset, ← SortedSet.mem_def, SortedSet.mem_ofList] at hmem
    exact List.mem_singleton.mp hmem
  exact ⟨hnodes, hsame, r, hr, hshares, hcongr ["a", "b"] hsame,
    (hshare "RC0" "a").mpr ⟨by decide, howner⟩⟩

end ServicePlacement.HashRing
