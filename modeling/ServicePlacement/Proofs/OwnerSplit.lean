import ServicePlacement.Creation.Split
import ServicePlacement.Proofs.RingShares

/-!
Splitting a request by the owners of its names. The part of an owner is described field by field
(`IsPartOf`), which leaves no freedom: a split has one part for each owner of a name (`IsSplitOf`),
no part loses or adds a name or a failure, and a part that is split again stays whole.
-/
namespace ServicePlacement.CreateRequest

theorem get?_filter_owner (states : NameStates) (ring : HashRing) (node : NodeId)
    (name : ServiceName) :
    (states.filter fun name _ => ring.owner name = node).get? name =
      if ring.owner name = node then states.get? name else none := by
  have hfilter := SortedMap.get?_filter_of_key (fun name => decide (ring.owner name = node))
    states name
  simpa using hfilter

theorem mem_keys_filter_owner {states : NameStates} {ring : HashRing} {node : NodeId}
    {name : ServiceName} :
    name ∈ (states.filter fun name _ => ring.owner name = node).keys ↔
      name ∈ states.keys ∧ ring.owner name = node := by
  rw [SortedMap.mem_keys_iff, SortedMap.mem_keys_iff, get?_filter_owner]
  by_cases howner : ring.owner name = node
  · simp [howner]
  · simp [howner]

theorem isBatch_of_mem_keys {r : CreateRequest} {name : ServiceName} (h : name ∈ r.states.keys) :
    r.isBatch = true := by
  unfold isBatch
  cases hempty : r.states.isEmpty with
  | false => rfl
  | true =>
    obtain ⟨state, hstate⟩ := SortedMap.mem_keys_iff.mp h
    rw [SortedMap.isEmpty_iff.mp hempty] at hstate
    cases hstate

structure IsPartOf (r : CreateRequest) (ring : HashRing) (node : NodeId)
    (part : CreateRequest) : Prop where
  states_eq : part.states = r.states.filter fun name _ => ring.owner name = node
  name_mem : part.name ∈ part.states.keys
  name_le : ∀ name ∈ part.states.keys, part.name ≤ name
  state_eq : part.state = part.states.get? part.name
  failed_eq : part.failed = r.failed.filter fun name => part.states.contains name
  initGroup_eq : part.initGroup = none
  policy_eq : part.policy = r.policy
  sender_eq : part.sender = r.sender
  isAnswer_eq : part.isAnswer = r.isAnswer

namespace IsPartOf

variable {r part : CreateRequest} {ring : HashRing} {node : NodeId}

theorem get?_states (h : IsPartOf r ring node part) (name : ServiceName) :
    part.states.get? name = if ring.owner name = node then r.states.get? name else none := by
  rw [h.states_eq, get?_filter_owner]

theorem mem_keys (h : IsPartOf r ring node part) {name : ServiceName} :
    name ∈ part.states.keys ↔ name ∈ r.states.keys ∧ ring.owner name = node := by
  rw [h.states_eq, mem_keys_filter_owner]

theorem isBatch (h : IsPartOf r ring node part) : part.isBatch = true :=
  isBatch_of_mem_keys h.name_mem

/-- The first entry of a part is its head with its state. -/
theorem exists_head (h : IsPartOf r ring node part) :
    ∃ state, part.states.head? = some (part.name, state) ∧ part.state = some state := by
  obtain ⟨state, hget⟩ := SortedMap.mem_keys_iff.mp h.name_mem
  refine ⟨state, ?_, h.state_eq.trans hget⟩
  refine SortedMap.head?_eq_some_iff.mpr ⟨hget, fun name hname => ?_⟩
  exact Std.not_lt.mpr (h.name_le name hname)

/-- A request has at most one part for an owner. -/
theorem unique {other : CreateRequest} (h : IsPartOf r ring node part)
    (h' : IsPartOf r ring node other) : part = other := by
  have hstates : part.states = other.states := h.states_eq.trans h'.states_eq.symm
  have hname : part.name = other.name := by
    have hle := h.name_le other.name (hstates ▸ h'.name_mem)
    have hge := h'.name_le part.name (hstates ▸ h.name_mem)
    exact Std.le_antisymm hle hge
  have hstate : part.state = other.state := by
    rw [h.state_eq, h'.state_eq, hstates, hname]
  have hfailed : part.failed = other.failed := by
    rw [h.failed_eq, h'.failed_eq, hstates]
  have hinit : part.initGroup = other.initGroup := h.initGroup_eq.trans h'.initGroup_eq.symm
  have hpolicy : part.policy = other.policy := h.policy_eq.trans h'.policy_eq.symm
  have hsender : part.sender = other.sender := h.sender_eq.trans h'.sender_eq.symm
  have hanswer : part.isAnswer = other.isAnswer := h.isAnswer_eq.trans h'.isAnswer_eq.symm
  cases part
  cases other
  simp_all

/-- A part is its own only part. -/
theorem self (h : IsPartOf r ring node part) : IsPartOf part ring node part where
  states_eq := by
    refine SortedMap.ext_get? fun name => ?_
    rw [get?_filter_owner, h.get?_states]
    by_cases howner : ring.owner name = node
    · simp [howner]
    · simp [howner]
  name_mem := h.name_mem
  name_le := h.name_le
  state_eq := h.state_eq
  failed_eq := by
    refine SortedSet.ext_mem fun name => ?_
    rw [SortedSet.mem_filter]
    constructor
    · intro hmem
      have hfailed := hmem
      rw [h.failed_eq, SortedSet.mem_filter] at hfailed
      exact ⟨hmem, hfailed.2⟩
    · exact And.left
  initGroup_eq := h.initGroup_eq
  policy_eq := rfl
  sender_eq := rfl
  isAnswer_eq := rfl

/-- A part tells of the names of the request what the request tells of those of its owner. -/
theorem outcome_eq (h : IsPartOf r ring node part) {name : ServiceName}
    (hmem : name ∈ r.states.keys) (hbatch : r.isBatch = true) :
    part.outcome name = if ring.owner name = node then r.outcome name else .notInRequest := by
  have hasked : r.states.contains name = true := SortedMap.contains_keys.mpr hmem
  unfold outcome
  rw [h.isBatch, hbatch]
  by_cases howner : ring.owner name = node
  · have hpart : part.states.contains name = true :=
      SortedMap.contains_keys.mpr (h.mem_keys.mpr ⟨hmem, howner⟩)
    have hfailed : part.failed.contains name = r.failed.contains name := by
      rw [Bool.eq_iff_iff, SortedSet.contains_iff, SortedSet.contains_iff, h.failed_eq,
        SortedSet.mem_filter]
      exact ⟨And.left, fun hfailed => ⟨hfailed, hpart⟩⟩
    simp [hasked, hpart, hfailed, howner]
  · have hpart : part.states.contains name = false := by
      rw [← Bool.not_eq_true, SortedMap.contains_keys, h.mem_keys]
      exact fun hkeys => howner hkeys.2
    simp [hpart, howner]

end IsPartOf

/-- A batch of at least one name can be made; its head is the first entry. -/
theorem exists_batch {states : NameStates} (h : ∃ name, name ∈ states.keys) (policy : Policy) :
    ∃ name state, states.head? = some (name, state) ∧
      batch states policy = .ok { single name state policy with states } := by
  cases hhead : states.head? with
  | none =>
    obtain ⟨name, hname⟩ := h
    obtain ⟨state, hstate⟩ := SortedMap.mem_keys_iff.mp hname
    rw [SortedMap.head?_eq_none_iff.mp hhead name] at hstate
    cases hstate
  | some e =>
    refine ⟨e.1, e.2, rfl, ?_⟩
    unfold batch
    rw [hhead]

/-- The entries of all names of an owner are the entries that it owns. -/
theorem filter_names_eq {states : NameStates} {ring : HashRing} {node : NodeId}
    {names : SortedSet ServiceName}
    (hnames : ∀ name, name ∈ names ↔ name ∈ states.keys ∧ ring.owner name = node) :
    (states.filter fun name _ => names.contains name) =
      states.filter fun name _ => ring.owner name = node := by
  refine SortedMap.ext_get? fun name => ?_
  rw [SortedMap.get?_filter_of_key (fun name => names.contains name), get?_filter_owner]
  cases hget : states.get? name with
  | none => simp
  | some state =>
    have hkey : name ∈ states.keys := SortedMap.mem_keys_iff.mpr ⟨state, hget⟩
    have hcontains : names.contains name = decide (ring.owner name = node) := by
      rw [Bool.eq_iff_iff, SortedSet.contains_iff, decide_eq_true_iff, hnames]
      exact ⟨And.right, fun howner => ⟨hkey, howner⟩⟩
    simp only [hcontains, decide_eq_true_iff]

/-- The names of one owner make a part. -/
theorem exists_share {r : CreateRequest} {ring : HashRing} {node : NodeId}
    {names : SortedSet ServiceName}
    (hnames : ∀ name, name ∈ names ↔ name ∈ r.states.keys ∧ ring.owner name = node)
    (hsome : ∃ name, name ∈ names) :
    ∃ part, r.share names = .ok part ∧ IsPartOf r ring node part := by
  have hstates := filter_names_eq hnames
  have hkeys : ∀ name, name ∈ (r.states.filter fun name _ => names.contains name).keys ↔
      name ∈ names := by
    intro name
    rw [hstates, mem_keys_filter_owner, hnames]
  obtain ⟨first, hfirst⟩ := hsome
  obtain ⟨head, state, hhead, hbatch⟩ := exists_batch ⟨first, (hkeys first).mpr hfirst⟩ r.policy
  obtain ⟨hget, hleast⟩ := SortedMap.head?_eq_some_iff.mp hhead
  refine ⟨_, by simp only [share, hbatch]; rfl, ?_⟩
  exact {
    states_eq := hstates
    name_mem := SortedMap.mem_keys_iff.mpr ⟨state, hget⟩
    name_le := fun name hname => Std.not_lt.mp (hleast name hname)
    state_eq := hget.symm
    failed_eq := by
      refine SortedSet.ext_mem fun name => ?_
      rw [SortedSet.mem_filter, SortedSet.mem_filter, SortedSet.contains_iff,
        SortedMap.contains_keys]
      exact and_congr_right fun _ => (hkeys name).symm
    initGroup_eq := rfl
    policy_eq := rfl
    sender_eq := rfl
    isAnswer_eq := rfl }

/-- A loop that succeeds for each element succeeds, with the results in order. -/
theorem exists_mapM {α β ε : Type} {f : α → Except ε β} {R : α → β → Prop} {l : List α}
    (h : ∀ a ∈ l, ∃ b, f a = .ok b ∧ R a b) :
    ∃ out, l.mapM f = .ok out ∧ List.Forall₂ R l out := by
  induction l with
  | nil => exact ⟨[], rfl, .nil⟩
  | cons a rest ih =>
    obtain ⟨b, hb, hR⟩ := h a List.mem_cons_self
    obtain ⟨out, hout, hall⟩ := ih fun c hc => h c (List.mem_cons_of_mem a hc)
    refine ⟨b :: out, ?_, .cons hR hall⟩
    rw [List.mapM_cons, hb, hout]
    rfl

/-- What a loop returns comes from an element that it succeeds for. -/
theorem exists_of_mem_mapM {α β ε : Type} {f : α → Except ε β} {l : List α} {out : List β}
    (h : l.mapM f = .ok out) {b : β} (hb : b ∈ out) : ∃ a ∈ l, f a = .ok b := by
  induction l generalizing out with
  | nil =>
    cases h
    cases hb
  | cons a rest ih =>
    rw [List.mapM_cons] at h
    cases ha : f a with
    | error e =>
      rw [ha] at h
      cases h
    | ok first =>
      cases hrest : rest.mapM f with
      | error e =>
        rw [ha, hrest] at h
        cases h
      | ok later =>
        rw [ha, hrest] at h
        cases h
        rcases List.mem_cons.mp hb with rfl | hlater
        · exact ⟨a, List.mem_cons_self, ha⟩
        · obtain ⟨c, hc, hfc⟩ := ih hrest hlater
          exact ⟨c, List.mem_cons_of_mem a hc, hfc⟩

theorem exists_of_mem_forall₂ {α β : Type} {R : α → β → Prop} {l : List α} {out : List β}
    (h : List.Forall₂ R l out) {b : β} (hb : b ∈ out) : ∃ a ∈ l, R a b := by
  induction h with
  | nil => cases hb
  | cons hR _ ih =>
    rcases List.mem_cons.mp hb with rfl | hrest
    · exact ⟨_, List.mem_cons_self, hR⟩
    · obtain ⟨a, ha, hR'⟩ := ih hrest
      exact ⟨a, List.mem_cons_of_mem _ ha, hR'⟩

theorem map_eq_map_of_forall₂ {α β γ : Type} {R : α → β → Prop} {f : α → γ} {g : β → γ}
    {l : List α} {out : List β} (h : List.Forall₂ R l out) (hR : ∀ a b, R a b → f a = g b) :
    l.map f = out.map g := by
  induction h with
  | nil => rfl
  | cons hab _ ih => rw [List.map_cons, List.map_cons, hR _ _ hab, ih]

structure IsSplitOf (r : CreateRequest) (ring : HashRing)
    (parts : SortedMap NodeId CreateRequest) : Prop where
  mem_keys : ∀ node, node ∈ parts.keys ↔ ∃ name ∈ r.states.keys, ring.owner name = node
  isPartOf : ∀ node part, parts.get? node = some part → IsPartOf r ring node part

/-- The split of a batch has one part for each owner of a name. -/
theorem exists_split_of_batch {r : CreateRequest} (ring : HashRing) (hbatch : r.isBatch = true) :
    ∃ parts, r.split ring = .ok parts ∧ IsSplitOf r ring parts := by
  have hshare : ∀ e ∈ (ring.shares r.states.keys.toList).entries, ∃ keyed,
      (do
        let sub ← r.share e.2
        return (e.1, sub) : Except CreationError (NodeId × CreateRequest)) = .ok keyed ∧
      e.1 = keyed.1 ∧ IsPartOf r ring keyed.1 keyed.2 := by
    intro e he
    have hget := SortedMap.get?_eq_some_iff.mpr he
    obtain ⟨part, hpart, hspec⟩ := exists_share (HashRing.mem_of_get?_shares hget)
      (HashRing.exists_mem_of_get?_shares hget)
    refine ⟨(e.1, part), ?_, rfl, hspec⟩
    rw [hpart]
    rfl
  obtain ⟨out, hout, hall⟩ := exists_mapM hshare
  have hkeys : (ring.shares r.states.keys.toList).entries.map Prod.fst = out.map Prod.fst :=
    map_eq_map_of_forall₂ hall fun _ _ h => h.1
  have hnodup : (out.map Prod.fst).Nodup := by
    rw [← hkeys]
    exact SortedMap.nodup_keys _
  refine ⟨.ofList out, ?_, fun node => ?_, fun node part hget => ?_⟩
  · unfold split
    rw [if_pos hbatch, hout]
    rfl
  · have hmem : node ∈ (SortedMap.ofList out).keys ↔ node ∈ out.map Prod.fst := by
      rw [SortedMap.mem_keys_iff, List.mem_map]
      constructor
      · rintro ⟨part, hget⟩
        exact ⟨(node, part), (SortedMap.get?_ofList_eq_some_iff hnodup).mp hget, rfl⟩
      · rintro ⟨e, he, rfl⟩
        exact ⟨e.2, (SortedMap.get?_ofList_eq_some_iff hnodup).mpr he⟩
    rw [hmem, ← hkeys]
    have howners : (∃ names, (ring.shares r.states.keys.toList).get? node = some names) ↔
        ∃ name ∈ r.states.keys, ring.owner name = node := HashRing.exists_get?_shares_iff
    rw [← howners, ← SortedMap.mem_keys_iff]
    rfl
  · obtain ⟨e, -, -, hpart⟩ := exists_of_mem_forall₂ hall
      ((SortedMap.get?_ofList_eq_some_iff hnodup).mp hget)
    exact hpart

/-- What a split holds is a part of a batch, or a request for one name as it was. -/
theorem cases_of_split {r part : CreateRequest} {ring : HashRing}
    {parts : SortedMap NodeId CreateRequest} {node : NodeId} (h : r.split ring = .ok parts)
    (hget : parts.get? node = some part) :
    IsPartOf r ring node part ∨ r.isBatch = false ∧ part = r := by
  cases hbatch : r.isBatch with
  | true =>
    obtain ⟨parts', hparts, hsplit⟩ := exists_split_of_batch ring hbatch
    cases h.symm.trans hparts
    exact .inl (hsplit.isPartOf node part hget)
  | false =>
    unfold split at h
    rw [hbatch] at h
    cases h
    rw [SortedMap.get?_singleton] at hget
    split at hget
    · exact .inr ⟨rfl, (Option.some.inj hget).symm⟩
    · cases hget

/-- A part that is split again stays whole. -/
theorem split_of_isPartOf {r part : CreateRequest} {ring : HashRing} {node : NodeId}
    (h : IsPartOf r ring node part) : part.split ring = .ok (.singleton node part) := by
  obtain ⟨parts, hsplit, hkeys, hspec⟩ := exists_split_of_batch ring h.isBatch
  rw [hsplit]
  refine congrArg Except.ok (SortedMap.ext_get? fun other => ?_)
  rw [SortedMap.get?_singleton]
  cases hget : parts.get? other with
  | some part' =>
    have hother : other = node := by
      obtain ⟨name, hname, howner⟩ := (hkeys other).mp (SortedMap.mem_keys_iff.mpr ⟨part', hget⟩)
      rw [← howner]
      exact (h.mem_keys.mp hname).2
    subst hother
    rw [if_pos rfl, (hspec other part' hget).unique h.self]
  | none =>
    have hother : other ≠ node := by
      rintro rfl
      have howner := (h.mem_keys.mp h.name_mem).2
      obtain ⟨part', hpart'⟩ := SortedMap.mem_keys_iff.mp
        ((hkeys other).mpr ⟨part.name, h.name_mem, howner⟩)
      rw [hget] at hpart'
      cases hpart'
    rw [if_neg hother]

/-- Splitting always succeeds. A request for one name goes to its owner whole. A batch has a part
for exactly the owners of its names; the parts are described by `IsPartOf`, answer for their names
as the batch does, hold every entry once and nothing else, and stay whole when split again. -/
theorem split_partitions_by_owner (r : CreateRequest) (ring : HashRing) :
    ∃ parts, r.split ring = .ok parts ∧
      (r.isBatch = false → parts = .singleton (ring.owner r.name) r) ∧
      (r.isBatch = true →
        (∀ node, node ∈ parts.keys ↔ ∃ name ∈ r.states.keys, ring.owner name = node) ∧
        (∀ node part, parts.get? node = some part → IsPartOf r ring node part ∧
          ∀ name ∈ r.states.keys, part.outcome name =
            if ring.owner name = node then r.outcome name else .notInRequest) ∧
        (∀ name state, r.states.get? name = some state ↔
          ∃ node part, parts.get? node = some part ∧ part.states.get? name = some state) ∧
        ∀ node part node' part', parts.get? node = some part → parts.get? node' = some part' →
          (∃ name, name ∈ part.states.keys ∧ name ∈ part'.states.keys) → node = node') ∧
      ∀ node part, parts.get? node = some part → part.split ring = .ok (.singleton node part) := by
  cases hbatch : r.isBatch with
  | false =>
    have hsplit : r.split ring = .ok (.singleton (ring.owner r.name) r) := by
      unfold split
      rw [hbatch]
      rfl
    refine ⟨_, hsplit, fun _ => rfl, fun h => absurd h Bool.false_ne_true, fun node part hget => ?_⟩
    rw [SortedMap.get?_singleton] at hget
    split at hget
    · rename_i hnode
      cases hget
      rw [hnode]
      exact hsplit
    · cases hget
  | true =>
    obtain ⟨parts, hsplit, hkeys, hspec⟩ := exists_split_of_batch ring hbatch
    refine ⟨parts, hsplit, fun h => absurd h.symm Bool.false_ne_true, fun _ => ⟨hkeys, ?_, ?_, ?_⟩,
      fun node part hget => split_of_isPartOf (hspec node part hget)⟩
    · intro node part hget
      exact ⟨hspec node part hget, fun name hname => (hspec node part hget).outcome_eq hname hbatch⟩
    · intro name state
      constructor
      · intro hstate
        have hname := SortedMap.mem_keys_iff.mpr ⟨state, hstate⟩
        obtain ⟨part, hget⟩ := SortedMap.mem_keys_iff.mp
          ((hkeys (ring.owner name)).mpr ⟨name, hname, rfl⟩)
        refine ⟨ring.owner name, part, hget, ?_⟩
        rw [(hspec _ part hget).get?_states, if_pos rfl, hstate]
      · rintro ⟨node, part, hget, hstate⟩
        rw [(hspec node part hget).get?_states] at hstate
        split at hstate
        · exact hstate
        · cases hstate
    · rintro node part node' part' hget hget' ⟨name, hname, hname'⟩
      have howner := ((hspec node part hget).mem_keys.mp hname).2
      have howner' := ((hspec node' part' hget').mem_keys.mp hname').2
      exact howner.symm.trans howner'

end ServicePlacement.CreateRequest
