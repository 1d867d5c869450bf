import ServicePlacement.Proofs.BatchCutting
import ServicePlacement.Proofs.SplitAnswer

/-!
Batches by owner. Grouping the entries of a map by their owners gives what the parts of a batch of
the map hold (`IsSplitOf.statesByOwner_eq`), so that cutting the groups is cutting the parts. The
parts hold every entry once, and so do their cuts; a batch has names of one owner, because it is
cut from one part.
-/
namespace ServicePlacement.CreateRequest

/-- What an owner looks after of a map; an owner of no name has nothing. -/
theorem get?_statesByOwner (states : NameStates) (ring : HashRing) (node : NodeId) :
    (statesByOwner states ring).get? node =
      if (states.filter fun name _ => ring.owner name = node).entries = [] then none
      else some (states.filter fun name _ => ring.owner name = node) := by
  have hgroup : (statesByOwner states ring).get? node =
      if (states.filter fun name _ => ring.owner name = node).entries = [] then none
      else some (.ofList (states.filter fun name _ => ring.owner name = node).entries) :=
    SortedMap.get?_foldl_group (fun e : ServiceName × String => ring.owner e.1)
      (fun (own : NameStates) e => own.insert e.1 e.2) .empty states.entries node
  rwa [SortedMap.ofList_entries] at hgroup

section

variable {r part : CreateRequest} {ring : HashRing} {node : NodeId}

theorem IsPartOf.mem_entries (h : IsPartOf r ring node part) {e : ServiceName × String} :
    e ∈ part.states.entries ↔ e ∈ r.states.entries ∧ ring.owner e.1 = node := by
  have hfilter : e ∈ part.states.entries ↔
      e ∈ r.states.entries ∧ decide (ring.owner e.1 = node) = true := by
    rw [h.states_eq]
    exact List.mem_filter
  rwa [decide_eq_true_iff] at hfilter

theorem IsPartOf.size_le (h : IsPartOf r ring node part) : part.states.size ≤ r.states.size := by
  rw [h.states_eq]
  exact List.length_filter_le _ _

/-- A part of a fresh batch is the batch of its own names. -/
theorem IsPartOf.batch_eq {states : NameStates} {policy : Policy} (h : IsPartOf r ring node part)
    (hr : batch states policy = .ok r) : batch part.states policy = .ok part := by
  obtain ⟨-, hfailed, hpolicy, hsender, hanswer⟩ := fresh_of_batch hr
  obtain ⟨state, hhead, hstate⟩ := h.exists_head
  have hinit' := h.initGroup_eq
  have hpolicy' := h.policy_eq.trans hpolicy
  have hsender' := h.sender_eq.trans hsender
  have hanswer' := h.isAnswer_eq.trans hanswer
  have hfailed' : part.failed = .empty := by
    rw [h.failed_eq, hfailed]
    rfl
  unfold batch
  rw [hhead, ← hpolicy']
  cases part
  cases hstate
  cases hinit'
  cases hsender'
  cases hanswer'
  cases hfailed'
  rfl

end

namespace IsSplitOf

variable {r : CreateRequest} {ring : HashRing} {parts : SortedMap NodeId CreateRequest}

theorem isPartOf_of_mem (h : IsSplitOf r ring parts) {e : NodeId × CreateRequest}
    (he : e ∈ parts.entries) : IsPartOf r ring e.1 e.2 :=
  h.isPartOf e.1 e.2 (SortedMap.get?_eq_some_iff.mpr he)

/-- The owners look after what the parts hold. -/
theorem statesByOwner_eq (h : IsSplitOf r ring parts) :
    statesByOwner r.states ring = parts.mapValues fun _ part => part.states := by
  refine SortedMap.ext_get? fun node => ?_
  rw [get?_statesByOwner, SortedMap.get?_mapValues]
  cases hget : parts.get? node with
  | some part =>
    have hpart := h.isPartOf node part hget
    obtain ⟨state, hhead, -⟩ := hpart.exists_head
    have hne : part.states.entries ≠ [] := by
      intro hnil
      have hnone : part.states.head? = none := congrArg List.head? hnil
      rw [hnone] at hhead
      cases hhead
    rw [hpart.states_eq] at hne
    rw [if_neg hne, ← hpart.states_eq]
    rfl
  | none =>
    have hnil : (r.states.filter fun name _ => ring.owner name = node).entries = [] := by
      refine List.eq_nil_iff_forall_not_mem.mpr fun e he => ?_
      obtain ⟨hmem, howner⟩ := List.mem_filter.mp he
      have hname : e.1 ∈ r.states.keys := List.mem_map_of_mem hmem
      obtain ⟨part, hpart⟩ := SortedMap.mem_keys_iff.mp
        ((h.mem_keys node).mpr ⟨e.1, hname, of_decide_eq_true howner⟩)
      rw [hget] at hpart
      cases hpart
    rw [if_pos hnil]
    rfl

/-- The parts hold every entry once. -/
theorem perm_entries (h : IsSplitOf r ring parts) :
    (parts.entries.flatMap fun e => e.2.states.entries).Perm r.states.entries := by
  have hnodup : (parts.entries.flatMap fun e => e.2.states.entries).Nodup := by
    refine List.nodup_flatMap.mpr ⟨fun e _ => e.2.states.nodup_entries, ?_⟩
    refine parts.sorted.imp_of_mem fun {a b} ha hb hlt e hea heb => ?_
    -- an entry of two parts would have two owners
    have howner := ((h.isPartOf_of_mem ha).mem_entries.mp hea).2
    have howner' := ((h.isPartOf_of_mem hb).mem_entries.mp heb).2
    have hsame : a.1 = b.1 := howner.symm.trans howner'
    rw [hsame] at hlt
    exact Std.lt_irrefl hlt
  refine (List.perm_ext_iff_of_nodup hnodup r.states.nodup_entries).mpr fun e => ?_
  rw [List.mem_flatMap]
  constructor
  · rintro ⟨a, ha, hea⟩
    exact ((h.isPartOf_of_mem ha).mem_entries.mp hea).1
  · intro he
    have hname : e.1 ∈ r.states.keys := List.mem_map_of_mem he
    obtain ⟨part, hget⟩ := SortedMap.mem_keys_iff.mp
      ((h.mem_keys (ring.owner e.1)).mpr ⟨e.1, hname, rfl⟩)
    have hpart := h.isPartOf _ _ hget
    exact ⟨_, SortedMap.get?_eq_some_iff.mp hget, hpart.mem_entries.mpr ⟨he, rfl⟩⟩

end IsSplitOf

/-- An entry is listed as often as there are batches that hold it. -/
theorem count_flatMap_entries (bs : List CreateRequest) (e : ServiceName × String) :
    (bs.flatMap fun b => b.states.entries).count e =
      bs.countP fun b => b.states.get? e.1 = some e.2 := by
  induction bs with
  | nil => rfl
  | cons b rest ih =>
    have hcount : b.states.entries.count e =
        if decide (b.states.get? e.1 = some e.2) = true then 1 else 0 := by
      rw [b.states.nodup_entries.count]
      refine if_congr ?_ rfl rfl
      rw [decide_eq_true_iff]
      exact SortedMap.get?_eq_some_iff.symm
    rw [List.flatMap_cons, List.count_append, ih, hcount, List.countP_cons, Nat.add_comm]

structure AreOwnerBatches (states : NameStates) (size : Nat) (ring : HashRing)
    (bs : List CreateRequest) : Prop where
  perm_entries : (bs.flatMap fun b => b.states.entries).Perm states.entries
  size_states : ∀ b ∈ bs, 1 ≤ b.states.size ∧ b.states.size ≤ size
  one_owner : ∀ b ∈ bs, ∃ node, ∀ e ∈ b.states.entries, ring.owner e.1 = node

namespace AreOwnerBatches

variable {states : NameStates} {size : Nat} {ring : HashRing} {bs : List CreateRequest}
  {b : CreateRequest}

theorem size_eq (h : AreOwnerBatches states size ring bs) (hb : b ∈ bs) :
    b.size = b.states.size := by
  unfold CreateRequest.size
  rw [if_pos (isBatch_of_size_pos (h.size_states b hb).1)]

theorem names_eq (h : AreOwnerBatches states size ring bs) (hb : b ∈ bs) :
    b.names = b.states.keys := by
  unfold names
  rw [if_pos (isBatch_of_size_pos (h.size_states b hb).1)]

theorem exists_owner (h : AreOwnerBatches states size ring bs) (hb : b ∈ bs) :
    ∃ node, ∀ name ∈ b.names, ring.owner name = node := by
  obtain ⟨node, hnode⟩ := h.one_owner b hb
  refine ⟨node, fun name hname => ?_⟩
  rw [h.names_eq hb] at hname
  obtain ⟨e, he, rfl⟩ := List.mem_map.mp hname
  exact hnode e he

theorem mem_entries (h : AreOwnerBatches states size ring bs) {e : ServiceName × String} :
    (∃ b ∈ bs, e ∈ b.states.entries) ↔ e ∈ states.entries := by
  rw [← h.perm_entries.mem_iff, List.mem_flatMap]

/-- Every entry of the map is in one batch, and in one only. -/
theorem countP_eq_one (h : AreOwnerBatches states size ring bs) {name : ServiceName}
    {state : String} (hget : states.get? name = some state) :
    (bs.countP fun b => b.states.get? name = some state) = 1 := by
  have hmem := SortedMap.get?_eq_some_iff.mp hget
  have hcount := h.perm_entries.count_eq (name, state)
  rw [count_flatMap_entries, states.nodup_entries.count, if_pos hmem] at hcount
  exact hcount

/-- The owners of all batches are the owners of the names. -/
theorem owners_eq (h : AreOwnerBatches states size ring bs) :
    owners bs ring = .ofList (states.keys.toList.map ring.owner) := by
  refine SortedSet.ext_mem fun node => ?_
  unfold owners
  rw [SortedSet.mem_ofList, SortedSet.mem_ofList, List.mem_map, List.mem_map]
  refine exists_congr fun name => and_congr_left fun _ => ?_
  rw [List.mem_flatMap]
  constructor
  · rintro ⟨b, hb, hname⟩
    rw [h.names_eq hb] at hname
    obtain ⟨e, he, rfl⟩ := List.mem_map.mp hname
    exact List.mem_map_of_mem (h.mem_entries.mp ⟨b, hb, he⟩)
  · intro hname
    obtain ⟨e, he, rfl⟩ := List.mem_map.mp hname
    obtain ⟨b, hb, he'⟩ := h.mem_entries.mpr he
    refine ⟨b, hb, ?_⟩
    rw [h.names_eq hb]
    exact List.mem_map_of_mem he'

/-- What is cut from the parts of a batch holds its entries once, by owner. -/
theorem of_cuts {r : CreateRequest} {parts : SortedMap NodeId CreateRequest} {policy : Policy}
    {cuts : List (List CreateRequest)} (hsize : 0 < size) (h : IsSplitOf r ring parts)
    (hcuts : List.Forall₂ (fun e bs => IsCutOf size policy e.2.states bs) parts.entries cuts) :
    AreOwnerBatches r.states size ring cuts.flatten := by
  have hsource : ∀ b ∈ cuts.flatten, ∃ e ∈ parts.entries, ∃ bs,
      IsCutOf size policy e.2.states bs ∧ b ∈ bs := by
    intro b hb
    obtain ⟨bs, hbs, hmem⟩ := List.mem_flatten.mp hb
    obtain ⟨e, he, hcut⟩ := exists_of_mem_forall₂ hcuts hbs
    exact ⟨e, he, bs, hcut, hmem⟩
  refine ⟨?_, fun b hb => ?_, fun b hb => ?_⟩
  · rw [flatMap_entries_flatten hsize hcuts]
    exact h.perm_entries
  · obtain ⟨e, he, bs, hcut, hmem⟩ := hsource b hb
    exact hcut.size_states hsize hmem
  · obtain ⟨e, he, bs, hcut, hmem⟩ := hsource b hb
    refine ⟨e.1, fun a ha => ?_⟩
    have hpart : a ∈ e.2.states.entries := by
      rw [← hcut.flatMap_entries hsize]
      exact List.mem_flatMap.mpr ⟨b, hmem, ha⟩
    exact ((h.isPartOf_of_mem he).mem_entries.mp hpart).2

end AreOwnerBatches

/-- Cutting by owner is splitting and then cutting the parts. -/
theorem batchesByOwner_of_isSplitOf {r : CreateRequest} {ring : HashRing} {size : Nat}
    {parts : SortedMap NodeId CreateRequest} (hsize : 0 < size) (h : IsSplitOf r ring parts)
    (policy : Policy) :
    batchesByOwner r.states size policy ring =
      (parts.entries.mapM fun e => batches e.2.states size policy).map List.flatten := by
  have hgroups : (statesByOwner r.states ring).entries =
      parts.entries.map fun e => (e.1, e.2.states) := by
    rw [h.statesByOwner_eq]
    rfl
  unfold batchesByOwner
  rw [if_neg (by omega), hgroups, List.mapM_map]
  exact bind_pure_comp List.flatten _

/-- The parts that a map is cut into by owner: those of its batch, none where there is no name. -/
theorem exists_parts (states : NameStates) (policy : Policy) (ring : HashRing) :
    ∃ r parts, r.states = states ∧ IsSplitOf r ring parts ∧
      (∀ e ∈ parts.entries, batch e.2.states policy = .ok e.2) ∧
      (states.isEmpty = true → parts.entries = []) ∧
      (states.isEmpty = false → batch states policy = .ok r ∧ r.split ring = .ok parts) := by
  cases hempty : states.isEmpty with
  | true =>
    have hnone : ∀ name, name ∉ states.keys := by
      intro name hname
      obtain ⟨state, hget⟩ := SortedMap.mem_keys_iff.mp hname
      rw [SortedMap.isEmpty_iff.mp hempty] at hget
      cases hget
    refine ⟨{ single "" "" policy with states }, .empty, rfl, ⟨fun node => ?_, ?_⟩, ?_,
      fun _ => rfl, fun h => absurd h.symm Bool.false_ne_true⟩
    · constructor
      · intro hnode
        cases hnode
      · rintro ⟨name, hname, -⟩
        exact absurd hname (hnone name)
    · intro node part hget
      cases hget
    · intro e he
      cases he
  | false =>
    obtain ⟨e, he⟩ := List.exists_mem_of_ne_nil _ (List.isEmpty_eq_false_iff.mp hempty)
    have hname : e.1 ∈ states.keys := List.mem_map_of_mem he
    obtain ⟨name, state, -, hwhole⟩ := exists_batch ⟨e.1, hname⟩ policy
    obtain ⟨parts, hparts, hsplit⟩ := exists_split_of_batch ring
      (r := { single name state policy with states }) (isBatch_of_mem_keys hname)
    exact ⟨_, parts, rfl, hsplit, fun a ha => (hsplit.isPartOf_of_mem ha).batch_eq hwhole,
      fun h => absurd h Bool.false_ne_true, fun _ => ⟨hwhole, hparts⟩⟩

/-- The two ways to cut a map agree. Batches by owner can always be made, and they are the cuts of
the parts of the one batch of the map, in the order of the owners; where the map has room in one
batch they are those parts. No batch has names of two owners, none is empty or too large, every
entry is in exactly one of them, and together they have the owners of the map. -/
theorem batchesByOwner_eq_cuts_of_split (states : NameStates) (size : Nat) (policy : Policy)
    (ring : HashRing) (hsize : 0 < size) :
    ∃ parts cuts bs, batchesByOwner states size policy ring = .ok bs ∧
      (states.isEmpty = true → bs = []) ∧
      (states.isEmpty = false →
        ∃ r, batch states policy = .ok r ∧ r.split ring = .ok parts) ∧
      (parts.entries.mapM fun e => batches e.2.states size policy) = .ok cuts ∧
      bs = cuts.flatten ∧
      bs.length = (parts.entries.map fun e => (e.2.states.size + size - 1) / size).sum ∧
      (states.size ≤ size → bs = parts.entries.map Prod.snd) ∧
      (∀ b ∈ bs, ∃ node, ∀ name ∈ b.names, ring.owner name = node) ∧
      (∀ b ∈ bs, 1 ≤ b.size ∧ b.size ≤ size) ∧
      (∀ name state, states.get? name = some state →
        (bs.countP fun b => b.states.get? name = some state) = 1) ∧
      (∀ b ∈ bs, ∀ name state, b.states.get? name = some state →
        states.get? name = some state) ∧
      owners bs ring = .ofList (states.keys.toList.map ring.owner) := by
  obtain ⟨r, parts, rfl, hsplit, hwhole, hnone, hsome⟩ := exists_parts states policy ring
  obtain ⟨cuts, hcuts, hall⟩ := exists_mapM fun (e : NodeId × CreateRequest)
    (_ : e ∈ parts.entries) => exists_batches hsize e.2.states policy
  have hbs := AreOwnerBatches.of_cuts hsize hsplit hall
  refine ⟨parts, cuts, cuts.flatten, ?_, fun hempty => ?_, fun hempty => ⟨r, hsome hempty⟩, hcuts,
    rfl, length_flatten_cuts hsize hall, fun hroom => ?_, fun b hb => hbs.exists_owner hb,
    fun b hb => ?_, fun name state hget => hbs.countP_eq_one hget,
    fun b hb name state hget => ?_, hbs.owners_eq⟩
  · rw [batchesByOwner_of_isSplitOf hsize hsplit, hcuts]
    rfl
  · rw [hnone hempty] at hcuts
    cases hcuts
    rfl
  · refine flatten_cuts_eq_map hsize hall (fun e he => ?_) hwhole
    exact Nat.le_trans (hsplit.isPartOf_of_mem he).size_le hroom
  · rw [hbs.size_eq hb]
    exact hbs.size_states b hb
  · apply SortedMap.get?_eq_some_iff.mpr
    exact hbs.mem_entries.mp ⟨b, hb, SortedMap.get?_eq_some_iff.mp hget⟩

/-- Two names of two owners: there is room for both in one batch, but each gets its own, and the
owner of the later name comes first. -/
theorem batchesByOwner_eq_cuts_of_split_two :
    0 < 2 ∧ twoNames.states.isEmpty = false ∧ twoNames.states.size ≤ 2 ∧
      ∃ ring parts bs, HashRing.build ["RC1", "RC0"] 2 = .ok ring ∧
        twoNames.split ring = .ok parts ∧
        batchesByOwner twoNames.states 2 .standard ring = .ok bs ∧
        bs = parts.entries.map Prod.snd ∧ bs.map (·.name) = ["svc3", "svc0"] := by
  have hnodes : ["RC1", "RC0"] ≠ [] := List.cons_ne_nil _ _
  have htokens : 0 < (2 : UInt64).toNat := by decide
  have hnames : twoNames.states.isEmpty = false := by rfl
  have hroom : twoNames.states.size ≤ 2 := by decide
  obtain ⟨ring, hring, -, -⟩ := HashRing.exists_build hnodes htokens
  obtain ⟨parts, cuts, bs, hbs, -, hwhole, -, -, -, hparts, -⟩ :=
    batchesByOwner_eq_cuts_of_split twoNames.states 2 .standard ring (by decide)
  obtain ⟨r, hr, hsplit⟩ := hwhole hnames
  have hsame : batch twoNames.states .standard = .ok twoNames := by rfl
  rw [hsame] at hr
  cases hr
  have hcomputed : (HashRing.build ["RC1", "RC0"] 2).toOption.bind (fun ring =>
      (batchesByOwner twoNames.states 2 .standard ring).toOption.map fun bs =>
        bs.map (·.name)) = some ["svc3", "svc0"] := by decide +kernel
  rw [hring] at hcomputed
  change (batchesByOwner twoNames.states 2 .standard ring).toOption.map _ = _ at hcomputed
  rw [hbs] at hcomputed
  exact ⟨by decide, hnames, hroom, ring, parts, bs, hring, hsplit, hbs, hparts hroom,
    Option.some.inj hcomputed⟩

end ServicePlacement.CreateRequest
