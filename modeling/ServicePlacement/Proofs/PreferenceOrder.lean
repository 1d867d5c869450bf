import ServicePlacement.Proofs.PlacementSelection

/-!
Which replicas a proposal prefers. Senders are ranked by their requests, equally frequent ones by
their texts, and a replica stands where the best sender at its address stands. The other replicas
follow, those of the current placement first. Where no two active replicas share an address, a
sender finds at most one replica, and the selection takes the first ones in this order, which is a
strict order of all active replicas.
-/
namespace ServicePlacement

def Cluster.ip? (c : Cluster) (id : NodeId) : Option IpAddress := (c.endpoint? id).map Endpoint.ip

def Cluster.AddressesDiffer (c : Cluster) : Prop :=
  ∀ a ∈ c.activeReplicas.toList, ∀ b ∈ c.activeReplicas.toList,
    (c.ip? a).isSome → c.ip? a = c.ip? b → a = b

instance (c : Cluster) : Decidable c.AddressesDiffer := by
  unfold Cluster.AddressesDiffer
  infer_instance

theorem Cluster.AddressesDiffer.eq_of_ip? {c : Cluster} (h : c.AddressesDiffer) {a b : NodeId}
    {ip : IpAddress} (ha : a ∈ c.activeReplicas) (hb : b ∈ c.activeReplicas)
    (haip : c.ip? a = some ip) (hbip : c.ip? b = some ip) : a = b :=
  h a ha b hb (by rw [haip]; rfl) (haip.trans hbip.symm)

namespace Demand.Placement

open Senders (Above)

variable {c : Cluster} {current : Placement} {es : List (String × UInt64)} {e f : String × UInt64}
  {id a b : NodeId}

def At (c : Cluster) (e : String × UInt64) (id : NodeId) : Prop :=
  ∃ ip, c.ip? id = some ip ∧ IpAddress.parse? e.1 = some ip

theorem At.eq_of_addressesDiffer (ha : At c e a) (hb : At c e b) (hdiffer : c.AddressesDiffer)
    (hamem : a ∈ c.activeReplicas) (hbmem : b ∈ c.activeReplicas) : a = b := by
  obtain ⟨ip, haip, hip⟩ := ha
  obtain ⟨ip', hbip, hip'⟩ := hb
  have heq : some ip = some ip' := hip.symm.trans hip'
  exact hdiffer.eq_of_ip? hamem hbmem haip (heq ▸ hbip)

structure Beside (c : Cluster) (es : List (String × UInt64)) (id : NodeId)
    (e : String × UInt64) : Prop where
  mem : e ∈ es
  isAt : At c e id
  above : ∀ f ∈ es, At c f id → f = e ∨ Above e f

theorem Beside.unique (he : Beside c es id e) (hf : Beside c es id f) : e = f := by
  rcases he.above f hf.mem hf.isAt with heq | habove
  · exact heq.symm
  · rcases hf.above e he.mem he.isAt with heq | hback
    · exact heq
    · exact absurd hback habove.asymm

theorem beside_cons_of_at (hsorted : (e :: es).Pairwise Above) (hat : At c e id) :
    Beside c (e :: es) id e where
  mem := List.mem_cons_self
  isAt := hat
  above f hf _ := by
    rcases List.mem_cons.mp hf with heq | hmem
    · exact .inl heq
    · exact .inr (List.rel_of_pairwise_cons hsorted hmem)

theorem beside_cons_iff (hat : ¬ At c e id) : Beside c (e :: es) id f ↔ Beside c es id f := by
  constructor
  · intro h
    have hne : f ≠ e := fun heq => hat (heq ▸ h.isAt)
    exact ⟨List.mem_of_ne_of_mem hne h.mem, h.isAt,
      fun g hg => h.above g (List.mem_cons_of_mem e hg)⟩
  · intro h
    refine ⟨List.mem_cons_of_mem e h.mem, h.isAt, fun g hg hgat => ?_⟩
    rcases List.mem_cons.mp hg with rfl | hmem
    · exact absurd hgat hat
    · exact h.above g hmem hgat

theorem exists_beside_cons (hsorted : (e :: es).Pairwise Above) :
    (∃ f, Beside c (e :: es) id f) ↔ At c e id ∨ ∃ f, Beside c es id f := by
  by_cases hat : At c e id
  · exact ⟨fun _ => .inl hat, fun _ => ⟨e, beside_cons_of_at hsorted hat⟩⟩
  · simp only [beside_cons_iff hat, hat, false_or]

def Busier (c : Cluster) (es : List (String × UInt64)) (a b : NodeId) : Prop :=
  ∃ e f, Beside c es a e ∧ Beside c es b f ∧ Above e f

inductive Before (c : Cluster) (s : Senders) (current : Placement) (a b : NodeId) : Prop
  | busier : Busier c s.entries a b → Before c s current a b
  | beside : (∃ e, Beside c s.entries a e) → (¬ ∃ f, Beside c s.entries b f) →
      Before c s current a b
  | kept : (¬ ∃ e, Beside c s.entries a e) → (¬ ∃ f, Beside c s.entries b f) →
      a ∈ current → b ∉ current → Before c s current a b
  | byId : (¬ ∃ e, Beside c s.entries a e) → (¬ ∃ f, Beside c s.entries b f) →
      (a ∈ current ↔ b ∈ current) → a < b → Before c s current a b

theorem Busier.exists_left (h : Busier c es a b) : ∃ e, Beside c es a e := by
  obtain ⟨e, -, he, -, -⟩ := h
  exact ⟨e, he⟩

theorem Busier.asymm (h : Busier c es a b) : ¬ Busier c es b a := by
  rintro ⟨f', e', hf', he', hback⟩
  obtain ⟨e, f, he, hf, habove⟩ := h
  rw [hf'.unique hf, he'.unique he] at hback
  exact habove.asymm hback

theorem Busier.ne (h : Busier c es a b) : a ≠ b := by
  rintro rfl
  exact h.asymm h

theorem Before.asymm {s : Senders} (h : Before c s current a b) : ¬ Before c s current b a := by
  intro hback
  cases h with
  | busier hbusier =>
    cases hback with
    | busier hbusier' => exact hbusier.asymm hbusier'
    | beside _ ha => exact ha hbusier.exists_left
    | kept _ ha _ _ => exact ha hbusier.exists_left
    | byId _ ha _ _ => exact ha hbusier.exists_left
  | beside ha hb =>
    cases hback with
    | busier hbusier => exact hb hbusier.exists_left
    | beside hb' _ => exact hb hb'
    | kept _ ha' _ _ => exact ha' ha
    | byId _ ha' _ _ => exact ha' ha
  | kept ha hb hin hout =>
    cases hback with
    | busier hbusier => exact hb hbusier.exists_left
    | beside hb' _ => exact hb hb'
    | kept _ _ hin' _ => exact hout hin'
    | byId _ _ hsame _ => exact hout (hsame.mpr hin)
  | byId ha hb hsame hless =>
    cases hback with
    | busier hbusier => exact hb hbusier.exists_left
    | beside hb' _ => exact hb hb'
    | kept _ _ hin hout => exact hout (hsame.mpr hin)
    | byId _ _ _ hless' => exact String.lt_asymm hless hless'

structure IsPreferenceOrder (c : Cluster) (s : Senders) (current : Placement)
    (order : List NodeId) : Prop where
  perm : order.Perm c.activeReplicas.toList
  pairwise : order.Pairwise (Before c s current)

theorem IsPreferenceOrder.unique {s : Senders} {order other : List NodeId}
    (h : IsPreferenceOrder c s current order) (h' : IsPreferenceOrder c s current other) :
    order = other :=
  List.Perm.eq_of_pairwise (fun _ _ _ _ hab hba => absurd hba hab.asymm) h.pairwise h'.pairwise
    (h.perm.trans h'.perm.symm)

theorem mem_chosen_of_localTo?_eq_none {chosen : Placement} {sender : IpAddress}
    (h : localTo? c chosen sender = none) (hid : id ∈ c.activeReplicas)
    (hip : c.ip? id = some sender) : id ∈ chosen := by
  have hskipped := List.find?_eq_none.mp h id hid
  by_contra hfresh
  refine hskipped ?_
  rw [Bool.and_eq_true, SortedSet.not_contains_iff, beq_iff_eq]
  exact ⟨hfresh, hip⟩

structure ArePicks (c : Cluster) (es : List (String × UInt64)) (chosen : Placement)
    (ids : List NodeId) : Prop where
  mem_iff : ∀ id, id ∈ ids ↔ id ∈ c.activeReplicas ∧ id ∉ chosen ∧ ∃ e, Beside c es id e
  pairwise : ids.Pairwise (Busier c es)

namespace ArePicks

variable {chosen : Placement} {ids : List NodeId}

/-- A sender at none of the picked replicas changes nothing between them. -/
theorem pairwise_cons (h : ids.Pairwise (Busier c es)) (hat : ∀ id ∈ ids, ¬ At c e id) :
    ids.Pairwise (Busier c (e :: es)) := by
  refine h.imp_of_mem fun {a b} ha hb hbusier => ?_
  obtain ⟨f, g, hf, hg, habove⟩ := hbusier
  exact ⟨f, g, (beside_cons_iff (hat a ha)).mpr hf, (beside_cons_iff (hat b hb)).mpr hg, habove⟩

/-- A further sender, above the others, at no replica that could be picked. -/
theorem skip (hsorted : (e :: es).Pairwise Above) (h : ArePicks c es chosen ids)
    (hat : ∀ id, id ∈ c.activeReplicas → id ∉ chosen → ¬ At c e id) :
    ArePicks c (e :: es) chosen ids where
  mem_iff id := by
    rw [h.mem_iff]
    refine and_congr_right fun hid => and_congr_right fun hfresh => ?_
    rw [exists_beside_cons hsorted, or_iff_right (hat id hid hfresh)]
  pairwise := by
    refine pairwise_cons h.pairwise fun id hid => ?_
    obtain ⟨hactive, hfresh, -⟩ := (h.mem_iff id).mp hid
    exact hat id hactive hfresh

/-- A further sender, above the others, at a replica that is picked first. -/
theorem pick (hdiffer : c.AddressesDiffer) (hsorted : (e :: es).Pairwise Above)
    (hactive : id ∈ c.activeReplicas) (hfresh : id ∉ chosen) (hat : At c e id)
    (h : ArePicks c es (chosen.insert id) ids) : ArePicks c (e :: es) chosen (id :: ids) := by
  have hother : ∀ j, j ∈ c.activeReplicas → j ≠ id → ¬ At c e j := fun j hj hne hjat =>
    hne (hjat.eq_of_addressesDiffer hat hdiffer hj hactive)
  have hids : ∀ j ∈ ids, ¬ At c e j := by
    intro j hj
    obtain ⟨hjactive, hjnew, -⟩ := (h.mem_iff j).mp hj
    exact hother j hjactive fun heq => hjnew (SortedSet.mem_insert.mpr (.inl heq))
  constructor
  · intro j
    rw [List.mem_cons, h.mem_iff, exists_beside_cons hsorted]
    by_cases hj : j = id
    · subst hj
      exact iff_of_true (.inl rfl) ⟨hactive, hfresh, .inl hat⟩
    · rw [or_iff_right hj, SortedSet.mem_insert, or_iff_right hj]
      refine and_congr_right fun hjactive => and_congr_right fun _ => ?_
      rw [or_iff_right (hother j hjactive hj)]
  · refine List.pairwise_cons.mpr ⟨fun j hj => ?_, pairwise_cons h.pairwise hids⟩
    obtain ⟨-, -, f, hf⟩ := (h.mem_iff j).mp hj
    exact ⟨e, f, beside_cons_of_at hsorted hat, (beside_cons_iff (hids j hj)).mpr hf,
      List.rel_of_pairwise_cons hsorted hf.mem⟩

end ArePicks

/-- The picks of ranked senders. -/
theorem arePicks_localPicks (hdiffer : c.AddressesDiffer) (hsorted : es.Pairwise Above)
    (chosen : Placement) :
    ArePicks c es chosen (localPicks c chosen (Senders.addresses es)) := by
  induction es generalizing chosen with
  | nil =>
    refine ⟨fun id => ⟨fun hid => absurd hid List.not_mem_nil, ?_⟩, List.Pairwise.nil⟩
    rintro ⟨-, -, e, he⟩
    exact absurd he.mem List.not_mem_nil
  | cons e rest ih =>
    have hrest := (List.pairwise_cons.mp hsorted).2
    unfold Senders.addresses
    cases hparse : IpAddress.parse? e.1 with
    | none =>
      rw [List.filterMap_cons_none (by exact hparse)]
      refine (ih hrest chosen).skip hsorted ?_
      rintro id - - ⟨ip, -, hip⟩
      rw [hparse] at hip
      cases hip
    | some sender =>
      rw [List.filterMap_cons_some (by exact hparse)]
      unfold localPicks
      cases hlocal : localTo? c chosen sender with
      | none =>
        refine (ih hrest chosen).skip hsorted ?_
        rintro id hid hfresh ⟨ip, hidip, hip⟩
        rw [hparse] at hip
        cases hip
        exact hfresh (mem_chosen_of_localTo?_eq_none hlocal hid hidip)
      | some first =>
        obtain ⟨hactive, hfresh, hip⟩ := localTo?_eq_some hlocal
        exact .pick hdiffer hsorted hactive hfresh ⟨sender, hip, hparse⟩
          (ih hrest (chosen.insert first))

theorem beside_byRank {s : Senders} : Beside c s.byRank id e ↔ Beside c s.entries id e := by
  constructor
  · rintro ⟨hmem, hat, habove⟩
    exact ⟨Senders.mem_byRank.mp hmem, hat, fun f hf => habove f (Senders.mem_byRank.mpr hf)⟩
  · rintro ⟨hmem, hat, habove⟩
    exact ⟨Senders.mem_byRank.mpr hmem, hat, fun f hf => habove f (Senders.mem_byRank.mp hf)⟩

theorem arePicks_ranked (hdiffer : c.AddressesDiffer) (s : Senders) :
    ArePicks c s.entries .empty (localPicks c .empty s.ranked) := by
  have hpicks := arePicks_localPicks hdiffer s.byRank_pairwise .empty
  rw [← Senders.ranked_eq] at hpicks
  refine ⟨fun id => ?_, hpicks.pairwise.imp ?_⟩
  · simp only [hpicks.mem_iff, beside_byRank]
  · rintro a b ⟨e, f, he, hf, habove⟩
    exact ⟨e, f, beside_byRank.mp he, beside_byRank.mp hf, habove⟩

/-- Those of the current placement come first, and both parts are in the order of identifiers. -/
theorem fillers_pairwise (c : Cluster) (current : Placement) :
    (fillers c current).Pairwise fun a b =>
      (a ∈ current ∧ b ∉ current) ∨ ((a ∈ current ↔ b ∈ current) ∧ a < b) := by
  have hkept : ∀ id ∈ current.toList.filter c.activeReplicas.contains, id ∈ current :=
    fun id hid => (List.mem_filter.mp hid).1
  have hother : ∀ id ∈ c.activeReplicas.toList.filter fun id => !current.contains id,
      id ∉ current :=
    fun id hid => SortedSet.not_contains_iff.mp (List.mem_filter.mp hid).2
  refine List.pairwise_append.mpr ⟨?_, ?_, fun a ha b hb => .inl ⟨hkept a ha, hother b hb⟩⟩
  · refine (current.sorted.filter _).imp_of_mem fun {a b} ha hb hless => .inr ⟨?_, hless⟩
    exact iff_of_true (hkept a ha) (hkept b hb)
  · refine (c.activeReplicas.sorted.filter _).imp_of_mem fun {a b} ha hb hless =>
      .inr ⟨?_, hless⟩
    exact iff_of_false (hother a ha) (hother b hb)

theorem nodup_fillers (c : Cluster) (current : Placement) : (fillers c current).Nodup := by
  refine (fillers_pairwise c current).imp fun {a b} hab heq => ?_
  subst heq
  rcases hab with ⟨hin, hout⟩ | ⟨-, hless⟩
  · exact hout hin
  · exact String.lt_irrefl a hless

/-- Where addresses differ, the selection takes replicas in the order in which they are preferred. -/
theorem isPreferenceOrder_selectionOrder (hdiffer : c.AddressesDiffer) (s : Senders)
    (current : Placement) :
    IsPreferenceOrder c s current (selectionOrder c current s.ranked) where
  perm := selectionOrder_perm c current s.ranked
  pairwise := by
    have hpicks := arePicks_ranked hdiffer s
    have hnodup : (localPicks c .empty s.ranked).Nodup := hpicks.pairwise.imp Busier.ne
    have hothers : ((fillers c current).removeAll (localPicks c .empty s.ranked)).Nodup :=
      (nodup_fillers c current).filter _
    have hbeside : ∀ id ∈ localPicks c .empty s.ranked, ∃ e, Beside c s.entries id e :=
      fun id hid => ((hpicks.mem_iff id).mp hid).2.2
    have hnone : ∀ id ∈ (fillers c current).removeAll (localPicks c .empty s.ranked),
        ¬ ∃ e, Beside c s.entries id e := by
      intro id hid hexists
      obtain ⟨hfill, hrest⟩ := List.mem_filter.mp hid
      have hpicked := (hpicks.mem_iff id).mpr
        ⟨mem_fillers.mp hfill, List.not_mem_nil, hexists⟩
      rw [List.elem_eq_true_of_mem hpicked] at hrest
      cases hrest
    unfold selectionOrder
    rw [List.eraseDups_append, eraseDups_of_nodup hnodup, eraseDups_of_nodup hothers]
    refine List.pairwise_append.mpr ⟨hpicks.pairwise.imp .busier, ?_, fun a ha b hb =>
      .beside (hbeside a ha) (hnone b hb)⟩
    refine ((fillers_pairwise c current).filter _).imp_of_mem fun {a b} ha hb hab => ?_
    rcases hab with ⟨hin, hout⟩ | ⟨hsame, hless⟩
    · exact .kept (hnone a ha) (hnone b hb) hin hout
    · exact .byId (hnone a ha) (hnone b hb) hsame hless

end Demand.Placement

namespace Demand.Profile

open Placement (IsPreferenceOrder)

/-- Where no two active replicas share an address, there is one order in which the active replicas
are preferred, and a proposal is made of the first ones, as many as the name has now, and at least
one, or of all. -/
theorem proposal_takes_preferred {name : ServiceName} {params : RateParams} {s : RateStats}
    {current q : Placement} {c : Cluster} {now : UInt64} (hdiffer : c.AddressesDiffer)
    (hsome : (rate name params s).propose current c now = some q) :
    ∃ order, IsPreferenceOrder c s.senders current order ∧
      (∀ other, IsPreferenceOrder c s.senders current other → other = order) ∧
      q = .ofList (order.take (max current.size 1)) := by
  have horder := Placement.isPreferenceOrder_selectionOrder hdiffer s.senders current
  obtain ⟨-, -, -, hbest, -⟩ := RateStats.propose_eq_some_iff.mp hsome
  rw [Placement.best_eq] at hbest
  exact ⟨_, horder, fun other hother => hother.unique horder, hbest.symm⟩

def spreadCluster : Cluster :=
  ((((Cluster.empty.withReplica "AR0" (some (.v4 ⟨10, 0, 0, 1⟩ 2000))).withReplica "AR1"
    none).withReplica "AR2" (some (.v6 sharedHost 2000 0))).withReplica "AR3"
    (some (.v4 ⟨10, 0, 0, 3⟩ 2000))).withReplica "AR4" (some (.v4 ⟨10, 0, 0, 4⟩ 2000))

def tiedSenders : RateStats where
  total := 22
  senders := .ofList
    [("somewhere", 9), ("10.0.0.1", 5), ("0:0:0:0:0:0:0:1", 5), ("::1", 3)]

theorem ranked_tiedSenders : tiedSenders.senders.ranked =
    [.v6 sharedHost, .v4 ⟨10, 0, 0, 1⟩, .v6 sharedHost] := by
  have hranked : tiedSenders.senders.ranked = Senders.addresses
      [("somewhere", 9), ("0:0:0:0:0:0:0:1", 5), ("10.0.0.1", 5), ("::1", 3)] :=
    Senders.ranked_eq_of_pairwise (by decide +kernel) (by decide)
  rw [hranked]
  decide +kernel

theorem proposal_takes_preferred_tied :
    let current : Placement := .ofList ["AR3", "AR4", "AR9"]
    let q : Placement := .ofList ["AR0", "AR2", "AR3"]
    let order := ["AR2", "AR0", "AR3", "AR4", "AR1"]
    spreadCluster.AddressesDiffer ∧
      (rate "a" { minRequests := 1 } tiedSenders).propose current spreadCluster 0 = some q ∧
      IsPreferenceOrder spreadCluster tiedSenders.senders current order ∧
      q = .ofList (order.take 3) := by
  intro current q order
  have hdiffer : spreadCluster.AddressesDiffer := by decide +kernel
  have hselected : Placement.best spreadCluster current tiedSenders.senders.ranked = q := by
    rw [ranked_tiedSenders]
    decide +kernel
  have hsome : (rate "a" { minRequests := 1 } tiedSenders).propose current spreadCluster 0 =
      some q :=
    RateStats.propose_eq_some_iff.mpr
      ⟨rfl, by decide, by decide +kernel, hselected, by decide +kernel⟩
  obtain ⟨found, hfound, hunique, hq⟩ := proposal_takes_preferred hdiffer hsome
  have hcomputed : Placement.selectionOrder spreadCluster current tiedSenders.senders.ranked =
      order := by
    rw [ranked_tiedSenders]
    decide +kernel
  have horder := Placement.isPreferenceOrder_selectionOrder hdiffer tiedSenders.senders current
  rw [hcomputed] at horder
  rw [← hunique order horder] at hq
  exact ⟨hdiffer, hsome, horder, hq⟩

end Demand.Profile

end ServicePlacement
