import ServicePlacement.HashRing
import ServicePlacement.Proofs.MapViews

/-!
The owner of a name is the node nearest to it. The tokens that nodes ask for are measured by their
clockwise distance from the name's own place, a tie going to the smaller node, and this order has
nothing to do with how the ring is built or walked. The walk around the ring visits the held
tokens in strictly ascending distance, which carries the proof across the one place where the
circle wraps.
-/
namespace ServicePlacement.HashRing

def clockwise (start stop : UInt64) : Nat := (stop - start).toNat

theorem clockwise_eq_emod (start stop : UInt64) :
    (clockwise start stop : Int) = ((stop.toNat : Int) - start.toNat) % 18446744073709551616 := by
  have hstart := start.toNat_lt
  have hstop := stop.toNat_lt
  unfold clockwise
  rw [UInt64.toNat_sub]
  omega

theorem clockwise_of_le {start stop : UInt64} (h : start ≤ stop) :
    clockwise start stop = stop.toNat - start.toNat := by
  have hstop := stop.toNat_lt
  rw [UInt64.le_iff_toNat_le] at h
  unfold clockwise
  rw [UInt64.toNat_sub]
  omega

theorem clockwise_of_lt {start stop : UInt64} (h : stop < start) :
    clockwise start stop = 18446744073709551616 - start.toNat + stop.toNat := by
  have hstart := start.toNat_lt
  rw [UInt64.lt_iff_toNat_lt] at h
  unfold clockwise
  rw [UInt64.toNat_sub]
  omega

theorem clockwise_self (place : UInt64) : clockwise place place = 0 := by
  rw [clockwise_of_le (UInt64.le_refl place), Nat.sub_self]

def AsksFor (nodes : List NodeId) (v : Nat) (place : UInt64) (node : NodeId) : Prop :=
  node ∈ nodes ∧ ∃ i < v, nodeToken node i = place

/-- Of all pairs of a node and a token that it asks for, in the order of distance and then of
nodes, the least one belongs to `node`. -/
def Nearest (nodes : List NodeId) (v : Nat) (place : UInt64) (node : NodeId) : Prop :=
  node ∈ nodes ∧ ∃ i < v, ∀ other ∈ nodes, ∀ j < v,
    clockwise place (nodeToken node i) < clockwise place (nodeToken other j) ∨
      clockwise place (nodeToken node i) = clockwise place (nodeToken other j) ∧ node ≤ other

/-- There is at most one nearest node. -/
theorem Nearest.unique {nodes : List NodeId} {v : Nat} {place : UInt64} {a b : NodeId}
    (ha : Nearest nodes v place a) (hb : Nearest nodes v place b) : a = b := by
  obtain ⟨hmem, i, hi, hleast⟩ := ha
  obtain ⟨hmem', j, hj, hleast'⟩ := hb
  rcases hleast b hmem' j hj with hlt | ⟨heq, hle⟩
  · rcases hleast' a hmem i hi with hlt' | ⟨heq', _⟩
    · omega
    · omega
  · rcases hleast' a hmem i hi with hlt' | ⟨_, hle'⟩
    · omega
    · exact Std.le_antisymm hle hle'

/-- The nearest node of some nodes is also the nearest of any fewer that it is among. -/
theorem Nearest.of_subset {nodes fewer : List NodeId} {v : Nat} {place : UInt64} {node : NodeId}
    (h : Nearest nodes v place node) (hsub : ∀ a ∈ fewer, a ∈ nodes) (hmem : node ∈ fewer) :
    Nearest fewer v place node := by
  obtain ⟨_, i, hi, hleast⟩ := h
  exact ⟨hmem, i, hi, fun other hother => hleast other (hsub other hother)⟩

theorem mem_claims {nodes : SortedSet NodeId} {v : Nat} {place : UInt64} {node : NodeId} :
    (place, node) ∈ claims nodes v ↔ AsksFor nodes.toList v place node := by
  unfold claims AsksFor
  rw [List.mem_flatMap]
  constructor
  · rintro ⟨a, ha, hpair⟩
    obtain ⟨i, hi, heq⟩ := List.mem_map.mp hpair
    cases heq
    exact ⟨ha, i, List.mem_range.mp hi, rfl⟩
  · rintro ⟨ha, i, hi, rfl⟩
    exact ⟨node, ha, List.mem_map.mpr ⟨i, List.mem_range.mpr hi, rfl⟩⟩

theorem claims_pairwise (nodes : SortedSet NodeId) (v : Nat) :
    (claims nodes v).Pairwise fun a b => a.2 ≤ b.2 := by
  unfold claims
  refine List.pairwise_flatMap.mpr ⟨fun node _ => ?_, nodes.sorted.imp fun {a b} hab => ?_⟩
  · refine List.pairwise_map.mpr (List.pairwise_of_forall fun _ _ => ?_)
    exact Std.le_refl node
  · intro x hx y hy
    obtain ⟨_, _, rfl⟩ := List.mem_map.mp hx
    obtain ⟨_, _, rfl⟩ := List.mem_map.mp hy
    exact Std.le_of_lt hab

/-- The first match of an ordered list is below all other matches. -/
private theorem find?_le_of_pairwise {α : Type} {R : α → α → Prop} {p : α → Bool} {l : List α}
    {a b : α} (h : l.Pairwise R) (hfind : l.find? p = some a) (hb : b ∈ l) (hp : p b = true)
    (hrefl : R a a) : R a b := by
  obtain ⟨_, before, after, rfl, hbefore⟩ := List.find?_eq_some_iff_append.mp hfind
  rcases List.mem_append.mp hb with hmem | hmem
  · have hnot := hbefore b hmem
    rw [hp] at hnot
    cases hnot
  · rcases List.mem_cons.mp hmem with rfl | hmem
    · exact hrefl
    · exact (List.pairwise_cons.mp (List.pairwise_append.mp h).2.1).1 b hmem

theorem find?_claims_of_get? {nodes : SortedSet NodeId} {v : Nat} {place : UInt64}
    {node : NodeId} (h : (tokensOf nodes v).get? place = some node) :
    (claims nodes v).find? (fun e => e.1 = place) = some (place, node) := by
  unfold tokensOf at h
  rw [SortedMap.get?_foldl_insertNew] at h
  obtain ⟨e, hfind, rfl⟩ := Option.map_eq_some_iff.mp h
  have hplace : e.1 = place := by
    have hmatch := List.find?_some hfind
    exact of_decide_eq_true hmatch
  rw [hfind, ← hplace]

/-- The holder of a token asks for it, and so does no smaller node. -/
theorem asksFor_of_get?_tokensOf {nodes : SortedSet NodeId} {v : Nat} {place : UInt64}
    {node : NodeId} (h : (tokensOf nodes v).get? place = some node) :
    AsksFor nodes.toList v place node ∧
      ∀ other, AsksFor nodes.toList v place other → node ≤ other := by
  have hfind := find?_claims_of_get? h
  refine ⟨mem_claims.mp (List.mem_of_find?_eq_some hfind), fun other hother => ?_⟩
  have hle := find?_le_of_pairwise (claims_pairwise nodes v) hfind (mem_claims.mpr hother)
    (decide_eq_true rfl) (Std.le_refl node)
  exact hle

/-- Every token that is asked for has a holder. -/
theorem exists_holder {nodes : SortedSet NodeId} {v : Nat} {place : UInt64} {node : NodeId}
    (h : AsksFor nodes.toList v place node) :
    ∃ holder, (tokensOf nodes v).get? place = some holder := by
  have hsome : ((claims nodes v).find? fun e => e.1 = place).isSome :=
    List.find?_isSome.mpr ⟨(place, node), mem_claims.mpr h, decide_eq_true rfl⟩
  obtain ⟨e, he⟩ := Option.isSome_iff_exists.mp hsome
  refine ⟨e.2, ?_⟩
  unfold tokensOf
  rw [SortedMap.get?_foldl_insertNew, he]
  rfl

def entriesFrom (r : HashRing) (place : UInt64) : List (UInt64 × NodeId) :=
  let isBefore (e : UInt64 × NodeId) : Bool := e.1 < place
  r.tokens.entries.dropWhile isBefore ++ r.tokens.entries.takeWhile isBefore

theorem walkFrom_eq_map (r : HashRing) (place : UInt64) :
    r.walkFrom place = (r.entriesFrom place).map Prod.snd := rfl

theorem mem_entriesFrom {r : HashRing} {place : UInt64} {e : UInt64 × NodeId} :
    e ∈ r.entriesFrom place ↔ e ∈ r.tokens.entries := by
  unfold entriesFrom
  rw [List.mem_append, or_comm, ← List.mem_append, List.takeWhile_append_dropWhile]

private theorem le_of_mem_dropWhile {l : List (UInt64 × NodeId)} {place : UInt64}
    {e : UInt64 × NodeId} (h : l.Pairwise fun a b => a.1 < b.1)
    (he : e ∈ l.dropWhile fun e => e.1 < place) : place ≤ e.1 := by
  induction l with
  | nil => cases he
  | cons a rest ih =>
    have ha := List.pairwise_cons.mp h
    by_cases hlt : a.1 < place
    · rw [List.dropWhile_cons_of_pos (by simpa using hlt)] at he
      exact ih ha.2 he
    · rw [List.dropWhile_cons_of_neg (by simpa using hlt)] at he
      have hle : place ≤ a.1 := UInt64.not_lt.mp hlt
      rcases List.mem_cons.mp he with rfl | hmem
      · exact hle
      · exact UInt64.le_trans hle (UInt64.le_of_lt (ha.1 e hmem))

/-- Going around the circle, the distance from the start grows at every token. -/
theorem entriesFrom_pairwise (r : HashRing) (place : UInt64) :
    (r.entriesFrom place).Pairwise fun a b => clockwise place a.1 < clockwise place b.1 := by
  have hsorted := r.tokens.sorted
  have hdrop : ∀ e ∈ r.tokens.entries.dropWhile (fun e => decide (e.1 < place)), place ≤ e.1 :=
    fun e he => le_of_mem_dropWhile hsorted he
  have htake : ∀ e ∈ r.tokens.entries.takeWhile (fun e => decide (e.1 < place)), e.1 < place :=
    fun e he => of_decide_eq_true (List.all_eq_true.mp List.all_takeWhile e he)
  refine List.pairwise_append.mpr ⟨?_, ?_, ?_⟩
  · refine List.Pairwise.imp_of_mem ?_ (hsorted.sublist (List.dropWhile_sublist _))
    intro a b ha hb hab
    rw [clockwise_of_le (hdrop a ha), clockwise_of_le (hdrop b hb)]
    have hle := UInt64.le_iff_toNat_le.mp (hdrop a ha)
    rw [UInt64.lt_iff_toNat_lt] at hab
    omega
  · refine List.Pairwise.imp_of_mem ?_ (hsorted.sublist (List.takeWhile_sublist _))
    intro a b ha hb hab
    rw [clockwise_of_lt (htake a ha), clockwise_of_lt (htake b hb)]
    rw [UInt64.lt_iff_toNat_lt] at hab
    omega
  · -- Past the last token the distance goes on growing at the first one.
    intro a ha b hb
    rw [clockwise_of_le (hdrop a ha), clockwise_of_lt (htake b hb)]
    have ha' := a.1.toNat_lt
    have hle := UInt64.le_iff_toNat_le.mp (hdrop a ha)
    omega

/-- The walk of a name is never empty, and it begins with the owner. -/
theorem head?_walk (r : HashRing) (name : ServiceName) :
    (r.walk name).head? = some (r.owner name) :=
  List.head?_eq_some_head (r.walkFrom_ne_nil (token name))

/-- A ring's walk begins with its owner's token, and all other tokens are farther away. -/
theorem exists_owner_token (r : HashRing) (name : ServiceName) :
    ∃ place rest, r.entriesFrom (token name) = (place, r.owner name) :: rest ∧
      ∀ e ∈ rest, clockwise (token name) place < clockwise (token name) e.1 := by
  have hpairwise := r.entriesFrom_pairwise (token name)
  have hwalk := r.walkFrom_eq_map (token name)
  cases hentries : r.entriesFrom (token name) with
  | nil =>
    rw [hentries] at hwalk
    exact absurd hwalk (r.walkFrom_ne_nil (token name))
  | cons e rest =>
    rw [hentries] at hpairwise hwalk
    have howner : r.owner name = e.2 := by
      have hhead : (r.walk name).head? = some e.2 := by
        unfold walk
        rw [hwalk]
        rfl
      exact Option.some.inj ((r.head?_walk name).symm.trans hhead)
    refine ⟨e.1, rest, ?_, (List.pairwise_cons.mp hpairwise).1⟩
    rw [howner]

/-- The owner of a name is the nearest node of the ring. -/
theorem nearest_owner (r : HashRing) (name : ServiceName) :
    Nearest r.nodes.toList r.virtualNodes.toNat (token name) (r.owner name) := by
  obtain ⟨place, rest, hentries, hrest⟩ := r.exists_owner_token name
  have hmem : (place, r.owner name) ∈ r.tokens.entries := by
    rw [← mem_entriesFrom, hentries]
    exact List.mem_cons_self
  have hget := SortedMap.get?_eq_some_iff.mpr hmem
  rw [r.tokens_eq] at hget
  obtain ⟨⟨howner, i, hi, hplace⟩, hleast⟩ := asksFor_of_get?_tokensOf hget
  refine ⟨howner, i, hi, fun other hother j hj => ?_⟩
  rw [hplace]
  obtain ⟨holder, hholder⟩ := exists_holder ⟨hother, j, hj, rfl⟩
  rw [← r.tokens_eq] at hholder
  have hheld : (nodeToken other j, holder) ∈ r.entriesFrom (token name) :=
    mem_entriesFrom.mpr (SortedMap.get?_eq_some_iff.mp hholder)
  rw [hentries] at hheld
  rcases List.mem_cons.mp hheld with heq | hmem'
  · -- The other node asks for the owner's token, which went to the smallest that asks for it.
    have hplace' : nodeToken other j = place := congrArg Prod.fst heq
    refine Or.inr ⟨by rw [hplace'], hleast other ⟨hother, j, hj, hplace'⟩⟩
  · have hfarther := hrest _ hmem'
    exact Or.inl hfarther

/-- A name whose place is a token belongs to the holder of that token. -/
theorem get?_tokens_of_asksFor {r : HashRing} {name : ServiceName} {node : NodeId}
    (h : AsksFor r.nodes.toList r.virtualNodes.toNat (token name) node) :
    r.tokens.get? (token name) = some (r.owner name) := by
  obtain ⟨place, rest, hentries, hrest⟩ := r.exists_owner_token name
  obtain ⟨holder, hholder⟩ := exists_holder h
  rw [← r.tokens_eq] at hholder
  have hheld : (token name, holder) ∈ r.entriesFrom (token name) :=
    mem_entriesFrom.mpr (SortedMap.get?_eq_some_iff.mp hholder)
  rw [hentries] at hheld
  rcases List.mem_cons.mp hheld with heq | hmem
  · rw [hholder, (Prod.mk.inj heq).2]
  · have hlt := hrest _ hmem
    rw [clockwise_self] at hlt
    exact absurd hlt (Nat.not_lt_zero _)

/-- A ring can be built of any nodes, at least one, with any positive number of tokens. -/
theorem exists_build {nodes : List NodeId} {v : UInt64} (hnodes : nodes ≠ [])
    (hv : 0 < v.toNat) :
    ∃ r, build nodes v = .ok r ∧ r.nodes = SortedSet.ofList nodes ∧ r.virtualNodes = v := by
  obtain ⟨node, hnode⟩ := List.exists_mem_of_ne_nil nodes hnodes
  have hset : (SortedSet.ofList nodes).toList ≠ [] :=
    List.ne_nil_of_mem (SortedSet.mem_def.mp (SortedSet.mem_ofList.mpr hnode))
  unfold build
  rw [dif_pos hv]
  exact ⟨_, dif_pos hset, rfl, rfl⟩

/-- Neither the order nor the repetition of the nodes matters to the ring. -/
theorem build_congr {nodes nodes' : List NodeId} (h : ∀ node, node ∈ nodes' ↔ node ∈ nodes)
    (v : UInt64) : build nodes' v = build nodes v := by
  have hset : SortedSet.ofList nodes' = SortedSet.ofList nodes := by
    refine SortedSet.ext_mem fun node => ?_
    rw [SortedSet.mem_ofList, SortedSet.mem_ofList, h]
  simp only [build, hset]

/-- The owner on a ring built of `nodes` is the nearest of them. -/
theorem nearest_owner_of_build {nodes : List NodeId} {v : UInt64} {r : HashRing}
    (hset : r.nodes = SortedSet.ofList nodes) (hv : r.virtualNodes = v) (name : ServiceName) :
    Nearest nodes v.toNat (token name) (r.owner name) := by
  have hmem : ∀ node, node ∈ r.nodes.toList ↔ node ∈ nodes := by
    intro node
    rw [hset, ← SortedSet.mem_def, SortedSet.mem_ofList]
  have hnearest := r.nearest_owner name
  rw [hv] at hnearest
  exact hnearest.of_subset (fun node hnode => (hmem node).mpr hnode)
    ((hmem _).mp hnearest.1)

/-- Ownership has its declarative meaning on every ring that can be built: the walk is never
empty, the owner is the nearest node, a name on a token belongs to it, and only the set of the
given nodes counts. -/
theorem owner_eq_iff_nearest (nodes : List NodeId) (v : UInt64) (name : ServiceName)
    (hnodes : nodes ≠ []) (hv : 0 < v.toNat) :
    ∃ r, build nodes v = .ok r ∧
      (r.walk name).head? = some (r.owner name) ∧
      (∀ node, r.owner name = node ↔ Nearest nodes v.toNat (token name) node) ∧
      (∀ node, AsksFor nodes v.toNat (token name) node →
        r.tokens.get? (token name) = some (r.owner name)) ∧
      ∀ nodes', (∀ node, node ∈ nodes' ↔ node ∈ nodes) → build nodes' v = .ok r := by
  obtain ⟨r, hbuild, hset, hvirtual⟩ := exists_build hnodes hv
  have hnearest := nearest_owner_of_build hset hvirtual name
  refine ⟨r, hbuild, r.head?_walk name, fun node => ⟨?_, hnearest.unique⟩, ?_, ?_⟩
  · rintro rfl
    exact hnearest
  · rintro node ⟨hmem, hasks⟩
    rw [← SortedSet.mem_ofList, ← hset] at hmem
    rw [← hvirtual] at hasks
    exact get?_tokens_of_asksFor ⟨hmem, hasks⟩
  · intro nodes' h
    rw [build_congr h, hbuild]

/-- Two nodes given out of order and one of them twice. The name lies behind the last token, so
the nearest one is the first on the circle. -/
theorem owner_eq_iff_nearest_wrapping :
    ["RC1", "RC0", "RC1"] ≠ [] ∧ 0 < (2 : UInt64).toNat ∧
      ∃ r, build ["RC1", "RC0", "RC1"] 2 = .ok r ∧ r.owner "svc7" = "RC1" ∧
        Nearest ["RC1", "RC0", "RC1"] 2 (token "svc7") "RC1" := by
  refine ⟨by decide, by decide, ?_⟩
  obtain ⟨r, hbuild, _, howner, _⟩ :=
    owner_eq_iff_nearest ["RC1", "RC0", "RC1"] 2 "svc7" (by decide) (by decide)
  have hcomputed : (build ["RC1", "RC0", "RC1"] 2).toOption.map (fun r => r.owner "svc7") =
      some "RC1" := by decide +kernel
  rw [hbuild] at hcomputed
  have howner' : r.owner "svc7" = "RC1" := Option.some.inj hcomputed
  exact ⟨r, hbuild, howner', (howner "RC1").mp howner'⟩

end ServicePlacement.HashRing
