import ServicePlacement.Proofs.RingWalks
import ServicePlacement.Text.Digits

/-!
Groups under a change of membership. As long as different token texts have different tokens, every
node holds each token that it asks for. Leaving nodes out of the ring then leaves their tokens out
of every walk and changes nothing else (`Restricts.walk_eq`), and a group is made of the first
occurrences in a walk, which can be filtered before or after.
-/
namespace ServicePlacement.HashRing

def tokenText (node : NodeId) (i : Nat) : String := node ++ "#" ++ toString i

def TokensDiffer (nodes : List NodeId) (v : Nat) : Prop :=
  ∀ a ∈ nodes, ∀ i < v, ∀ b ∈ nodes, ∀ j < v,
    tokenText a i ≠ tokenText b j → nodeToken a i ≠ nodeToken b j

instance (nodes : List NodeId) (v : Nat) : Decidable (TokensDiffer nodes v) := by
  unfold TokensDiffer
  infer_instance

/-- What stands before the last separator is determined, also where it has separators itself. -/
theorem eq_of_append_separator {c : Char} {as bs xs ys : List Char} (hx : c ∉ xs) (hy : c ∉ ys)
    (h : as ++ c :: xs = bs ++ c :: ys) : as = bs := by
  rcases List.append_eq_append_iff.mp h with ⟨cs, rfl, hrest⟩ | ⟨cs, rfl, hrest⟩
  · cases cs with
    | nil => exact (List.append_nil as).symm
    | cons d ds =>
      have hxs := (List.cons.inj hrest).2
      rw [hxs] at hx
      exact absurd (List.mem_append_right ds List.mem_cons_self) hx
  · cases cs with
    | nil => exact List.append_nil bs
    | cons d ds =>
      have hys := (List.cons.inj hrest).2
      rw [hys] at hy
      exact absurd (List.mem_append_right ds List.mem_cons_self) hy

theorem toList_tokenText (node : NodeId) (i : Nat) :
    (tokenText node i).toList = node.toList ++ '#' :: Nat.toDigits 10 i := by
  simp [tokenText, Nat.toString_eq_repr, Nat.toList_repr]

/-- The number of a token has no separator, so a token text is that of one node only. -/
theorem node_eq_of_tokenText_eq {a b : NodeId} {i j : Nat} (h : tokenText a i = tokenText b j) :
    a = b := by
  have hnumber (n : Nat) : '#' ∉ Nat.toDigits 10 n :=
    Text.not_mem_toDigits (by decide) (by decide) n rfl
  have hlists := congrArg String.toList h
  rw [toList_tokenText, toList_tokenText] at hlists
  exact String.toList_inj.mp (eq_of_append_separator (hnumber i) (hnumber j) hlists)

section

variable {nodes : SortedSet NodeId} {v : Nat} {place : UInt64} {a b : NodeId}

/-- Only one node asks for a token. -/
theorem TokensDiffer.eq_of_asksFor (h : TokensDiffer nodes.toList v)
    (ha : AsksFor nodes.toList v place a) (hb : AsksFor nodes.toList v place b) : a = b := by
  obtain ⟨hamem, i, hi, hia⟩ := ha
  obtain ⟨hbmem, j, hj, hjb⟩ := hb
  by_cases htext : tokenText a i = tokenText b j
  · exact node_eq_of_tokenText_eq htext
  · exact absurd (hia.trans hjb.symm) (h a hamem i hi b hbmem j hj htext)

/-- Who asks for a token holds it. -/
theorem TokensDiffer.get?_tokensOf_iff (h : TokensDiffer nodes.toList v) :
    (tokensOf nodes v).get? place = some a ↔ AsksFor nodes.toList v place a := by
  constructor
  · intro hget
    exact (asksFor_of_get?_tokensOf hget).1
  · intro hasks
    obtain ⟨holder, hholder⟩ := exists_holder hasks
    rw [hholder, h.eq_of_asksFor hasks (asksFor_of_get?_tokensOf hholder).1]

end

/-- Where tokens differ, every node holds its first token. -/
theorem TokensDiffer.holds {r : HashRing} (h : TokensDiffer r.nodes.toList r.virtualNodes.toNat)
    {node : NodeId} (hnode : node ∈ r.nodes) : r.Holds node := by
  refine ⟨nodeToken node 0, ?_⟩
  rw [r.tokens_eq]
  exact h.get?_tokensOf_iff.mpr ⟨hnode, 0, r.virtualNodes_pos, rfl⟩

/-- Where tokens differ, a group has as many nodes as it is to have, or all. -/
theorem length_group {r : HashRing} (h : TokensDiffer r.nodes.toList r.virtualNodes.toNat)
    (name : ServiceName) (k : Nat) : (r.group name k).length = min k r.nodes.size := by
  rw [length_group_eq, holders_eq_nodes fun _ hnode => h.holds hnode]

/-- A ring of some nodes of another one, where every node holds all its tokens in both. -/
structure Restricts (r s : HashRing) : Prop where
  mem_nodes : ∀ node ∈ r.nodes, node ∈ s.nodes
  virtualNodes_eq : r.virtualNodes = s.virtualNodes
  differ : TokensDiffer s.nodes.toList s.virtualNodes.toNat

namespace Restricts

variable {r s : HashRing}

theorem differ_left (h : Restricts r s) :
    TokensDiffer r.nodes.toList r.virtualNodes.toNat := by
  rw [h.virtualNodes_eq]
  intro a ha i hi b hb j hj
  exact h.differ a (h.mem_nodes a ha) i hi b (h.mem_nodes b hb) j hj

/-- The tokens of the smaller ring are those that its nodes hold in the larger one. -/
theorem mem_tokens_iff (h : Restricts r s) {e : UInt64 × NodeId} :
    e ∈ r.tokens.entries ↔ e ∈ s.tokens.entries ∧ e.2 ∈ r.nodes := by
  rw [← SortedMap.get?_eq_some_iff (m := r.tokens), ← SortedMap.get?_eq_some_iff (m := s.tokens),
    r.tokens_eq, s.tokens_eq, h.differ_left.get?_tokensOf_iff, h.differ.get?_tokensOf_iff,
    h.virtualNodes_eq]
  constructor
  · rintro ⟨hmem, hasks⟩
    exact ⟨⟨h.mem_nodes _ hmem, hasks⟩, hmem⟩
  · rintro ⟨⟨-, hasks⟩, hmem⟩
    exact ⟨hmem, hasks⟩

/-- Both rings are walked in the order of distance from the same place, so the walks agree on the
tokens that both have. -/
theorem entriesFrom_eq (h : Restricts r s) (place : UInt64) :
    r.entriesFrom place = (s.entriesFrom place).filter fun e => e.2 ∈ r.nodes := by
  have hnodup {l : List (UInt64 × NodeId)}
      (hl : l.Pairwise fun a b => clockwise place a.1 < clockwise place b.1) : l.Nodup := by
    refine hl.imp fun {a b} hab heq => ?_
    rw [heq] at hab
    exact Nat.lt_irrefl _ hab
  have hleft := r.entriesFrom_pairwise place
  have hright := (s.entriesFrom_pairwise place).filter fun e => decide (e.2 ∈ r.nodes)
  refine List.Perm.eq_of_pairwise (fun a b _ _ hab hba => absurd hab (Nat.lt_asymm hba))
    hleft hright ?_
  refine (List.perm_ext_iff_of_nodup (hnodup hleft) (hnodup hright)).mpr fun e => ?_
  rw [mem_entriesFrom, h.mem_tokens_iff, List.mem_filter, mem_entriesFrom, decide_eq_true_iff]

theorem walk_eq (h : Restricts r s) (name : ServiceName) :
    r.walk name = (s.walk name).filter fun node => node ∈ r.nodes := by
  unfold walk
  rw [walkFrom_eq_map, walkFrom_eq_map, h.entriesFrom_eq, List.filter_map]
  rfl

theorem group_eq (h : Restricts r s) (name : ServiceName) (k : Nat) :
    r.group name k =
      ((s.group name s.nodes.size).filter fun node => node ∈ r.nodes).take k := by
  rw [group_size_nodes, ← eraseDups_filter, ← h.walk_eq]
  rfl

/-- Where one node is left out, it leaves its groups, into which the next one moves up. -/
theorem group_of_one_less (h : Restricts r s) {gone : NodeId} (hgone : gone ∉ r.nodes)
    (hrest : ∀ node ∈ s.nodes, node = gone ∨ node ∈ r.nodes) (name : ServiceName) (k : Nat) :
    (gone ∉ s.group name k → r.group name k = s.group name k) ∧
      (gone ∈ s.group name k → r.group name k = (s.group name (k + 1)).erase gone) := by
  have hleft : r.group name k = ((s.walk name).eraseDups.erase gone).take k := by
    rw [h.group_eq, group_size_nodes, (nodup_eraseDups _).erase_eq_filter]
    refine congrArg (List.take k) (List.filter_congr fun node hnode => ?_)
    have hmem := hrest node ((mem_walk.mp (List.mem_eraseDups.mp hnode)).mem_nodes)
    by_cases heq : node = gone
    · simp [heq, hgone]
    · simp [heq, hmem.resolve_left heq]
  rw [hleft]
  exact take_erase (s.walk name).eraseDups gone k

end Restricts

/-- Groups are stable between two rings of which one has all nodes of the other, if tokens differ.
The smaller ring's groups are the beginnings of the larger one's order of all nodes without the
nodes that it lacks, as long as there are nodes. So a node that is left out leaves its groups, the
next one moves up there, and no other group changes. -/
theorem groups_stable (old new : List NodeId) (v : UInt64) (hold : old ≠ [])
    (hsub : ∀ node ∈ old, node ∈ new) (hv : 0 < v.toNat) (hdiffer : TokensDiffer new v.toNat) :
    ∃ r s, build old v = .ok r ∧ build new v = .ok s ∧
      (∀ name k, (r.group name k).length = min k (SortedSet.ofList old).size ∧
        r.group name k =
          ((s.group name (SortedSet.ofList new).size).filter fun node => node ∈ old).take k) ∧
      ∀ gone ∉ old, (∀ node ∈ new, node = gone ∨ node ∈ old) → ∀ name k,
        (gone ∉ s.group name k → r.group name k = s.group name k) ∧
          (gone ∈ s.group name k → r.group name k = (s.group name (k + 1)).erase gone) := by
  obtain ⟨first, hfirst⟩ := List.exists_mem_of_ne_nil old hold
  obtain ⟨r, hr, hrset, hrv⟩ := exists_build hold hv
  obtain ⟨s, hs, hsset, hsv⟩ := exists_build (List.ne_nil_of_mem (hsub first hfirst)) hv
  have hrmem : ∀ node, node ∈ r.nodes ↔ node ∈ old := by
    intro node
    rw [hrset, SortedSet.mem_ofList]
  have hsmem : ∀ node, node ∈ s.nodes ↔ node ∈ new := by
    intro node
    rw [hsset, SortedSet.mem_ofList]
  have hrs : Restricts r s :=
    { mem_nodes := fun node hnode => (hsmem node).mpr (hsub node ((hrmem node).mp hnode))
      virtualNodes_eq := hrv.trans hsv.symm
      differ := by
        rw [hsv]
        intro a ha i hi b hb j hj
        exact hdiffer a ((hsmem a).mp ha) i hi b ((hsmem b).mp hb) j hj }
  refine ⟨r, s, hr, hs, fun name k => ⟨?_, ?_⟩, fun gone hgone hrest name k => ?_⟩
  · rw [length_group hrs.differ_left, hrset]
  · rw [hrs.group_eq, ← hsset]
    simp only [hrmem]
  · refine hrs.group_of_one_less (fun hmem => hgone ((hrmem gone).mp hmem)) ?_ name k
    intro node hnode
    exact (hrest node ((hsmem node).mp hnode)).imp_right (hrmem node).mpr

/-- Three nodes with two tokens each, without one of them. The first name's group had it in front
and takes in the third node; the other name's group did not have it. -/
theorem groups_stable_without_one :
    let old := ["RC2", "RC0"]
    let new := ["RC2", "RC1", "RC0"]
    old ≠ [] ∧ (∀ node ∈ old, node ∈ new) ∧ 0 < (2 : UInt64).toNat ∧
      TokensDiffer new (2 : UInt64).toNat ∧
      ∃ r s, build old 2 = .ok r ∧ build new 2 = .ok s ∧
        s.group "svc0" 2 = ["RC1", "RC2"] ∧ r.group "svc0" 2 = ["RC2", "RC0"] ∧
        s.group "svc3" 2 = ["RC2", "RC0"] ∧ r.group "svc3" 2 = ["RC2", "RC0"] := by
  intro old new
  have hdiffer : TokensDiffer new (2 : UInt64).toNat := by decide +kernel
  obtain ⟨r, s, hr, hs, -, hone⟩ :=
    groups_stable old new 2 (by decide) (by decide) (by decide) hdiffer
  have hcomputed : (build new 2).toOption.map
      (fun s => (s.group "svc0" 2, s.group "svc0" 3, s.group "svc3" 2)) =
        some (["RC1", "RC2"], ["RC1", "RC2", "RC0"], ["RC2", "RC0"]) := by decide +kernel
  rw [hs] at hcomputed
  have hgroups : (s.group "svc0" 2, s.group "svc0" 3, s.group "svc3" 2) =
      (["RC1", "RC2"], ["RC1", "RC2", "RC0"], ["RC2", "RC0"]) := Option.some.inj hcomputed
  obtain ⟨hfirst, hlater⟩ := Prod.mk.inj hgroups
  obtain ⟨hnext, hother⟩ := Prod.mk.inj hlater
  have hgone := hone "RC1" (by decide) (by decide)
  refine ⟨by decide, by decide, by decide, hdiffer, r, s, hr, hs, hfirst, ?_, hother, ?_⟩
  · rw [(hgone "svc0" 2).2 (by rw [hfirst]; decide), hnext]
    decide
  · rw [(hgone "svc3" 2).1 (by rw [hother]; decide), hother]

end ServicePlacement.HashRing
