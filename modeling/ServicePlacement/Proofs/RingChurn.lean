import ServicePlacement.Proofs.RingOwner
import ServicePlacement.Proofs.RingShares

/-!
What a change of membership moves. The nearest of more nodes is either a new one or was the nearest
already, so a ring that grows hands names to its new nodes only, and a ring that shrinks hands out
the names of the nodes that it loses only. Shares of a list of names follow their owners.
-/
namespace ServicePlacement.HashRing

/-- A name that no new node takes over keeps its owner. -/
theorem owner_of_subset {old new : List NodeId} {v : UInt64} {r s : HashRing}
    (hr : r.nodes = SortedSet.ofList old) (hs : s.nodes = SortedSet.ofList new)
    (hrv : r.virtualNodes = v) (hsv : s.virtualNodes = v) (hsub : ∀ node ∈ old, node ∈ new)
    (name : ServiceName) :
    (s.owner name ∈ new ∧ s.owner name ∉ old) ∨ s.owner name = r.owner name := by
  have hnew := nearest_owner_of_build hs hsv name
  have hold := nearest_owner_of_build hr hrv name
  by_cases hmem : s.owner name ∈ old
  · exact Or.inr ((hnew.of_subset hsub hmem).unique hold)
  · exact Or.inl ⟨hnew.1, hmem⟩

/-- Minimal churn between two rings of which one has all nodes of the other: a name changes its
owner only for a node of the difference, the share of a remaining node only loses names, and what
it loses goes to the difference. -/
theorem churn_only_to_added (old new : List NodeId) (v : UInt64) (hold : old ≠ [])
    (hsub : ∀ node ∈ old, node ∈ new) (hv : 0 < v.toNat) :
    ∃ r s, build old v = .ok r ∧ build new v = .ok s ∧
      (∀ name, (s.owner name ∈ new ∧ s.owner name ∉ old) ∨ s.owner name = r.owner name) ∧
      ∀ names, ∀ node ∈ old,
        (∀ name ∈ s.shareOf names node, name ∈ r.shareOf names node) ∧
        ∀ name ∈ r.shareOf names node, name ∉ s.shareOf names node →
          ∃ added ∈ new, added ∉ old ∧ name ∈ s.shareOf names added := by
  obtain ⟨first, hfirst⟩ := List.exists_mem_of_ne_nil old hold
  obtain ⟨r, hr, hrset, hrv⟩ := exists_build hold hv
  obtain ⟨s, hs, hsset, hsv⟩ := exists_build (List.ne_nil_of_mem (hsub first hfirst)) hv
  have howner := owner_of_subset hrset hsset hrv hsv hsub
  refine ⟨r, s, hr, hs, howner, fun names node hnode => ⟨?_, ?_⟩⟩
  · intro name hname
    obtain ⟨hmem, hs'⟩ := mem_shareOf.mp hname
    rcases howner name with ⟨_, hnot⟩ | heq
    · rw [hs'] at hnot
      exact absurd hnode hnot
    · exact mem_shareOf.mpr ⟨hmem, heq.symm.trans hs'⟩
  · intro name hname hgone
    obtain ⟨hmem, hr'⟩ := mem_shareOf.mp hname
    rcases howner name with ⟨hadded, hnot⟩ | heq
    · exact ⟨s.owner name, hadded, hnot, mem_shareOf.mpr ⟨hmem, rfl⟩⟩
    · exact absurd (mem_shareOf.mpr ⟨hmem, heq.trans hr'⟩) hgone

/-- One node joins another, with two tokens each. It takes over one of these names, and the share
that remains is the other one. -/
theorem churn_only_to_added_one :
    ["RC0"] ≠ [] ∧ (∀ node ∈ ["RC0"], node ∈ ["RC1", "RC0"]) ∧ 0 < (2 : UInt64).toNat ∧
      ∃ r s, build ["RC0"] 2 = .ok r ∧ build ["RC1", "RC0"] 2 = .ok s ∧
        s.owner "svc0" = "RC1" ∧ s.owner "svc3" = "RC0" ∧
        (∀ name, s.owner name ∉ ["RC0"] ∨ s.owner name = r.owner name) ∧
        ∀ name ∈ s.shareOf ["svc0", "svc3"] "RC0", name ∈ r.shareOf ["svc0", "svc3"] "RC0" := by
  refine ⟨by decide, by decide, by decide, ?_⟩
  obtain ⟨r, s, hr, hs, howner, hshares⟩ :=
    churn_only_to_added ["RC0"] ["RC1", "RC0"] 2 (by decide) (by decide) (by decide)
  have hcomputed : (build ["RC1", "RC0"] 2).toOption.map
      (fun s => (s.owner "svc0", s.owner "svc3")) = some ("RC1", "RC0") := by decide +kernel
  rw [hs] at hcomputed
  have howners : (s.owner "svc0", s.owner "svc3") = ("RC1", "RC0") := Option.some.inj hcomputed
  exact ⟨r, s, hr, hs, congrArg Prod.fst howners, congrArg Prod.snd howners,
    fun name => (howner name).imp_left And.right,
    (hshares ["svc0", "svc3"] "RC0" List.mem_cons_self).1⟩

end ServicePlacement.HashRing
