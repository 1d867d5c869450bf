import ServicePlacement.Demand.Senders

/-!
The rank of senders: those with more requests first, and equally frequent ones by their texts. The
table lists its senders by their texts, so sorting by the number of requests alone, which moves no
equals past each other, ranks them strictly (`byRank_pairwise`), and there is one such ranking only.
-/
namespace ServicePlacement.Demand.Senders

def Above (e f : String × UInt64) : Prop := f.2 < e.2 ∨ e.2 = f.2 ∧ e.1 < f.1

instance (e f : String × UInt64) : Decidable (Above e f) := by
  unfold Above
  infer_instance

theorem Above.asymm {e f : String × UInt64} (h : Above e f) : ¬ Above f e := by
  intro hback
  rcases h with hmore | ⟨heq, hbefore⟩
  · rcases hback with hless | ⟨heq, -⟩
    · exact UInt64.lt_asymm hmore hless
    · rw [heq] at hmore
      exact UInt64.lt_irrefl _ hmore
  · rcases hback with hless | ⟨-, hafter⟩
    · rw [heq] at hless
      exact UInt64.lt_irrefl _ hless
    · exact String.lt_asymm hbefore hafter

def byRank (s : Senders) : List (String × UInt64) := s.entries.mergeSort fun a b => b.2 ≤ a.2

def addresses (es : List (String × UInt64)) : List IpAddress :=
  es.filterMap fun e => IpAddress.parse? e.1

theorem ranked_eq (s : Senders) : s.ranked = addresses s.byRank := rfl

theorem mem_byRank {s : Senders} {e : String × UInt64} : e ∈ s.byRank ↔ e ∈ s.entries :=
  List.mem_mergeSort

theorem moreRequests_trans (a b c : String × UInt64) (hab : decide (b.2 ≤ a.2) = true)
    (hbc : decide (c.2 ≤ b.2) = true) : decide (c.2 ≤ a.2) = true :=
  decide_eq_true (UInt64.le_trans (of_decide_eq_true hbc) (of_decide_eq_true hab))

theorem moreRequests_total (a b : String × UInt64) :
    (decide (b.2 ≤ a.2) || decide (a.2 ≤ b.2)) = true := by
  simpa using UInt64.le_total b.2 a.2

/-- Sorting by the number of requests keeps equally frequent senders in the order of their texts. -/
theorem filter_byRank (s : Senders) (n : UInt64) :
    s.byRank.filter (fun e => e.2 = n) = s.entries.filter fun e => e.2 = n := by
  have hsorted : (s.entries.filter fun e => e.2 = n).Pairwise fun a b => b.2 ≤ a.2 := by
    refine List.pairwise_iff_forall_sublist.mpr fun {a b} hsub => ?_
    have ha : a.2 = n := of_decide_eq_true (List.mem_filter.mp (hsub.subset (by simp))).2
    have hb : b.2 = n := of_decide_eq_true (List.mem_filter.mp (hsub.subset (by simp))).2
    rw [ha, hb]
    exact UInt64.le_refl n
  have hsub : (s.entries.filter fun e => e.2 = n).Sublist s.byRank :=
    List.sublist_mergeSort moreRequests_trans moreRequests_total (hsorted.imp decide_eq_true)
      List.filter_sublist
  have hkept := hsub.filter fun e => e.2 = n
  rw [List.filter_filter] at hkept
  simp only [Bool.and_self] at hkept
  exact (hkept.eq_of_length ((List.mergeSort_perm _ _).filter _).length_eq.symm).symm

/-- The ranking is strict. -/
theorem byRank_pairwise (s : Senders) : s.byRank.Pairwise Above := by
  have hfalling := List.pairwise_mergeSort moreRequests_trans moreRequests_total s.entries
  refine List.pairwise_iff_forall_sublist.mpr fun {e f} hsub => ?_
  have hle := of_decide_eq_true (List.pairwise_iff_forall_sublist.mp hfalling hsub)
  rcases UInt64.lt_or_eq_of_le hle with hless | heq
  · exact .inl hless
  · have hsame : [e, f].Sublist (s.entries.filter fun g => g.2 = e.2) := by
      rw [← filter_byRank]
      simpa [heq] using hsub.filter fun g => g.2 = e.2
    have hbefore := List.pairwise_iff_forall_sublist.mp s.sorted (hsame.trans List.filter_sublist)
    exact .inr ⟨heq.symm, hbefore⟩

/-- A strict ranking of the senders is the ranking. -/
theorem ranked_eq_of_pairwise {s : Senders} {es : List (String × UInt64)}
    (hperm : es.Perm s.entries) (hsorted : es.Pairwise Above) : s.ranked = addresses es := by
  have hsame : s.byRank = es :=
    List.Perm.eq_of_pairwise (fun _ _ _ _ hab hba => absurd hba hab.asymm) s.byRank_pairwise
      hsorted ((List.mergeSort_perm _ _).trans hperm.symm)
  rw [ranked_eq, hsame]

end ServicePlacement.Demand.Senders
