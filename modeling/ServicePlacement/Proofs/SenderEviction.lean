import ServicePlacement.Proofs.SenderTallies

/-!
Which sender is dropped for want of room. Entries are ordered by their tallies and equal tallies by
their texts, and the one that is dropped is the least in this order: the search goes through the
texts in ascending order and keeps the first of several least tallies (`outlasts_leastOf`). A table
that was within its bound drops at most one entry after a request (`bound_count_cases`).
-/
namespace ServicePlacement.Demand.Senders

/-- An entry outlasts another one that has a smaller tally, or the same tally with an earlier
text. -/
def Outlasts (e f : String × UInt64) : Prop := f.2 < e.2 ∨ f.2 = e.2 ∧ f.1 < e.1

theorem Outlasts.trans {e f g : String × UInt64} (h : Outlasts e f) (h' : Outlasts f g) :
    Outlasts e g := by
  unfold Outlasts at *
  rcases h with hless | ⟨heq, htext⟩
  · rcases h' with hless' | ⟨heq', -⟩
    · exact .inl (UInt64.lt_trans hless' hless)
    · exact .inl (by rw [heq']; exact hless)
  · rcases h' with hless' | ⟨heq', htext'⟩
    · exact .inl (by rw [← heq]; exact hless')
    · exact .inr ⟨heq'.trans heq, String.lt_trans htext' htext⟩

theorem Outlasts.irrefl (e : String × UInt64) : ¬ Outlasts e e := by
  rintro (hless | ⟨-, htext⟩)
  · exact UInt64.lt_irrefl _ hless
  · exact String.lt_irrefl _ htext

theorem Outlasts.le {e f : String × UInt64} (h : Outlasts e f) : f.2.toNat ≤ e.2.toNat := by
  rcases h with hless | ⟨heq, -⟩
  · exact Nat.le_of_lt (UInt64.lt_iff_toNat_lt.mp hless)
  · exact Nat.le_of_eq (congrArg UInt64.toNat heq)

/-- All entries of a list in the order of texts outlast the one that the search finds. -/
theorem outlasts_leastOf {best : String × UInt64} {l : List (String × UInt64)}
    (h : (best :: l).Pairwise fun a b => a.1 < b.1) :
    ∀ e ∈ best :: l, e = leastOf best l ∨ Outlasts e (leastOf best l) := by
  induction l generalizing best with
  | nil =>
    intro e he
    exact .inl (List.mem_singleton.mp he)
  | cons f rest ih =>
    obtain ⟨hbest, htail⟩ := List.pairwise_cons.mp h
    obtain ⟨-, hrest⟩ := List.pairwise_cons.mp htail
    have hskip : (best :: rest).Pairwise fun a b => a.1 < b.1 :=
      List.pairwise_cons.mpr ⟨fun e he => hbest e (List.mem_cons_of_mem f he), hrest⟩
    -- The search goes on with the first two's least one, which the other one outlasts.
    obtain ⟨kept, hkept⟩ : ∃ kept, kept = if f.2 < best.2 then f else best := ⟨_, rfl⟩
    have hfirst : ∀ e, e = best ∨ e = f → e = kept ∨ Outlasts e kept := by
      intro e he
      rw [hkept]
      split
      · rename_i hless
        rcases he with rfl | rfl
        · exact .inr (.inl hless)
        · exact .inl rfl
      · rename_i hle
        rcases he with rfl | rfl
        · exact .inl rfl
        · rcases UInt64.lt_or_eq_of_le (UInt64.not_lt.mp hle) with hlt | heq
          · exact .inr (.inl hlt)
          · exact .inr (.inr ⟨heq, hbest e List.mem_cons_self⟩)
    have hsorted : (kept :: rest).Pairwise fun a b => a.1 < b.1 := by
      rw [hkept]
      split
      · exact htail
      · exact hskip
    have hleast := ih hsorted
    intro e he
    rw [leastOf, ← hkept]
    by_cases hmem : e ∈ rest
    · exact hleast e (List.mem_cons_of_mem kept hmem)
    · rcases hfirst e (by simpa [hmem] using he) with rfl | hover
      · exact hleast e List.mem_cons_self
      · rcases hleast kept List.mem_cons_self with heq | hout
        · exact .inr (heq ▸ hover)
        · exact .inr (hover.trans hout)

/-- The entry that is dropped is outlasted by all others. -/
theorem exists_dropLeast {s : Senders} (h : 0 < s.size) :
    ∃ e ∈ s.entries, s.dropLeast = s.erase e.1 ∧ ∀ f ∈ s.entries, f = e ∨ Outlasts f e := by
  have hsorted := s.sorted
  unfold dropLeast leastFrequent?
  cases hentries : s.entries with
  | nil =>
    unfold SortedMap.size at h
    rw [hentries] at h
    exact absurd h (Nat.lt_irrefl 0)
  | cons best rest =>
    rw [hentries] at hsorted
    exact ⟨leastOf best rest, leastOf_mem best rest, rfl, outlasts_leastOf hsorted⟩

structure IsCut (most : Nat) (full cut : Senders) : Prop where
  size_eq : cut.size = min most full.size
  kept : ∀ e ∈ cut.entries, e ∈ full.entries
  outlasts : ∀ e ∈ cut.entries, ∀ f ∈ full.entries, f ∉ cut.entries → Outlasts e f

theorem mem_of_mem_dropTimes {times : Nat} {s : Senders} {e : String × UInt64}
    (h : e ∈ (dropTimes times s).entries) : e ∈ s.entries :=
  SortedMap.get?_eq_some_iff.mp (get?_of_dropTimes (SortedMap.get?_eq_some_iff.mpr h))

/-- Whoever is left outlasts whoever was dropped, in whichever turn. -/
theorem outlasts_of_dropTimes {times : Nat} {s : Senders} :
    ∀ e ∈ (dropTimes times s).entries, ∀ f ∈ s.entries, f ∉ (dropTimes times s).entries →
      Outlasts e f := by
  induction times generalizing s with
  | zero =>
    intro e _ f hf hdropped
    exact absurd hf hdropped
  | succ times ih =>
    intro e he f hf hdropped
    have hpos : 0 < s.size := List.length_pos_of_mem hf
    obtain ⟨least, hmember, hdrop, hleast⟩ := exists_dropLeast hpos
    have hmem : e ∈ s.dropLeast.entries := mem_of_mem_dropTimes he
    rw [hdrop] at hmem
    obtain ⟨hstays, hne⟩ := SortedMap.mem_entries_erase.mp hmem
    by_cases hfirst : f = least
    · rw [hfirst]
      apply (hleast e hstays).resolve_left
      intro heq
      exact hne (congrArg Prod.fst heq)
    · apply ih e he f
      · rw [hdrop]
        apply SortedMap.mem_entries_erase.mpr
        refine ⟨hf, ?_⟩
        intro hkey
        exact hfirst (List.inj_on_of_nodup_map s.nodup_keys hf hmember hkey)
      · exact hdropped

theorem isCut_bound (most : Nat) (s : Senders) : IsCut most s (s.bound most) where
  size_eq := size_bound most s
  kept _ he := mem_of_mem_dropTimes he
  outlasts := outlasts_of_dropTimes

/-! ### A request more -/

theorem get?_count (s : Senders) (k j : String) (n : UInt64) :
    (s.count k n).get? j = if j = k then some (satAdd ((s.get? k).getD 0) n) else s.get? j :=
  SortedMap.get?_alter s k j _

theorem size_count (s : Senders) (k : String) (n : UInt64) :
    (s.count k n).size = if s.contains k then s.size else s.size + 1 := by
  have hinsert : s.count k n = s.insert k (satAdd ((s.get? k).getD 0) n) := by
    apply SortedMap.ext_get?
    intro j
    rw [get?_count, SortedMap.get?_insert]
  rw [hinsert, SortedMap.size_insert]

/-- A sender that is not in the table comes in with one request. -/
theorem mem_entries_count_of_new {s : Senders} {k : String} (h : s.get? k = none)
    {e : String × UInt64} : e ∈ (s.count k 1).entries ↔ e = (k, 1) ∨ e ∈ s.entries := by
  obtain ⟨j, n⟩ := e
  rw [← SortedMap.get?_eq_some_iff, ← SortedMap.get?_eq_some_iff, get?_count, h]
  by_cases hj : j = k
  · simp [hj, h, zero_satAdd, eq_comm]
  · simp [hj]

/-- A newcomer for one that goes leaves the size as it was. -/
theorem size_erase_count_of_new {s : Senders} {k : String} (h : s.get? k = none)
    {e : String × UInt64} (he : e ∈ (s.count k 1).entries) :
    ((s.count k 1).erase e.1).size = s.size := by
  have hkey : e.1 ∈ (s.count k 1).keys :=
    SortedMap.mem_keys_iff.mpr ⟨e.2, SortedMap.get?_eq_some_iff.mpr he⟩
  have hless := SortedMap.size_erase hkey
  rw [size_count, if_neg (SortedMap.not_contains_iff.mpr h)] at hless
  omega

/-- Next to a newcomer, the least entry has one request. -/
theorem le_one_of_least {s : Senders} {k : String} {e : String × UInt64} (h : s.get? k = none)
    (hleast : ∀ f ∈ (s.count k 1).entries, f = e ∨ Outlasts f e) : e.2.toNat ≤ 1 := by
  rcases hleast (k, 1) ((mem_entries_count_of_new h).mpr (.inl rfl)) with heq | hout
  · rw [← heq]
    exact Nat.le_refl 1
  · exact hout.le

/-- After a request nothing is dropped if the sender is known or there is room for it, and otherwise
the least entry is, of which the new one may be the one. -/
theorem bound_count_cases {most : Nat} {s : Senders} (hroom : s.size ≤ most) (k : String) :
    ((s.contains k = true ∨ s.size < most) ∧ (s.count k 1).bound most = s.count k 1) ∨
      (s.get? k = none ∧ s.size = most ∧ ∃ e ∈ (s.count k 1).entries,
        (s.count k 1).bound most = (s.count k 1).erase e.1 ∧
          ∀ f ∈ (s.count k 1).entries, f = e ∨ Outlasts f e) := by
  have hsize := s.size_count k 1
  by_cases hfree : s.contains k = true ∨ s.size < most
  · refine .inl ⟨hfree, bound_of_size_le ?_⟩
    split at hsize
    · omega
    · rename_i hnew
      have hless := hfree.resolve_left hnew
      omega
  · obtain ⟨hnew, hfull⟩ := not_or.mp hfree
    rw [if_neg hnew] at hsize
    obtain ⟨e, he, hdrop, hleast⟩ := exists_dropLeast (s := s.count k 1) (by omega)
    have hbound : (s.count k 1).bound most = (s.count k 1).dropLeast := by
      unfold bound
      rw [hsize, show s.size + 1 - most = 1 by omega]
      rfl
    exact .inr ⟨SortedMap.not_contains_iff.mp hnew, by omega, e, he, hbound.trans hdrop, hleast⟩

end ServicePlacement.Demand.Senders
