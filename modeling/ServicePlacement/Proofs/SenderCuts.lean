import ServicePlacement.Proofs.SenderEviction

/-!
Cutting a sender table down to a number of senders, whatever its size was before. There is only one
table of that number of senders that outlast all others (`IsCut.eq`), and cuts in stages are cuts
(`IsCut.trans`), so the stages do not show in the result. Dropping the least frequent sender for as
long as there are too many always comes to an end, with that table (`sheds_iff`).
-/
namespace ServicePlacement.Demand.Senders

/-! ### Cuts -/

section

variable {most : Nat} {full mid cut cut' : Senders}

/-- A table has one cut at most. -/
theorem IsCut.eq (h : IsCut most full cut) (h' : IsCut most full cut') : cut = cut' := by
  have hsize : cut.size = cut'.size := h.size_eq.trans h'.size_eq.symm
  by_cases hback : ∀ f ∈ cut'.entries, f ∈ cut.entries
  · exact (SortedMap.eq_of_subset_of_size_le hback (Nat.le_of_eq hsize)).symm
  · obtain ⟨f, hf, hdropped⟩ : ∃ f ∈ cut'.entries, f ∉ cut.entries := by simpa using hback
    have hover : ∀ e ∈ cut.entries, Outlasts e f := fun e he =>
      h.outlasts e he f (h'.kept f hf) hdropped
    -- An entry that only the first table has would have to outlast `f` and be outlasted by it.
    refine SortedMap.eq_of_subset_of_size_le (fun e he => ?_) (Nat.le_of_eq hsize.symm)
    by_contra hmissing
    have hunder : Outlasts f e := h'.outlasts f hf e (h.kept e he) hmissing
    exact Outlasts.irrefl e ((hover e he).trans hunder)

/-- What is left after two stages is what one stage would have left. -/
theorem IsCut.trans {more : Nat} (h : IsCut (most + more) full mid) (h' : IsCut most mid cut) :
    IsCut most full cut where
  size_eq := by
    rw [h'.size_eq, h.size_eq]
    omega
  kept e he := h.kept e (h'.kept e he)
  outlasts e he f hf hdropped := by
    by_cases hmid : f ∈ mid.entries
    · exact h'.outlasts e he f hmid hdropped
    · exact h.outlasts e (h'.kept e he) f hf hmid

theorem isCut_iff : IsCut most full cut ↔ cut = full.bound most := by
  constructor
  · intro h
    exact h.eq (isCut_bound most full)
  · rintro rfl
    exact isCut_bound most full

theorem bound_bound (most more : Nat) (s : Senders) :
    (s.bound (most + more)).bound most = s.bound most :=
  isCut_iff.mp ((isCut_bound (most + more) s).trans (isCut_bound most _))

end

/-! ### Dropping one sender after another -/

inductive Sheds (most : Nat) : Senders → Senders → Prop where
  | enough {s : Senders} : s.size ≤ most → Sheds most s s
  | stuck {s : Senders} : most < s.size → s.leastFrequent? = none → Sheds most s s
  | drop {s cut : Senders} {sender : String} : most < s.size → s.leastFrequent? = some sender →
    Sheds most (s.erase sender) cut → Sheds most s cut

/-- There is always a sender to drop where there are too many. -/
theorem exists_leastFrequent? {s : Senders} (h : 0 < s.size) :
    ∃ sender, s.leastFrequent? = some sender := by
  unfold leastFrequent?
  cases hentries : s.entries with
  | nil =>
    unfold SortedMap.size at h
    rw [hentries] at h
    exact absurd h (Nat.lt_irrefl 0)
  | cons e rest => exact ⟨_, rfl⟩

theorem dropLeast_eq {s : Senders} {sender : String} (h : s.leastFrequent? = some sender) :
    s.dropLeast = s.erase sender := by
  unfold dropLeast
  rw [h]

theorem bound_of_lt_size {most : Nat} {s : Senders} (h : most < s.size) :
    s.bound most = s.dropLeast.bound most := by
  unfold bound
  rw [size_dropLeast, show s.size - most = s.size - 1 - most + 1 by omega]
  rfl

/-- The loop ends with the cut, from every table. -/
theorem sheds_iff {most : Nat} {s cut : Senders} : Sheds most s cut ↔ cut = s.bound most := by
  constructor
  · intro h
    induction h with
    | enough hfits => exact (bound_of_size_le hfits).symm
    | stuck hmany hnone =>
      obtain ⟨sender, hsender⟩ := exists_leastFrequent? (Nat.zero_lt_of_lt hmany)
      cases hnone.symm.trans hsender
    | drop hmany hsender _ ih => rw [ih, bound_of_lt_size hmany, dropLeast_eq hsender]
  · rintro rfl
    -- Every turn takes one from the number of senders that are too many.
    obtain ⟨excess, hexcess⟩ : ∃ excess, s.size - most = excess := ⟨_, rfl⟩
    induction excess generalizing s with
    | zero =>
      have hfits : s.size ≤ most := Nat.le_of_sub_eq_zero hexcess
      rw [bound_of_size_le hfits]
      exact .enough hfits
    | succ excess ih =>
      have hmany : most < s.size := by omega
      obtain ⟨sender, hsender⟩ := exists_leastFrequent? (Nat.zero_lt_of_lt hmany)
      rw [bound_of_lt_size hmany, dropLeast_eq hsender]
      apply Sheds.drop hmany hsender
      apply ih
      rw [← dropLeast_eq hsender, size_dropLeast]
      omega

/-- Eviction ends for every table and every bound, and leaves the one table of as many entries as
there is room for, tallies included, that outlast all other entries. A table within its bound stays
as it is, and a cut in two stages is the cut at once. -/
theorem eviction_keeps_greatest (most : Nat) (s : Senders) :
    (∀ cut, Sheds most s cut ↔ cut = s.bound most) ∧
      (∀ cut, IsCut most s cut ↔ cut = s.bound most) ∧
      (s.size ≤ most → s.bound most = s) ∧
      ∀ more, (s.bound (most + more)).bound most = s.bound most :=
  ⟨fun _ => sheds_iff, fun _ => isCut_iff, bound_of_size_le, fun more => s.bound_bound most more⟩

def tiedSenders : Senders :=
  .ofList [("10.0.0.1", 2), ("10.0.0.2", 1), ("10.0.0.3", 2), ("10.0.0.4", 5)]

/-- Of the two that have asked equally often, the one with the later text stays. With room for all
nobody is dropped, and without any room everybody is. -/
theorem eviction_keeps_greatest_tied :
    let cut : Senders := .ofList [("10.0.0.3", 2), ("10.0.0.4", 5)]
    Sheds 2 tiedSenders cut ∧ IsCut 2 tiedSenders cut ∧ (tiedSenders.bound 3).bound 2 = cut ∧
      tiedSenders.size ≤ 4 ∧ tiedSenders.bound 4 = tiedSenders ∧ Sheds 0 tiedSenders .empty := by
  intro cut
  obtain ⟨hsheds, hcut, -, hstages⟩ := eviction_keeps_greatest 2 tiedSenders
  obtain ⟨-, -, hroom, -⟩ := eviction_keeps_greatest 4 tiedSenders
  obtain ⟨hnone, -, -, -⟩ := eviction_keeps_greatest 0 tiedSenders
  have hbound : cut = tiedSenders.bound 2 := by decide +kernel
  have hsize : tiedSenders.size ≤ 4 := by decide +kernel
  have hempty : (.empty : Senders) = tiedSenders.bound 0 := by decide +kernel
  exact ⟨(hsheds cut).mpr hbound, (hcut cut).mpr hbound, (hstages 1).trans hbound.symm, hsize,
    hroom hsize, (hnone .empty).mpr hempty⟩

end ServicePlacement.Demand.Senders
