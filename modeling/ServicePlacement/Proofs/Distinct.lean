import Mathlib.Data.List.Nodup

/-!
Striking out repetitions from a list. Of each element the first occurrence stays; a filter neither
makes nor moves occurrences, so it can be applied before or after.
-/
namespace ServicePlacement

variable {α : Type} [BEq α] [LawfulBEq α]

/-- Striking out repetitions leaves every element once. -/
theorem nodup_eraseDups (l : List α) : l.eraseDups.Nodup := by
  -- The recursion is on the filtered tail, so the induction is on the length.
  induction hn : l.length using Nat.strongRecOn generalizing l with
  | ind n ih =>
    cases l with
    | nil => exact List.nodup_nil
    | cons a rest =>
      rw [List.eraseDups_cons, List.nodup_cons]
      constructor
      · intro ha
        have hfilter := List.mem_filter.mp (List.mem_eraseDups.mp ha)
        simp at hfilter
      · have hle := List.length_filter_le (fun b => !b == a) rest
        rw [List.length_cons] at hn
        exact ih _ (by omega) _ rfl

theorem eraseDups_of_nodup {l : List α} (h : l.Nodup) : l.eraseDups = l := by
  induction l with
  | nil => rfl
  | cons a rest ih =>
    obtain ⟨ha, hrest⟩ := List.nodup_cons.mp h
    have hkeep : rest.filter (fun b => !b == a) = rest := by
      refine List.filter_eq_self.mpr fun b hb => ?_
      have hne : b ≠ a := fun heq => ha (heq ▸ hb)
      simp [hne]
    rw [List.eraseDups_cons, hkeep, ih hrest]

/-- What is left of the filtered list is what is left of the list, filtered. -/
theorem eraseDups_filter (p : α → Bool) (l : List α) :
    (l.filter p).eraseDups = l.eraseDups.filter p := by
  induction hn : l.length using Nat.strongRecOn generalizing l with
  | ind n ih =>
    cases l with
    | nil => rfl
    | cons a rest =>
      have hle := List.length_filter_le (fun b => !b == a) rest
      rw [List.length_cons] at hn
      have hrest := ih _ (by omega) (rest.filter fun b => !b == a) rfl
      rw [List.eraseDups_cons]
      by_cases ha : p a = true
      · rw [List.filter_cons_of_pos ha, List.filter_cons_of_pos ha, List.eraseDups_cons,
          List.filter_comm, hrest]
      · -- No occurrence of an element that is filtered out is left to be struck out.
        have hkeep : (rest.filter fun b => !b == a).filter p = rest.filter p := by
          rw [List.filter_filter]
          refine List.filter_congr fun b _ => ?_
          by_cases hb : b = a
          · simp [hb, ha]
          · simp [hb]
        rw [List.filter_cons_of_neg ha, List.filter_cons_of_neg ha, ← hrest, hkeep]

/-- The different images of an ordered list stand in the order of their first occurrences, and these
come before all occurrences of what stands behind them. -/
theorem pairwise_eraseDups_map {β : Type} {R : β → β → Prop} (f : β → α) {l : List β}
    (h : l.Pairwise R) : (l.map f).eraseDups.Pairwise fun a b =>
      ∃ x ∈ l, f x = a ∧ ∀ y ∈ l, f y = b → R x y := by
  induction hn : l.length using Nat.strongRecOn generalizing l with
  | ind n ih =>
    cases l with
    | nil => exact List.Pairwise.nil
    | cons x rest =>
      obtain ⟨hx, hrest⟩ := List.pairwise_cons.mp h
      have hle := List.length_filter_le (fun y => !f y == f x) rest
      rw [List.length_cons] at hn
      have hlater := ih _ (by omega) (hrest.filter fun y => !f y == f x) rfl
      have htail : (rest.map f).filter (fun b => !b == f x) =
          (rest.filter fun y => !f y == f x).map f := List.filter_map
      have hne : ∀ b ∈ ((rest.filter fun y => !f y == f x).map f).eraseDups, f x ≠ b := by
        intro b hb
        obtain ⟨y, hy, rfl⟩ := List.mem_map.mp (List.mem_eraseDups.mp hb)
        have hkept := (List.mem_filter.mp hy).2
        simp only [Bool.not_eq_true', beq_eq_false_iff_ne] at hkept
        exact hkept.symm
      rw [List.map_cons, List.eraseDups_cons, htail]
      apply List.pairwise_cons.mpr
      constructor
      · intro b hb
        refine ⟨x, List.mem_cons_self, rfl, fun y hy hyb => ?_⟩
        rcases List.mem_cons.mp hy with rfl | hmem
        · exact absurd hyb (hne b hb)
        · exact hx y hmem
      · refine hlater.imp_of_mem fun {a b} _ hb hab => ?_
        obtain ⟨z, hz, hza, hzy⟩ := hab
        refine ⟨z, List.mem_cons_of_mem x (List.mem_of_mem_filter hz), hza, fun y hy hyb => ?_⟩
        rcases List.mem_cons.mp hy with rfl | hmem
        · exact absurd hyb (hne b hb)
        · have hkept : f y ≠ f x := fun heq => hne b hb (heq.symm.trans hyb)
          exact hzy y (List.mem_filter.mpr ⟨hmem, by simpa using hkept⟩) hyb

/-- The first elements of a list without some element: they are the same where it comes later, and
otherwise the next one moves up. -/
theorem take_erase (l : List α) (a : α) (k : Nat) :
    (a ∉ l.take k → (l.erase a).take k = l.take k) ∧
      (a ∈ l.take k → (l.erase a).take k = (l.take (k + 1)).erase a) := by
  induction l generalizing k with
  | nil => exact ⟨fun _ => rfl, fun h => absurd h (by simp)⟩
  | cons b rest ih =>
    cases k with
    | zero => exact ⟨fun _ => rfl, fun h => absurd h List.not_mem_nil⟩
    | succ k =>
      obtain ⟨hlater, hfirst⟩ := ih k
      by_cases hb : b = a
      · subst hb
        constructor
        · intro h
          exact absurd List.mem_cons_self h
        · intro _
          rw [List.erase_cons_head, List.take_succ_cons, List.erase_cons_head]
      · have hne : (b == a) = false := by simpa using hb
        have hcons : ((b :: rest).erase a).take (k + 1) = b :: (rest.erase a).take k := by
          simp [hne]
        constructor
        · intro h
          have hrest : a ∉ rest.take k := fun hmem => h (List.mem_cons_of_mem b hmem)
          rw [hcons, hlater hrest, List.take_succ_cons]
        · intro h
          have hrest : a ∈ rest.take k := by
            rcases List.mem_cons.mp h with heq | hmem
            · exact absurd heq.symm hb
            · exact hmem
          rw [hcons, hfirst hrest, List.take_succ_cons (i := k + 1), List.erase_cons, hne]
          rfl

end ServicePlacement
