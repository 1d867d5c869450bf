import Mathlib.Data.List.Induction
import ServicePlacement.Proofs.TableRuns

/-!
How large a table gets. A step adds at most one entry, and only a step that records, takes in or
installs a profile adds any; a trim brings the table below its limit, however large it was. So over
a run the table exceeds its limit by no more than what came in since the last trim. Where each of
these steps is followed by a trim at once, the limit is never exceeded, and every eviction has the
same size.
-/
namespace ServicePlacement.Demand

def Step.inserts : Step → Bool
  | .record _ _ _ => true
  | .accept _ => true
  | .acceptExport _ => true
  | .install _ => true
  | _ => false

namespace Table

/-- How many steps since the last trim of a run, or since its beginning, can have added an entry. -/
def insertsSinceTrim (steps : List Step) : Nat :=
  (steps.reverse.takeWhile fun s => !s.isTrim).countP Step.inserts

def TrimsAtOnce : List Step → Prop
  | [] => True
  | s :: rest => (s.inserts = true → rest.head?.any Step.isTrim = true) ∧ TrimsAtOnce rest

theorem insertsSinceTrim_concat (steps : List Step) (s : Step) :
    insertsSinceTrim (steps ++ [s]) =
      if s.isTrim then 0 else insertsSinceTrim steps + if s.inserts then 1 else 0 := by
  unfold insertsSinceTrim
  rw [List.reverse_concat]
  cases htrim : s.isTrim with
  | true => simp [htrim]
  | false =>
    rw [List.takeWhile_cons_of_pos (by simp [htrim]), List.countP_cons,
      if_neg Bool.false_ne_true]

theorem run_concat (t : Table) (steps : List Step) (s : Step) :
    t.run (steps ++ [s]) = (t.run steps).next s := by
  unfold run
  rw [List.foldl_append]
  rfl

theorem limits_run (t : Table) (steps : List Step) : (t.run steps).limits = t.limits := by
  induction steps generalizing t with
  | nil => rfl
  | cons s rest ih => rw [run_cons, ih, (t.next_setup s).2.2]

variable {t : Table}

theorem size_put (t : Table) (name : ServiceName) (p : Profile) :
    (t.put name p).size = if t.contains name then t.size else t.size + 1 :=
  t.profiles.size_insert name p

theorem size_put_le (t : Table) (name : ServiceName) (p : Profile) :
    (t.put name p).size ≤ t.size + 1 := by
  rw [size_put]
  split <;> omega

/-- A new entry in the place of one that is there does not add any. -/
theorem size_put_of_get? {name : ServiceName} {old : Profile}
    (h : t.profiles.get? name = some old) (p : Profile) : (t.put name p).size = t.size := by
  have hknown : t.contains name = true := SortedMap.contains_iff.mpr ⟨old, h⟩
  rw [size_put, if_pos hknown]

/-- A step other than a trim adds at most one entry, and most steps add none. -/
theorem size_next_le {s : Step} (h : s.isTrim = false) :
    (t.next s).size ≤ t.size + if s.inserts then 1 else 0 := by
  rcases t.next_cases h with hnext | ⟨name, p, hmakes, hnext⟩
  · rw [hnext]
    exact Nat.le_add_right _ _
  · rw [hnext]
    cases hmakes with
    | recorded name sender now => exact t.size_put_le name _
    | moved current c now marked hget => exact Nat.le_of_eq (size_put_of_get? hget _)
    | @merged s update p strategy hs =>
      obtain rfl | ⟨e, rfl, -⟩ := hs <;> exact t.size_put_le update.name p
    | begun hget hcopy => exact Nat.le_of_eq (size_put_of_get? hget _)
    | installed hget htakes => exact t.size_put_le p.name p

theorem size_next_lt_of_isTrim {s : Step} (h : s.isTrim = true) :
    (t.next s).size < t.limits.maxSize.toNat := by
  cases s with
  | trim favoured => exact t.size_trim_lt favoured
  | _ => cases h

/-- Over a run a table exceeds its limit by no more than what can have come in since the last trim.
-/
theorem size_run_le (h : t.size < t.limits.maxSize.toNat) (steps : List Step) :
    (t.run steps).size ≤ t.limits.maxSize.toNat - 1 + insertsSinceTrim steps := by
  -- What counts is the last trim, so the induction is on the end of the run.
  induction steps using List.reverseRecOn with
  | nil =>
    show t.size ≤ _
    omega
  | append_singleton rest s ih =>
    rw [run_concat, insertsSinceTrim_concat]
    cases htrim : s.isTrim with
    | true =>
      have hlt := size_next_lt_of_isTrim (t := t.run rest) htrim
      rw [limits_run] at hlt
      rw [if_pos rfl]
      omega
    | false =>
      have hle := size_next_le (t := t.run rest) htrim
      rw [if_neg Bool.false_ne_true]
      omega

/-- With a trim after every step that can add an entry, no run exceeds the limit. The table may be
at its limit only where a trim comes next. -/
theorem size_run_le_of_trimsAtOnce {before after : List Step}
    (h : TrimsAtOnce (before ++ after))
    (hsize : t.size < t.limits.maxSize.toNat ∨
      t.size ≤ t.limits.maxSize.toNat ∧ (before ++ after).head?.any Step.isTrim = true) :
    (t.run before).size ≤ t.limits.maxSize.toNat := by
  induction before generalizing t with
  | nil =>
    show t.size ≤ _
    omega
  | cons s rest ih =>
    obtain ⟨hnext, hrest⟩ := h
    have hlimits : (t.next s).limits = t.limits := (t.next_setup s).2.2
    rw [run_cons, ← hlimits]
    refine ih hrest ?_
    rw [hlimits]
    cases htrim : s.isTrim with
    | true => exact .inl (size_next_lt_of_isTrim htrim)
    | false =>
      have hbelow : t.size < t.limits.maxSize.toNat := by
        rcases hsize with hlt | ⟨-, hhead⟩
        · exact hlt
        · have hfirst : s.isTrim = true := hhead
          rw [htrim] at hfirst
          cases hfirst
      have hle := size_next_le (t := t) htrim
      cases hinserts : s.inserts with
      | true =>
        rw [hinserts, if_pos rfl] at hle
        exact .inr ⟨by omega, hnext hinserts⟩
      | false =>
        rw [hinserts, if_neg Bool.false_ne_true] at hle
        exact .inl (by omega)

/-- Within its limit, a table evicts nothing or always the same number of profiles. -/
theorem evictionCount_of_size_le (h : t.size ≤ t.limits.maxSize.toNat) :
    t.evictionCount = 0 ∨
      t.evictionCount = min t.limits.evictionSize.toNat t.limits.maxSize.toNat := by
  have hpos := t.limits.evictionSize_pos
  unfold evictionCount
  simp only
  split
  · exact .inl rfl
  · have hfull : t.size = t.limits.maxSize.toNat := by omega
    rw [hfull]
    omega

/-- The size of a table over a run from the empty table. At its end, and so everywhere, the table
exceeds what its limit allows by no more than the steps since the last trim that can have added an
entry, and a trim brings it below the limit. If each such step is directly followed by a trim, every
trim evicts nothing or the usual number of profiles, at most as many as the limit. -/
theorem size_bounded_over_run (registry : Registry) (cluster : Cluster)
    (maxSize evictionSize : UInt64) (steps : List Step) :
    let most := (max maxSize 1).toNat
    let t := new registry cluster (.of maxSize evictionSize)
    (t.run steps).size ≤ most - 1 + insertsSinceTrim steps ∧
      (∀ favoured, ((t.run steps).trim favoured).2.size < most) ∧
      (TrimsAtOnce steps → ∀ before favoured after, steps = before ++ .trim favoured :: after →
        ((t.run before).trim favoured).1 = [] ∨
          ((t.run before).trim favoured).1.length =
            min (max evictionSize 1).toNat most) := by
  intro most t
  have hempty : t.size < t.limits.maxSize.toNat := t.limits.maxSize_pos
  refine ⟨size_run_le hempty steps, fun favoured => ?_, ?_⟩
  · have hlt := (t.run steps).size_trim_lt favoured
    rw [limits_run] at hlt
    exact hlt
  · rintro htrims before favoured after rfl
    have hsize := size_run_le_of_trimsAtOnce htrims (.inl hempty)
    rw [← t.limits_run before] at hsize
    have hlength := (t.run before).length_trim favoured
    rcases evictionCount_of_size_le hsize with hnone | hsome
    · rw [hnone] at hlength
      exact .inl (List.eq_nil_of_length_eq_zero hlength)
    · rw [hsome, limits_run] at hlength
      exact .inr hlength

def trimmedSteps : List Step :=
  let sender := .v4 ⟨10, 0, 0, 1⟩
  [.record (some "a") sender 10, .trim [], .withdraw "a", .record (some "b") sender 20, .trim ["a"],
    .record (some "c") sender 30, .trim ["b", "c"]]

/-- A table for two names that is asked to evict none at a time: it evicts one, and only once it is
full. -/
theorem size_bounded_over_run_trimmed :
    let t := new .standard .empty (.of 2 0)
    TrimsAtOnce trimmedSteps ∧ (t.run trimmedSteps).size ≤ 1 ∧
      ((t.run (trimmedSteps.take 4)).trim ["a"]).1.length = 1 ∧
      ((t.run (trimmedSteps.take 6)).trim ["b", "c"]).1.length = 1 := by
  intro t
  have htrims : TrimsAtOnce trimmedSteps := by
    simp [TrimsAtOnce, trimmedSteps, Step.inserts, Step.isTrim]
  obtain ⟨hsize, -, hevicted⟩ := size_bounded_over_run .standard .empty 2 0 trimmedSteps
  have hsecond := hevicted htrims (trimmedSteps.take 4) ["a"] (trimmedSteps.drop 5) rfl
  have hthird := hevicted htrims (trimmedSteps.take 6) ["b", "c"] (trimmedSteps.drop 7) rfl
  refine ⟨htrims, hsize, hsecond.resolve_left ?_, hthird.resolve_left ?_⟩
  · exact List.ne_nil_of_length_pos (by decide +kernel)
  · exact List.ne_nil_of_length_pos (by decide +kernel)

end Table

end ServicePlacement.Demand
