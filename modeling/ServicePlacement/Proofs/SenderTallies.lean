import Mathlib.Logic.OpClass
import ServicePlacement.Demand.Senders
import ServicePlacement.Proofs.MapViews

/-!
Look-ups in merged sender tables. At each sender the tallies of both tables are added up, so tables
can be merged in any order (`merge_right_comm`), and a merge never has fewer senders than either
table. Cutting a table leaves as many senders as there is room for (`size_bound`), with the tallies
that they had (`get?_of_bound`), and does nothing to a table within its bound.
-/
namespace ServicePlacement.Demand.Senders

/-- In a merged table every sender has the sum of its tallies. -/
theorem get?_merge (s t : Senders) (k : String) :
    (s.merge t).get? k = (s.get? k).merge satAdd (t.get? k) := by
  unfold merge count
  rw [SortedMap.get?_foldl_alter Prod.fst fun e old => some (satAdd (old.getD 0) e.2),
    SortedMap.filter_entries_eq]
  cases t.get? k with
  | none => simp
  | some n =>
    cases s.get? k with
    | none => simp [zero_satAdd]
    | some m => simp

theorem mem_keys_merge {s t : Senders} {k : String} :
    k ∈ (s.merge t).keys ↔ k ∈ s.keys ∨ k ∈ t.keys := by
  simp only [SortedMap.mem_keys_iff, ← Option.isSome_iff_exists, get?_merge, Option.isSome_merge,
    Bool.or_eq_true]

def tally (s : Senders) (k : String) : Nat := ((s.get? k).getD 0).toNat

theorem tally_of_get? {s : Senders} {k : String} {n : UInt64} (h : s.get? k = some n) :
    s.tally k = n.toNat := by
  unfold tally
  rw [h]
  rfl

theorem tally_of_get?_none {s : Senders} {k : String} (h : s.get? k = none) : s.tally k = 0 := by
  unfold tally
  rw [h]
  rfl

theorem tally_merge (s t : Senders) (k : String) :
    (s.merge t).tally k = min (s.tally k + t.tally k) 18446744073709551615 := by
  have hzero : (0 : UInt64).toNat = 0 := rfl
  have hword (n : UInt64) : n.toNat = min n.toNat 18446744073709551615 := by
    have := n.toNat_lt
    omega
  unfold tally
  rw [get?_merge]
  cases s.get? k with
  | none =>
    cases t.get? k with
    | none => rfl
    | some n => simpa [hzero] using hword n
  | some m =>
    cases t.get? k with
    | none => simpa [hzero] using hword m
    | some n => exact toNat_satAdd m n

/-- A table is determined by its senders and their tallies. -/
theorem ext_tally {s t : Senders} (hkeys : ∀ k, k ∈ s.keys ↔ k ∈ t.keys)
    (htally : ∀ k, s.tally k = t.tally k) : s = t := by
  refine SortedMap.ext_get? fun k => ?_
  have hkey := hkeys k
  have hnumber := htally k
  rw [SortedMap.mem_keys_iff, SortedMap.mem_keys_iff] at hkey
  unfold tally at hnumber
  cases hs : s.get? k with
  | none =>
    cases ht : t.get? k with
    | none => rfl
    | some n => exact absurd (hkey.mpr ⟨n, ht⟩) (by simp [hs])
  | some m =>
    obtain ⟨n, hn⟩ := hkey.mp ⟨m, hs⟩
    rw [hs, hn] at hnumber
    rw [hn]
    exact congrArg some (UInt64.toNat_inj.mp hnumber)

theorem merge_right_comm (s t u : Senders) : (s.merge t).merge u = (s.merge u).merge t := by
  refine SortedMap.ext_get? fun k => ?_
  simp only [get?_merge]
  exact RightCommutative.right_comm _ _ _

theorem size_le_size_merge (s t : Senders) : s.size ≤ (s.merge t).size := by
  refine SortedMap.size_le_of_keys fun k hk => ?_
  obtain ⟨n, hn⟩ := SortedMap.mem_keys_iff.mp hk
  refine SortedMap.mem_keys_iff.mpr (Option.isSome_iff_exists.mp ?_)
  rw [get?_merge, Option.isSome_merge, hn]
  rfl

theorem leastOf_mem (best : String × UInt64) (l : List (String × UInt64)) :
    leastOf best l ∈ best :: l := by
  induction l generalizing best with
  | nil => exact List.mem_singleton.mpr rfl
  | cons e rest ih =>
    have hleast := ih (if e.2 < best.2 then e else best)
    rcases List.mem_cons.mp hleast with heq | hmem
    · rw [leastOf, heq]
      split
      · exact List.mem_cons_of_mem best List.mem_cons_self
      · exact List.mem_cons_self
    · exact List.mem_cons_of_mem best (List.mem_cons_of_mem e hmem)

theorem size_dropLeast (s : Senders) : s.dropLeast.size = s.size - 1 := by
  unfold dropLeast leastFrequent?
  cases hentries : s.entries with
  | nil => simp [SortedMap.size, hentries]
  | cons e rest =>
    have hmem : leastOf e rest ∈ s.entries := by
      rw [hentries]
      exact leastOf_mem e rest
    have hkey : (leastOf e rest).1 ∈ s.keys :=
      SortedMap.mem_keys_iff.mpr ⟨_, SortedMap.get?_eq_some_iff.mpr hmem⟩
    have hsize := SortedMap.size_erase hkey
    simp only
    omega

theorem size_dropTimes (n : Nat) (s : Senders) : (dropTimes n s).size = s.size - n := by
  induction n generalizing s with
  | zero => rfl
  | succ n ih =>
    rw [dropTimes, ih, size_dropLeast]
    omega

/-- Cutting a table leaves as many senders as it may have. -/
theorem size_bound (most : Nat) (s : Senders) : (s.bound most).size = min most s.size := by
  unfold bound
  rw [size_dropTimes]
  omega

theorem bound_of_size_le {s : Senders} {most : Nat} (h : s.size ≤ most) : s.bound most = s := by
  unfold bound
  rw [Nat.sub_eq_zero_of_le h]
  rfl

theorem get?_of_dropTimes {times : Nat} {s : Senders} {k : String} {n : UInt64}
    (h : (dropTimes times s).get? k = some n) : s.get? k = some n := by
  induction times generalizing s with
  | zero => exact h
  | succ times ih =>
    have hdropped := ih h
    unfold dropLeast at hdropped
    split at hdropped
    · rw [SortedMap.get?_erase] at hdropped
      split at hdropped
      · cases hdropped
      · exact hdropped
    · exact hdropped

/-- The senders that are left keep their tallies. -/
theorem get?_of_bound {most : Nat} {s : Senders} {k : String} {n : UInt64}
    (h : (s.bound most).get? k = some n) : s.get? k = some n :=
  get?_of_dropTimes h

end ServicePlacement.Demand.Senders
