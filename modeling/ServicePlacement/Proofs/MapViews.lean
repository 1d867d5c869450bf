import Mathlib.Data.List.Nodup
import Mathlib.Data.List.Perm.Subperm
import ServicePlacement.SortedMap

/-!
Look-ups of maps that are built up step by step. A loop over `alter` shows at each key only the
steps that are about that key, in their order (`get?_foldl_alter`); filling gaps, overwriting and
grouping are cases of this. Sub-maps, key sets and first entries are described by look-ups too, and
sizes are counted by keys.
-/
namespace ServicePlacement.SortedMap

section

variable {κ ν α : Type} [LT κ] [LE κ] [DecidableLT κ] [Std.IsLinearOrder κ] [Std.LawfulOrderLT κ]

omit [LE κ] [Std.IsLinearOrder κ] [Std.LawfulOrderLT κ] in
theorem contains_iff {m : SortedMap κ ν} {k : κ} :
    m.contains k = true ↔ ∃ v, m.get? k = some v := by
  unfold contains
  exact Option.isSome_iff_exists

omit [LE κ] [Std.IsLinearOrder κ] [Std.LawfulOrderLT κ] in
theorem not_contains_iff {m : SortedMap κ ν} {k : κ} :
    ¬ m.contains k = true ↔ m.get? k = none := by
  unfold contains
  exact Option.not_isSome_iff_eq_none

theorem mem_keys_iff {m : SortedMap κ ν} {k : κ} : k ∈ m.keys ↔ ∃ v, m.get? k = some v := by
  unfold keys
  rw [SortedSet.mem_def, List.mem_map]
  constructor
  · rintro ⟨e, he, rfl⟩
    exact ⟨e.2, get?_eq_some_iff.mpr he⟩
  · rintro ⟨v, hv⟩
    exact ⟨(k, v), get?_eq_some_iff.mp hv, rfl⟩

theorem contains_keys {m : SortedMap κ ν} {k : κ} : m.contains k = true ↔ k ∈ m.keys := by
  rw [contains_iff, mem_keys_iff]

theorem get?_eq_none_iff {m : SortedMap κ ν} {k : κ} :
    m.get? k = none ↔ ∀ v, (k, v) ∉ m.entries := by
  constructor
  · intro h v hv
    rw [get?_eq_some_iff.mpr hv] at h
    cases h
  · intro h
    cases hk : m.get? k with
    | none => rfl
    | some v => exact absurd (get?_eq_some_iff.mp hk) (h v)

theorem get?_filter (p : κ → ν → Bool) (m : SortedMap κ ν) (k : κ) :
    (m.filter p).get? k = (m.get? k).filter (p k) := by
  cases hk : m.get? k with
  | none =>
    refine get?_eq_none_iff.mpr fun v hv => ?_
    exact get?_eq_none_iff.mp hk v (List.mem_filter.mp hv).1
  | some v =>
    have hmem := get?_eq_some_iff.mp hk
    by_cases hp : p k v = true
    · rw [Option.filter_some_pos hp]
      exact get?_eq_some_iff.mpr (List.mem_filter.mpr ⟨hmem, hp⟩)
    · rw [Option.filter_some_neg (eq_false_of_ne_true hp)]
      refine get?_eq_none_iff.mpr fun w hw => ?_
      have hw' := List.mem_filter.mp hw
      have hvw : some v = some w := hk.symm.trans (get?_eq_some_iff.mpr hw'.1)
      cases hvw
      exact hp hw'.2

theorem get?_filter_of_key (p : κ → Bool) (m : SortedMap κ ν) (k : κ) :
    (m.filter fun j _ => p j).get? k = if p k then m.get? k else none := by
  rw [get?_filter]
  cases m.get? k with
  | none => simp
  | some v => by_cases hp : p k = true <;> simp [hp]

theorem get?_mapValues {μ : Type} (f : κ → ν → μ) (m : SortedMap κ ν) (k : κ) :
    (m.mapValues f).get? k = (m.get? k).map (f k) := by
  cases hk : m.get? k with
  | none =>
    refine get?_eq_none_iff.mpr fun w hw => ?_
    obtain ⟨e, he, heq⟩ := List.mem_map.mp hw
    cases heq
    exact get?_eq_none_iff.mp hk e.2 he
  | some v =>
    exact get?_eq_some_iff.mpr (List.mem_map.mpr ⟨(k, v), get?_eq_some_iff.mp hk, rfl⟩)

theorem get?_singleton [DecidableEq κ] (k j : κ) (v : ν) :
    (singleton k v).get? j = if j = k then some v else none := by
  have h := get?_insert (empty : SortedMap κ ν) k j v
  rw [get?_empty] at h
  exact h

theorem isEmpty_iff {m : SortedMap κ ν} : m.isEmpty = true ↔ ∀ k, m.get? k = none := by
  unfold isEmpty
  rw [List.isEmpty_iff]
  constructor
  · intro h k
    refine get?_eq_none_iff.mpr fun v hv => ?_
    rw [h] at hv
    exact List.not_mem_nil hv
  · intro h
    refine List.eq_nil_iff_forall_not_mem.mpr fun e he => ?_
    exact get?_eq_none_iff.mp (h e.1) e.2 he

/-- The first entry of a map is the one whose key is below all others. -/
theorem head?_eq_some_iff {m : SortedMap κ ν} {k : κ} {v : ν} :
    m.head? = some (k, v) ↔ m.get? k = some v ∧ ∀ j ∈ m.keys, ¬ j < k := by
  obtain ⟨entries, sorted⟩ := m
  cases entries with
  | nil =>
    constructor
    · intro h
      cases h
    · rintro ⟨h, _⟩
      cases h
  | cons e rest =>
    have hrest := (List.pairwise_cons.mp sorted).1
    constructor
    · intro h
      cases h
      refine ⟨get?_eq_some_iff.mpr List.mem_cons_self, fun j hj hlt => ?_⟩
      obtain ⟨w, hw⟩ := mem_keys_iff.mp hj
      rcases List.mem_cons.mp (get?_eq_some_iff.mp hw) with heq | hmem
      · cases heq
        exact Std.lt_irrefl hlt
      · exact Std.lt_irrefl (Std.lt_trans (hrest _ hmem) hlt)
    · rintro ⟨hget, hleast⟩
      rcases List.mem_cons.mp (get?_eq_some_iff.mp hget) with heq | hmem
      · exact congrArg some heq.symm
      · exact absurd (hrest _ hmem)
          (hleast e.1 (mem_keys_iff.mpr ⟨e.2, get?_eq_some_iff.mpr List.mem_cons_self⟩))

theorem head?_eq_none_iff {m : SortedMap κ ν} : m.head? = none ↔ ∀ k, m.get? k = none := by
  rw [← isEmpty_iff]
  unfold head? isEmpty
  rw [List.head?_eq_none_iff, List.isEmpty_iff]

variable [DecidableEq κ]

/-- A loop of alterations shows at a key only the steps that are about it. -/
theorem get?_foldl_alter (key : α → κ) (f : α → Option ν → Option ν) (l : List α)
    (m : SortedMap κ ν) (k : κ) :
    (l.foldl (fun m a => m.alter (key a) (f a)) m).get? k =
      (l.filter fun a => key a = k).foldl (fun old a => f a old) (m.get? k) := by
  induction l generalizing m with
  | nil => rfl
  | cons a rest ih =>
    rw [List.foldl_cons, ih, get?_alter]
    by_cases h : key a = k
    · subst h
      simp
    · simp [h, Ne.symm h]

/-- Grouping by key: what a key has is made of the elements with that key alone, and a key without
elements has nothing. -/
theorem get?_foldl_group {σ : Type} (key : α → κ) (f : σ → α → σ) (start : σ) (l : List α) (k : κ) :
    (l.foldl (fun m a => m.alter (key a) fun old => some (f (old.getD start) a)) empty).get? k =
      if (l.filter fun a => key a = k) = [] then none
      else some ((l.filter fun a => key a = k).foldl f start) := by
  have grow (l : List α) (s : σ) :
      l.foldl (fun old a => some (f (old.getD start) a)) (some s) = some (l.foldl f s) := by
    induction l generalizing s with
    | nil => rfl
    | cons a rest ih => exact ih (f s a)
  rw [get?_foldl_alter key (fun a old => some (f (old.getD start) a)), get?_empty]
  cases l.filter fun a => key a = k with
  | nil => rfl
  | cons a rest => exact grow rest (f start a)

/-- Filling gaps keeps what is there first. -/
theorem get?_foldl_insertNew (l : List (κ × ν)) (k : κ) :
    (l.foldl (fun m e => m.insertNew e.1 e.2) empty).get? k =
      (l.find? fun e => e.1 = k).map Prod.snd := by
  have keep (l : List (κ × ν)) (v : ν) :
      l.foldl (fun old e => some (old.getD e.2)) (some v) = some v := by
    induction l with
    | nil => rfl
    | cons e rest ih => exact ih
  unfold insertNew
  rw [get?_foldl_alter Prod.fst (fun e old => some (old.getD e.2)), get?_empty,
    ← List.head?_filter]
  cases l.filter fun e => e.1 = k with
  | nil => rfl
  | cons e rest => exact keep rest e.2

/-- With overwriting, the last pair of a key counts. -/
theorem get?_ofList (l : List (κ × ν)) (k : κ) :
    (ofList l).get? k = (l.filter fun e => e.1 = k).getLast?.map Prod.snd := by
  have last (l : List (κ × ν)) (o : Option ν) :
      l.foldl (fun _ e => some e.2) o = (l.getLast?.map Prod.snd).or o := by
    induction l generalizing o with
    | nil => rfl
    | cons e rest ih =>
      rw [List.foldl_cons, ih, List.getLast?_cons]
      cases rest.getLast? <;> rfl
  unfold ofList insert
  rw [get?_foldl_alter Prod.fst (fun e _ => some e.2), get?_empty, last, Option.or_none]

theorem isEmpty_ofList_iff {l : List (κ × ν)} : (ofList l).isEmpty = true ↔ l = [] := by
  rw [isEmpty_iff]
  constructor
  · intro h
    cases l with
    | nil => rfl
    | cons e rest =>
      have hnone := h e.1
      rw [get?_ofList, Option.map_eq_none_iff, List.getLast?_eq_none_iff,
        List.filter_eq_nil_iff] at hnone
      exact absurd (decide_eq_true rfl) (hnone e List.mem_cons_self)
  · rintro rfl k
    rfl

/-- Pairs with different keys all become entries. -/
theorem get?_ofList_eq_some_iff {l : List (κ × ν)} (h : (l.map Prod.fst).Nodup) {k : κ} {v : ν} :
    (ofList l).get? k = some v ↔ (k, v) ∈ l := by
  rw [get?_ofList]
  have unique : ∀ a ∈ l, ∀ b ∈ l, a.1 = b.1 → a = b := by
    intro a ha b hb hab
    exact List.inj_on_of_nodup_map h ha hb hab
  constructor
  · intro hlast
    obtain ⟨e, he, rfl⟩ := Option.map_eq_some_iff.mp hlast
    have hmem := List.mem_filter.mp (List.mem_of_getLast? he)
    have hk : e.1 = k := of_decide_eq_true hmem.2
    rw [← hk]
    exact hmem.1
  · intro hmem
    have hfilter : (k, v) ∈ l.filter fun e => e.1 = k :=
      List.mem_filter.mpr ⟨hmem, decide_eq_true rfl⟩
    cases hlast : (l.filter fun e => e.1 = k).getLast? with
    | none =>
      rw [List.getLast?_eq_none_iff.mp hlast] at hfilter
      cases hfilter
    | some e =>
      have he := List.mem_filter.mp (List.mem_of_getLast? hlast)
      have heq : e = (k, v) := unique e he.1 (k, v) hmem (of_decide_eq_true he.2)
      rw [heq]
      rfl

/-- A map is the map of its entries. -/
theorem ofList_entries (m : SortedMap κ ν) : ofList m.entries = m := by
  refine ext_get? fun k => Option.ext fun v => ?_
  rw [get?_ofList_eq_some_iff m.nodup_keys, get?_eq_some_iff]

end

section

variable {κ ν μ : Type} [LT κ] [LE κ] [DecidableLT κ] [Std.IsLinearOrder κ] [Std.LawfulOrderLT κ]

theorem filter_eq_lookupIn [DecidableEq κ] {k : κ} {l : List (κ × ν)}
    (h : l.Pairwise fun a b => a.1 < b.1) :
    l.filter (fun e => e.1 = k) = ((lookupIn k l).map fun v => (k, v)).toList := by
  have hlater {l : List (κ × ν)} (hl : ∀ e ∈ l, k < e.1) : l.filter (fun e => e.1 = k) = [] := by
    refine List.filter_eq_nil_iff.mpr fun e he hk => ?_
    have hlt := hl e he
    rw [of_decide_eq_true hk] at hlt
    exact Std.lt_irrefl hlt
  induction l with
  | nil => rfl
  | cons b rest ih =>
    obtain ⟨hb, hrest⟩ := List.pairwise_cons.mp h
    unfold lookupIn
    split
    · rename_i hbk
      have hne : b.1 ≠ k := by
        rintro rfl
        exact Std.lt_irrefl hbk
      rw [List.filter_cons_of_neg (by simpa using hne), ih hrest]
    · split
      · rename_i hkb
        refine hlater fun e he => ?_
        rcases List.mem_cons.mp he with rfl | he
        · exact hkb
        · exact Std.lt_trans hkb (hb e he)
      · rename_i hbk hkb
        have hk : k = b.1 := SortedSet.eq_of_not_lt hkb hbk
        subst hk
        rw [List.filter_cons_of_pos (by simp), hlater hb]
        rfl

/-- The entries of one key are its look-up. -/
theorem filter_entries_eq [DecidableEq κ] (m : SortedMap κ ν) (k : κ) :
    m.entries.filter (fun e => e.1 = k) = ((m.get? k).map fun v => (k, v)).toList :=
  filter_eq_lookupIn m.sorted

omit [DecidableLT κ] [Std.IsLinearOrder κ] in
/-- A map whose keys are all in a list has no more entries than the list. -/
theorem size_le_length {m : SortedMap κ ν} {l : List κ} (h : ∀ k ∈ m.keys, k ∈ l) :
    m.size ≤ l.length := by
  have hle : m.keys.toList.length ≤ l.length := (List.subperm_of_subset m.nodup_keys h).length_le
  rwa [show m.keys.toList.length = m.size from List.length_map Prod.fst] at hle

omit [DecidableLT κ] [Std.IsLinearOrder κ] in
/-- A map whose keys are all in a set is no larger than the set. -/
theorem size_le_of_mem {m : SortedMap κ ν} {s : SortedSet κ} (h : ∀ k ∈ m.keys, k ∈ s) :
    m.size ≤ s.size :=
  size_le_length h

omit [DecidableLT κ] [Std.IsLinearOrder κ] in
/-- A map whose keys are all keys of another one is no larger. -/
theorem size_le_of_keys {m : SortedMap κ ν} {n : SortedMap κ μ} (h : ∀ k ∈ m.keys, k ∈ n.keys) :
    m.size ≤ n.size := by
  have hle := size_le_of_mem h
  rwa [show n.keys.size = n.size from List.length_map Prod.fst] at hle

omit [DecidableLT κ] in
/-- A map whose entries are all entries of another one that is no larger is the other one. -/
theorem eq_of_subset_of_size_le {m n : SortedMap κ ν} (h : ∀ e ∈ m.entries, e ∈ n.entries)
    (hsize : n.size ≤ m.size) : m = n := by
  have hperm : m.entries.Perm n.entries :=
    (List.subperm_of_subset m.nodup_entries h).perm_of_length_le hsize
  refine ext_entries (hperm.eq_of_pairwise (fun a b _ _ hab hba => ?_) m.sorted n.sorted)
  exact absurd (Std.lt_trans hab hba) Std.lt_irrefl

/-- Leaving out some keys divides the entries into those that stay and those of the keys. -/
theorem perm_entries_filter_not_mem [BEq κ] [LawfulBEq κ] (m : SortedMap κ ν) {ks : List κ}
    (hnodup : ks.Nodup) :
    m.entries.Perm ((m.filter fun k _ => !ks.contains k).entries ++
      ks.filterMap fun k => (m.get? k).map fun v => (k, v)) := by
  have hkept (e : κ × ν) : e ∈ (m.filter fun k _ => !ks.contains k).entries ↔
      e ∈ m.entries ∧ e.1 ∉ ks := by
    unfold filter
    rw [List.mem_filter, Bool.not_eq_true', ← Bool.not_eq_true, List.contains_iff_mem]
  have hgone (e : κ × ν) : (e ∈ ks.filterMap fun k => (m.get? k).map fun v => (k, v)) ↔
      e ∈ m.entries ∧ e.1 ∈ ks := by
    rw [List.mem_filterMap]
    constructor
    · rintro ⟨k, hk, he⟩
      obtain ⟨v, hv, rfl⟩ := Option.map_eq_some_iff.mp he
      exact ⟨get?_eq_some_iff.mp hv, hk⟩
    · rintro ⟨he, hk⟩
      exact ⟨e.1, hk, Option.map_eq_some_iff.mpr ⟨e.2, get?_eq_some_iff.mpr he, rfl⟩⟩
  have hnodupGone : (ks.filterMap fun k => (m.get? k).map fun v => (k, v)).Nodup := by
    refine hnodup.filterMap fun k k' e he he' => ?_
    obtain ⟨v, -, rfl⟩ := Option.map_eq_some_iff.mp he
    obtain ⟨v', -, heq⟩ := Option.map_eq_some_iff.mp he'
    exact (congrArg Prod.fst heq).symm
  refine (List.perm_ext_iff_of_nodup m.nodup_entries ?_).mpr fun e => ?_
  · refine List.nodup_append.mpr ⟨nodup_entries _, hnodupGone, fun a ha b hb heq => ?_⟩
    rw [heq] at ha
    exact ((hkept b).mp ha).2 ((hgone b).mp hb).2
  · rw [List.mem_append, hkept, hgone, ← and_or_left]
    exact (and_iff_left (Classical.em _).symm).symm

/-- Leaving out some of its keys makes a map smaller by as many. -/
theorem size_filter_not_mem [BEq κ] [LawfulBEq κ] {m : SortedMap κ ν} {ks : List κ}
    (hnodup : ks.Nodup) (hkeys : ∀ k ∈ ks, k ∈ m.keys) :
    (m.filter fun k _ => !ks.contains k).size + ks.length = m.size := by
  have hgone : (ks.filterMap fun k => (m.get? k).map fun v => (k, v)).length = ks.length := by
    refine List.filterMap_length_eq_length.mpr fun k hk => ?_
    obtain ⟨v, hv⟩ := mem_keys_iff.mp (hkeys k hk)
    rw [hv]
    rfl
  have hlength := (m.perm_entries_filter_not_mem hnodup).length_eq
  rw [List.length_append, hgone] at hlength
  exact hlength.symm

variable [DecidableEq κ]

/-- An erased entry is missing, and no other one. -/
theorem size_erase {m : SortedMap κ ν} {k : κ} (h : k ∈ m.keys) :
    (m.erase k).size + 1 = m.size := by
  have herase : m.erase k = m.filter fun j _ => !List.contains [k] j := by
    refine ext_get? fun j => ?_
    rw [get?_erase, get?_filter_of_key fun j => !List.contains [k] j]
    by_cases hj : j = k <;> simp [hj]
  have hkeys : ∀ j ∈ [k], j ∈ m.keys := by
    intro j hj
    rw [List.mem_singleton.mp hj]
    exact h
  rw [herase]
  exact size_filter_not_mem (List.nodup_singleton k) hkeys

theorem mem_entries_erase {m : SortedMap κ ν} {k : κ} {e : κ × ν} :
    e ∈ (m.erase k).entries ↔ e ∈ m.entries ∧ e.1 ≠ k := by
  rw [← get?_eq_some_iff, ← get?_eq_some_iff, get?_erase]
  by_cases hk : e.1 = k <;> simp [hk]

/-- A map grows by one entry where there was none. -/
theorem size_insert (m : SortedMap κ ν) (k : κ) (v : ν) :
    (m.insert k v).size = if m.contains k then m.size else m.size + 1 := by
  have herase : (m.insert k v).erase k = m.erase k := by
    refine ext_get? fun j => ?_
    rw [get?_erase, get?_erase, get?_insert]
    by_cases hj : j = k <;> simp [hj]
  have hkey : k ∈ (m.insert k v).keys :=
    mem_keys_iff.mpr ⟨v, (get?_insert m k k v).trans (if_pos rfl)⟩
  rw [← size_erase hkey, herase]
  by_cases hk : m.contains k = true
  · rw [if_pos hk, size_erase (contains_keys.mp hk)]
  · have hnone : m.get? k = none := not_contains_iff.mp hk
    have hsame : m.erase k = m := by
      refine ext_get? fun j => ?_
      rw [get?_erase]
      by_cases hj : j = k
      · rw [if_pos hj, hj, hnone]
      · rw [if_neg hj]
    rw [if_neg hk, hsame]

end

end ServicePlacement.SortedMap
