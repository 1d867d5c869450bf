import ServicePlacement.Demand.Table
import ServicePlacement.Proofs.Distinct
import ServicePlacement.Proofs.MapViews

/-!
What trimming evicts. The order of eviction lists every name of the table exactly once, whichever
names are favoured, so the victims are different names that all have entries, and the other entries
stay as they are. As many profiles leave the table as are to be evicted, and then it is below its
limit.
-/
namespace ServicePlacement.Demand.Table

theorem mem_evictionOrder {t : Table} {favoured : List ServiceName} {name : ServiceName} :
    name ∈ t.evictionOrder favoured ↔ ∃ p, t.profiles.get? name = some p := by
  have hkeys : name ∈ t.profiles.keys.toList ↔ t.contains name = true :=
    SortedMap.contains_keys.symm
  rw [← SortedMap.contains_iff, evictionOrder]
  simp only [List.mem_append, List.mem_filter, List.mem_eraseDups, hkeys]
  by_cases hfavoured : name ∈ favoured <;> simp [hfavoured, contains]

theorem nodup_evictionOrder (t : Table) (favoured : List ServiceName) :
    (t.evictionOrder favoured).Nodup := by
  refine List.nodup_append.mpr ⟨nodup_eraseDups _, t.profiles.nodup_keys.filter _, ?_⟩
  intro a ha b hb heq
  rw [heq] at ha
  have hfresh := (List.mem_filter.mp hb).2
  simp [ha] at hfresh

def victims (t : Table) (favoured : List ServiceName) : List ServiceName :=
  (t.evictionOrder favoured).take t.evictionCount

theorem nodup_victims (t : Table) (favoured : List ServiceName) : (t.victims favoured).Nodup :=
  (t.nodup_evictionOrder favoured).sublist (List.take_sublist _ _)

/-- Any choice of as many names as are to be evicted can be the victims. -/
theorem victims_eq_favoured {t : Table} {favoured : List ServiceName} (hnodup : favoured.Nodup)
    (hknown : ∀ name ∈ favoured, t.contains name = true)
    (hlength : favoured.length = t.evictionCount) : t.victims favoured = favoured := by
  unfold victims evictionOrder
  rw [List.filter_eq_self.mpr hknown, eraseDups_of_nodup hnodup, ← hlength]
  exact List.take_left

theorem get?_trim (t : Table) (favoured : List ServiceName) (k : ServiceName) :
    (t.trim favoured).2.profiles.get? k =
      if k ∈ t.victims favoured then none else t.profiles.get? k := by
  show (t.profiles.filter fun name _ => !(t.victims favoured).contains name).get? k = _
  rw [SortedMap.get?_filter_of_key fun name => !(t.victims favoured).contains name]
  by_cases hk : k ∈ t.victims favoured
  · simp [hk]
  · simp [hk]

theorem evictionCount_le_size (t : Table) : t.evictionCount ≤ t.size := by
  unfold evictionCount
  simp only
  split
  · exact Nat.zero_le _
  · exact Nat.min_le_right _ _

theorem length_evictionOrder (t : Table) (favoured : List ServiceName) :
    (t.evictionOrder favoured).length = t.size := by
  have hperm : (t.evictionOrder favoured).Perm t.profiles.keys.toList := by
    refine (List.perm_ext_iff_of_nodup (t.nodup_evictionOrder favoured)
      t.profiles.nodup_keys).mpr fun name => ?_
    rw [mem_evictionOrder, ← SortedMap.mem_keys_iff]
    rfl
  rw [hperm.length_eq]
  exact List.length_map Prod.fst

theorem length_victims (t : Table) (favoured : List ServiceName) :
    (t.victims favoured).length = t.evictionCount := by
  unfold victims
  rw [List.length_take, length_evictionOrder]
  exact Nat.min_eq_left t.evictionCount_le_size

theorem get?_of_mem_victims {t : Table} {favoured : List ServiceName} {name : ServiceName}
    (h : name ∈ t.victims favoured) : ∃ p, t.profiles.get? name = some p :=
  mem_evictionOrder.mp (List.mem_of_mem_take h)

/-- As many profiles are answered as are to be evicted. -/
theorem length_trim (t : Table) (favoured : List ServiceName) :
    (t.trim favoured).1.length = t.evictionCount := by
  rw [← t.length_victims favoured]
  refine List.filterMap_length_eq_length.mpr fun name hname => ?_
  exact Option.isSome_iff_exists.mpr (get?_of_mem_victims hname)

/-- The table loses as many entries as are evicted. -/
theorem size_trim (t : Table) (favoured : List ServiceName) :
    (t.trim favoured).2.size + t.evictionCount = t.size := by
  rw [← t.length_victims favoured]
  refine SortedMap.size_filter_not_mem (t.nodup_victims favoured) fun name hname => ?_
  exact SortedMap.mem_keys_iff.mpr (get?_of_mem_victims hname)

/-- After trimming, a table is below its limit. -/
theorem size_trim_lt (t : Table) (favoured : List ServiceName) :
    (t.trim favoured).2.size < t.limits.maxSize.toNat := by
  have hsize := t.size_trim favoured
  have hpos := t.limits.maxSize_pos
  unfold evictionCount at hsize
  simp only at hsize
  split at hsize
  · omega
  · omega

end ServicePlacement.Demand.Table
