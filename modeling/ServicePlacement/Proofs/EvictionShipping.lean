import ServicePlacement.Demand.Shipping
import ServicePlacement.Proofs.TableRuns

/-!
Eviction and what is shipped of it. Trimming divides the entries of a table into those that it keeps
and those that it answers, so nothing is lost on the way out. How many leave the table can be
computed in machine words, because the limit is never above the size there and never zero. A report
trims once and hands over all that left the table, at once and in one batch, and it does nothing
else to the world; what becomes of the batch changes neither the table nor the count.
-/
namespace ServicePlacement.Demand

/-! ### The number of evictions in machine words -/

def Limits.evictionWord (limits : Limits) (size : UInt64) : UInt64 :=
  min (max limits.evictionSize (size - limits.maxSize + 1)) size

section

variable {limits : Limits} {size : UInt64}

/-- The difference is small enough to be counted up, as the limit is not zero. -/
theorem Limits.toNat_excess (h : limits.maxSize ≤ size) :
    (size - limits.maxSize + 1).toNat = size.toNat - limits.maxSize.toNat + 1 := by
  have hpos := limits.maxSize_pos
  have hword := size.toNat_lt
  have hone : (1 : UInt64).toNat = 1 := rfl
  rw [UInt64.toNat_add, UInt64.toNat_sub_of_le _ _ h, hone]
  apply Nat.mod_eq_of_lt
  omega

theorem Limits.toNat_evictionWord (h : limits.maxSize ≤ size) :
    (limits.evictionWord size).toNat =
      min (max limits.evictionSize.toNat (size.toNat - limits.maxSize.toNat + 1)) size.toNat := by
  unfold evictionWord
  rw [UInt64.toNat_min, UInt64.toNat_max, toNat_excess h]

end

/-! ### The entries that leave the table -/

namespace Table

theorem evictionCount_of_lt {t : Table} (h : t.size < t.limits.maxSize.toNat) :
    t.evictionCount = 0 := by
  unfold evictionCount
  exact if_pos h

theorem evictionCount_of_le {t : Table} (h : t.limits.maxSize.toNat ≤ t.size) :
    t.evictionCount =
      min (max t.limits.evictionSize.toNat (t.size - t.limits.maxSize.toNat + 1)) t.size := by
  unfold evictionCount
  exact if_neg (Nat.not_lt.mpr h)

def evictedEntries (t : Table) (favoured : List ServiceName) : List (ServiceName × Profile) :=
  (t.victims favoured).filterMap fun name => (t.profiles.get? name).map fun p => (name, p)

theorem map_snd_evictedEntries (t : Table) (favoured : List ServiceName) :
    (t.evictedEntries favoured).map Prod.snd = (t.trim favoured).1 := by
  unfold evictedEntries
  rw [List.map_filterMap]
  simp only [Option.map_map, Function.comp_def, Option.map_id']
  rfl

/-- Every victim has an entry, so every one of them leaves the table with it. -/
theorem map_fst_evictedEntries (t : Table) (favoured : List ServiceName) :
    (t.evictedEntries favoured).map Prod.fst = t.victims favoured := by
  have hself : ∀ name ∈ t.victims favoured,
      (t.profiles.get? name).map (fun _ => name) = some name := by
    intro name hname
    obtain ⟨p, hp⟩ := get?_of_mem_victims hname
    rw [hp]
    rfl
  unfold evictedEntries
  rw [List.map_filterMap]
  simp only [Option.map_map, Function.comp_def]
  rw [List.filterMap_congr hself, List.filterMap_some]

/-- What trimming keeps and what it takes out are together the table as it was. -/
theorem perm_entries_trim (t : Table) (favoured : List ServiceName) :
    t.profiles.entries.Perm
      ((t.trim favoured).2.profiles.entries ++ t.evictedEntries favoured) :=
  t.profiles.perm_entries_filter_not_mem (t.nodup_victims favoured)

theorem get?_of_mem_evictedEntries {t : Table} {favoured : List ServiceName}
    {e : ServiceName × Profile} (h : e ∈ t.evictedEntries favoured) :
    t.profiles.get? e.1 = some e.2 := by
  have hmem : e ∈ t.profiles.entries :=
    (t.perm_entries_trim favoured).mem_iff.mpr (List.mem_append_right _ h)
  exact SortedMap.get?_eq_some_iff.mpr hmem

/-- Without evictions the table stays as it is. -/
theorem trim_of_lt {t : Table} (h : t.size < t.limits.maxSize.toNat)
    (favoured : List ServiceName) : t.trim favoured = ([], t) := by
  have hnone : t.victims favoured = [] := by
    unfold victims
    rw [evictionCount_of_lt h, List.take_zero]
  have hevicted : (t.trim favoured).1 = [] := by
    rw [← map_snd_evictedEntries]
    unfold evictedEntries
    rw [hnone]
    rfl
  have hkept : (t.trim favoured).2.profiles = t.profiles := by
    refine SortedMap.ext_get? fun name => ?_
    rw [get?_trim, hnone, if_neg List.not_mem_nil]
  have htable : (t.trim favoured).2 = { t with profiles := (t.trim favoured).2.profiles } := rfl
  rw [hkept] at htable
  exact Prod.ext hevicted htable

/-! ### Reports -/

section

variable {σ : Type} {t : Table} {favoured : List ServiceName} {handover : Option (Handover σ)}

@[simp] theorem evicted_reportTo (world : σ) :
    ((t.reportTo handover favoured).run world).1.evicted = (t.trim favoured).1.length := by
  unfold reportTo
  dsimp only
  split
  · rfl
  · cases handover <;> rfl

@[simp] theorem table_reportTo (world : σ) :
    ((t.reportTo handover favoured).run world).1.table = (t.trim favoured).2 := by
  unfold reportTo
  dsimp only
  split
  · rfl
  · cases handover <;> rfl

/-- Without evictions nothing is handed over. -/
theorem reportTo_of_eq_nil (h : (t.trim favoured).1 = []) (world : σ) :
    (t.reportTo handover favoured).run world = (⟨0, .nothing, (t.trim favoured).2⟩, world) := by
  unfold reportTo
  dsimp only
  rw [h]
  rfl

theorem isEmpty_map_of_ne_nil {evicted : List Profile} (h : evicted ≠ []) :
    ¬ (evicted.map Profile.toExport).isEmpty = true := by
  rw [List.isEmpty_iff, List.map_eq_nil_iff]
  exact h

theorem reportTo_none (h : (t.trim favoured).1 ≠ []) (world : σ) :
    (t.reportTo none favoured).run world =
      (⟨(t.trim favoured).1.length, .dropped, (t.trim favoured).2⟩, world) := by
  unfold reportTo
  dsimp only
  rw [if_neg (isEmpty_map_of_ne_nil h)]
  rfl

/-- The world is left as it is left by one handover of all that is evicted. -/
theorem reportTo_some (h : (t.trim favoured).1 ≠ []) (ship : Handover σ) (world : σ) :
    let batch := (t.trim favoured).1.map Profile.toExport
    let (arrived, after) := (ship batch).run world
    (t.reportTo (some ship) favoured).run world =
      (⟨(t.trim favoured).1.length, .sent batch arrived, (t.trim favoured).2⟩, after) := by
  unfold reportTo
  dsimp only
  rw [if_neg (isEmpty_map_of_ne_nil h)]
  rfl

/-- A log of what is handed over gets one entry, or none if nothing is evicted. -/
theorem log_reportTo {α : Type} (ship : Carrier) (note : List Export → α) (log : List α) :
    ((t.reportTo (some (ship.logged note)) favoured).run log).2 =
      if (t.trim favoured).1 = [] then log
      else note ((t.trim favoured).1.map Profile.toExport) :: log := by
  by_cases h : (t.trim favoured).1 = []
  · rw [if_pos h, reportTo_of_eq_nil h]
  · rw [if_neg h, reportTo_some h]
    rfl

theorem report_some (h : (t.trim favoured).1 ≠ []) (ship : Carrier) :
    let batch := (t.trim favoured).1.map Profile.toExport
    t.report (some ship) favoured =
      ⟨(t.trim favoured).1.length, .sent batch (ship batch), (t.trim favoured).2⟩ :=
  congrArg Prod.fst (reportTo_some h (ship.handover Unit) ())

end

/-- What a report does with a table. Below its limit the table stays as it is. From the limit on as
many profiles leave it as it takes to be below the limit again, at least the usual number and at
most all, and this number does not overflow in machine words. Which names go is free, and what stays
and what goes are together the table as it was. If anything goes, its exports are handed over at
once and in one batch: the world is afterwards as this one handover has left it, and a log of what
is handed over has this one entry more. Otherwise, or without anybody to take them, the world stays
as it is. The count and the table do not depend on it. -/
theorem report_hands_over_evicted (t : Table) (favoured : List ServiceName) {σ : Type}
    (handover : Option (Handover σ)) (world : σ) :
    let most := t.limits.maxSize.toNat
    let evicted := (t.trim favoured).1
    let kept := (t.trim favoured).2
    let batch := evicted.map Profile.toExport
    let reported := (t.reportTo handover favoured).run world
    (t.size < most → evicted = [] ∧ kept = t) ∧
      (most ≤ t.size → evicted.length =
        min t.size (max t.limits.evictionSize.toNat (t.size - most + 1))) ∧
      (∀ size : UInt64, size.toNat = t.size → most ≤ t.size →
        (size - t.limits.maxSize).toNat = t.size - most ∧
          (size - t.limits.maxSize + 1).toNat = t.size - most + 1 ∧
          (t.limits.evictionWord size).toNat = evicted.length) ∧
      kept.size < most ∧
      (∃ gone : List (ServiceName × Profile),
        gone.map Prod.fst = t.victims favoured ∧ gone.map Prod.snd = evicted ∧
          t.profiles.entries.Perm (kept.profiles.entries ++ gone) ∧
          ((t.Entries fun name p => p.name = name) → ∀ e ∈ gone, e.2.name = e.1)) ∧
      (∀ chosen : List ServiceName, chosen.Nodup → (∀ name ∈ chosen, t.contains name = true) →
        chosen.length = evicted.length → t.victims chosen = chosen) ∧
      reported.1.evicted = evicted.length ∧ reported.1.table = kept ∧
      (evicted = [] → reported.1.shipment = .nothing ∧ reported.2 = world) ∧
      (evicted ≠ [] → handover = none → reported.1.shipment = .dropped ∧ reported.2 = world) ∧
      (evicted ≠ [] → ∀ ship, handover = some ship →
        reported.1.shipment = .sent batch ((ship batch).run world).1 ∧
          reported.2 = ((ship batch).run world).2) ∧
      (∀ (ship : Carrier) (log : List (List Export)),
        ((t.reportTo (some (ship.logged id)) favoured).run log).2 =
          if evicted = [] then log else batch :: log) ∧
      (evicted ≠ [] → ∀ ship : Carrier,
        (t.report (some ship) favoured).shipment = .sent batch (ship batch)) := by
  intro most evicted kept batch reported
  have hlength : evicted.length = t.evictionCount := t.length_trim favoured
  have hfull (h : most ≤ t.size) : evicted.length =
      min (max t.limits.evictionSize.toNat (t.size - most + 1)) t.size :=
    hlength.trans (evictionCount_of_le h)
  refine ⟨fun h => ?_, fun h => ?_, fun size hsize h => ?_, t.size_trim_lt favoured, ?_, ?_,
    evicted_reportTo world, table_reportTo world, fun hnone => ?_, fun hsome hnobody => ?_,
    fun hsome ship hship => ?_, fun ship log => log_reportTo ship id log,
    fun hsome ship => congrArg Report.shipment (report_some hsome ship)⟩
  · exact Prod.mk.inj (trim_of_lt h favoured)
  · rw [hfull h, Nat.min_comm]
  · have hle : t.limits.maxSize ≤ size := by
      rw [UInt64.le_iff_toNat_le, hsize]
      exact h
    rw [UInt64.toNat_sub_of_le _ _ hle, Limits.toNat_excess hle, Limits.toNat_evictionWord hle,
      hsize]
    exact ⟨rfl, rfl, (hfull h).symm⟩
  · refine ⟨t.evictedEntries favoured, t.map_fst_evictedEntries favoured,
      t.map_snd_evictedEntries favoured, t.perm_entries_trim favoured, fun hkeyed e he => ?_⟩
    exact hkeyed e.1 e.2 (get?_of_mem_evictedEntries he)
  · intro chosen hnodup hknown hchosen
    exact victims_eq_favoured hnodup hknown (hchosen.trans hlength)
  · have hreported : reported = (⟨0, .nothing, kept⟩, world) := reportTo_of_eq_nil hnone world
    rw [hreported]
    exact ⟨rfl, rfl⟩
  · subst hnobody
    have hreported : reported = (⟨evicted.length, .dropped, kept⟩, world) :=
      reportTo_none hsome world
    rw [hreported]
    exact ⟨rfl, rfl⟩
  · subst hship
    have hreported : reported = (⟨evicted.length, .sent batch ((ship batch).run world).1, kept⟩,
        ((ship batch).run world).2) := reportTo_some hsome ship world
    rw [hreported]
    exact ⟨rfl, rfl⟩

def threeRequests : List Step :=
  ["a", "b", "c"].map fun name => .record (some name) (.v4 ⟨10, 0, 0, 1⟩) 10

/-- Three names where there is room for one: two of them leave the table, although one at a time is
usual, and both are handed over at once, to a carrier that does not arrive. After that there is
nothing to evict, and the carrier is left alone. -/
theorem report_hands_over_evicted_overfull :
    let t := (new .standard .empty (.of 2 1)).run threeRequests
    let ship : Handover (List (List Export)) := Carrier.logged (fun _ => false) id
    let batch := (t.trim ["c", "b"]).1.map Profile.toExport
    let reported := (t.reportTo (some ship) ["c", "b"]).run []
    t.limits.maxSize.toNat ≤ t.size ∧ (t.Entries fun name p => p.name = name) ∧
      t.victims ["c", "b"] = ["c", "b"] ∧ batch.map Export.name = ["c", "b"] ∧
      reported.1.evicted = 2 ∧ (t.limits.evictionWord 3).toNat = 2 ∧ reported.1.table.size < 2 ∧
      reported.1.shipment = .sent batch false ∧ reported.2 = [batch] ∧
      (t.report none ["c", "b"]).shipment = .dropped ∧
      ((reported.1.table.reportTo (some ship) []).run [batch]).2 = [batch] := by
  intro t ship batch reported
  have hfull : t.limits.maxSize.toNat ≤ t.size := by decide +kernel
  have hkeyed := run_keyed .standard .empty (.of 2 1) threeRequests
  obtain ⟨-, hcount, hword, hbelow, ⟨gone, hfst, hsnd, -, hown⟩, hchoice, -, -, -, -, hsent, -⟩ :=
    report_hands_over_evicted t ["c", "b"] (some ship) []
  have htwo : (t.trim ["c", "b"]).1.length = 2 := (hcount hfull).trans (by decide +kernel)
  have hwordTwo : (t.limits.evictionWord 3).toNat = 2 :=
    (hword 3 (by decide +kernel) hfull).2.2.trans htwo
  have hvictims : t.victims ["c", "b"] = ["c", "b"] :=
    hchoice _ (by decide) (by decide +kernel) htwo.symm
  have hnames : batch.map Export.name = ["c", "b"] := by
    show ((t.trim ["c", "b"]).1.map Profile.toExport).map Export.name = _
    rw [← hsnd, List.map_map, List.map_map, ← hvictims, ← hfst]
    exact List.map_congr_left fun e he => (Profile.name_toExport e.2).trans (hown hkeyed e he)
  have hsome : (t.trim ["c", "b"]).1 ≠ [] := List.ne_nil_of_length_pos (by omega)
  obtain ⟨hshipment, hlog⟩ := hsent hsome ship rfl
  obtain ⟨-, -, -, -, -, -, -, -, -, hdropped, -⟩ :=
    report_hands_over_evicted t ["c", "b"] (none : Option (Handover Unit)) ()
  obtain ⟨hrest, -, -, -, -, -, -, -, hquiet, -⟩ :=
    report_hands_over_evicted reported.1.table [] (some ship) [batch]
  exact ⟨hfull, hkeyed, hvictims, hnames, htwo, hwordTwo, hbelow, hshipment, hlog,
    (hdropped hsome rfl).1, (hquiet (hrest hbelow).1).2⟩

end Table

end ServicePlacement.Demand
