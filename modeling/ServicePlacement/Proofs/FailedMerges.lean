import ServicePlacement.Proofs.DemandLedger
import ServicePlacement.Proofs.RegistryKinds

/-!
What a merge that answers an error leaves behind. A strategy that is not registered, a different
kind, and statistics that cannot be read are all found before the table changes. The copy of the
entry is only made afterwards, so if the merged average gap has left the range of doubles, the
answer is an error and the merged entry stays.
-/
namespace ServicePlacement.Demand.Table

variable {t : Table} {update : Profile}

theorem kind_of_merged {p : Profile} (h : t.merged update = .ok p) : p.kind = update.kind := by
  rcases merged_cases h with ⟨-, rfl⟩ | ⟨existing, -, hmerge⟩
  · rfl
  · obtain ⟨hupdate, hp⟩ := Profile.kind_of_merge hmerge
    rw [hp, hupdate]

/-- An update that is refused leaves the table as it was, unless it has made an entry that cannot be
rebuilt. -/
theorem accept_error_cases (hr : t.registry.Built) {err : DemandError}
    (h : (t.accept update).1 = .error err) :
    (t.accept update).2 = t ∨
      ∃ p, t.merged update = .ok p ∧ p.isRestorable = false ∧
        (t.accept update).2 = t.put update.name p := by
  rcases t.accept_cases update with ⟨_, haccept, -⟩ | ⟨strategy, p, hlookup, hmerged, haccept, -⟩
  · exact .inl (congrArg Prod.snd haccept)
  · refine .inr ⟨p, hmerged, ?_, congrArg Prod.snd haccept⟩
    have hkind : strategy.kind = p.kind :=
      (Registry.kind_of_lookup hr hlookup).trans (kind_of_merged hmerged).symm
    rw [haccept] at h
    refine eq_false_of_ne_true fun hrestorable => ?_
    obtain ⟨q, hq⟩ := (Strategy.exists_restore_toExport_iff hkind).mpr hrestorable
    cases hq.symm.trans h

/-- A merge that answers an error, of a profile or of an export, leaves the table as it was. The one
exception is an entry whose average gap is no longer a finite number from zero on: it is kept,
though no copy of it can be answered. -/
theorem failed_merge_cases (t : Table) (hr : t.registry.Built) :
    (∀ update err, (t.accept update).1 = .error err →
      (t.accept update).2 = t ∨
        ∃ p, t.merged update = .ok p ∧ p.isRestorable = false ∧
          (t.accept update).2 = t.put update.name p) ∧
      ∀ e err, (t.acceptExport e).1 = .error err →
        (t.acceptExport e).2 = t ∨
          ∃ update p, t.registry.restore e = .ok update ∧ t.merged update = .ok p ∧
            p.isRestorable = false ∧ (t.acceptExport e).2 = t.put update.name p := by
  refine ⟨fun update err h => accept_error_cases hr h, fun e err h => ?_⟩
  rcases t.acceptExport_cases e with ⟨_, haccept, -⟩ | ⟨update, hrestore, haccept, -⟩
  · exact .inl (congrArg Prod.snd haccept)
  · rw [haccept] at h ⊢
    rcases accept_error_cases hr h with hsame | ⟨p, hmerged, hrestorable, hput⟩
    · exact .inl hsame
    · exact .inr ⟨update, p, hrestore, hmerged, hrestorable, hput⟩

def hugeGapExport : Export :=
  Profile.toExport (.rate "a" {} { requests := 10, total := 10, gap := 1e308 })

theorem exists_error_of_isSome {ε α : Type} {x : Except ε α} (h : x.toOption.isSome = false) :
    ∃ err, x = .error err := by
  cases x with
  | error err => exact ⟨err, rfl⟩
  | ok a => cases h

theorem failed_merge_cases_negative_gap :
    let t := (new .standard .empty (.of 1 1)).run [.acceptExport hugeGapExport]
    let e := Profile.toExport (.rate "a" {} { total := 1, gap := -10 })
    t.registry.Built ∧ ∃ err, (t.acceptExport e).1 = .error err ∧
      ((t.acceptExport e).2 = t ∨
        ∃ update p, t.registry.restore e = .ok update ∧ t.merged update = .ok p ∧
          p.isRestorable = false ∧ (t.acceptExport e).2 = t.put update.name p) := by
  intro t e
  have hr : t.registry.Built := by
    rw [show t.registry = Registry.standard from registry_run _ _]
    exact Registry.built_standard
  obtain ⟨err, herr⟩ : ∃ err, (t.acceptExport e).1 = .error err :=
    exists_error_of_isSome (by decide +kernel)
  exact ⟨hr, err, herr, (failed_merge_cases t hr).2 e err herr⟩

/-- A merge can answer an error and leave a changed table. -/
theorem failed_merge_changes_entry :
    ¬ ∀ (registry : Registry) (cluster : Cluster) (limits : Limits) (steps : List Step) (e : Export)
        (err : DemandError), registry.Built →
      (((new registry cluster limits).run steps).acceptExport e).1 = .error err →
        (((new registry cluster limits).run steps).acceptExport e).2 =
          (new registry cluster limits).run steps := by
  intro hclaim
  have herr : ∃ err,
      (((new .standard .empty (.of 1 1)).run [.acceptExport hugeGapExport]).acceptExport
        hugeGapExport).1 = .error err := exists_error_of_isSome (by decide +kernel)
  obtain ⟨err, herr⟩ := herr
  have hsame := congrArg (demandOf · "a")
    (hclaim _ _ _ _ hugeGapExport err Registry.built_standard herr)
  revert hsame
  decide +kernel

end ServicePlacement.Demand.Table
