import ServicePlacement.Proofs.FailedMerges

/-!
Entries whose strategy is not registered, so that they can never be withdrawn. All operations but
one give a name a profile of a registered kind or keep the kind of its entry (`Makes.kind_cases`);
only installing takes in a profile of any kind. An entry that strays in this way stays until it is
evicted, since no profile of its kind can be merged into it.
-/
namespace ServicePlacement.Demand.Table

def IsStray (t : Table) (name : ServiceName) : Prop :=
  ∃ p, t.profiles.get? name = some p ∧ t.registry.knows p.kind = false

def InstallsStray (t : Table) (name : ServiceName) (s : Step) : Prop :=
  ∃ p, s = .install p ∧ p.name = name ∧ t.registry.knows p.kind = false ∧ t.contains name = false

def staysIn (t : Table) (name : ServiceName) : List Step → Bool
  | [] => true
  | s :: rest => (t.next s).contains name && (t.next s).staysIn name rest

variable {t : Table} {name : ServiceName}

theorem contains_iff : t.contains name = true ↔ ∃ p, t.profiles.get? name = some p :=
  SortedMap.contains_iff

theorem IsStray.contains (h : t.IsStray name) : t.contains name = true := by
  obtain ⟨p, hp, -⟩ := h
  exact contains_iff.mpr ⟨p, hp⟩

/-- A profile that a step makes the entry of a name is of the kind of the entry before or of a
registered kind, unless it is installed. -/
theorem Makes.kind_cases (hr : t.registry.Built) {s : Step} {p : Profile}
    (h : t.Makes s name p) :
    (∃ old, t.profiles.get? name = some old ∧ p.kind = old.kind) ∨
      (t.registry.knows p.kind = true ∧ ¬ t.IsStray name) ∨
      (s = .install p ∧ p.name = name ∧ t.contains name = false) := by
  have hnew {k : ServiceName} (hnone : t.profiles.get? k = none) : ¬ t.IsStray k := by
    rintro ⟨q, hq, -⟩
    cases hnone.symm.trans hq
  have hcreate (k : ServiceName) : t.registry.knows (t.registry.create k).kind = true := by
    rw [Registry.kind_create]
    exact Registry.knows_kindFor hr k
  cases h with
  | recorded name sender now =>
    rw [Profile.kind_record]
    cases hget : t.profiles.get? name with
    | none => exact .inr (.inl ⟨hcreate name, hnew hget⟩)
    | some old => exact .inl ⟨old, rfl, rfl⟩
  | moved current c now marked hget => exact .inl ⟨_, hget, Profile.kind_moved _ marked⟩
  | merged hs hlookup hmerged htakes =>
    rcases merged_cases hmerged with ⟨hnone, rfl⟩ | ⟨old, hold, hmerge⟩
    · exact .inr (.inl ⟨Registry.knows_iff.mpr ⟨_, hlookup⟩, hnew hnone⟩)
    · exact .inl ⟨old, hold, (Profile.kind_of_merge hmerge).2⟩
  | begun hget hcopy =>
    refine .inr (.inl ⟨hcreate name, ?_⟩)
    rintro ⟨q, hq, hunknown⟩
    cases hget.symm.trans hq
    obtain ⟨strategy, hlookup, -⟩ := Registry.restore_eq_ok hcopy
    rw [Profile.kind_toExport] at hlookup
    rw [Registry.knows_iff.mpr ⟨strategy, hlookup⟩] at hunknown
    cases hunknown
  | installed hget htakes => exact .inr (.inr ⟨rfl, rfl, congrArg Option.isSome hget⟩)

theorem isStray_put_iff {k : ServiceName} {p : Profile} :
    (t.put k p).IsStray name ↔
      if name = k then t.registry.knows p.kind = false else t.IsStray name := by
  unfold IsStray
  simp only [get?_put]
  by_cases hname : name = k
  · simp [hname, put]
  · simp [hname, put]

theorem isStray_trim_iff (t : Table) (favoured : List ServiceName) :
    (t.next (.trim favoured)).IsStray name ↔
      t.IsStray name ∧ (t.next (.trim favoured)).contains name = true := by
  have hget : (t.next (.trim favoured)).profiles.get? name = _ := t.get?_trim favoured name
  constructor
  · rintro ⟨p, hp, hunknown⟩
    refine ⟨⟨p, ?_, hunknown⟩, contains_iff.mpr ⟨p, hp⟩⟩
    rw [hget] at hp
    split at hp
    · cases hp
    · exact hp
  · rintro ⟨⟨p, hp, hunknown⟩, hstays⟩
    obtain ⟨q, hq⟩ := contains_iff.mp hstays
    refine ⟨q, hq, ?_⟩
    rw [hget] at hq
    split at hq
    · cases hq
    · cases hp.symm.trans hq
      exact hunknown

/-- An entry strays after a step if it strayed before and is still there, or if it is installed. -/
theorem isStray_next_iff (hr : t.registry.Built) (s : Step) :
    (t.next s).IsStray name ↔
      (t.IsStray name ∧ (t.next s).contains name = true) ∨ t.InstallsStray name s := by
  by_cases htrim : s.isTrim = true
  · cases s with
    | trim favoured =>
      rw [isStray_trim_iff]
      refine (or_iff_left ?_).symm
      rintro ⟨p, hs, -⟩
      cases hs
    | _ => cases htrim
  · constructor
    · intro h
      rcases t.next_cases (eq_false_of_ne_true htrim) with hnext | ⟨k, q, hmakes, hnext⟩
      · exact .inl ⟨hnext ▸ h, h.contains⟩
      · have hstray := h
        rw [hnext, isStray_put_iff] at hstray
        split at hstray
        · rename_i hname
          subst hname
          rcases hmakes.kind_cases hr with ⟨old, hold, hkind⟩ | ⟨hknown, -⟩ | ⟨hs, hq, hnone⟩
          · exact .inl ⟨⟨old, hold, hkind ▸ hstray⟩, h.contains⟩
          · cases hknown.symm.trans hstray
          · exact .inr ⟨q, hs, hq, hstray, hnone⟩
        · exact .inl ⟨hstray, h.contains⟩
    · rintro (⟨hstray, -⟩ | ⟨p, rfl, rfl, hunknown, hnone⟩)
      · rcases t.next_cases (eq_false_of_ne_true htrim) with hnext | ⟨k, q, hmakes, hnext⟩
        · rw [hnext]
          exact hstray
        · rw [hnext, isStray_put_iff]
          split
          · rename_i hname
            subst hname
            rcases hmakes.kind_cases hr with ⟨old, hold, hkind⟩ | ⟨-, hnot⟩ | ⟨-, -, hnone⟩
            · obtain ⟨p, hp, hunknown⟩ := hstray
              cases hold.symm.trans hp
              exact hkind ▸ hunknown
            · exact absurd hstray hnot
            · cases hnone.symm.trans hstray.contains
          · exact hstray
      · have hnext : t.next (.install p) = t.put p.name p := by
          simp [next, perform, install, hnone]
        rw [hnext, isStray_put_iff, if_pos rfl]
        exact hunknown

/-- An entry strays after a run if it has strayed since before, or since some step of the run has
installed it. -/
theorem isStray_run_iff (hr : t.registry.Built) (steps : List Step) :
    (t.run steps).IsStray name ↔
      (t.IsStray name ∧ t.staysIn name steps = true) ∨
        ∃ before s after, steps = before ++ s :: after ∧ (t.run before).InstallsStray name s ∧
          ((t.run before).next s).staysIn name after = true := by
  induction steps generalizing t with
  | nil => simp [run, staysIn]
  | cons s rest ih =>
    rw [run_cons, ih ((t.next_setup s).1.symm ▸ hr), isStray_next_iff hr]
    simp only [staysIn, Bool.and_eq_true]
    constructor
    · rintro (⟨⟨hstray, hhere⟩ | hinstalls, hstays⟩ | ⟨before, s', after, rfl, hinstalls, hstays⟩)
      · exact .inl ⟨hstray, hhere, hstays⟩
      · exact .inr ⟨[], s, rest, rfl, hinstalls, hstays⟩
      · exact .inr ⟨s :: before, s', after, rfl, hinstalls, hstays⟩
    · rintro (⟨hstray, hhere, hstays⟩ | ⟨before, s', after, hsteps, hinstalls, hstays⟩)
      · exact .inl ⟨.inl ⟨hstray, hhere⟩, hstays⟩
      · cases before with
        | nil =>
          cases hsteps
          exact .inl ⟨.inr hinstalls, hstays⟩
        | cons first before =>
          cases hsteps
          exact .inr ⟨before, s', after, rfl, hinstalls, hstays⟩

/-- A withdrawal finds a strategy unknown just when the entry is of a kind that is not registered.
-/
theorem withdraw_eq_unknownProfile_iff {kind : String} :
    (t.withdraw name).1 = .error (.unknownProfile kind) ↔
      ∃ p, t.profiles.get? name = some p ∧ p.kind = kind ∧ t.registry.knows kind = false := by
  constructor
  · intro h
    rcases t.withdraw_cases name with ⟨-, hw⟩ | ⟨p, hget, ⟨e, hrestore, hw⟩ | ⟨copy, -, hw⟩⟩
    · cases (congrArg Prod.fst hw).symm.trans h
    · cases (congrArg Prod.fst hw).symm.trans h
      refine ⟨p, hget, ?_⟩
      cases hknown : t.registry.knows p.kind with
      | false =>
        unfold Registry.restore at hrestore
        rw [Profile.kind_toExport, Registry.lookup_of_not_knows hknown] at hrestore
        cases hrestore
        exact ⟨rfl, hknown⟩
      | true =>
        obtain ⟨s, hs⟩ := Registry.knows_iff.mp hknown
        unfold Registry.restore at hrestore
        rw [Profile.kind_toExport, hs] at hrestore
        exact absurd hrestore (s.restore_ne_unknownProfile _ kind)
    · cases (congrArg Prod.fst hw).symm.trans h
  · rintro ⟨p, hget, rfl, hunknown⟩
    have hrestore : t.registry.restore p.toExport = .error (.unknownProfile p.kind) := by
      unfold Registry.restore
      rw [Profile.kind_toExport, Registry.lookup_of_not_knows hunknown]
      rfl
    unfold withdraw
    simp only [hget, hrestore]

/-- After any run every entry is under the name of its own profile. Its strategy is registered, and
a withdrawal does not find it unknown, unless the run has installed a profile of another kind for
the name, when it had no entry, and the name has had an entry ever since. -/
theorem entries_registered_unless_installed {registry : Registry} (hr : registry.Built)
    (cluster : Cluster) (limits : Limits) (steps : List Step) :
    let start := new registry cluster limits
    let t := start.run steps
    (∀ name p, t.profiles.get? name = some p →
        p.name = name ∧
          (registry.knows p.kind = false ↔
            ∃ before s after, steps = before ++ s :: after ∧
              (start.run before).InstallsStray name s ∧
              ((start.run before).next s).staysIn name after = true)) ∧
      ∀ name kind, (t.withdraw name).1 = .error (.unknownProfile kind) ↔
        ∃ p, t.profiles.get? name = some p ∧ p.kind = kind ∧ registry.knows kind = false := by
  intro start t
  have hregistry : t.registry = registry := registry_run _ _
  refine ⟨fun name p hget => ⟨run_keyed registry cluster limits steps name p hget, ?_⟩, ?_⟩
  · have hstray : t.IsStray name ↔ registry.knows p.kind = false := by
      constructor
      · rintro ⟨q, hq, hunknown⟩
        cases hget.symm.trans hq
        exact hregistry ▸ hunknown
      · intro hunknown
        exact ⟨p, hget, hregistry ▸ hunknown⟩
    rw [← hstray, isStray_run_iff (t := start) hr]
    refine or_iff_right ?_
    rintro ⟨⟨q, hq, -⟩, -⟩
    cases hq
  · intro name kind
    rw [withdraw_eq_unknownProfile_iff, hregistry]

theorem entries_registered_unless_installed_null :
    let registry := Registry.new (.rate {})
    let steps := [Step.install (.null "a"), .record (some "b") (.v4 ⟨10, 0, 0, 1⟩) 5]
    let start := new registry .empty .standard
    let t := start.run steps
    registry.Built ∧ t.profiles.get? "a" = some (.null "a") ∧
      (∃ before s after, steps = before ++ s :: after ∧
        (start.run before).InstallsStray "a" s ∧
        ((start.run before).next s).staysIn "a" after = true) ∧
      (t.withdraw "a").1 = .error (.unknownProfile nullKind) := by
  intro registry steps start t
  have hr : registry.Built := .new _
  have hget : t.profiles.get? "a" = some (.null "a") := rfl
  have hunknown : registry.knows nullKind = false := by decide +kernel
  obtain ⟨hentries, hwithdraw⟩ := entries_registered_unless_installed hr .empty .standard steps
  refine ⟨hr, hget, (hentries "a" _ hget).2.mp hunknown, ?_⟩
  exact (hwithdraw "a" nullKind).mpr ⟨_, hget, rfl, hunknown⟩

/-- An installed profile of an unregistered kind can never be withdrawn. -/
theorem installed_entry_not_registered :
    ¬ ∀ (registry : Registry) (cluster : Cluster) (limits : Limits) (steps : List Step),
      registry.Built →
        ∀ name p, ((new registry cluster limits).run steps).profiles.get? name = some p →
          p.name = name ∧ registry.knows p.kind = true ∧
            ∀ kind, (((new registry cluster limits).run steps).withdraw name).1 ≠
              .error (.unknownProfile kind) := by
  intro hclaim
  let t := (new (.new (.rate {})) .empty .standard).run [.install (.null "a")]
  have hget : t.profiles.get? "a" = some (.null "a") := rfl
  have hknown := (hclaim _ _ _ _ (.new _) "a" _ hget).2.1
  revert hknown
  decide +kernel

end ServicePlacement.Demand.Table
