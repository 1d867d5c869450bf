import ServicePlacement.Proofs.ExportRestore

/-!
Registries that are built step by step know every strategy under its own kind
(`kind_of_lookup`), and all strategies that they give to names (`knows_kindFor`). So the strategy
that is found for a profile is one of the profile's kind, and it rebuilds the profile as soon as the
average gap can be written and read again.
-/
namespace ServicePlacement.Demand

namespace Registry

inductive Built : Registry → Prop where
  | new (s : Strategy) : Built (new s)
  | register {r : Registry} (s : Strategy) : Built r → Built (r.register s)
  | withDefault {r r' : Registry} {kind : String} :
    Built r → r.withDefault kind = .ok r' → Built r'
  | withRule {r r' : Registry} {pattern kind : String} :
    Built r → r.withRule pattern kind = .ok r' → Built r'

theorem built_standard : standard.Built := .register _ (.new _)

theorem lookup_eq_ok_iff {r : Registry} {kind : String} {s : Strategy} :
    r.lookup kind = .ok s ↔ r.strategies.get? kind = some s := by
  unfold lookup
  cases r.strategies.get? kind with
  | none => simp
  | some s' => simp

def knows (r : Registry) (kind : String) : Bool := r.strategies.contains kind

theorem knows_iff {r : Registry} {kind : String} :
    r.knows kind = true ↔ ∃ s, r.lookup kind = .ok s := by
  simp only [lookup_eq_ok_iff]
  exact SortedMap.contains_iff

theorem lookup_of_not_knows {r : Registry} {kind : String} (h : r.knows kind = false) :
    r.lookup kind = .error (.unknownProfile kind) := by
  have hnone : r.strategies.get? kind = none := by simpa [knows, SortedMap.contains] using h
  unfold lookup
  rw [hnone]

theorem withDefault_eq_ok {r r' : Registry} {kind : String} (h : r.withDefault kind = .ok r') :
    ∃ s, r.lookup kind = .ok s ∧ r' = { r with fallback := s } := by
  obtain ⟨s, hs, hr⟩ := exists_of_bind_eq_ok h
  cases hr
  exact ⟨s, hs, rfl⟩

theorem withRule_eq_ok {r r' : Registry} {pattern kind : String}
    (h : r.withRule pattern kind = .ok r') :
    ∃ p s, Pattern.parse? pattern = some p ∧ r.lookup kind = .ok s ∧
      r' = { r with rules := r.rules ++ [⟨p, s⟩] } := by
  unfold withRule at h
  cases hpattern : Pattern.parse? pattern with
  | none =>
    rw [hpattern] at h
    cases h
  | some p =>
    rw [hpattern] at h
    obtain ⟨s, hs, hr⟩ := exists_of_bind_eq_ok h
    cases hr
    exact ⟨p, s, rfl, hs, rfl⟩

theorem kind_of_lookup {r : Registry} (hr : r.Built) {kind : String} {s : Strategy}
    (h : r.lookup kind = .ok s) : s.kind = kind := by
  rw [lookup_eq_ok_iff] at h
  induction hr with
  | new fallback =>
    unfold new at h
    rw [SortedMap.get?_singleton] at h
    split at h
    · cases h
      exact Eq.symm ‹_›
    · cases h
  | register added _ ih =>
    unfold register at h
    rw [SortedMap.get?_insert] at h
    split at h
    · cases h
      exact Eq.symm ‹_›
    · exact ih h
  | withDefault _ hd ih =>
    obtain ⟨_, -, rfl⟩ := withDefault_eq_ok hd
    exact ih h
  | withRule _ hrule ih =>
    obtain ⟨_, _, -, -, rfl⟩ := withRule_eq_ok hrule
    exact ih h

theorem knows_register {r : Registry} {s : Strategy} {kind : String} :
    (r.register s).knows kind = true ↔ kind = s.kind ∨ r.knows kind = true := by
  unfold register knows
  simp only [SortedMap.contains_iff, SortedMap.get?_insert]
  by_cases hkind : kind = s.kind
  · simp [hkind]
  · simp [hkind]

/-- The strategies that a registry gives to names are registered. -/
theorem knows_given {r : Registry} (hr : r.Built) :
    r.knows r.fallback.kind = true ∧ ∀ rule ∈ r.rules, r.knows rule.strategy.kind = true := by
  induction hr with
  | new fallback =>
    refine ⟨?_, fun rule hrule => absurd hrule List.not_mem_nil⟩
    exact SortedMap.contains_iff.mpr ⟨fallback, (SortedMap.get?_singleton _ _ _).trans (if_pos rfl)⟩
  | register added _ ih =>
    refine ⟨knows_register.mpr (.inr ih.1), fun rule hrule => ?_⟩
    exact knows_register.mpr (.inr (ih.2 rule hrule))
  | withDefault hbuilt hd ih =>
    obtain ⟨s, hs, rfl⟩ := withDefault_eq_ok hd
    refine ⟨?_, ih.2⟩
    rw [kind_of_lookup hbuilt hs]
    exact knows_iff.mpr ⟨s, hs⟩
  | withRule hbuilt hrule ih =>
    obtain ⟨p, s, -, hs, rfl⟩ := withRule_eq_ok hrule
    refine ⟨ih.1, fun rule hmem => ?_⟩
    rcases List.mem_append.mp hmem with hmem | hmem
    · exact ih.2 rule hmem
    · rw [List.mem_singleton.mp hmem, kind_of_lookup hbuilt hs]
      exact knows_iff.mpr ⟨s, hs⟩

theorem knows_kindFor {r : Registry} (hr : r.Built) (name : ServiceName) :
    r.knows (r.kindFor name) = true := by
  obtain ⟨hfallback, hrules⟩ := knows_given hr
  unfold kindFor strategyFor
  split
  · rename_i rule hfind
    exact hrules rule (List.mem_of_find?_eq_some hfind)
  · exact hfallback

@[simp] theorem name_create (r : Registry) (name : ServiceName) : (r.create name).name = name := by
  unfold create Strategy.create
  cases r.strategyFor name <;> rfl

@[simp] theorem kind_create (r : Registry) (name : ServiceName) :
    (r.create name).kind = r.kindFor name := by
  unfold create Strategy.create kindFor
  cases r.strategyFor name <;> rfl

inductive Gives (r : Registry) (name : ServiceName) : Strategy → Prop where
  | rule {before after : List Rule} {rule : Rule} : r.rules = before ++ rule :: after →
    rule.pattern.isMatch name = true → (∀ earlier ∈ before, earlier.pattern.isMatch name = false) →
    Gives r name rule.strategy
  | fallback : (∀ rule ∈ r.rules, rule.pattern.isMatch name = false) → Gives r name r.fallback

theorem gives_strategyFor (r : Registry) (name : ServiceName) :
    r.Gives name (r.strategyFor name) := by
  unfold strategyFor
  split
  · rename_i rule hfind
    obtain ⟨hmatch, before, after, hrules, hbefore⟩ := List.find?_eq_some_iff_append.mp hfind
    apply Gives.rule hrules hmatch
    intro earlier hmem
    simpa using hbefore earlier hmem
  · rename_i hnone
    apply Gives.fallback
    intro rule hmem
    exact eq_false_of_ne_true (List.find?_eq_none.mp hnone rule hmem)

end Registry

namespace Profile

@[simp] theorem name_toExport (p : Profile) : p.toExport.name = p.name := by cases p <;> rfl

@[simp] theorem kind_toExport (p : Profile) : p.toExport.kind = p.kind := by cases p <;> rfl

/-- Whether a profile can be rebuilt from its export: an average gap that is not finite cannot be
written, and one below zero is not accepted. -/
def isRestorable : Profile → Bool
  | null _ => true
  | rate _ _ s => s.gap.isFinite && !decide (s.gap < 0)

end Profile

/-- What can go wrong once the strategy is found is never that it is unknown. -/
theorem Strategy.restore_ne_unknownProfile (s : Strategy) (e : Export) (kind : String) :
    s.restore e ≠ .error (.unknownProfile kind) := by
  have hstats : RateStats.ofExport e ≠ .error (.unknownProfile kind) := by
    unfold RateStats.ofExport
    split
    · simp
    · split <;> simp
  unfold restore Export.check
  by_cases hkind : e.kind = s.kind
  · cases s with
    | null => simp [hkind, bind, Except.bind, pure, Except.pure]
    | rate params =>
      cases hofExport : RateStats.ofExport e with
      | error err =>
        rw [hofExport] at hstats
        simpa [hkind, bind, Except.bind] using hstats
      | ok t => simp [hkind, bind, Except.bind, pure, Except.pure]
  · simp [hkind, bind, Except.bind]

/-- A strategy rebuilds the profiles of its kind that are restorable, and no others. -/
theorem Strategy.exists_restore_toExport_iff {s : Strategy} {p : Profile} (h : s.kind = p.kind) :
    (∃ q, s.restore p.toExport = .ok q) ↔ p.isRestorable = true := by
  have hcheck : p.toExport.check p.toExport.name s.kind = .ok () := by
    rw [h]
    cases p <;> simp [Export.check, Profile.toExport, Profile.kind]
  unfold restore
  rw [hcheck]
  cases s with
  | null =>
    cases p with
    | null name => simp [Profile.isRestorable, bind, Except.bind, pure, Except.pure]
    | rate name params t => exact absurd h.symm rateKind_ne_nullKind
  | rate params =>
    cases p with
    | null name => exact absurd h rateKind_ne_nullKind
    | rate name params' t =>
      simp only [Profile.toExport, RateStats.ofExport_toJson, Profile.isRestorable]
      by_cases hfinite : t.gap.isFinite = true
      · by_cases hneg : t.gap < 0
        · simp [hfinite, hneg, bind, Except.bind]
        · simp [hfinite, hneg, bind, Except.bind, pure, Except.pure]
      · simp [hfinite, bind, Except.bind]

end ServicePlacement.Demand
