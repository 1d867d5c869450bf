import ServicePlacement.Proofs.RegistryKinds

/-!
What a registry owes to the steps that set it up. Rules and the default keep strategies of their
own, copies are made by the registered ones, and steps change both in any order. After steps that
succeed, the rules are the ones that were added, in their order, and the default is the last one
that was set (`Follows`), each with a kind that is registered. So whatever a registry creates for a
name, it can restore.
-/
namespace ServicePlacement

namespace Pattern

theorem text_of_parse? {s : String} {p : Pattern} (h : parse? s = some p) : p.text = s := by
  unfold parse? at h
  split at h
  · cases h
    rfl
  · cases h

theorem parse?_text (p : Pattern) : parse? p.text = some p := by
  unfold parse?
  split
  · exact congrArg some (ext_text rfl)
  · rename_i hnone
    cases hnone.symm.trans p.automaton_eq

end Pattern

namespace Settings

def Rule.IsFor (rule : Rule) (name : ServiceName) : Prop :=
  ∃ p, Pattern.parse? rule.pattern = some p ∧ p.isMatch name = true

/-- The kind that rules choose for a name, in their order, and a default where no rule is for it. -/
inductive Chooses (rules : List Rule) (fallback : String) (name : ServiceName) : String → Prop where
  | rule {before after : List Rule} {rule : Rule} : rules = before ++ rule :: after →
    rule.IsFor name → (∀ earlier ∈ before, ¬ earlier.IsFor name) →
    Chooses rules fallback name rule.profile
  | fallback : (∀ rule ∈ rules, ¬ rule.IsFor name) → Chooses rules fallback name fallback

end Settings

namespace Demand

def Rule.written (rule : Rule) : Settings.Rule := ⟨rule.pattern.text, rule.strategy.kind⟩

theorem Rule.isFor_written {rule : Rule} {name : ServiceName} :
    rule.written.IsFor name ↔ rule.pattern.isMatch name = true := by
  unfold Settings.Rule.IsFor written
  rw [Pattern.parse?_text]
  simp

namespace Registry

/-! ### Histories -/

inductive Setup where
  | register (s : Strategy)
  | withDefault (kind : String)
  | withRule (rule : Settings.Rule)

namespace Setup

def rule? : Setup → Option Settings.Rule
  | withRule rule => some rule
  | _ => none

def default? : Setup → Option String
  | withDefault kind => some kind
  | _ => none

end Setup

def setUp (r : Registry) : Setup → Except DemandError Registry
  | .register s => .ok (r.register s)
  | .withDefault kind => r.withDefault kind
  | .withRule rule => r.withRule rule.pattern rule.profile

inductive Origin where
  | strategy (s : Strategy)
  | settings (s : Settings)

namespace Origin

def registry : Origin → Except DemandError Registry
  | strategy s => .ok (new s)
  | settings s => ofSettings s

def rules : Origin → List Settings.Rule
  | strategy _ => []
  | settings s => s.demand.rules

def fallback : Origin → String
  | strategy s => s.kind
  | settings s => s.demand.defaultProfile

end Origin

structure History where
  origin : Origin
  steps : List Setup

namespace History

def registry (h : History) : Except DemandError Registry := do
  h.steps.foldlM setUp (← h.origin.registry)

def rules (h : History) : List Settings.Rule := h.origin.rules ++ h.steps.filterMap Setup.rule?

def fallback (h : History) : String :=
  ((h.steps.filterMap Setup.default?).getLast?).getD h.origin.fallback

end History

/-! ### What a history leaves -/

structure Follows (r : Registry) (rules : List Settings.Rule) (fallback : String) : Prop where
  built : r.Built
  rules_eq : r.rules.map Rule.written = rules
  fallback_eq : r.fallback.kind = fallback

section

variable {r r' : Registry} {rules : List Settings.Rule} {fallback : String}

theorem follows_new (s : Strategy) : (new s).Follows [] s.kind := ⟨.new s, rfl, rfl⟩

theorem Follows.setUp (h : r.Follows rules fallback) {step : Setup}
    (hstep : r.setUp step = .ok r') :
    r'.Follows (rules ++ step.rule?.toList) (step.default?.getD fallback) := by
  obtain ⟨hbuilt, rfl, rfl⟩ := h
  cases step with
  | register s =>
    cases hstep
    exact ⟨.register s hbuilt, (List.append_nil _).symm, rfl⟩
  | withDefault kind =>
    obtain ⟨s, hs, rfl⟩ := withDefault_eq_ok hstep
    exact ⟨.withDefault hbuilt hstep, (List.append_nil _).symm, kind_of_lookup hbuilt hs⟩
  | withRule rule =>
    obtain ⟨p, s, hp, hs, rfl⟩ := withRule_eq_ok hstep
    refine ⟨.withRule hbuilt hstep, ?_, rfl⟩
    have hwritten : Rule.written ⟨p, s⟩ = rule := by
      unfold Rule.written
      rw [Pattern.text_of_parse? hp, kind_of_lookup hbuilt hs]
    simp [hwritten, Setup.rule?]

/-- The steps of a run add their rules one behind the other, and the last default counts. -/
theorem Follows.run (h : r.Follows rules fallback) {steps : List Setup}
    (hrun : steps.foldlM Registry.setUp r = .ok r') :
    r'.Follows (rules ++ steps.filterMap Setup.rule?)
      (((steps.filterMap Setup.default?).getLast?).getD fallback) := by
  induction steps generalizing r rules fallback with
  | nil =>
    cases hrun
    simpa using h
  | cons step rest ih =>
    rw [List.foldlM_cons] at hrun
    obtain ⟨next, hstep, hrest⟩ := exists_of_bind_eq_ok hrun
    have hfollows := ih (h.setUp hstep) hrest
    cases step <;>
      simpa [Setup.rule?, Setup.default?, List.filterMap_cons, List.getLast?_cons] using hfollows

end

def stepsOfSettings (d : Settings.Demand) : List Setup :=
  .register .null :: .withDefault d.defaultProfile :: d.rules.map .withRule

theorem ofSettings_eq_steps (s : Settings) :
    ofSettings s = RateParams.ofSettings s.rate >>= fun params =>
      (stepsOfSettings s.demand).foldlM setUp (new (.rate params)) := by
  unfold ofSettings stepsOfSettings
  simp only [List.foldlM_cons, List.foldlM_map]
  rfl

theorem rules_stepsOfSettings (d : Settings.Demand) :
    (stepsOfSettings d).filterMap Setup.rule? = d.rules := by
  show (d.rules.map Setup.withRule).filterMap Setup.rule? = d.rules
  rw [List.filterMap_map]
  exact List.filterMap_some

theorem defaults_stepsOfSettings (d : Settings.Demand) :
    (stepsOfSettings d).filterMap Setup.default? = [d.defaultProfile] := by
  have hnone : (d.rules.map Setup.withRule).filterMap Setup.default? = [] := by
    rw [List.filterMap_map]
    exact List.filterMap_none _
  show d.defaultProfile :: (d.rules.map Setup.withRule).filterMap Setup.default? = _
  rw [hnone]

/-- The registry of settings has their rules and their default. -/
theorem follows_ofSettings {s : Settings} {r : Registry} (h : ofSettings s = .ok r) :
    r.Follows s.demand.rules s.demand.defaultProfile := by
  rw [ofSettings_eq_steps] at h
  obtain ⟨params, -, hsteps⟩ := exists_of_bind_eq_ok h
  have hfollows := (follows_new _).run hsteps
  rwa [rules_stepsOfSettings, defaults_stepsOfSettings] at hfollows

theorem History.follows {h : History} {r : Registry} (hr : h.registry = .ok r) :
    r.Follows h.rules h.fallback := by
  obtain ⟨first, horigin, hsteps⟩ := exists_of_bind_eq_ok hr
  have hfirst : first.Follows h.origin.rules h.origin.fallback := by
    cases heq : h.origin with
    | strategy s =>
      rw [heq] at horigin
      cases horigin
      exact follows_new s
    | settings s =>
      rw [heq] at horigin
      exact follows_ofSettings horigin
  exact hfirst.run hsteps

/-! ### What a registry creates -/

section

variable {r : Registry} {rules : List Settings.Rule} {fallback : String}

theorem chooses_of_gives {name : ServiceName} {s : Strategy} (h : r.Gives name s) :
    Settings.Chooses (r.rules.map Rule.written) r.fallback.kind name s.kind := by
  cases h with
  | @rule before after rule hrules hmatch hbefore =>
    show Settings.Chooses _ _ name rule.written.profile
    apply Settings.Chooses.rule
    · rw [hrules, List.map_append, List.map_cons]
    · exact Rule.isFor_written.mpr hmatch
    · intro earlier hmem
      obtain ⟨written, hwritten, rfl⟩ := List.mem_map.mp hmem
      rw [Rule.isFor_written, hbefore written hwritten]
      exact Bool.false_ne_true
  | fallback hnone =>
    apply Settings.Chooses.fallback
    intro rule hmem
    obtain ⟨written, hwritten, rfl⟩ := List.mem_map.mp hmem
    rw [Rule.isFor_written, hnone written hwritten]
    exact Bool.false_ne_true

theorem Follows.chooses (h : r.Follows rules fallback) (name : ServiceName) :
    Settings.Chooses rules fallback name (r.kindFor name) := by
  rw [← h.rules_eq, ← h.fallback_eq]
  exact chooses_of_gives (r.gives_strategyFor name)

/-- A profile that has counted nothing can be restored. -/
theorem isRestorable_create (r : Registry) (name : ServiceName) :
    (r.create name).isRestorable = true := by
  have hzero : ((0 : Float).isFinite && !decide ((0 : Float) < 0)) = true := by decide +kernel
  unfold create
  cases r.strategyFor name with
  | null => rfl
  | rate params => exact hzero

/-- The registered strategy of a kind makes copies of the profiles that have been created with
another one of the kind. -/
theorem exists_restore_create (hr : r.Built) (name : ServiceName) :
    ∃ copy, r.restore (r.create name).toExport = .ok copy := by
  obtain ⟨s, hs⟩ := knows_iff.mp (knows_kindFor hr name)
  have hkind : s.kind = (r.create name).kind :=
    (kind_of_lookup hr hs).trans (r.kind_create name).symm
  obtain ⟨copy, hcopy⟩ :=
    (Strategy.exists_restore_toExport_iff hkind).mpr (r.isRestorable_create name)
  unfold restore
  rw [Profile.kind_toExport, r.kind_create, hs]
  exact ⟨copy, hcopy⟩

end

/-- Whatever is done to set a registry up, in whichever order, as long as every step succeeds: a
name gets the kind that the rules choose for it, in the order in which they were added, and
otherwise the last default. The kind is registered, and a profile that is created for the name has
the name and the kind and is restored from its export with the same name, kind and export. -/
theorem restores_what_it_creates (h : History) (r : Registry) (hr : h.registry = .ok r)
    (name : ServiceName) :
    Settings.Chooses h.rules h.fallback name (r.kindFor name) ∧
      (r.create name).name = name ∧ (r.create name).kind = r.kindFor name ∧
      r.knows (r.kindFor name) = true ∧
      ∃ copy, r.restore (r.create name).toExport = .ok copy ∧ copy.name = name ∧
        copy.kind = r.kindFor name ∧ copy.toExport = (r.create name).toExport := by
  have hfollows := History.follows hr
  obtain ⟨copy, hcopy⟩ := exists_restore_create hfollows.built name
  obtain ⟨s, -, hs⟩ := restore_eq_ok hcopy
  obtain ⟨hname, hkind, -⟩ := restore_toExport_same hcopy
  exact ⟨hfollows.chooses name, r.name_create name, r.kind_create name,
    knows_kindFor hfollows.built name, copy, hcopy, hname.trans (r.name_create name),
    hkind.trans (r.kind_create name), Strategy.toExport_of_restore hs⟩

def replacedRates : History where
  origin := .strategy (.rate {})
  steps := [.register .null, .withRule ⟨"^quiet-", "null"⟩, .withRule ⟨"quiet", "request-rate"⟩,
    .withDefault "null", .register (.rate { maxSenders := 1 }), .withRule ⟨"^very", "null"⟩]

/-- The rule goes on creating profiles for the earlier strategy, and the later one restores them. -/
theorem restores_what_it_creates_replaced :
    ∃ r, replacedRates.registry = .ok r ∧ r.strategyFor "very-quiet" = .rate {} ∧
      r.strategies.get? rateKind = some (.rate { maxSenders := 1 }) ∧
      Settings.Chooses replacedRates.rules "null" "very-quiet" rateKind ∧
      ∃ copy, r.restore (r.create "very-quiet").toExport = .ok copy ∧ copy.name = "very-quiet" ∧
        copy.kind = rateKind ∧ copy.toExport = (r.create "very-quiet").toExport := by
  have hstrategies : (replacedRates.registry.toOption.map fun r =>
      (r.strategyFor "very-quiet", r.strategies.get? rateKind)) =
        some (.rate {}, some (.rate { maxSenders := 1 })) := by decide +kernel
  cases hr : replacedRates.registry with
  | error e =>
    rw [hr] at hstrategies
    cases hstrategies
  | ok r =>
    rw [hr] at hstrategies
    obtain ⟨hgiven, hregistered⟩ := Prod.mk.inj (Option.some.inj hstrategies)
    have hkind : r.kindFor "very-quiet" = rateKind := congrArg Strategy.kind hgiven
    obtain ⟨hchooses, -, -, -, hrestores⟩ :=
      restores_what_it_creates replacedRates r hr "very-quiet"
    rw [hkind] at hchooses hrestores
    exact ⟨r, rfl, hgiven, hregistered, hchooses, hrestores⟩

end Registry

end Demand

end ServicePlacement
