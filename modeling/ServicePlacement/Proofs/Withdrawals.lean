import ServicePlacement.Proofs.NameIsolation
import ServicePlacement.Proofs.RegistryKinds
import ServicePlacement.Proofs.TableSize

/-!
What a withdrawal gives away and what it leaves. The copy is rebuilt by the strategy that is
registered for the kind of the entry, while the entry begins anew with the strategy that the rules
give to its name, and the two may differ. The copy is made first, so a withdrawal that fails leaves
the entry as it was.
-/
namespace ServicePlacement.Demand

/-- A registry makes no copy of a profile whose strategy it does not know, and none where the
strategy does not accept the export of the profile. -/
def Registry.Refuses (r : Registry) (p : Profile) : Prop :=
  r.knows p.kind = false ∨
    ∃ strategy, r.lookup p.kind = .ok strategy ∧ ∃ e, strategy.restore p.toExport = .error e

theorem Registry.refuses_iff_error {r : Registry} {p : Profile} :
    r.Refuses p ↔ ∃ e, r.restore p.toExport = .error e := by
  unfold Refuses restore
  rw [Profile.kind_toExport]
  cases hknown : r.knows p.kind with
  | false =>
    rw [lookup_of_not_knows hknown]
    exact ⟨fun _ => ⟨_, rfl⟩, fun _ => .inl rfl⟩
  | true =>
    obtain ⟨strategy, hstrategy⟩ := knows_iff.mp hknown
    rw [hstrategy]
    constructor
    · intro hrefused
      obtain hunknown | ⟨_, hsame, e, he⟩ := hrefused
      · cases hunknown
      · cases hsame
        exact ⟨e, he⟩
    · intro ⟨e, he⟩
      exact .inr ⟨strategy, rfl, e, he⟩

/-- What a known strategy does not accept is an average gap that is not finite or below zero. -/
theorem Registry.refuses_iff {r : Registry} (hr : r.Built) {p : Profile} :
    r.Refuses p ↔ r.knows p.kind = false ∨ p.isRestorable = false := by
  unfold Refuses
  cases hknown : r.knows p.kind with
  | false => exact ⟨fun _ => .inl rfl, fun _ => .inl rfl⟩
  | true =>
    obtain ⟨strategy, hstrategy⟩ := knows_iff.mp hknown
    have haccepts := Strategy.exists_restore_toExport_iff (kind_of_lookup hr hstrategy)
    rw [← Bool.not_eq_true p.isRestorable, ← haccepts, hstrategy]
    cases hrestore : strategy.restore p.toExport with
    | error e => simp [hrestore]
    | ok copy => simp [hrestore]

inductive Profile.IsFresh (name : ServiceName) : Strategy → Profile → Prop where
  | null : IsFresh name .null (.null name)
  | rate (params : RateParams) {s : RateStats} : s.requests = 0 → s.total = 0 → s.gap = 0 →
    s.lastRequest = 0 → s.lastMove = none → s.moves = 0 → s.senders = .empty →
    IsFresh name (.rate params) (.rate name params s)

theorem Strategy.isFresh_create (s : Strategy) (name : ServiceName) :
    Profile.IsFresh name s (s.create name) := by
  cases s with
  | null => exact .null
  | rate params => exact .rate params rfl rfl rfl rfl rfl rfl rfl

namespace Table

structure BeginsAnew (t : Table) (name : ServiceName) (t' : Table) : Prop where
  exists_fresh : ∃ strategy p, t.registry.Gives name strategy ∧ Profile.IsFresh name strategy p ∧
    t'.profiles.get? name = some p
  keepsOthers : KeepsOthers name t t'
  size_eq : t'.size = t.size

variable {t : Table} {name : ServiceName} {p : Profile}

theorem beginsAnew_put (hget : t.profiles.get? name = some p) :
    t.BeginsAnew name (t.put name (t.registry.create name)) := by
  constructor
  case exists_fresh =>
    refine ⟨t.registry.strategyFor name, t.registry.create name, t.registry.gives_strategyFor name,
      Strategy.isFresh_create _ name, ?_⟩
    exact (t.get?_put name name _).trans (if_pos rfl)
  case keepsOthers => exact t.keepsOthers_put name _
  case size_eq => exact size_put_of_get? hget _

theorem contains_eq_false_iff : t.contains name = false ↔ t.profiles.get? name = none := by
  rw [← Bool.not_eq_true]
  exact SortedMap.not_contains_iff

theorem withdraw_of_unknown (h : t.contains name = false) : t.withdraw name = (.ok none, t) := by
  unfold withdraw
  rw [contains_eq_false_iff.mp h]

/-- A withdrawal of a known name gives away a copy and begins anew, or it is refused and does
nothing. -/
theorem withdraw_of_known (hget : t.profiles.get? name = some p) :
    (t.registry.Refuses p ∧ ∃ e, t.withdraw name = (.error e, t)) ∨
      ¬ t.registry.Refuses p ∧ ∃ copy, (t.withdraw name).1 = .ok (some copy) ∧
        copy.name = p.name ∧ copy.toExport = p.toExport ∧ t.BeginsAnew name (t.withdraw name).2 := by
  rw [Registry.refuses_iff_error]
  rcases t.withdraw_cases name with ⟨hnone, -⟩ | ⟨q, hq, hcases⟩
  · cases hnone.symm.trans hget
  · cases hq.symm.trans hget
    rcases hcases with ⟨e, he, hwithdraw⟩ | ⟨copy, hcopy, hwithdraw⟩
    · exact .inl ⟨⟨e, he⟩, e, hwithdraw⟩
    · obtain ⟨strategy, -, hstrategy⟩ := Registry.restore_eq_ok hcopy
      rw [hwithdraw]
      refine .inr ⟨?_, copy, rfl, (Registry.restore_toExport_same hcopy).1,
        Strategy.toExport_of_restore hstrategy, beginsAnew_put hget⟩
      intro ⟨e, he⟩
      cases hcopy.symm.trans he

/-- Withdrawals after any run. Exactly for an unknown name nothing is given away, and then nothing
happens. For a known name the withdrawal fails exactly where the registry refuses a copy of the
entry, and then nothing happens either. Otherwise the copy exports what the entry exported, and the
table begins anew for this name alone. -/
theorem withdrawal_faithful (registry : Registry) (cluster : Cluster) (limits : Limits)
    (steps : List Step) (name : ServiceName) :
    let t := (new registry cluster limits).run steps
    ((t.withdraw name).1 = .ok none ↔ t.contains name = false) ∧
      (t.contains name = false → (t.withdraw name).2 = t) ∧
      ∀ p, t.profiles.get? name = some p →
        ((∃ e, (t.withdraw name).1 = .error e) ↔ registry.Refuses p) ∧
        (registry.Refuses p → (t.withdraw name).2 = t) ∧
        (¬ registry.Refuses p → ∃ copy, (t.withdraw name).1 = .ok (some copy) ∧
          copy.name = name ∧ copy.toExport = p.toExport ∧
            t.BeginsAnew name (t.withdraw name).2) := by
  intro t
  have hregistry : t.registry = registry := registry_run _ steps
  refine ⟨⟨?_, ?_⟩, ?_, ?_⟩
  · intro hnothing
    apply contains_eq_false_iff.mpr
    cases hget : t.profiles.get? name with
    | none => rfl
    | some p =>
      rcases withdraw_of_known hget with ⟨-, e, hwithdraw⟩ | ⟨-, copy, hwithdraw, -⟩
      · rw [hwithdraw] at hnothing
        cases hnothing
      · cases hwithdraw.symm.trans hnothing
  · intro hunknown
    exact congrArg Prod.fst (withdraw_of_unknown hunknown)
  · intro hunknown
    exact congrArg Prod.snd (withdraw_of_unknown hunknown)
  · intro p hget
    have hkeyed : p.name = name := run_keyed registry cluster limits steps name p hget
    rw [← hregistry]
    rcases withdraw_of_known hget with
      ⟨hrefused, e, hwithdraw⟩ | ⟨hgranted, copy, hwithdraw, hname, hexport, hanew⟩
    · rw [hwithdraw]
      exact ⟨⟨fun _ => hrefused, fun _ => ⟨e, rfl⟩⟩, fun _ => rfl, fun h => absurd hrefused h⟩
    · refine ⟨⟨?_, fun h => absurd h hgranted⟩, fun h => absurd h hgranted, fun _ => ?_⟩
      · intro ⟨e, he⟩
        cases hwithdraw.symm.trans he
      · exact ⟨copy, hwithdraw, hname.trans hkeyed, hexport, hanew⟩

def movedOnce : Profile := .rate "a" {} { total := 7, gap := 4, lastMove := some 20, moves := 1 }

def negativeGap : Profile := .rate "b" {} { gap := -1 }

/-- The rules count nothing, but the table has taken in profiles that do. The one is given away, and
its name begins anew without counting; the other stays. -/
theorem withdrawal_faithful_other_strategy :
    let registry := (Registry.new .null).register (.rate {})
    let t := (new registry .empty .standard).run [.install movedOnce, .install negativeGap]
    (∃ copy, (t.withdraw "a").1 = .ok (some copy) ∧ copy.toExport = movedOnce.toExport) ∧
      t.BeginsAnew "a" (t.withdraw "a").2 ∧
      ((t.withdraw "a").2.profiles.get? "a").map Profile.kind = some nullKind ∧
      (∃ e, (t.withdraw "b").1 = .error e) ∧ (t.withdraw "b").2 = t ∧
      (t.withdraw "c").1 = .ok none ∧ (t.withdraw "c").2 = t := by
  intro registry t
  have hbuilt : registry.Built := .register _ (.new _)
  have hgranted : ¬ registry.Refuses movedOnce := by
    rw [Registry.refuses_iff hbuilt]
    decide +kernel
  have hrefused : registry.Refuses negativeGap := by
    rw [Registry.refuses_iff hbuilt]
    decide +kernel
  have hfaithful := withdrawal_faithful registry .empty .standard
    [.install movedOnce, .install negativeGap]
  obtain ⟨-, -, hentry⟩ := hfaithful "a"
  obtain ⟨copy, hcopy, -, hexport, hanew⟩ := (hentry movedOnce rfl).2.2 hgranted
  obtain ⟨-, -, hentry⟩ := hfaithful "b"
  obtain ⟨herror, hunchanged, -⟩ := hentry negativeGap rfl
  obtain ⟨hnone, hsame, -⟩ := hfaithful "c"
  have hnew : t.contains "c" = false := by decide +kernel
  exact ⟨⟨copy, hcopy, hexport⟩, hanew, by decide +kernel, herror.mpr hrefused,
    hunchanged hrefused, hnone.mpr hnew, hsame hnew⟩

end Table

end ServicePlacement.Demand
