import ServicePlacement.Demand.Table
import ServicePlacement.HashRing
import ServicePlacement.Proofs.DurationText
import ServicePlacement.Proofs.RegistryHistory

/-!
Settings that pass the check are used as they are written. Whoever uses a limit raises it to one if
it is zero, which the check has excluded for all limits but the number of senders, and the cool-down
can be read since the check has read it. The check does not look at the names of profiles and the
patterns, so a registry can still be refused, and then for the first of them that is at fault
(`ofSettings_eq_error_iff`).
-/
namespace ServicePlacement

/-! ### What the check finds out -/

namespace Settings

structure IsSound (s : Settings) : Prop where
  positive : ∀ p ∈ s.positives, p.2 ≠ 0
  interval : ∃ d, Duration.parse s.demand.reportInterval = .ok d
  cooldown : ∃ d, Duration.parse s.rate.cooldown = .ok d

theorem check_eq_ok_iff {s : Settings} : s.check = .ok () ↔ s.IsSound := by
  unfold check
  constructor
  · intro h
    split at h
    · cases h
    · rename_i hpositive
      obtain ⟨interval, hinterval, hrest⟩ := Demand.exists_of_bind_eq_ok h
      obtain ⟨cooldown, hcooldown, -⟩ := Demand.exists_of_bind_eq_ok hrest
      refine ⟨fun p hp => ?_, ⟨interval, hinterval⟩, ⟨cooldown, hcooldown⟩⟩
      simpa using List.find?_eq_none.mp hpositive p hp
  · rintro ⟨hpositive, ⟨interval, hinterval⟩, ⟨cooldown, hcooldown⟩⟩
    have hnone : (s.positives.find? fun p => p.2 == 0) = none :=
      List.find?_eq_none.mpr fun p hp => by simpa using hpositive p hp
    rw [hnone, hinterval, hcooldown]
    rfl

end Settings

/-! ### Limits, rates and rings -/

theorem max_one_of_ne_zero {n : UInt64} (h : n ≠ 0) : max n 1 = n := by
  have hone : (1 : UInt64).toNat = 1 := rfl
  have hpos : 0 < n.toNat := UInt64.lt_iff_toNat_lt.mp (UInt64.pos_iff_ne_zero.mpr h)
  rw [UInt64.max_def]
  split
  · rename_i hle
    have hsmall := UInt64.le_iff_toNat_le.mp hle
    apply UInt64.toNat_inj.mp
    omega
  · rfl

/-- Raising a word to one does nothing to any but zero. -/
theorem max_one_eq (n : UInt64) : max n 1 = if n = 0 then 1 else n := by
  split
  · rename_i hzero
    rw [hzero]
    rfl
  · exact max_one_of_ne_zero ‹_›

structure Demand.RateParams.AreWritten (params : RateParams) (s : Settings.Rate) : Prop where
  reportThreshold_eq : params.reportThreshold = s.reportThreshold
  minRequests_eq : params.minRequests = s.minRequests
  cooldown_writes : Duration.Writes s.cooldown.toList params.cooldown
  cooldown_lt : params.cooldown.millis.toNat < 2 ^ 64
  maxSenders_eq : params.maxSenders = if s.maxSenders = 0 then 1 else s.maxSenders

namespace Settings.IsSound

variable {s : Settings} (h : s.IsSound)

include h

theorem exists_rateParams :
    ∃ params, Demand.RateParams.ofSettings s.rate = .ok params ∧ params.AreWritten s.rate := by
  obtain ⟨cooldown, hcooldown⟩ := h.cooldown
  unfold Demand.RateParams.ofSettings
  rw [hcooldown]
  refine ⟨_, rfl, ?_⟩
  constructor
  case reportThreshold_eq =>
    exact max_one_of_ne_zero (h.positive (.reportThreshold, _) (by simp [positives]))
  case minRequests_eq => rfl
  case cooldown_writes => exact Duration.writes_of_parse hcooldown
  case cooldown_lt => exact cooldown.millis.toNat_lt
  case maxSenders_eq => exact max_one_eq _

theorem limits_eq :
    (Demand.Limits.ofSettings s.demand).maxSize = s.demand.maxSize ∧
      (Demand.Limits.ofSettings s.demand).evictionSize = s.demand.pluckSize := by
  constructor
  · exact max_one_of_ne_zero (h.positive (.tableSize, _) (by simp [positives]))
  · exact max_one_of_ne_zero (h.positive (.evictionSize, _) (by simp [positives]))

theorem ofSettings_ring_cases (nodes : List NodeId) :
    (nodes = [] ∧ HashRing.ofSettings nodes s.ring = .error .noReconfigurators) ∨
      nodes ≠ [] ∧ ∃ ring, HashRing.ofSettings nodes s.ring = .ok ring ∧
        ring.nodes = .ofList nodes ∧ ring.virtualNodes = s.ring.virtualNodes ∧
          ring.groupSize = s.ring.groupSize := by
  have htokens : s.ring.virtualNodes ≠ 0 := h.positive (.virtualNodes, _) (by simp [positives])
  have hgroup : s.ring.groupSize ≠ 0 := h.positive (.groupSize, _) (by simp [positives])
  have hpos : 0 < s.ring.virtualNodes.toNat :=
    UInt64.lt_iff_toNat_lt.mp (UInt64.pos_iff_ne_zero.mpr htokens)
  unfold HashRing.ofSettings HashRing.build
  rw [dif_pos hpos]
  cases nodes with
  | nil => exact .inl ⟨rfl, rfl⟩
  | cons node rest =>
    have hset : (SortedSet.ofList (node :: rest)).toList ≠ [] :=
      List.ne_nil_of_mem (SortedSet.mem_ofList.mpr List.mem_cons_self)
    simp only [dif_pos hset]
    exact .inr ⟨List.cons_ne_nil _ _, _, rfl, rfl, rfl, max_one_of_ne_zero hgroup⟩

end Settings.IsSound

/-! ### Faults that the check does not find -/

namespace Settings

def IsKind (kind : String) : Prop := kind = Demand.rateKind ∨ kind = Demand.nullKind

inductive KindFault (kind : String) : DemandError → Prop where
  | unknown : ¬ IsKind kind → KindFault kind (.unknownProfile kind)

/-- What is wrong with a rule: its pattern in the first place, and otherwise its kind. -/
inductive Rule.Fault (rule : Rule) : DemandError → Prop where
  | pattern : Pattern.parse? rule.pattern = none → Fault rule (.invalidPattern rule.pattern)
  | kind {p : Pattern} {e : DemandError} : Pattern.parse? rule.pattern = some p →
    KindFault rule.profile e → Fault rule e

def Demand.faults (d : Demand) : List (DemandError → Prop) :=
  KindFault d.defaultProfile :: d.rules.map Rule.Fault

inductive IsFirst : List (DemandError → Prop) → DemandError → Prop where
  | here {fault : DemandError → Prop} {rest : List (DemandError → Prop)} {e : DemandError} :
    fault e → IsFirst (fault :: rest) e
  | later {fault : DemandError → Prop} {rest : List (DemandError → Prop)} {e : DemandError} :
    (∀ e, ¬ fault e) → IsFirst rest e → IsFirst (fault :: rest) e

theorem isFirst_cons_iff {fault : DemandError → Prop} {rest : List (DemandError → Prop)}
    {e : DemandError} :
    IsFirst (fault :: rest) e ↔ fault e ∨ (∀ e, ¬ fault e) ∧ IsFirst rest e := by
  constructor
  · intro h
    cases h with
    | here hfault => exact .inl hfault
    | later hnone hrest => exact .inr ⟨hnone, hrest⟩
  · rintro (hfault | ⟨hnone, hrest⟩)
    · exact .here hfault
    · exact .later hnone hrest

theorem IsFirst.exists_fault {faults : List (DemandError → Prop)} {e : DemandError}
    (h : IsFirst faults e) : ∃ fault ∈ faults, fault e := by
  induction h with
  | here hfault => exact ⟨_, List.mem_cons_self, hfault⟩
  | later _ _ ih =>
    obtain ⟨fault, hmem, hfault⟩ := ih
    exact ⟨fault, List.mem_cons_of_mem _ hmem, hfault⟩

theorem kindFault_iff {kind : String} {e : DemandError} :
    KindFault kind e ↔ ¬ IsKind kind ∧ e = .unknownProfile kind := by
  constructor
  · rintro ⟨hkind⟩
    exact ⟨hkind, rfl⟩
  · rintro ⟨hkind, rfl⟩
    exact .unknown hkind

/-- No fault is one of a number or a duration. -/
theorem Demand.ne_badSetting_of_isFirst {d : Demand} {e : DemandError} (h : IsFirst d.faults e)
    (cause : SettingError) : e ≠ .badSetting cause := by
  have hkind {kind : String} (hfault : KindFault kind e) : e ≠ .badSetting cause := by
    cases hfault
    simp
  obtain ⟨fault, hmem, hfault⟩ := h.exists_fault
  rcases List.mem_cons.mp hmem with rfl | hmem
  · exact hkind hfault
  · obtain ⟨rule, -, rfl⟩ := List.mem_map.mp hmem
    cases hfault with
    | pattern _ => simp
    | kind _ hfault => exact hkind hfault

end Settings

namespace Demand

/-- A computation fails where its first part does, and only otherwise where the rest does. -/
theorem bind_eq_error_iff {ε α β : Type} {x : Except ε α} {f : α → Except ε β} {e : ε}
    {first : ε → Prop} {rest : Prop} (hfirst : ∀ e, x = .error e ↔ first e)
    (hrest : ∀ a, x = .ok a → (f a = .error e ↔ rest)) :
    x >>= f = .error e ↔ first e ∨ (∀ e, ¬ first e) ∧ rest := by
  cases x with
  | error e' =>
    have hfails : first e' := (hfirst e').mp rfl
    constructor
    · intro h
      cases h
      exact .inl hfails
    · rintro (h | ⟨hnone, -⟩)
      · exact congrArg Except.error (Except.error.inj ((hfirst e).mpr h))
      · exact absurd hfails (hnone e')
  | ok a =>
    have hnone : ∀ e, ¬ first e := by
      intro e h
      cases (hfirst e).mpr h
    show f a = .error e ↔ _
    rw [hrest a rfl]
    constructor
    · intro h
      exact .inr ⟨hnone, h⟩
    · rintro (h | ⟨-, h⟩)
      · exact absurd h (hnone e)
      · exact h

namespace Registry

def KnowsKinds (r : Registry) : Prop := ∀ kind, r.knows kind = true ↔ Settings.IsKind kind

theorem knowsKinds_rate_null (params : RateParams) :
    ((new (.rate params)).register .null).KnowsKinds := by
  intro kind
  rw [knows_register, or_comm]
  unfold Settings.IsKind knows new
  rw [SortedMap.contains_iff]
  simp [SortedMap.get?_singleton, Strategy.kind]

namespace KnowsKinds

variable {r r' : Registry} (h : r.KnowsKinds) {kind : String}

include h

theorem lookup_eq_error_iff {e : DemandError} :
    r.lookup kind = .error e ↔ Settings.KindFault kind e := by
  rw [Settings.kindFault_iff, ← h kind, Bool.not_eq_true]
  cases hknown : r.knows kind with
  | false =>
    rw [lookup_of_not_knows hknown]
    simp [eq_comm]
  | true =>
    obtain ⟨s, hs⟩ := knows_iff.mp hknown
    rw [hs]
    simp

theorem withDefault_eq_error_iff {e : DemandError} :
    r.withDefault kind = .error e ↔ Settings.KindFault kind e := by
  rw [← h.lookup_eq_error_iff]
  unfold withDefault
  cases r.lookup kind <;> simp [bind, Except.bind, pure, Except.pure]

theorem withRule_eq_error_iff {rule : Settings.Rule} {e : DemandError} :
    r.withRule rule.pattern rule.profile = .error e ↔ rule.Fault e := by
  unfold withRule
  cases hpattern : Pattern.parse? rule.pattern with
  | none =>
    constructor
    · intro herror
      cases herror
      exact .pattern hpattern
    · intro hfault
      cases hfault with
      | pattern _ => rfl
      | kind hread _ => cases hpattern.symm.trans hread
  | some p =>
    have hlookup : r.lookup rule.profile = .error e ↔ rule.Fault e := by
      rw [h.lookup_eq_error_iff]
      constructor
      · intro hfault
        exact .kind hpattern hfault
      · intro hfault
        cases hfault with
        | pattern hnone => cases hpattern.symm.trans hnone
        | kind _ hfault => exact hfault
    rw [← hlookup]
    cases r.lookup rule.profile <;> simp [bind, Except.bind, pure, Except.pure]

theorem withDefault (hok : r.withDefault kind = .ok r') : r'.KnowsKinds := by
  obtain ⟨_, -, rfl⟩ := withDefault_eq_ok hok
  exact h

theorem withRule {pattern : String} (hok : r.withRule pattern kind = .ok r') : r'.KnowsKinds := by
  obtain ⟨_, _, -, -, rfl⟩ := withRule_eq_ok hok
  exact h

end KnowsKinds

/-- Adding rules one after another fails with the first fault among them. -/
theorem foldlM_withRule_eq_error_iff {r : Registry} (h : r.KnowsKinds)
    (rules : List Settings.Rule) {e : DemandError} :
    rules.foldlM (fun r rule => r.withRule rule.pattern rule.profile) r = .error e ↔
      Settings.IsFirst (rules.map Settings.Rule.Fault) e := by
  induction rules generalizing r with
  | nil =>
    constructor <;> intro hfault <;> cases hfault
  | cons rule rest ih =>
    rw [List.foldlM_cons, List.map_cons, Settings.isFirst_cons_iff]
    apply bind_eq_error_iff
    · intro e
      exact h.withRule_eq_error_iff
    · intro next hnext
      exact ih (h.withRule hnext)

/-- Once there are rate parameters, a registry is refused for the first fault alone. -/
theorem ofSettings_eq_error_iff {s : Settings} {params : RateParams}
    (h : RateParams.ofSettings s.rate = .ok params) {e : DemandError} :
    ofSettings s = .error e ↔ Settings.IsFirst s.demand.faults e := by
  have hbase := knowsKinds_rate_null params
  unfold ofSettings Settings.Demand.faults
  rw [h, Settings.isFirst_cons_iff]
  apply bind_eq_error_iff (x := ((new (.rate params)).register .null).withDefault _)
  · intro e
    exact hbase.withDefault_eq_error_iff
  · intro base hok
    exact foldlM_withRule_eq_error_iff (hbase.withDefault hok) _

end Registry

end Demand

/-! ### Settings that pass the check -/

namespace Settings

/-- Settings that pass the check are used as they are written: by the rate parameters, by the table,
and by the ring, which needs nothing but a node. A registry is only refused for the first fault of
the default and the rules, never for a number or a duration, and otherwise has the default and the
rules of the settings. -/
theorem usable_of_check (s : Settings) (h : s.check = .ok ()) :
    (∃ params, Demand.RateParams.ofSettings s.rate = .ok params ∧ params.AreWritten s.rate) ∧
      (∀ registry cluster,
        let t := Demand.Table.new registry cluster (.ofSettings s.demand)
        t.limits.maxSize = s.demand.maxSize ∧ t.limits.evictionSize = s.demand.pluckSize) ∧
      (∀ nodes, (nodes = [] ∧ HashRing.ofSettings nodes s.ring = .error .noReconfigurators) ∨
        nodes ≠ [] ∧ ∃ ring, HashRing.ofSettings nodes s.ring = .ok ring ∧
          ring.nodes = .ofList nodes ∧ ring.virtualNodes = s.ring.virtualNodes ∧
            ring.groupSize = s.ring.groupSize) ∧
      (∀ e, Demand.Registry.ofSettings s = .error e ↔ IsFirst s.demand.faults e) ∧
      (∀ cause, Demand.Registry.ofSettings s ≠ .error (.badSetting cause)) ∧
      ∀ r, Demand.Registry.ofSettings s = .ok r →
        r.fallback.kind = s.demand.defaultProfile ∧
          r.rules.map Demand.Rule.written = s.demand.rules := by
  have hsound := check_eq_ok_iff.mp h
  obtain ⟨params, hparams, hwritten⟩ := hsound.exists_rateParams
  have hfault := fun e => Demand.Registry.ofSettings_eq_error_iff hparams (e := e)
  refine ⟨⟨params, hparams, hwritten⟩, fun _ _ => hsound.limits_eq, hsound.ofSettings_ring_cases,
    hfault, fun cause hrefused => ?_, fun r hr => ?_⟩
  · exact Demand.ne_badSetting_of_isFirst ((hfault _).mp hrefused) cause rfl
  · have hfollows := Demand.Registry.follows_ofSettings hr
    exact ⟨hfollows.fallback_eq, hfollows.rules_eq⟩

def faultySettings : Settings where
  demand := { maxSize := 5, rules := [⟨"^hot-", "request-rate"⟩, ⟨"(", "geo"⟩, ⟨"cold", "geo"⟩] }
  rate := { cooldown := " +2 m ", maxSenders := 0 }
  ring := { virtualNodes := 1, groupSize := 9 }

/-- The parts that count requests, evict profiles and own names are set up as it is written, and the
registry is refused for the pattern of the second rule. -/
theorem usable_of_check_faulty :
    faultySettings.check = .ok () ∧
      (∃ params, Demand.RateParams.ofSettings faultySettings.rate = .ok params ∧
        params.reportThreshold = 100 ∧ params.maxSenders = 1) ∧
      (Demand.Limits.ofSettings faultySettings.demand).maxSize = 5 ∧
      (∃ ring, HashRing.ofSettings ["RC0", "RC1"] faultySettings.ring = .ok ring ∧
        ring.virtualNodes = 1 ∧ ring.groupSize = 9) ∧
      Demand.Registry.ofSettings faultySettings = .error (.invalidPattern "(") := by
  have hcheck : faultySettings.check = .ok () := by decide +kernel
  obtain ⟨⟨params, hparams, hwritten⟩, hlimits, hring, hregistry, -, -⟩ :=
    usable_of_check faultySettings hcheck
  obtain ⟨hempty, -⟩ | ⟨-, ring, hbuilt, -, hnodes, hgroup⟩ := hring ["RC0", "RC1"]
  · cases hempty
  have hkind : ∀ e, ¬ KindFault "request-rate" e := by
    rintro e ⟨hunknown⟩
    exact hunknown (.inl rfl)
  have hrule : ∀ e, ¬ Rule.Fault ⟨"^hot-", "request-rate"⟩ e := by
    rintro e (hnone | ⟨-, hfault⟩)
    · exact absurd hnone (by decide +kernel)
    · exact hkind e hfault
  have hfirst : IsFirst faultySettings.demand.faults (.invalidPattern "(") :=
    .later hkind (.later hrule (.here (.pattern (by decide +kernel))))
  exact ⟨hcheck, ⟨params, hparams, hwritten.reportThreshold_eq, hwritten.maxSenders_eq⟩,
    (hlimits default default).1, ⟨ring, hbuilt, hnodes, hgroup⟩, (hregistry _).mpr hfirst⟩

end Settings

end ServicePlacement
