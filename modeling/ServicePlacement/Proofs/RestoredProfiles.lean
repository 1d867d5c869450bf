import ServicePlacement.Proofs.ProfileRuns
import ServicePlacement.Proofs.RegistryKinds

/-!
What an export is good for. Everything that a profile ever shows is what its operations answer and
what it exports after each of them, its log. A profile that is rebuilt from an export by a strategy
with the same parameters has the same log, whatever happens to it, so it makes no difference where
a name's demand goes on being counted.
-/
namespace ServicePlacement.Demand.Profile

inductive Reply where
  | report (due : Bool)
  | proposal (placement : Option Placement)
  | noted
  | merged (done : Except DemandError Unit)

def reply (p : Profile) : Act → Reply
  | .record sender now => .report (p.record sender now).1
  | .propose current c now => .proposal (p.propose current c now)
  | .moved _ => .noted
  | .merge e => .merged ((p.merge e).map fun _ => ())

def log (p : Profile) : List Act → List (Reply × Export)
  | [] => []
  | a :: rest => (p.reply a, (p.act a).toExport) :: (p.act a).log rest

def strategy : Profile → Strategy
  | null _ => .null
  | rate _ params _ => .rate params

theorem kind_strategy (p : Profile) : p.strategy.kind = p.kind := by
  cases p <;> rfl

/-- The own strategy of a profile rebuilds it from its export as it was. -/
theorem restore_toExport {p : Profile} (h : p.isRestorable = true) :
    p.strategy.restore p.toExport = .ok p := by
  obtain ⟨q, hq⟩ := (Strategy.exists_restore_toExport_iff p.kind_strategy).mpr h
  rcases Strategy.restore_toExport_cases hq with
    ⟨name, -, rfl, rfl⟩ | ⟨name, params, params', s, hs, rfl, rfl⟩
  · exact hq
  · cases hs
    exact hq

/-- A profile that counts can be rebuilt from its export if its average gap is a finite number from
zero on, whatever else it has counted, and nobody can tell the two apart. -/
theorem restored_indistinguishable (name : ServiceName) (params : RateParams) (s : RateStats)
    (hfinite : s.gap.isFinite = true) (hsign : ¬ s.gap < 0) :
    ∃ q, (Strategy.rate params).restore (rate name params s).toExport = .ok q ∧
      q.toExport = (rate name params s).toExport ∧
      ∀ acts, q.log acts = (rate name params s).log acts := by
  have hrestorable : (rate name params s).isRestorable = true := by
    simp [isRestorable, hfinite, hsign]
  exact ⟨rate name params s, restore_toExport hrestorable, rfl, fun _ => rfl⟩

def saturatedStats : RateStats where
  requests := 3
  total := 18446744073709551615
  gap := 12.5
  lastRequest := 40
  lastMove := some 20
  moves := 1
  senders := .ofList [("10.0.0.1", 18446744073709551615), ("somewhere", 2)]

/-- The rebuilt profile counts, reports and rests like the one that was exported. -/
theorem restored_indistinguishable_saturated :
    let params : RateParams := { reportThreshold := 4, minRequests := 1, maxSenders := 1 }
    let p := rate "a" params saturatedStats
    let acts := [Act.record (.v4 ⟨10, 0, 0, 2⟩) 50, .moved 60, .propose (.singleton "AR0") .empty 70,
      .merge p.toExport]
    saturatedStats.gap.isFinite = true ∧ ¬ saturatedStats.gap < 0 ∧
      ∃ q, (Strategy.rate params).restore p.toExport = .ok q ∧ q.log acts = p.log acts := by
  intro params p acts
  have hfinite : saturatedStats.gap.isFinite = true := by decide +kernel
  have hsign : ¬ saturatedStats.gap < 0 := by decide +kernel
  obtain ⟨q, hq, -, hlog⟩ := restored_indistinguishable "a" params saturatedStats hfinite hsign
  exact ⟨hfinite, hsign, q, hq, hlog acts⟩

end ServicePlacement.Demand.Profile
