import ServicePlacement.Proofs.ExportRestore
import ServicePlacement.Proofs.SenderTallies

/-!
Runs of a single profile, and how many senders it remembers. Every request and every merge ends with
cutting the senders to the number that the parameters allow, and nothing else changes them
(`act_rate_cases`). So a profile that starts empty never remembers more senders. One that is rebuilt
from an export takes all senders of the export, and keeps them until it counts for the first time.
-/
namespace ServicePlacement.Demand

/-- A request is added to the tally of its sender, and then the senders are cut. -/
theorem RateStats.senders_record (p : RateParams) (s : RateStats) (sender : IpAddress)
    (now : UInt64) : (s.record p sender now).2.senders =
      (s.senders.count sender.text 1).bound p.maxSenders.toNat := by
  unfold record
  simp only
  split <;> rfl

namespace Profile

inductive Act where
  | record (sender : IpAddress) (now : UInt64)
  | propose (current : Placement) (c : Cluster) (now : UInt64)
  | moved (now : UInt64)
  | merge (e : Export)

def act (p : Profile) : Act → Profile
  | .record sender now => (p.record sender now).2
  | .propose _ _ _ => p
  | .moved now => p.moved now
  | .merge e => (p.merge e).toOption.getD p

def run (p : Profile) (acts : List Act) : Profile := acts.foldl act p

def senders : Profile → Senders
  | null _ => .empty
  | rate _ _ s => s.senders

def counts (p : Profile) : Act → Bool
  | .record _ _ => true
  | .propose _ _ _ => false
  | .moved _ => false
  | .merge e => (p.merge e).toOption.isSome

def countsIn (p : Profile) : List Act → Bool
  | [] => false
  | a :: rest => p.counts a || (p.act a).countsIn rest

variable {name : ServiceName} {params : RateParams} {s : RateStats}

/-- An operation keeps the parameters. If it counts, the senders are within their bound afterwards,
and otherwise they are the same. -/
theorem act_rate_cases (name : ServiceName) (params : RateParams) (s : RateStats) (a : Act) :
    ∃ s', (rate name params s).act a = rate name params s' ∧
      (((rate name params s).counts a = true ∧ s'.senders.size ≤ params.maxSenders.toNat) ∨
        ((rate name params s).counts a = false ∧ s'.senders = s.senders)) := by
  have hcut (t : Senders) : (t.bound params.maxSenders.toNat).size ≤ params.maxSenders.toNat := by
    rw [Senders.size_bound]
    exact Nat.min_le_left _ _
  cases a with
  | record sender now =>
    refine ⟨(s.record params sender now).2, rfl, .inl ⟨rfl, ?_⟩⟩
    rw [RateStats.senders_record]
    exact hcut _
  | propose current c now => exact ⟨s, rfl, .inr ⟨rfl, rfl⟩⟩
  | moved now => exact ⟨s.moved now, rfl, .inr ⟨rfl, rfl⟩⟩
  | merge e =>
    unfold act counts
    simp only
    rw [merge_rate]
    cases RateStats.decode? name e with
    | none => exact ⟨s, rfl, .inr ⟨rfl, rfl⟩⟩
    | some t => exact ⟨s.merge params t, rfl, .inl ⟨rfl, hcut _⟩⟩

/-- A run keeps the parameters. If it counts, the senders are within their bound afterwards, and
otherwise they are those that it began with. -/
theorem run_rate_cases (name : ServiceName) (params : RateParams) (s : RateStats)
    (acts : List Act) :
    ∃ s', (rate name params s).run acts = rate name params s' ∧
      (((rate name params s).countsIn acts = true ∧
          s'.senders.size ≤ params.maxSenders.toNat) ∨
        ((rate name params s).countsIn acts = false ∧ s'.senders = s.senders)) := by
  induction acts generalizing s with
  | nil => exact ⟨s, rfl, .inr ⟨rfl, rfl⟩⟩
  | cons a rest ih =>
    obtain ⟨t, ht, hstep⟩ := act_rate_cases name params s a
    obtain ⟨s', hs', hrest⟩ := ih t
    have hcounts : (rate name params s).countsIn (a :: rest) =
        ((rate name params s).counts a || (rate name params t).countsIn rest) := by
      rw [← ht]
      rfl
    refine ⟨s', (congrArg (run · rest) ht).trans hs', ?_⟩
    rw [hcounts]
    rcases hrest with ⟨hcounted, hsize⟩ | ⟨hquiet, hsame⟩
    · exact .inl ⟨by rw [hcounted, Bool.or_true], hsize⟩
    · rcases hstep with ⟨hcounted, hsize⟩ | ⟨hcounted, hkept⟩
      · exact .inl ⟨by rw [hcounted, Bool.true_or], by rw [hsame]; exact hsize⟩
      · exact .inr ⟨by rw [hcounted, hquiet, Bool.or_false], hsame.trans hkept⟩

/-- A run ends with more senders than the bound allows if it began so and did not count. -/
theorem bound_lt_size_run_iff (name : ServiceName) (params : RateParams) (s : RateStats)
    (acts : List Act) :
    params.maxSenders.toNat < ((rate name params s).run acts).senders.size ↔
      params.maxSenders.toNat < s.senders.size ∧ (rate name params s).countsIn acts = false := by
  obtain ⟨s', hs', hcases⟩ := run_rate_cases name params s acts
  have hsenders : ((rate name params s).run acts).senders = s'.senders := congrArg senders hs'
  rw [hsenders]
  rcases hcases with ⟨hcounted, hsize⟩ | ⟨hquiet, hsame⟩
  · rw [hcounted]
    constructor
    · intro hlt
      exact absurd hlt (Nat.not_lt.mpr hsize)
    · rintro ⟨-, hfalse⟩
      cases hfalse
  · rw [hsame]
    exact ⟨fun hlt => ⟨hlt, hquiet⟩, And.left⟩

/-- A profile that is rebuilt from an export has the parameters of its strategy. -/
theorem exists_of_restore_rate {e : Export} {p : Profile}
    (h : (Strategy.rate params).restore e = .ok p) : ∃ s, p = rate e.name params s := by
  obtain ⟨-, -, hrest⟩ := exists_of_bind_eq_ok h
  obtain ⟨s, -, hresult⟩ := exists_of_bind_eq_ok hrest
  cases hresult
  exact ⟨s, rfl⟩

/-- The number of senders that a profile remembers. If it was created, it never exceeds the bound,
whatever happens to the profile. If it was rebuilt from an export, it exceeds the bound exactly as
long as the export has more senders than that and no request was counted and no export merged. -/
theorem senders_bounded_once_counted (params : RateParams) :
    (∀ name acts, (((Strategy.rate params).create name).run acts).senders.size ≤
        params.maxSenders.toNat) ∧
      ∀ e p, (Strategy.rate params).restore e = .ok p → ∀ acts,
        (params.maxSenders.toNat < (p.run acts).senders.size ↔
          params.maxSenders.toNat < p.senders.size ∧ p.countsIn acts = false) := by
  constructor
  · intro name acts
    refine Nat.not_lt.mp fun hlt => ?_
    obtain ⟨hempty, -⟩ := (bound_lt_size_run_iff name params {} acts).mp hlt
    exact Nat.not_lt_zero _ hempty
  · intro e p hrestore acts
    obtain ⟨s, rfl⟩ := exists_of_restore_rate hrestore
    exact bound_lt_size_run_iff e.name params s acts

def twoSendersExport : Export :=
  Profile.toExport (.rate "svc" {}
    { requests := 3, total := 3, senders := .ofList [("10.0.0.1", 1), ("10.0.0.2", 2)] })

theorem exists_ok_of_toOption {ε α β : Type} {x : Except ε α} {f : α → β} {b : β}
    (h : x.toOption.map f = some b) : ∃ a, x = .ok a ∧ f a = b := by
  cases x with
  | error err => cases h
  | ok a => exact ⟨a, rfl, Option.some.inj h⟩

/-- A process with room for one sender takes both. -/
theorem exists_restore_twoSendersExport :
    ∃ p, (Strategy.rate { maxSenders := 1 }).restore twoSendersExport = .ok p ∧
      p.senders.size = 2 :=
  exists_ok_of_toOption (by decide +kernel)

/-- Both senders stay while the profile only moves. A request of a third one is counted, and one
sender is left. -/
theorem senders_bounded_once_counted_two_senders :
    let params : RateParams := { maxSenders := 1 }
    let moving := [Act.moved 10, .propose (.singleton "AR0") .empty 20]
    let asked := Act.record (.v4 ⟨10, 0, 0, 3⟩) 30
    ∃ p, (Strategy.rate params).restore twoSendersExport = .ok p ∧ p.senders.size = 2 ∧
      1 < (p.run moving).senders.size ∧ ¬ 1 < (p.run (moving ++ [asked])).senders.size := by
  intro params moving asked
  obtain ⟨p, hp, hsize⟩ := exists_restore_twoSendersExport
  have hbound := (senders_bounded_once_counted params).2 twoSendersExport p hp
  refine ⟨p, hp, hsize, (hbound moving).mpr ⟨by rw [hsize]; decide, rfl⟩, fun hlt => ?_⟩
  have hquiet := ((hbound (moving ++ [asked])).mp hlt).2
  cases hquiet

/-- A profile can remember more senders than its bound, as soon as it is rebuilt. -/
theorem restored_senders_exceed_bound :
    ¬ ∀ (params : RateParams) (e : Export) (p : Profile) (acts : List Act),
      (Strategy.rate params).restore e = .ok p →
        (p.run acts).senders.size ≤ params.maxSenders.toNat := by
  intro hbounded
  obtain ⟨p, hp, hsize⟩ := exists_restore_twoSendersExport
  have hle : p.senders.size ≤ 1 := hbounded { maxSenders := 1 } twoSendersExport p [] hp
  omega

end Profile

end ServicePlacement.Demand
