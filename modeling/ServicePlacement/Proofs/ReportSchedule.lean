import ServicePlacement.Proofs.RestoredProfiles

/-!
When requests are reported. A request is reported as soon as the requests since the last report reach
the threshold, and then the count starts anew. So from any count on, the reports come at a fixed
distance after a first one, until an export is merged. The count stops at the greatest word, which no
threshold exceeds, and it is below the threshold again after every request.
-/
namespace ServicePlacement.Demand

/-- Whether the request of a number, counted from one, is reported: the first one that is, and then
every one whose distance from it is a multiple of the threshold. A threshold of zero counts as one.
-/
def isDue (threshold counted k : Nat) : Bool :=
  let first := max 1 (threshold - counted)
  decide (first ≤ k ∧ max threshold 1 ∣ k - first)

theorem isDue_one (threshold counted : Nat) :
    isDue threshold counted 1 = decide (threshold ≤ counted + 1) := by
  unfold isDue
  refine decide_eq_decide.mpr ⟨fun hdue => by omega, fun hle => ?_⟩
  have hfirst : max 1 (threshold - counted) = 1 := by omega
  rw [hfirst]
  exact ⟨Nat.le_refl 1, Nat.dvd_zero _⟩

/-- The schedule after a request is the rest of the schedule before it. -/
theorem isDue_succ (threshold counted : Nat) {k : Nat} (hk : 1 ≤ k) :
    isDue threshold counted (k + 1) =
      isDue threshold (if threshold ≤ counted + 1 then 0 else counted + 1) k := by
  unfold isDue
  refine decide_eq_decide.mpr ?_
  split
  · -- The request was the first that is reported.
    have hfirst : max 1 (threshold - counted) = 1 := by omega
    rw [hfirst, Nat.sub_zero, Nat.max_comm 1 threshold, Nat.add_sub_cancel]
    constructor
    · rintro ⟨-, hdvd⟩
      exact ⟨Nat.le_of_dvd hk hdvd, Nat.dvd_sub hdvd (Nat.dvd_refl _)⟩
    · rintro ⟨hle, hdvd⟩
      refine ⟨by omega, ?_⟩
      have hsum := Nat.dvd_add hdvd (Nat.dvd_refl (max threshold 1))
      rwa [Nat.sub_add_cancel hle] at hsum
  · have hbefore : max 1 (threshold - counted) = threshold - counted := by omega
    have hafter : max 1 (threshold - (counted + 1)) = threshold - counted - 1 := by omega
    have hsame : k + 1 - (threshold - counted) = k - (threshold - counted - 1) := by omega
    rw [hbefore, hafter, hsame]
    exact and_congr_left fun _ => by omega

namespace RateStats

/-- Saturation never keeps the count below the threshold. -/
theorem record_due (p : RateParams) (s : RateStats) (sender : IpAddress) (now : UInt64) :
    (s.record p sender now).1 =
        decide (p.reportThreshold.toNat ≤ s.requests.toNat + 1) ∧
      (s.record p sender now).2.requests.toNat =
        if p.reportThreshold.toNat ≤ s.requests.toNat + 1 then 0 else s.requests.toNat + 1 := by
  have hthreshold := p.reportThreshold.toNat_lt
  have hone : (1 : UInt64).toNat = 1 := rfl
  have hcount : (satAdd s.requests 1).toNat =
      min (s.requests.toNat + 1) 18446744073709551615 := by rw [toNat_satAdd, hone]
  have hreached : p.reportThreshold ≤ satAdd s.requests 1 ↔
      p.reportThreshold.toNat ≤ s.requests.toNat + 1 := by
    rw [UInt64.le_iff_toNat_le, hcount]
    omega
  unfold record register
  simp only
  by_cases hdue : p.reportThreshold.toNat ≤ s.requests.toNat + 1
  · rw [if_pos (hreached.mpr hdue), if_pos hdue]
    exact ⟨(decide_eq_true hdue).symm, rfl⟩
  · rw [if_neg (mt hreached.mp hdue), if_neg hdue]
    refine ⟨(decide_eq_false hdue).symm, ?_⟩
    simp only [hcount]
    omega

end RateStats

namespace Profile

def Reply.due? : Reply → Option Bool
  | report due => some due
  | proposal _ => none
  | noted => none
  | merged _ => none

def Act.isRequest : Act → Bool
  | record _ _ => true
  | propose _ _ _ => false
  | moved _ => false
  | merge _ => false

def decisions (p : Profile) (acts : List Act) : List Bool :=
  (p.log acts).filterMap fun entry => entry.1.due?

def requests : Profile → UInt64
  | null _ => 0
  | rate _ _ s => s.requests

variable {name : ServiceName} {params : RateParams} {s : RateStats}

theorem decisions_cons (p : Profile) (a : Act) (rest : List Act) :
    p.decisions (a :: rest) = (p.reply a).due?.toList ++ (p.act a).decisions rest := by
  unfold decisions
  rw [log, List.filterMap_cons]
  cases (p.reply a).due? <;> rfl

/-- A request is decided and counted, and of the other operations only a merge changes the count. -/
theorem act_requests_cases (name : ServiceName) (params : RateParams) (s : RateStats) {a : Act}
    (hmerge : ∀ e, a ≠ .merge e) :
    ∃ s', (rate name params s).act a = rate name params s' ∧
      ((a.isRequest = true ∧
          ((rate name params s).reply a).due? =
            some (decide (params.reportThreshold.toNat ≤ s.requests.toNat + 1)) ∧
          s'.requests.toNat =
            if params.reportThreshold.toNat ≤ s.requests.toNat + 1 then 0
            else s.requests.toNat + 1) ∨
        (a.isRequest = false ∧ ((rate name params s).reply a).due? = none ∧
          s'.requests = s.requests)) := by
  cases a with
  | record sender now =>
    obtain ⟨hdue, hcount⟩ := s.record_due params sender now
    exact ⟨(s.record params sender now).2, rfl, .inl ⟨rfl, congrArg some hdue, hcount⟩⟩
  | propose current c now => exact ⟨s, rfl, .inr ⟨rfl, rfl, rfl⟩⟩
  | moved now => exact ⟨s.moved now, rfl, .inr ⟨rfl, rfl, rfl⟩⟩
  | merge e => exact absurd rfl (hmerge e)

/-- The decisions follow the schedule from the count at the beginning. -/
theorem decisions_eq (name : ServiceName) (params : RateParams) (s : RateStats) {acts : List Act}
    (hmerge : ∀ e, Act.merge e ∉ acts) :
    (rate name params s).decisions acts =
      (List.range' 1 (acts.countP Act.isRequest)).map
        (isDue params.reportThreshold.toNat s.requests.toNat) := by
  induction acts generalizing s with
  | nil => rfl
  | cons a rest ih =>
    have hrest : ∀ e, Act.merge e ∉ rest := fun e he => hmerge e (List.mem_cons_of_mem a he)
    obtain ⟨s', hs', hcases⟩ := act_requests_cases name params s (a := a)
      fun e heq => hmerge e (heq ▸ List.mem_cons_self)
    rw [decisions_cons, hs', ih s' hrest]
    rcases hcases with ⟨hrequest, hdue, hcount⟩ | ⟨hother, hdue, hcount⟩
    · have hlater (n : Nat) : List.range' (1 + 1) n = (List.range' 1 n).map fun k => 1 + k :=
        (List.map_add_range' 1 n 1).symm
      rw [List.countP_cons_of_pos hrequest, List.range'_succ, List.map_cons, hlater, List.map_map,
        hdue, isDue_one, hcount]
      refine congrArg (List.cons _) (List.map_congr_left fun k hk => ?_)
      rw [Function.comp_apply, Nat.add_comm 1 k, isDue_succ _ _ (List.mem_range'_1.mp hk).1]
    · rw [List.countP_cons_of_neg (by rw [hother]; exact Bool.false_ne_true), hdue, hcount]
      rfl

/-- Without merges, the first report comes when the count of requests reaches the threshold, or with
the next request if it has reached it already, and then every threshold requests, whatever the other
counts are and whatever happens in between. After every request the count is below the threshold. -/
theorem reports_every_threshold (name : ServiceName) (params : RateParams) (s : RateStats) :
    (∀ acts, (∀ e, Act.merge e ∉ acts) →
      (rate name params s).decisions acts =
        (List.range' 1 (acts.countP Act.isRequest)).map fun k =>
          let first := max 1 (params.reportThreshold.toNat - s.requests.toNat)
          decide (first ≤ k ∧ max params.reportThreshold.toNat 1 ∣ k - first)) ∧
      ∀ acts sender now,
        ((rate name params s).run (acts ++ [.record sender now])).requests.toNat <
          max params.reportThreshold.toNat 1 := by
  constructor
  · intro acts hmerge
    exact decisions_eq name params s hmerge
  · intro acts sender now
    obtain ⟨s', hs', -⟩ := run_rate_cases name params s acts
    have hrun : (rate name params s).run (acts ++ [.record sender now]) =
        rate name params (s'.record params sender now).2 := by
      unfold run at hs' ⊢
      rw [List.foldl_append, hs']
      rfl
    have hcount := (s'.record_due params sender now).2
    rw [hrun]
    show (s'.record params sender now).2.requests.toNat < _
    rw [hcount]
    split
    · omega
    · omega

/-- The count is far above the threshold, and all counts can grow no further. The next request is
reported, and then every third one, with moves and proposals in between. -/
theorem reports_every_threshold_saturated :
    let params : RateParams := { reportThreshold := 3 }
    let s : RateStats := { saturatedStats with requests := 18446744073709551615 }
    let asked := Act.record (.v4 ⟨10, 0, 0, 2⟩) 50
    let acts := [asked, .moved 60, asked, .propose (.singleton "AR0") .empty 70, asked, asked]
    (∀ e, Act.merge e ∉ acts) ∧
      (rate "a" params s).decisions acts = [true, false, false, true] := by
  intro params s asked acts
  have hmerge : ∀ e, Act.merge e ∉ acts := by
    intro e
    simp [acts, asked]
  have hschedule := (reports_every_threshold "a" params s).1 acts hmerge
  exact ⟨hmerge, hschedule.trans (by decide +kernel)⟩

end Profile

end ServicePlacement.Demand
