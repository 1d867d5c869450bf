import ServicePlacement.Proofs.Cooldown
import ServicePlacement.Proofs.SenderTallies

/-!
Merging exports in another order. Counts add up and times take their maximum, so of all that a
profile knows, only the average gap and the senders can depend on the order; the gap decides
nothing. The senders do not depend on it as long as all of them together have room in the table, so
that no merge drops one (`counts_foldl_merge`). Otherwise a sender that is dropped early loses its
tally, and another one can end up in front.
-/
namespace ServicePlacement.Demand

namespace RateStats

def counts (s : RateStats) : RateStats := { s with gap := 0 }

def outline (s : RateStats) : RateStats := { s with gap := 0, senders := .empty }

def join (s t : RateStats) : RateStats where
  requests := satAdd s.requests t.requests
  total := satAdd s.total t.total
  lastRequest := max s.lastRequest t.lastRequest
  lastMove := later s.lastMove t.lastMove
  moves := max s.moves t.moves
  senders := s.senders.merge t.senders

theorem max_right_comm (a b c : UInt64) : max (max a b) c = max (max a c) b := by
  simp only [← UInt64.toNat_inj, UInt64.toNat_max]
  omega

theorem later_right_comm (a b c : Option UInt64) : later (later a b) c = later (later a c) b := by
  cases b with
  | none => cases a <;> cases c <;> rfl
  | some y =>
    cases a with
    | none => exact later_comm (some y) c
    | some x =>
      cases c with
      | none => rfl
      | some z => exact congrArg some (max_right_comm x y z)

theorem join_right_comm (s t u : RateStats) : join (join s t) u = join (join s u) t := by
  have hadd (a b c : UInt64) : satAdd (satAdd a b) c = satAdd (satAdd a c) b :=
    RightCommutative.right_comm a b c
  simp only [join, hadd s.requests, hadd s.total, max_right_comm s.lastRequest,
    later_right_comm s.lastMove, max_right_comm s.moves, Senders.merge_right_comm s.senders]

theorem foldl_join_perm {ts us : List RateStats} (h : ts.Perm us) (s : RateStats) :
    ts.foldl join s = us.foldl join s :=
  h.foldl_eq' (fun t _ u _ s => join_right_comm s t u) s

theorem outline_merge (p : RateParams) (s t : RateStats) :
    (s.merge p t).outline = join s.outline t.outline := rfl

theorem outline_foldl_merge (p : RateParams) (ts : List RateStats) (s : RateStats) :
    (ts.foldl (merge p) s).outline = (ts.map outline).foldl join s.outline := by
  induction ts generalizing s with
  | nil => rfl
  | cons t rest ih =>
    rw [List.foldl_cons, ih, outline_merge]
    rfl

theorem counts_merge {p : RateParams} {s t : RateStats}
    (h : (s.senders.merge t.senders).size ≤ p.maxSenders.toNat) :
    (s.merge p t).counts = join s.counts t := by
  unfold merge counts join
  rw [Senders.bound_of_size_le h]

theorem size_senders_le_foldl_join (ts : List RateStats) (s : RateStats) :
    s.senders.size ≤ (ts.foldl join s).senders.size := by
  induction ts generalizing s with
  | nil => exact Nat.le_refl _
  | cons t rest ih => exact Nat.le_trans (Senders.size_le_size_merge _ _) (ih (s.join t))

/-- With room for all senders, merging adds up all there is. -/
theorem counts_foldl_merge {p : RateParams} {ts : List RateStats} {s : RateStats}
    (h : (ts.foldl join s.counts).senders.size ≤ p.maxSenders.toNat) :
    (ts.foldl (merge p) s).counts = ts.foldl join s.counts := by
  induction ts generalizing s with
  | nil => rfl
  | cons t rest ih =>
    have hroom : (s.senders.merge t.senders).size ≤ p.maxSenders.toNat :=
      Nat.le_trans (size_senders_le_foldl_join rest (s.counts.join t)) h
    have hfirst := counts_merge hroom
    rw [List.foldl_cons, ih (by rw [hfirst]; exact h), hfirst, List.foldl_cons]

/-- Statistics with the same outline give the same answer to a request, and have the same outline
after it. -/
theorem record_of_outline_eq (p : RateParams) {s t : RateStats} (h : s.outline = t.outline)
    (sender : IpAddress) (now : UInt64) :
    (s.record p sender now).1 = (t.record p sender now).1 ∧
      (s.record p sender now).2.outline = (t.record p sender now).2.outline := by
  cases s
  cases t
  simp only [outline, mk.injEq] at h
  obtain ⟨rfl, rfl, -, rfl, rfl, rfl, -⟩ := h
  -- The gaps of the two may differ, so they have to be gone before the sides are compared.
  unfold record register
  simp only
  split <;> simp only [outline, and_self]

theorem record_of_counts_eq (p : RateParams) {s t : RateStats} (h : s.counts = t.counts)
    (sender : IpAddress) (now : UInt64) :
    (s.record p sender now).2.counts = (t.record p sender now).2.counts := by
  cases s
  cases t
  simp only [counts, mk.injEq] at h
  obtain ⟨rfl, rfl, -, rfl, rfl, rfl, rfl⟩ := h
  unfold record register
  simp only
  split <;> simp only [counts]

/-- The average gap has no part in a proposal. -/
theorem propose_of_counts_eq (p : RateParams) {s t : RateStats} (h : s.counts = t.counts)
    (current : Placement) (c : Cluster) (now : UInt64) :
    s.propose p current c now = t.propose p current c now := by
  show s.counts.propose p current c now = t.counts.propose p current c now
  rw [h]

end RateStats

namespace Profile

def mergeAll (p : Profile) (es : List Export) : Profile :=
  es.foldl (fun p e => (p.merge e).toOption.getD p) p

def answers (p : Profile) : List (IpAddress × UInt64) → List Bool
  | [] => []
  | r :: rest => (p.record r.1 r.2).1 :: (p.record r.1 r.2).2.answers rest

def recordAll (p : Profile) (requests : List (IpAddress × UInt64)) : Profile :=
  requests.foldl (fun p r => (p.record r.1 r.2).2) p

variable {name : ServiceName} {params : RateParams} {s t : RateStats}

theorem mergeAll_rate (name : ServiceName) (params : RateParams) (s : RateStats)
    (es : List Export) :
    (rate name params s).mergeAll es =
      rate name params
        ((es.filterMap (RateStats.decode? name)).foldl (RateStats.merge params) s) := by
  unfold mergeAll
  induction es generalizing s with
  | nil => rfl
  | cons e rest ih =>
    rw [List.foldl_cons, merge_rate]
    cases hdecode : RateStats.decode? name e with
    | none => rw [List.filterMap_cons_none hdecode]; exact ih s
    | some t => rw [List.filterMap_cons_some hdecode]; exact ih (s.merge params t)

/-- Equal outlines give equal answers to all requests, and stay equal. -/
theorem answers_of_outline_eq (h : s.outline = t.outline) (requests : List (IpAddress × UInt64)) :
    (rate name params s).answers requests = (rate name params t).answers requests ∧
      ∃ s' t', (rate name params s).recordAll requests = rate name params s' ∧
        (rate name params t).recordAll requests = rate name params t' ∧
        s'.outline = t'.outline := by
  induction requests generalizing s t with
  | nil => exact ⟨rfl, s, t, rfl, rfl, h⟩
  | cons r rest ih =>
    obtain ⟨hanswer, houtline⟩ := RateStats.record_of_outline_eq params h r.1 r.2
    obtain ⟨hanswers, hafter⟩ := ih houtline
    exact ⟨List.cons_eq_cons.mpr ⟨hanswer, hanswers⟩, hafter⟩

/-- Equal counts give equal proposals after all requests. -/
theorem propose_recordAll_of_counts_eq (h : s.counts = t.counts)
    (requests : List (IpAddress × UInt64)) (current : Placement) (c : Cluster) (now : UInt64) :
    ((rate name params s).recordAll requests).propose current c now =
      ((rate name params t).recordAll requests).propose current c now := by
  induction requests generalizing s t with
  | nil => exact RateStats.propose_of_counts_eq params h current c now
  | cons r rest ih => exact ih (RateStats.record_of_counts_eq params h r.1 r.2)

def sendersTogether (name : ServiceName) (s : RateStats) (es : List Export) : Senders :=
  ((es.filterMap (RateStats.decode? name)).foldl RateStats.join s.counts).senders

/-- Exports can be merged in any order. The profile then gives the same answers to all later
requests, and counts the same requests and remembers the same move, on which it depends whether it
may propose one. It makes the same proposals as well, if its table has room for all senders that it
and the exports know. -/
theorem merge_order_same_decisions (name : ServiceName) (params : RateParams) (s : RateStats)
    {es es' : List Export} (h : es.Perm es') (requests : List (IpAddress × UInt64)) :
    let p := (rate name params s).mergeAll es
    let q := (rate name params s).mergeAll es'
    p.answers requests = q.answers requests ∧
      (p.recordAll requests).total = (q.recordAll requests).total ∧
      (p.recordAll requests).lastMove? = (q.recordAll requests).lastMove? ∧
      ((sendersTogether name s es).size ≤ params.maxSenders.toNat → ∀ current c now,
        (p.recordAll requests).propose current c now =
          (q.recordAll requests).propose current c now) := by
  intro p q
  have hts := h.filterMap (RateStats.decode? name)
  have houtline := RateStats.foldl_join_perm (hts.map RateStats.outline) s.outline
  rw [← RateStats.outline_foldl_merge params, ← RateStats.outline_foldl_merge params] at houtline
  obtain ⟨hanswers, s', t', hs', ht', hafter⟩ := answers_of_outline_eq houtline requests
  simp only [p, q, mergeAll_rate]
  refine ⟨hanswers, ?_, ?_, fun hroom current c now => ?_⟩
  · rw [hs', ht']
    show s'.outline.total = t'.outline.total
    rw [hafter]
  · rw [hs', ht']
    show s'.outline.lastMove = t'.outline.lastMove
    rw [hafter]
  · have hsame := RateStats.foldl_join_perm hts s.counts
    have hroom' : (sendersTogether name s es').size ≤ params.maxSenders.toNat := by
      rw [sendersTogether, ← hsame]
      exact hroom
    have hcounts := RateStats.counts_foldl_merge hroom
    have hcounts' := RateStats.counts_foldl_merge hroom'
    refine propose_recordAll_of_counts_eq ?_ requests current c now
    rw [hcounts, hcounts', hsame]

def askedBy (params : RateParams) (sender : IpAddress) (times : Nat) : Profile :=
  (rate "a" params {}).recordAll (List.replicate times (sender, 0))

def firstSender : IpAddress := .v4 ⟨10, 0, 0, 1⟩

def secondSender : IpAddress := .v4 ⟨10, 0, 0, 2⟩

/-- A request of the first sender is merged with two requests of each sender. Both senders have room,
and one more request is the sixth, which is reported. -/
theorem merge_order_same_decisions_two_senders :
    let params : RateParams := { reportThreshold := 6, minRequests := 1, maxSenders := 2 }
    let s : RateStats := { requests := 1, total := 1, senders := .singleton "10.0.0.1" 1 }
    let es := [(askedBy params secondSender 2).toExport, (askedBy params firstSender 2).toExport]
    let requests := [(secondSender, 10), (secondSender, 20)]
    let p := (rate "a" params s).mergeAll es
    let q := (rate "a" params s).mergeAll es.reverse
    es.Perm es.reverse ∧ p.answers requests = [true, false] ∧
      p.answers requests = q.answers requests ∧ (sendersTogether "a" s es).size = 2 ∧
      (p.recordAll requests).propose (.singleton "AR0") Table.twoReplicas 30 =
        (q.recordAll requests).propose (.singleton "AR0") Table.twoReplicas 30 := by
  intro params s es requests p q
  have hperm : es.Perm es.reverse := (List.reverse_perm es).symm
  have hsize : (sendersTogether "a" s es).size = 2 := by decide +kernel
  obtain ⟨hanswers, -, -, hproposals⟩ := merge_order_same_decisions "a" params s hperm requests
  exact ⟨hperm, by decide +kernel, hanswers, hsize,
    hproposals (by rw [hsize]; decide) (.singleton "AR0") Table.twoReplicas 30⟩

/-- The order of merges can change the proposal, where the table has no room for all senders. -/
theorem merge_order_changes_proposal :
    ¬ ∀ (name : ServiceName) (params : RateParams) (s : RateStats) (ps qs : List Profile),
      (∀ u ∈ ps, ∃ requests, u = (rate name params {}).recordAll requests) → ps.Perm qs →
        ∀ current c now,
          ((rate name params s).mergeAll (ps.map toExport)).propose current c now =
            ((rate name params s).mergeAll (qs.map toExport)).propose current c now := by
  intro hclaim
  let params : RateParams := { minRequests := 1, maxSenders := 1 }
  have hmade : ∀ u ∈ [askedBy params secondSender 2, askedBy params firstSender 2],
      ∃ requests, u = (rate "a" params {}).recordAll requests := by
    intro u hu
    rcases List.mem_pair.mp hu with rfl | rfl
    · exact ⟨_, rfl⟩
    · exact ⟨_, rfl⟩
  have hsame := hclaim "a" params { total := 1, senders := .singleton "10.0.0.1" 1 } _ _ hmade
    (List.Perm.swap _ _ []) (.singleton "AR0") Table.twoReplicas 0
  revert hsame
  decide +kernel

end Profile

end ServicePlacement.Demand
