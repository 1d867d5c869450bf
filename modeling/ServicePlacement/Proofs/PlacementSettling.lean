import ServicePlacement.Proofs.PlacementSelection

/-!
Placements settle. What the senders choose does not depend on the current placement, and a placement
that was selected stands in front of the other active replicas in the next selection, so it is
selected again (`best_best`). A name whose demand and whose cluster stay as they are therefore moves
once, whether or not its moves are noted.
-/
namespace ServicePlacement

namespace SortedSet

variable {α : Type} [LT α] [LE α] [DecidableLT α] [DecidableEq α] [Std.IsLinearOrder α]
  [Std.LawfulOrderLT α]

/-- The first elements of a list are its first ones again when they stand in place of all that
follows some beginning of it. -/
theorem ofList_take_replaced {front rest : List α} {s : SortedSet α}
    (h : s = ofList ((front ++ rest).eraseDups.take s.size)) :
    ofList ((front ++ s.toList).eraseDups.take s.size) = s := by
  have hmem : ∀ a, a ∈ s ↔ a ∈ (front ++ rest).eraseDups.take s.size := by
    intro a
    conv_lhs => rw [h]
    exact mem_ofList
  by_cases hroom : s.size ≤ front.eraseDups.length
  · -- Both lists have all of these in front.
    refine ofList_eq_of_mem fun a => ?_
    rw [hmem, List.eraseDups_append, List.eraseDups_append,
      List.take_append_of_le_length hroom, List.take_append_of_le_length hroom]
  · have hfront : ∀ a ∈ front, a ∈ s := by
      intro a ha
      rw [hmem, List.eraseDups_append, List.take_append]
      refine List.mem_append_left _ ?_
      rw [List.take_of_length_le (by omega)]
      exact List.mem_eraseDups.mpr ha
    have hsame : ∀ a, a ∈ (front ++ s.toList).eraseDups ↔ a ∈ s := by
      intro a
      rw [List.mem_eraseDups, List.mem_append]
      exact ⟨fun ha => ha.elim (hfront a) id, .inr⟩
    have hlength : (front ++ s.toList).eraseDups.length = s.size := by
      rw [← size_ofList (nodup_eraseDups _), ofList_eq_of_mem hsame]
    rw [List.take_of_length_le (Nat.le_of_eq hlength), ofList_eq_of_mem hsame]

end SortedSet

namespace Demand.Placement

variable {c : Cluster} {current : Placement}

/-- A placement that was selected is selected again. -/
theorem best_best {senders : List IpAddress} (hactive : 0 < c.activeReplicas.size) :
    best c (best c current senders) senders = best c current senders := by
  have hsize := size_best c current senders
  have hlength : (selectionOrder c current senders).length = c.activeReplicas.size :=
    (selectionOrder_perm c current senders).length_eq
  have hself := best_eq c current senders
  generalize best c current senders = q at hsize hself ⊢
  -- With fewer active replicas than wanted, the second selection wants only as many as there are.
  have htake : (selectionOrder c current senders).take (max current.size 1) =
      (selectionOrder c current senders).take q.size := by
    rw [List.take_eq_take_iff, hlength]
    omega
  rw [htake] at hself
  have hkept : q.toList.filter c.activeReplicas.contains = q.toList := by
    refine List.filter_eq_self.mpr fun id hid => SortedSet.contains_iff.mpr ?_
    rw [← SortedSet.mem_def, hself, SortedSet.mem_ofList] at hid
    exact (selectionOrder_perm c current senders).mem_iff.mp (List.mem_of_mem_take hid)
  have hwanted : max q.size 1 = q.size := by omega
  rw [best_eq_fill, hwanted, fillers, hkept, ← List.append_assoc, fill_append, fill_empty,
    SortedSet.ofList_take_replaced hself, fill_of_full (Nat.le_refl q.size)]

end Demand.Placement

namespace Demand.Profile

/-- The placements to which a name moves when it is asked at these clock readings for a proposal and
every proposal is followed. The mark of each reading says whether a move is noted then. -/
def follow (p : Profile) (c : Cluster) (current : Placement) :
    List (UInt64 × Bool) → List Placement
  | [] => []
  | (now, noted) :: rest =>
    match p.propose current c now with
    | some q => q :: (if noted then p.moved now else p).follow c q rest
    | none => p.follow c current rest

variable {name : ServiceName} {params : RateParams} {s : RateStats} {current : Placement}
  {c : Cluster}

/-- A placement that would be selected again is not left, whatever the profile has noted. -/
theorem propose_eq_none_of_best_eq (h : Placement.best c current s.senders.ranked = current)
    (now : UInt64) : (rate name params s).propose current c now = none :=
  RateStats.propose_eq_none_iff.mpr (.inr (.inr (.inr h)))

theorem best_of_propose {now : UInt64} {q : Placement}
    (h : (rate name params s).propose current c now = some q) :
    Placement.best c q s.senders.ranked = q := by
  obtain ⟨-, -, hactive, rfl, -⟩ := RateStats.propose_eq_some_iff.mp h
  exact Placement.best_best hactive

theorem follow_eq_nil (h : Placement.best c current s.senders.ranked = current)
    (asks : List (UInt64 × Bool)) : (rate name params s).follow c current asks = [] := by
  induction asks with
  | nil => rfl
  | cons ask rest ih =>
    unfold follow
    rw [propose_eq_none_of_best_eq h ask.1]
    exact ih

/-- After a proposal there is no further one from the placement that was proposed, at no clock
reading. So a name moves at most once, as long as its demand and its cluster stay the same. -/
theorem proposal_settles (name : ServiceName) (params : RateParams) (s : RateStats)
    (current : Placement) (c : Cluster) :
    (∀ now q, (rate name params s).propose current c now = some q →
      ∀ later, (rate name params s).propose q c later = none) ∧
      ∀ asks, ((rate name params s).follow c current asks).length ≤ 1 := by
  constructor
  · intro now q hsome later
    exact propose_eq_none_of_best_eq (best_of_propose hsome) later
  · intro asks
    induction asks with
    | nil => exact Nat.zero_le 1
    | cons ask rest ih =>
      unfold follow
      cases hsome : (rate name params s).propose current c ask.1 with
      | none => exact ih
      | some q =>
        have hbest := best_of_propose hsome
        -- Noting a move changes no sender.
        have hrest : (if ask.2 then (rate name params s).moved ask.1
            else rate name params s).follow c q rest = [] := by
          split
          · exact follow_eq_nil (s := s.moved ask.1) hbest rest
          · exact follow_eq_nil hbest rest
        simp only [hrest, List.length_singleton, Nat.le_refl]

/-- Six replicas are wanted and there are four. The first move is not noted, so nothing but the
placement itself keeps the name from moving on. -/
theorem proposal_settles_shared :
    let p := rate "a" { minRequests := 15 } mixedSenders
    let current : Placement := .ofList ["AR0", "AR4", "AR5", "AR6", "AR7", "AR8"]
    let q : Placement := .ofList ["AR0", "AR1", "AR2", "AR3"]
    p.propose current sharedAddress 0 = some q ∧ p.propose q sharedAddress 100000 = none ∧
      (p.follow sharedAddress current [(0, false), (100000, true), (0, false)]).length ≤ 1 := by
  intro p current q
  have hsome : p.propose current sharedAddress 0 = some q :=
    propose_mixedSenders (by decide +kernel)
  obtain ⟨hstays, honce⟩ :=
    proposal_settles "a" { minRequests := 15 } mixedSenders current sharedAddress
  exact ⟨hsome, hstays 0 q hsome 100000, honce _⟩

end Demand.Profile

end ServicePlacement
