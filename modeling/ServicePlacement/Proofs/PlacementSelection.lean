import Mathlib.Data.List.Perm.Subperm
import ServicePlacement.Demand.Profile
import ServicePlacement.Proofs.Distinct
import ServicePlacement.Proofs.MapViews
import ServicePlacement.Proofs.SenderRanking

/-!
Which placement is proposed. Both loops of the selection add replicas to one growing set until it is
large enough, so together they take the first replicas of one list, `selectionOrder`: next to the
senders first, then those that the name has now, then the others. That list has every active replica
once, so a proposal has as many replicas as are wanted, or all.
-/
namespace ServicePlacement

namespace SortedSet

variable {α : Type} [LT α] [LE α] [DecidableLT α] [Std.IsLinearOrder α] [Std.LawfulOrderLT α]

omit [LE α] [DecidableLT α] [Std.IsLinearOrder α] [Std.LawfulOrderLT α] in
theorem isEmpty_iff_size {s : SortedSet α} : s.isEmpty = true ↔ s.size = 0 := by
  unfold isEmpty size
  rw [List.isEmpty_iff, List.length_eq_zero_iff]

theorem ofList_concat (l : List α) (a : α) : ofList (l ++ [a]) = (ofList l).insert a :=
  List.foldl_append

theorem not_contains_iff {s : SortedSet α} {a : α} : (!s.contains a) = true ↔ a ∉ s := by
  rw [Bool.not_eq_true', ← Bool.not_eq_true, contains_iff]

/-- Different elements make a set of as many members. -/
theorem size_ofList {l : List α} (h : l.Nodup) : (ofList l).size = l.length := by
  have hperm : (ofList l).toList.Perm l := by
    refine (List.perm_ext_iff_of_nodup (ofList l).nodup_toList h).mpr fun a => ?_
    exact mem_ofList
  exact hperm.length_eq

theorem ofList_eq_of_mem {l : List α} {s : SortedSet α} (h : ∀ a, a ∈ l ↔ a ∈ s) :
    ofList l = s := by
  refine ext_mem fun a => ?_
  rw [mem_ofList, h]

end SortedSet

namespace Demand.Placement

variable {c : Cluster} {current chosen : Placement} {wanted : Nat}

theorem fill_of_full (h : wanted ≤ chosen.size) (ids : List NodeId) :
    fill wanted chosen ids = chosen := by
  cases ids with
  | nil => rfl
  | cons id rest => rw [fill, if_pos h]

theorem fill_append (wanted : Nat) (chosen : Placement) (ids more : List NodeId) :
    fill wanted chosen (ids ++ more) = fill wanted (fill wanted chosen ids) more := by
  induction ids generalizing chosen with
  | nil => rfl
  | cons id rest ih =>
    by_cases hfull : wanted ≤ chosen.size
    · rw [fill_of_full hfull, fill_of_full hfull, fill_of_full hfull]
    · rw [List.cons_append, fill, if_neg hfull, ih, fill, if_neg hfull]

/-- Filling goes on with the first different replicas, as long as there is room. -/
theorem fill_ofList {before : List NodeId} (hnodup : before.Nodup) (hroom : before.length ≤ wanted)
    (ids : List NodeId) :
    fill wanted (.ofList before) ids = .ofList ((before ++ ids).eraseDups.take wanted) := by
  have hsize := SortedSet.size_ofList hnodup
  induction ids generalizing before with
  | nil => rw [List.append_nil, eraseDups_of_nodup hnodup, List.take_of_length_le hroom, fill]
  | cons id rest ih =>
    unfold fill
    split
    · have hlength : before.length = wanted := by omega
      rw [List.eraseDups_append, eraseDups_of_nodup hnodup,
        List.take_append_of_le_length (Nat.le_of_eq hlength.symm), List.take_of_length_le hroom]
    · by_cases hknown : id ∈ before
      · have hsame : (SortedSet.ofList before).insert id = .ofList before := by
          refine (SortedSet.ofList_eq_of_mem fun a => ?_).symm
          rw [SortedSet.mem_insert, SortedSet.mem_ofList]
          constructor
          · exact .inr
          · rintro (rfl | hmem)
            · exact hknown
            · exact hmem
        have hskip : (id :: rest).removeAll before = rest.removeAll before := by
          simp [List.removeAll, hknown]
        rw [hsame, ih hnodup hroom hsize, List.eraseDups_append, List.eraseDups_append, hskip]
      · have hnodup' : (before ++ [id]).Nodup := by
          refine List.nodup_append.mpr ⟨hnodup, List.nodup_singleton id, ?_⟩
          intro a ha b hb heq
          rw [heq, List.mem_singleton.mp hb] at ha
          exact hknown ha
        have hroom' : (before ++ [id]).length ≤ wanted := by
          rw [List.length_append, List.length_singleton]
          omega
        rw [← SortedSet.ofList_concat, ih hnodup' hroom' (SortedSet.size_ofList hnodup'),
          List.append_assoc, List.singleton_append]

theorem fill_empty (wanted : Nat) (ids : List NodeId) :
    fill wanted .empty ids = .ofList (ids.eraseDups.take wanted) :=
  fill_ofList List.nodup_nil (Nat.zero_le wanted) ids

def localPicks (c : Cluster) (chosen : Placement) : List IpAddress → List NodeId
  | [] => []
  | sender :: rest =>
    match localTo? c chosen sender with
    | some id => id :: localPicks c (chosen.insert id) rest
    | none => localPicks c chosen rest

theorem chooseLocal_eq_fill (c : Cluster) (wanted : Nat) (chosen : Placement)
    (senders : List IpAddress) :
    chooseLocal c wanted chosen senders = fill wanted chosen (localPicks c chosen senders) := by
  induction senders generalizing chosen with
  | nil => rfl
  | cons sender rest ih =>
    unfold chooseLocal
    split
    · rw [fill_of_full ‹_›]
    · rename_i hroom
      unfold localPicks
      cases localTo? c chosen sender with
      | none => exact ih chosen
      | some id => exact (ih (chosen.insert id)).trans (by rw [fill, if_neg hroom])

theorem localTo?_eq_some {sender : IpAddress} {id : NodeId}
    (h : localTo? c chosen sender = some id) :
    id ∈ c.activeReplicas ∧ id ∉ chosen ∧ (c.endpoint? id).map Endpoint.ip = some sender := by
  have hfound := List.find?_some h
  rw [Bool.and_eq_true, SortedSet.not_contains_iff, beq_iff_eq] at hfound
  exact ⟨List.mem_of_find?_eq_some h, hfound⟩

theorem mem_of_mem_localPicks {senders : List IpAddress} {id : NodeId}
    (h : id ∈ localPicks c chosen senders) : id ∈ c.activeReplicas ∧ id ∉ chosen := by
  induction senders generalizing chosen with
  | nil => cases h
  | cons sender rest ih =>
    unfold localPicks at h
    split at h
    · rename_i first hfirst
      obtain ⟨hactive, hfresh, -⟩ := localTo?_eq_some hfirst
      rcases List.mem_cons.mp h with rfl | hrest
      · exact ⟨hactive, hfresh⟩
      · obtain ⟨hmem, hnew⟩ := ih hrest
        exact ⟨hmem, fun hold => hnew (SortedSet.mem_insert.mpr (.inr hold))⟩
    · exact ih h

theorem mem_fillers {id : NodeId} : id ∈ fillers c current ↔ id ∈ c.activeReplicas := by
  unfold fillers
  rw [List.mem_append, List.mem_filter, List.mem_filter, SortedSet.contains_iff,
    SortedSet.not_contains_iff]
  constructor
  · rintro (⟨-, hactive⟩ | ⟨hactive, -⟩)
    · exact hactive
    · exact hactive
  · intro hactive
    by_cases hcurrent : id ∈ current
    · exact .inl ⟨hcurrent, hactive⟩
    · exact .inr ⟨hactive, hcurrent⟩

/-- The order in which replicas are taken: those next to the senders, the others of the current
placement that are still active, and the other active ones. -/
def selectionOrder (c : Cluster) (current : Placement) (senders : List IpAddress) : List NodeId :=
  (localPicks c .empty senders ++ fillers c current).eraseDups

theorem best_eq_fill (c : Cluster) (current : Placement) (senders : List IpAddress) :
    best c current senders =
      fill (max current.size 1) .empty (localPicks c .empty senders ++ fillers c current) := by
  rw [fill_append, ← chooseLocal_eq_fill]
  rfl

/-- The selection takes the first replicas, as many as the placement has now, and at least one. -/
theorem best_eq (c : Cluster) (current : Placement) (senders : List IpAddress) :
    best c current senders =
      .ofList ((selectionOrder c current senders).take (max current.size 1)) := by
  rw [best_eq_fill, fill_empty]
  rfl

/-- Every active replica has one place in the order. -/
theorem selectionOrder_perm (c : Cluster) (current : Placement) (senders : List IpAddress) :
    (selectionOrder c current senders).Perm c.activeReplicas.toList := by
  refine (List.perm_ext_iff_of_nodup (nodup_eraseDups _) c.activeReplicas.nodup_toList).mpr
    fun id => ?_
  rw [List.mem_eraseDups, List.mem_append, mem_fillers]
  constructor
  · rintro (hlocal | hactive)
    · exact (mem_of_mem_localPicks hlocal).1
    · exact hactive
  · exact .inr

theorem mem_of_mem_best {senders : List IpAddress} {id : NodeId}
    (h : id ∈ best c current senders) : id ∈ c.activeReplicas := by
  rw [best_eq, SortedSet.mem_ofList] at h
  exact (selectionOrder_perm c current senders).mem_iff.mp (List.mem_of_mem_take h)

theorem size_best (c : Cluster) (current : Placement) (senders : List IpAddress) :
    (best c current senders).size = min (max current.size 1) c.activeReplicas.size := by
  have hperm := selectionOrder_perm c current senders
  have hnodup := hperm.nodup_iff.mpr c.activeReplicas.nodup_toList
  rw [best_eq, SortedSet.size_ofList (hnodup.sublist (List.take_sublist _ _)), List.length_take,
    hperm.length_eq]
  rfl

/-- The selection is never empty where there are active replicas. -/
theorem isEmpty_best (senders : List IpAddress) (h : c.activeReplicas.isEmpty ≠ true) :
    (best c current senders).isEmpty = false := by
  have hactive : c.activeReplicas.size ≠ 0 := mt SortedSet.isEmpty_iff_size.mpr h
  have hsize := size_best c current senders
  rw [← Bool.not_eq_true, SortedSet.isEmpty_iff_size]
  omega

end Demand.Placement

namespace Demand.RateStats

variable {params : RateParams} {s : RateStats} {current q : Placement} {c : Cluster} {now : UInt64}

/-- What is proposed, and when: the selection, which always has members here, unless it is what the
name has already. -/
theorem propose_eq_some_iff :
    s.propose params current c now = some q ↔
      s.inCooldown params now = false ∧ ¬ s.total < params.minRequests ∧
        0 < c.activeReplicas.size ∧ Placement.best c current s.senders.ranked = q ∧
          q ≠ current := by
  unfold propose
  by_cases hcool : s.inCooldown params now = true
  · simp [hcool]
  · by_cases hrare : s.total < params.minRequests
    · simp [hrare]
    · rw [if_neg hcool, if_neg hrare]
      by_cases hnone : c.activeReplicas.isEmpty = true
      · rw [if_pos hnone, SortedSet.isEmpty_iff_size.mp hnone]
        simp
      · have hactive : 0 < c.activeReplicas.size :=
          Nat.pos_of_ne_zero (mt SortedSet.isEmpty_iff_size.mpr hnone)
        rw [if_neg hnone]
        simp only [Placement.isEmpty_best _ hnone, Bool.false_or, beq_iff_eq]
        constructor
        · intro hsome
          split at hsome
          · cases hsome
          · rename_i hother
            have hq := Option.some.inj hsome
            exact ⟨eq_false_of_ne_true hcool, hrare, hactive, hq, hq ▸ hother⟩
        · rintro ⟨-, -, -, rfl, hother⟩
          rw [if_neg hother]

/-- A proposal is refused in the cool-down, for too few requests, without active replicas, and where
it would change nothing. -/
theorem propose_eq_none_iff :
    s.propose params current c now = none ↔
      s.inCooldown params now = true ∨ s.total < params.minRequests ∨ c.activeReplicas.size = 0 ∨
        Placement.best c current s.senders.ranked = current := by
  rw [Option.eq_none_iff_forall_ne_some]
  constructor
  · intro hnone
    by_contra hrefused
    simp only [not_or] at hrefused
    obtain ⟨hcool, hrare, hactive, hother⟩ := hrefused
    exact hnone _ (propose_eq_some_iff.mpr ⟨eq_false_of_ne_true hcool, hrare,
      Nat.pos_of_ne_zero hactive, rfl, hother⟩)
  · intro hrefused q hsome
    obtain ⟨hcool, hrare, hactive, rfl, hother⟩ := propose_eq_some_iff.mp hsome
    rcases hrefused with hcool' | hrare' | hactive' | hsame
    · rw [hcool] at hcool'
      cases hcool'
    · exact hrare hrare'
    · omega
    · exact hother hsame

end Demand.RateStats

namespace Demand.Profile

/-- What proposes a move counts requests, and it proposes another placement. -/
theorem propose_eq_some {p : Profile} {current q : Placement} {c : Cluster} {now : UInt64}
    (h : p.propose current c now = some q) :
    (∃ name params s, p = .rate name params s) ∧ q ≠ current := by
  cases p with
  | null name => cases h
  | rate name params s =>
    obtain ⟨-, -, -, -, hother⟩ := RateStats.propose_eq_some_iff.mp h
    exact ⟨⟨name, params, s, rfl⟩, hother⟩

/-- A proposal consists of active replicas, as many as the name has now or all of them, and at least
one, and it differs from the current placement. There is none exactly in the cool-down, for too few
requests, without active replicas, and where the first replicas of the selection are the current
ones. -/
theorem proposal_well_formed_or_refused (name : ServiceName) (params : RateParams) (s : RateStats)
    (current : Placement) (c : Cluster) (now : UInt64) :
    (∀ q, (rate name params s).propose current c now = some q →
      (∀ id ∈ q, id ∈ c.activeReplicas) ∧ q ≠ current ∧
        q.size = min (max current.size 1) c.activeReplicas.size ∧ 0 < q.size) ∧
      ((rate name params s).propose current c now = none ↔
        s.inCooldown params now = true ∨ s.total < params.minRequests ∨
          c.activeReplicas.size = 0 ∨
          SortedSet.ofList ((Placement.selectionOrder c current s.senders.ranked).take
            (max current.size 1)) = current) := by
  constructor
  · intro q hsome
    obtain ⟨-, -, hactive, rfl, hother⟩ := RateStats.propose_eq_some_iff.mp hsome
    have hsize := Placement.size_best c current s.senders.ranked
    exact ⟨fun id => Placement.mem_of_mem_best, hother, hsize, by omega⟩
  · rw [← Placement.best_eq]
    exact RateStats.propose_eq_none_iff

def sharedHost : Ipv6 := ⟨0, 0, 0, 0, 0, 0, 0, 1⟩

def sharedAddress : Cluster :=
  (((Cluster.empty.withReplica "AR0" (some (.v6 sharedHost 2000 0))).withReplica "AR1"
    (some (.v6 sharedHost 2001 0))).withReplica "AR2" none).withReplica "AR3"
    (some (.v4 ⟨10, 0, 0, 1⟩ 2000))

def mixedSenders : RateStats where
  total := 15
  senders := .ofList [("somewhere", 7), ("::1", 5), ("0:0:0:0:0:0:0:1", 3)]

theorem ranked_mixedSenders : mixedSenders.senders.ranked = [.v6 sharedHost, .v6 sharedHost] := by
  have hranked : mixedSenders.senders.ranked =
      Senders.addresses [("somewhere", 7), ("::1", 5), ("0:0:0:0:0:0:0:1", 3)] :=
    Senders.ranked_eq_of_pairwise (by decide +kernel) (by decide)
  rw [hranked]
  decide +kernel

theorem propose_mixedSenders {current q : Placement}
    (h : Placement.best sharedAddress current [.v6 sharedHost, .v6 sharedHost] = q ∧ q ≠ current) :
    (rate "a" { minRequests := 15 } mixedSenders).propose current sharedAddress 0 = some q := by
  rw [← ranked_mixedSenders] at h
  exact RateStats.propose_eq_some_iff.mpr ⟨rfl, by decide, by decide +kernel, h⟩

/-- A replica of the current placement is gone. Both replicas at the shared address are proposed, one
for each text, and one that the name has already. With one request less than are needed, nothing is.
-/
theorem proposal_well_formed_or_refused_shared :
    let current : Placement := .ofList ["AR2", "AR3", "AR9"]
    let q : Placement := .ofList ["AR0", "AR1", "AR2"]
    (rate "a" { minRequests := 15 } mixedSenders).propose current sharedAddress 0 = some q ∧
      (∀ id ∈ q, id ∈ sharedAddress.activeReplicas) ∧ q ≠ current ∧ q.size = min 3 4 ∧
      (rate "a" { minRequests := 16 } mixedSenders).propose current sharedAddress 0 = none := by
  intro current q
  have hsome : (rate "a" { minRequests := 15 } mixedSenders).propose current sharedAddress 0 =
      some q := propose_mixedSenders (by decide +kernel)
  obtain ⟨hmem, hother, hsize, -⟩ := (proposal_well_formed_or_refused "a" { minRequests := 15 }
    mixedSenders current sharedAddress 0).1 q hsome
  exact ⟨hsome, hmem, hother, hsize, (proposal_well_formed_or_refused "a" { minRequests := 16 }
    mixedSenders current sharedAddress 0).2.mpr (.inr (.inl (by decide)))⟩

end Demand.Profile

end ServicePlacement
