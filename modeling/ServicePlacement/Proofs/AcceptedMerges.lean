import ServicePlacement.Proofs.MergeTrees
import ServicePlacement.Proofs.NameIsolation
import ServicePlacement.Proofs.SenderEviction
import ServicePlacement.Proofs.TableSize

/-!
What a table makes of a profile that it takes in. A name without an entry gets the profile as it is.
Otherwise the entry counts what both have counted (`isMergeOf_merge`), and it must stay where it is
as long as one of the two would have had to (`inCooldown_merge`). Either way the copy that is
answered exports what the entry exports, and the other entries are as they were.
-/
namespace ServicePlacement.Demand

namespace RateStats

/-- Merged statistics, the average gap apart: counts and tallies are added up to the greatest word,
times and moves take their maximum, and the senders are then cut to those there is room for. -/
structure IsMergeOf (m : RateStats) (most : Nat) (s t : RateStats) : Prop where
  requests_eq : m.requests.toNat = min (s.requests.toNat + t.requests.toNat) 18446744073709551615
  total_eq : m.total.toNat = min (s.total.toNat + t.total.toNat) 18446744073709551615
  lastRequest_eq : m.lastRequest.toNat = max s.lastRequest.toNat t.lastRequest.toNat
  lastMove_eq : timeRank m.lastMove = max (timeRank s.lastMove) (timeRank t.lastMove)
  moves_eq : m.moves.toNat = max s.moves.toNat t.moves.toNat
  exists_full : ∃ full : Senders, (∀ k, k ∈ full.keys ↔ k ∈ s.senders.keys ∨ k ∈ t.senders.keys) ∧
    (∀ k, full.tally k = min (s.senders.tally k + t.senders.tally k) 18446744073709551615) ∧
    full.IsCut most m.senders

theorem isMergeOf_merge (s : RateStats) (p : RateParams) (t : RateStats) :
    (s.merge p t).IsMergeOf p.maxSenders.toNat s t where
  requests_eq := toNat_satAdd _ _
  total_eq := toNat_satAdd _ _
  lastRequest_eq := UInt64.toNat_max _ _
  lastMove_eq := timeRank_later _ _
  moves_eq := UInt64.toNat_max _ _
  exists_full := ⟨s.senders.merge t.senders, fun _ => Senders.mem_keys_merge,
    Senders.tally_merge _ _, Senders.isCut_bound _ _⟩

/-- Of two marks the later one is in its cool-down for longer. -/
theorem inCooldown_merge (s : RateStats) (p : RateParams) (t : RateStats) (now : UInt64) :
    (s.merge p t).inCooldown p now = (s.inCooldown p now || t.inCooldown p now) := by
  have hmax (x y : UInt64) : decide (satSub now (max x y) < p.cooldown.millis) =
      (decide (satSub now x < p.cooldown.millis) || decide (satSub now y < p.cooldown.millis)) := by
    rw [← Bool.decide_or]
    apply decide_eq_decide.mpr
    simp only [UInt64.lt_iff_toNat_lt, toNat_satSub, UInt64.toNat_max]
    omega
  unfold inCooldown merge
  cases s.lastMove with
  | none => cases t.lastMove <;> rfl
  | some x =>
    cases t.lastMove with
    | none => exact (Bool.or_false _).symm
    | some y => exact hmax x y

end RateStats

namespace Table

structure TakesIn (t : Table) (update copy : Profile) (t' : Table) : Prop where
  of_new : t.profiles.get? update.name = none →
    (∃ p, t'.profiles.get? update.name = some p ∧ p.toExport = update.toExport) ∧
      t'.size = t.size + 1
  of_counting : ∀ name params s, t.profiles.get? update.name = some (.rate name params s) →
    (∃ params' u m, update = .rate name params' u ∧
      t'.profiles.get? update.name = some (.rate name params m) ∧
      m.IsMergeOf params.maxSenders.toNat s u ∧
      ∀ now, m.inCooldown params now = (s.inCooldown params now || u.inCooldown params now)) ∧
    t'.size = t.size
  of_null : ∀ name, t.profiles.get? update.name = some (.null name) →
    t'.profiles.get? update.name = some (.null name) ∧ t'.size = t.size
  exists_copied : ∃ p, t'.profiles.get? update.name = some p ∧ copy.toExport = p.toExport
  keepsOthers : KeepsOthers update.name t t'

variable {t t' : Table} {update copy : Profile}

theorem takesIn_of_accept (h : t.accept update = (.ok copy, t')) : t.TakesIn update copy t' := by
  rcases t.accept_cases update with ⟨_, haccept, -⟩ | ⟨strategy, p, -, hmerged, haccept, -⟩
  · cases h.symm.trans haccept
  · obtain ⟨hcopy, rfl⟩ := Prod.mk.inj (h.symm.trans haccept)
    have hentry : (t.put update.name p).profiles.get? update.name = some p :=
      (t.get?_put update.name update.name p).trans (if_pos rfl)
    constructor
    case of_new =>
      intro hnone
      rcases merged_cases hmerged with ⟨-, rfl⟩ | ⟨existing, hget, -⟩
      · exact ⟨⟨p, hentry, rfl⟩,
          (t.size_put _ p).trans (if_neg (SortedMap.not_contains_iff.mpr hnone))⟩
      · cases hnone.symm.trans hget
    case of_counting =>
      intro name params s hget
      rcases merged_cases hmerged with ⟨hnone, -⟩ | ⟨existing, hold, hmerge⟩
      · cases hnone.symm.trans hget
      · cases hget.symm.trans hold
        rcases Profile.merge_toExport_cases hmerge with
          ⟨_, hnull, -, -⟩ | ⟨name, params, params', s, u, hp, rfl, rfl⟩
        · cases hnull
        · cases hp
          refine ⟨⟨params', u, s.merge params u, rfl, hentry, s.isMergeOf_merge params u, ?_⟩,
            size_put_of_get? hget _⟩
          exact s.inCooldown_merge params u
    case of_null =>
      intro name hget
      rcases merged_cases hmerged with ⟨hnone, -⟩ | ⟨existing, hold, hmerge⟩
      · cases hnone.symm.trans hget
      · cases hget.symm.trans hold
        rcases Profile.merge_toExport_cases hmerge with
          ⟨name, hp, rfl, rfl⟩ | ⟨_, _, _, _, _, hnull, -, -⟩
        · cases hp
          exact ⟨hentry, size_put_of_get? hget _⟩
        · cases hnull
    case exists_copied => exact ⟨p, hentry, Strategy.toExport_of_restore hcopy.symm⟩
    case keepsOthers => exact t.keepsOthers_put update.name p

/-- A merge that succeeds, of a profile or of an export, takes in exactly what was merged. -/
theorem accepted_merge_taken_in (t : Table) :
    (∀ update copy t', t.accept update = (.ok copy, t') → t.TakesIn update copy t') ∧
      ∀ e copy t', t.acceptExport e = (.ok copy, t') →
        ∃ update, t.registry.restore e = .ok update ∧ update.name = e.name ∧
          t.TakesIn update copy t' := by
  constructor
  · intro update copy t' h
    exact takesIn_of_accept h
  · intro e copy t' h
    rcases t.acceptExport_cases e with ⟨_, haccept, -⟩ | ⟨update, hrestore, haccept, -⟩
    · cases h.symm.trans haccept
    · exact ⟨update, hrestore, Registry.name_restore hrestore,
        takesIn_of_accept (haccept.symm.trans h)⟩

def roomForOne : Table := new (.new (.rate { maxSenders := 1 })) .empty .standard

def holdsFull : Table :=
  (roomForOne.acceptExport (Profile.toExport (.rate "a" {} MergeTree.fullStats))).2

/-- With the second export the total reaches the greatest word, and a sender has to go. -/
theorem accepted_merge_taken_in_crowded :
    let e := Profile.toExport (.rate "a" {} MergeTree.movedStats)
    ∃ copy t' update, holdsFull.acceptExport e = (.ok copy, t') ∧
      holdsFull.registry.restore e = .ok update ∧ holdsFull.TakesIn update copy t' ∧
      copy.total = 18446744073709551615 ∧ copy.lastMove? = some 20 ∧ copy.senders.size = 1 := by
  intro e
  obtain ⟨copy, hcopy, hshown⟩ : ∃ copy, (holdsFull.acceptExport e).1 = .ok copy ∧
      (copy.total, copy.lastMove?, copy.senders.size) = (18446744073709551615, some 20, 1) :=
    Profile.exists_ok_of_toOption (by decide +kernel)
  have haccept : holdsFull.acceptExport e = (.ok copy, (holdsFull.acceptExport e).2) :=
    Prod.ext hcopy rfl
  obtain ⟨update, hupdate, -, htaken⟩ := (accepted_merge_taken_in holdsFull).2 e copy _ haccept
  simp only [Prod.mk.injEq] at hshown
  exact ⟨copy, _, update, haccept, hupdate, htaken, hshown⟩

end Table

end ServicePlacement.Demand
