import ServicePlacement.Proofs.Cooldown
import ServicePlacement.Proofs.NameIsolation
import ServicePlacement.Proofs.PlacementSelection
import ServicePlacement.Proofs.TableSize

/-!
Asking for a move and moving agree. Both come to the decision of the same profile, and only a
profile that counts requests ever proposes anything. A move that was proposed leaves its mark in the
entry of its name and changes nothing else; without a proposal a move does nothing at all. Since a
proposal is never the placement that the name has now, the answer of a move tells which of the two
happened.
-/
namespace ServicePlacement.Demand

structure RateStats.IsMoved (now : UInt64) (s s' : RateStats) : Prop where
  lastMove_eq : s'.lastMove = some now
  moves_eq : s'.moves.toNat = min (s.moves.toNat + 1) 18446744073709551615
  rest_eq : { s' with lastMove := s.lastMove, moves := s.moves } = s

theorem RateStats.isMoved_moved (s : RateStats) (now : UInt64) : s.IsMoved now (s.moved now) where
  lastMove_eq := rfl
  moves_eq := toNat_satAdd _ _
  rest_eq := rfl

namespace Table

structure Commits (t : Table) (name : ServiceName) (marked : UInt64) (t' : Table) : Prop where
  exists_moved : ∃ params s s', t.profiles.get? name = some (.rate name params s) ∧
    t'.profiles.get? name = some (.rate name params s') ∧ s.IsMoved marked s'
  keepsOthers : KeepsOthers name t t'
  size_eq : t'.size = t.size

variable {t : Table} {name : ServiceName} {current : Placement} {c : Cluster}
  {now marked : UInt64}

/-- What a table proposes is what the profile of the name does. -/
theorem propose_eq_some_iff {q : Placement} : t.propose name current now = some q ↔
    ∃ p, t.profiles.get? name = some p ∧ p.propose current t.cluster now = some q :=
  Option.bind_eq_some_iff

theorem move_of_not_proposed (h : t.propose name current now = none) :
    t.move name current t.cluster now marked = (current, t) := by
  rcases t.move_cases name current t.cluster now marked with hmove | ⟨p, q, hget, hpropose, -⟩
  · exact hmove
  · cases h.symm.trans (propose_eq_some_iff.mpr ⟨p, hget, hpropose⟩)

theorem move_of_proposed {p : Profile} {q : Placement} (hget : t.profiles.get? name = some p)
    (hpropose : p.propose current c now = some q) :
    t.move name current c now marked = (q, t.put name (p.moved marked)) := by
  unfold move
  simp only [hget, hpropose]

theorem commits_move {p : Profile} {q : Placement} (hget : t.profiles.get? name = some p)
    (hname : p.name = name) (hpropose : p.propose current c now = some q) :
    t.Commits name marked (t.move name current c now marked).2 := by
  rw [move_of_proposed hget hpropose]
  obtain ⟨⟨name, params, s, rfl⟩, -⟩ := Profile.propose_eq_some hpropose
  cases hname
  constructor
  case exists_moved =>
    refine ⟨params, s, s.moved marked, hget, ?_, s.isMoved_moved marked⟩
    exact (t.get?_put _ _ _).trans (if_pos rfl)
  case keepsOthers => exact t.keepsOthers_put _ _
  case size_eq => exact size_put_of_get? hget _

/-- Asking and moving after any run, where the move is given what the table knows of the replicas.
Asking changes nothing. A move answers what is proposed and marks the entry of the name with it, and
that is all that it changes; if nothing is proposed, it answers the current placement and changes
nothing. So its answer is another placement exactly if there was a proposal to follow. Asking and
moving go by the first reading of the clock, the mark by the second. -/
theorem move_agrees_with_proposal (registry : Registry) (cluster : Cluster) (limits : Limits)
    (steps : List Step) (name : ServiceName) (current : Placement) (now marked : UInt64) :
    let t := (new registry cluster limits).run steps
    let moved := t.move name current t.cluster now marked
    t.next (.propose name current now) = t ∧
      (∀ q, t.propose name current now = some q → moved.1 = q ∧ t.Commits name marked moved.2) ∧
      (t.propose name current now = none → moved = (current, t)) ∧
      (moved.1 ≠ current ↔ (t.propose name current now).isSome = true) := by
  intro t moved
  have hkeyed := run_keyed registry cluster limits steps
  refine ⟨rfl, ?_, move_of_not_proposed, ?_⟩
  · intro q hproposed
    obtain ⟨p, hget, hpropose⟩ := propose_eq_some_iff.mp hproposed
    exact ⟨congrArg Prod.fst (move_of_proposed hget hpropose),
      commits_move hget (hkeyed name p hget) hpropose⟩
  · cases hproposed : t.propose name current now with
    | none =>
      have hstays : moved.1 = current := congrArg Prod.fst (move_of_not_proposed hproposed)
      exact ⟨fun hmoves => absurd hstays hmoves, fun hsome => absurd hsome Bool.false_ne_true⟩
    | some q =>
      obtain ⟨p, hget, hpropose⟩ := propose_eq_some_iff.mp hproposed
      have hanswer : moved.1 = q := congrArg Prod.fst (move_of_proposed hget hpropose)
      obtain ⟨-, hother⟩ := Profile.propose_eq_some hpropose
      exact ⟨fun _ => rfl, fun _ => hanswer ▸ hother⟩

def countedOut : Profile :=
  .rate "a" { minRequests := 1 }
    { total := 1, moves := 18446744073709551615, senders := .singleton "10.0.0.2" 1 }

/-- The name moves and is marked, and then it is in its cool-down. A name whose requests are not
counted stays where it is, and so does an unknown one. -/
theorem move_agrees_with_proposal_counted_out :
    let start := new .standard twoReplicas .standard
    let t := start.run [.install countedOut, .install (.null "b")]
    let moved := t.move "a" (.singleton "AR0") t.cluster 70000 70000
    let t' := start.run [.install countedOut, .install (.null "b"),
      .move "a" (.singleton "AR0") twoReplicas 70000 70000]
    moved.1 = .singleton "AR1" ∧ t.Commits "a" 70000 moved.2 ∧
      t'.move "a" (.singleton "AR0") t'.cluster 129999 129999 = (.singleton "AR0", t') ∧
      t.move "b" (.singleton "AR0") t.cluster 70000 70000 = (.singleton "AR0", t) ∧
      t.move "c" (.singleton "AR0") t.cluster 70000 70000 = (.singleton "AR0", t) := by
  intro start t moved t'
  have hagrees := move_agrees_with_proposal .standard twoReplicas .standard
  have hproposed : t.propose "a" (.singleton "AR0") 70000 = some (.singleton "AR1") := by
    decide +kernel
  obtain ⟨-, hfollows, -⟩ := hagrees _ "a" (.singleton "AR0") 70000 70000
  obtain ⟨hanswer, hcommits⟩ := hfollows _ hproposed
  refine ⟨hanswer, hcommits, ?_, ?_, ?_⟩
  · apply (hagrees _ "a" (.singleton "AR0") 129999 129999).2.2.1
    decide +kernel
  · apply (hagrees _ "b" (.singleton "AR0") 70000 70000).2.2.1
    decide +kernel
  · apply (hagrees _ "c" (.singleton "AR0") 70000 70000).2.2.1
    decide +kernel

end Table

end ServicePlacement.Demand
