import ServicePlacement.Proofs.OwnerSplit
import ServicePlacement.Proofs.RingOwner

/-!
Splitting and answering commute. A part of a batch that is answered for its own names is a part of
the whole answer (`IsPartOf.answer`), and a request has only one part for each owner. So the owners
may each answer their own share, and together they have answered the whole.
-/
namespace ServicePlacement.CreateRequest

namespace IsPartOf

variable {r part : CreateRequest} {ring : HashRing} {node : NodeId}

/-- An answer for all names of a part differs from the part in what it reports only. -/
theorem answer_eq (h : IsPartOf r ring node part) (failed : SortedSet ServiceName) :
    part.answer part.states failed = { part with failed, isAnswer := true } := by
  obtain ⟨state, hhead, hstate⟩ := h.exists_head
  have hinit := h.initGroup_eq
  unfold CreateRequest.answer
  rw [hhead]
  cases part
  cases hstate
  cases hinit
  rfl

theorem names_contains (h : IsPartOf r ring node part) (name : ServiceName) :
    part.names.contains name = part.states.contains name := by
  unfold names
  rw [if_pos h.isBatch, Bool.eq_iff_iff, SortedSet.contains_iff, SortedMap.contains_keys]

/-- The answer of a part, for its own names, is the part of the answer. -/
theorem answer (h : IsPartOf r ring node part) (failed : SortedSet ServiceName) :
    IsPartOf (r.answer r.states failed) ring node
      (part.answer part.states (failed.filter fun name => part.names.contains name)) := by
  rw [h.answer_eq]
  exact {
    states_eq := h.states_eq
    name_mem := h.name_mem
    name_le := h.name_le
    state_eq := h.state_eq
    failed_eq := by
      refine SortedSet.ext_mem fun name => ?_
      rw [SortedSet.mem_filter, SortedSet.mem_filter, h.names_contains]
      exact Iff.rfl
    initGroup_eq := h.initGroup_eq
    policy_eq := h.policy_eq
    sender_eq := h.sender_eq
    isAnswer_eq := rfl }

end IsPartOf

/-- Splitting commutes with answering. The answer to a batch, with any names reported as failed,
splits by the same owners as the batch, and the part of an owner is the answer to the owner's part
of the batch that reports those of the names which the owner was asked for. -/
theorem split_answer_by_owner (r : CreateRequest) (failed : SortedSet ServiceName)
    (ring : HashRing) (hbatch : r.isBatch = true) :
    ∃ parts answers, r.split ring = .ok parts ∧
      (r.answer r.states failed).split ring = .ok answers ∧ answers.keys = parts.keys ∧
      ∀ node part, parts.get? node = some part → answers.get? node =
        some (part.answer part.states (failed.filter fun name => part.names.contains name)) := by
  obtain ⟨parts, hsplit, hkeys, hspec⟩ := exists_split_of_batch ring hbatch
  obtain ⟨answers, hanswers, hkeys', hspec'⟩ :=
    exists_split_of_batch (r := r.answer r.states failed) ring hbatch
  have hsame : answers.keys = parts.keys := by
    refine SortedSet.ext_mem fun node => ?_
    rw [hkeys, hkeys']
    exact Iff.rfl
  refine ⟨parts, answers, hsplit, hanswers, hsame, fun node part hget => ?_⟩
  have hnode : node ∈ answers.keys := by
    rw [hsame]
    exact SortedMap.mem_keys_iff.mpr ⟨part, hget⟩
  obtain ⟨answer, hanswer⟩ := SortedMap.mem_keys_iff.mp hnode
  rw [hanswer, (hspec' node answer hanswer).unique ((hspec node part hget).answer failed)]

def twoNames : CreateRequest :=
  { single "svc0" "x" .standard with states := .ofList [("svc0", "x"), ("svc3", "y")] }

/-- A report of failures names one of the two names and a stranger. The owner of that name answers
that it failed and the other one that nothing did; the stranger is in neither answer. -/
theorem split_answer_by_owner_two :
    ∃ ring parts answers, HashRing.build ["RC1", "RC0"] 2 = .ok ring ∧
      twoNames.isBatch = true ∧ twoNames.split ring = .ok parts ∧
      (twoNames.answer twoNames.states (.ofList ["other", "svc3"])).split ring = .ok answers ∧
      answers.keys = parts.keys ∧
      answers.entries.map (fun e => (e.1, e.2.failed.toList)) = [("RC0", ["svc3"]), ("RC1", [])] := by
  have hnodes : ["RC1", "RC0"] ≠ [] := List.cons_ne_nil _ _
  have htokens : 0 < (2 : UInt64).toNat := by decide
  have hbatch : twoNames.isBatch = true := by rfl
  obtain ⟨ring, hring, -, -⟩ := HashRing.exists_build hnodes htokens
  obtain ⟨parts, answers, hsplit, hanswers, hkeys, -⟩ :=
    split_answer_by_owner twoNames (.ofList ["other", "svc3"]) ring hbatch
  have hcomputed : (HashRing.build ["RC1", "RC0"] 2).toOption.bind (fun ring =>
      ((twoNames.answer twoNames.states (.ofList ["other", "svc3"])).split ring).toOption.map
        fun answers => answers.entries.map fun e => (e.1, e.2.failed.toList)) =
      some [("RC0", ["svc3"]), ("RC1", [])] := by decide +kernel
  rw [hring] at hcomputed
  change ((twoNames.answer twoNames.states _).split ring).toOption.map _ = _ at hcomputed
  rw [hanswers] at hcomputed
  exact ⟨ring, parts, answers, hring, hbatch, hsplit, hanswers, hkeys, Option.some.inj hcomputed⟩

end ServicePlacement.CreateRequest
