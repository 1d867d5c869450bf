import ServicePlacement.Creation.Packet
import ServicePlacement.Proofs.OwnerSplit

/-!
The head of a batch. Whatever makes a batch out of names takes the first of them as the head, and
what changes a request afterwards leaves head and names alone. Only a packet gives the two
separately, and reading one does not compare them. So a batch whose head is not its first name comes
from such a packet and has been kept as it was read, but for its policy, sender and group; an
answer, a split or a cut of it has a proper head again.

Every request can be read from some packet. What is said of a request that is made is therefore
said relative to the requests that were read on the way to it.
-/
namespace ServicePlacement.CreateRequest

structure HeadIsFirst (r : CreateRequest) : Prop where
  name_mem : r.name ∈ r.states.keys
  name_le : ∀ name ∈ r.states.keys, r.name ≤ name

def Decoded (r : CreateRequest) : Prop := (∃ v, ofJson? v = some r) ∨ ∃ s, parse? s = some r

/-- The requests that can be made, by any operations in any order, out of names and of requests that
were read. -/
inductive Obtained (read : CreateRequest → Prop) : CreateRequest → Prop where
  | single (name : ServiceName) (state : String) (policy : Policy) :
    Obtained read (single name state policy)
  | batch {states : NameStates} {policy : Policy} {r : CreateRequest} :
    batch states policy = .ok r → Obtained read r
  | answer {r : CreateRequest} (states : NameStates) (failed : SortedSet ServiceName) :
    Obtained read r → Obtained read (r.answer states failed)
  | withInitGroup {r : CreateRequest} (group : List Endpoint) :
    Obtained read r → Obtained read (r.withInitGroup group)
  | withPolicy {r : CreateRequest} (policy : Policy) :
    Obtained read r → Obtained read (r.withPolicy policy)
  | withSender {r : CreateRequest} (sender : Endpoint) :
    Obtained read r → Obtained read (r.withSender sender)
  | headOnly {r : CreateRequest} : Obtained read r → Obtained read r.headOnly
  | split {r part : CreateRequest} {ring : HashRing} {parts : SortedMap NodeId CreateRequest}
    {node : NodeId} :
    Obtained read r → r.split ring = .ok parts → parts.get? node = some part → Obtained read part
  | batches {states : NameStates} {size : Nat} {policy : Policy} {bs : List CreateRequest}
    {b : CreateRequest} : batches states size policy = .ok bs → b ∈ bs → Obtained read b
  | batchesByOwner {states : NameStates} {size : Nat} {policy : Policy} {ring : HashRing}
    {bs : List CreateRequest} {b : CreateRequest} :
    batchesByOwner states size policy ring = .ok bs → b ∈ bs → Obtained read b
  | decoded {r : CreateRequest} : Decoded r → read r → Obtained read r

variable {r d : CreateRequest} {read : CreateRequest → Prop}

/-- Whatever is cut is a batch of its own. -/
theorem exists_batch_of_mem_batches {states : NameStates} {size : Nat} {policy : Policy}
    {bs : List CreateRequest} (h : batches states size policy = .ok bs) (hr : r ∈ bs) :
    ∃ own, batch own policy = .ok r := by
  unfold batches at h
  split at h
  · cases h
  · obtain ⟨piece, -, hpiece⟩ := exists_of_mem_mapM h hr
    exact ⟨_, hpiece⟩

theorem exists_batch_of_mem_batchesByOwner {states : NameStates} {size : Nat} {policy : Policy}
    {ring : HashRing} {bs : List CreateRequest}
    (h : batchesByOwner states size policy ring = .ok bs) (hr : r ∈ bs) :
    ∃ own, batch own policy = .ok r := by
  unfold batchesByOwner at h
  split at h
  · cases h
  · cases hcuts : (statesByOwner states ring).entries.mapM
      (fun e => batches e.2 size policy) with
    | error e =>
      rw [hcuts] at h
      cases h
    | ok cuts =>
      rw [hcuts] at h
      cases h
      obtain ⟨cut, hcut, hmem⟩ := List.mem_flatten.mp hr
      obtain ⟨e, -, hbatches⟩ := exists_of_mem_mapM hcuts hcut
      exact exists_batch_of_mem_batches hbatches hmem

/-! ### Where the head is the first name -/

theorem headIsFirst_of_head? {state : String} (h : r.states.head? = some (r.name, state)) :
    r.HeadIsFirst := by
  obtain ⟨hget, hleast⟩ := SortedMap.head?_eq_some_iff.mp h
  exact ⟨SortedMap.mem_keys_iff.mpr ⟨state, hget⟩, fun name hname => Std.not_lt.mp (hleast name hname)⟩

theorem headIsFirst_of_batch {states : NameStates} {policy : Policy}
    (h : batch states policy = .ok r) : r.HeadIsFirst := by
  unfold batch at h
  split at h
  · cases h
  · cases h
    exact headIsFirst_of_head? ‹_›

theorem headIsFirst_answer {states : NameStates} {failed : SortedSet ServiceName}
    (h : (r.answer states failed).isBatch = true) : (r.answer states failed).HeadIsFirst := by
  cases hhead : states.head? with
  | none =>
    have hempty : states.isEmpty = true :=
      SortedMap.isEmpty_iff.mpr (SortedMap.head?_eq_none_iff.mp hhead)
    have hsome : (!states.isEmpty) = true := h
    rw [hempty] at hsome
    cases hsome
  | some e =>
    have hfirst : (r.answer states failed).states.head? =
        some ((r.answer states failed).name, e.2) := by
      unfold answer
      rw [hhead]
    exact headIsFirst_of_head? hfirst

theorem IsPartOf.headIsFirst {ring : HashRing} {node : NodeId} (h : IsPartOf d ring node r) :
    r.HeadIsFirst :=
  ⟨h.name_mem, h.name_le⟩

/-- A part that is a batch has its first name as its head, also if the request that is split has
not. -/
theorem headIsFirst_of_split {ring : HashRing} {parts : SortedMap NodeId CreateRequest}
    {node : NodeId} (h : d.split ring = .ok parts) (hget : parts.get? node = some r)
    (hbatch : r.isBatch = true) : r.HeadIsFirst := by
  rcases cases_of_split h hget with hpart | ⟨hsingle, rfl⟩
  · exact hpart.headIsFirst
  · rw [hsingle] at hbatch
    cases hbatch

/-- A head among the names asked for has an outcome. -/
theorem HeadIsFirst.mem_names (h : r.HeadIsFirst) :
    r.name ∈ r.names ∧ r.outcome r.name ≠ .notInRequest := by
  have hbatch := isBatch_of_mem_keys h.name_mem
  constructor
  · unfold names
    rw [if_pos hbatch]
    exact h.name_mem
  · have hasked : r.states.contains r.name = true := SortedMap.contains_keys.mpr h.name_mem
    unfold outcome
    simp only [hbatch, hasked, if_true, Bool.not_true, Bool.false_eq_true, if_false]
    split
    · exact Outcome.noConfusion
    · exact Outcome.noConfusion

/-! ### Where it is not -/

structure Keeps (r d : CreateRequest) : Prop where
  name_eq : r.name = d.name
  state_eq : r.state = d.state
  states_eq : r.states = d.states
  failed_eq : r.failed = d.failed
  isAnswer_eq : r.isAnswer = d.isAnswer

theorem Keeps.refl (r : CreateRequest) : r.Keeps r :=
  ⟨rfl, rfl, rfl, rfl, rfl⟩

theorem Keeps.trans {s : CreateRequest} (h : r.Keeps s) (h' : s.Keeps d) : r.Keeps d :=
  ⟨h.name_eq.trans h'.name_eq, h.state_eq.trans h'.state_eq, h.states_eq.trans h'.states_eq,
    h.failed_eq.trans h'.failed_eq, h.isAnswer_eq.trans h'.isAnswer_eq⟩

theorem keeps_withInitGroup (r : CreateRequest) (group : List Endpoint) :
    (r.withInitGroup group).Keeps r :=
  ⟨rfl, rfl, rfl, rfl, rfl⟩

theorem keeps_withPolicy (r : CreateRequest) (policy : Policy) : (r.withPolicy policy).Keeps r :=
  ⟨rfl, rfl, rfl, rfl, rfl⟩

theorem keeps_withSender (r : CreateRequest) (sender : Endpoint) : (r.withSender sender).Keeps r :=
  ⟨rfl, rfl, rfl, rfl, rfl⟩

theorem Keeps.headIsFirst_iff (h : r.Keeps d) : r.HeadIsFirst ↔ d.HeadIsFirst := by
  constructor
  · rintro ⟨hmem, hle⟩
    rw [h.name_eq, h.states_eq] at hmem
    rw [h.name_eq, h.states_eq] at hle
    exact ⟨hmem, hle⟩
  · rintro ⟨hmem, hle⟩
    rw [← h.name_eq, ← h.states_eq] at hmem
    rw [← h.name_eq, ← h.states_eq] at hle
    exact ⟨hmem, hle⟩

def KeepsOtherHead (read : CreateRequest → Prop) (r : CreateRequest) : Prop :=
  ∃ d, Decoded d ∧ read d ∧ ¬ d.HeadIsFirst ∧ r.Keeps d

theorem KeepsOtherHead.not_headIsFirst (h : KeepsOtherHead read r) : ¬ r.HeadIsFirst := by
  obtain ⟨d, -, -, hnot, hkeeps⟩ := h
  exact fun hfirst => hnot (hkeeps.headIsFirst_iff.mp hfirst)

/-- What is set freely changes neither of the two. -/
theorem Keeps.head_cases {s : CreateRequest} (h : r.Keeps s)
    (hs : s.HeadIsFirst ∨ KeepsOtherHead read s) : r.HeadIsFirst ∨ KeepsOtherHead read r := by
  rcases hs with hfirst | ⟨d, hd, hread, hnot, hkeeps⟩
  · exact .inl (h.headIsFirst_iff.mpr hfirst)
  · exact .inr ⟨d, hd, hread, hnot, h.trans hkeeps⟩

/-- A batch has a proper head or has been kept as it was read, with the head of its packet. -/
theorem Obtained.head_cases (h : Obtained read r) (hbatch : r.isBatch = true) :
    r.HeadIsFirst ∨ KeepsOtherHead read r := by
  induction h with
  | single name state policy => cases hbatch
  | batch hmade => exact .inl (headIsFirst_of_batch hmade)
  | answer states failed _ _ => exact .inl (headIsFirst_answer hbatch)
  | @withInitGroup r group _ ih => exact (keeps_withInitGroup r group).head_cases (ih hbatch)
  | @withPolicy r policy _ ih => exact (keeps_withPolicy r policy).head_cases (ih hbatch)
  | @withSender r sender _ ih => exact (keeps_withSender r sender).head_cases (ih hbatch)
  | headOnly _ _ => cases hbatch
  | split _ hsplit hget _ => exact .inl (headIsFirst_of_split hsplit hget hbatch)
  | batches hbs hb =>
    obtain ⟨own, hown⟩ := exists_batch_of_mem_batches hbs hb
    exact .inl (headIsFirst_of_batch hown)
  | batchesByOwner hbs hb =>
    obtain ⟨own, hown⟩ := exists_batch_of_mem_batchesByOwner hbs hb
    exact .inl (headIsFirst_of_batch hown)
  | @decoded r hr hread =>
    by_cases hfirst : r.HeadIsFirst
    · exact .inl hfirst
    · exact .inr ⟨r, hr, hread, hfirst, Keeps.refl r⟩

/-- Which batches have their first name as their head. All have, and so answer for their head,
except those that are still as they were read from a packet with another head, but for the policy,
the sender and the group. -/
theorem head_first_unless_read (read : CreateRequest → Prop) (r : CreateRequest)
    (h : Obtained read r) (hbatch : r.isBatch = true) :
    (r.HeadIsFirst → r.name ∈ r.names ∧ r.outcome r.name ≠ .notInRequest) ∧
      (¬ r.HeadIsFirst ↔ KeepsOtherHead read r) := by
  refine ⟨HeadIsFirst.mem_names, fun hnot => ?_, KeepsOtherHead.not_headIsFirst⟩
  exact (h.head_cases hbatch).resolve_left hnot

def otherHead : CreateRequest :=
  { single "z" "1" .standard with states := .ofList [("a", "1")] }

def otherHeadPacket : Json :=
  .object [("NAME", .string "z"), ("STATE", .string "1"),
    ("NAME_STATE_ARRAY", .array [entryJson ("a", "1")]),
    ("RECONFIGURE_UPON_ACTIVES_CHANGE", .string "DEFAULT")]

theorem decoded_otherHead : Decoded otherHead := .inl ⟨otherHeadPacket, by rfl⟩

theorem not_headIsFirst_otherHead : ¬ otherHead.HeadIsFirst := by
  intro h
  have hmem : otherHead.states.contains "z" = true := SortedMap.contains_keys.mpr h.name_mem
  revert hmem
  decide

/-- With another policy the batch still has the head of its packet; the answer to it has a proper
head. -/
theorem head_first_unless_read_packet :
    Obtained (· = otherHead) (otherHead.withPolicy .replicateAll) ∧
      (otherHead.withPolicy .replicateAll).isBatch = true ∧
      ¬ (otherHead.withPolicy .replicateAll).HeadIsFirst ∧
      Obtained (· = otherHead) (otherHead.answer otherHead.states .empty) ∧
      (otherHead.answer otherHead.states .empty).isBatch = true ∧
      "a" ∈ (otherHead.answer otherHead.states .empty).names := by
  have hread : Obtained (· = otherHead) otherHead := .decoded decoded_otherHead rfl
  have hpolicy := Obtained.withPolicy .replicateAll hread
  have hanswer := Obtained.answer otherHead.states .empty hread
  have hbatch : (otherHead.withPolicy .replicateAll).isBatch = true := by decide
  have hbatch' : (otherHead.answer otherHead.states .empty).isBatch = true := by decide
  have hkept : KeepsOtherHead (· = otherHead) (otherHead.withPolicy .replicateAll) :=
    ⟨otherHead, decoded_otherHead, rfl, not_headIsFirst_otherHead, keeps_withPolicy _ _⟩
  have hnot := (head_first_unless_read _ _ hpolicy hbatch).2.mpr hkept
  have hasked := (head_first_unless_read _ _ hanswer hbatch').1 (headIsFirst_answer hbatch')
  exact ⟨hpolicy, hbatch, hnot, hanswer, hbatch', hasked.1⟩

/-- The head of a batch that was read need not be among its names, and is then not in the
request. -/
theorem read_head_not_in_batch :
    ¬ ∀ r, Obtained (fun _ => True) r → r.isBatch = true →
      r.HeadIsFirst ∧ r.name ∈ r.names ∧ r.outcome r.name ≠ .notInRequest := by
  intro hall
  have hread : Obtained (fun _ => True) otherHead := .decoded decoded_otherHead trivial
  exact not_headIsFirst_otherHead (hall otherHead hread (by decide)).1

end ServicePlacement.CreateRequest
