import Mathlib.Algebra.GroupWithZero.Nat
import ServicePlacement.Proofs.OwnerSplit

/-!
Cutting a map of names into batches. The pieces of a list are the first elements and the pieces of
the rest (`pieces_of_ne_nil`), so together they are the list, and each but the last is full. The
batches of a map hold the pieces of its entries, and each is the batch of its own names
(`IsCutOf`).
-/
namespace ServicePlacement

section

variable {α : Type} {size : Nat}

/-- A bound that allows one piece for each element is no bound at all. -/
theorem pieces_go_eq (hsize : 0 < size) {n m : Nat} {l : List α} (hn : l.length ≤ n)
    (hm : l.length ≤ m) : pieces.go size n l = pieces.go size m l := by
  induction n generalizing m l with
  | zero =>
    have hnil : l = [] := List.eq_nil_of_length_eq_zero (by omega)
    subst hnil
    cases m <;> rfl
  | succ n ih =>
    cases l with
    | nil => cases m <;> rfl
    | cons a rest =>
      cases m with
      | zero => cases hm
      | succ m =>
        have hdrop : ((a :: rest).drop size).length ≤ rest.length := by
          rw [List.length_drop, List.length_cons]
          omega
        rw [List.length_cons] at hn hm
        exact congrArg ((a :: rest).take size :: ·) (ih (by omega) (by omega))

theorem pieces_nil (size : Nat) : pieces size ([] : List α) = [] := rfl

theorem pieces_of_ne_nil (hsize : 0 < size) {l : List α} (h : l ≠ []) :
    pieces size l = l.take size :: pieces size (l.drop size) := by
  cases l with
  | nil => exact absurd rfl h
  | cons a rest =>
    refine congrArg ((a :: rest).take size :: ·) (pieces_go_eq hsize ?_ (Nat.le_refl _))
    rw [List.length_drop, List.length_cons]
    omega

/-- What holds of the empty list, and of a list if it holds of what is left behind its first piece,
holds of all lists. -/
theorem pieces_induction (hsize : 0 < size) {motive : List α → Prop} (nil : motive [])
    (drop : ∀ l, l ≠ [] → motive (l.drop size) → motive l) (l : List α) : motive l := by
  induction hn : l.length using Nat.strongRecOn generalizing l with
  | ind n ih =>
    cases l with
    | nil => exact nil
    | cons a rest =>
      refine drop _ (List.cons_ne_nil a rest) (ih _ ?_ _ rfl)
      rw [List.length_drop]
      rw [List.length_cons] at hn ⊢
      omega

theorem flatten_pieces (hsize : 0 < size) (l : List α) : (pieces size l).flatten = l := by
  induction l using pieces_induction hsize with
  | nil => rfl
  | drop l hne ih =>
    rw [pieces_of_ne_nil hsize hne, List.flatten_cons, ih, List.take_append_drop]

/-- No piece is empty, and none is larger than asked for. -/
theorem length_of_mem_pieces (hsize : 0 < size) {l piece : List α} (h : piece ∈ pieces size l) :
    1 ≤ piece.length ∧ piece.length ≤ size := by
  induction l using pieces_induction hsize with
  | nil => cases h
  | drop l hne ih =>
    rw [pieces_of_ne_nil hsize hne] at h
    rcases List.mem_cons.mp h with rfl | hrest
    · have hpos : 0 < l.length := List.length_pos_iff.mpr hne
      rw [List.length_take]
      omega
    · exact ih hrest

/-- There are as many pieces as it takes. -/
theorem length_pieces (hsize : 0 < size) (l : List α) :
    (pieces size l).length = (l.length + size - 1) / size := by
  induction l using pieces_induction hsize with
  | nil => exact (Nat.div_eq_of_lt (by simp only [List.length_nil]; omega)).symm
  | drop l hne ih =>
    have hpos : 0 < l.length := List.length_pos_iff.mpr hne
    rw [pieces_of_ne_nil hsize hne, List.length_cons, ih, List.length_drop]
    by_cases hle : l.length ≤ size
    · have hlast : l.length - size + size - 1 < size := by omega
      have hone : l.length + size - 1 = (l.length - 1) + size := by omega
      rw [Nat.div_eq_of_lt hlast, hone, Nat.add_div_right _ hsize,
        Nat.div_eq_of_lt (by omega)]
    · have hmore : l.length + size - 1 = (l.length - size + size - 1) + size := by omega
      rw [hmore, Nat.add_div_right _ hsize]

/-- Every piece but the last is full. -/
theorem length_of_mem_dropLast_pieces (hsize : 0 < size) {l piece : List α}
    (h : piece ∈ (pieces size l).dropLast) : piece.length = size := by
  induction l using pieces_induction hsize with
  | nil => cases h
  | drop l hne ih =>
    rw [pieces_of_ne_nil hsize hne] at h
    by_cases hrest : l.drop size = []
    · rw [hrest, pieces_nil] at h
      cases h
    · have hlong : size < l.length := by
        rw [List.drop_eq_nil_iff] at hrest
        omega
      have hmore : pieces size (l.drop size) ≠ [] := by
        rw [pieces_of_ne_nil hsize hrest]
        exact List.cons_ne_nil _ _
      rw [List.dropLast_cons_of_ne_nil hmore] at h
      rcases List.mem_cons.mp h with rfl | hlater
      · rw [List.length_take]
        omega
      · exact ih hlater

theorem pieces_of_length_le (hsize : 0 < size) {l : List α} (hne : l ≠ [])
    (hle : l.length ≤ size) : pieces size l = [l] := by
  rw [pieces_of_ne_nil hsize hne, List.take_of_length_le hle, List.drop_of_length_le hle,
    pieces_nil]

theorem sublist_of_mem_pieces (hsize : 0 < size) {l piece : List α} (h : piece ∈ pieces size l) :
    piece.Sublist l := by
  have hflat := List.sublist_flatten_of_mem h
  rwa [flatten_pieces hsize] at hflat

end

namespace CreateRequest

structure IsCutOf (size : Nat) (policy : Policy) (states : NameStates)
    (bs : List CreateRequest) : Prop where
  entries_eq : bs.map (fun b => b.states.entries) = pieces size states.entries
  made : ∀ b ∈ bs, batch b.states policy = .ok b

/-- A batch is fresh: it reports nothing, comes from nobody and is no answer. -/
theorem fresh_of_batch {states : NameStates} {policy : Policy} {b : CreateRequest}
    (h : batch states policy = .ok b) :
    b.states = states ∧ b.failed = .empty ∧ b.policy = policy ∧ b.sender = none ∧
      b.isAnswer = false := by
  unfold batch at h
  split at h
  · cases h
  · cases h
    exact ⟨rfl, rfl, rfl, rfl, rfl⟩

theorem isBatch_of_size_pos {r : CreateRequest} (h : 1 ≤ r.states.size) : r.isBatch = true := by
  obtain ⟨e, he⟩ := List.exists_mem_of_length_pos h
  exact isBatch_of_mem_keys (List.mem_map_of_mem he)

/-- Cutting with a positive size succeeds. -/
theorem exists_batches {size : Nat} (hsize : 0 < size) (states : NameStates) (policy : Policy) :
    ∃ bs, batches states size policy = .ok bs ∧ IsCutOf size policy states bs := by
  have hmade : ∀ piece ∈ pieces size states.entries, ∃ b,
      batch (.ofList piece) policy = .ok b ∧
        piece = b.states.entries ∧ batch b.states policy = .ok b := by
    intro piece hpiece
    have hsorted := states.sorted.sublist (sublist_of_mem_pieces hsize hpiece)
    have hentries : (SortedMap.ofList piece).entries = piece :=
      congrArg SortedMap.entries (SortedMap.ofList_entries ⟨piece, hsorted⟩)
    obtain ⟨e, he⟩ := List.exists_mem_of_length_pos (length_of_mem_pieces hsize hpiece).1
    have hget : (SortedMap.ofList piece).get? e.1 = some e.2 := by
      apply SortedMap.get?_eq_some_iff.mpr
      rw [hentries]
      exact he
    obtain ⟨name, state, -, hbatch⟩ :=
      exists_batch ⟨e.1, SortedMap.mem_keys_iff.mpr ⟨e.2, hget⟩⟩ policy
    have hstates := (fresh_of_batch hbatch).1
    refine ⟨_, hbatch, ?_, ?_⟩
    · rw [hstates, hentries]
    · rw [hstates]
      exact hbatch
  obtain ⟨bs, hbs, hall⟩ := exists_mapM hmade
  refine ⟨bs, ?_, ?_, fun b hb => ?_⟩
  · unfold batches
    rw [if_neg (by omega)]
    exact hbs
  · have hentries := map_eq_map_of_forall₂ hall fun piece b hb => hb.1
    rw [List.map_id'] at hentries
    exact hentries.symm
  · obtain ⟨piece, -, -, hb⟩ := exists_of_mem_forall₂ hall hb
    exact hb

/-- Zero is the only size that a map cannot be cut to. -/
theorem batches_eq_error_iff {states : NameStates} {size : Nat} {policy : Policy}
    {e : CreationError} :
    batches states size policy = .error e ↔ size = 0 ∧ e = .zeroBatchSize := by
  rcases Nat.eq_zero_or_pos size with rfl | hsize
  · unfold batches
    rw [if_pos rfl]
    constructor
    · intro h
      exact ⟨rfl, (Except.error.inj h).symm⟩
    · rintro ⟨-, rfl⟩
      rfl
  · obtain ⟨bs, hbs, -⟩ := exists_batches hsize states policy
    rw [hbs]
    constructor
    · intro h
      cases h
    · rintro ⟨hzero, -⟩
      omega

namespace IsCutOf

variable {size : Nat} {policy : Policy} {states : NameStates} {bs : List CreateRequest}
  {b : CreateRequest}

/-- The batches list the entries of the map in their order. -/
theorem flatMap_entries (h : IsCutOf size policy states bs) (hsize : 0 < size) :
    bs.flatMap (fun b => b.states.entries) = states.entries := by
  rw [List.flatMap_def, h.entries_eq, flatten_pieces hsize]

theorem length_eq (h : IsCutOf size policy states bs) (hsize : 0 < size) :
    bs.length = (states.size + size - 1) / size := by
  have hlength := congrArg List.length h.entries_eq
  rw [List.length_map, length_pieces hsize] at hlength
  exact hlength

theorem size_states (h : IsCutOf size policy states bs) (hsize : 0 < size) (hb : b ∈ bs) :
    1 ≤ b.states.size ∧ b.states.size ≤ size := by
  have hpiece : b.states.entries ∈ pieces size states.entries := by
    rw [← h.entries_eq]
    exact List.mem_map_of_mem hb
  exact length_of_mem_pieces hsize hpiece

theorem size_eq (h : IsCutOf size policy states bs) (hsize : 0 < size) (hb : b ∈ bs) :
    b.size = b.states.size := by
  unfold CreateRequest.size
  rw [if_pos (isBatch_of_size_pos (h.size_states hsize hb).1)]

/-- Every batch but the last is full. -/
theorem size_of_mem_dropLast (h : IsCutOf size policy states bs) (hsize : 0 < size)
    (hb : b ∈ bs.dropLast) : b.states.size = size := by
  apply length_of_mem_dropLast_pieces hsize (l := states.entries)
  rw [← h.entries_eq, ← List.map_dropLast]
  exact List.mem_map_of_mem hb

/-- The head of a batch is its first name with its state. -/
theorem head?_states (h : IsCutOf size policy states bs) (hb : b ∈ bs) :
    ∃ state, b.states.head? = some (b.name, state) ∧ b.state = some state := by
  have hmade := h.made b hb
  cases hhead : b.states.head? with
  | none =>
    unfold batch at hmade
    rw [hhead] at hmade
    cases hmade
  | some e =>
    unfold batch at hmade
    rw [hhead] at hmade
    rw [← Except.ok.inj hmade]
    exact ⟨e.2, rfl, rfl⟩

/-- A map with room in one batch becomes one batch. -/
theorem eq_singleton (h : IsCutOf size policy states bs) (hsize : 0 < size)
    (hroom : states.size ≤ size) (hbatch : batch states policy = .ok b) : bs = [b] := by
  have hne : states.entries ≠ [] := by
    intro hnil
    have hhead : states.head? = none := congrArg List.head? hnil
    unfold batch at hbatch
    rw [hhead] at hbatch
    cases hbatch
  have hentries := h.entries_eq
  rw [pieces_of_length_le hsize hne hroom] at hentries
  obtain ⟨c, rest, rfl, hc, hrest⟩ := List.map_eq_cons_iff.mp hentries
  have hstates : c.states = states := SortedMap.ext_entries hc
  have hmade := h.made c List.mem_cons_self
  rw [hstates, hbatch] at hmade
  cases hmade
  rw [List.map_eq_nil_iff.mp hrest]

end IsCutOf

/-- A map can be cut into batches of any size but zero. There are as many batches as it takes; they
list the entries of the map in their order, all but the last are full, and none is empty. Each is a
fresh batch with its first name and that name's state as its head. -/
theorem batches_hold_entries_in_order (states : NameStates) (size : Nat) (policy : Policy) :
    (∀ e, batches states size policy = .error e ↔ size = 0 ∧ e = .zeroBatchSize) ∧
      (0 < size → ∃ bs, batches states size policy = .ok bs ∧
        bs.length = (states.size + size - 1) / size ∧
        bs.flatMap (fun b => b.states.entries) = states.entries ∧
        (∀ b ∈ bs.dropLast, b.size = size) ∧
        (∀ b ∈ bs.getLast?, 1 ≤ b.size ∧ b.size ≤ size) ∧
        ∀ b ∈ bs,
          (∃ state, b.states.head? = some (b.name, state) ∧ b.state = some state) ∧
            b.policy = policy ∧ b.failed = .empty ∧ b.sender = none ∧ b.isAnswer = false) := by
  refine ⟨fun e => batches_eq_error_iff, fun hsize => ?_⟩
  obtain ⟨bs, hbs, hcut⟩ := exists_batches hsize states policy
  refine ⟨bs, hbs, hcut.length_eq hsize, hcut.flatMap_entries hsize, fun b hb => ?_,
    fun b hb => ?_, fun b hb => ?_⟩
  · rw [hcut.size_eq hsize (List.dropLast_subset bs hb)]
    exact hcut.size_of_mem_dropLast hsize hb
  · have hmem : b ∈ bs := List.mem_of_getLast? hb
    rw [hcut.size_eq hsize hmem]
    exact hcut.size_states hsize hmem
  · obtain ⟨-, hfailed, hpolicy, hsender, hanswer⟩ := fresh_of_batch (hcut.made b hb)
    exact ⟨hcut.head?_states hb, hpolicy, hfailed, hsender, hanswer⟩

/-- Five names in batches of two: the last one has a batch of its own. -/
theorem batches_hold_entries_in_order_five :
    let states := SortedMap.ofList [("e", "5"), ("c", "3"), ("a", "1"), ("d", "4"), ("b", "2")]
    0 < 2 ∧ ∃ bs, batches states 2 .standard = .ok bs ∧ bs.length = 3 ∧
      (bs.flatMap fun b => b.states.entries) =
        [("a", "1"), ("b", "2"), ("c", "3"), ("d", "4"), ("e", "5")] ∧
      bs.map (·.size) = [2, 2, 1] ∧ bs.map (·.name) = ["a", "c", "e"] := by
  intro states
  have hsize : 0 < 2 := by decide
  obtain ⟨bs, hbs, hlength, hentries, -, -, -⟩ :=
    (batches_hold_entries_in_order states 2 .standard).2 hsize
  have hcomputed : (batches states 2 .standard).toOption.map
      (fun bs => (bs.map (·.size), bs.map (·.name))) = some ([2, 2, 1], ["a", "c", "e"]) := by
    decide +kernel
  rw [hbs] at hcomputed
  obtain ⟨hsizes, hnames⟩ := Prod.mk.inj (Option.some.inj hcomputed)
  have hthree : (states.size + 2 - 1) / 2 = 3 := by decide
  exact ⟨hsize, bs, hbs, hlength.trans hthree, hentries, hsizes, hnames⟩

/-! The cuts of several maps, one after another. -/

section

variable {α : Type} {size : Nat} {policy : Policy} {states : α → NameStates} {l : List α}
  {cuts : List (List CreateRequest)}

theorem flatMap_entries_flatten (hsize : 0 < size)
    (h : List.Forall₂ (fun a bs => IsCutOf size policy (states a) bs) l cuts) :
    (cuts.flatten.flatMap fun b => b.states.entries) = l.flatMap fun a => (states a).entries := by
  induction h with
  | nil => rfl
  | cons hcut _ ih =>
    rw [List.flatten_cons, List.flatMap_append, List.flatMap_cons, ih, hcut.flatMap_entries hsize]

theorem length_flatten_cuts (hsize : 0 < size)
    (h : List.Forall₂ (fun a bs => IsCutOf size policy (states a) bs) l cuts) :
    cuts.flatten.length = (l.map fun a => ((states a).size + size - 1) / size).sum := by
  induction h with
  | nil => rfl
  | cons hcut _ ih =>
    rw [List.flatten_cons, List.length_append, List.map_cons, List.sum_cons, ih,
      hcut.length_eq hsize]

/-- Maps with room in one batch each become one batch each. -/
theorem flatten_cuts_eq_map {whole : α → CreateRequest} (hsize : 0 < size)
    (h : List.Forall₂ (fun a bs => IsCutOf size policy (states a) bs) l cuts)
    (hroom : ∀ a ∈ l, (states a).size ≤ size)
    (hwhole : ∀ a ∈ l, batch (states a) policy = .ok (whole a)) :
    cuts.flatten = l.map whole := by
  induction h with
  | nil => rfl
  | cons hcut _ ih =>
    have hone := hcut.eq_singleton hsize (hroom _ List.mem_cons_self)
      (hwhole _ List.mem_cons_self)
    have hrest := ih (fun a ha => hroom a (List.mem_cons_of_mem _ ha))
      fun a ha => hwhole a (List.mem_cons_of_mem _ ha)
    rw [List.flatten_cons, List.map_cons, hone, hrest]
    rfl

end

end CreateRequest

end ServicePlacement
