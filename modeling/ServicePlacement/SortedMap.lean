import ServicePlacement.SortedSet

/-!
Finite maps kept as association lists in strictly ascending key order. Two maps that answer every
look-up alike are the same value (`ext_get?`), and the one update operation `alter` touches no other
key (`get?_alter`).
-/
namespace ServicePlacement

structure SortedMap (κ ν : Type) [LT κ] where
  entries : List (κ × ν)
  sorted : entries.Pairwise fun a b => a.1 < b.1
deriving DecidableEq

namespace SortedMap

section

variable {κ ν μ : Type} [LT κ]

theorem ext_entries {m n : SortedMap κ ν} (h : m.entries = n.entries) : m = n := by
  cases m
  cases n
  cases h
  rfl

def empty : SortedMap κ ν := ⟨[], .nil⟩

instance : Inhabited (SortedMap κ ν) := ⟨empty⟩

def singleton (k : κ) (v : ν) : SortedMap κ ν := ⟨[(k, v)], List.pairwise_singleton _ _⟩

def size (m : SortedMap κ ν) : Nat := m.entries.length

def isEmpty (m : SortedMap κ ν) : Bool := m.entries.isEmpty

def head? (m : SortedMap κ ν) : Option (κ × ν) := m.entries.head?

def keys (m : SortedMap κ ν) : SortedSet κ :=
  ⟨m.entries.map Prod.fst, List.pairwise_map.2 m.sorted⟩

def filter (p : κ → ν → Bool) (m : SortedMap κ ν) : SortedMap κ ν :=
  ⟨m.entries.filter fun e => p e.1 e.2, m.sorted.filter _⟩

def mapValues (f : κ → ν → μ) (m : SortedMap κ ν) : SortedMap κ μ :=
  ⟨m.entries.map fun e => (e.1, f e.1 e.2), List.pairwise_map.2 m.sorted⟩

end

section

variable {κ ν : Type} [LT κ] [DecidableLT κ]

def lookupIn (k : κ) : List (κ × ν) → Option ν
  | [] => none
  | e :: rest => if e.1 < k then lookupIn k rest else if k < e.1 then none else some e.2

def get? (m : SortedMap κ ν) (k : κ) : Option ν := lookupIn k m.entries

def contains (m : SortedMap κ ν) (k : κ) : Bool := (m.get? k).isSome

def alterIn (k : κ) (f : Option ν → Option ν) : List (κ × ν) → List (κ × ν)
  | [] => ((f none).map fun v => (k, v)).toList
  | e :: rest =>
    if e.1 < k then e :: alterIn k f rest
    else if k < e.1 then ((f none).map fun v => (k, v)).toList ++ e :: rest
    else ((f (some e.2)).map fun v => (k, v)).toList ++ rest

end

section

variable {κ ν : Type} [LT κ] [LE κ] [DecidableLT κ] [Std.IsLinearOrder κ] [Std.LawfulOrderLT κ]

omit [LE κ] [Std.IsLinearOrder κ] [Std.LawfulOrderLT κ] in
theorem mem_alterIn {k : κ} {f : Option ν → Option ν} {l : List (κ × ν)} {e : κ × ν}
    (h : e ∈ alterIn k f l) : e.1 = k ∨ e ∈ l := by
  induction l with
  | nil =>
    simp only [alterIn, Option.mem_toList, Option.map_eq_some_iff] at h
    obtain ⟨v, _, rfl⟩ := h
    exact .inl rfl
  | cons b rest ih =>
    unfold alterIn at h
    split at h
    · rcases List.mem_cons.1 h with rfl | h
      · exact .inr List.mem_cons_self
      · exact (ih h).imp_right (List.mem_cons_of_mem _)
    · split at h
      · rcases List.mem_append.1 h with h | h
        · simp only [Option.mem_toList, Option.map_eq_some_iff] at h
          obtain ⟨v, _, rfl⟩ := h
          exact .inl rfl
        · exact .inr h
      · rcases List.mem_append.1 h with h | h
        · simp only [Option.mem_toList, Option.map_eq_some_iff] at h
          obtain ⟨v, _, rfl⟩ := h
          exact .inl rfl
        · exact .inr (List.mem_cons_of_mem _ h)

omit [LE κ] [DecidableLT κ] [Std.IsLinearOrder κ] [Std.LawfulOrderLT κ] in
theorem pairwise_option_append {k : κ} {o : Option ν} {l : List (κ × ν)}
    (h : l.Pairwise fun a b => a.1 < b.1) (hk : ∀ e ∈ l, k < e.1) :
    ((o.map fun v => (k, v)).toList ++ l).Pairwise fun a b => a.1 < b.1 := by
  cases o with
  | none => exact h
  | some v => exact List.pairwise_cons.2 ⟨hk, h⟩

theorem pairwise_alterIn {k : κ} {f : Option ν → Option ν} {l : List (κ × ν)}
    (h : l.Pairwise fun a b => a.1 < b.1) : (alterIn k f l).Pairwise fun a b => a.1 < b.1 := by
  induction l with
  | nil => cases hf : f none <;> simp [alterIn, hf]
  | cons b rest ih =>
    have hb := List.pairwise_cons.1 h
    unfold alterIn
    split
    · rename_i hbk
      refine List.pairwise_cons.2 ⟨fun e he => ?_, ih hb.2⟩
      rcases mem_alterIn he with hk | he
      · exact hk ▸ hbk
      · exact hb.1 e he
    · split
      · rename_i hkb
        refine pairwise_option_append h fun e he => ?_
        rcases List.mem_cons.1 he with rfl | he
        · exact hkb
        · exact Std.lt_trans hkb (hb.1 e he)
      · rename_i h1 h2
        have hk : k = b.1 := SortedSet.eq_of_not_lt h2 h1
        exact pairwise_option_append hb.2 fun e he => hk ▸ hb.1 e he

def alter (m : SortedMap κ ν) (k : κ) (f : Option ν → Option ν) : SortedMap κ ν :=
  ⟨alterIn k f m.entries, pairwise_alterIn m.sorted⟩

def insert (m : SortedMap κ ν) (k : κ) (v : ν) : SortedMap κ ν := m.alter k fun _ => some v

def insertNew (m : SortedMap κ ν) (k : κ) (v : ν) : SortedMap κ ν :=
  m.alter k fun old => some (old.getD v)

def erase (m : SortedMap κ ν) (k : κ) : SortedMap κ ν := m.alter k fun _ => none

/-- The map of a list of pairs, in which a later pair of a key replaces an earlier one. -/
def ofList (l : List (κ × ν)) : SortedMap κ ν := l.foldl (fun m e => m.insert e.1 e.2) empty

theorem lookupIn_eq_none {k : κ} {l : List (κ × ν)} (h : ∀ e ∈ l, k < e.1) :
    lookupIn k l = none := by
  cases l with
  | nil => rfl
  | cons e rest =>
    have he := h e List.mem_cons_self
    have hne : ¬ e.1 < k := fun hlt => Std.lt_irrefl (Std.lt_trans he hlt)
    simp [lookupIn, he, hne]

theorem lookupIn_option_append [DecidableEq κ] {k : κ} {o : Option ν} {l : List (κ × ν)}
    (hk : ∀ e ∈ l, k < e.1) (j : κ) :
    lookupIn j ((o.map fun v => (k, v)).toList ++ l) = if j = k then o else lookupIn j l := by
  cases o with
  | none =>
    by_cases hj : j = k
    · subst hj
      simpa using lookupIn_eq_none hk
    · simp [hj]
  | some v =>
    simp only [Option.map_some, Option.toList_some, List.cons_append, List.nil_append, lookupIn]
    rcases Std.lt_trichotomy j k with hlt | heq | hgt
    · have hne : ¬ k < j := fun h => Std.lt_irrefl (Std.lt_trans hlt h)
      have hjk : j ≠ k := fun h => Std.lt_irrefl (h ▸ hlt)
      rw [if_neg hne, if_pos hlt, if_neg hjk,
        lookupIn_eq_none fun e he => Std.lt_trans hlt (hk e he)]
    · subst heq
      simp [Std.lt_irrefl]
    · have hjk : j ≠ k := fun h => Std.lt_irrefl (h ▸ hgt)
      rw [if_pos hgt, if_neg hjk]

theorem lookupIn_alterIn [DecidableEq κ] {k j : κ} {f : Option ν → Option ν} {l : List (κ × ν)}
    (h : l.Pairwise fun a b => a.1 < b.1) :
    lookupIn j (alterIn k f l) = if j = k then f (lookupIn k l) else lookupIn j l := by
  induction l with
  | nil =>
    have := lookupIn_option_append (k := k) (o := f none) (l := []) (by simp) j
    rwa [List.append_nil] at this
  | cons b rest ih =>
    have hb := List.pairwise_cons.1 h
    unfold alterIn
    split
    · rename_i hbk
      simp only [lookupIn, if_pos hbk, ih hb.2]
      by_cases hj : j = k
      · subst hj
        simp [hbk]
      · simp [hj]
    · rename_i hbk
      split
      · rename_i hkb
        rw [lookupIn_option_append (fun e he => ?_) j]
        · have : lookupIn k (b :: rest) = none := by simp [lookupIn, hbk, hkb]
          rw [this]
        · rcases List.mem_cons.1 he with rfl | he
          · exact hkb
          · exact Std.lt_trans hkb (hb.1 e he)
      · rename_i hkb
        have hk : k = b.1 := SortedSet.eq_of_not_lt hkb hbk
        rw [lookupIn_option_append (fun e he => hk ▸ hb.1 e he) j]
        have : lookupIn k (b :: rest) = some b.2 := by simp [lookupIn, hbk, hkb]
        rw [this]
        by_cases hj : j = k
        · simp [hj]
        · rw [if_neg hj, if_neg hj]
          simp only [lookupIn]
          split
          · rfl
          · rename_i hbj
            split
            · rename_i hjb
              exact lookupIn_eq_none fun e he => Std.lt_trans hjb (hb.1 e he)
            · rename_i hjb
              exact absurd (hk ▸ SortedSet.eq_of_not_lt hjb hbj) hj

theorem get?_alter [DecidableEq κ] (m : SortedMap κ ν) (k j : κ) (f : Option ν → Option ν) :
    (m.alter k f).get? j = if j = k then f (m.get? k) else m.get? j :=
  lookupIn_alterIn m.sorted

omit [LE κ] [Std.IsLinearOrder κ] [Std.LawfulOrderLT κ] in
@[simp] theorem get?_empty (k : κ) : (empty : SortedMap κ ν).get? k = none := rfl

theorem get?_insert [DecidableEq κ] (m : SortedMap κ ν) (k j : κ) (v : ν) :
    (m.insert k v).get? j = if j = k then some v else m.get? j :=
  get?_alter m k j _

theorem get?_erase [DecidableEq κ] (m : SortedMap κ ν) (k j : κ) :
    (m.erase k).get? j = if j = k then none else m.get? j :=
  get?_alter m k j _

theorem lookupIn_eq_some_iff {k : κ} {v : ν} {l : List (κ × ν)}
    (h : l.Pairwise fun a b => a.1 < b.1) : lookupIn k l = some v ↔ (k, v) ∈ l := by
  induction l with
  | nil => simp [lookupIn]
  | cons b rest ih =>
    have hb := List.pairwise_cons.1 h
    unfold lookupIn
    split
    · rename_i hbk
      rw [ih hb.2, List.mem_cons]
      constructor
      · exact .inr
      · rintro (rfl | h)
        · exact absurd hbk Std.lt_irrefl
        · exact h
    · rename_i hbk
      split
      · rename_i hkb
        constructor
        · intro h
          cases h
        · intro h
          rcases List.mem_cons.1 h with rfl | h
          · exact absurd hkb Std.lt_irrefl
          · exact absurd (Std.lt_trans hkb (hb.1 _ h)) Std.lt_irrefl
      · rename_i hkb
        have hk : k = b.1 := SortedSet.eq_of_not_lt hkb hbk
        subst hk
        constructor
        · intro h
          cases h
          exact List.mem_cons_self
        · intro h
          rcases List.mem_cons.1 h with h | h
          · rw [← h]
          · exact absurd (hb.1 _ h) Std.lt_irrefl

/-- The entries of a map are its look-ups. -/
theorem get?_eq_some_iff {m : SortedMap κ ν} {k : κ} {v : ν} :
    m.get? k = some v ↔ (k, v) ∈ m.entries :=
  lookupIn_eq_some_iff m.sorted

omit [DecidableLT κ] [Std.IsLinearOrder κ] in
theorem nodup_keys (m : SortedMap κ ν) : (m.entries.map Prod.fst).Nodup :=
  m.keys.nodup_toList

omit [DecidableLT κ] [Std.IsLinearOrder κ] in
theorem nodup_entries (m : SortedMap κ ν) : m.entries.Nodup := by
  refine List.Pairwise.of_map Prod.fst (fun a b hkeys heq => ?_) m.nodup_keys
  exact hkeys (congrArg Prod.fst heq)

/-- A map is determined by its look-ups. -/
theorem ext_get? {m n : SortedMap κ ν} (h : ∀ k, m.get? k = n.get? k) : m = n := by
  refine ext_entries (List.Perm.eq_of_pairwise
    (fun (a b : κ × ν) _ _ (hab : a.1 < b.1) (hba : b.1 < a.1) =>
      absurd (Std.lt_trans hab hba) Std.lt_irrefl) m.sorted n.sorted ?_)
  refine (List.perm_ext_iff_of_nodup m.nodup_entries n.nodup_entries).2 fun e => ?_
  rw [← get?_eq_some_iff (m := m), ← get?_eq_some_iff (m := n), h]

end

end SortedMap

end ServicePlacement
