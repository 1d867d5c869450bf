/-!
Finite sets kept as strictly ascending lists, so that two sets with the same members are the same
value and every traversal is in ascending order.
-/
namespace ServicePlacement

structure SortedSet (α : Type) [LT α] where
  toList : List α
  sorted : toList.Pairwise (· < ·)
deriving DecidableEq

namespace SortedSet

section

variable {α : Type} [LT α]

theorem ext_toList {s t : SortedSet α} (h : s.toList = t.toList) : s = t := by
  cases s
  cases t
  cases h
  rfl

def empty : SortedSet α := ⟨[], .nil⟩

instance : Inhabited (SortedSet α) := ⟨empty⟩

instance : Membership α (SortedSet α) := ⟨fun s a => a ∈ s.toList⟩

theorem mem_def {a : α} {s : SortedSet α} : a ∈ s ↔ a ∈ s.toList := Iff.rfl

def singleton (a : α) : SortedSet α := ⟨[a], List.pairwise_singleton _ _⟩

def size (s : SortedSet α) : Nat := s.toList.length

def isEmpty (s : SortedSet α) : Bool := s.toList.isEmpty

def filter (p : α → Bool) (s : SortedSet α) : SortedSet α :=
  ⟨s.toList.filter p, s.sorted.filter p⟩

@[simp] theorem mem_filter {p : α → Bool} {s : SortedSet α} {a : α} :
    a ∈ s.filter p ↔ a ∈ s ∧ p a = true :=
  List.mem_filter

end

section

variable {α : Type} [LT α] [DecidableLT α]

def insertInto (a : α) : List α → List α
  | [] => [a]
  | b :: rest =>
    if b < a then b :: insertInto a rest
    else if a < b then a :: b :: rest
    else b :: rest

def occursIn (a : α) : List α → Bool
  | [] => false
  | b :: rest => if b < a then occursIn a rest else !(decide (a < b))

def contains (s : SortedSet α) (a : α) : Bool := occursIn a s.toList

end

section

variable {α : Type} [LT α] [LE α] [DecidableLT α] [Std.IsLinearOrder α] [Std.LawfulOrderLT α]

omit [DecidableLT α] in
/-- Two elements with neither below the other are equal. -/
theorem eq_of_not_lt {a b : α} (h : ¬ a < b) (h' : ¬ b < a) : a = b := by
  rcases Std.lt_trichotomy a b with hlt | heq | hgt
  · exact absurd hlt h
  · exact heq
  · exact absurd hgt h'

theorem mem_insertInto {a b : α} {l : List α} : b ∈ insertInto a l ↔ b = a ∨ b ∈ l := by
  induction l with
  | nil => simp [insertInto]
  | cons c rest ih =>
    unfold insertInto
    split
    · simp only [List.mem_cons, ih]
      constructor
      · rintro (h | h | h) <;> simp [h]
      · rintro (h | h | h) <;> simp [h]
    · split
      · simp
      · rename_i h h'
        have := eq_of_not_lt h' h
        subst this
        simp

theorem pairwise_insertInto {a : α} {l : List α} (h : l.Pairwise (· < ·)) :
    (insertInto a l).Pairwise (· < ·) := by
  induction l with
  | nil => exact List.pairwise_singleton _ _
  | cons c rest ih =>
    have hc := List.pairwise_cons.1 h
    unfold insertInto
    split
    · refine List.pairwise_cons.2 ⟨fun b hb => ?_, ih hc.2⟩
      rcases mem_insertInto.1 hb with rfl | hb
      · assumption
      · exact hc.1 b hb
    · split
      · rename_i hac
        refine List.pairwise_cons.2 ⟨fun b hb => ?_, h⟩
        rcases List.mem_cons.1 hb with rfl | hb
        · exact hac
        · exact Std.lt_trans hac (hc.1 b hb)
      · exact h

def insert (s : SortedSet α) (a : α) : SortedSet α :=
  ⟨insertInto a s.toList, pairwise_insertInto s.sorted⟩

@[simp] theorem mem_insert {s : SortedSet α} {a b : α} : b ∈ s.insert a ↔ b = a ∨ b ∈ s :=
  mem_insertInto

def ofList (l : List α) : SortedSet α := l.foldl insert empty

theorem mem_foldl_insert {l : List α} {s : SortedSet α} {a : α} :
    a ∈ l.foldl insert s ↔ a ∈ s ∨ a ∈ l := by
  induction l generalizing s with
  | nil => simp
  | cons b rest ih =>
    rw [List.foldl_cons, ih, mem_insert, List.mem_cons]
    constructor
    · rintro ((h | h) | h) <;> simp [h]
    · rintro (h | h | h) <;> simp [h]

@[simp] theorem mem_ofList {l : List α} {a : α} : a ∈ ofList l ↔ a ∈ l := by
  rw [ofList, mem_foldl_insert]
  simp [empty, mem_def]

theorem occursIn_iff {a : α} {l : List α} (h : l.Pairwise (· < ·)) :
    occursIn a l = true ↔ a ∈ l := by
  induction l with
  | nil => simp [occursIn]
  | cons b rest ih =>
    have hb := List.pairwise_cons.1 h
    unfold occursIn
    split
    · rename_i hlt
      rw [ih hb.2, List.mem_cons]
      constructor
      · exact Or.inr
      · rintro (rfl | h)
        · exact absurd hlt Std.lt_irrefl
        · exact h
    · rename_i hnot
      simp only [Bool.not_eq_true', decide_eq_false_iff_not, List.mem_cons]
      constructor
      · exact fun h' => Or.inl (eq_of_not_lt h' hnot)
      · rintro (rfl | hmem) h'
        · exact absurd h' Std.lt_irrefl
        · exact absurd (Std.lt_trans h' (hb.1 a hmem)) Std.lt_irrefl

@[simp] theorem contains_iff {s : SortedSet α} {a : α} : s.contains a = true ↔ a ∈ s :=
  occursIn_iff s.sorted

instance (a : α) (s : SortedSet α) : Decidable (a ∈ s) :=
  decidable_of_iff _ contains_iff

omit [DecidableLT α] [Std.IsLinearOrder α] in
theorem nodup_toList (s : SortedSet α) : s.toList.Nodup := by
  refine s.sorted.imp fun {a b} hab heq => ?_
  rw [heq] at hab
  exact Std.lt_irrefl hab

omit [DecidableLT α] in
/-- A set is determined by its members. -/
theorem ext_mem {s t : SortedSet α} (h : ∀ a, a ∈ s ↔ a ∈ t) : s = t := by
  refine ext_toList (List.Perm.eq_of_pairwise
    (fun (a b : α) _ _ (hab : a < b) (hba : b < a) =>
      absurd (Std.lt_trans hab hba) Std.lt_irrefl) s.sorted t.sorted ?_)
  exact (List.perm_ext_iff_of_nodup s.nodup_toList t.nodup_toList).2 h

/-- A set is the set of its members. -/
theorem ofList_toList (s : SortedSet α) : ofList s.toList = s :=
  ext_mem fun _ => mem_ofList

end

end SortedSet

end ServicePlacement
