import ServicePlacement.Json.Record
import ServicePlacement.Proofs.MapViews

/-!
Reading back what a value says. The tree of an object lists its fields under their own keys, so a
record taken from it finds the trees of the fields that were written, and a map of texts to words
comes back whole.
-/
namespace ServicePlacement.Json

theorem textFields?_map (fields : List (String × Tree)) :
    textFields? (fields.map fun f => (some f.1, f.2)) = some fields := by
  induction fields with
  | nil => rfl
  | cons f rest ih =>
    unfold textFields? at ih ⊢
    rw [List.map_cons, List.mapM_cons, ih]
    rfl

/-- The record of an object holds its fields, as long as no field of the record is there twice. -/
theorem record?_object (dialect : Dialect) (names : List String) (fields : List (String × Tree))
    (h : ∀ n ∈ names, (fields.map Prod.fst).countP (· == n) ≤ 1) :
    (Tree.object (fields.map fun f => (some f.1, f.2))).record? dialect names =
      some ⟨fields, false⟩ := by
  have hall : (names.all fun n => decide (fields.countP (fun f => f.1 == n) ≤ 1)) = true := by
    rw [List.all_eq_true]
    intro n hn
    have hcount := h n hn
    rw [List.countP_map] at hcount
    rw [decide_eq_true_iff]
    exact hcount
  rw [Tree.record?, textFields?_map]
  simp only [Option.bind_eq_bind, Option.bind_some, hall, if_true]

theorem treeFields_eq_map (fields : List (String × Json)) :
    treeFields fields = (fields.map fun f => (f.1, f.2.tree)).map fun f => (some f.1, f.2) := by
  induction fields with
  | nil => rfl
  | cons f rest ih => rw [treeFields, ih, List.map_cons, List.map_cons]

theorem textFields?_treeFields (fields : List (String × Json)) :
    textFields? (treeFields fields) = some (fields.map fun f => (f.1, f.2.tree)) := by
  rw [treeFields_eq_map, textFields?_map]

/-- The record of a written object holds its fields. -/
theorem record?_tree_object (dialect : Dialect) (names : List String)
    (fields : List (String × Json))
    (h : ∀ n ∈ names, (fields.map Prod.fst).countP (· == n) ≤ 1) :
    (object fields).tree.record? dialect names =
      some ⟨fields.map fun f => (f.1, f.2.tree), false⟩ := by
  rw [tree, treeFields_eq_map]
  refine record?_object dialect names _ ?_
  rw [List.map_map]
  exact h

@[simp] theorem find?_cons (f : String × Tree) (rest : List (String × Tree)) (positional : Bool)
    (name : String) :
    Record.find? ⟨f :: rest, positional⟩ name =
      if f.1 == name then some f.2 else Record.find? ⟨rest, positional⟩ name := by
  unfold Record.find?
  rw [List.find?_cons]
  cases f.1 == name <;> rfl

/-- A map of texts is read back from the object of its entries. -/
theorem map?_tree_object {α : Type} {encode : α → Json} {decode : Tree → Option α}
    (h : ∀ a, decode (encode a).tree = some a) (m : SortedMap String α) :
    Tree.map? decode (object (m.entries.map fun e => (e.1, encode e.2))).tree = some m := by
  have hread (l : List (String × α)) :
      (l.map fun e => (e.1, (encode e.2).tree)).mapM
        (fun f => (decode f.2).map fun v => (f.1, v)) = some l := by
    induction l with
    | nil => rfl
    | cons e rest ih =>
      rw [List.map_cons, List.mapM_cons, ih, h]
      rfl
  rw [tree, Tree.map?, textFields?_treeFields, List.map_map]
  have hentries := hread m.entries
  simp only [Function.comp_def, Option.bind_eq_bind, Option.bind_some, hentries]
  rw [SortedMap.ofList_entries]
  rfl

theorem treeItems_eq_map (items : List Json) : treeItems items = items.map tree := by
  induction items with
  | nil => rfl
  | cons x rest ih => rw [treeItems, ih, List.map_cons]

/-- A list is read back from its elements one by one. -/
theorem list?_map {α : Type} {encode : α → Tree} {decode : Tree → Option α}
    (h : ∀ a, decode (encode a) = some a) (l : List α) :
    Tree.list? decode (.array (l.map encode)) = some l := by
  show (l.map encode).mapM decode = some l
  induction l with
  | nil => rfl
  | cons a rest ih =>
    rw [List.map_cons, List.mapM_cons, ih, h]
    rfl

/-- A list is read back from the array of its elements. -/
theorem list?_tree_array {α : Type} {encode : α → Json} {decode : Tree → Option α}
    (h : ∀ a, decode (encode a).tree = some a) (l : List α) :
    Tree.list? decode (array (l.map encode)).tree = some l := by
  rw [tree, treeItems_eq_map, List.map_map]
  exact list?_map h l

@[simp] theorem word?_tree_word (n : UInt64) : (word n).tree.word? = some n := rfl

@[simp] theorem optional?_tree_null {α : Type} (decode : Tree → Option α) :
    null.tree.optional? decode = some none := rfl

@[simp] theorem optional?_tree_word (n : UInt64) :
    (word n).tree.optional? Tree.word? = some (some n) := rfl

/-- A double is read back unless it is not finite. -/
theorem real?_tree_ofFloat (x : Float) :
    (ofFloat x).tree.real? = if x.isFinite then some x else none := by
  unfold ofFloat
  by_cases h : x.isFinite = true
  · simp only [h, if_true, tree, Tree.real?]
  · simp only [h]
    rfl

end ServicePlacement.Json
