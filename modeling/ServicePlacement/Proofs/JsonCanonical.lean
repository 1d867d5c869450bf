import ServicePlacement.Proofs.JsonRecords
import ServicePlacement.Proofs.JsonText

/-!
A value is read back from its text in canonical form. Sorting the fields of an object does not show
in its look-ups, as long as no key is there twice, so a record is the same record before and after.
-/
namespace ServicePlacement.Json

/-! ### Conditions on all parts -/

theorem itemsOnlyWords_iff {items : List Json} :
    itemsOnlyWords items = true ↔ ∀ x ∈ items, x.onlyWords = true := by
  induction items with
  | nil => simp [itemsOnlyWords]
  | cons x rest ih => simp [itemsOnlyWords, ih]

theorem fieldsOnlyWords_iff {fields : List (String × Json)} :
    fieldsOnlyWords fields = true ↔ ∀ f ∈ fields, f.2.onlyWords = true := by
  induction fields with
  | nil => simp [fieldsOnlyWords]
  | cons f rest ih => simp [fieldsOnlyWords, ih]

theorem depthOfItems_le_iff {items : List Json} {n : Nat} :
    Tree.depthOfItems (treeItems items) ≤ n ↔ ∀ x ∈ items, x.tree.depth ≤ n := by
  induction items with
  | nil => simp [treeItems, Tree.depthOfItems]
  | cons x rest ih =>
    simp only [treeItems, Tree.depthOfItems, Nat.max_le, ih, List.forall_mem_cons]

theorem depthOfFields_le_iff {fields : List (String × Json)} {n : Nat} :
    Tree.depthOfFields (treeFields fields) ≤ n ↔ ∀ f ∈ fields, f.2.tree.depth ≤ n := by
  induction fields with
  | nil => simp [treeFields, Tree.depthOfFields]
  | cons f rest ih =>
    simp only [treeFields, Tree.depthOfFields, Nat.max_le, ih, List.forall_mem_cons]

theorem canonicalItems_eq {items : List Json} (h : ∀ x ∈ items, x.canonical = x) :
    canonicalItems items = items := by
  induction items with
  | nil => rfl
  | cons x rest ih =>
    obtain ⟨hx, hrest⟩ := List.forall_mem_cons.mp h
    rw [canonicalItems, hx, ih hrest]

theorem canonicalFields_eq {fields : List (String × Json)} (h : ∀ f ∈ fields, f.2.canonical = f.2) :
    canonicalFields fields = fields := by
  induction fields with
  | nil => rfl
  | cons f rest ih =>
    obtain ⟨hf, hrest⟩ := List.forall_mem_cons.mp h
    rw [canonicalFields, hf, ih hrest]

section

variable {α : Type} {f : α → Json} {n : Nat}

theorem onlyWords_array_map (h : ∀ a, (f a).onlyWords = true) (l : List α) :
    (array (l.map f)).onlyWords = true :=
  itemsOnlyWords_iff.mpr (List.forall_mem_map.mpr fun a _ => h a)

theorem depth_array_map_le (h : ∀ a, (f a).tree.depth ≤ n) (l : List α) :
    (array (l.map f)).tree.depth ≤ n + 1 :=
  Nat.succ_le_succ (depthOfItems_le_iff.mpr (List.forall_mem_map.mpr fun a _ => h a))

theorem canonical_array_map (h : ∀ a, (f a).canonical = f a) (l : List α) :
    (array (l.map f)).canonical = array (l.map f) :=
  congrArg array (canonicalItems_eq (List.forall_mem_map.mpr fun a _ => h a))

end

/-! ### Reading a text -/

mutual

/-- The tree of a value stands for the value in canonical form. -/
theorem value?_tree (v : Json) (h : v.onlyWords = true) : v.tree.value? = some v.canonical := by
  match v, h with
  | null, _ => rfl
  | bool _, _ => rfl
  | number (.word _), _ => rfl
  | string _, _ => rfl
  | array items, h => rw [tree, Tree.value?, itemValues?_treeItems items h]; rfl
  | object fields, h => rw [tree, Tree.value?, fieldValues?_treeFields fields h]; rfl

theorem itemValues?_treeItems (items : List Json) (h : itemsOnlyWords items = true) :
    Tree.itemValues? (treeItems items) = some (canonicalItems items) := by
  match items with
  | [] => rfl
  | x :: rest =>
    obtain ⟨hx, hrest⟩ := Bool.and_eq_true_iff.mp h
    rw [treeItems, Tree.itemValues?, value?_tree x hx, itemValues?_treeItems rest hrest]
    rfl

theorem fieldValues?_treeFields (fields : List (String × Json))
    (h : fieldsOnlyWords fields = true) :
    Tree.fieldValues? (treeFields fields) = some (canonicalFields fields) := by
  match fields with
  | [] => rfl
  | f :: rest =>
    obtain ⟨hf, hrest⟩ := Bool.and_eq_true_iff.mp h
    rw [treeFields, Tree.fieldValues?, value?_tree f.2 hf, fieldValues?_treeFields rest hrest]
    rfl

end

/-- A value that is not nested too deeply is read back in canonical form. -/
theorem parse?_render (v : Json) (h : v.onlyWords = true) (hdepth : v.tree.depth ≤ depthLimit) :
    parse? v.render = some v.canonical := by
  rw [parse?, Tree.parse?, parseRounding?_render _ v h, Option.bind_some, Tree.kept?,
    if_pos hdepth, value?_tree v h]

/-! ### Sorted fields -/

def recordOf (fields : List (String × Json)) : Record :=
  ⟨fields.map fun f => (f.1, f.2.tree), false⟩

theorem record?_tree_recordOf (dialect : Dialect) (names : List String)
    {fields : List (String × Json)} (hkeys : (fields.map Prod.fst).Nodup) :
    (object fields).tree.record? dialect names = some (recordOf fields) :=
  record?_tree_object dialect names fields fun n _ => List.nodup_iff_count_le_one.mp hkeys n

theorem find?_key_eq_some_iff {fields : List (String × Json)} (hkeys : (fields.map Prod.fst).Nodup)
    {name : String} {f : String × Json} :
    fields.find? (fun g => g.1 == name) = some f ↔ f ∈ fields ∧ f.1 = name := by
  constructor
  · intro h
    exact ⟨List.mem_of_find?_eq_some h, by simpa using List.find?_some h⟩
  · rintro ⟨hf, rfl⟩
    cases hfound : fields.find? fun g => g.1 == f.1 with
    | none => exact absurd (beq_self_eq_true f.1) (List.find?_eq_none.mp hfound f hf)
    | some g =>
      have hkey : g.1 = f.1 := by simpa using List.find?_some hfound
      have hg : g ∈ fields := List.mem_of_find?_eq_some hfound
      rw [List.inj_on_of_nodup_map hkeys hg hf hkey]

theorem find?_recordOf_eq_map (fields : List (String × Json)) (name : String) :
    (recordOf fields).find? name =
      (fields.find? fun f => f.1 == name).map fun f => f.2.tree := by
  unfold recordOf Record.find?
  rw [List.find?_map, Option.map_map]
  rfl

theorem find?_recordOf_eq_some_iff {fields : List (String × Json)}
    (hkeys : (fields.map Prod.fst).Nodup) {name : String} {t : Tree} :
    (recordOf fields).find? name = some t ↔ ∃ v, (name, v) ∈ fields ∧ v.tree = t := by
  rw [find?_recordOf_eq_map, Option.map_eq_some_iff]
  simp only [find?_key_eq_some_iff hkeys]
  constructor
  · rintro ⟨f, ⟨hf, rfl⟩, rfl⟩
    exact ⟨f.2, hf, rfl⟩
  · rintro ⟨v, hv, rfl⟩
    exact ⟨(name, v), ⟨hv, rfl⟩, rfl⟩

theorem mem_sortFields_iff {fields : List (String × Json)} (hkeys : (fields.map Prod.fst).Nodup)
    {f : String × Json} : f ∈ sortFields fields ↔ f ∈ fields := by
  rw [sortFields, ← SortedMap.get?_eq_some_iff, SortedMap.get?_ofList_eq_some_iff hkeys]

theorem nodup_keys_sortFields (fields : List (String × Json)) :
    ((sortFields fields).map Prod.fst).Nodup :=
  SortedMap.nodup_keys _

/-- Fields that are in order stay as they are. -/
theorem sortFields_of_sorted {fields : List (String × Json)}
    (h : fields.Pairwise fun f g => f.1 < g.1) : sortFields fields = fields :=
  congrArg SortedMap.entries (SortedMap.ofList_entries ⟨fields, h⟩)

/-- Sorting fields does not show in the look-ups. -/
theorem find?_recordOf_sortFields {fields : List (String × Json)}
    (hkeys : (fields.map Prod.fst).Nodup) (name : String) :
    (recordOf (sortFields fields)).find? name = (recordOf fields).find? name := by
  refine Option.ext fun t => ?_
  rw [find?_recordOf_eq_some_iff (nodup_keys_sortFields fields), find?_recordOf_eq_some_iff hkeys]
  simp only [mem_sortFields_iff hkeys]

end ServicePlacement.Json
