import ServicePlacement.Toml.Printer
import ServicePlacement.Toml.Table

/-!
What becomes of the lines of a document. As long as every section and every array of tables is
written in one piece, a line only changes what stands last. So the draft is described by what is
around the table that the current path leads to (`OpensAt`): assignments extend that table, and a
header or an element opens one inside it.
-/
namespace ServicePlacement.Toml.Table

/-! ### Fields -/

theorem find?_append (key : String) (fields more : Fields) :
    find? key (fields ++ more) = (find? key fields).or (find? key more) := by
  unfold find?
  rw [List.find?_append]
  cases fields.find? fun f => f.1 == key <;> rfl

theorem find?_append_of_new {key : String} {before : Fields} (h : find? key before = none)
    (node : Node) : find? key (before ++ [(key, node)]) = some node := by
  rw [find?_append, h]
  simp [find?]

theorem ne_of_find? {key : String} {fields : Fields} (h : find? key fields = none)
    {f : String × Node} (hf : f ∈ fields) : (f.1 == key) = false := by
  have hnone : fields.find? (fun f => f.1 == key) = none := by simpa [find?] using h
  simpa using List.find?_eq_none.mp hnone f hf

/-- A new node takes the place of the last one. -/
theorem put_last {key : String} {before : Fields} (h : find? key before = none)
    (node node' : Node) :
    put key node' (before ++ [(key, node)]) = before ++ [(key, node')] := by
  have hbefore : before.map (fun f => if f.1 == key then (key, node') else f) = before := by
    refine (List.map_congr_left fun f hf => ?_).trans (List.map_id before)
    rw [ne_of_find? h hf]
    rfl
  unfold put
  rw [if_pos (by simp), List.map_append, hbefore]
  simp

def nodes (fields : List (String × Value)) : Fields := fields.map fun f => (f.1, .value f.2)

def assignments (fields : List (String × Value)) : List Line :=
  fields.map fun f => .assign [f.1] f.2

theorem fieldValues_append (fields more : Fields) :
    fieldValues (fields ++ more) = fieldValues fields ++ fieldValues more := by
  induction fields with
  | nil => rfl
  | cons f rest ih => rw [List.cons_append, fieldValues, ih, fieldValues, List.cons_append]

theorem fieldValues_nodes (fields : List (String × Value)) :
    fieldValues (nodes fields) = fields := by
  induction fields with
  | nil => rfl
  | cons f rest ih =>
    rw [nodes, List.map_cons, fieldValues]
    exact congrArg (_ :: ·) ih

theorem tableValues_map_nodes (tables : List (List (String × Value))) :
    tableValues (tables.map nodes) = tables.map .table := by
  induction tables with
  | nil => rfl
  | cons t rest ih => rw [List.map_cons, tableValues, fieldValues_nodes, ih, List.map_cons]

/-! ### The open table -/

/-- The path leads to a table with the given surroundings, which is what a document, a header or an
element has opened. -/
def OpensAt (path : List String) (around : Fields → Fields) : Prop :=
  ∀ change inner, descend false change path .header (around inner) =
    (change .header inner).map around

theorem opensAt_nil : OpensAt [] id := by
  intro change inner
  rw [descend, Option.map_id]
  rfl

theorem descend_append (change : Kind → Fields → Option Fields) (path : List String) (key : String)
    (kind : Kind) (fields : Fields) :
    descend false change (path ++ [key]) kind fields =
      descend false (descend false change [key]) path kind fields := by
  induction path generalizing kind fields with
  | nil => rw [List.nil_append, descend.eq_1]
  | cons part path ih =>
    rw [List.cons_append, descend.eq_2, descend.eq_2]
    simp only [ih]

theorem splitLast_append (path : List String) (key : String) :
    splitLast (path ++ [key]) = some (path, key) := by
  induction path with
  | nil => rfl
  | cons part path ih =>
    cases path with
    | nil => rfl
    | cons next path => 
      rw [List.cons_append, List.cons_append, splitLast, ← List.cons_append, ih]
      · rfl
      · simp

variable {path : List String} {around : Fields → Fields} {key : String} {inner : Fields}

/-- A table inside the open one, if it is the last. -/
theorem OpensAt.table (h : OpensAt path around) (hnew : find? key inner = none) :
    OpensAt (path ++ [key]) fun t => around (inner ++ [(key, .table .header t)]) := by
  intro change t
  rw [descend_append, h, descend.eq_2, find?_append_of_new hnew]
  simp only [Bool.false_and, Bool.false_eq_true, if_false, descend.eq_1]
  cases change .header t with
  | none => rfl
  | some t' => simp [put_last hnew]

/-- An element inside the open table, if it is the last of an array that is the last. -/
theorem OpensAt.element (h : OpensAt path around) (hnew : find? key inner = none)
    (tables : List Fields) :
    OpensAt (path ++ [key]) fun t => around (inner ++ [(key, .elements (tables ++ [t]))]) := by
  intro change t
  rw [descend_append, h, descend.eq_2, find?_append_of_new hnew]
  simp only [List.reverse_append, List.reverse_singleton, List.singleton_append, descend.eq_1,
    List.reverse_reverse]
  cases change .header t with
  | none => rfl
  | some t' => simp [put_last hnew]

/-- A key of the open table is assigned, if it is new. -/
theorem add_assign (h : OpensAt path around) (hnew : find? key inner = none) (v : Value) :
    Draft.add ⟨around inner, path⟩ (.assign [key] v) =
      some ⟨around (inner ++ [(key, .value v)]), path⟩ := by
  have hassign : assign [key] v .header inner = some (inner ++ [(key, .value v)]) := by
    simp [assign, splitLast, descend, hnew]
  rw [Draft.add, h, hassign]
  rfl

theorem add_header (h : OpensAt path around) (hnew : find? key inner = none)
    (current : List String) :
    Draft.add ⟨around inner, current⟩ (.header (path ++ [key])) =
      some ⟨around (inner ++ [(key, .table .header [])]), path ++ [key]⟩ := by
  rw [Draft.add, openTable, splitLast_append]
  simp only [Option.bind_eq_bind, Option.bind_some]
  rw [h]
  simp only [hnew]
  rfl

/-- The first element of an array. -/
theorem add_element (h : OpensAt path around) (hnew : find? key inner = none)
    (current : List String) :
    Draft.add ⟨around inner, current⟩ (.element (path ++ [key])) =
      some ⟨around (inner ++ [(key, .elements [[]])]), path ++ [key]⟩ := by
  rw [Draft.add, openElement, splitLast_append]
  simp only [Option.bind_eq_bind, Option.bind_some]
  rw [h]
  simp only [hnew]
  rfl

/-- One more element of an array. -/
theorem add_element_more (h : OpensAt path around) (hnew : find? key inner = none)
    (tables : List Fields) (current : List String) :
    Draft.add ⟨around (inner ++ [(key, .elements tables)]), current⟩ (.element (path ++ [key])) =
      some ⟨around (inner ++ [(key, .elements (tables ++ [[]]))]), path ++ [key]⟩ := by
  rw [Draft.add, openElement, splitLast_append]
  simp only [Option.bind_eq_bind, Option.bind_some]
  rw [h]
  simp only [find?_append_of_new hnew, put_last hnew]
  rfl

/-! ### Sections -/

/-- Assignments of different new keys extend the open table. -/
theorem foldlM_assignments (h : OpensAt path around) (inner : Fields)
    {fields : List (String × Value)} (hnew : ∀ f ∈ fields, find? f.1 inner = none)
    (hkeys : (fields.map Prod.fst).Nodup) :
    (assignments fields).foldlM Draft.add ⟨around inner, path⟩ =
      some ⟨around (inner ++ nodes fields), path⟩ := by
  induction fields generalizing inner with
  | nil => simp [assignments, nodes]
  | cons f rest ih =>
    rw [List.map_cons, List.nodup_cons] at hkeys
    have hrest : ∀ g ∈ rest, find? g.1 (inner ++ [(f.1, .value f.2)]) = none := by
      intro g hg
      have hne : f.1 ≠ g.1 := by
        intro heq
        exact hkeys.1 (heq ▸ List.mem_map_of_mem hg)
      rw [find?_append, hnew g (List.mem_cons_of_mem f hg)]
      simp [find?, hne]
    rw [assignments, List.map_cons, List.foldlM_cons, add_assign h (hnew f List.mem_cons_self)]
    rw [assignments] at ih
    simp only [Option.bind_eq_bind, Option.bind_some, ih _ hrest hkeys.2]
    simp [nodes]

/-- A header and its assignments make one table. -/
theorem foldlM_section (h : OpensAt path around) (hnew : find? key inner = none)
    {fields : List (String × Value)} (hkeys : (fields.map Prod.fst).Nodup)
    (current : List String) :
    (.header (path ++ [key]) :: assignments fields).foldlM Draft.add ⟨around inner, current⟩ =
      some ⟨around (inner ++ [(key, .table .header (nodes fields))]), path ++ [key]⟩ := by
  rw [List.foldlM_cons, add_header h hnew]
  exact foldlM_assignments (h.table hnew) [] (fun _ _ => rfl) hkeys

/-- The elements of an array of tables that has been begun. -/
theorem foldlM_elements_more (h : OpensAt path around) (hnew : find? key inner = none)
    {elements : List (List (String × Value))}
    (hkeys : ∀ fields ∈ elements, (fields.map Prod.fst).Nodup) (tables : List Fields)
    (current : List String) : ∃ current',
    (elements.flatMap fun fields => .element (path ++ [key]) :: assignments fields).foldlM
        Draft.add ⟨around (inner ++ [(key, .elements tables)]), current⟩ =
      some ⟨around (inner ++ [(key, .elements (tables ++ elements.map nodes))]), current'⟩ := by
  induction elements generalizing tables current with
  | nil => exact ⟨current, by simp⟩
  | cons fields rest ih =>
    have hfields := hkeys fields List.mem_cons_self
    have hassignments := foldlM_assignments (h.element hnew tables) []
      (fun _ _ => rfl) hfields
    obtain ⟨current', hrest⟩ := ih (fun g hg => hkeys g (List.mem_cons_of_mem fields hg))
      (tables ++ [nodes fields]) (path ++ [key])
    refine ⟨current', ?_⟩
    rw [List.flatMap_cons, List.foldlM_append, List.foldlM_cons, add_element_more h hnew]
    rw [List.nil_append] at hassignments
    simp only [Option.bind_eq_bind, Option.bind_some, hassignments, hrest]
    simp

/-- Elements make one array of tables. -/
theorem foldlM_elements (h : OpensAt path around) (hnew : find? key inner = none)
    {elements : List (List (String × Value))} (hne : elements ≠ [])
    (hkeys : ∀ fields ∈ elements, (fields.map Prod.fst).Nodup) (current : List String) :
    ∃ current',
      (elements.flatMap fun fields => .element (path ++ [key]) :: assignments fields).foldlM
          Draft.add ⟨around inner, current⟩ =
        some ⟨around (inner ++ [(key, .elements (elements.map nodes))]), current'⟩ := by
  cases elements with
  | nil => exact absurd rfl hne
  | cons fields rest =>
    have hassignments := foldlM_assignments (h.element hnew []) []
      (fun _ _ => rfl) (hkeys fields List.mem_cons_self)
    obtain ⟨current', hrest⟩ := foldlM_elements_more h hnew
      (fun g hg => hkeys g (List.mem_cons_of_mem fields hg)) [nodes fields] (path ++ [key])
    refine ⟨current', ?_⟩
    rw [List.flatMap_cons, List.foldlM_append, List.foldlM_cons, add_element h hnew]
    simp only [List.nil_append] at hassignments
    simp only [Option.bind_eq_bind, Option.bind_some, hassignments, hrest]
    rfl

end ServicePlacement.Toml.Table
