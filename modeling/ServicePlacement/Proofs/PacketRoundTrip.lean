import ServicePlacement.Creation.Packet
import ServicePlacement.Proofs.AddressText
import ServicePlacement.Proofs.JsonCanonical

/-!
A creation request is read back from its JSON value and from its text. Each of its eight parts has
its own key and is written unless it says nothing, and then the default of its look-up is that part
(`ofTree?_tree_object`). The look-ups are the same whether the fields stand in the order of the text
or are sorted by their keys.
-/
namespace ServicePlacement.CreateRequest

open Json (Tree Record recordOf)

/-! ### The parts of a request -/

structure Part where
  condition : Bool
  key : String
  value : Json

def fieldsOf (parts : List Part) : List (String × Json) :=
  parts.flatMap fun p => fieldIf p.condition p.key p.value

theorem fieldsOf_cons (p : Part) (parts : List Part) :
    fieldsOf (p :: parts) = fieldIf p.condition p.key p.value ++ fieldsOf parts :=
  List.flatMap_cons

theorem mem_fieldsOf {parts : List Part} {f : String × Json} :
    f ∈ fieldsOf parts ↔ ∃ p ∈ parts, p.condition = true ∧ f = (p.key, p.value) := by
  simp [fieldsOf, fieldIf]

theorem keys_fieldsOf_sublist (parts : List Part) :
    ((fieldsOf parts).map Prod.fst).Sublist (parts.map Part.key) := by
  induction parts with
  | nil => exact .slnil
  | cons p rest ih =>
    rw [fieldsOf_cons, List.map_append, List.map_cons]
    cases hp : p.condition
    · exact ih.cons p.key
    · exact ih.cons_cons p.key

theorem find?_fieldsOf (parts : List Part) (name : String) :
    (recordOf (fieldsOf parts)).find? name =
      (parts.find? fun p => p.condition && p.key == name).map fun p => p.value.tree := by
  induction parts with
  | nil => rfl
  | cons p rest ih =>
    rw [fieldsOf_cons, List.find?_cons]
    cases hp : p.condition
    · exact ih
    · have hcons : (recordOf (fieldIf true p.key p.value ++ fieldsOf rest)).find? name =
          if p.key == name then some p.value.tree else (recordOf (fieldsOf rest)).find? name :=
        Json.find?_cons _ _ _ _
      rw [hcons, ih]
      cases p.key == name <;> rfl

def parts (r : CreateRequest) : List Part :=
  [⟨true, "NAME", .string r.name⟩,
    ⟨r.state.isSome, "STATE", Json.ofOption r.state⟩,
    ⟨!r.states.isEmpty, "NAME_STATE_ARRAY", .array (r.states.entries.map entryJson)⟩,
    ⟨!r.failed.isEmpty, "FAILED_CREATES", .array (r.failed.toList.map .string)⟩,
    ⟨r.initGroup.isSome, "INIT_GROUP",
      .array ((r.initGroup.getD .empty).toList.map fun e => .string e.text)⟩,
    ⟨true, "RECONFIGURE_UPON_ACTIVES_CHANGE", .string r.policy.text⟩,
    ⟨r.sender.isSome, "SENDER", Json.ofOption (r.sender.map Endpoint.text)⟩,
    ⟨r.isAnswer, "IS_RESPONSE", .bool true⟩]

theorem fields_eq (r : CreateRequest) : r.fields = fieldsOf r.parts := by
  simp [fields, parts, fieldsOf, fieldIf]

theorem nodup_keys_fields (r : CreateRequest) : (r.fields.map Prod.fst).Nodup := by
  have hkeys : (r.parts.map Part.key).Nodup := by simp [parts]
  rw [fields_eq]
  exact (keys_fieldsOf_sublist r.parts).nodup hkeys

/-- What holds of the values that requests are made of holds of every field. -/
theorem forall_mem_fields {P : Json → Prop} (text : ∀ s, P (.string s)) (flag : P (.bool true))
    (texts : ∀ l : List String, P (.array (l.map .string)))
    (entries : ∀ l : List (ServiceName × String), P (.array (l.map entryJson)))
    (r : CreateRequest) : ∀ f ∈ r.fields, P f.2 := by
  have hoption {o : Option String} (h : o.isSome = true) : P (Json.ofOption o) := by
    obtain ⟨s, rfl⟩ := Option.isSome_iff_exists.mp h
    exact text s
  have hendpoints (l : List Endpoint) : P (.array (l.map fun e => .string e.text)) := by
    have := texts (l.map Endpoint.text)
    rwa [List.map_map] at this
  intro f hf
  rw [fields_eq, mem_fieldsOf] at hf
  obtain ⟨p, hp, hcondition, rfl⟩ := hf
  simp only [parts, List.mem_cons, List.not_mem_nil, or_false] at hp
  rcases hp with rfl | rfl | rfl | rfl | rfl | rfl | rfl | rfl
  · exact text r.name
  · exact hoption hcondition
  · exact entries _
  · exact texts _
  · exact hendpoints _
  · exact text _
  · exact hoption (by simpa using hcondition)
  · exact flag

/-! ### Reading the parts back -/

theorem entryOfTree?_entryJson (e : ServiceName × String) :
    entryOfTree? (entryJson e).tree = some e := by
  unfold entryOfTree? entryJson
  rw [Json.record?_tree_object _ _ _ (by simp)]
  rfl

theorem endpointOfTree?_text (e : Endpoint) :
    endpointOfTree? (Json.string e.text).tree = some e :=
  Endpoint.parse?_text e

def Holds (record : Record) (r : CreateRequest) : Prop :=
  ∀ name, record.find? name =
    (r.parts.find? fun p => p.condition && p.key == name).map fun p => p.value.tree

theorem holds_fields (r : CreateRequest) : Holds (recordOf r.fields) r := by
  intro name
  rw [fields_eq, find?_fieldsOf]

theorem holds_sortFields (r : CreateRequest) : Holds (recordOf (Json.sortFields r.fields)) r := by
  intro name
  rw [Json.find?_recordOf_sortFields (nodup_keys_fields r), holds_fields]

namespace Holds

variable {record : Record} {r : CreateRequest} (h : Holds record r)

include h

theorem name_eq : record.required "NAME" Tree.text? = some r.name := by
  rw [Record.required, h]
  rfl

theorem state_eq : record.optional "STATE" Tree.text? = some r.state := by
  rw [Record.optional, Record.withDefault, h]
  cases hs : r.state with
  | none => simp [parts, hs]
  | some s =>
    have hread : Tree.optional? Tree.text? (Json.ofOption (some s)).tree = some (some s) := rfl
    simpa [parts, hs] using hread

theorem entries_eq :
    record.withDefault "NAME_STATE_ARRAY" [] (Tree.list? entryOfTree?) =
      some r.states.entries := by
  have hread := Json.list?_tree_array entryOfTree?_entryJson r.states.entries
  rw [Record.withDefault, h]
  cases hempty : r.states.isEmpty with
  | true => simp [parts, hempty, List.isEmpty_iff.mp hempty]
  | false => simpa [parts, hempty] using hread

theorem failed_eq :
    record.withDefault "FAILED_CREATES" [] (Tree.list? Tree.text?) = some r.failed.toList := by
  have hread : Tree.list? Tree.text? (Json.array (r.failed.toList.map .string)).tree =
      some r.failed.toList := Json.list?_tree_array (fun _ => rfl) _
  rw [Record.withDefault, h]
  cases hempty : r.failed.isEmpty with
  | true => simp [parts, hempty, List.isEmpty_iff.mp hempty]
  | false => simpa [parts, hempty] using hread

theorem initGroup_eq :
    record.optional "INIT_GROUP" (Tree.list? endpointOfTree?) =
      some (r.initGroup.map SortedSet.toList) := by
  rw [Record.optional, Record.withDefault, h]
  cases hg : r.initGroup with
  | none => simp [parts, hg]
  | some g =>
    have hread : Tree.optional? (Tree.list? endpointOfTree?)
        (Json.array (g.toList.map fun e => .string e.text)).tree = some (some g.toList) :=
      congrArg (Option.map some) (Json.list?_tree_array endpointOfTree?_text g.toList)
    simpa [parts, hg] using hread

theorem policy_eq :
    (record.required "RECONFIGURE_UPON_ACTIVES_CHANGE" fun t =>
      (t.name? .json).bind Policy.ofText?) = some r.policy := by
  have hread : (Tree.name? .json (Json.string r.policy.text).tree).bind Policy.ofText? =
      some r.policy := Policy.ofText?_text r.policy
  rw [Record.required, h]
  simpa [parts] using hread

theorem sender_eq : record.optional "SENDER" endpointOfTree? = some r.sender := by
  rw [Record.optional, Record.withDefault, h]
  cases hs : r.sender with
  | none => simp [parts, hs]
  | some e =>
    have hread : Tree.optional? endpointOfTree? (Json.ofOption (some e.text)).tree =
        some (some e) := congrArg (Option.map some) (endpointOfTree?_text e)
    simpa [parts, hs] using hread

theorem isAnswer_eq : record.withDefault "IS_RESPONSE" false Tree.flag? = some r.isAnswer := by
  have hread : Tree.flag? (Json.bool true).tree = some true := rfl
  rw [Record.withDefault, h]
  cases ha : r.isAnswer with
  | false => simp [parts, ha]
  | true => simpa [parts, ha] using hread

end Holds

/-- A record that holds the parts of a request is read as the request. -/
theorem ofTree?_tree_object {fields : List (String × Json)} {r : CreateRequest}
    (hkeys : (fields.map Prod.fst).Nodup) (h : Holds (recordOf fields) r) :
    ofTree? (Json.object fields).tree = some r := by
  unfold ofTree?
  rw [Json.record?_tree_recordOf _ _ hkeys]
  have hgroup : (r.initGroup.map SortedSet.toList).map SortedSet.ofList = r.initGroup := by
    cases r.initGroup with
    | none => rfl
    | some g => exact congrArg some g.ofList_toList
  simp only [Option.bind_eq_bind, Option.bind_some, h.name_eq, h.state_eq, h.entries_eq,
    h.failed_eq, h.initGroup_eq, h.policy_eq, h.sender_eq, h.isAnswer_eq, hgroup,
    SortedMap.ofList_entries, SortedSet.ofList_toList]
  rfl

/-! ### The value and the text of a request -/

theorem canonical_entryJson (e : ServiceName × String) :
    (entryJson e).canonical = entryJson e := by
  have hsorted : [("NAME", Json.string e.1), ("STATE", Json.string e.2)].Pairwise
      fun f g => f.1 < g.1 := List.pairwise_pair.mpr (show "NAME" < "STATE" by decide)
  exact congrArg Json.object (Json.sortFields_of_sorted hsorted)

theorem toJson_eq (r : CreateRequest) : r.toJson = .object (Json.sortFields r.fields) := by
  have hfields := forall_mem_fields (P := fun v => v.canonical = v) (fun _ => rfl) rfl
    (Json.canonical_array_map fun _ => rfl) (Json.canonical_array_map canonical_entryJson) r
  rw [toJson, Json.canonical, Json.canonicalFields_eq hfields]

theorem depth_le (r : CreateRequest) : (Json.object r.fields).tree.depth ≤ 3 := by
  have hfields := forall_mem_fields (P := fun v => v.tree.depth ≤ 2) (fun _ => Nat.zero_le 2)
    (Nat.zero_le 2) (Json.depth_array_map_le fun _ => Nat.zero_le 1)
    (Json.depth_array_map_le fun _ => Nat.le_refl 1) r
  exact Nat.succ_le_succ (Json.depthOfFields_le_iff.mpr hfields)

theorem onlyWords_fields (r : CreateRequest) : (Json.object r.fields).onlyWords = true := by
  have hfields := forall_mem_fields (P := fun v => v.onlyWords = true) (fun _ => rfl) rfl
    (Json.onlyWords_array_map fun _ => rfl) (Json.onlyWords_array_map fun _ => rfl) r
  exact Json.fieldsOnlyWords_iff.mpr hfields

/-- A request is read back from its JSON value and from its text, and the text writes the value. -/
theorem wire_round_trip (r : CreateRequest) :
    ofJson? r.toJson = some r ∧ parse? r.render = some r ∧
      Json.parse? r.render = some r.toJson := by
  refine ⟨?_, ?_, ?_⟩
  · rw [ofJson?, toJson_eq]
    exact ofTree?_tree_object (Json.nodup_keys_sortFields _) (holds_sortFields r)
  · rw [parse?, Tree.parse?, render, Json.parseRounding?_render _ _ (onlyWords_fields r)]
    exact ofTree?_tree_object (nodup_keys_fields r) (holds_fields r)
  · exact Json.parse?_render _ (onlyWords_fields r) (Nat.le_trans (depth_le r) (by decide))

end ServicePlacement.CreateRequest
