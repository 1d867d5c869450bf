import ServicePlacement.Settings.Document
import ServicePlacement.Proofs.JsonRecords
import ServicePlacement.Proofs.TomlLines
import ServicePlacement.Proofs.TomlTables

/-!
Settings that are saved as TOML and loaded again. The document has a section for each group of
settings and an element for each rule (`document`); there is one unless an integer is too large for
the format. Its lines are read back (`lines?_render`), build the tables that were written, and every
setting is found in its table, so that no default takes its place.
-/
namespace ServicePlacement.Toml.Value

open Json (Tree Dialect)

theorem treeFields_eq_map (fields : List (String × Value)) :
    treeFields fields = (fields.map fun f => (f.1, f.2.tree)).map fun f => (some f.1, f.2) := by
  induction fields with
  | nil => rfl
  | cons f rest ih => rw [treeFields, ih, List.map_cons, List.map_cons]

theorem treeItems_eq_map (items : List Value) : treeItems items = items.map tree := by
  induction items with
  | nil => rfl
  | cons v rest ih => rw [treeItems, ih, List.map_cons]

/-- The record of a table with different keys holds its fields. -/
theorem record?_table (dialect : Dialect) (names : List String) (fields : List (String × Value))
    (h : (fields.map Prod.fst).Nodup) :
    (table fields).tree.record? dialect names =
      some ⟨fields.map fun f => (f.1, f.2.tree), false⟩ := by
  rw [tree, treeFields_eq_map]
  refine Json.record?_object dialect names _ fun n _ => ?_
  rw [List.map_map]
  exact List.nodup_iff_count_le_one.mp h n

/-- A list is read back from the array of its elements. -/
theorem list?_array {α : Type} {encode : α → Value} {decode : Tree → Option α}
    (h : ∀ a, decode (encode a).tree = some a) (l : List α) :
    Tree.list? decode (array (l.map encode)).tree = some l := by
  rw [tree, treeItems_eq_map, List.map_map]
  exact Json.list?_map h l

@[simp] theorem text?_string (s : String) : (string s).tree.text? = some s := rfl

end ServicePlacement.Toml.Value

namespace ServicePlacement.Settings

open Json (Dialect Record Tree)
open Toml (Line Value)
open Toml.Table

/-! ### The document -/

def words (s : Settings) : List UInt64 :=
  [s.demand.maxSize, s.demand.pluckSize, s.rate.reportThreshold, s.rate.minRequests,
    s.rate.maxSenders, s.ring.virtualNodes, s.ring.groupSize]

def wordValue (n : UInt64) : Value := .integer n.toNat

def Rule.fields (r : Rule) : List (String × Value) :=
  [("pattern", .string r.pattern), ("profile", .string r.profile)]

def Demand.fields (d : Demand) : List (String × Value) :=
  [("max_size", wordValue d.maxSize), ("pluck_size", wordValue d.pluckSize),
    ("report_interval", .string d.reportInterval), ("default_profile", .string d.defaultProfile)]

def Rate.fields (r : Rate) : List (String × Value) :=
  [("report_threshold", wordValue r.reportThreshold),
    ("min_requests_before_reconfigure", wordValue r.minRequests),
    ("reconfigure_cooldown", .string r.cooldown), ("max_tracked_senders", wordValue r.maxSenders)]

def Ring.fields (r : Ring) : List (String × Value) :=
  [("virtual_nodes", wordValue r.virtualNodes), ("rc_group_size", wordValue r.groupSize)]

def document (s : Settings) : List Line :=
  assignments [("default_policy", .string s.policy.text)] ++
    (.header ["demand"] :: assignments s.demand.fields) ++ ruleLines s.demand.rules ++
    (.header ["request_rate"] :: assignments s.rate.fields) ++
    (.header ["partition"] :: assignments s.ring.fields)

theorem integer?_eq_some_iff {n : UInt64} {v : Value} :
    integer? n = some v ↔ n.toNat < 9223372036854775808 ∧ v = wordValue n := by
  unfold integer? wordValue
  split
  · rename_i h
    simp [h, eq_comm]
  · rename_i h
    simp [h]

/-- There are lines if all integers fit, and then they are those of the document. -/
theorem lines?_eq_some_iff {s : Settings} {lines : List Line} :
    s.lines? = some lines ↔
      (∀ n ∈ s.words, n.toNat < 9223372036854775808) ∧ lines = s.document := by
  simp only [lines?, Option.bind_eq_bind, Option.bind_eq_some_iff, integer?_eq_some_iff, words,
    List.forall_mem_cons]
  constructor
  · rintro ⟨_, ⟨h1, rfl⟩, _, ⟨h2, rfl⟩, _, ⟨h3, rfl⟩, _, ⟨h4, rfl⟩, _, ⟨h5, rfl⟩, _, ⟨h6, rfl⟩, _,
      ⟨h7, rfl⟩, hlines⟩
    refine ⟨⟨h1, h2, h3, h4, h5, h6, h7, fun _ h => absurd h List.not_mem_nil⟩, ?_⟩
    cases hlines
    simp [document, assignments, Demand.fields, Rate.fields, Ring.fields]
  · rintro ⟨⟨h1, h2, h3, h4, h5, h6, h7, -⟩, rfl⟩
    refine ⟨_, ⟨h1, rfl⟩, _, ⟨h2, rfl⟩, _, ⟨h3, rfl⟩, _, ⟨h4, rfl⟩, _, ⟨h5, rfl⟩, _, ⟨h6, rfl⟩, _,
      ⟨h7, rfl⟩, ?_⟩
    simp [document, assignments, Demand.fields, Rate.fields, Ring.fields]

theorem isWritable_ruleLines (rules : List Rule) : ∀ line ∈ ruleLines rules, line.IsWritable := by
  intro line hline
  cases rules with
  | nil =>
    obtain rfl := List.mem_singleton.mp hline
    exact ⟨by decide +kernel, .noItems⟩
  | cons r rest =>
    obtain ⟨r, -, hline⟩ := List.mem_flatMap.mp hline
    simp only [List.mem_cons, List.not_mem_nil, or_false] at hline
    obtain rfl | rfl | rfl := hline
    · show Toml.isPlainPath ["demand", "rules"] = true
      decide +kernel
    · exact ⟨by decide +kernel, .string _⟩
    · exact ⟨by decide +kernel, .string _⟩

theorem isWritable_assignments {fields : List (String × Value)}
    (h : ∀ f ∈ fields, Toml.isPlainKey f.1 = true ∧ f.2.IsWritable) :
    ∀ line ∈ assignments fields, line.IsWritable := by
  intro line hline
  obtain ⟨f, hf, rfl⟩ := List.mem_map.mp hline
  obtain ⟨hkey, hvalue⟩ := h f hf
  have hpath : Toml.isPlainPath [f.1] = true := by
    simp [Toml.isPlainPath, Toml.nestingLimit, hkey]
  exact ⟨hpath, hvalue⟩

/-- All lines of the document can be read back. -/
theorem isWritable_document {s : Settings} (h : ∀ n ∈ s.words, n.toNat < 9223372036854775808) :
    ∀ line ∈ s.document, line.IsWritable := by
  simp only [words, List.forall_mem_cons] at h
  obtain ⟨h1, h2, h3, h4, h5, h6, h7, -⟩ := h
  simp only [document, List.forall_mem_append, List.forall_mem_cons]
  refine ⟨⟨⟨⟨?_, ?_, ?_⟩, isWritable_ruleLines _⟩, ?_, ?_⟩, ?_, ?_⟩
  · refine isWritable_assignments ?_
    simp only [List.forall_mem_cons]
    exact ⟨⟨by decide +kernel, .string _⟩, fun _ h => absurd h List.not_mem_nil⟩
  · show Toml.isPlainPath ["demand"] = true
    decide +kernel
  · refine isWritable_assignments ?_
    simp only [Demand.fields, List.forall_mem_cons]
    exact ⟨⟨by decide +kernel, .integer h1⟩, ⟨by decide +kernel, .integer h2⟩,
      ⟨by decide +kernel, .string _⟩, ⟨by decide +kernel, .string _⟩,
      fun _ h => absurd h List.not_mem_nil⟩
  · show Toml.isPlainPath ["request_rate"] = true
    decide +kernel
  · refine isWritable_assignments ?_
    simp only [Rate.fields, List.forall_mem_cons]
    exact ⟨⟨by decide +kernel, .integer h3⟩, ⟨by decide +kernel, .integer h4⟩,
      ⟨by decide +kernel, .string _⟩, ⟨by decide +kernel, .integer h5⟩,
      fun _ h => absurd h List.not_mem_nil⟩
  · show Toml.isPlainPath ["partition"] = true
    decide +kernel
  · refine isWritable_assignments ?_
    simp only [Ring.fields, List.forall_mem_cons]
    exact ⟨⟨by decide +kernel, .integer h6⟩, ⟨by decide +kernel, .integer h7⟩,
      fun _ h => absurd h List.not_mem_nil⟩

/-! ### The tables -/

def rulesNode (rules : List Rule) : Node :=
  match rules with
  | [] => .value (.array [])
  | rules => .elements (rules.map fun r => nodes r.fields)

theorem toValue_rulesNode (rules : List Rule) :
    (rulesNode rules).toValue = .array (rules.map fun r => .table r.fields) := by
  cases rules with
  | nil => rfl
  | cons r rest =>
    have hvalues := tableValues_map_nodes ((r :: rest).map Rule.fields)
    rw [List.map_map, List.map_map] at hvalues
    exact congrArg Value.array hvalues

theorem foldlM_ruleLines {around : Fields → Fields}
    (h : OpensAt ["demand"] around) {inner : Fields}
    (hnew : find? "rules" inner = none) (rules : List Rule) : ∃ current,
    (ruleLines rules).foldlM Draft.add ⟨around inner, ["demand"]⟩ =
      some ⟨around (inner ++ [("rules", rulesNode rules)]), current⟩ := by
  cases rules with
  | nil => exact ⟨["demand"], by simp [ruleLines, rulesNode, add_assign h hnew]⟩
  | cons r rest =>
    have hkeys : ∀ fields ∈ (r :: rest).map Rule.fields, (fields.map Prod.fst).Nodup := by
      intro fields hfields
      obtain ⟨r', -, rfl⟩ := List.mem_map.mp hfields
      simp [Rule.fields]
    have hne : (r :: rest).map Rule.fields ≠ [] := List.cons_ne_nil _ _
    obtain ⟨current, helements⟩ := foldlM_elements h hnew hne hkeys ["demand"]
    rw [List.flatMap_map, List.map_map] at helements
    exact ⟨current, helements⟩

def value (s : Settings) : Value :=
  .table [("default_policy", .string s.policy.text),
    ("demand", .table (s.demand.fields ++
      [("rules", .array (s.demand.rules.map fun r => .table r.fields))])),
    ("request_rate", .table s.rate.fields), ("partition", .table s.ring.fields)]

theorem ofLines?_document (s : Settings) : ofLines? s.document = some s.value := by
  let policy : Fields := nodes [("default_policy", .string s.policy.text)]
  let demand : Node :=
    .table .header (nodes s.demand.fields ++ [("rules", rulesNode s.demand.rules)])
  let rate : Node := .table .header (nodes s.rate.fields)
  have hpolicy : (assignments [("default_policy", .string s.policy.text)]).foldlM
      Draft.add ⟨[], []⟩ = some ⟨policy, []⟩ :=
    foldlM_assignments opensAt_nil [] (fun _ _ => rfl) (by simp)
  have hdemand : (.header ["demand"] :: assignments s.demand.fields).foldlM Draft.add ⟨policy, []⟩ =
      some ⟨policy ++ [("demand", .table .header (nodes s.demand.fields))], ["demand"]⟩ :=
    foldlM_section opensAt_nil rfl (by simp [Demand.fields]) []
  obtain ⟨current, hrules⟩ : ∃ current, (ruleLines s.demand.rules).foldlM Draft.add
      ⟨policy ++ [("demand", .table .header (nodes s.demand.fields))], ["demand"]⟩ =
        some ⟨policy ++ [("demand", demand)], current⟩ :=
    foldlM_ruleLines (opensAt_nil.table rfl) rfl s.demand.rules
  have hrate : (.header ["request_rate"] :: assignments s.rate.fields).foldlM Draft.add
      ⟨policy ++ [("demand", demand)], current⟩ =
        some ⟨policy ++ [("demand", demand)] ++ [("request_rate", rate)], ["request_rate"]⟩ :=
    foldlM_section opensAt_nil rfl (by simp [Rate.fields]) current
  have hring : (.header ["partition"] :: assignments s.ring.fields).foldlM Draft.add
      ⟨policy ++ [("demand", demand)] ++ [("request_rate", rate)], ["request_rate"]⟩ =
        some ⟨policy ++ [("demand", demand)] ++ [("request_rate", rate)] ++
          [("partition", .table .header (nodes s.ring.fields))], ["partition"]⟩ :=
    foldlM_section opensAt_nil rfl (by simp [Ring.fields]) ["request_rate"]
  unfold ofLines? document
  simp only [List.foldlM_append, hpolicy, hdemand, hrules, hrate, hring, Option.bind_eq_bind,
    Option.bind_some]
  simp [policy, demand, rate, value, fieldValues_append, fieldValues_nodes, fieldValues,
    Node.toValue, toValue_rulesNode]

/-! ### The settings -/

@[simp] theorem word?_wordValue (n : UInt64) : (wordValue n).tree.word? = some n := by
  simp [wordValue, Value.tree, Value.wholeScalar, Tree.word?]

theorem ofTree?_rule (dialect : Dialect) (r : Rule) :
    Rule.ofTree? dialect (Value.table r.fields).tree = some r := by
  unfold Rule.ofTree?
  rw [Value.record?_table _ _ _ (by simp [Rule.fields])]
  simp [Rule.fields, Record.required]

theorem ofTree?_demand (dialect : Dialect) (d : Demand) :
    Demand.ofTree? dialect (Value.table (d.fields ++
      [("rules", .array (d.rules.map fun r => .table r.fields))])).tree = some d := by
  unfold Demand.ofTree?
  rw [Value.record?_table _ _ _ (by simp [Demand.fields])]
  simp [Demand.fields, Record.withDefault, Value.list?_array (ofTree?_rule dialect)]

theorem ofTree?_rate (dialect : Dialect) (r : Rate) :
    Rate.ofTree? dialect (Value.table r.fields).tree = some r := by
  unfold Rate.ofTree?
  rw [Value.record?_table _ _ _ (by simp [Rate.fields])]
  simp [Rate.fields, Record.withDefault]

theorem ofTree?_ring (dialect : Dialect) (r : Ring) :
    Ring.ofTree? dialect (Value.table r.fields).tree = some r := by
  unfold Ring.ofTree?
  rw [Value.record?_table _ _ _ (by simp [Ring.fields])]
  simp [Ring.fields, Record.withDefault]

/-- All settings are found in the value of the document. -/
theorem ofTree?_value (dialect : Dialect) (s : Settings) :
    ofTree? dialect s.value.tree = some s := by
  have hpolicy : policyOfTree? dialect (Value.string s.policy.text).tree = some s.policy :=
    Policy.ofText?_text s.policy
  unfold ofTree? value
  rw [Value.record?_table _ _ _ (by simp)]
  simp [Record.withDefault, hpolicy, ofTree?_demand, ofTree?_rate, ofTree?_ring]

/-- Saving settings fails exactly if an integer is above the greatest one of the format. What is
saved is loaded as it was if it passes the check, and is refused with the fault that the check finds
if it does not. -/
theorem saved_toml_loads_back (s : Settings) :
    (s.toToml? = none ↔ ∃ n ∈ s.words, 9223372036854775807 < n.toNat) ∧
      ∀ text, s.toToml? = some text →
        (s.check = .ok () → ofToml text = .ok s) ∧
          ∀ e, s.check = .error e → ofToml text = .error (.unusable e) := by
  constructor
  · have hlines : s.lines? = none ↔ ¬ ∀ n ∈ s.words, n.toNat < 9223372036854775808 := by
      simp [Option.eq_none_iff_forall_ne_some, lines?_eq_some_iff]
    rw [toToml?, Option.map_eq_none_iff, hlines]
    simp only [Classical.not_forall, exists_prop]
    exact exists_congr fun n => and_congr_right fun _ => by omega
  · intro text htext
    obtain ⟨lines, hlines, rfl⟩ := Option.map_eq_some_iff.mp htext
    obtain ⟨hfit, rfl⟩ := lines?_eq_some_iff.mp hlines
    have hparse : Toml.parse? (Toml.render s.document) = some s.value := by
      rw [Toml.parse?, Toml.lines?_render (isWritable_document hfit)]
      exact ofLines?_document s
    have hload : ((Toml.parse? (Toml.render s.document)).bind fun v =>
        ofTree? Toml.dialect v.tree) = some s := by
      rw [hparse, Option.bind_some, ofTree?_value]
    refine ⟨fun hcheck => ?_, fun e hcheck => ?_⟩
    · simp only [ofToml, hload, hcheck]
    · simp only [ofToml, hload, hcheck]

def quotedSettings : Settings where
  demand :=
    { defaultProfile := "'\"\x07"
      rules := [⟨"^a\\d'\n$", "\"\"\""⟩, ⟨"\\\x7f'''\n", ""⟩, ⟨"\t[\"]", "null"⟩] }

theorem saved_toml_loads_back_quoted :
    (∃ text, quotedSettings.toToml? = some text ∧ ofToml text = .ok quotedSettings) ∧
      ∃ text, Settings.toToml? { rate := { cooldown := "'''\n" } } = some text ∧
        ofToml text = .error (.unusable (.badDuration "'''")) := by
  constructor
  · obtain ⟨text, htext⟩ : ∃ text, quotedSettings.toToml? = some text :=
      Option.isSome_iff_exists.mp (by decide +kernel)
    have hcheck : quotedSettings.check = .ok () := by decide +kernel
    exact ⟨text, htext, ((saved_toml_loads_back quotedSettings).2 text htext).1 hcheck⟩
  · obtain ⟨text, htext⟩ :
        ∃ text, Settings.toToml? { rate := { cooldown := "'''\n" } } = some text :=
      Option.isSome_iff_exists.mp (by decide +kernel)
    have hcheck : Settings.check { rate := { cooldown := "'''\n" } } =
        .error (.badDuration "'''") := by decide +kernel
    exact ⟨text, htext, ((saved_toml_loads_back _).2 text htext).2 _ hcheck⟩

end ServicePlacement.Settings
