import ServicePlacement.Proofs.PacketRoundTrip

/-!
Which packets are accepted. A decoder of a part accepts just the values of a form, and the forms are
built up as the decoders are: null or a text, an array of endpoints, a key that must be given or may
be left out. A packet is accepted if each of its keys has its form; one entry of the batch without a
name, wherever it stands, is enough to reject it.
-/
namespace ServicePlacement.Json

/-! ### Forms of values -/

/-- An object that has no key twice, as every object has in a value that was read from a text. -/
def IsRecord (v : Json) : Prop := ∃ fields, v = .object fields ∧ (fields.map Prod.fst).Nodup

def text? : Json → Option String
  | string s => some s
  | _ => none

def IsText (v : Json) : Prop := ∃ s, v = .string s

def IsFlag (v : Json) : Prop := ∃ b, v = .bool b

def IsNullOr (form : Json → Prop) (v : Json) : Prop := v = .null ∨ form v

def IsArrayOf (form : Json → Prop) (v : Json) : Prop :=
  ∃ items, v = .array items ∧ ∀ x ∈ items, form x

def Gives (v : Json) (key : String) (form : Json → Prop) : Prop :=
  ∃ x, v.field? key = some x ∧ form x

def MayGive (v : Json) (key : String) (form : Json → Prop) : Prop :=
  ∀ x, v.field? key = some x → form x

/-! ### Lists of decoded parts -/

section

variable {α β : Type} {f : α → Option β} {l : List α} {out : List β}

theorem isSome_bind_iff {g : α → Option β} {o : Option α} {p : Prop} (h : ∀ a, (g a).isSome ↔ p) :
    (o.bind g).isSome ↔ o.isSome ∧ p := by
  cases o <;> simp [h]

theorem isSome_mapM_iff : (l.mapM f).isSome ↔ ∀ a ∈ l, (f a).isSome := by
  induction l with
  | nil => simp
  | cons a rest ih =>
    rw [List.mapM_cons, List.forall_mem_cons, ← ih]
    cases f a <;> cases rest.mapM f <;> simp

theorem mapM_eq_map {g : α → β} (hg : ∀ a ∈ l, ∀ b, f a = some b → b = g a)
    (h : l.mapM f = some out) : out = l.map g := by
  induction l generalizing out with
  | nil => exact (Option.some.inj h).symm
  | cons a rest ih =>
    obtain ⟨ha, hrest⟩ := List.forall_mem_cons.mp hg
    rw [List.mapM_cons] at h
    obtain ⟨b, hb, outs, houts, hout⟩ :
        ∃ b, f a = some b ∧ ∃ outs, rest.mapM f = some outs ∧ b :: outs = out := by
      simpa [Option.bind_eq_some_iff] using h
    rw [← hout, ha b hb, ih hrest houts, List.map_cons]

end

/-! ### What the decoders accept -/

section

variable {α : Type} {decode : Tree → Option α} {form : Json → Prop}

def Accepts (decode : Tree → Option α) (form : Json → Prop) : Prop :=
  ∀ v : Json, (decode v.tree).isSome ↔ form v

theorem text?_tree (v : Json) : v.tree.text? = v.text? := by
  cases v <;> rfl

theorem accepts_text : Accepts Tree.text? IsText := by
  intro v
  cases v <;> simp [tree, Tree.text?, IsText]

theorem accepts_flag : Accepts Tree.flag? IsFlag := by
  intro v
  cases v <;> simp [tree, Tree.flag?, IsFlag]

theorem accepts_optional (h : Accepts decode form) :
    Accepts (Tree.optional? decode) (IsNullOr form) := by
  intro v
  unfold IsNullOr
  rw [← h v]
  cases v <;> simp [tree, Tree.optional?]

theorem list?_tree (items : List Json) :
    Tree.list? decode (array items).tree = items.mapM fun x => decode x.tree := by
  rw [tree, treeItems_eq_map, Tree.list?, List.mapM_map]
  rfl

theorem accepts_list (h : Accepts decode form) :
    Accepts (Tree.list? decode) (IsArrayOf form) := by
  intro v
  cases v with
  | array items =>
    rw [list?_tree, isSome_mapM_iff]
    simp [IsArrayOf, h _]
  | _ => simp [tree, Tree.list?, IsArrayOf]

/-! ### Keys of a record -/

variable {fields : List (String × Json)}

/-- Where no key is there twice, it does not matter from which end it is looked for. -/
theorem find?_recordOf (hkeys : (fields.map Prod.fst).Nodup) (key : String) :
    (recordOf fields).find? key = ((object fields).field? key).map tree := by
  have hreverse : (fields.reverse.map Prod.fst).Nodup := by
    rw [List.map_reverse, List.nodup_reverse]
    exact hkeys
  have hsame : (fields.reverse.find? fun f => f.1 == key) = fields.find? fun f => f.1 == key := by
    refine Option.ext fun f => ?_
    rw [find?_key_eq_some_iff hreverse, find?_key_eq_some_iff hkeys, List.mem_reverse]
  have hfield : (object fields).field? key =
      (fields.reverse.find? fun f => f.1 == key).map Prod.snd := rfl
  rw [find?_recordOf_eq_map, hfield, hsame, Option.map_map]
  rfl

theorem isSome_required_iff (hkeys : (fields.map Prod.fst).Nodup) (key : String)
    (h : Accepts decode form) :
    ((recordOf fields).required key decode).isSome ↔ (object fields).Gives key form := by
  rw [Record.required, find?_recordOf hkeys]
  unfold Gives
  cases (object fields).field? key <;> simp [h _]

theorem isSome_withDefault_iff (hkeys : (fields.map Prod.fst).Nodup) (key : String) (default : α)
    (h : Accepts decode form) :
    ((recordOf fields).withDefault key default decode).isSome ↔
      (object fields).MayGive key form := by
  rw [Record.withDefault, find?_recordOf hkeys]
  unfold MayGive
  cases (object fields).field? key <;> simp [h _]

theorem isSome_optional_iff (hkeys : (fields.map Prod.fst).Nodup) (key : String)
    (h : Accepts decode form) :
    ((recordOf fields).optional key decode).isSome ↔
      (object fields).MayGive key (IsNullOr form) :=
  isSome_withDefault_iff hkeys key none (accepts_optional h)

theorem required_text (hkeys : (fields.map Prod.fst).Nodup) (key : String) :
    (recordOf fields).required key Tree.text? = ((object fields).field? key).bind text? := by
  rw [Record.required, find?_recordOf hkeys, Option.bind_map]
  exact congrArg _ (funext text?_tree)

theorem optional_text_eq (hkeys : (fields.map Prod.fst).Nodup) {key : String} {s : Option String}
    (h : (recordOf fields).optional key Tree.text? = some s) :
    ((object fields).field? key).bind text? = s := by
  rw [Record.optional, Record.withDefault, find?_recordOf hkeys] at h
  cases hfield : (object fields).field? key with
  | none =>
    rw [hfield] at h
    exact Option.some.inj h
  | some x =>
    rw [hfield] at h
    cases x <;> simp_all [tree, Tree.optional?, Tree.text?, text?]

end

end ServicePlacement.Json

namespace ServicePlacement.CreateRequest

open Json (Tree Record recordOf)

/-! ### The entries of a batch -/

structure IsEntry (e : Json) : Prop where
  name : e.Gives "NAME" Json.IsText
  state : e.MayGive "STATE" (Json.IsNullOr Json.IsText)

def entryName? (e : Json) : Option ServiceName := (e.field? "NAME").bind Json.text?

def entryState (e : Json) : String := ((e.field? "STATE").bind Json.text?).getD ""

theorem entryOfTree?_tree_object {fields : List (String × Json)}
    (hkeys : (fields.map Prod.fst).Nodup) :
    entryOfTree? (Json.object fields).tree =
      ((recordOf fields).required "NAME" Tree.text?).bind fun name =>
        ((recordOf fields).optional "STATE" Tree.text?).bind fun state =>
          some (name, state.getD "") := by
  unfold entryOfTree?
  rw [Json.record?_tree_recordOf _ _ hkeys]
  rfl

theorem isSome_entryOfTree?_iff {e : Json} (h : e.IsRecord) :
    (entryOfTree? e.tree).isSome ↔ IsEntry e := by
  obtain ⟨fields, rfl, hkeys⟩ := h
  rw [entryOfTree?_tree_object hkeys,
    Json.isSome_bind_iff fun _ => Json.isSome_bind_iff fun _ => Iff.of_eq (eq_true rfl),
    Json.isSome_required_iff hkeys _ Json.accepts_text,
    Json.isSome_optional_iff hkeys _ Json.accepts_text]
  exact ⟨fun ⟨hname, hstate, _⟩ => ⟨hname, hstate⟩, fun h => ⟨h.name, h.state, trivial⟩⟩

/-- An entry that is accepted says which name it is for and what its state is. -/
theorem entry_eq {e : Json} (h : e.IsRecord) {entry : ServiceName × String}
    (hentry : entryOfTree? e.tree = some entry) :
    entryName? e = some entry.1 ∧ entryState e = entry.2 := by
  obtain ⟨fields, rfl, hkeys⟩ := h
  rw [entryOfTree?_tree_object hkeys, Option.bind_eq_some_iff] at hentry
  obtain ⟨name, hname, hrest⟩ := hentry
  obtain ⟨state, hstate, hpair⟩ := Option.bind_eq_some_iff.mp hrest
  rw [← Option.some.inj hpair]
  rw [Json.required_text hkeys] at hname
  have htext := Json.optional_text_eq hkeys hstate
  exact ⟨hname, congrArg (Option.getD · "") htext⟩

/-- The entries of a batch that is accepted. -/
theorem entries_eq_map {batch : List Json} (hrecords : ∀ e ∈ batch, e.IsRecord)
    {entries : List (ServiceName × String)}
    (h : (batch.mapM fun e => entryOfTree? e.tree) = some entries) :
    (∀ e ∈ batch, (entryName? e).isSome) ∧
      entries = batch.map fun e => ((entryName? e).getD "", entryState e) := by
  have haccepted := Json.isSome_mapM_iff.mp (Option.isSome_of_eq_some h)
  constructor
  · intro e he
    obtain ⟨entry, hentry⟩ := Option.isSome_iff_exists.mp (haccepted e he)
    rw [(entry_eq (hrecords e he) hentry).1]
    rfl
  · refine Json.mapM_eq_map (fun e he entry hentry => ?_) h
    obtain ⟨hname, hstate⟩ := entry_eq (hrecords e he) hentry
    rw [hname, hstate]
    rfl

/-- The map of the entries has the names that occur among them, with their last states. -/
theorem get?_ofList_map {batch : List Json} (hnames : ∀ e ∈ batch, (entryName? e).isSome)
    (name : ServiceName) :
    (SortedMap.ofList (batch.map fun e => ((entryName? e).getD "", entryState e))).get? name =
      (batch.filter fun e => entryName? e = some name).getLast?.map entryState := by
  have hfilter : (batch.filter fun e => (entryName? e).getD "" = name) =
      batch.filter fun e => entryName? e = some name := by
    refine List.filter_congr fun e he => ?_
    obtain ⟨own, hown⟩ := Option.isSome_iff_exists.mp (hnames e he)
    rw [hown]
    exact decide_eq_decide.mpr Option.some_inj.symm
  rw [SortedMap.get?_ofList, List.filter_map, List.getLast?_map, Option.map_map, ← hfilter]
  rfl

/-! ### The keys of a packet -/

def IsPolicy (v : Json) : Prop :=
  ∃ p : Policy, v = .string p.text ∨ v = .object [(p.text, .null)]

def IsEndpoint (v : Json) : Prop := ∃ s, v = .string s ∧ (Endpoint.parse? s).isSome

structure WellFormedApart (v : Json) : Prop where
  name : v.Gives "NAME" Json.IsText
  state : v.MayGive "STATE" (Json.IsNullOr Json.IsText)
  failed : v.MayGive "FAILED_CREATES" (Json.IsArrayOf Json.IsText)
  initGroup : v.MayGive "INIT_GROUP" (Json.IsNullOr (Json.IsArrayOf IsEndpoint))
  policy : v.Gives "RECONFIGURE_UPON_ACTIVES_CHANGE" IsPolicy
  sender : v.MayGive "SENDER" (Json.IsNullOr IsEndpoint)
  isAnswer : v.MayGive "IS_RESPONSE" Json.IsFlag

theorem accepts_endpoint : Json.Accepts endpointOfTree? IsEndpoint := by
  intro v
  unfold endpointOfTree? IsEndpoint
  rw [Json.text?_tree]
  cases v <;> simp [Json.text?]

theorem isSome_ofText?_iff {s : String} : (Policy.ofText? s).isSome ↔ ∃ p : Policy, s = p.text := by
  constructor
  · unfold Policy.ofText?
    split
    · exact fun _ => ⟨.standard, rfl⟩
    · exact fun _ => ⟨.replicateAll, rfl⟩
    · rintro ⟨⟩
  · rintro ⟨p, rfl⟩
    rw [Policy.ofText?_text]
    rfl

theorem isEmptyPayload_tree_iff {v : Json} :
    Json.Dialect.json.isEmptyPayload v.tree = true ↔ v = .null := by
  cases v <;> simp [Json.tree, Json.Dialect.json]

theorem accepts_policy :
    Json.Accepts (fun t => (t.name? .json).bind Policy.ofText?) IsPolicy := by
  intro v
  change ((v.tree.name? .json).bind Policy.ofText?).isSome ↔ IsPolicy v
  unfold IsPolicy
  cases v with
  | string s => simpa [Json.tree, Tree.name?] using isSome_ofText?_iff
  | object fields =>
    match fields with
    | [(key, payload)] =>
      have hname : (Json.object [(key, payload)]).tree.name? .json =
          if Json.Dialect.json.isEmptyPayload payload.tree then some key else none := rfl
      have hpolicy : (∃ p : Policy, Json.object [(key, payload)] = .string p.text ∨
          Json.object [(key, payload)] = .object [(p.text, .null)]) ↔
            payload = .null ∧ ∃ p : Policy, key = p.text := by
        simp [and_comm]
      rw [hname, hpolicy, ← isEmptyPayload_tree_iff]
      cases Json.Dialect.json.isEmptyPayload payload.tree
      · simp
      · simpa using isSome_ofText?_iff
    | [] => simp [Json.tree, Json.treeFields, Tree.name?]
    | _ :: _ :: _ => simp [Json.tree, Json.treeFields, Tree.name?]
  | _ => simp [Json.tree, Tree.name?]

section

variable {fields : List (String × Json)} (hkeys : (fields.map Prod.fst).Nodup)

include hkeys

/-- A packet is accepted if its keys have their forms and the entries of its batch are read. -/
theorem isSome_ofJson?_object_iff :
    (ofJson? (.object fields)).isSome ↔ WellFormedApart (.object fields) ∧
      ((recordOf fields).withDefault "NAME_STATE_ARRAY" [] (Tree.list? entryOfTree?)).isSome := by
  unfold ofJson? ofTree?
  rw [Json.record?_tree_recordOf _ _ hkeys]
  simp only [Option.bind_eq_bind, Option.bind_some]
  -- The parts are read one after the other, and none of them changes what another one accepts.
  rw [Json.isSome_bind_iff fun _ => Json.isSome_bind_iff fun _ => Json.isSome_bind_iff fun _ =>
    Json.isSome_bind_iff fun _ => Json.isSome_bind_iff fun _ => Json.isSome_bind_iff fun _ =>
    Json.isSome_bind_iff fun _ => Json.isSome_bind_iff fun _ => Iff.of_eq (eq_true rfl)]
  rw [Json.isSome_required_iff hkeys _ Json.accepts_text,
    Json.isSome_optional_iff hkeys _ Json.accepts_text,
    Json.isSome_withDefault_iff hkeys _ _ (Json.accepts_list Json.accepts_text),
    Json.isSome_optional_iff hkeys _ (Json.accepts_list accepts_endpoint),
    Json.isSome_required_iff hkeys _ accepts_policy,
    Json.isSome_optional_iff hkeys _ accepts_endpoint,
    Json.isSome_withDefault_iff hkeys _ _ Json.accepts_flag]
  constructor
  · rintro ⟨hname, hstate, hentries, hfailed, hgroup, hpolicy, hsender, hanswer, -⟩
    exact ⟨⟨hname, hstate, hfailed, hgroup, hpolicy, hsender, hanswer⟩, hentries⟩
  · rintro ⟨⟨hname, hstate, hfailed, hgroup, hpolicy, hsender, hanswer⟩, hentries⟩
    exact ⟨hname, hstate, hentries, hfailed, hgroup, hpolicy, hsender, hanswer, trivial⟩

theorem states_of_ofJson?_object {r : CreateRequest} (h : ofJson? (.object fields) = some r) :
    ∃ entries, (recordOf fields).withDefault "NAME_STATE_ARRAY" [] (Tree.list? entryOfTree?) =
      some entries ∧ r.states = .ofList entries := by
  unfold ofJson? ofTree? at h
  rw [Json.record?_tree_recordOf _ _ hkeys] at h
  simp only [Option.bind_eq_bind, Option.bind_some, Option.bind_eq_some_iff] at h
  obtain ⟨_, -, _, -, entries, hentries, _, -, _, -, _, -, _, -, _, -, hr⟩ := h
  rw [← Option.some.inj hr]
  exact ⟨entries, hentries, rfl⟩

/-- A batch that is left out has no entries. -/
theorem withDefault_entries {batch : Option (List Json)}
    (hbatch : (Json.object fields).field? "NAME_STATE_ARRAY" = batch.map .array) :
    (recordOf fields).withDefault "NAME_STATE_ARRAY" [] (Tree.list? entryOfTree?) =
      (batch.getD []).mapM fun e => entryOfTree? e.tree := by
  rw [Record.withDefault, Json.find?_recordOf hkeys, hbatch]
  cases batch with
  | none => rfl
  | some items => exact Json.list?_tree items

end

/-- A packet whose entries are objects is accepted exactly if all its other keys have their forms
and every entry, wherever it stands, gives a name that is a text and no state that is neither a text
nor null. The names of the request that is read are those that occur, each with the state of its
last entry; without entries the request is no batch. -/
theorem packet_accepted_iff_entries (v : Json) (batch : Option (List Json)) (hv : v.IsRecord)
    (hbatch : v.field? "NAME_STATE_ARRAY" = batch.map .array)
    (hrecords : ∀ e ∈ batch.getD [], e.IsRecord) :
    ((ofJson? v).isSome ↔ WellFormedApart v ∧ ∀ e ∈ batch.getD [], IsEntry e) ∧
      ∀ r, ofJson? v = some r →
        (∀ name, r.states.get? name =
          ((batch.getD []).filter fun e => entryName? e = some name).getLast?.map entryState) ∧
        (r.isBatch = true ↔ batch.getD [] ≠ []) := by
  obtain ⟨fields, rfl, hkeys⟩ := hv
  have hread := withDefault_entries hkeys hbatch
  constructor
  · rw [isSome_ofJson?_object_iff hkeys, hread, Json.isSome_mapM_iff]
    exact and_congr_right fun _ =>
      forall₂_congr fun e he => isSome_entryOfTree?_iff (hrecords e he)
  · intro r hr
    obtain ⟨entries, hentries, hstates⟩ := states_of_ofJson?_object hkeys hr
    obtain ⟨hnames, rfl⟩ := entries_eq_map hrecords (hread.symm.trans hentries)
    constructor
    · intro name
      rw [hstates, get?_ofList_map hnames]
    · unfold isBatch
      rw [hstates, Bool.not_eq_true', ← Bool.not_eq_true, ne_eq, SortedMap.isEmpty_ofList_iff,
        List.map_eq_nil_iff]

def packetOf (entries : List Json) : Json :=
  .object [("NAME", .string "z"), ("NOTE", .bool true), ("NAME_STATE_ARRAY", .array entries),
    ("RECONFIGURE_UPON_ACTIVES_CHANGE", .string "DEFAULT")]

theorem isRecord_packetOf (entries : List Json) : (packetOf entries).IsRecord :=
  ⟨_, rfl, by simp⟩

theorem wellFormedApart_packetOf (entries : List Json) : WellFormedApart (packetOf entries) where
  name := ⟨.string "z", rfl, "z", rfl⟩
  state := by rintro x ⟨⟩
  failed := by rintro x ⟨⟩
  initGroup := by rintro x ⟨⟩
  policy := ⟨.string "DEFAULT", rfl, .standard, .inl rfl⟩
  sender := by rintro x ⟨⟩
  isAnswer := by rintro x ⟨⟩

def mixedEntries : List Json :=
  [.object [("NAME", .string "a")],
    .object [("STATE", .null), ("NAME", .string "b"), ("NOTE", .array [])],
    .object [("NAME", .string "a"), ("STATE", .string "2")]]

def namelessEntry : Json := .object [("STATE", .string "3")]

theorem isRecord_of_mem_mixedEntries : ∀ e ∈ namelessEntry :: mixedEntries, e.IsRecord := by
  simp [mixedEntries, namelessEntry, Json.IsRecord]

theorem isEntry_of_mem_mixedEntries : ∀ e ∈ mixedEntries, IsEntry e := by
  simp only [mixedEntries, List.forall_mem_cons, List.not_mem_nil, false_implies, implies_true,
    and_true]
  refine ⟨⟨⟨_, rfl, _, rfl⟩, ?_⟩, ⟨⟨_, rfl, _, rfl⟩, ?_⟩, ⟨⟨_, rfl, _, rfl⟩, ?_⟩⟩
  · rintro x ⟨⟩
  · rintro x ⟨⟩
    exact .inl rfl
  · rintro x ⟨⟩
    exact .inr ⟨"2", rfl⟩

/-- The mixed entries are accepted, but not with an entry beside them that has no name. -/
theorem packet_accepted_iff_entries_mixed :
    (∃ r, ofJson? (packetOf mixedEntries) = some r ∧ r.isBatch = true ∧
      r.states.get? "a" = some "2" ∧ r.states.get? "b" = some "" ∧ r.states.get? "z" = none) ∧
    ofJson? (packetOf (namelessEntry :: mixedEntries)) = none := by
  obtain ⟨haccepted, hstates⟩ := packet_accepted_iff_entries (packetOf mixedEntries)
    (some mixedEntries) (isRecord_packetOf _) rfl
    fun e he => isRecord_of_mem_mixedEntries e (List.mem_cons_of_mem _ he)
  obtain ⟨hrejected, -⟩ := packet_accepted_iff_entries (packetOf (namelessEntry :: mixedEntries))
    (some (namelessEntry :: mixedEntries)) (isRecord_packetOf _) rfl isRecord_of_mem_mixedEntries
  constructor
  · obtain ⟨r, hr⟩ := Option.isSome_iff_exists.mp
      (haccepted.mpr ⟨wellFormedApart_packetOf _, isEntry_of_mem_mixedEntries⟩)
    obtain ⟨hget, hbatch⟩ := hstates r hr
    refine ⟨r, hr, hbatch.mpr (List.cons_ne_nil _ _), ?_, ?_, ?_⟩
    · rw [hget]
      rfl
    · rw [hget]
      rfl
    · rw [hget]
      rfl
  · rw [← Option.not_isSome_iff_eq_none, hrejected]
    rintro ⟨-, hentries⟩
    obtain ⟨x, hx, -⟩ := (hentries namelessEntry List.mem_cons_self).name
    cases hx

end ServicePlacement.CreateRequest
