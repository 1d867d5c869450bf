import ServicePlacement.Hosting.Host
import ServicePlacement.Proofs.JsonCanonical

/-!
An operation is read back from its JSON text. The text is an object, so it is never the text that is
reserved for doing nothing, not even for an operation that asks for nothing else. A service that is
left out is read as no service, and the number of a kind as the kind.
-/
namespace ServicePlacement.Operation

open Json (Tree Record)

/-- A word of half the length is read back. -/
theorem word32?_tree_word (n : UInt32) : (Json.word n.toUInt64).tree.word32? = some n := by
  have hn : n.toUInt64.toNat < 4294967296 := by
    rw [UInt32.toNat_toUInt64]
    exact n.toNat_lt
  show (if n.toUInt64.toNat < 4294967296 then some (UInt32.ofNat n.toUInt64.toNat) else none) = _
  rw [if_pos hn, UInt32.toNat_toUInt64, UInt32.ofNat_toNat]

/-- What holds of the values that operations are made of holds of every field. -/
theorem forall_mem_fields {P : Json → Prop} (text : ∀ s, P (.string s)) (word : ∀ n, P (.word n))
    (flag : ∀ b, P (.bool b)) (o : Operation) : ∀ f ∈ o.fields, P f.2 := by
  have hown : ∀ f ∈ [("EPOCH", Json.word o.epoch.toUInt64), ("QID", .word o.id),
      ("VALUE", .string o.value), ("TYPE", .word o.kind.id.toUInt64), ("IS_STOP", .bool o.isStop)],
      P f.2 := by
    simp [text, word, flag]
  unfold fields
  cases o.service with
  | none => exact hown
  | some s => exact List.forall_mem_cons.mpr ⟨text s, hown⟩

/-- The fields of an operation are read as the operation, whether it has a service or not. -/
theorem ofTree?_tree_object (o : Operation) : ofTree? (Json.object o.fields).tree = some o := by
  have htext (s : String) : Tree.text? (Json.string s).tree = some s := rfl
  have hname (s : String) : Tree.optional? Tree.text? (Json.string s).tree = some (some s) := rfl
  have hflag (b : Bool) : Tree.flag? (Json.bool b).tree = some b := rfl
  have hmissing : Record.find? ⟨[], false⟩ "NAME" = none := rfl
  obtain ⟨service, epoch, id, value, kind, isStop⟩ := o
  unfold ofTree? fields
  rw [Json.record?_tree_object]
  · cases service with
    | none =>
      simp [Record.optional, Record.required, Record.withDefault, hmissing, word32?_tree_word,
        htext, hflag, Kind.ofId?_id]
    | some s =>
      simp [Record.optional, Record.required, Record.withDefault, hname, word32?_tree_word, htext,
        hflag, Kind.ofId?_id]
  · cases service <;> simp

theorem render_ne_noopText (o : Operation) : o.render ≠ noopText := by
  intro h
  have hbrace : o.render.toList.head? = some '{' := by
    unfold render Json.render
    rw [String.toList_ofList]
    rfl
  rw [h] at hbrace
  exact absurd hbrace (by decide)

theorem parse?_render (o : Operation) : parse? o.render = some o := by
  have hwords : (Json.object o.fields).onlyWords = true := by
    rw [Json.onlyWords, Json.fieldsOnlyWords_iff]
    exact forall_mem_fields (P := fun v => v.onlyWords = true) (fun _ => rfl) (fun _ => rfl)
      (fun _ => rfl) o
  unfold parse?
  rw [if_neg o.render_ne_noopText, Tree.parse?, render, Json.parseRounding?_render _ _ hwords]
  exact ofTree?_tree_object o

/-- Writing an operation and reading the text makes no difference: the text is not the reserved one,
and what is read is the operation, so it is one that does nothing just when it was before, it is for
the same service, and every host executes it in the same way. -/
theorem written_reads_back (o : Operation) :
    o.render ≠ noopText ∧ parse? o.render = some o ∧
      ∃ read, parse? o.render = some read ∧ read.isNoop = o.isNoop ∧ read.service = o.service ∧
        ∀ h : Host, h.execute read = h.execute o :=
  ⟨o.render_ne_noopText, o.parse?_render, o, o.parse?_render, rfl, rfl, fun _ => rfl⟩

example : (parse? (render { noop with kind := .other })).map isNoop = some true := by decide +kernel

end ServicePlacement.Operation
