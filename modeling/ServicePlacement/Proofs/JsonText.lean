import ServicePlacement.Json.Printer
import ServicePlacement.Json.Tree

/-!
JSON text is read back as the tree of the value that was written. First the text is cut into tokens
again (`Lexes`), which takes a string literal apart character by character. Then the reading machine
meets the tokens of each part of a value with what was open before the part (`foldlM_written`).
Doubles are left out: their digits are another matter.
-/
namespace ServicePlacement.Json

/-! ### String literals -/

/-- A character is written in one of three ways: as itself, after a backslash, or by its number. -/
theorem escape_cases (c : Char) :
    (∃ e, e ≠ 'u' ∧ simpleEscape? e = some c ∧ escape c = ['\\', e]) ∨
      (c.toNat < 0x20 ∧ escape c = '\\' :: 'u' :: Text.toHex4 c.toNat) ∨
      (¬ c.toNat < 0x20 ∧ c ≠ '"' ∧ c ≠ '\\' ∧ escape c = [c]) := by
  unfold escape
  simp only [beq_iff_eq]
  split
  · rename_i h
    exact .inl ⟨'"', by decide, by rw [h]; rfl, rfl⟩
  split
  · rename_i h
    exact .inl ⟨'\\', by decide, by rw [h]; rfl, rfl⟩
  split
  · rename_i h
    exact .inl ⟨'b', by decide, by rw [h]; rfl, rfl⟩
  split
  · rename_i h
    exact .inl ⟨'f', by decide, by rw [h]; rfl, rfl⟩
  split
  · rename_i h
    exact .inl ⟨'n', by decide, by rw [h]; rfl, rfl⟩
  split
  · rename_i h
    exact .inl ⟨'r', by decide, by rw [h]; rfl, rfl⟩
  split
  · rename_i h
    exact .inl ⟨'t', by decide, by rw [h]; rfl, rfl⟩
  split
  · rename_i h
    exact .inr (.inl ⟨h, rfl⟩)
  · rename_i hquote hbackslash _ _ _ _ _ h
    exact .inr (.inr ⟨h, hquote, hbackslash, rfl⟩)

theorem readPieces_simpleEscape {e c : Char} (he : e ≠ 'u') (hc : simpleEscape? e = some c)
    (rest : List Char) :
    readPieces ('\\' :: e :: rest) = (readPieces rest).map fun r => (.char c :: r.1, r.2) := by
  rw [readPieces, hc]
  · cases readPieces rest <;> rfl
  · intro a b c d rest' hu
    exact absurd hu he

theorem readPieces_plain {c : Char} (hspace : ¬ c.toNat < 0x20) (hquote : c ≠ '"')
    (hbackslash : c ≠ '\\') (rest : List Char) :
    readPieces (c :: rest) = (readPieces rest).map fun r => (.char c :: r.1, r.2) := by
  have hkept : (decide (c.toNat < 0x20) || c == '\\') = false := by simp [hspace, hbackslash]
  rw [readPieces, hkept]
  · cases readPieces rest <;> rfl
  · exact hquote
  · intro a b c' d rest' hc
    exact absurd hc hbackslash
  · intro e rest' hc
    exact absurd hc hbackslash

theorem readPieces_unit {n : Nat} (hn : n < 0x20) (rest : List Char) :
    readPieces ('\\' :: 'u' :: (Text.toHex4 n ++ rest)) =
      (readPieces rest).map fun r => (.unit n :: r.1, r.2) := by
  have hdigits : ∀ n < 0x20, Text.ofDigits? 16 (Text.toHex4 n) = some n := by decide
  have hnumber := hdigits n hn
  simp only [Text.toHex4, List.map_cons, List.map_nil, List.cons_append, List.nil_append]
    at hnumber ⊢
  rw [readPieces, hnumber]
  cases readPieces rest <;> rfl

theorem assemble_unit {n : Nat} (hn : n < 0x20) (pieces : List Piece) :
    assemble (.unit n :: pieces) = (assemble pieces).map (Char.ofNat n :: ·) := by
  have hhigh : isHighSurrogate n = false := by simp [isHighSurrogate]; omega
  have hlow : isLowSurrogate n = false := by simp [isLowSurrogate]; omega
  rw [assemble.eq_def]
  simp only [hhigh, hlow]
  rfl

/-- A written character is one part of the literal, which stands for the character. -/
theorem exists_piece_escape (c : Char) : ∃ p : Piece,
    (∀ rest, readPieces (escape c ++ rest) =
      (readPieces rest).map fun r => (p :: r.1, r.2)) ∧
    ∀ pieces, assemble (p :: pieces) = (assemble pieces).map (c :: ·) := by
  rcases escape_cases c with ⟨e, he, hc, hescape⟩ | ⟨hcontrol, hescape⟩ |
    ⟨hspace, hquote, hbackslash, hescape⟩
  · rw [hescape]
    exact ⟨.char c, readPieces_simpleEscape he hc, fun _ => rfl⟩
  · rw [hescape]
    refine ⟨.unit c.toNat, readPieces_unit hcontrol, fun pieces => ?_⟩
    rw [assemble_unit hcontrol, Char.ofNat_toNat]
  · rw [hescape]
    exact ⟨.char c, readPieces_plain hspace hquote hbackslash, fun _ => rfl⟩

/-- A string literal is read back, and its parts stand for the text. -/
theorem readPieces_escape (cs rest : List Char) : ∃ pieces,
    readPieces (cs.flatMap escape ++ '"' :: rest) = some (pieces, rest) ∧
      assemble pieces = some cs := by
  induction cs with
  | nil => exact ⟨[], by rw [List.flatMap_nil, List.nil_append, readPieces], rfl⟩
  | cons c cs ih =>
    obtain ⟨pieces, hread, hassemble⟩ := ih
    obtain ⟨p, hpiece, hstands⟩ := exists_piece_escape c
    refine ⟨p :: pieces, ?_, ?_⟩
    · rw [List.flatMap_cons, List.append_assoc, hpiece, hread]
      rfl
    · rw [hstands, hassemble]
      rfl

/-! ### Words -/

def EndsNumber (rest : List Char) : Prop :=
  Text.EndsDigits 10 rest ∧ ∀ c ∈ rest.head?, c ≠ '.' ∧ c ≠ 'e' ∧ c ≠ 'E'

theorem endsNumber_nil : EndsNumber [] :=
  ⟨Text.endsDigits_nil, fun _ h => by cases h⟩

theorem spanDigits_toDecimal (n : Nat) {rest : List Char} (hrest : EndsNumber rest) :
    spanDigits (Text.toDecimal n ++ rest) = (Text.toDecimal n, rest) := by
  have hdigit : Text.isDigit = Text.isDigitOf 10 := funext Text.isDigit_eq
  unfold spanDigits Text.toDecimal
  rw [hdigit, Text.takeWhile_toDigits_append (by decide) (by decide) n hrest.1,
    Text.dropWhile_toDigits_append (by decide) (by decide) n hrest.1]

theorem readWhole_toDecimal (n : Nat) {rest : List Char} (hrest : EndsNumber rest) :
    readWhole (Text.toDecimal n ++ rest) = some (Text.toDecimal n, rest) := by
  unfold readWhole
  rw [spanDigits_toDecimal n hrest]
  split
  · rename_i h
    exact absurd (congrArg Prod.fst h) Nat.toDigits_ne_nil
  · rename_i c cs _ h
    exact absurd (congrArg Prod.fst h) (Text.toDecimal_ne_zero_cons n c cs)
  · rfl

theorem readFraction_of_ends {rest : List Char} (hrest : EndsNumber rest) :
    readFraction rest = some ([], rest) := by
  unfold readFraction
  split
  · exact absurd rfl (hrest.2 '.' rfl).1
  · rfl

theorem readExponent_of_ends {rest : List Char} (hrest : EndsNumber rest) :
    readExponent rest = some (none, rest) := by
  cases rest with
  | nil => rfl
  | cons c rest =>
    obtain ⟨-, hlower, hupper⟩ := hrest.2 c rfl
    simp [readExponent, hlower, hupper]

theorem readNumber_toDecimal (rounding : Decimal.Rounding) (n : UInt64) {rest : List Char}
    (hrest : EndsNumber rest) :
    readNumber rounding (Text.toDecimal n.toNat ++ rest) = some (.word n, rest) := by
  have hdigits : Text.ofDigits? 10 (Text.toDecimal n.toNat) = some n.toNat :=
    Text.ofDigits?_toDigits (by decide) (by decide) n.toNat
  have hlt : n.toNat < 18446744073709551616 := n.toNat_lt
  obtain ⟨d, ds, hcons, hd⟩ := Text.exists_toDecimal_cons n.toNat
  have hminus : d ≠ '-' := by
    rintro rfl
    exact absurd hd (by decide)
  have hwhole := readWhole_toDecimal n.toNat hrest
  unfold readNumber
  split
  rename_i negative cs hsign
  split at hsign
  · rename_i tail hdash
    rw [hcons] at hdash
    exact absurd (List.cons_eq_cons.mp hdash).1 hminus
  · cases hsign
    simp [hwhole, readFraction_of_ends hrest, readExponent_of_ends hrest, hdigits, wholeNumber, hlt]

/-! ### Tokens -/

def mark? : Char → Option Token
  | '[' => some .openArray
  | ']' => some .closeArray
  | '{' => some .openObject
  | '}' => some .closeObject
  | ',' => some .comma
  | ':' => some .colon
  | _ => none

theorem tokensUpTo_mark (rounding : Decimal.Rounding) {c : Char} {t : Token}
    (h : mark? c = some t) (bound : Nat) (rest : List Char) :
    tokensUpTo rounding (bound + 1) (c :: rest) =
      (tokensUpTo rounding bound rest).map (t :: ·) := by
  unfold mark? at h
  split at h <;> cases h <;> rfl

theorem tokensUpTo_digit (rounding : Decimal.Rounding) {c : Char} (h : Text.isDigitOf 10 c = true)
    (bound : Nat) (rest : List Char) :
    tokensUpTo rounding (bound + 1) (c :: rest) =
      (readNumber rounding (c :: rest)).bind fun r =>
        (tokensUpTo rounding bound r.2).map (.scalar (.number r.1) :: ·) := by
  have hne (d : Char) (hd : Text.isDigitOf 10 d = false) : (c == d) = false := by
    refine beq_eq_false_iff_ne.mpr ?_
    rintro rfl
    exact absurd h (by rw [hd]; decide)
  have hspace : isSpace c = false := by
    unfold isSpace
    rw [hne ' ' rfl, hne '\n' rfl, hne '\t' rfl, hne '\r' rfl]
    rfl
  rw [tokensUpTo.eq_def]
  simp only [hspace, Bool.false_eq_true, if_false]
  split
  case h_11 => rfl
  all_goals exact absurd h (by decide)

theorem endsNumber_mark {c : Char} {t : Token} (h : mark? c = some t) (rest : List Char) :
    EndsNumber (c :: rest) := by
  unfold mark? at h
  split at h
  case h_7 => cases h
  all_goals
    refine ⟨Text.endsDigits_cons (by decide), fun c hc => ?_⟩
    cases hc
    decide

/-- The characters are cut into the tokens, whatever comes after them. Each token takes one from the
bound, which suffices since there are no more tokens than characters. -/
structure Lexes (rounding : Decimal.Rounding) (cs : List Char) (ts : List Token) : Prop where
  length_le : ts.length ≤ cs.length
  reads : ∀ bound rest, EndsNumber rest →
    tokensUpTo rounding (bound + ts.length) (cs ++ rest) =
      (tokensUpTo rounding bound rest).map (ts ++ ·)

section

variable {rounding : Decimal.Rounding} {c : Char} {t : Token} {cs cs' : List Char}
  {ts ts' : List Token}

theorem Lexes.nil : Lexes rounding [] [] :=
  ⟨Nat.le_refl 0, fun bound rest _ => by simp⟩

theorem Lexes.mark (h : mark? c = some t) (hcs : Lexes rounding cs ts) :
    Lexes rounding (c :: cs) (t :: ts) where
  length_le := Nat.succ_le_succ hcs.length_le
  reads bound rest hrest := by
    have hmark := tokensUpTo_mark rounding h (bound + ts.length) (cs ++ rest)
    rw [hcs.reads bound rest hrest, Option.map_map] at hmark
    exact hmark

/-- A mark ends a number, so it may stand behind anything. -/
theorem Lexes.append_mark (hcs : Lexes rounding cs ts) (h : mark? c = some t)
    (hcs' : Lexes rounding cs' ts') : Lexes rounding (cs ++ c :: cs') (ts ++ t :: ts') where
  length_le := by
    have hmore := (Lexes.mark h hcs').length_le
    have hle := hcs.length_le
    rw [List.length_append, List.length_append]
    omega
  reads bound rest hrest := by
    have hmore := (Lexes.mark h hcs').reads bound rest hrest
    have hbound : bound + (ts ++ t :: ts').length = bound + (t :: ts').length + ts.length := by
      rw [List.length_append]
      omega
    rw [hbound, List.append_assoc, hcs.reads _ (c :: cs' ++ rest) (endsNumber_mark h _), hmore,
      Option.map_map]
    simp [Function.comp_def]

theorem Lexes.tokens_eq (hcs : Lexes rounding cs ts) : tokens rounding cs = some ts := by
  obtain ⟨bound, hbound⟩ := Nat.exists_eq_add_of_le' hcs.length_le
  have hread := hcs.reads bound [] endsNumber_nil
  have hend : tokensUpTo rounding bound [] = some [] := by
    cases bound <;> rfl
  rw [List.append_nil, hend] at hread
  rw [tokens, hbound, hread]
  simp

theorem lexes_quote (s : String) : Lexes rounding (quote s) [.scalar (.string (some s))] where
  length_le := by simp [quote]
  reads bound rest _ := by
    obtain ⟨pieces, hread, hassemble⟩ := readPieces_escape s.toList rest
    have htext : quote s ++ rest = '"' :: (s.toList.flatMap escape ++ '"' :: rest) := by
      simp [quote]
    rw [htext]
    show (readPieces (s.toList.flatMap escape ++ '"' :: rest)).bind _ = _
    rw [hread, Option.bind_some]
    simp [hassemble]

theorem lexes_field (key : String) (hcs : Lexes rounding cs ts) :
    Lexes rounding (quote key ++ ':' :: cs) (.scalar (.string (some key)) :: .colon :: ts) :=
  (lexes_quote key).append_mark (c := ':') (t := .colon) rfl hcs

theorem lexes_word (n : UInt64) :
    Lexes rounding (Number.text (.word n)) [.scalar (.number (.word n))] where
  length_le := by
    obtain ⟨d, ds, hcons, -⟩ := Text.exists_toDecimal_cons n.toNat
    simp [Number.text, hcons]
  reads bound rest hrest := by
    obtain ⟨d, ds, hcons, hd⟩ := Text.exists_toDecimal_cons n.toNat
    have hnumber := readNumber_toDecimal rounding n hrest
    rw [Number.text]
    rw [hcons, List.cons_append] at hnumber ⊢
    rw [List.length_singleton, tokensUpTo_digit rounding hd, hnumber]
    rfl

end

mutual

def onlyWords : Json → Bool
  | number (.word _) => true
  | number _ => false
  | array items => itemsOnlyWords items
  | object fields => fieldsOnlyWords fields
  | _ => true

def itemsOnlyWords : List Json → Bool
  | [] => true
  | x :: rest => x.onlyWords && itemsOnlyWords rest

def fieldsOnlyWords : List (String × Json) → Bool
  | [] => true
  | f :: rest => f.2.onlyWords && fieldsOnlyWords rest

end

mutual

def written : Json → List Token
  | null => [.scalar .null]
  | bool b => [.scalar (.bool b)]
  | number n => [.scalar (.number n)]
  | string s => [.scalar (.string (some s))]
  | array items => .openArray :: (writtenItems items ++ [.closeArray])
  | object fields => .openObject :: (writtenFields fields ++ [.closeObject])

def writtenItems : List Json → List Token
  | [] => []
  | [x] => x.written
  | x :: rest => x.written ++ .comma :: writtenItems rest

def writtenFields : List (String × Json) → List Token
  | [] => []
  | [f] => .scalar (.string (some f.1)) :: .colon :: f.2.written
  | f :: rest =>
    .scalar (.string (some f.1)) :: .colon :: (f.2.written ++ .comma :: writtenFields rest)

end

mutual

/-- The text of a value is cut into the tokens of the value. -/
theorem lexes_chars (rounding : Decimal.Rounding) :
    (v : Json) → v.onlyWords = true → Lexes rounding v.chars v.written
  | null, _ => ⟨by decide, fun _ _ _ => rfl⟩
  | bool true, _ => ⟨by decide, fun _ _ _ => rfl⟩
  | bool false, _ => ⟨by decide, fun _ _ _ => rfl⟩
  | number (.word n), _ => lexes_word n
  | string s, _ => lexes_quote s
  | array items, h => .mark rfl ((lexes_items rounding items h).append_mark rfl .nil)
  | object fields, h => .mark rfl ((lexes_fields rounding fields h).append_mark rfl .nil)

theorem lexes_items (rounding : Decimal.Rounding) :
    (items : List Json) → itemsOnlyWords items = true →
      Lexes rounding (separate (itemChars items)) (writtenItems items)
  | [], _ => .nil
  | [x], h => lexes_chars rounding x (Bool.and_eq_true_iff.mp h).1
  | x :: y :: rest, h =>
    (lexes_chars rounding x (Bool.and_eq_true_iff.mp h).1).append_mark rfl
      (lexes_items rounding (y :: rest) (Bool.and_eq_true_iff.mp h).2)

theorem lexes_fields (rounding : Decimal.Rounding) :
    (fields : List (String × Json)) → fieldsOnlyWords fields = true →
      Lexes rounding (separate (fieldChars fields)) (writtenFields fields)
  | [], _ => .nil
  | [f], h =>
    lexes_field f.1 (lexes_chars rounding f.2 (Bool.and_eq_true_iff.mp h).1)
  | f :: g :: rest, h =>
    (lexes_field f.1 (lexes_chars rounding f.2 (Bool.and_eq_true_iff.mp h).1)).append_mark rfl
      (lexes_fields rounding (g :: rest) (Bool.and_eq_true_iff.mp h).2)

end

/-! ### The reading machine -/

open Reading (step)

theorem foldlM_append_of_eq {reading next : Reading} {ts : List Token}
    (h : ts.foldlM step reading = some next) (ts' : List Token) :
    (ts ++ ts').foldlM step reading = ts'.foldlM step next := by
  rw [List.foldlM_append, h]
  rfl

/-- The first element of an array is read like any other: a value does not begin with a closing
bracket. -/
theorem foldlM_firstItem (v : Json) (ts : List Token) (open_ : List Frame) :
    (v.written ++ ts).foldlM step (.firstItem open_) =
      (v.written ++ ts).foldlM step (.value (.items [] :: open_)) := by
  cases v <;> rfl

mutual

/-- Reading the tokens of a value gives the value's tree, whatever is open around it. -/
theorem foldlM_written (v : Json) (open_ : List Frame) :
    v.written.foldlM step (.value open_) = some (.done v.tree open_) := by
  match v with
  | null => rfl
  | bool _ => rfl
  | number _ => rfl
  | string _ => rfl
  | array [] => rfl
  | array (x :: rest) =>
    have hitems := foldlM_writtenItems (x :: rest) (List.cons_ne_nil _ _) [] open_
    obtain ⟨ts, hts⟩ : ∃ ts, writtenItems (x :: rest) = x.written ++ ts := by
      cases rest
      · exact ⟨[], (List.append_nil _).symm⟩
      · exact ⟨_, rfl⟩
    rw [hts, List.append_assoc] at hitems
    rw [written, hts, List.append_assoc]
    exact (foldlM_firstItem x _ open_).trans hitems
  | object [] => rfl
  | object (f :: rest) =>
    have hfields := foldlM_writtenFields (f :: rest) (List.cons_ne_nil _ _) [] open_
    obtain ⟨ts, hts⟩ : ∃ ts, writtenFields (f :: rest) = .scalar (.string (some f.1)) :: ts := by
      cases rest <;> exact ⟨_, rfl⟩
    rw [hts] at hfields
    rw [written, hts]
    exact hfields

/-- After the elements of an array, the closing bracket puts them together with those before. -/
theorem foldlM_writtenItems (items : List Json) (hitems : items ≠ [])
    (before : List Tree) (open_ : List Frame) :
    (writtenItems items ++ [Token.closeArray]).foldlM step (.value (.items before :: open_)) =
      some (.done (.array (before.reverse ++ treeItems items)) open_) := by
  match items with
  | [] => exact absurd rfl hitems
  | [x] =>
    rw [writtenItems, foldlM_append_of_eq (foldlM_written x _)]
    simp [step, treeItems]
  | x :: y :: rest =>
    have hrest := foldlM_writtenItems (y :: rest) (List.cons_ne_nil _ _) (x.tree :: before) open_
    have hsplit : writtenItems (x :: y :: rest) ++ [Token.closeArray] =
        x.written ++ (.comma :: (writtenItems (y :: rest) ++ [.closeArray])) := by
      simp [writtenItems]
    rw [hsplit, foldlM_append_of_eq (foldlM_written x _)]
    refine Eq.trans hrest ?_
    simp [treeItems]

theorem foldlM_writtenFields (fields : List (String × Json)) (hfields : fields ≠ [])
    (before : List (Option String × Tree)) (open_ : List Frame) :
    (writtenFields fields ++ [Token.closeObject]).foldlM step (.key before open_) =
      some (.done (.object (before.reverse ++ treeFields fields)) open_) := by
  match fields with
  | [] => exact absurd rfl hfields
  | [f] =>
    have hvalue := foldlM_append_of_eq (foldlM_written f.2 (.fields before f.1 :: open_))
      [Token.closeObject]
    refine Eq.trans hvalue ?_
    simp [step, treeFields]
  | f :: g :: rest =>
    have hrest := foldlM_writtenFields (g :: rest) (List.cons_ne_nil _ _)
      ((some f.1, f.2.tree) :: before) open_
    have hvalue := foldlM_append_of_eq (foldlM_written f.2 (.fields before f.1 :: open_))
      (.comma :: (writtenFields (g :: rest) ++ [.closeObject]))
    have hsplit : writtenFields (f :: g :: rest) ++ [Token.closeObject] =
        .scalar (.string (some f.1)) :: .colon ::
          (f.2.written ++ (.comma :: (writtenFields (g :: rest) ++ [.closeObject]))) := by
      simp [writtenFields]
    rw [hsplit]
    refine Eq.trans hvalue (Eq.trans hrest ?_)
    simp [treeFields]

end

/-- A value is read back from its text. -/
theorem parseRounding?_render (rounding : Decimal.Rounding) (v : Json) (h : v.onlyWords = true) :
    Tree.parseRounding? rounding v.render = some v.tree := by
  have htokens := (lexes_chars rounding v h).tokens_eq
  unfold Tree.parseRounding? render
  rw [String.toList_ofList, htokens, Option.bind_some, Tree.ofTokens?, foldlM_written]

end ServicePlacement.Json
