import ServicePlacement.Toml.Reader
import ServicePlacement.Proofs.TomlStrings

/-!
The lines of a TOML document are read back. A writer keeps to strings, natural numbers that fit into
64 bits with a sign, and empty arrays (`IsWritable`), under keys that need no quotes. A number is a
single word, and none of the other readings of words applies to it. A document takes two steps of
the reader for each line, one of them for the line break before a header, so its length is enough.
-/
namespace ServicePlacement.Toml

/-! ### Numbers -/

section Digits

variable {cs : List Char}

theorem isWordChar_of_isDigitOf {c : Char} (h : Text.isDigitOf 10 c = true) :
    isWordChar c = true := by
  simp [isWordChar, Text.isDigitOf_of_le (by decide : 10 ≤ 36) h]

theorem digitRun?_of_digits (hne : cs ≠ []) (h : ∀ c ∈ cs, Text.isDigitOf 10 c = true) :
    digitRun? 10 cs = some cs := by
  induction cs with
  | nil => exact absurd rfl hne
  | cons c rest ih =>
    have hc := h c List.mem_cons_self
    have hrest : ∀ d ∈ rest, Text.isDigitOf 10 d = true :=
      fun d hd => h d (List.mem_cons_of_mem c hd)
    cases rest with
    | nil => simp [digitRun?, hc]
    | cons d rest =>
      have hunderscore : d ≠ '_' := by
        rintro rfl
        cases hrest '_' List.mem_cons_self
      rw [digitRun?, if_pos hc, ih (List.cons_ne_nil d rest) hrest]
      · rfl
      · intro h
        cases h
      · intro rest' h
        cases h
        exact hunderscore rfl

theorem date?_of_not_mem (h : '-' ∉ cs) : date? cs = none := by
  unfold date?
  split
  · simp at h
  · rfl

theorem time?_of_not_mem (h : ':' ∉ cs) : time? cs = none := by
  unfold time?
  split
  · simp at h
  · rfl

end Digits

section Decimal

variable (n : Nat)

theorem not_mem_toDecimal {c : Char} (h : Text.isDigitOf 10 c = false) : c ∉ Text.toDecimal n :=
  Text.not_mem_toDigits (by decide) (by decide) n h

theorem wholeDigits?_toDecimal : wholeDigits? (Text.toDecimal n) = some (Text.toDecimal n) := by
  have hrun : digitRun? 10 (Text.toDecimal n) = some (Text.toDecimal n) :=
    digitRun?_of_digits Nat.toDigits_ne_nil
      (Text.isDigitOf_of_mem_toDigits (by decide) (by decide) n)
  unfold wholeDigits?
  rw [hrun]
  split
  · rename_i c cs h
    exact absurd (Option.some.inj h) (Text.toDecimal_ne_zero_cons n c cs)
  · rfl

theorem splitSign_toDecimal : splitSign (Text.toDecimal n) = (false, Text.toDecimal n) := by
  unfold splitSign
  split
  · rename_i rest h
    exact absurd (h ▸ List.mem_cons_self) (not_mem_toDecimal n (c := '+') (by decide))
  · rename_i rest h
    exact absurd (h ▸ List.mem_cons_self) (not_mem_toDecimal n (c := '-') (by decide))
  · rfl

theorem inRange?_natCast {n : Nat} (h : n < 9223372036854775808) :
    inRange? (n : Int) = some (n : Int) := by
  unfold inRange?
  rw [if_pos (by omega)]

theorem integer?_toDecimal (h : n < 9223372036854775808) :
    integer? (Text.toDecimal n) = some (n : Int) := by
  have hbased {c : Char} (hc : Text.isDigitOf 10 c = false) (rest : List Char) :
      Text.toDecimal n ≠ '0' :: c :: rest := by
    intro heq
    refine not_mem_toDecimal n hc ?_
    rw [heq]
    exact List.mem_cons_of_mem '0' List.mem_cons_self
  unfold integer?
  split
  · rename_i rest heq
    exact absurd heq (hbased (by decide) rest)
  · rename_i rest heq
    exact absurd heq (hbased (by decide) rest)
  · rename_i rest heq
    exact absurd heq (hbased (by decide) rest)
  · have hvalue : Text.ofDigits? 10 (Text.toDecimal n) = some n :=
      Text.ofDigits?_toDigits (by decide) (by decide) n
    rw [splitSign_toDecimal]
    refine Option.bind_eq_some_iff.mpr ⟨_, wholeDigits?_toDecimal n, ?_⟩
    refine Option.bind_eq_some_iff.mpr ⟨n, hvalue, ?_⟩
    rw [if_neg Bool.false_ne_true]
    exact inRange?_natCast h

/-- A number is no truth value and no date. -/
theorem wordValue?_toDecimal (h : n < 9223372036854775808) :
    wordValue? (Text.toDecimal n) = some (.integer n) := by
  have hword {w : List Char} {c : Char} (hc : c ∈ w) (hdigit : Text.isDigitOf 10 c = false) :
      (Text.toDecimal n == w) = false := by
    refine beq_false_of_ne ?_
    rintro rfl
    exact not_mem_toDecimal n hdigit hc
  have hmoment : isMoment (Text.toDecimal n) = false := by
    unfold isMoment
    rw [date?_of_not_mem (not_mem_toDecimal n (by decide)),
      time?_of_not_mem (not_mem_toDecimal n (by decide))]
  unfold wordValue?
  rw [hword (c := 'e') (by decide) (by decide), hword (c := 'e') (by decide) (by decide), hmoment,
    integer?_toDecimal n h]
  rfl

theorem readWord_toDecimal (rest : List Char) :
    readWord (Text.toDecimal n ++ '\n' :: rest) = (Text.toDecimal n, '\n' :: rest) := by
  have hwordChars : ∀ c ∈ Text.toDecimal n, isWordChar c = true := fun c hc =>
    isWordChar_of_isDigitOf (Text.isDigitOf_of_mem_toDigits (by decide) (by decide) n c hc)
  have hends : ∀ c ∈ ('\n' :: rest).head?, isWordChar c = false := by
    rintro c ⟨⟩
    rfl
  unfold readWord
  simp only [Text.takeWhile_append_of_ends hwordChars hends,
    Text.dropWhile_append_of_ends hwordChars hends,
    date?_of_not_mem (not_mem_toDecimal n (by decide))]

end Decimal

/-! ### Values -/

inductive Value.IsWritable : Value → Prop where
  | string (s : String) : IsWritable (.string s)
  | integer {n : Nat} : n < 9223372036854775808 → IsWritable (.integer n)
  | noItems : IsWritable (.array [])

theorem valueText_integer (n : Nat) : valueText (.integer n) = Text.toDecimal n := by
  show (Nat.repr n).toList = _
  simp [Nat.repr, Text.toDecimal]

theorem quote_head (s : String) :
    ∃ rest, quote s = '"' :: rest ∨ quote s = '\'' :: rest := by
  unfold quote
  cases hquoting : quoting s.toList with
  | basic => exact ⟨_, .inl (by simp only [hquoting]; rfl)⟩
  | literal => exact ⟨_, .inr (by simp only [hquoting]; rfl)⟩
  | basicLines => exact ⟨_, .inl (by simp only [hquoting]; rfl)⟩
  | literalLines => exact ⟨_, .inr (by simp only [hquoting]; rfl)⟩

theorem readString?_of_digit {c : Char} (h : Text.isDigitOf 10 c = true) (rest : List Char) :
    readString? (c :: rest) = none := by
  have hquote : c ≠ '"' ∧ c ≠ '\'' := by
    constructor
    · rintro rfl
      cases h
    · rintro rfl
      cases h
  unfold readString?
  grind

theorem readValue_of_head {c : Char} (hbracket : c ≠ '[') (hbrace : c ≠ '{') (depth : Nat)
    (rest : List Char) :
    readValue (depth + 1) (c :: rest) = readValue.readPlain (c :: rest) := by
  unfold readValue
  split
  · rename_i heq
    exact absurd (List.cons.inj heq).1 hbracket
  · rename_i heq
    exact absurd (List.cons.inj heq).1 hbrace
  · rfl

/-- A written value is read back up to the end of its line. -/
theorem readValue_valueText {v : Value} (h : v.IsWritable) (depth : Nat) (rest : List Char) :
    readValue (depth + 1) (valueText v ++ '\n' :: rest) = some (v, '\n' :: rest) := by
  cases h with
  | string s =>
    have hplain : readValue (depth + 1) (quote s ++ '\n' :: rest) =
        readValue.readPlain (quote s ++ '\n' :: rest) := by
      obtain ⟨cs, hcs | hcs⟩ := quote_head s <;> rw [hcs] <;>
        exact readValue_of_head (by decide) (by decide) depth _
    rw [valueText, hplain, readValue.readPlain, readString?_quote]
    simp only [String.ofList_toList]
  | @integer n hn =>
    obtain ⟨d, ds, hds, hd⟩ := Text.exists_toDecimal_cons n
    have hread := readWord_toDecimal n rest
    have hvalue := wordValue?_toDecimal n hn
    rw [valueText_integer]
    rw [hds, List.cons_append] at hread ⊢
    rw [hds] at hvalue
    rw [readValue_of_head, readValue.readPlain, readString?_of_digit hd, hread]
    · simp only [hvalue, Option.map_some]
    · rintro rfl
      cases hd
    · rintro rfl
      cases hd
  | noItems => rfl

/-! ### Keys -/

def isPlainKey (k : String) : Bool := !k.toList.isEmpty && k.toList.all isKeyChar

def isPlainPath (path : List String) : Bool :=
  !path.isEmpty && decide (path.length < nestingLimit) && path.all isPlainKey

def EndsKey (rest : List Char) : Prop :=
  (∀ c ∈ rest.head?, isKeyChar c = false) ∧ (skipBlanks rest).head? ≠ some '.'

theorem exists_of_isPlainKey {k : String} (h : isPlainKey k = true) :
    (∃ c cs, k.toList = c :: cs ∧ isKeyChar c = true) ∧ ∀ c ∈ k.toList, isKeyChar c = true := by
  unfold isPlainKey at h
  cases hk : k.toList with
  | nil => simp [hk] at h
  | cons c cs =>
    rw [hk] at h
    have hall : ∀ d ∈ c :: cs, isKeyChar d = true := by simpa using h
    exact ⟨⟨c, cs, rfl, hall c List.mem_cons_self⟩, hall⟩

theorem readKeyPart_append {k : String} (h : isPlainKey k = true) {rest : List Char}
    (hrest : ∀ c ∈ rest.head?, isKeyChar c = false) :
    readKeyPart (k.toList ++ rest) = some (k, rest) := by
  obtain ⟨⟨c, cs, hk, hc⟩, hall⟩ := exists_of_isPlainKey h
  unfold readKeyPart
  rw [Text.takeWhile_append_of_ends hall hrest, Text.dropWhile_append_of_ends hall hrest]
  split
  · rename_i more heq
    rw [hk] at heq
    cases heq
    cases hc
  · rename_i more heq
    rw [hk] at heq
    cases heq
    cases hc
  · rw [hk]
    show some (String.ofList (c :: cs), rest) = _
    rw [← hk, String.ofList_toList]

theorem isBlank_of_isKeyChar {c : Char} (h : isKeyChar c = true) : isBlank c = false := by
  refine Bool.eq_false_iff.mpr fun hblank => ?_
  unfold isBlank at hblank
  obtain rfl | rfl : c = ' ' ∨ c = '\t' := by simpa using hblank
  · cases h
  · cases h

theorem skipBlanks_append_of_plain {k : String} (h : isPlainKey k = true) (rest : List Char) :
    skipBlanks (k.toList ++ rest) = k.toList ++ rest := by
  obtain ⟨⟨c, cs, hk, hc⟩, -⟩ := exists_of_isPlainKey h
  rw [hk]
  exact List.dropWhile_cons_of_neg (by simp [isBlank_of_isKeyChar hc])

theorem pathText_singleton (k : String) : pathText [k] = k.toList := by simp [pathText]

theorem pathText_cons_cons (k k' : String) (path : List String) :
    pathText (k :: k' :: path) = k.toList ++ '.' :: pathText (k' :: path) := by simp [pathText]

/-- A key is read back part by part, and the blanks after it are passed over. -/
theorem readKeyUpTo_pathText {path : List String} (hne : path ≠ [])
    (hplain : ∀ k ∈ path, isPlainKey k = true) {bound : Nat} (hbound : path.length ≤ bound)
    {rest : List Char} (hrest : EndsKey rest) :
    readKeyUpTo bound (pathText path ++ rest) = some (path, skipBlanks rest) := by
  induction path generalizing bound with
  | nil => exact absurd rfl hne
  | cons k path ih =>
    have hk := hplain k List.mem_cons_self
    rw [List.length_cons] at hbound
    obtain ⟨bound, rfl⟩ : ∃ b, bound = b + 1 := ⟨bound - 1, by omega⟩
    cases path with
    | nil =>
      rw [pathText_singleton, readKeyUpTo, skipBlanks_append_of_plain hk,
        readKeyPart_append hk hrest.1]
      simp only [Option.bind_eq_bind, Option.bind_some]
      split
      · rename_i more hdot
        exact absurd (congrArg List.head? hdot) hrest.2
      · rfl
    | cons k' path =>
      have hdot : ∀ c ∈ ('.' :: (pathText (k' :: path) ++ rest)).head?, isKeyChar c = false := by
        rintro c ⟨⟩
        rfl
      have hlength : (k' :: path).length ≤ bound := by simpa using hbound
      have htail :=
        ih (List.cons_ne_nil k' path) (fun d hd => hplain d (List.mem_cons_of_mem k hd)) hlength
      rw [pathText_cons_cons, List.append_assoc, List.cons_append, readKeyUpTo,
        skipBlanks_append_of_plain hk, readKeyPart_append hk hdot]
      simp only [Option.bind_eq_bind, Option.bind_some]
      rw [show skipBlanks ('.' :: (pathText (k' :: path) ++ rest)) =
        '.' :: (pathText (k' :: path) ++ rest) from rfl]
      simp only [htail, Option.bind_some]
      rfl

theorem readKey_pathText {path : List String} (h : isPlainPath path = true) {rest : List Char}
    (hrest : EndsKey rest) : readKey (pathText path ++ rest) = some (path, skipBlanks rest) := by
  simp only [isPlainPath, Bool.and_eq_true, decide_eq_true_eq, List.all_eq_true] at h
  obtain ⟨⟨hne, hlength⟩, hplain⟩ := h
  refine readKeyUpTo_pathText (by rintro rfl; cases hne) hplain ?_ hrest
  exact Nat.le_sub_one_of_lt hlength

/-- A key begins with a character that no line break, blank, comment or header begins with. -/
theorem exists_head_pathText {path : List String} (h : isPlainPath path = true) :
    ∃ c cs, pathText path = c :: cs ∧ isKeyChar c = true := by
  simp only [isPlainPath, Bool.and_eq_true, List.all_eq_true] at h
  cases path with
  | nil => simp at h
  | cons k path =>
    obtain ⟨⟨c, cs, hk, hc⟩, -⟩ := exists_of_isPlainKey (h.2 k List.mem_cons_self)
    cases path with
    | nil => exact ⟨c, cs, by rw [pathText_singleton, hk], hc⟩
    | cons k' path => exact ⟨c, _, by rw [pathText_cons_cons, hk, List.cons_append], hc⟩

/-! ### Lines and documents -/

def Line.IsWritable : Line → Prop
  | .assign path v => isPlainPath path = true ∧ v.IsWritable
  | .header path => isPlainPath path = true
  | .element path => isPlainPath path = true

theorem skipBlanks_valueText {v : Value} (h : v.IsWritable) (rest : List Char) :
    skipBlanks (' ' :: (valueText v ++ rest)) = valueText v ++ rest := by
  have hhead {c : Char} (hc : isBlank c = false) (cs : List Char) :
      skipBlanks (' ' :: c :: cs) = c :: cs := by
    rw [skipBlanks, List.dropWhile_cons_of_pos rfl, List.dropWhile_cons_of_neg (by simp [hc])]
  cases h with
  | string s =>
    obtain ⟨cs, hcs | hcs⟩ := quote_head s <;> rw [valueText, hcs] <;> exact hhead rfl _
  | @integer n hn =>
    obtain ⟨d, ds, hds, hd⟩ := Text.exists_toDecimal_cons n
    rw [valueText_integer, hds]
    have hkey : isKeyChar d = true := by
      simp [isKeyChar, Text.isDigitOf_of_le (by decide : 10 ≤ 36) hd]
    exact hhead (isBlank_of_isKeyChar hkey) _
  | noItems => exact hhead rfl _

theorem readLine_assign {path : List String} (hpath : isPlainPath path = true) {v : Value}
    (hv : v.IsWritable) (rest : List Char) :
    readLine ((Line.assign path v).text ++ rest) = some (.assign path v, '\n' :: rest) := by
  obtain ⟨c, cs, hcs, hc⟩ := exists_head_pathText hpath
  have hkey : readKey (pathText path ++ (" = ".toList ++ (valueText v ++ '\n' :: rest))) =
      some (path, '=' :: ' ' :: (valueText v ++ '\n' :: rest)) :=
    readKey_pathText hpath ⟨by rintro c ⟨⟩; rfl, by rintro ⟨⟩⟩
  have hvalue : readValue (nestingLimit - 1) (valueText v ++ '\n' :: rest) =
      some (v, '\n' :: rest) := readValue_valueText hv 78 rest
  have htext : (Line.assign path v).text ++ rest =
      pathText path ++ (" = ".toList ++ (valueText v ++ '\n' :: rest)) := by simp [Line.text]
  have hother (cs : List Char) : readLine (c :: cs) =
      (readPair (readValue (nestingLimit - 1)) (c :: cs)).bind fun r =>
        some (.assign r.1.1 r.1.2, r.2) := by
    have hbracket : c ≠ '[' := by
      rintro rfl
      cases hc
    unfold readLine
    split
    · rename_i heq
      exact absurd (List.cons.inj heq).1 hbracket
    · rename_i heq
      exact absurd (List.cons.inj heq).1 hbracket
    · rfl
  have hpair : readPair (readValue (nestingLimit - 1))
      (pathText path ++ (" = ".toList ++ (valueText v ++ '\n' :: rest))) =
        some ((path, v), '\n' :: rest) := by
    simp only [readPair, hkey, Option.bind_eq_bind, Option.bind_some, skipBlanks_valueText hv,
      hvalue]
    rfl
  rw [htext]
  rw [hcs, List.cons_append] at hpair ⊢
  rw [hother, hpair]
  rfl

theorem readLine_header {path : List String} (hpath : isPlainPath path = true)
    (rest : List Char) :
    readLine ((Line.header path).text ++ rest) = some (.header path, '\n' :: rest) := by
  obtain ⟨c, cs, hcs, hc⟩ := exists_head_pathText hpath
  have hkey : readKey (pathText path ++ (']' :: '\n' :: rest)) = some (path, ']' :: '\n' :: rest) :=
    readKey_pathText hpath ⟨by rintro c ⟨⟩; rfl, by rintro ⟨⟩⟩
  have htext : (Line.header path).text ++ rest =
      '[' :: (pathText path ++ (']' :: '\n' :: rest)) := by simp [Line.text]
  rw [htext, readLine, hkey]
  · rfl
  · intro more heq
    rw [hcs] at heq
    cases heq
    cases hc

theorem readLine_element {path : List String} (hpath : isPlainPath path = true)
    (rest : List Char) :
    readLine ((Line.element path).text ++ rest) = some (.element path, '\n' :: rest) := by
  have hkey : readKey (pathText path ++ (']' :: ']' :: '\n' :: rest)) =
      some (path, ']' :: ']' :: '\n' :: rest) :=
    readKey_pathText hpath ⟨by rintro c ⟨⟩; rfl, by rintro ⟨⟩⟩
  have htext : (Line.element path).text ++ rest =
      '[' :: '[' :: (pathText path ++ (']' :: ']' :: '\n' :: rest)) := by simp [Line.text]
  rw [htext, readLine, hkey]
  rfl

/-- A written line is read back up to its end. -/
theorem readLine_text {line : Line} (h : line.IsWritable) (rest : List Char) :
    readLine (line.text ++ rest) = some (line, '\n' :: rest) := by
  cases line with
  | assign path v => exact readLine_assign h.1 h.2 rest
  | header path => exact readLine_header h rest
  | element path => exact readLine_element h rest

/-- A line begins with its content. -/
theorem exists_head_text {line : Line} (h : line.IsWritable) :
    ∃ c cs, line.text = c :: cs ∧ (isKeyChar c = true ∨ c = '[') := by
  cases line with
  | assign path v =>
    obtain ⟨c, cs, hcs, hc⟩ := exists_head_pathText h.1
    exact ⟨c, _, by rw [Line.text, hcs]; rfl, .inl hc⟩
  | header path => exact ⟨'[', _, rfl, .inr rfl⟩
  | element path => exact ⟨'[', _, rfl, .inr rfl⟩

/-- Reading a written line takes one step. -/
theorem readLines_text {line : Line} (h : line.IsWritable) (bound : Nat) (rest : List Char) :
    readLines (bound + 1) (line.text ++ rest) = (readLines bound rest).map (line :: ·) := by
  obtain ⟨c, cs, hcs, hc⟩ := exists_head_text h
  have hblank : isBlank c = false := by
    rcases hc with hc | rfl
    · exact isBlank_of_isKeyChar hc
    · rfl
  have hcontent : (c == '#' || c == '\n' || c == '\r') = false := by
    refine Bool.eq_false_iff.mpr fun hmark => ?_
    obtain (rfl | rfl) | rfl : (c = '#' ∨ c = '\n') ∨ c = '\r' := by simpa using hmark
    all_goals rcases hc with hc | hc <;> cases hc
  have hskip : skipBlanks (line.text ++ rest) = c :: (cs ++ rest) := by
    rw [hcs]
    exact List.dropWhile_cons_of_neg (by simp [hblank])
  have hread := readLine_text h rest
  rw [hcs, List.cons_append] at hread
  rw [readLines, hskip]
  simp only [hcontent, Bool.false_eq_true, if_false, hread, Option.bind_eq_bind, Option.bind_some]
  show (readLines bound rest).bind (fun lines => some (line :: lines)) = _
  cases readLines bound rest <;> rfl

theorem readLines_newline (bound : Nat) (rest : List Char) :
    readLines (bound + 1) ('\n' :: rest) = readLines bound rest := rfl

/-- A document is read back with a step for each of its characters and one for its end. -/
theorem readLines_renderChars {lines : List Line} (h : ∀ line ∈ lines, line.IsWritable)
    {bound : Nat} (hbound : (renderChars lines).length < bound) :
    readLines bound (renderChars lines) = some lines := by
  induction lines generalizing bound with
  | nil =>
    obtain ⟨bound, rfl⟩ : ∃ b, bound = b + 1 := ⟨bound - 1, by omega⟩
    rfl
  | cons line lines ih =>
    have hline := h line List.mem_cons_self
    have hlines : ∀ l ∈ lines, l.IsWritable := fun l hl => h l (List.mem_cons_of_mem line hl)
    have hpos : 0 < line.text.length := by
      obtain ⟨c, cs, hcs, -⟩ := exists_head_text hline
      simp [hcs]
    have hcons : renderChars (line :: lines) =
        (if line.opensTable then ['\n'] else []) ++ (line.text ++ renderChars lines) := by
      simp [renderChars]
    rw [hcons] at hbound ⊢
    simp only [List.length_append] at hbound
    cases hopens : line.opensTable with
    | false =>
      obtain ⟨bound, rfl⟩ : ∃ b, bound = b + 1 := ⟨bound - 1, by omega⟩
      rw [if_neg Bool.false_ne_true, List.nil_append, readLines_text hline, ih hlines (by omega)]
      rfl
    | true =>
      rw [hopens] at hbound
      obtain ⟨bound, rfl⟩ : ∃ b, bound = b + 2 := ⟨bound - 2, by omega⟩
      rw [if_pos rfl, List.cons_append, List.nil_append, readLines_newline, readLines_text hline,
        ih hlines (by simp at hbound; omega)]
      rfl

/-- A written document is read back line by line. -/
theorem lines?_render {lines : List Line} (h : ∀ line ∈ lines, line.IsWritable) :
    lines? (render lines) = some lines := by
  have hmark : ∀ rest, renderChars lines ≠ '\uFEFF' :: rest := by
    intro rest hrest
    cases lines with
    | nil => cases hrest
    | cons line lines =>
      obtain ⟨c, cs, hcs, hc⟩ := exists_head_text (h line List.mem_cons_self)
      rw [renderChars, List.flatMap_cons, hcs] at hrest
      cases hopens : line.opensTable with
      | false =>
        rw [hopens] at hrest
        cases hrest
        rcases hc with hc | hc <;> cases hc
      | true =>
        rw [hopens] at hrest
        cases hrest
  unfold lines? render
  rw [String.toList_ofList]
  dsimp only
  split
  · rename_i rest hrest
    exact absurd hrest (hmark rest)
  · exact readLines_renderChars h (Nat.lt_succ_self _)

end ServicePlacement.Toml
