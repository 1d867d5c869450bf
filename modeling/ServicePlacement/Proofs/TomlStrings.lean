import ServicePlacement.Toml.Printer
import ServicePlacement.Toml.Quoted

/-!
Strings of a TOML document are read back, in whichever of the four ways they are written. With
escapes, every character but a quote stands for itself or is named after a backslash (`Names`).
Without them, the text is chosen so that no run of quotes in it ends the string. Over several lines
up to two quotes may stand before the closing three; the readers count such a run as part of the
text, so the proofs carry the run that has just been written.
-/
namespace ServicePlacement.Toml

inductive Names (oneLine : Bool) (c : Char) : List Char → Prop where
  | escape {e : Char} : simpleEscape? e = some c → Names oneLine c ['\\', e]
  | code : c.toNat < 0x80 →
    Names oneLine c ['\\', 'u', '0', '0', upperHex (c.toNat / 16), upperHex (c.toNat % 16)]
  | lineBreak : oneLine = false → c = '\n' → Names oneLine c ['\n']
  | plain : isPlain c = true → c ≠ '\\' → c ≠ '"' → Names oneLine c [c]

/-- A character without need for an escape is a line break or plain. -/
theorem isPlain_of_not_needsCode {c : Char} (h : needsCode c = false) (hc : c ≠ '\n') :
    isPlain c = true := by
  unfold needsCode at h
  unfold isPlain
  grind

theorem toNat_lt_of_needsCode {c : Char} (h : needsCode c = true) : c.toNat < 0x80 := by
  unfold needsCode at h
  grind

theorem escapeBasic_quote_of_lt {allowed run : Nat} (h : run < allowed) (oneLine : Bool)
    (cs : List Char) :
    escapeBasic allowed oneLine run ('"' :: cs) =
      '"' :: escapeBasic allowed oneLine (run + 1) cs := by
  simp [escapeBasic, h]

theorem escapeBasic_quote_of_le {allowed run : Nat} (h : allowed ≤ run) (oneLine : Bool)
    (cs : List Char) :
    escapeBasic allowed oneLine run ('"' :: cs) =
      '\\' :: '"' :: escapeBasic allowed oneLine 0 cs := by
  simp [escapeBasic, Nat.not_lt.mpr h]

/-- All but quotes are named one by one. -/
theorem exists_names (allowed run : Nat) (oneLine : Bool) {c : Char} (hc : c ≠ '"')
    (cs : List Char) :
    ∃ w, Names oneLine c w ∧
      escapeBasic allowed oneLine run (c :: cs) = w ++ escapeBasic allowed oneLine 0 cs := by
  rw [escapeBasic]
  simp only [beq_iff_eq, hc, if_false]
  refine ⟨_, ?_, rfl⟩
  split
  · rename_i h
    exact .escape (by rw [h]; rfl)
  split
  · rename_i h
    exact .escape (by rw [h]; rfl)
  split
  · rename_i h
    exact .escape (by rw [h]; rfl)
  split
  · rename_i h
    exact .escape (by rw [h]; rfl)
  split
  · rename_i h
    exact .escape (by rw [h]; rfl)
  split
  · rename_i h
    split
    · exact .escape (by rw [h]; rfl)
    · rename_i hlines
      exact .lineBreak (eq_false_of_ne_true hlines) h
  split
  · rename_i h
    exact .code (toNat_lt_of_needsCode h)
  · rename_i hslash hbreak hplain
    exact .plain (isPlain_of_not_needsCode (eq_false_of_ne_true hplain) hbreak) hslash hc

/-- A quote is named by an escape. -/
theorem names_quote (oneLine : Bool) : Names oneLine '"' ['\\', '"'] := .escape rfl

theorem ofDigits?_code {n : Nat} (h : n < 0x80) :
    Text.ofDigits? 16 ['0', '0', upperHex (n / 16), upperHex (n % 16)] = some n := by
  revert n
  decide

theorem scalar?_toNat {c : Char} (h : c.toNat < 0x80) : scalar? c.toNat = some c := by
  have hlow : c.toNat < 0xD800 := by omega
  simp [scalar?, hlow, Char.ofNat_toNat]

/-! ### Basic strings -/

theorem readBasic_names {c : Char} {w : List Char} (h : Names true c w) (rest : List Char) :
    readBasic (w ++ rest) = prepend c (readBasic rest) := by
  cases h with
  | @escape e he =>
    show readBasic ('\\' :: e :: rest) = _
    rw [readBasic]
    · rw [he]
      rfl
    · rintro a b c' d rest' rfl
      cases he
    · rintro a b c' d a' b' c'' d' rest' rfl
      cases he
  | code hc =>
    simp only [List.cons_append, List.nil_append, readBasic, ofDigits?_code hc, Option.bind_eq_bind,
      Option.bind_some, scalar?_toNat hc]
  | lineBreak h => cases h
  | plain hplain hslash hquote =>
    show readBasic (c :: rest) = _
    rw [readBasic]
    · simp [hplain, hslash]
    · exact hquote
    · intro a b c' d rest' h
      exact absurd h hslash
    · intro a b c' d a' b' c'' d' rest' h
      exact absurd h hslash
    · intro e rest' h
      exact absurd h hslash

theorem exists_names_basic (c : Char) (cs : List Char) :
    ∃ w, Names true c w ∧ escapeBasic 0 true 0 (c :: cs) = w ++ escapeBasic 0 true 0 cs := by
  by_cases hc : c = '"'
  · rw [hc]
    exact ⟨_, names_quote true, escapeBasic_quote_of_le (Nat.le_refl 0) true cs⟩
  · exact exists_names 0 0 true hc cs

theorem readBasic_escapeBasic (cs rest : List Char) :
    readBasic (escapeBasic 0 true 0 cs ++ '"' :: rest) = some (cs, rest) := by
  induction cs with
  | nil => simp [escapeBasic, readBasic]
  | cons c cs ih =>
    obtain ⟨w, hw, hwritten⟩ := exists_names_basic c cs
    rw [hwritten, List.append_assoc, readBasic_names hw, ih]
    rfl

theorem readLiteral_append {cs : List Char} (h : ∀ c ∈ cs, isPlain c = true ∧ c ≠ '\'')
    (rest : List Char) : readLiteral (cs ++ '\'' :: rest) = some (cs, rest) := by
  induction cs with
  | nil => rfl
  | cons c cs ih =>
    obtain ⟨hplain, hquote⟩ := h c List.mem_cons_self
    have hread := ih fun d hd => h d (List.mem_cons_of_mem c hd)
    rw [List.cons_append, readLiteral, if_pos hplain, hread]
    · rfl
    · exact hquote

/-! ### Strings over several lines -/

/-- A run of at most two quotes is part of the text if something else follows. -/
theorem read_quotes {q : Char} {read : List Char → Option (List Char × List Char)}
    (hquote : ∀ rest, (∀ more, rest ≠ q :: q :: more) → read (q :: rest) = prepend q (read rest))
    {run : Nat} (hrun : run ≤ 2) {x : Char} (hx : x ≠ q) (rest : List Char) :
    read (List.replicate run q ++ x :: rest) =
      (read (x :: rest)).map fun r => (List.replicate run q ++ r.1, r.2) := by
  have hone : read (q :: x :: rest) = prepend q (read (x :: rest)) :=
    hquote _ fun more h => hx (List.cons.inj h).1
  obtain rfl | rfl | rfl : run = 0 ∨ run = 1 ∨ run = 2 := by omega
  · simp
  · exact hone
  · show read (q :: q :: x :: rest) = _
    rw [hquote, hone]
    · cases read (x :: rest) <;> rfl
    · exact fun more h => hx (List.cons.inj (List.cons.inj h).2).1

/-- A written character is not the beginning of the closing quotes. -/
theorem Names.head {oneLine : Bool} {c : Char} {w : List Char} (h : Names oneLine c w) :
    ∃ x rest, w = x :: rest ∧ x ≠ '"' := by
  cases h with
  | escape he => exact ⟨_, _, rfl, by decide⟩
  | code hc => exact ⟨_, _, rfl, by decide⟩
  | lineBreak hlines hc => exact ⟨_, _, rfl, by decide⟩
  | plain hplain hslash hquote => exact ⟨_, _, rfl, hquote⟩

theorem isPlain_ne_newline {c : Char} (h : isPlain c = true) : c ≠ '\n' ∧ c ≠ '\r' := by
  constructor <;> rintro rfl <;> cases h

theorem newline?_escape {e c : Char} (h : simpleEscape? e = some c) (rest : List Char) :
    (newline? ((e :: rest).dropWhile isBlank)).isSome = false := by
  unfold simpleEscape? at h
  split at h <;> first | rfl | cases h

theorem readBasicLines_names {c : Char} {w : List Char} {oneLine : Bool} (h : Names oneLine c w)
    (rest : List Char) :
    readBasicLines false (w ++ rest) = prepend c (readBasicLines false rest) := by
  cases h with
  | @escape e he =>
    show readBasicLines false ('\\' :: e :: rest) = _
    rw [readBasicLines]
    · rw [newline?_escape he]
      simp [he]
    · rintro a b c' d rest' h
      cases h
      cases he
    · rintro a b c' d a' b' c'' d' rest' h
      cases h
      cases he
  | code hc =>
    simp only [List.cons_append, List.nil_append, readBasicLines, ofDigits?_code hc,
      Option.bind_eq_bind, Option.bind_some, scalar?_toNat hc]
  | lineBreak hlines hc =>
    rw [hc]
    simp [readBasicLines]
  | plain hplain hslash hquote =>
    obtain ⟨hnewline, hreturn⟩ := isPlain_ne_newline hplain
    show readBasicLines false (c :: rest) = _
    rw [readBasicLines]
    · simp [hplain]
    all_goals grind

/-- A quote that does not begin the closing three is part of the text. -/
theorem readBasicLines_quote (rest : List Char) (h : ∀ more, rest ≠ '"' :: '"' :: more) :
    readBasicLines false ('"' :: rest) = prepend '"' (readBasicLines false rest) := by
  rw [readBasicLines]
  · rfl
  all_goals grind

theorem readBasicLines_closing {run : Nat} (hrun : run ≤ 2) (rest : List Char) :
    readBasicLines false (List.replicate run '"' ++ ("\"\"\"".toList ++ '\n' :: rest)) =
      some (List.replicate run '"', '\n' :: rest) := by
  obtain rfl | rfl | rfl : run = 0 ∨ run = 1 ∨ run = 2 := by omega
  · show readBasicLines false ('"' :: '"' :: '"' :: '\n' :: rest) = _
    rw [readBasicLines] <;> grind
  · show readBasicLines false ('"' :: '"' :: '"' :: '"' :: '\n' :: rest) = _
    rw [readBasicLines] <;> grind
  · show readBasicLines false ('"' :: '"' :: '"' :: '"' :: '"' :: '\n' :: rest) = _
    rw [readBasicLines]
    rfl

/-- What is written after a run of quotes is read together with the run. -/
theorem readBasicLines_escapeBasic (cs rest : List Char) {run : Nat} (hrun : run ≤ 2) :
    readBasicLines false (List.replicate run '"' ++
        (escapeBasic 2 false run cs ++ ("\"\"\"".toList ++ '\n' :: rest))) =
      some (List.replicate run '"' ++ cs, '\n' :: rest) := by
  induction cs generalizing run with
  | nil => simpa [escapeBasic] using readBasicLines_closing hrun rest
  | cons c cs ih =>
    -- The run goes on with a quote that needs no escape, and ends with all else.
    have hnamed {w : List Char} (hw : Names false c w)
        (hwritten : escapeBasic 2 false run (c :: cs) = w ++ escapeBasic 2 false 0 cs) :
        readBasicLines false (List.replicate run '"' ++
            (escapeBasic 2 false run (c :: cs) ++ ("\"\"\"".toList ++ '\n' :: rest))) =
          some (List.replicate run '"' ++ c :: cs, '\n' :: rest) := by
      have hread := readBasicLines_names hw
        (escapeBasic 2 false 0 cs ++ ("\"\"\"".toList ++ '\n' :: rest))
      rw [show readBasicLines false (escapeBasic 2 false 0 cs ++ _) = _ from
        ih (Nat.zero_le 2)] at hread
      obtain ⟨x, more, rfl, hx⟩ := hw.head
      rw [hwritten, List.append_assoc, List.cons_append,
        read_quotes readBasicLines_quote hrun hx, ← List.cons_append, hread]
      rfl
    by_cases hc : c = '"'
    · subst hc
      by_cases hrun' : run < 2
      · rw [escapeBasic_quote_of_lt hrun', List.cons_append, List.append_cons,
          ← List.replicate_succ', ih (by omega), List.replicate_succ', List.append_assoc]
        rfl
      · exact hnamed (names_quote false) (escapeBasic_quote_of_le (by omega) false cs)
    · obtain ⟨w, hw, hwritten⟩ := exists_names 2 run false hc cs
      exact hnamed hw hwritten

theorem le_longestRun (q : Char) (run best : Nat) (cs : List Char) :
    best ≤ longestRun q run best cs := by
  induction cs generalizing run best with
  | nil => exact Nat.le_refl best
  | cons c cs ih =>
    rw [longestRun]
    split
    · exact Nat.le_trans (Nat.le_max_left best (run + 1)) (ih _ _)
    · exact ih 0 best

theorem longestRun_quote_le {q : Char} {run best n : Nat} {cs : List Char}
    (h : longestRun q run best (q :: cs) ≤ n) :
    run + 1 ≤ n ∧ longestRun q (run + 1) (max best (run + 1)) cs ≤ n := by
  simp only [longestRun, beq_self_eq_true, if_true] at h
  have hrun := le_longestRun q (run + 1) (max best (run + 1)) cs
  omega

theorem longestRun_cons_of_ne {q c : Char} (h : c ≠ q) (run best : Nat) (cs : List Char) :
    longestRun q run best (c :: cs) = longestRun q 0 best cs := by
  simp [longestRun, h]

/-- Without a run there is no quote at all. -/
theorem not_mem_of_longestRun {q : Char} {run best : Nat} {cs : List Char}
    (h : longestRun q run best cs = 0) : q ∉ cs := by
  induction cs generalizing run best with
  | nil => exact List.not_mem_nil
  | cons c cs ih =>
    by_cases hc : c = q
    · subst hc
      have hrun := (longestRun_quote_le (Nat.le_of_eq h)).1
      omega
    · rw [longestRun_cons_of_ne hc] at h
      intro hmem
      rcases List.mem_cons.mp hmem with rfl | hmem
      · exact hc rfl
      · exact ih h hmem

def standsInLines (c : Char) : Bool := isPlain c || c == '\n'

theorem readLiteralLines_plain {c : Char} (h : standsInLines c = true) (hquote : c ≠ '\'')
    (rest : List Char) :
    readLiteralLines (c :: rest) = prepend c (readLiteralLines rest) := by
  by_cases hc : c = '\n'
  · rw [hc, readLiteralLines]
  · have hplain : isPlain c = true := by simpa [standsInLines, hc] using h
    have hreturn := (isPlain_ne_newline hplain).2
    rw [readLiteralLines, if_pos hplain] <;> grind

theorem readLiteralLines_quote (rest : List Char) (h : ∀ more, rest ≠ '\'' :: '\'' :: more) :
    readLiteralLines ('\'' :: rest) = prepend '\'' (readLiteralLines rest) := by
  rw [readLiteralLines]
  · rfl
  all_goals grind

theorem readLiteralLines_closing {run : Nat} (hrun : run ≤ 2) (rest : List Char) :
    readLiteralLines (List.replicate run '\'' ++ ("'''".toList ++ '\n' :: rest)) =
      some (List.replicate run '\'', '\n' :: rest) := by
  obtain rfl | rfl | rfl : run = 0 ∨ run = 1 ∨ run = 2 := by omega
  · show readLiteralLines ('\'' :: '\'' :: '\'' :: '\n' :: rest) = _
    rw [readLiteralLines] <;> grind
  · show readLiteralLines ('\'' :: '\'' :: '\'' :: '\'' :: '\n' :: rest) = _
    rw [readLiteralLines] <;> grind
  · show readLiteralLines ('\'' :: '\'' :: '\'' :: '\'' :: '\'' :: '\n' :: rest) = _
    rw [readLiteralLines]
    rfl

/-- What is written after a run of quotes is read together with the run, as long as no run of the
whole text is longer than two. -/
theorem readLiteralLines_append {cs : List Char} (rest : List Char) {run best : Nat}
    (hcs : ∀ c ∈ cs, standsInLines c = true) (hrun : run ≤ 2)
    (hruns : longestRun '\'' run best cs ≤ 2) :
    readLiteralLines (List.replicate run '\'' ++ (cs ++ ("'''".toList ++ '\n' :: rest))) =
      some (List.replicate run '\'' ++ cs, '\n' :: rest) := by
  induction cs generalizing run best with
  | nil => simpa using readLiteralLines_closing hrun rest
  | cons c cs ih =>
    have hcs' : ∀ d ∈ cs, standsInLines d = true := fun d hd => hcs d (List.mem_cons_of_mem c hd)
    by_cases hc : c = '\''
    · subst hc
      obtain ⟨hrun', hruns'⟩ := longestRun_quote_le hruns
      rw [List.cons_append, List.append_cons, ← List.replicate_succ', ih hcs' hrun' hruns',
        List.replicate_succ', List.append_assoc]
      rfl
    · rw [longestRun_cons_of_ne hc] at hruns
      have hread := ih hcs' (Nat.zero_le 2) hruns
      rw [List.replicate_zero, List.nil_append] at hread
      rw [List.cons_append, read_quotes readLiteralLines_quote hrun hc,
        readLiteralLines_plain (hcs c List.mem_cons_self) hc, hread]
      rfl

/-! ### Strings of any kind -/

theorem readString?_basic (cs rest : List Char) :
    readString? ('"' :: (escapeBasic 0 true 0 cs ++ '"' :: '\n' :: rest)) =
      some (cs, '\n' :: rest) := by
  have hone : ∀ more, escapeBasic 0 true 0 cs ++ '"' :: '\n' :: rest ≠ '"' :: '"' :: more := by
    intro more h
    cases cs with
    | nil => cases h
    | cons c cs =>
      obtain ⟨w, hw, hwritten⟩ := exists_names_basic c cs
      obtain ⟨x, rest, rfl, hx⟩ := hw.head
      rw [hwritten] at h
      exact hx (List.cons.inj h).1
  rw [readString?, readBasic_escapeBasic]
  exact hone

theorem readString?_literal {cs : List Char} (h : ∀ c ∈ cs, isPlain c = true ∧ c ≠ '\'')
    (rest : List Char) :
    readString? ('\'' :: (cs ++ '\'' :: '\n' :: rest)) = some (cs, '\n' :: rest) := by
  have hone : ∀ more, cs ++ '\'' :: '\n' :: rest ≠ '\'' :: '\'' :: more := by
    intro more hmore
    cases cs with
    | nil => cases hmore
    | cons c cs => exact (h c List.mem_cons_self).2 (List.cons.inj hmore).1
  rw [readString?, readLiteral_append h]
  exact hone

theorem newline?_of_isPlain {c : Char} (h : isPlain c = true) (rest : List Char) :
    newline? (c :: rest) = none := by
  obtain ⟨hnewline, hreturn⟩ := isPlain_ne_newline h
  rw [newline?] <;> grind

theorem Names.newline? {c : Char} {w : List Char} (h : Names false c w) (hc : c ≠ '\n')
    (rest : List Char) : newline? (w ++ rest) = none := by
  cases h with
  | escape he => rfl
  | code hcode => rfl
  | lineBreak hlines hbreak => exact absurd hbreak hc
  | plain hplain hslash hquote => exact newline?_of_isPlain hplain rest

/-- A line break is put before a text that has one, and only that one is dropped again. -/
theorem dropNewline_opening {cs body : List Char} (h : '\n' ∉ cs → newline? body = none) :
    dropNewline ((if cs.contains '\n' then ['\n'] else []) ++ body) = body := by
  by_cases hbreak : '\n' ∈ cs
  · simp [hbreak, dropNewline, newline?]
  · simp [hbreak, dropNewline, h]

theorem newline?_escapeBasic {cs : List Char} (h : '\n' ∉ cs) (rest : List Char) :
    newline? (escapeBasic 2 false 0 cs ++ ("\"\"\"".toList ++ rest)) = none := by
  cases cs with
  | nil => rfl
  | cons c cs =>
    by_cases hc : c = '"'
    · rw [hc, escapeBasic_quote_of_lt Nat.two_pos]
      rfl
    · obtain ⟨w, hw, hwritten⟩ := exists_names 2 0 false hc cs
      rw [hwritten, List.append_assoc]
      exact hw.newline? (fun hbreak => h (hbreak ▸ List.mem_cons_self)) _

theorem readString?_basicLines (cs rest : List Char) :
    readString? ("\"\"\"".toList ++ ((if cs.contains '\n' then ['\n'] else []) ++
        (escapeBasic 2 false 0 cs ++ ("\"\"\"".toList ++ '\n' :: rest)))) =
      some (cs, '\n' :: rest) := by
  have hthree (cs : List Char) :
      readString? ("\"\"\"".toList ++ cs) = readBasicLines false (dropNewline cs) := rfl
  rw [hthree, dropNewline_opening fun h => newline?_escapeBasic h _]
  exact readBasicLines_escapeBasic cs rest (Nat.zero_le 2)

theorem readString?_literalLines {cs : List Char} (h : ∀ c ∈ cs, standsInLines c = true)
    (hruns : longestRun '\'' 0 0 cs ≤ 2) (rest : List Char) :
    readString? ("'''".toList ++ ((if cs.contains '\n' then ['\n'] else []) ++
        (cs ++ ("'''".toList ++ '\n' :: rest)))) =
      some (cs, '\n' :: rest) := by
  have hstart : '\n' ∉ cs → newline? (cs ++ ("'''".toList ++ '\n' :: rest)) = none := by
    intro hbreak
    cases cs with
    | nil => rfl
    | cons c cs =>
      have hc : c ≠ '\n' := fun hc => hbreak (hc ▸ List.mem_cons_self)
      have hplain : isPlain c = true := by
        simpa [standsInLines, hc] using h c List.mem_cons_self
      exact newline?_of_isPlain hplain _
  have hthree (cs : List Char) :
      readString? ("'''".toList ++ cs) = readLiteralLines (dropNewline cs) := rfl
  rw [hthree, dropNewline_opening hstart]
  exact readLiteralLines_append rest h (Nat.zero_le 2) hruns

theorem standsInLines_of_not_needsCode {c : Char} (h : needsCode c = false) :
    standsInLines c = true := by
  by_cases hc : c = '\n'
  · simp [standsInLines, hc]
  · simp [standsInLines, isPlain_of_not_needsCode h hc]

/-- Literal strings are only chosen for texts that they can hold. -/
theorem quoting_literal_cases (cs : List Char) :
    (quoting cs = .literal → (∀ c ∈ cs, needsCode c = false) ∧ longestRun '\'' 0 0 cs = 0 ∧
        '\n' ∉ cs) ∧
      (quoting cs = .literalLines →
        (∀ c ∈ cs, needsCode c = false) ∧ longestRun '\'' 0 0 cs ≤ 2) := by
  have hplain : (!cs.any needsCode) = true ↔ ∀ c ∈ cs, needsCode c = false := by simp
  rw [← hplain]
  unfold quoting
  grind

/-- A written string is read back up to the end of its line. -/
theorem readString?_quote (s : String) (rest : List Char) :
    readString? (quote s ++ '\n' :: rest) = some (s.toList, '\n' :: rest) := by
  unfold quote
  cases hquoting : quoting s.toList with
  | basic => simpa [hquoting] using readString?_basic s.toList rest
  | literal =>
    obtain ⟨hplain, hquotes, hbreak⟩ := (quoting_literal_cases s.toList).1 hquoting
    have hholds : ∀ c ∈ s.toList, isPlain c = true ∧ c ≠ '\'' := by
      intro c hc
      exact ⟨isPlain_of_not_needsCode (hplain c hc) (ne_of_mem_of_not_mem hc hbreak),
        ne_of_mem_of_not_mem hc (not_mem_of_longestRun hquotes)⟩
    simpa [hquoting] using readString?_literal hholds rest
  | basicLines => simpa [hquoting] using readString?_basicLines s.toList rest
  | literalLines =>
    obtain ⟨hplain, hruns⟩ := (quoting_literal_cases s.toList).2 hquoting
    have hstands : ∀ c ∈ s.toList, standsInLines c = true := fun c hc =>
      standsInLines_of_not_needsCode (hplain c hc)
    simpa [hquoting] using readString?_literalLines hstands hruns rest

end ServicePlacement.Toml
