import Mathlib.Data.Nat.Digits.Defs
import ServicePlacement.Duration

/-!
Which texts write a duration: a number and an optional unit, with white space around either. The
reader starts at the end, where it tries the longest unit first. It finds the parts of the grammar
because a number ends in a digit, so its end is neither white space nor a letter of a unit
(`splitUnit_append`, `trim_append`).
-/
namespace ServicePlacement

namespace Text

def AllBlank (cs : List Char) : Prop := ∀ c ∈ cs, isBlank c = true

structure IsTrimOf (core cs : List Char) : Prop where
  exists_blanks : ∃ w w', AllBlank w ∧ AllBlank w' ∧ cs = w ++ core ++ w'
  head_not_blank : ∀ c ∈ core.head?, isBlank c = false
  last_not_blank : ∀ c ∈ core.getLast?, isBlank c = false

theorem AllBlank.append {w w' : List Char} (h : AllBlank w) (h' : AllBlank w') :
    AllBlank (w ++ w') := by
  intro c hc
  rcases List.mem_append.mp hc with hc | hc
  · exact h c hc
  · exact h' c hc

theorem trim_append {w core w' : List Char} (hw : AllBlank w) (hw' : AllBlank w')
    (hhead : ∀ c ∈ core.head?, isBlank c = false) (hlast : ∀ c ∈ core.getLast?, isBlank c = false) :
    trim (w ++ core ++ w') = core := by
  unfold trim
  cases core with
  | nil =>
    have hnone : (w ++ [] ++ w').dropWhile isBlank = [] := by
      rw [List.append_nil, ← List.append_nil (w ++ w'), List.dropWhile_append_of_pos (hw.append hw')]
      rfl
    rw [hnone]
    rfl
  | cons c rest =>
    have hfront : (w ++ (c :: rest ++ w')).dropWhile isBlank = c :: rest ++ w' :=
      dropWhile_append_of_ends hw hhead
    have hback : (w'.reverse ++ (c :: rest).reverse).dropWhile isBlank = (c :: rest).reverse := by
      apply dropWhile_append_of_ends
      · intro d hd
        exact hw' d (List.mem_reverse.mp hd)
      · rw [List.head?_reverse]
        exact hlast
    rw [List.append_assoc, hfront, List.reverse_append, hback, List.reverse_reverse]

theorem isTrimOf_trim (cs : List Char) : IsTrimOf (trim cs) cs := by
  have hdrop (l : List Char) : ∀ c ∈ (l.dropWhile isBlank).head?, isBlank c = false := by
    intro c hc
    have hnot := List.head?_dropWhile_not isBlank l
    rw [Option.mem_def.mp hc] at hnot
    exact hnot
  have htake (l : List Char) : AllBlank (l.takeWhile isBlank) := by
    intro c hc
    exact List.all_eq_true.mp List.all_takeWhile c hc
  obtain ⟨front, hfront⟩ : ∃ front, front = cs.dropWhile isBlank := ⟨_, rfl⟩
  have hsplit : front = trim cs ++ (front.reverse.takeWhile isBlank).reverse := by
    have hreverse := congrArg List.reverse (List.takeWhile_append_dropWhile (p := isBlank)
      (l := front.reverse))
    rw [List.reverse_append, List.reverse_reverse] at hreverse
    unfold trim
    rw [← hfront]
    exact hreverse.symm
  refine ⟨⟨cs.takeWhile isBlank, (front.reverse.takeWhile isBlank).reverse, htake cs, ?_, ?_⟩,
    ?_, ?_⟩
  · intro c hc
    exact htake front.reverse c (List.mem_reverse.mp hc)
  · rw [List.append_assoc, ← hsplit, hfront, List.takeWhile_append_dropWhile]
  · intro c hc
    apply hdrop cs
    rw [← hfront, hsplit, List.head?_append, Option.mem_def.mp hc]
    rfl
  · unfold trim
    rw [List.getLast?_reverse]
    exact hdrop _

def decimalValue (cs : List Char) : Nat := Nat.ofDigits 10 (cs.map fun c => c.toNat - 48).reverse

theorem decimalValue_cons (c : Char) (cs : List Char) :
    decimalValue (c :: cs) = decimalValue cs + 10 ^ cs.length * (c.toNat - 48) := by
  unfold decimalValue
  rw [List.map_cons, Nat.ofDigits_reverse_cons, List.length_map]

theorem digitValue?_decimal {c : Char} {d : Nat} :
    digitValue? c = some d ∧ d < 10 ↔ isDigit c = true ∧ d = c.toNat - 48 := by
  unfold digitValue? isDigit
  grind

theorem digitsFrom?_eq_some_iff {value n : Nat} {cs : List Char} :
    digitsFrom? 10 value cs = some n ↔
      (∀ c ∈ cs, isDigit c = true) ∧ n = 10 ^ cs.length * value + decimalValue cs := by
  induction cs generalizing value with
  | nil =>
    have hnil : decimalValue [] = 0 := rfl
    rw [hnil, digitsFrom?, Option.some.injEq, List.length_nil, Nat.pow_zero]
    constructor
    · intro h
      exact ⟨fun c hc => absurd hc List.not_mem_nil, by omega⟩
    · intro h
      omega
  | cons c rest ih =>
    rw [List.forall_mem_cons, decimalValue_cons, List.length_cons, Nat.pow_succ]
    cases hdigit : isDigit c with
    | true =>
      obtain ⟨hvalue, hlt⟩ := digitValue?_decimal.mpr ⟨hdigit, rfl⟩
      simp only [digitsFrom?, hvalue, if_pos hlt, ih, true_and]
      apply and_congr_right
      intro _
      have hsum : 10 ^ rest.length * (10 * value + (c.toNat - 48)) + decimalValue rest =
          10 ^ rest.length * 10 * value +
            (decimalValue rest + 10 ^ rest.length * (c.toNat - 48)) := by
        rw [Nat.mul_add, Nat.mul_assoc]
        omega
      rw [hsum]
    | false =>
      have hnone : digitsFrom? 10 value (c :: rest) = none := by
        unfold digitsFrom?
        split
        · rename_i d hd
          apply if_neg
          intro hlt
          have hdigit' := (digitValue?_decimal.mp ⟨hd, hlt⟩).1
          rw [hdigit] at hdigit'
          cases hdigit'
        · rfl
      simp [hnone]

structure IsDigits (cs : List Char) : Prop where
  ne_nil : cs ≠ []
  isDigit_of_mem : ∀ c ∈ cs, isDigit c = true

inductive IsNumeral : List Char → Nat → Prop where
  | plain {digits : List Char} : IsDigits digits → IsNumeral digits (decimalValue digits)
  | signed {digits : List Char} : IsDigits digits → IsNumeral ('+' :: digits) (decimalValue digits)

theorem ofDigits?_eq_some_iff {cs : List Char} {n : Nat} :
    ofDigits? 10 cs = some n ↔ IsDigits cs ∧ n = decimalValue cs := by
  cases cs with
  | nil =>
    constructor
    · intro h
      cases h
    · intro h
      exact absurd rfl h.1.ne_nil
  | cons c rest =>
    show digitsFrom? 10 0 (c :: rest) = some n ↔ _
    rw [digitsFrom?_eq_some_iff, Nat.mul_zero, Nat.zero_add]
    constructor
    · intro h
      exact ⟨⟨List.cons_ne_nil c rest, h.1⟩, h.2⟩
    · intro h
      exact ⟨h.1.isDigit_of_mem, h.2⟩

theorem IsNumeral.word?_eq {cs : List Char} {n : Nat} (h : IsNumeral cs n) (bound : Nat) :
    word? bound cs = if n < bound then some n else none := by
  unfold word?
  cases h with
  | plain hdigits =>
    have hread := ofDigits?_eq_some_iff.mpr ⟨hdigits, rfl⟩
    cases cs with
    | nil => exact absurd rfl hdigits.ne_nil
    | cons c rest =>
      have hplus : c ≠ '+' := by
        intro hc
        have hdigit := hdigits.isDigit_of_mem c List.mem_cons_self
        rw [hc] at hdigit
        cases hdigit
      simp [hplus, hread]
  | signed hdigits =>
    have hread := ofDigits?_eq_some_iff.mpr ⟨hdigits, rfl⟩
    simp only [hread]

theorem isNumeral_of_word? {bound n : Nat} {cs : List Char} (h : word? bound cs = some n) :
    IsNumeral cs n := by
  unfold word? at h
  split at h
  · rename_i m hread
    split at h
    · cases h
      rw [ofDigits?_eq_some_iff] at hread
      obtain ⟨hdigits, rfl⟩ := hread
      split at hdigits
      · exact .signed hdigits
      · exact .plain hdigits
    · cases h
  · cases h

theorem word?_eq_some_iff {bound n : Nat} {cs : List Char} :
    word? bound cs = some n ↔ IsNumeral cs n ∧ n < bound := by
  constructor
  · intro hword
    have hnumeral := isNumeral_of_word? hword
    rw [hnumeral.word?_eq bound, Option.ite_none_right_eq_some] at hword
    exact ⟨hnumeral, hword.1⟩
  · intro ⟨hnumeral, hbound⟩
    rw [hnumeral.word?_eq bound, if_pos hbound]

theorem isBlank_eq_false_of_isDigit {c : Char} (h : isDigit c = true) : isBlank c = false := by
  unfold isDigit at h
  unfold isBlank
  grind

namespace IsNumeral

variable {cs : List Char} {n : Nat}

theorem ne_nil (h : IsNumeral cs n) : cs ≠ [] := by
  cases h with
  | plain hdigits => exact hdigits.ne_nil
  | signed hdigits => exact List.cons_ne_nil _ _

theorem head_not_blank (h : IsNumeral cs n) : ∀ c ∈ cs.head?, isBlank c = false := by
  intro c hc
  cases h with
  | plain hdigits =>
    exact isBlank_eq_false_of_isDigit (hdigits.isDigit_of_mem c (List.mem_of_head? hc))
  | signed hdigits =>
    cases hc
    decide

theorem last_isDigit (h : IsNumeral cs n) : ∀ c ∈ cs.getLast?, isDigit c = true := by
  intro c hc
  cases h with
  | plain hdigits => exact hdigits.isDigit_of_mem c (List.mem_of_getLast? hc)
  | @signed digits hdigits =>
    obtain ⟨d, rest, rfl⟩ := List.exists_cons_of_ne_nil hdigits.ne_nil
    rw [List.getLast?_cons_cons] at hc
    exact hdigits.isDigit_of_mem c (List.mem_of_getLast? hc)

theorem last_not_blank (h : IsNumeral cs n) : ∀ c ∈ cs.getLast?, isBlank c = false := by
  intro c hc
  exact isBlank_eq_false_of_isDigit (h.last_isDigit c hc)

end IsNumeral

end Text

namespace Duration

open Text

def units : List (String × Nat) :=
  [("ms", 1), ("s", 1000), ("m", 60000), ("h", 3600000), ("", 1000)]

theorem unit_cases {unit : String} {length : Nat} (h : (unit, length) ∈ units) :
    unit = "" ∨ ∃ c, unit.toList.getLast? = some c ∧ isBlank c = false := by
  simp only [units, List.mem_cons, Prod.mk.injEq, List.not_mem_nil, or_false] at h
  rcases h with ⟨rfl, -⟩ | ⟨rfl, -⟩ | ⟨rfl, -⟩ | ⟨rfl, -⟩ | ⟨rfl, -⟩
  · exact .inr ⟨'s', by simp, by decide⟩
  · exact .inr ⟨'s', by simp, by decide⟩
  · exact .inr ⟨'m', by simp, by decide⟩
  · exact .inr ⟨'h', by simp, by decide⟩
  · exact .inl rfl

inductive Writes : List Char → Duration → Prop where
  | intro {w number w' w'' : List Char} {n length : Nat} {unit : String} {d : Duration} :
    AllBlank w → AllBlank w' → AllBlank w'' → IsNumeral number n → n < 2 ^ 64 →
    (unit, length) ∈ units → n * length < 2 ^ 64 → d.millis.toNat = n * length →
    Writes (w ++ number ++ w' ++ unit.toList ++ w'') d

def EndsNumber (cs : List Char) : Prop := ∀ c ∈ cs.getLast?, c ≠ 's' ∧ c ≠ 'm' ∧ c ≠ 'h'

theorem endsNumber_append {number w : List Char} {n : Nat} (hnumber : IsNumeral number n)
    (hw : AllBlank w) : EndsNumber (number ++ w) := by
  have hletter {c : Char} (h : isDigit c = true ∨ isBlank c = true) :
      c ≠ 's' ∧ c ≠ 'm' ∧ c ≠ 'h' := by
    refine ⟨?_, ?_, ?_⟩ <;> rintro rfl <;> revert h <;> decide
  intro c hc
  apply hletter
  rw [List.getLast?_append] at hc
  cases hlast : w.getLast? with
  | none =>
    rw [hlast] at hc
    exact .inl (hnumber.last_isDigit c hc)
  | some d =>
    rw [hlast] at hc
    cases hc
    exact .inr (hw c (List.mem_of_getLast? hlast))

/-- The unit is found at the end of a text. -/
theorem splitUnit_append {cs : List Char} {unit : String} {length : Nat}
    (hunit : (unit, length) ∈ units) (hcs : EndsNumber cs) :
    splitUnit (cs ++ unit.toList) = (cs, length) := by
  have hother (c : Char) (rest : List Char) (h : cs.reverse = c :: rest) :
      c ≠ 's' ∧ c ≠ 'm' ∧ c ≠ 'h' := by
    apply hcs
    rw [← List.head?_reverse, h]
    rfl
  simp only [units, List.mem_cons, Prod.mk.injEq, List.not_mem_nil, or_false] at hunit
  unfold splitUnit
  rw [List.reverse_append]
  rcases hunit with ⟨rfl, rfl⟩ | ⟨rfl, rfl⟩ | ⟨rfl, rfl⟩ | ⟨rfl, rfl⟩ | ⟨rfl, rfl⟩
  · simp
  · -- The longer unit has another letter in front of this one.
    have hlonger (rest : List Char) : cs.reverse ≠ 'm' :: rest :=
      fun h => absurd rfl (hother 'm' rest h).2.1
    simp
  · simp
  · simp
  · rw [String.toList_empty, List.reverse_nil, List.nil_append, List.append_nil]
    split
    · exact absurd rfl (hother 's' _ ‹_›).1
    · exact absurd rfl (hother 's' _ ‹_›).1
    · exact absurd rfl (hother 'm' _ ‹_›).2.1
    · exact absurd rfl (hother 'h' _ ‹_›).2.2
    · rfl

theorem exists_splitUnit (cs : List Char) :
    ∃ unit, (unit, (splitUnit cs).2) ∈ units ∧ cs = (splitUnit cs).1 ++ unit.toList := by
  have hback {rest : List Char} (h : cs.reverse = rest) : cs = rest.reverse :=
    List.reverse_eq_iff.mp h
  unfold splitUnit
  split
  · rename_i rest h
    exact ⟨"ms", by simp [units], by rw [hback h]; simp⟩
  · rename_i rest _ h
    exact ⟨"s", by simp [units], by rw [hback h]; simp⟩
  · rename_i rest h
    exact ⟨"m", by simp [units], by rw [hback h]; simp⟩
  · rename_i rest h
    exact ⟨"h", by simp [units], by rw [hback h]; simp⟩
  · exact ⟨"", by simp [units], by simp⟩

theorem ofTrimmed?_eq_some_iff {cs : List Char} {d : Duration} :
    ofTrimmed? cs = some d ↔
      ∃ n, IsNumeral (trim (splitUnit cs).1) n ∧ n < 2 ^ 64 ∧ n * (splitUnit cs).2 < 2 ^ 64 ∧
        d.millis.toNat = n * (splitUnit cs).2 := by
  have hmillis {m : Nat} (hm : m < 2 ^ 64) : (⟨UInt64.ofNat m⟩ : Duration) = d ↔
      d.millis.toNat = m := by
    obtain ⟨millis⟩ := d
    rw [Duration.mk.injEq, ← UInt64.toNat_inj, UInt64.toNat_ofNat_of_lt' hm]
    exact eq_comm
  show ((word? _ (trim (splitUnit cs).1)).bind fun n =>
    if n * (splitUnit cs).2 < 18446744073709551616 then
      some (⟨UInt64.ofNat (n * (splitUnit cs).2)⟩ : Duration)
    else none) = some d ↔ _
  rw [Option.bind_eq_some_iff]
  apply exists_congr
  intro n
  rw [word?_eq_some_iff, and_assoc]
  apply and_congr_right
  intro _
  apply and_congr_right
  intro _
  split
  · rename_i hproduct
    rw [Option.some.injEq, hmillis hproduct]
    exact (and_iff_right hproduct).symm
  · rename_i hproduct
    constructor
    · intro h
      cases h
    · intro h
      exact absurd h.1 hproduct

/-- A number without white space around it is read with its unit. -/
theorem ofTrimmed?_append {number w : List Char} {n length : Nat} {unit : String} {d : Duration}
    (hnumber : IsNumeral number n) (hw : AllBlank w) (hn : n < 2 ^ 64)
    (hunit : (unit, length) ∈ units) (hproduct : n * length < 2 ^ 64)
    (hd : d.millis.toNat = n * length) : ofTrimmed? (number ++ w ++ unit.toList) = some d := by
  have htrim : trim (number ++ w) = number :=
    trim_append (w := []) (fun c hc => absurd hc List.not_mem_nil) hw hnumber.head_not_blank
      hnumber.last_not_blank
  rw [ofTrimmed?_eq_some_iff, splitUnit_append hunit (endsNumber_append hnumber hw)]
  simp only [htrim]
  exact ⟨n, hnumber, hn, hproduct, hd⟩

theorem writes_of_ofTrimmed? {cs w w' : List Char} {d : Duration} (h : ofTrimmed? cs = some d)
    (hw : AllBlank w) (hw' : AllBlank w') : Writes (w ++ cs ++ w') d := by
  obtain ⟨n, hnumber, hn, hproduct, hd⟩ := ofTrimmed?_eq_some_iff.mp h
  obtain ⟨unit, hunit, hcs⟩ := exists_splitUnit cs
  obtain ⟨v, v', hv, hv', hrest⟩ := (isTrimOf_trim (splitUnit cs).1).exists_blanks
  have hwrites := Writes.intro (hw.append hv) hv' hw' hnumber hn hunit hproduct hd
  rw [hcs, hrest]
  simpa only [List.append_assoc] using hwrites

theorem ofTrimmed?_trim {cs : List Char} {d : Duration} (h : Writes cs d) :
    ofTrimmed? (trim cs) = some d := by
  cases h with
  | @intro w number w' w'' n length unit d hw hw' hw'' hnumber hn hunit hproduct hd =>
    rcases unit_cases hunit with rfl | ⟨c, hlast, hc⟩
    · -- Without a unit, the white space behind the number is the one behind the text.
      have htrim : trim (w ++ number ++ (w' ++ w'')) = number :=
        trim_append hw (hw'.append hw'') hnumber.head_not_blank hnumber.last_not_blank
      rw [String.toList_empty, List.append_nil, List.append_assoc (w ++ number), htrim]
      have hread := ofTrimmed?_append hnumber (w := []) (by simp [AllBlank]) hn hunit hproduct hd
      rwa [List.append_nil, String.toList_empty, List.append_nil] at hread
    · have htrim : trim (w ++ (number ++ w' ++ unit.toList) ++ w'') =
          number ++ w' ++ unit.toList := by
        apply trim_append hw hw''
        · rw [List.append_assoc, List.head?_append, List.head?_eq_some_head hnumber.ne_nil,
            Option.some_or, ← List.head?_eq_some_head hnumber.ne_nil]
          exact hnumber.head_not_blank
        · rw [List.getLast?_append, hlast, Option.some_or]
          intro a ha
          cases ha
          exact hc
      rw [← List.append_assoc, ← List.append_assoc] at htrim
      rw [htrim]
      exact ofTrimmed?_append hnumber hw' hn hunit hproduct hd

/-- What is read without the white space around it is what the whole text writes. -/
theorem ofTrimmed?_trim_iff {cs : List Char} {d : Duration} :
    ofTrimmed? (trim cs) = some d ↔ Writes cs d := by
  constructor
  · intro h
    obtain ⟨w, w', hw, hw', hcs⟩ := (isTrimOf_trim cs).exists_blanks
    have hwrites := writes_of_ofTrimmed? h hw hw'
    rwa [← hcs] at hwrites
  · exact ofTrimmed?_trim

theorem parse_cases (s : String) :
    (∃ d, ofTrimmed? (trim s.toList) = some d ∧ parse s = .ok d) ∨
      ofTrimmed? (trim s.toList) = none ∧
        parse s = .error (.badDuration (String.ofList (trim s.toList))) := by
  unfold parse
  simp only
  cases ofTrimmed? (trim s.toList) with
  | none => exact .inr ⟨rfl, rfl⟩
  | some d => exact .inl ⟨d, rfl, rfl⟩

theorem writes_of_parse {s : String} {d : Duration} (h : parse s = .ok d) :
    Writes s.toList d := by
  rcases parse_cases s with ⟨d', hread, hparse⟩ | ⟨-, hparse⟩
  · cases hparse.symm.trans h
    exact ofTrimmed?_trim_iff.mp hread
  · cases hparse.symm.trans h

/-- A text is read as a duration just when it writes it, and the error for any other text shows what
is left of it without the white space around it. -/
theorem reads_exactly_written (s : String) :
    (∀ d, parse s = .ok d ↔ Writes s.toList d) ∧
      ((∃ core, IsTrimOf core s.toList ∧
        parse s = .error (.badDuration (String.ofList core))) ↔ ∀ d, ¬ Writes s.toList d) := by
  simp only [← ofTrimmed?_trim_iff]
  rcases parse_cases s with ⟨d, hread, hparse⟩ | ⟨hread, hparse⟩
  · rw [hread, hparse]
    constructor
    · intro d'
      rw [Except.ok.injEq, Option.some.injEq]
    · constructor
      · intro h
        obtain ⟨core, -, herror⟩ := h
        cases herror
      · intro h
        exact absurd rfl (h d)
  · rw [hread, hparse]
    constructor
    · intro d'
      constructor <;> intro h <;> cases h
    · constructor
      · intro _ d' h
        cases h
      · intro _
        exact ⟨trim s.toList, isTrimOf_trim s.toList, rfl⟩

example : parse " +07 m\t" = .ok ⟨420000⟩ := by decide +kernel

end Duration

end ServicePlacement
