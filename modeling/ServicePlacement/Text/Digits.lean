/-!
Natural numbers written with digits: reading a run of digits in a base, and the fewest decimal
digits of a number. `ofDigits?_toDigits` says that reading takes back what writing produces.
-/
namespace ServicePlacement.Text

def digitValue? (c : Char) : Option Nat :=
  let n := c.toNat
  if 48 ≤ n && n ≤ 57 then some (n - 48)
  else if 97 ≤ n && n ≤ 122 then some (n - 87)
  else if 65 ≤ n && n ≤ 90 then some (n - 55)
  else none

def isDigit (c : Char) : Bool := 48 ≤ c.toNat && c.toNat ≤ 57

def isDigitOf (base : Nat) (c : Char) : Bool :=
  match digitValue? c with
  | some d => decide (d < base)
  | none => false

def digitsFrom? (base : Nat) (value : Nat) : List Char → Option Nat
  | [] => some value
  | c :: rest =>
    match digitValue? c with
    | some d => if d < base then digitsFrom? base (base * value + d) rest else none
    | none => none

def ofDigits? (base : Nat) : List Char → Option Nat
  | [] => none
  | cs => digitsFrom? base 0 cs

def toDecimal (n : Nat) : List Char := Nat.toDigits 10 n

def toHex4 (n : Nat) : List Char :=
  [n / 4096 % 16, n / 256 % 16, n / 16 % 16, n % 16].map Nat.digitChar

def word? (bound : Nat) (cs : List Char) : Option Nat :=
  match ofDigits? 10 (match cs with | '+' :: rest => rest | _ => cs) with
  | some n => if n < bound then some n else none
  | none => none

theorem isDigit_eq (c : Char) : isDigit c = isDigitOf 10 c := by
  unfold isDigit isDigitOf digitValue?
  grind

theorem digitsFrom?_append (base value : Nat) (cs ds : List Char) :
    digitsFrom? base value (cs ++ ds) =
      (digitsFrom? base value cs).bind fun v => digitsFrom? base v ds := by
  induction cs generalizing value with
  | nil => rfl
  | cons c rest ih =>
    simp only [List.cons_append, digitsFrom?]
    split
    · split
      · exact ih _
      · rfl
    · rfl

theorem digitValue?_digitChar {d : Nat} (h : d < 16) : digitValue? d.digitChar = some d := by
  revert d
  decide

/-- The digits of a number are one digit, or the digits of a smaller number and one more. -/
theorem toDigits_induction {base : Nat} (hb : 1 < base) {P : Nat → List Char → Prop}
    (digit : ∀ d < base, P d [d.digitChar])
    (append : ∀ n d, 0 < n → d < base → P n (Nat.toDigits base n) →
      P (base * n + d) (Nat.toDigits base n ++ [d.digitChar]))
    (n : Nat) : P n (Nat.toDigits base n) := by
  induction n using Nat.strongRecOn with
  | ind n ih =>
    by_cases hn : n < base
    · rw [Nat.toDigits_of_lt_base hn]
      exact digit n hn
    · have hpos : 0 < n / base := Nat.div_pos (by omega) (by omega)
      have hless : n / base < n := Nat.div_lt_self (by omega) hb
      have hmod : n % base < base := Nat.mod_lt _ (by omega)
      have happend := append (n / base) (n % base) hpos hmod (ih (n / base) hless)
      rwa [Nat.div_add_mod, ← Nat.toDigits_of_base_le hb (by omega)] at happend

variable {base : Nat}

theorem digitsFrom?_toDigits (hb : 1 < base) (hb' : base ≤ 16) (n : Nat) :
    digitsFrom? base 0 (Nat.toDigits base n) = some n := by
  refine toDigits_induction hb (P := fun n cs => digitsFrom? base 0 cs = some n) ?_ ?_ n
  · intro d hd
    have hvalue := digitValue?_digitChar (d := d) (by omega)
    simp [digitsFrom?, hvalue, hd]
  · intro n d _ hd ih
    have hvalue := digitValue?_digitChar (d := d) (by omega)
    simp [digitsFrom?_append, ih, digitsFrom?, hvalue, hd]

/-- Reading takes back what writing produces. -/
theorem ofDigits?_toDigits (hb : 1 < base) (hb' : base ≤ 16) (n : Nat) :
    ofDigits? base (Nat.toDigits base n) = some n := by
  have h := digitsFrom?_toDigits hb hb' n
  cases hd : Nat.toDigits base n with
  | nil => exact absurd hd Nat.toDigits_ne_nil
  | cons c rest =>
    rw [hd] at h
    exact h

theorem isDigitOf_of_mem_toDigits (hb : 1 < base) (hb' : base ≤ 16) (n : Nat) :
    ∀ c ∈ Nat.toDigits base n, isDigitOf base c = true := by
  have hdigit (d : Nat) (hd : d < base) : isDigitOf base d.digitChar = true := by
    have hvalue := digitValue?_digitChar (d := d) (by omega)
    simp [isDigitOf, hvalue, hd]
  refine toDigits_induction hb (P := fun _ cs => ∀ c ∈ cs, isDigitOf base c = true) ?_ ?_ n
  · intro d hd c hc
    rw [List.mem_singleton.mp hc]
    exact hdigit d hd
  · intro n d _ hd ih c hc
    rcases List.mem_append.mp hc with hc | hc
    · exact ih c hc
    · rw [List.mem_singleton.mp hc]
      exact hdigit d hd

theorem not_mem_toDigits (hb : 1 < base) (hb' : base ≤ 16) (n : Nat) {c : Char}
    (hc : isDigitOf base c = false) : c ∉ Nat.toDigits base n := by
  intro h
  have hdigit := isDigitOf_of_mem_toDigits hb hb' n c h
  rw [hc] at hdigit
  cases hdigit

def EndsDigits (base : Nat) (rest : List Char) : Prop :=
  ∀ c ∈ rest.head?, isDigitOf base c = false

theorem endsDigits_nil : EndsDigits base [] := by
  intro c hc
  cases hc

theorem endsDigits_cons {c : Char} {rest : List Char} (h : isDigitOf base c = false) :
    EndsDigits base (c :: rest) := by
  intro d hd
  cases hd
  exact h

/-- A digit is one of every larger base. -/
theorem isDigitOf_of_le {base base' : Nat} (hbase : base ≤ base') {c : Char}
    (h : isDigitOf base c = true) : isDigitOf base' c = true := by
  unfold isDigitOf at h ⊢
  split at h
  · simp only [decide_eq_true_eq] at h ⊢
    omega
  · cases h

theorem endsDigits_decimal {rest : List Char} (h : EndsDigits 16 rest) : EndsDigits 10 rest := by
  intro c hc
  refine eq_false_of_ne_true fun hdigit => ?_
  have h16 := h c hc
  rw [isDigitOf_of_le (by decide) hdigit] at h16
  cases h16

/-- A run of characters ends where the first other one stands. -/
theorem takeWhile_append_of_ends {p : Char → Bool} {cs rest : List Char} (h : ∀ c ∈ cs, p c = true)
    (hrest : ∀ c ∈ rest.head?, p c = false) : (cs ++ rest).takeWhile p = cs := by
  rw [List.takeWhile_append_of_pos h]
  cases rest with
  | nil => simp
  | cons c rest => rw [List.takeWhile_cons_of_neg (by simp [hrest c rfl]), List.append_nil]

theorem dropWhile_append_of_ends {p : Char → Bool} {cs rest : List Char} (h : ∀ c ∈ cs, p c = true)
    (hrest : ∀ c ∈ rest.head?, p c = false) : (cs ++ rest).dropWhile p = rest := by
  rw [List.dropWhile_append_of_pos h]
  cases rest with
  | nil => rfl
  | cons c rest => exact List.dropWhile_cons_of_neg (by simp [hrest c rfl])

theorem takeWhile_toDigits_append (hb : 1 < base) (hb' : base ≤ 16) (n : Nat) {rest : List Char}
    (hrest : EndsDigits base rest) :
    (Nat.toDigits base n ++ rest).takeWhile (isDigitOf base) = Nat.toDigits base n :=
  takeWhile_append_of_ends (isDigitOf_of_mem_toDigits hb hb' n) hrest

theorem dropWhile_toDigits_append (hb : 1 < base) (hb' : base ≤ 16) (n : Nat) {rest : List Char}
    (hrest : EndsDigits base rest) :
    (Nat.toDigits base n ++ rest).dropWhile (isDigitOf base) = rest :=
  dropWhile_append_of_ends (isDigitOf_of_mem_toDigits hb hb' n) hrest

theorem exists_toDecimal_cons (n : Nat) :
    ∃ d ds, toDecimal n = d :: ds ∧ isDigitOf 10 d = true := by
  cases h : toDecimal n with
  | nil => exact absurd h Nat.toDigits_ne_nil
  | cons d ds =>
    refine ⟨d, ds, rfl, isDigitOf_of_mem_toDigits (by decide) (by decide) n d ?_⟩
    rw [← toDecimal, h]
    exact List.mem_cons_self

/-- Only zero is written with a leading zero. -/
theorem eq_zero_of_head?_toDigits (hb : 1 < base) {n : Nat}
    (h : (Nat.toDigits base n).head? = some '0') : n = 0 := by
  revert h
  refine toDigits_induction hb (P := fun n cs => cs.head? = some '0' → n = 0) ?_ ?_ n
  · intro d _ hd
    simpa using hd
  · intro n d hn _ ih h
    cases hd : Nat.toDigits base n with
    | nil => exact absurd hd Nat.toDigits_ne_nil
    | cons c rest =>
      rw [hd] at ih h
      have hzero := ih h
      omega

theorem toDecimal_ne_zero_cons (n : Nat) (c : Char) (cs : List Char) :
    toDecimal n ≠ '0' :: c :: cs := by
  intro h
  have hzero : n = 0 := eq_zero_of_head?_toDigits (by decide : 1 < 10) (congrArg List.head? h)
  rw [hzero] at h
  cases h

end ServicePlacement.Text
