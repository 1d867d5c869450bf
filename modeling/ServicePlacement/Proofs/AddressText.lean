import ServicePlacement.Net.Endpoint

/-!
Addresses and endpoints are read back from their text. Numbers are read up to the first character that is no
digit, and an address up to the first one that cannot go on with it, so every part is read back
before any rest that begins otherwise. In the short form of an address, the groups that are left out
are known to be zeros (`take_append_zeros`), and how many they are follows from those that are there.
-/
namespace ServicePlacement

open Text (EndsDigits endsDigits_nil endsDigits_cons endsDigits_decimal)

section

variable {base n bound : Nat} {most : Option Nat} {rest : List Char}

/-- A number is read back from its digits. -/
theorem readNumber_toDigits (hb : 1 < base) (hb' : base ≤ 16) (hn : n < bound)
    (hmost : ∀ m ∈ most, (Nat.toDigits base n).length ≤ m) (hrest : EndsDigits base rest) :
    readNumber base most bound (Nat.toDigits base n ++ rest) = some (n, rest) := by
  have hfits : (most.any fun m => decide (m < (Nat.toDigits base n).length)) = false := by
    cases most with
    | none => rfl
    | some m => simpa using hmost m rfl
  unfold readNumber
  simp only [Text.takeWhile_toDigits_append hb hb' n hrest,
    Text.dropWhile_toDigits_append hb hb' n hrest, hfits, Text.ofDigits?_toDigits hb hb']
  simp [hn]

/-- Where no digit stands, no number is read. -/
theorem readNumber_eq_none (hrest : EndsDigits base rest) :
    readNumber base most bound rest = none := by
  have hnone : rest.takeWhile (Text.isDigitOf base) = [] := by
    cases rest with
    | nil => rfl
    | cons c rest => exact List.takeWhile_cons_of_neg (by simp [hrest c rfl])
  unfold readNumber
  simp [hnone, Text.ofDigits?]

/-- What is left after a number is part of the text. -/
theorem mem_of_readNumber {cs : List Char} (h : readNumber base most bound cs = some (n, rest)) :
    ∀ c ∈ rest, c ∈ cs := by
  simp only [readNumber] at h
  split at h
  · cases h
  · obtain ⟨m, -, hm⟩ := Option.bind_eq_some_iff.mp h
    split at hm
    · cases hm
      intro c hc
      exact (List.dropWhile_sublist _).mem hc
    · cases hm

end

theorem readChar_cons (c : Char) (rest : List Char) : readChar c (c :: rest) = some rest := by
  simp [readChar]

theorem readChar_eq_some {c : Char} {cs rest : List Char} (h : readChar c cs = some rest) :
    cs = c :: rest := by
  unfold readChar at h
  cases cs with
  | nil => cases h
  | cons x cs =>
    by_cases hx : x = c
    · simpa [hx] using h
    · simp [hx] at h

namespace Ipv4

theorem readOctet_toDecimal (n : UInt8) {rest : List Char} (hrest : EndsDigits 10 rest) :
    readOctet (Text.toDecimal n.toNat ++ rest) = some (n, rest) := by
  have hlt := n.toNat_lt
  have hnumber : readNumber 10 (some 3) 256 (Text.toDecimal n.toNat ++ rest) =
      some (n.toNat, rest) := by
    refine readNumber_toDigits (by decide) (by decide) hlt ?_ hrest
    intro m hm
    cases hm
    exact (Nat.length_toDigits_le_iff (by decide) (by decide)).mpr (by omega)
  unfold readOctet
  split
  · rename_i c tail hcs
    -- A leading zero that is followed by something is the number zero.
    have hzero : n = 0 := by
      refine UInt8.toNat_inj.mp (Text.eq_zero_of_head?_toDigits (by decide : 1 < 10) ?_)
      cases hd : Nat.toDigits 10 n.toNat with
      | nil => exact absurd hd Nat.toDigits_ne_nil
      | cons d ds =>
        rw [Text.toDecimal, hd, List.cons_append] at hcs
        exact congrArg some (List.cons_eq_cons.mp hcs).1
    subst hzero
    have hzeroDigits : Text.toDecimal (0 : UInt8).toNat = ['0'] := by decide
    rw [hzeroDigits] at hcs ⊢
    cases hcs
    have hc : Text.isDigit c = false := by rw [Text.isDigit_eq, hrest c rfl]
    simp [hc]
  · rw [hnumber]
    simp

theorem readOctet_eq_none {cs : List Char} (h : EndsDigits 10 cs) : readOctet cs = none := by
  unfold readOctet
  split
  · exact absurd (h '0' rfl) (by decide)
  · rw [readNumber_eq_none h]
    rfl

theorem mem_of_readOctet {cs rest : List Char} {n : UInt8} (h : readOctet cs = some (n, rest)) :
    ∀ c ∈ rest, c ∈ cs := by
  unfold readOctet at h
  split at h
  · split at h
    · cases h
    · cases h
      intro c hc
      exact List.mem_of_mem_drop hc
  · obtain ⟨m, hm, hrest⟩ := Option.bind_eq_some_iff.mp h
    cases hrest
    exact mem_of_readNumber hm

theorem read_chars (ip : Ipv4) {rest : List Char} (hrest : EndsDigits 10 rest) :
    read (ip.chars ++ rest) = some (ip, rest) := by
  have hdot (cs : List Char) : EndsDigits 10 ('.' :: cs) := endsDigits_cons (by decide)
  simp [read, chars, readOctet_toDecimal _ (hdot _), readOctet_toDecimal _ hrest, readChar_cons]

/-- Where no digit stands, no address is read. -/
theorem read_eq_none_of_endsDigits {cs : List Char} (h : EndsDigits 10 cs) : read cs = none := by
  unfold read
  rw [readOctet_eq_none h]
  rfl

/-- Where there is no dot, no address is read. -/
theorem read_eq_none_of_not_mem {cs : List Char} (h : '.' ∉ cs) : read cs = none := by
  unfold read
  cases hoctet : readOctet cs with
  | none => rfl
  | some r =>
    have hnone : readChar '.' r.2 = none := by
      cases hdot : readChar '.' r.2 with
      | none => rfl
      | some rest =>
        refine absurd (mem_of_readOctet hoctet '.' ?_) h
        rw [readChar_eq_some hdot]
        exact List.mem_cons_self
    simp [hnone]

end Ipv4

namespace Ipv6

/-! ### Runs of zeros -/

def IsZeroRun (gs : List UInt16) (r : Run) : Prop :=
  ∀ i, r.start ≤ i → i < r.start + r.length → gs[i]? = some 0

theorem isZeroRun_empty (gs : List UInt16) : IsZeroRun gs ⟨0, 0⟩ := by
  intro i _ hi
  exact absurd hi (by simp)

theorem IsZeroRun.extend {gs : List UInt16} {start length : Nat} (h : IsZeroRun gs ⟨start, length⟩)
    (hzero : gs[start + length]? = some 0) : IsZeroRun gs ⟨start, length + 1⟩ := by
  intro i hlow hhigh
  by_cases hi : i = start + length
  · rw [hi]
    exact hzero
  · exact h i hlow (by simp only at hhigh ⊢; omega)

/-- The search keeps two stretches of zeros, the best one so far and the one that ends where the
search is. -/
theorem isZeroRun_longestRun {gs : List UInt16} {index : Nat} {current best : Run}
    {rest : List UInt16} (hrest : gs.drop index = rest)
    (hends : current.length ≠ 0 → current.start + current.length = index)
    (hcurrent : IsZeroRun gs current) (hbest : IsZeroRun gs best) :
    IsZeroRun gs (longestRun index current best rest) := by
  induction rest generalizing index current best with
  | nil => exact hbest
  | cons x rest ih =>
    have hx : gs[index]? = some x := by rw [← List.head?_drop, hrest]; rfl
    have hdrop : gs.drop (index + 1) = rest := by rw [← List.drop_drop, hrest]; rfl
    unfold longestRun
    split
    · rename_i hzero
      rw [hzero] at hx
      -- The stretch that ends here begins here or goes on from the group before.
      obtain ⟨next, hdef⟩ : ∃ next : Run, next =
        if current.length = 0 then ⟨index, 1⟩ else ⟨current.start, current.length + 1⟩ := ⟨_, rfl⟩
      obtain ⟨hnext, hnextEnds⟩ :
          IsZeroRun gs next ∧ next.start + next.length = index + 1 := by
        rw [hdef]
        split
        · have hnone : IsZeroRun gs ⟨index, 0⟩ := fun i hlow hhigh =>
            absurd hhigh (by simp only at hlow ⊢; omega)
          exact ⟨hnone.extend hx, rfl⟩
        · rename_i hlength
          have hend := hends hlength
          exact ⟨hcurrent.extend (by rw [hend]; exact hx), by simp only; omega⟩
      rw [← hdef]
      refine ih hdrop (fun _ => hnextEnds) hnext ?_
      split
      · exact hnext
      · exact hbest
    · exact ih hdrop (fun h => absurd rfl h) (isZeroRun_empty gs) hbest

/-- A list is what comes before a run of zeros, the zeros, and what comes after. -/
theorem take_append_zeros {gs : List UInt16} {r : Run} (h : IsZeroRun gs r) :
    gs.take r.start ++ List.replicate r.length 0 ++ gs.drop (r.start + r.length) = gs := by
  have hzeros : (gs.drop r.start).take r.length = List.replicate r.length 0 := by
    refine List.ext_getElem? fun i => ?_
    rw [List.getElem?_take, List.getElem?_replicate]
    split
    · rw [List.getElem?_drop]
      exact h _ (by omega) (by omega)
    · rfl
  rw [← hzeros, ← List.drop_drop, List.append_assoc, List.take_append_drop, List.take_append_drop]

/-! ### Groups -/

/-- A rest in front of which the reading of groups ends: neither a digit stands there nor a colon
with a digit behind it. -/
def EndsGroups (rest : List Char) : Prop :=
  EndsDigits 16 rest ∧ ∀ body, rest = ':' :: body → EndsDigits 16 body

theorem endsGroups_cons {c : Char} {rest : List Char} (hdigit : Text.isDigitOf 16 c = false)
    (hcolon : c ≠ ':') : EndsGroups (c :: rest) := by
  refine ⟨endsDigits_cons hdigit, fun body hbody => ?_⟩
  exact absurd (List.cons_eq_cons.mp hbody).1 hcolon

theorem endsGroups_double_colon (rest : List Char) : EndsGroups (':' :: ':' :: rest) := by
  refine ⟨endsDigits_cons (by decide), fun body hbody => ?_⟩
  rw [← (List.cons_eq_cons.mp hbody).2]
  exact endsDigits_cons (by decide)

theorem readNumber_groupChars (x : UInt16) {rest : List Char} (hrest : EndsDigits 16 rest) :
    readNumber 16 (some 4) 65536 (groupChars x ++ rest) = some (x.toNat, rest) := by
  have hlt := x.toNat_lt
  refine readNumber_toDigits (by decide) (by decide) hlt ?_ hrest
  intro m hm
  cases hm
  exact (Nat.length_toDigits_le_iff (by decide) (by decide)).mpr (by omega)

/-- Reading ends where no group can begin. -/
theorem readGroups_of_ends {rest : List Char} (hrest : EndsGroups rest) (room : Nat)
    (first : Bool) : readGroups room first rest = ⟨[], false, rest⟩ := by
  cases room with
  | zero => rfl
  | succ room =>
    have hnone (body : List Char) (hends : EndsDigits 16 body) :
        (if room = 0 then none else Ipv4.read body) = none ∧
          readNumber 16 (some 4) 65536 body = none := by
      refine ⟨?_, readNumber_eq_none hends⟩
      rw [Ipv4.read_eq_none_of_endsDigits (endsDigits_decimal hends), ite_self]
    unfold readGroups
    cases first with
    | true =>
      obtain ⟨hoctets, hnumber⟩ := hnone rest hrest.1
      simp only [if_true, hoctets, hnumber]
    | false =>
      cases hcolon : readChar ':' rest with
      | none => simp
      | some body =>
        obtain ⟨hoctets, hnumber⟩ := hnone body (hrest.2 body (readChar_eq_some hcolon))
        simp only [Bool.false_eq_true, if_false, hoctets, hnumber]

theorem dot_not_mem_groupChars (x : UInt16) : '.' ∉ groupChars x :=
  Text.not_mem_toDigits (by decide) (by decide) x.toNat rfl

def colonGroups (gs : List UInt16) : List Char := gs.flatMap fun g => ':' :: groupChars g

theorem dot_not_mem_colonGroups (gs : List UInt16) : '.' ∉ colonGroups gs := by
  intro h
  obtain ⟨g, -, hg⟩ := List.mem_flatMap.mp h
  rcases List.mem_cons.mp hg with hcolon | hmem
  · exact absurd hcolon (by decide)
  · exact dot_not_mem_groupChars g hmem

theorem endsDigits_colonGroups (gs : List UInt16) {rest : List Char} (hrest : EndsDigits 16 rest) :
    EndsDigits 16 (colonGroups gs ++ rest) := by
  cases gs with
  | nil => exact hrest
  | cons g gs => exact endsDigits_cons (by decide)

theorem joined_cons (x : UInt16) (gs : List UInt16) :
    joined (x :: gs) = groupChars x ++ colonGroups gs := by
  induction gs generalizing x with
  | nil => simp [joined, colonGroups]
  | cons y rest ih =>
    rw [joined, ih]
    · simp [colonGroups]
    · simp

theorem dot_not_mem_joined (gs : List UInt16) : '.' ∉ joined gs := by
  cases gs with
  | nil => simp [joined]
  | cons g gs =>
    rw [joined_cons, List.mem_append]
    rintro (h | h)
    · exact dot_not_mem_groupChars g h
    · exact dot_not_mem_colonGroups gs h

/-- Among groups there is no dot, so no octets are read from them. -/
theorem readOctets_groups (x : UInt16) (gs : List UInt16) {rest : List Char} (hdot : '.' ∉ rest) :
    Ipv4.read (groupChars x ++ (colonGroups gs ++ rest)) = none := by
  refine Ipv4.read_eq_none_of_not_mem ?_
  simp [dot_not_mem_groupChars, dot_not_mem_colonGroups, hdot]

/-- One group is read where no octets stand. -/
theorem readGroups_group {room : Nat} {first : Bool} {cs body : List Char} {more : Part}
    (x : UInt16)
    (hbody : (if first then some cs else readChar ':' cs) = some (groupChars x ++ body))
    (hoctets : Ipv4.read (groupChars x ++ body) = none) (hends : EndsDigits 16 body)
    (hmore : readGroups room false body = more) :
    readGroups (room + 1) first cs = ⟨x :: more.groups, more.endsInOctets, more.rest⟩ := by
  rw [readGroups]
  simp only [hbody, hoctets, ite_self, readNumber_groupChars x hends, hmore, UInt16.ofNat_toNat]

/-- Groups with a colon before each are read back, up to a rest where no group can begin. -/
theorem readGroups_colonGroups (gs : List UInt16) {room : Nat} (hroom : gs.length ≤ room)
    {rest : List Char} (hdot : '.' ∉ rest) (hrest : EndsGroups rest) :
    readGroups room false (colonGroups gs ++ rest) = ⟨gs, false, rest⟩ := by
  induction gs generalizing room with
  | nil => exact readGroups_of_ends hrest room false
  | cons x gs ih =>
    rw [List.length_cons] at hroom
    obtain ⟨room, rfl⟩ : ∃ m, room = m + 1 := Nat.exists_eq_add_one.mpr (by omega)
    exact readGroups_group x (by simp [colonGroups, readChar_cons]) (readOctets_groups x gs hdot)
      (endsDigits_colonGroups gs hrest.1) (ih (by omega))

/-- Groups are read back from their text, up to a rest where no group can begin. -/
theorem readGroups_joined (gs : List UInt16) {room : Nat} (hroom : gs.length ≤ room)
    {rest : List Char} (hdot : '.' ∉ rest) (hrest : EndsGroups rest) :
    readGroups room true (joined gs ++ rest) = ⟨gs, false, rest⟩ := by
  cases gs with
  | nil => exact readGroups_of_ends hrest room true
  | cons x gs =>
    rw [List.length_cons] at hroom
    obtain ⟨room, rfl⟩ : ∃ m, room = m + 1 := Nat.exists_eq_add_one.mpr (by omega)
    exact readGroups_group x (by simp only [if_true, joined_cons, List.append_assoc])
      (readOctets_groups x gs hdot) (endsDigits_colonGroups gs hrest.1)
      (readGroups_colonGroups gs (by omega) hdot hrest)

/-- Two groups are read from four octets, which end the part. -/
theorem readGroups_octets {room : Nat} (ip : Ipv4) {rest : List Char} (hrest : EndsDigits 10 rest) :
    readGroups (room + 2) false (':' :: (ip.chars ++ rest)) =
      ⟨[ip.a.toUInt16 * 256 + ip.b.toUInt16, ip.c.toUInt16 * 256 + ip.d.toUInt16], true, rest⟩ := by
  rw [readGroups]
  simp [readChar_cons, Ipv4.read_chars ip hrest]

/-! ### Addresses -/

def EndsAddress (rest : List Char) : Prop :=
  '.' ∉ rest ∧ EndsGroups rest

theorem endsAddress_nil : EndsAddress [] := by
  refine ⟨List.not_mem_nil, endsDigits_nil, fun body hbody => ?_⟩
  cases hbody

theorem octets_of_group (x : UInt16) :
    (x / 256).toUInt8.toUInt16 * 256 + (x % 256).toUInt8.toUInt16 = x := by
  have hlt := x.toNat_lt
  apply UInt16.toNat_inj.mp
  simp
  omega

theorem mapped?_eq_some {ip : Ipv6} {octets : Ipv4} (h : ip.mapped? = some octets) :
    ip.groups = List.replicate 5 0 ++ [0xFFFF, octets.a.toUInt16 * 256 + octets.b.toUInt16,
      octets.c.toUInt16 * 256 + octets.d.toUInt16] := by
  unfold mapped? at h
  split at h
  · rename_i hzeros
    obtain ⟨ha, hb, hc, hd, he, hf⟩ := hzeros
    cases h
    simp only [groups, ha, hb, hc, hd, he, hf, octets_of_group, List.replicate, List.cons_append,
      List.nil_append]
  · cases h

theorem read_chars_mapped {ip : Ipv6} {octets : Ipv4} (hmapped : ip.mapped? = some octets)
    {rest : List Char} (hrest : EndsDigits 10 rest) :
    read ("::ffff:".toList ++ octets.chars ++ rest) = some (ip, rest) := by
  obtain ⟨body, hbody⟩ : ∃ body, body = "ffff:".toList ++ octets.chars ++ rest := ⟨_, rfl⟩
  have hgroup : groupChars 0xFFFF ++ ':' :: (octets.chars ++ rest) = body := by
    rw [hbody, show groupChars 0xFFFF = "ffff".toList by decide]
    rfl
  -- The first group begins with a letter, so it is not taken for an octet.
  have hoctets : Ipv4.read body = none := by
    rw [hbody]
    exact Ipv4.read_eq_none_of_endsDigits (endsDigits_cons (by decide))
  have htail : readGroups 7 true body = ⟨[0xFFFF, octets.a.toUInt16 * 256 + octets.b.toUInt16,
      octets.c.toUInt16 * 256 + octets.d.toUInt16], true, rest⟩ := by
    refine readGroups_group 0xFFFF ?_ ?_ (endsDigits_cons (by decide))
      (readGroups_octets octets hrest)
    · rw [hgroup, if_pos rfl]
    · rw [hgroup]
      exact hoctets
  have hhead := readGroups_of_ends (endsGroups_double_colon body) 8 true
  have hgroups : ofGroups? ip.groups = some ip := rfl
  rw [mapped?_eq_some hmapped] at hgroups
  show read (':' :: ':' :: ("ffff:".toList ++ octets.chars ++ rest)) = _
  rw [← hbody]
  unfold read
  simp only [hhead, List.length_nil, Nat.sub_zero, htail, readChar_cons, Option.bind_eq_bind,
    Option.bind_some]
  exact congrArg (Option.bind · fun ip => some (ip, rest)) hgroups

theorem read_chars_compressed (ip : Ipv6) {run : Run} (hrun : IsZeroRun ip.groups run)
    (hlength : 1 < run.length) {rest : List Char} (hrest : EndsAddress rest) :
    read (joined (ip.groups.take run.start) ++ ':' :: ':' ::
      (joined (ip.groups.drop (run.start + run.length)) ++ rest)) = some (ip, rest) := by
  obtain ⟨hdot, hends⟩ := hrest
  have hsize : ip.groups.length = 8 := rfl
  have hfits : run.start + run.length ≤ 8 := by
    have hlast := hrun (run.start + run.length - 1) (by omega) (by omega)
    have := (List.getElem?_eq_some_iff.mp hlast).1
    omega
  have htake : (ip.groups.take run.start).length = run.start := by rw [List.length_take]; omega
  have hdrop : (ip.groups.drop (run.start + run.length)).length =
      8 - (run.start + run.length) := List.length_drop
  have hnodot : '.' ∉ ':' :: ':' ::
      (joined (ip.groups.drop (run.start + run.length)) ++ rest) := by
    simp [dot_not_mem_joined, hdot]
  have hhead := readGroups_joined (ip.groups.take run.start) (by omega : _ ≤ 8) hnodot
    (endsGroups_double_colon _)
  have htail := readGroups_joined (ip.groups.drop (run.start + run.length))
    (by omega : _ ≤ 7 - run.start) hdot hends
  -- As many zeros are filled in as were left out.
  have hzeros : 8 - run.start - (8 - (run.start + run.length)) = run.length := by omega
  have hne : run.start ≠ 8 := by omega
  unfold read
  simp only [hhead, htake, hne, if_false, readChar_cons, Option.bind_eq_bind, Option.bind_some,
    htail, hdrop, hzeros, take_append_zeros hrun, Bool.false_eq_true]
  rfl

theorem read_chars_plain (ip : Ipv6) {rest : List Char} (hrest : EndsAddress rest) :
    read (joined ip.groups ++ rest) = some (ip, rest) := by
  have hgroups := readGroups_joined ip.groups (by decide : 8 ≤ 8) hrest.1 hrest.2
  unfold read
  simp only [hgroups]
  rfl

/-- An address is read back from its text. -/
theorem read_chars (ip : Ipv6) {rest : List Char} (hrest : EndsAddress rest) :
    read (ip.chars ++ rest) = some (ip, rest) := by
  unfold chars
  split
  · rename_i octets hmapped
    exact read_chars_mapped hmapped (endsDigits_decimal hrest.2.1)
  · have hrun : IsZeroRun ip.groups (longestRun 0 ⟨0, 0⟩ ⟨0, 0⟩ ip.groups) :=
      isZeroRun_longestRun rfl (fun h => absurd rfl h) (isZeroRun_empty _) (isZeroRun_empty _)
    simp only
    split
    · rename_i hlength
      have hread := read_chars_compressed ip hrun hlength hrest
      simpa only [List.append_assoc, List.cons_append] using hread
    · exact read_chars_plain ip hrest

/-- The text of an address of eight groups is not that of four octets. -/
theorem read_v4_chars_eq_none (ip : Ipv6) : Ipv4.read ip.chars = none := by
  unfold chars
  split
  · exact Ipv4.read_eq_none_of_endsDigits (endsDigits_cons (by decide))
  · apply Ipv4.read_eq_none_of_not_mem
    simp only
    split
    · simp [dot_not_mem_joined]
    · exact dot_not_mem_joined _

end Ipv6

namespace IpAddress

/-- An address is read back from its text. -/
theorem parse?_text (ip : IpAddress) : parse? ip.text = some ip := by
  unfold parse? text
  rw [String.toList_ofList]
  cases ip with
  | v4 ip =>
    have hread := ip.read_chars endsDigits_nil
    rw [List.append_nil] at hread
    simp [read, chars, hread]
  | v6 ip =>
    have hread := ip.read_chars Ipv6.endsAddress_nil
    rw [List.append_nil] at hread
    simp [read, chars, ip.read_v4_chars_eq_none, hread]

/-- Different addresses have different texts. -/
theorem text_injective : Function.Injective text := by
  intro a b h
  have hread := congrArg parse? h
  rw [parse?_text, parse?_text] at hread
  exact Option.some.inj hread

end IpAddress

namespace Endpoint

theorem readPort_chars (port : UInt16) :
    readPort (':' :: Text.toDecimal port.toNat) = some (port, []) := by
  have hnumber : readNumber 10 none 65536 (Text.toDecimal port.toNat ++ []) =
      some (port.toNat, []) :=
    readNumber_toDigits (by decide) (by decide) port.toNat_lt (by simp) endsDigits_nil
  rw [List.append_nil] at hnumber
  simp [readPort, readChar_cons, hnumber]

theorem readScope_chars (scope : UInt32) {rest : List Char} (hrest : EndsDigits 10 rest)
    (hpercent : readChar '%' rest = none) :
    readScope ((if scope = 0 then [] else '%' :: Text.toDecimal scope.toNat) ++ rest) =
      (scope, rest) := by
  unfold readScope
  by_cases hzero : scope = 0
  · simp [hzero, hpercent]
  · have hnumber : readNumber 10 none 4294967296 (Text.toDecimal scope.toNat ++ rest) =
        some (scope.toNat, rest) :=
      readNumber_toDigits (by decide) (by decide) scope.toNat_lt (by simp) hrest
    simp [hzero, readChar_cons, hnumber]

theorem readV4_chars (ip : Ipv4) (port : UInt16) :
    readV4 (v4 ip port).chars = some (v4 ip port, []) := by
  have hread : Ipv4.read (ip.chars ++ ':' :: Text.toDecimal port.toNat) =
      some (ip, ':' :: Text.toDecimal port.toNat) := ip.read_chars (endsDigits_cons (by decide))
  simp [readV4, chars, hread, readPort_chars]

theorem dot_not_mem_toDecimal (n : Nat) : '.' ∉ Text.toDecimal n :=
  Text.not_mem_toDigits (by decide) (by decide) n rfl

theorem readV6_chars (ip : Ipv6) (port : UInt16) (scope : UInt32) :
    readV6 (v6 ip port scope).chars = some (v6 ip port scope, []) := by
  obtain ⟨ending, hending⟩ : ∃ ending, ending = ']' :: ':' :: Text.toDecimal port.toNat := ⟨_, rfl⟩
  obtain ⟨rest, hrest⟩ : ∃ rest, rest =
    (if scope = 0 then [] else '%' :: Text.toDecimal scope.toNat) ++ ending := ⟨_, rfl⟩
  have hends : Ipv6.EndsAddress rest := by
    subst hrest hending
    split
    all_goals
      refine ⟨?_, Ipv6.endsGroups_cons (by decide) (by decide)⟩
      simp [dot_not_mem_toDecimal]
  have hscope : readScope rest = (scope, ending) := by
    rw [hrest, hending]
    exact readScope_chars scope (endsDigits_cons (by decide)) rfl
  have hchars : (v6 ip port scope).chars = '[' :: (ip.chars ++ rest) := by
    rw [hrest, hending]
    simp [chars]
  rw [hchars, readV6]
  simp [readChar_cons, Ipv6.read_chars ip hends, hscope, hending, readPort_chars]

/-- An endpoint is read back from its text. -/
theorem parse?_text (e : Endpoint) : parse? e.text = some e := by
  unfold parse? text
  rw [String.toList_ofList]
  cases e with
  | v4 ip port => simp [readV4_chars]
  | v6 ip port scope =>
    have hnone : readV4 (v6 ip port scope).chars = none := by
      have hread : Ipv4.read (v6 ip port scope).chars = none :=
        Ipv4.read_eq_none_of_endsDigits (endsDigits_cons (by decide))
      simp [readV4, hread]
    simp [hnone, readV6_chars]

end Endpoint

end ServicePlacement
