import Mathlib.Data.Finset.Dedup
import Mathlib.Data.Finset.Card
import Mathlib.Data.List.Induction
import ServicePlacement.Proofs.AddressText
import ServicePlacement.Proofs.MergeOrder
import ServicePlacement.Proofs.ProfileRuns
import ServicePlacement.Proofs.SenderEviction

/-!
Who is in the sender table of a profile that only records requests. An entry is dropped for want of
room only while it has a single request, and from then on the table is full of entries that outlast
a single request of that sender, so the sender is dropped again whenever it comes back. Hence the
tallies in the table are exact, and if a sender that has asked is missing, the table is full of such
entries (`KnowsOf`). A sender that is counted twice stays, but one that comes late may never be
counted twice, however often it asks.
-/
namespace ServicePlacement.Demand

namespace Senders

def countAll (most : Nat) (s : Senders) (asked : List String) : Senders :=
  asked.foldl (fun s k => (s.count k 1).bound most) s

/-- What a table knows of the senders that have asked: all about those that it has, and those that
it lacks have no room, since all its entries outlast a single request of theirs. -/
structure KnowsOf (most : Nat) (asked : List String) (s : Senders) : Prop where
  size_le : s.size ≤ most
  tally_eq : ∀ k n, s.get? k = some n →
    k ∈ asked ∧ n.toNat = min (asked.count k) 18446744073709551615
  outlasted : ∀ k ∈ asked, s.get? k = none → s.size = most ∧ ∀ e ∈ s.entries, Outlasts e (k, 1)

namespace KnowsOf

variable {most : Nat} {asked : List String} {s : Senders} {k : String}

theorem tally_pos (h : KnowsOf most asked s) {n : UInt64} (hget : s.get? k = some n) :
    1 ≤ n.toNat := by
  obtain ⟨hmem, hn⟩ := h.tally_eq k n hget
  have hcount := List.count_pos_iff.mpr hmem
  omega

/-- One request more is counted, unless it is of a sender that was forgotten. -/
theorem tally_count_eq (h : KnowsOf most asked s) {j : String} {n : UInt64}
    (hget : (s.count k 1).get? j = some n) (hfirst : j = k → s.get? k = none → k ∉ asked) :
    j ∈ asked ++ [k] ∧ n.toNat = min ((asked ++ [k]).count j) 18446744073709551615 := by
  rw [get?_count] at hget
  rw [List.mem_append, List.count_append]
  by_cases hjk : j = k
  · subst hjk
    rw [if_pos rfl] at hget
    have hn := congrArg UInt64.toNat (Option.some.inj hget)
    rw [toNat_satAdd] at hn
    have hone : (1 : UInt64).toNat = 1 := rfl
    refine ⟨.inr List.mem_cons_self, ?_⟩
    rw [← hn, List.count_singleton_self]
    cases hold : s.get? j with
    | none =>
      rw [List.count_eq_zero_of_not_mem (hfirst rfl hold)]
      rfl
    | some old =>
      obtain ⟨-, hcounted⟩ := h.tally_eq j old hold
      rw [Option.getD_some]
      omega
  · rw [if_neg hjk] at hget
    obtain ⟨hmem, hn⟩ := h.tally_eq j n hget
    have hother : [k].count j = 0 := List.count_eq_zero_of_not_mem (by simpa using hjk)
    exact ⟨.inl hmem, by rw [hother, Nat.add_zero, hn]⟩

/-- Who is missing after a request was missing before, and has not asked just now. -/
theorem outlasted_of_count (h : KnowsOf most asked s) {j : String} (hj : j ∈ asked ++ [k])
    (hmissing : (s.count k 1).get? j = none) :
    s.size = most ∧ ∀ e ∈ s.entries, Outlasts e (j, 1) := by
  rw [get?_count] at hmissing
  split at hmissing
  · cases hmissing
  · rename_i hjk
    have hasked := (List.mem_append.mp hj).resolve_right (by simpa using hjk)
    exact h.outlasted j hasked hmissing

/-- A request of a sender that is known or has room. -/
theorem count_of_free (h : KnowsOf most asked s) (hfree : s.contains k = true ∨ s.size < most) :
    KnowsOf most (asked ++ [k]) (s.count k 1) := by
  constructor
  case size_le =>
    have hle := h.size_le
    rw [size_count]
    split
    · exact hle
    · rename_i hnew
      have hless := hfree.resolve_left hnew
      omega
  case tally_eq =>
    intro j n hget
    refine h.tally_count_eq hget fun _ hnone hk => ?_
    obtain ⟨hfull, -⟩ := h.outlasted k hk hnone
    have hless := hfree.resolve_left (SortedMap.not_contains_iff.mpr hnone)
    omega
  case outlasted =>
    intro j hj hmissing
    obtain ⟨hfull, hout⟩ := h.outlasted_of_count hj hmissing
    have hknown : s.contains k = true := hfree.resolve_right (by omega)
    refine ⟨by rw [size_count, if_pos hknown, hfull], fun e he => ?_⟩
    have hget := SortedMap.get?_eq_some_iff.mpr he
    rw [get?_count] at hget
    split at hget
    · -- The sender that asks now has at least its second request counted.
      obtain ⟨old, hold⟩ := SortedMap.contains_iff.mp hknown
      have hpos := h.tally_pos hold
      rw [hold] at hget
      have htwo := congrArg UInt64.toNat (Option.some.inj hget)
      rw [Option.getD_some, toNat_satAdd] at htwo
      have hone : (1 : UInt64).toNat = 1 := rfl
      refine .inl (UInt64.lt_iff_toNat_lt.mpr ?_)
      simp only
      omega
    · exact hout e (SortedMap.get?_eq_some_iff.mp hget)

/-- A request of a sender that is not known to a full table. Somebody is dropped who has a single
request, or the table would not have been full of better ones. -/
theorem count_of_full (h : KnowsOf most asked s) (hnone : s.get? k = none) (hfull : s.size = most)
    {e : String × UInt64} (he : e ∈ (s.count k 1).entries)
    (hleast : ∀ f ∈ (s.count k 1).entries, f = e ∨ Outlasts f e) :
    KnowsOf most (asked ++ [k]) ((s.count k 1).erase e.1) := by
  have hcounted {f : String × UInt64} : f ∈ (s.count k 1).entries ↔ f = (k, 1) ∨ f ∈ s.entries :=
    mem_entries_count_of_new hnone
  have hrest : ∀ f ∈ ((s.count k 1).erase e.1).entries,
      f ∈ (s.count k 1).entries ∧ f.1 ≠ e.1 ∧ Outlasts f e := by
    intro f hf
    obtain ⟨hmem, hne⟩ := SortedMap.mem_entries_erase.mp hf
    exact ⟨hmem, hne, (hleast f hmem).resolve_left fun heq => hne (congrArg Prod.fst heq)⟩
  -- A newcomer that stays outlasts somebody, so nobody that is missing is worse than it.
  have hstays {j : String} (hmem : (k, 1) ∈ ((s.count k 1).erase e.1).entries)
      (hall : ∀ f ∈ s.entries, Outlasts f (j, 1)) : Outlasts (k, 1) (j, 1) := by
    obtain ⟨-, hne, hout⟩ := hrest (k, 1) hmem
    rcases hcounted.mp he with rfl | hdropped
    · exact absurd rfl hne
    · exact hout.trans (hall e hdropped)
  have hsize := (size_erase_count_of_new hnone he).trans hfull
  constructor
  case size_le => exact Nat.le_of_eq hsize
  case tally_eq =>
    intro j n hget
    have hleft := SortedMap.get?_eq_some_iff.mp hget
    obtain ⟨hmem, -, -⟩ := hrest (j, n) hleft
    refine h.tally_count_eq (SortedMap.get?_eq_some_iff.mpr hmem) fun hjk _ hk => ?_
    subst hjk
    rcases hcounted.mp hmem with heq | hold
    · rw [heq] at hleft
      exact Outlasts.irrefl _ (hstays hleft (h.outlasted j hk hnone).2)
    · rw [SortedMap.get?_eq_some_iff.mpr hold] at hnone
      cases hnone
  case outlasted =>
    intro j hj hmissing
    refine ⟨hsize, fun f hf => ?_⟩
    obtain ⟨hmem, -, hout⟩ := hrest f hf
    by_cases hje : j = e.1
    · have hpos : 1 ≤ e.2.toNat := by
        rcases hcounted.mp he with rfl | hold
        · exact Nat.le_refl 1
        · exact h.tally_pos (SortedMap.get?_eq_some_iff.mpr hold)
      have hsingle : e.2 = 1 :=
        UInt64.toNat_inj.mp (Nat.le_antisymm (le_one_of_least hnone hleast) hpos)
      have heq : (j, 1) = e := Prod.ext hje hsingle.symm
      rw [heq]
      exact hout
    · rw [SortedMap.get?_erase, if_neg hje] at hmissing
      obtain ⟨-, hall⟩ := h.outlasted_of_count hj hmissing
      rcases hcounted.mp hmem with rfl | hold
      · exact hstays hf hall
      · exact hall f hold

end KnowsOf

theorem countAll_append (most : Nat) (s : Senders) (before after : List String) :
    countAll most s (before ++ after) = countAll most (countAll most s before) after :=
  List.foldl_append

/-- A table that starts empty knows of all that have asked. -/
theorem knowsOf_countAll (most : Nat) (asked : List String) :
    KnowsOf most asked (countAll most .empty asked) := by
  induction asked using List.reverseRecOn with
  | nil =>
    refine ⟨Nat.zero_le most, ?_, ?_⟩
    · intro k n hget
      cases hget
    · intro k hk
      cases hk
  | append_singleton asked k ih =>
    rw [countAll_append]
    show KnowsOf most (asked ++ [k]) ((Senders.count _ k 1).bound most)
    rcases bound_count_cases ih.size_le k with ⟨hfree, heq⟩ | ⟨hnone, hfull, e, he, heq, hleast⟩
    · rw [heq]
      exact ih.count_of_free hfree
    · rw [heq]
      exact ih.count_of_full hnone hfull he hleast

/-- A sender that is counted twice stays when somebody asks. -/
theorem kept_of_two_le {most : Nat} {s : Senders} {k : String} {n : UInt64} (hroom : s.size ≤ most)
    (hget : s.get? k = some n) (hn : 2 ≤ n.toNat) (j : String) :
    ∃ m, ((s.count j 1).bound most).get? k = some m ∧ 2 ≤ m.toNat := by
  have hone : (1 : UInt64).toNat = 1 := rfl
  rcases bound_count_cases hroom j with ⟨-, heq⟩ | ⟨hnone, -, e, he, heq, hleast⟩
  · rw [heq, get?_count]
    split
    · rename_i hkj
      refine ⟨_, rfl, ?_⟩
      rw [← hkj, hget, Option.getD_some, toNat_satAdd]
      omega
    · exact ⟨n, hget, hn⟩
  · have hkj : k ≠ j := by
      rintro rfl
      rw [hget] at hnone
      cases hnone
    refine ⟨n, ?_, hn⟩
    rw [heq, SortedMap.get?_erase, get?_count, if_neg hkj, hget, if_neg]
    rintro rfl
    have hself := le_one_of_least hnone hleast
    rcases (mem_entries_count_of_new hnone).mp he with hsame | hold
    · exact hkj (congrArg Prod.fst hsame)
    · rw [SortedMap.get?_eq_some_iff.mpr hold] at hget
      rw [Option.some.inj hget] at hself
      omega

/-- A sender that is counted twice stays, whoever asks. -/
theorem contains_countAll_of_two_le {most : Nat} {s : Senders} {k : String} {n : UInt64}
    (hroom : s.size ≤ most) (hget : s.get? k = some n) (hn : 2 ≤ n.toNat) (asked : List String) :
    (countAll most s asked).contains k = true := by
  induction asked generalizing s n with
  | nil => exact SortedMap.contains_iff.mpr ⟨n, hget⟩
  | cons j rest ih =>
    obtain ⟨m, hm, htwo⟩ := kept_of_two_le hroom hget hn j
    refine ih ?_ hm htwo
    rw [size_bound]
    exact Nat.min_le_left _ _

end Senders

namespace Profile

/-- The table after a sequence of requests. -/
theorem senders_recordAll (name : ServiceName) (params : RateParams) (s : RateStats)
    (requests : List (IpAddress × UInt64)) :
    ((rate name params s).recordAll requests).senders =
      s.senders.countAll params.maxSenders.toNat ((requests.map Prod.fst).map IpAddress.text) := by
  induction requests generalizing s with
  | nil => rfl
  | cons r rest ih =>
    have hrest := ih (s.record params r.1 r.2).2
    rw [RateStats.senders_record] at hrest
    exact hrest

def requestsOf (requests : List (IpAddress × UInt64)) (a : IpAddress) : Nat :=
  (requests.map Prod.fst).count a

/-- The other senders that outlast a single request of one: they have more requests, or one with a
later text. -/
def rivals (requests : List (IpAddress × UInt64)) (a : IpAddress) : Finset IpAddress :=
  (requests.map Prod.fst).toFinset.filter fun b =>
    b ≠ a ∧ (1 < requestsOf requests b ∨ requestsOf requests b = 1 ∧ a.text < b.text)

def HasAll (table : Senders) (requests : List (IpAddress × UInt64)) (a : IpAddress) : Prop :=
  a.text ∈ table.keys ∧ table.tally a.text = min (requestsOf requests a) 18446744073709551615

/-- What the table of a new profile knows after a sequence of requests. -/
theorem knowsOf_recordAll (name : ServiceName) (params : RateParams)
    (requests : List (IpAddress × UInt64)) :
    Senders.KnowsOf params.maxSenders.toNat ((requests.map Prod.fst).map IpAddress.text)
      (((Strategy.rate params).create name).recordAll requests).senders := by
  show Senders.KnowsOf _ _ ((rate name params {}).recordAll requests).senders
  rw [senders_recordAll]
  exact Senders.knowsOf_countAll _ _

variable {most : Nat} {requests : List (IpAddress × UInt64)} {table : Senders} {a : IpAddress}

/-- Whoever is in the table has asked, and all of its requests are counted. -/
theorem hasAll_of_get? {k : String} {n : UInt64}
    (h : table.KnowsOf most ((requests.map Prod.fst).map IpAddress.text))
    (hget : table.get? k = some n) :
    ∃ b ∈ requests.map Prod.fst, b.text = k ∧ HasAll table requests b ∧
      n.toNat = min (requestsOf requests b) 18446744073709551615 := by
  obtain ⟨hmem, hn⟩ := h.tally_eq k n hget
  obtain ⟨b, hb, rfl⟩ := List.mem_map.mp hmem
  rw [List.count_map_of_injective _ _ IpAddress.text_injective] at hn
  have hkey : b.text ∈ table.keys := SortedMap.mem_keys_iff.mpr ⟨n, hget⟩
  exact ⟨b, hb, rfl, ⟨hkey, (Senders.tally_of_get? hget).trans hn⟩, hn⟩

/-- A sender that is in the table is there with all of its requests. -/
theorem hasAll_of_contains (h : table.KnowsOf most ((requests.map Prod.fst).map IpAddress.text))
    (hmem : table.contains a.text = true) : HasAll table requests a := by
  obtain ⟨n, hget⟩ := SortedMap.contains_iff.mp hmem
  obtain ⟨b, -, htext, hall, -⟩ := hasAll_of_get? h hget
  rw [← IpAddress.text_injective htext]
  exact hall

/-- If somebody who has asked is not in the table, the table is full of its rivals. -/
theorem full_of_rivals (h : table.KnowsOf most ((requests.map Prod.fst).map IpAddress.text))
    (ha : a ∈ requests.map Prod.fst) (hmissing : table.get? a.text = none) :
    table.size = most ∧
      ∀ k ∈ table.keys, ∃ b ∈ rivals requests a, b.text = k ∧ HasAll table requests b := by
  obtain ⟨hfull, hout⟩ := h.outlasted a.text (List.mem_map_of_mem ha) hmissing
  refine ⟨hfull, fun k hk => ?_⟩
  obtain ⟨n, hget⟩ := SortedMap.mem_keys_iff.mp hk
  obtain ⟨b, hb, rfl, hall, hn⟩ := hasAll_of_get? h hget
  have hother : b ≠ a := by
    rintro rfl
    rw [hmissing] at hget
    cases hget
  refine ⟨b, ?_, rfl, hall⟩
  rw [rivals, Finset.mem_filter, List.mem_toFinset]
  refine ⟨hb, hother, ?_⟩
  rcases hout (b.text, n) (SortedMap.get?_eq_some_iff.mp hget) with hmore | ⟨hsingle, htext⟩
  · have hless : 1 < n.toNat := UInt64.lt_iff_toNat_lt.mp hmore
    exact .inl (by omega)
  · have hsame : 1 = n.toNat := congrArg UInt64.toNat hsingle
    exact .inr ⟨by omega, htext⟩

/-- A sender with fewer rivals than there is room for is in the table. -/
theorem contains_of_few_rivals
    (h : table.KnowsOf most ((requests.map Prod.fst).map IpAddress.text))
    (ha : a ∈ requests.map Prod.fst) (hfew : (rivals requests a).card < most) :
    table.contains a.text = true := by
  by_contra hnew
  obtain ⟨hfull, hrivals⟩ := full_of_rivals h ha (SortedMap.not_contains_iff.mp hnew)
  have hsize : table.size ≤ ((rivals requests a).toList.map IpAddress.text).length := by
    refine SortedMap.size_le_length fun k hk => ?_
    obtain ⟨b, hb, rfl, -⟩ := hrivals k hk
    exact List.mem_map_of_mem (Finset.mem_toList.mpr hb)
  rw [List.length_map, Finset.length_toList] at hsize
  omega

/-- A sender that had asked twice while it had fewer rivals than there is room for is in the table
for good. -/
theorem contains_of_two_requests (name : ServiceName) (params : RateParams)
    {before : List (IpAddress × UInt64)} (htwo : 2 ≤ requestsOf before a)
    (hfew : (rivals before a).card < params.maxSenders.toNat)
    (after : List (IpAddress × UInt64)) :
    (((Strategy.rate params).create name).recordAll (before ++ after)).senders.contains a.text =
      true := by
  have hbefore := knowsOf_recordAll name params before
  have hasked : a ∈ before.map Prod.fst := by
    apply List.count_pos_iff.mp
    unfold requestsOf at htwo
    omega
  obtain ⟨n, hget⟩ := SortedMap.contains_iff.mp (contains_of_few_rivals hbefore hasked hfew)
  have hn : 2 ≤ n.toNat := by
    obtain ⟨b, -, htext, -, hcounted⟩ := hasAll_of_get? hbefore hget
    rw [IpAddress.text_injective htext] at hcounted
    omega
  have htable (requests : List (IpAddress × UInt64)) :
      (((Strategy.rate params).create name).recordAll requests).senders = _ :=
    senders_recordAll name params {} requests
  rw [htable] at hget
  have hsize := hbefore.size_le
  rw [htable] at hsize
  rw [htable, List.map_append, List.map_append, Senders.countAll_append]
  exact Senders.contains_countAll_of_two_le hsize hget hn _

/-- Who is in the table of a new profile after requests, among all that have asked, the busiest one
included. A sender is in it with all of its requests, unless the table is full of others that have
more than one request or a later text. Hence it is there if it has fewer such rivals than the table
has room for, and for good, if there was such a time when it had asked twice. -/
theorem kept_unless_outlasted (name : ServiceName) (params : RateParams)
    (requests : List (IpAddress × UInt64)) {a : IpAddress} (h : a ∈ requests.map Prod.fst) :
    let table := (((Strategy.rate params).create name).recordAll requests).senders
    (HasAll table requests a ∨ a.text ∉ table.keys ∧ table.size = params.maxSenders.toNat ∧
        ∀ k ∈ table.keys, ∃ b ∈ rivals requests a, b.text = k ∧ HasAll table requests b) ∧
      ((rivals requests a).card < params.maxSenders.toNat → HasAll table requests a) ∧
      ∀ before after, requests = before ++ after → 2 ≤ requestsOf before a →
        (rivals before a).card < params.maxSenders.toNat → HasAll table requests a := by
  intro table
  have hknows := knowsOf_recordAll name params requests
  refine ⟨?_, fun hfew => ?_, ?_⟩
  · cases hget : table.get? a.text with
    | some n => exact .inl (hasAll_of_contains hknows (SortedMap.contains_iff.mpr ⟨n, hget⟩))
    | none =>
      refine .inr ⟨?_, full_of_rivals hknows h hget⟩
      rw [SortedMap.mem_keys_iff, hget]
      rintro ⟨n, hn⟩
      cases hn
  · exact hasAll_of_contains hknows (contains_of_few_rivals hknows h hfew)
  · intro before after hsplit htwo hfew
    subst hsplit
    exact hasAll_of_contains hknows (contains_of_two_requests name params htwo hfew after)

def thirdSender : IpAddress := .v4 ⟨10, 0, 0, 3⟩

/-- The second sender makes four of seven requests. It has asked twice when the third one comes,
which takes the place of the first. -/
theorem kept_unless_outlasted_third_sender :
    let params : RateParams := { maxSenders := 2 }
    let before := [(secondSender, 0), (firstSender, 1), (secondSender, 2)]
    let after := [(thirdSender, 3), (thirdSender, 4), (secondSender, 5), (secondSender, 6)]
    let requests := before ++ after
    let table := (((Strategy.rate params).create "a").recordAll requests).senders
    (secondSender ∈ requests.map Prod.fst ∧ requests.length < 2 * requestsOf requests secondSender ∧
        2 ≤ requestsOf before secondSender ∧ (rivals before secondSender).card < 2 ∧
        HasAll table requests secondSender) ∧
      firstSender ∈ requests.map Prod.fst ∧ firstSender.text ∉ table.keys ∧ table.size = 2 ∧
        ∀ k ∈ table.keys, ∃ b ∈ rivals requests firstSender,
          b.text = k ∧ HasAll table requests b := by
  intro params before after requests table
  have hsecond : secondSender ∈ requests.map Prod.fst := by decide
  have hfirst : firstSender ∈ requests.map Prod.fst := by decide
  have htwo : 2 ≤ requestsOf before secondSender := by decide
  have hfew : (rivals before secondSender).card < 2 := by decide +kernel
  obtain ⟨-, -, hkept⟩ := kept_unless_outlasted "a" params requests hsecond
  obtain ⟨hfull, -, -⟩ := kept_unless_outlasted "a" params requests hfirst
  have hdropped : table.contains firstSender.text = false := by decide +kernel
  refine ⟨⟨hsecond, by decide, htwo, hfew, hkept before after rfl htwo hfew⟩, hfirst,
    hfull.resolve_left fun hall => ?_⟩
  have hmem := SortedMap.contains_keys.mpr hall.1
  rw [hdropped] at hmem
  cases hmem

/-- With room for one sender, the first one to ask twice stays, and another one is not remembered,
though it makes more than half of all requests. -/
theorem busiest_sender_forgotten :
    ¬ ∀ (name : ServiceName) (params : RateParams) (requests : List (IpAddress × UInt64))
        (a : IpAddress), 1 ≤ params.maxSenders → requests.length < 2 * requestsOf requests a →
      a.text ∈ (((Strategy.rate params).create name).recordAll requests).senders.keys := by
  intro hclaim
  have hmem := hclaim "svc" { maxSenders := 1 } [(firstSender, 0), (firstSender, 0),
    (secondSender, 0), (secondSender, 0), (secondSender, 0)] secondSender (by decide) (by decide)
  have hkept := SortedMap.contains_keys.mpr hmem
  revert hkept
  decide +kernel

end Profile

end ServicePlacement.Demand
