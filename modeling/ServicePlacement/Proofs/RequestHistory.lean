import Mathlib.Algebra.BigOperators.Group.Finset.Basic
import Mathlib.Algebra.GroupWithZero.Nat
import Mathlib.Algebra.Order.BigOperators.Group.Finset
import ServicePlacement.Proofs.AddressText
import ServicePlacement.Proofs.MergeOrder
import ServicePlacement.Proofs.ReportSchedule
import ServicePlacement.Proofs.SenderTallies

/-!
What a profile knows of the requests behind it: those that it has recorded, and those behind the
profiles whose exports it has merged or was rebuilt from. Senders can be dropped on the way and come
back later, so a tally is never more than the number of requests of its sender, but it can be less
(`Senders.Within`). If all senders have room in the table, nobody is ever dropped, and the tallies
are exact (`Senders.Counts`). A request counts like a merge with a table of that request alone.
-/
namespace ServicePlacement.Demand

namespace Senders

def Within (h : Multiset String) (s : Senders) : Prop :=
  ∀ k ∈ s.keys, 1 ≤ s.tally k ∧ s.tally k ≤ h.count k

def counted (s : Senders) : Nat := (s.entries.map fun e => e.2.toNat).sum

namespace Within

variable {h h' : Multiset String} {s t : Senders} {k : String}

theorem mem (hs : s.Within h) (hk : k ∈ s.keys) : k ∈ h := by
  obtain ⟨hpos, hle⟩ := hs k hk
  exact Multiset.count_pos.mp (Nat.le_trans hpos hle)

theorem tally_le (hs : s.Within h) (k : String) : s.tally k ≤ h.count k := by
  cases hget : s.get? k with
  | none =>
    rw [tally_of_get?_none hget]
    exact Nat.zero_le _
  | some n => exact (hs k (SortedMap.mem_keys_iff.mpr ⟨n, hget⟩)).2

theorem size_le (hs : s.Within h) : s.size ≤ h.toFinset.card := by
  rw [← Finset.length_toList]
  refine SortedMap.size_le_length fun k hk => ?_
  exact Finset.mem_toList.mpr (Multiset.mem_toFinset.mpr (hs.mem hk))

/-- A table counts each request once at most. -/
theorem counted_le (hs : s.Within h) : s.counted ≤ h.card := by
  have hentry : ∀ e ∈ s.entries, e.1 ∈ h ∧ e.2.toNat ≤ h.count e.1 := by
    intro e he
    have hget := SortedMap.get?_eq_some_iff.mpr he
    have hkey : e.1 ∈ s.keys := SortedMap.mem_keys_iff.mpr ⟨e.2, hget⟩
    refine ⟨hs.mem hkey, ?_⟩
    rw [← tally_of_get? hget]
    exact hs.tally_le e.1
  calc
    s.counted ≤ (s.entries.map fun e => h.count e.1).sum :=
      List.sum_le_sum fun e he => (hentry e he).2
    _ = ∑ k ∈ (s.entries.map Prod.fst).toFinset, h.count k := by
      rw [List.sum_toFinset _ s.nodup_keys, List.map_map]
      rfl
    _ ≤ ∑ k ∈ h.toFinset, h.count k := by
      refine Finset.sum_le_sum_of_subset fun k hk => ?_
      obtain ⟨e, he, rfl⟩ := List.mem_map.mp (List.mem_toFinset.mp hk)
      exact Multiset.mem_toFinset.mpr (hentry e he).1
    _ = h.card := Multiset.toFinset_sum_count_eq h

theorem merge (hs : s.Within h) (ht : t.Within h') : (s.merge t).Within (h + h') := by
  intro k hk
  have hmine := hs.tally_le k
  have htheirs := ht.tally_le k
  have hpos : 1 ≤ s.tally k + t.tally k := by
    rcases mem_keys_merge.mp hk with hk | hk
    · exact Nat.le_trans (hs k hk).1 (Nat.le_add_right _ _)
    · exact Nat.le_trans (ht k hk).1 (Nat.le_add_left _ _)
  rw [tally_merge, Multiset.count_add]
  omega

theorem bound (hs : s.Within h) (most : Nat) : (s.bound most).Within h := by
  intro k hk
  obtain ⟨n, hget⟩ := SortedMap.mem_keys_iff.mp hk
  have hbefore := get?_of_bound hget
  rw [tally_of_get? hget, ← tally_of_get? hbefore]
  exact hs k (SortedMap.mem_keys_iff.mpr ⟨n, hbefore⟩)

end Within

/-- A table counts the requests of a history. It may have lost some, but not if there is room for
all senders. -/
structure Counts (most : Nat) (h : Multiset String) (s : Senders) : Prop where
  within : s.Within h
  complete : h.toFinset.card ≤ most → ∀ k, s.tally k = min (h.count k) 18446744073709551615

namespace Counts

variable {most : Nat} {h h' : Multiset String} {s t : Senders}

theorem empty (most : Nat) : Counts most 0 .empty where
  within := by
    intro k hk
    cases hk
  complete _ _ := rfl

theorem singleton (most : Nat) (k : String) : Counts most {k} (.singleton k 1) where
  within := by
    intro j hj
    obtain rfl : j = k := List.mem_singleton.mp hj
    have hget : (SortedMap.singleton j (1 : UInt64)).get? j = some 1 := by
      rw [SortedMap.get?_singleton, if_pos rfl]
    rw [tally_of_get? hget, Multiset.count_singleton_self]
    exact ⟨Nat.le_refl 1, Nat.le_refl 1⟩
  complete := by
    intro _ j
    unfold tally
    rw [SortedMap.get?_singleton, Multiset.count_singleton]
    split <;> rfl

/-- A merge counts the requests of both sides. -/
theorem merge (hs : s.Counts most h) (ht : t.Counts most h') :
    ((s.merge t).bound most).Counts most (h + h') where
  within := (hs.within.merge ht.within).bound most
  complete := by
    intro hroom k
    have hmine : h.toFinset.card ≤ most := by
      refine Nat.le_trans (Finset.card_le_card ?_) hroom
      exact Multiset.toFinset_subset.mpr (Multiset.subset_of_le (Multiset.le_add_right h h'))
    have htheirs : h'.toFinset.card ≤ most := by
      refine Nat.le_trans (Finset.card_le_card ?_) hroom
      exact Multiset.toFinset_subset.mpr (Multiset.subset_of_le (Multiset.le_add_left h' h))
    rw [bound_of_size_le (Nat.le_trans (hs.within.merge ht.within).size_le hroom), tally_merge,
      hs.complete hmine, ht.complete htheirs, Multiset.count_add]
    omega

/-- A request more. -/
theorem count (hs : s.Counts most h) (k : String) :
    ((s.count k 1).bound most).Counts most (k ::ₘ h) := by
  have hmerged := hs.merge (singleton most k)
  rw [Multiset.add_comm, Multiset.singleton_add] at hmerged
  exact hmerged

/-- With room for all senders, the table has exactly those of the history. -/
theorem mem_keys_iff (hs : s.Counts most h) (hroom : h.toFinset.card ≤ most) {k : String} :
    k ∈ s.keys ↔ k ∈ h := by
  constructor
  · exact hs.within.mem
  · intro hk
    have htally := hs.complete hroom k
    have hpos := Multiset.count_pos.mpr hk
    rw [SortedMap.mem_keys_iff]
    cases hget : s.get? k with
    | some n => exact ⟨n, rfl⟩
    | none =>
      rw [tally_of_get?_none hget] at htally
      omega

/-- With room for all senders, the history determines the table. -/
theorem unique (hs : s.Counts most h) (ht : t.Counts most h) (hroom : h.toFinset.card ≤ most) :
    s = t := by
  apply ext_tally
  · intro k
    exact (hs.mem_keys_iff hroom).trans (ht.mem_keys_iff hroom).symm
  · intro k
    exact (hs.complete hroom k).trans (ht.complete hroom k).symm

end Counts

end Senders

/-- Statistics stand for requests, given by their senders: each of them is counted in the total, and
the table counts them for their senders. -/
structure RateStats.StandsFor (params : RateParams) (h : Multiset IpAddress) (s : RateStats) :
    Prop where
  total_eq : s.total.toNat = min h.card 18446744073709551615
  requests_le : s.requests.toNat ≤ s.total.toNat
  senders : s.senders.Counts params.maxSenders.toNat (h.map IpAddress.text)

namespace RateStats.StandsFor

variable {params : RateParams} {h h' : Multiset IpAddress} {s t : RateStats}

theorem empty (params : RateParams) : StandsFor params 0 {} where
  total_eq := rfl
  requests_le := Nat.le_refl 0
  senders := .empty _

theorem record (hs : s.StandsFor params h) (sender : IpAddress) (now : UInt64) :
    (s.record params sender now).2.StandsFor params (sender ::ₘ h) := by
  have hone : (1 : UInt64).toNat = 1 := rfl
  have hrequests : (s.record params sender now).2.requests.toNat ≤ s.requests.toNat + 1 := by
    rw [(s.record_due params sender now).2]
    split
    · exact Nat.zero_le _
    · exact Nat.le_refl _
  have hword := (s.record params sender now).2.requests.toNat_lt
  have htotal := hs.total_eq
  have hle := hs.requests_le
  constructor
  case total_eq =>
    rw [RateStats.total_record, toNat_satAdd, Multiset.card_cons]
    omega
  case requests_le =>
    rw [RateStats.total_record, toNat_satAdd]
    omega
  case senders =>
    rw [RateStats.senders_record, Multiset.map_cons]
    exact hs.senders.count sender.text

theorem merge (hs : s.StandsFor params h) (ht : t.StandsFor params h') :
    (s.merge params t).StandsFor params (h + h') where
  total_eq := by
    show (satAdd s.total t.total).toNat = _
    rw [toNat_satAdd, hs.total_eq, ht.total_eq, Multiset.card_add]
    omega
  requests_le := by
    show (satAdd s.requests t.requests).toNat ≤ (satAdd s.total t.total).toNat
    have hmine := hs.requests_le
    have htheirs := ht.requests_le
    rw [toNat_satAdd, toNat_satAdd]
    omega
  senders := by
    rw [Multiset.map_add]
    exact hs.senders.merge ht.senders

theorem card_texts_le (hroom : h.toFinset.card ≤ params.maxSenders.toNat) :
    (h.map IpAddress.text).toFinset.card ≤ params.maxSenders.toNat := by
  rw [Multiset.toFinset_map]
  exact Nat.le_trans Finset.card_image_le hroom

theorem mem_keys_iff (hs : s.StandsFor params h)
    (hroom : h.toFinset.card ≤ params.maxSenders.toNat) (k : String) :
    k ∈ s.senders.keys ↔ ∃ a ∈ h, a.text = k := by
  rw [hs.senders.mem_keys_iff (card_texts_le hroom), Multiset.mem_map]

theorem tally_eq (hs : s.StandsFor params h) (hcard : h.card ≤ 18446744073709551615)
    (hroom : h.toFinset.card ≤ params.maxSenders.toNat) (a : IpAddress) :
    s.senders.tally a.text = h.count a := by
  have hcount := h.count_le_card a
  rw [hs.senders.complete (card_texts_le hroom),
    Multiset.count_map_eq_count' _ _ IpAddress.text_injective]
  omega

end RateStats.StandsFor

namespace Profile

/-- The profiles of a name that come from new ones, each with the senders of the requests that it
has recorded and, through merges and restores, those of the profiles that went into it. -/
inductive Built (name : ServiceName) (params : RateParams) :
    Profile → Multiset IpAddress → Prop where
  | created : Built name params ((Strategy.rate params).create name) 0
  | recorded {p : Profile} {h : Multiset IpAddress} (sender : IpAddress) (now : UInt64) :
      Built name params p h → Built name params (p.act (.record sender now)) (sender ::ₘ h)
  | proposed {p : Profile} {h : Multiset IpAddress} (current : Placement) (c : Cluster)
      (now : UInt64) : Built name params p h → Built name params (p.act (.propose current c now)) h
  | moved {p : Profile} {h : Multiset IpAddress} (now : UInt64) :
      Built name params p h → Built name params (p.act (.moved now)) h
  | merged {p q r : Profile} {h h' : Multiset IpAddress} :
      Built name params p h → Built name params q h' → p.merge q.toExport = .ok r →
        Built name params r (h + h')
  | restored {p q : Profile} {h : Multiset IpAddress} :
      Built name params p h → (Strategy.rate params).restore p.toExport = .ok q →
        Built name params q h

/-- Each way to build a profile keeps what its statistics stand for. -/
theorem Built.exists_standsFor {name : ServiceName} {params : RateParams} {p : Profile}
    {h : Multiset IpAddress} (hp : Built name params p h) :
    ∃ s, p = rate name params s ∧ s.StandsFor params h := by
  induction hp with
  | created => exact ⟨{}, rfl, .empty params⟩
  | recorded sender now _ ih =>
    obtain ⟨s, rfl, hs⟩ := ih
    exact ⟨_, rfl, hs.record sender now⟩
  | proposed current c now _ ih => exact ih
  | moved now _ ih =>
    obtain ⟨s, rfl, hs⟩ := ih
    exact ⟨s.moved now, rfl, hs.total_eq, hs.requests_le, hs.senders⟩
  | merged _ _ hmerge ih ih' =>
    obtain ⟨s, rfl, hs⟩ := ih
    obtain ⟨t, rfl, ht⟩ := ih'
    rcases merge_toExport_cases hmerge with ⟨_, hnull, -, -⟩ | ⟨_, _, _, _, _, hp, hq, rfl⟩
    · cases hnull
    · cases hp
      cases hq
      exact ⟨s.merge params t, rfl, hs.merge ht⟩
  | restored _ hrestore ih =>
    obtain ⟨s, rfl, hs⟩ := ih
    rcases Strategy.restore_toExport_cases hrestore with
      ⟨_, hnull, -, -⟩ | ⟨_, _, _, _, hr, hp, rfl⟩
    · cases hnull
    · cases hr
      cases hp
      exact ⟨s, rfl, hs⟩

/-- A profile counts what has happened. Its total is the number of the requests behind it, which the
requests since the last report do not exceed. Each sender in its table has asked, at least as often
as its tally says, and the tallies add up to no more than the total. If there is room for all
senders, the table has exactly these with all of their requests, and it is the same in whatever
order the requests were recorded and merged. -/
theorem counts_match_history (name : ServiceName) (params : RateParams) {p : Profile}
    {h : Multiset IpAddress} (hp : Built name params p h) (hcard : h.card < 18446744073709551615) :
    p.total.toNat = h.card ∧ p.requests ≤ p.total ∧
      (∀ k ∈ p.senders.keys, ∃ a ∈ h, a.text = k ∧ 1 ≤ p.senders.tally k ∧
        p.senders.tally k ≤ h.count a) ∧
      p.senders.counted ≤ p.total.toNat ∧
      (h.toFinset.card ≤ params.maxSenders.toNat →
        (∀ k, k ∈ p.senders.keys ↔ ∃ a ∈ h, a.text = k) ∧
          (∀ a, p.senders.tally a.text = h.count a) ∧
          ∀ q, Built name params q h → q.senders = p.senders) := by
  obtain ⟨s, rfl, hs⟩ := hp.exists_standsFor
  have htotal : s.total.toNat = h.card := by
    have htotal_eq := hs.total_eq
    omega
  have hcounts := hs.senders
  refine ⟨htotal, UInt64.le_iff_toNat_le.mpr hs.requests_le, ?_, ?_, fun hroom => ?_⟩
  · intro k hk
    obtain ⟨a, ha, rfl⟩ := Multiset.mem_map.mp (hcounts.within.mem hk)
    obtain ⟨hpos, hle⟩ := hcounts.within a.text hk
    rw [Multiset.count_map_eq_count' _ _ IpAddress.text_injective] at hle
    exact ⟨a, ha, rfl, hpos, hle⟩
  · have hle := hcounts.within.counted_le
    rw [Multiset.card_map, ← htotal] at hle
    exact hle
  · refine ⟨hs.mem_keys_iff hroom, hs.tally_eq (Nat.le_of_lt hcard) hroom, fun q hq => ?_⟩
    obtain ⟨t, rfl, ht⟩ := hq.exists_standsFor
    exact ht.senders.unique hs.senders (RateStats.StandsFor.card_texts_le hroom)

/-- A copy of a profile with a request of the second sender is merged into one that has counted the
first sender and has moved since, and the first sender asks once more. -/
theorem counts_match_history_merged_copy :
    let params : RateParams := { maxSenders := 2 }
    let h := firstSender ::ₘ ((firstSender ::ₘ 0) + (secondSender ::ₘ 0))
    ∃ p, Built "svc" params p h ∧ h.card < 18446744073709551615 ∧ h.toFinset.card ≤ 2 ∧
      p.total.toNat = 3 ∧ p.senders.tally firstSender.text = 2 ∧
      p.senders.tally secondSender.text = 1 := by
  intro params h
  let mine := (((Strategy.rate params).create "svc").act (.record firstSender 10)).act (.moved 15)
  let theirs := ((Strategy.rate params).create "svc").act (.record secondSender 20)
  have hmine : Built "svc" params mine (firstSender ::ₘ 0) := .moved 15 (.recorded _ 10 .created)
  have htheirs : Built "svc" params theirs (secondSender ::ₘ 0) := .recorded _ 20 .created
  have hcopy : Built "svc" params theirs (secondSender ::ₘ 0) :=
    .restored htheirs (restore_toExport (by decide +kernel))
  obtain ⟨both, hboth, -⟩ : ∃ both, mine.merge theirs.toExport = .ok both ∧ both.total = 2 :=
    exists_ok_of_toOption (by decide +kernel)
  have hbuilt : Built "svc" params (both.act (.record firstSender 30)) h :=
    .recorded _ 30 (.merged hmine hcopy hboth)
  have hcard : h.card < 18446744073709551615 := by decide
  have hroom : h.toFinset.card ≤ 2 := by decide
  obtain ⟨htotal, -, -, -, hcomplete⟩ := counts_match_history "svc" params hbuilt hcard
  obtain ⟨-, htally, -⟩ := hcomplete hroom
  exact ⟨_, hbuilt, hcard, hroom, htotal, htally firstSender, htally secondSender⟩

end Profile

end ServicePlacement.Demand
