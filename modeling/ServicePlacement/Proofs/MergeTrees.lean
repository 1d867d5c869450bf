import Mathlib.Algebra.GroupWithZero.Nat
import ServicePlacement.Proofs.MergeOrder
import ServicePlacement.Proofs.ProfileRuns

/-!
Merging many profiles into one, in any order and any grouping. What a merge keeps of two statistics
is a sum or a maximum of numbers, the average gap apart, so what a whole tree of merges keeps can be
told from its parts alone (`IsSumOf`): sums stop at the greatest word wherever they pass it, and a
sender table that has room for all senders of the parts never drops one on the way.
-/
namespace ServicePlacement.Demand

namespace RateStats

def addedUp (f : RateStats → Nat) (parts : List RateStats) : Nat :=
  min (parts.map f).sum 18446744073709551615

def greatest (f : RateStats → Nat) (parts : List RateStats) : Nat := (parts.map f).foldr max 0

def timeRank : Option UInt64 → Nat
  | none => 0
  | some t => t.toNat + 1

structure IsSumOf (s : RateStats) (parts : List RateStats) : Prop where
  requests_eq : s.requests.toNat = addedUp (fun x => x.requests.toNat) parts
  total_eq : s.total.toNat = addedUp (fun x => x.total.toNat) parts
  lastRequest_eq : s.lastRequest.toNat = greatest (fun x => x.lastRequest.toNat) parts
  lastMove_eq : timeRank s.lastMove = greatest (fun x => timeRank x.lastMove) parts
  moves_eq : s.moves.toNat = greatest (fun x => x.moves.toNat) parts
  mem_senders_iff : ∀ k, k ∈ s.senders.keys ↔ ∃ x ∈ parts, k ∈ x.senders.keys
  tally_eq : ∀ k, s.senders.tally k = addedUp (fun x => x.senders.tally k) parts

variable {f : RateStats → Nat} {s t : RateStats} {parts more : List RateStats}

theorem addedUp_append :
    addedUp f (parts ++ more) = min (addedUp f parts + addedUp f more) 18446744073709551615 := by
  unfold addedUp
  rw [List.map_append, List.sum_append_nat]
  omega

theorem addedUp_perm (h : parts.Perm more) : addedUp f parts = addedUp f more := by
  unfold addedUp
  rw [(h.map f).sum_nat]

theorem addedUp_singleton (f : RateStats → Nat) (s : RateStats) (h : f s ≤ 18446744073709551615) :
    addedUp f [s] = f s := by
  simp [addedUp, Nat.min_eq_left h]

theorem greatest_append : greatest f (parts ++ more) = max (greatest f parts) (greatest f more) := by
  unfold greatest
  induction parts with
  | nil => simp
  | cons x rest ih =>
    simp only [List.cons_append, List.map_cons, List.foldr_cons, ih]
    omega

theorem greatest_perm (h : parts.Perm more) : greatest f parts = greatest f more :=
  (h.map f).foldr_eq 0

theorem greatest_singleton (f : RateStats → Nat) (s : RateStats) : greatest f [s] = f s := by
  simp [greatest]

theorem timeRank_later (a b : Option UInt64) :
    timeRank (later a b) = max (timeRank a) (timeRank b) := by
  cases a with
  | none => simp [later, timeRank]
  | some x =>
    cases b with
    | none => simp [later, timeRank]
    | some y =>
      simp only [later, timeRank, UInt64.toNat_max]
      omega

theorem timeRank_inj {a b : Option UInt64} (h : timeRank a = timeRank b) : a = b := by
  cases a <;> cases b <;> simp_all [timeRank, ← UInt64.toNat_inj]

namespace IsSumOf

theorem single (s : RateStats) : s.IsSumOf [s] := by
  have hword (n : UInt64) : n.toNat ≤ 18446744073709551615 := Nat.le_of_lt_succ n.toNat_lt
  exact
    { requests_eq := (addedUp_singleton (·.requests.toNat) s (hword s.requests)).symm
      total_eq := (addedUp_singleton (·.total.toNat) s (hword s.total)).symm
      lastRequest_eq := (greatest_singleton (·.lastRequest.toNat) s).symm
      lastMove_eq := (greatest_singleton (timeRank ·.lastMove) s).symm
      moves_eq := (greatest_singleton (·.moves.toNat) s).symm
      mem_senders_iff := fun k => by simp
      tally_eq := fun k => (addedUp_singleton (·.senders.tally k) s (hword _)).symm }

/-- A merge that drops no sender adds up both sides. -/
theorem merge {p : RateParams} (hs : s.IsSumOf parts) (ht : t.IsSumOf more)
    (hroom : (s.senders.merge t.senders).size ≤ p.maxSenders.toNat) :
    (s.merge p t).IsSumOf (parts ++ more) where
  requests_eq := by
    rw [addedUp_append, ← hs.requests_eq, ← ht.requests_eq]
    exact toNat_satAdd _ _
  total_eq := by
    rw [addedUp_append, ← hs.total_eq, ← ht.total_eq]
    exact toNat_satAdd _ _
  lastRequest_eq := by
    rw [greatest_append, ← hs.lastRequest_eq, ← ht.lastRequest_eq]
    exact UInt64.toNat_max _ _
  lastMove_eq := by
    rw [greatest_append, ← hs.lastMove_eq, ← ht.lastMove_eq]
    exact timeRank_later _ _
  moves_eq := by
    rw [greatest_append, ← hs.moves_eq, ← ht.moves_eq]
    exact UInt64.toNat_max _ _
  mem_senders_iff k := by
    show k ∈ ((s.senders.merge t.senders).bound _).keys ↔ _
    rw [Senders.bound_of_size_le hroom, Senders.mem_keys_merge, hs.mem_senders_iff,
      ht.mem_senders_iff]
    simp [or_and_right, exists_or]
  tally_eq k := by
    show ((s.senders.merge t.senders).bound _).tally k = _
    rw [Senders.bound_of_size_le hroom, Senders.tally_merge, hs.tally_eq, ht.tally_eq,
      addedUp_append]

theorem perm (hs : s.IsSumOf parts) (h : parts.Perm more) : s.IsSumOf more where
  requests_eq := hs.requests_eq.trans (addedUp_perm h)
  total_eq := hs.total_eq.trans (addedUp_perm h)
  lastRequest_eq := hs.lastRequest_eq.trans (greatest_perm h)
  lastMove_eq := hs.lastMove_eq.trans (greatest_perm h)
  moves_eq := hs.moves_eq.trans (greatest_perm h)
  mem_senders_iff k := (hs.mem_senders_iff k).trans
    (exists_congr fun _ => and_congr_left fun _ => h.mem_iff)
  tally_eq k := (hs.tally_eq k).trans (addedUp_perm h)

/-- Statistics that sum up the same parts differ in the average gap at most. -/
theorem counts_eq (hs : s.IsSumOf parts) (ht : t.IsSumOf parts) : s.counts = t.counts := by
  have hsenders : s.senders = t.senders := Senders.ext_tally
    (fun k => (hs.mem_senders_iff k).trans (ht.mem_senders_iff k).symm)
    (fun k => (hs.tally_eq k).trans (ht.tally_eq k).symm)
  have hrequests := UInt64.toNat_inj.mp (hs.requests_eq.trans ht.requests_eq.symm)
  have htotal := UInt64.toNat_inj.mp (hs.total_eq.trans ht.total_eq.symm)
  have hrequest := UInt64.toNat_inj.mp (hs.lastRequest_eq.trans ht.lastRequest_eq.symm)
  have hmove := timeRank_inj (hs.lastMove_eq.trans ht.lastMove_eq.symm)
  have hmoves := UInt64.toNat_inj.mp (hs.moves_eq.trans ht.moves_eq.symm)
  simp only [counts, hsenders, hrequests, htotal, hrequest, hmove, hmoves]

end IsSumOf

def sendersOf (parts : List RateStats) : SortedSet String :=
  .ofList (parts.flatMap fun s => s.senders.keys.toList)

theorem mem_sendersOf {k : String} : k ∈ sendersOf parts ↔ ∃ s ∈ parts, k ∈ s.senders.keys := by
  unfold sendersOf
  rw [SortedSet.mem_ofList, List.mem_flatMap]
  rfl

end RateStats

open RateStats

/-- A way to merge statistics: those on the left take in the export of those on the right. -/
inductive MergeTree where
  | single (s : RateStats)
  | merged (left right : MergeTree)

namespace MergeTree

def parts : MergeTree → List RateStats
  | single s => [s]
  | merged left right => left.parts ++ right.parts

variable (name : ServiceName) (params : RateParams)

def profile : MergeTree → Except DemandError Profile
  | single s => .ok (.rate name params s)
  | merged left right => do
    let p ← left.profile
    let q ← right.profile
    p.merge q.toExport

variable {name params}

/-- If there is room for all senders, the merges of a tree add up its parts. -/
theorem exists_sum_of_profile {room : SortedSet String} {t : MergeTree} {p : Profile}
    (hroom : room.size ≤ params.maxSenders.toNat)
    (hparts : ∀ s ∈ t.parts, ∀ k ∈ s.senders.keys, k ∈ room)
    (h : t.profile name params = .ok p) : ∃ s, p = .rate name params s ∧ s.IsSumOf t.parts := by
  induction t generalizing p with
  | single s =>
    cases h
    exact ⟨s, rfl, .single s⟩
  | merged left right ihleft ihright =>
    obtain ⟨pleft, hleft, hrest⟩ := exists_of_bind_eq_ok h
    obtain ⟨pright, hright, hmerge⟩ := exists_of_bind_eq_ok hrest
    obtain ⟨s, rfl, hs⟩ := ihleft (fun x hx => hparts x (List.mem_append_left _ hx)) hleft
    obtain ⟨t, rfl, ht⟩ := ihright (fun x hx => hparts x (List.mem_append_right _ hx)) hright
    have hsenders : ∀ k ∈ (s.senders.merge t.senders).keys, k ∈ room := by
      intro k hk
      rcases Senders.mem_keys_merge.mp hk with hk | hk
      · obtain ⟨x, hx, hkx⟩ := (hs.mem_senders_iff k).mp hk
        exact hparts x (List.mem_append_left _ hx) k hkx
      · obtain ⟨x, hx, hkx⟩ := (ht.mem_senders_iff k).mp hk
        exact hparts x (List.mem_append_right _ hx) k hkx
    have hsize := Nat.le_trans (SortedMap.size_le_of_mem hsenders) hroom
    rcases Profile.merge_toExport_cases hmerge with
      ⟨_, hnull, -⟩ | ⟨_, _, _, _, _, hp, hq, hresult⟩
    · cases hnull
    · cases hp
      cases hq
      exact ⟨s.merge params t, hresult, hs.merge ht hsize⟩

/-- Profiles of one name with the same parameters can be merged in any order and any grouping, if the
table has room for all their senders. As long as all merges are accepted, the result has the sums and
the maxima of what the profiles have counted, and these do not depend on the way taken. -/
theorem sums_independent_of_tree {parts : List RateStats}
    (hroom : (sendersOf parts).size ≤ params.maxSenders.toNat) {t u : MergeTree}
    (ht : t.parts.Perm parts) (hu : u.parts.Perm parts) {p q : Profile}
    (hp : t.profile name params = .ok p) (hq : u.profile name params = .ok q) :
    ∃ s s', p = .rate name params s ∧ q = .rate name params s' ∧ s.IsSumOf parts ∧
      s'.IsSumOf parts ∧ s.counts = s'.counts := by
  obtain ⟨s, hs, hsum⟩ := exists_sum_of_profile hroom
    (fun x hx k hk => mem_sendersOf.mpr ⟨x, ht.mem_iff.mp hx, hk⟩) hp
  obtain ⟨s', hs', hsum'⟩ := exists_sum_of_profile hroom
    (fun x hx k hk => mem_sendersOf.mpr ⟨x, hu.mem_iff.mp hx, hk⟩) hq
  have hparts := hsum.perm ht
  have hparts' := hsum'.perm hu
  exact ⟨s, s', hs, hs', hparts, hparts', hparts.counts_eq hparts'⟩

def fullStats : RateStats where
  requests := 1
  total := 18446744073709551610
  lastRequest := 30
  senders := .ofList [("10.0.0.1", 18446744073709551610)]

def movedStats : RateStats where
  requests := 2
  total := 10
  gap := 4
  lastRequest := 50
  lastMove := some 20
  moves := 1
  senders := .ofList [("10.0.0.1", 9), ("10.0.0.2", 1)]

def smallStats : RateStats where
  requests := 3
  total := 3
  gap := 8
  lastRequest := 10
  senders := .ofList [("10.0.0.2", 3)]

/-- Two groupings of three statistics, in opposite orders. -/
theorem sums_independent_of_tree_saturated :
    let params : RateParams := { maxSenders := 2 }
    let parts := [fullStats, movedStats, smallStats]
    let t := merged (merged (single fullStats) (single movedStats)) (single smallStats)
    let u := merged (single smallStats) (merged (single movedStats) (single fullStats))
    (sendersOf parts).size = 2 ∧ t.parts.Perm parts ∧ u.parts.Perm parts ∧
      ∃ s s', t.profile "a" params = .ok (.rate "a" params s) ∧
        u.profile "a" params = .ok (.rate "a" params s') ∧ s.total = 18446744073709551615 ∧
        s.counts = s'.counts := by
  intro params parts t u
  have hsize : (sendersOf parts).size = 2 := by decide +kernel
  have hroom : (sendersOf parts).size ≤ params.maxSenders.toNat := by rw [hsize]; decide
  have ht : t.parts.Perm parts := .refl _
  have hu : u.parts.Perm parts := List.reverse_perm parts
  obtain ⟨p, hp, htotal⟩ : ∃ p, t.profile "a" params = .ok p ∧ p.total = 18446744073709551615 :=
    Profile.exists_ok_of_toOption (by decide +kernel)
  obtain ⟨q, hq, -⟩ : ∃ q, u.profile "a" params = .ok q ∧ q.total = 18446744073709551615 :=
    Profile.exists_ok_of_toOption (by decide +kernel)
  obtain ⟨s, s', rfl, rfl, -, -, hcounts⟩ := sums_independent_of_tree hroom ht hu hp hq
  exact ⟨hsize, ht, hu, s, s', hp, hq, htotal, hcounts⟩

end MergeTree

end ServicePlacement.Demand
