import Mathlib.Algebra.GroupWithZero.Nat
import ServicePlacement.Proofs.TableRuns

/-!
Demand is neither lost nor counted twice. The ledger of a run lists the requests that were recorded,
the profiles that the table took in, and those that it gave away, withdrawn or evicted. For a name
whose requests are counted, each step moves every request to exactly one place
(`step_balance`), so over a whole run the books balance with the entry that is left
(`demand_conserved`).
-/
namespace ServicePlacement.Demand

structure Ledger where
  recorded : List ServiceName
  takenIn : List Profile
  withdrawn : List Profile
  evicted : List Profile

def demandIn (name : ServiceName) (ps : List Profile) : Nat :=
  ((ps.filter fun p => p.name = name).map fun p => p.total.toNat).sum

@[simp] theorem demandIn_nil (name : ServiceName) : demandIn name [] = 0 := rfl

theorem demandIn_cons (name : ServiceName) (p : Profile) (ps : List Profile) :
    demandIn name (p :: ps) = (if p.name = name then p.total.toNat else 0) + demandIn name ps := by
  unfold demandIn
  by_cases h : p.name = name <;> simp [h]

@[simp] theorem demandIn_append (name : ServiceName) (ps qs : List Profile) :
    demandIn name (ps ++ qs) = demandIn name ps + demandIn name qs := by
  unfold demandIn
  rw [List.filter_append, List.map_append, List.sum_append]

namespace Ledger

def append (a b : Ledger) : Ledger where
  recorded := a.recorded ++ b.recorded
  takenIn := a.takenIn ++ b.takenIn
  withdrawn := a.withdrawn ++ b.withdrawn
  evicted := a.evicted ++ b.evicted

end Ledger

namespace Table

def recordedIn : Step → List ServiceName
  | .record name _ _ => name.toList
  | _ => []

def withdrawnIn : Answer → List Profile
  | .withdrawn (.ok copy) => copy.toList
  | _ => []

def evictedIn : Answer → List Profile
  | .evicted ps => ps
  | _ => []

def stepLedger (t : Table) (s : Step) : Ledger where
  recorded := recordedIn s
  takenIn := t.takenIn s
  withdrawn := withdrawnIn (t.perform s).1
  evicted := evictedIn (t.perform s).1

def ledger (t : Table) : List Step → Ledger
  | [] => ⟨[], [], [], []⟩
  | s :: rest => (t.stepLedger s).append ((t.next s).ledger rest)

def demandOf (t : Table) (name : ServiceName) : Nat :=
  ((t.profiles.get? name).map fun p => p.total.toNat).getD 0

theorem demandOf_put (t : Table) (k name : ServiceName) (p : Profile) :
    (t.put k p).demandOf name = if name = k then p.total.toNat else t.demandOf name := by
  unfold demandOf
  rw [get?_put]
  by_cases h : name = k <;> simp [h]

theorem demandOf_trim (t : Table) (favoured : List ServiceName) (name : ServiceName) :
    (t.trim favoured).2.demandOf name =
      if name ∈ t.victims favoured then 0 else t.demandOf name := by
  unfold demandOf
  rw [get?_trim]
  by_cases h : name ∈ t.victims favoured <;> simp [h]

variable {t : Table} {name : ServiceName}

theorem demandOf_of_get? {p : Profile} (h : t.profiles.get? name = some p) :
    t.demandOf name = p.total.toNat := by
  unfold demandOf
  rw [h]
  rfl

theorem demandOf_of_get?_none (h : t.profiles.get? name = none) : t.demandOf name = 0 := by
  unfold demandOf
  rw [h]
  rfl

/-- Looking up different names gives the entry of each of them once. -/
theorem demandIn_filterMap (hkeyed : t.Entries fun k p => p.name = k) {names : List ServiceName}
    (hnodup : names.Nodup) :
    demandIn name (names.filterMap t.profiles.get?) =
      if name ∈ names then t.demandOf name else 0 := by
  induction names with
  | nil => rfl
  | cons k rest ih =>
    obtain ⟨hk, hrest⟩ := List.nodup_cons.mp hnodup
    cases hget : t.profiles.get? k with
    | none =>
      rw [List.filterMap_cons_none hget, ih hrest]
      by_cases heq : name = k
      · subst heq
        simp [hk, demandOf_of_get?_none hget]
      · simp [heq]
    | some p =>
      rw [List.filterMap_cons_some hget, demandIn_cons, ih hrest, hkeyed k p hget]
      by_cases heq : name = k
      · subst heq
        simp [hk, demandOf_of_get? hget]
      · simp [heq, Ne.symm heq]

/-- A request of a counted name goes to a profile that counts and stands for its demand so far. -/
theorem kind_total_of_recorded (hcreate : t.registry.kindFor name = rateKind)
    (hrate : t.Entries fun k p => k = name → p.kind = rateKind) :
    ((t.profiles.get? name).getD (t.registry.create name)).kind = rateKind ∧
      ((t.profiles.get? name).getD (t.registry.create name)).total.toNat = t.demandOf name := by
  cases hget : t.profiles.get? name with
  | none =>
    rw [Option.getD_none, t.registry.kind_create, t.registry.total_create,
      demandOf_of_get?_none hget]
    exact ⟨hcreate, rfl⟩
  | some p =>
    rw [Option.getD_some, demandOf_of_get? hget]
    exact ⟨hrate name p hget rfl, rfl⟩

theorem record_balance (hcreate : t.registry.kindFor name = rateKind)
    (hrate : t.Entries fun k p => k = name → p.kind = rateKind) (k : ServiceName)
    (sender : IpAddress) (now : UInt64)
    (hbelow : (t.record (some k) sender now).2.demandOf name < 18446744073709551615) :
    [k].count name + t.demandOf name = (t.record (some k) sender now).2.demandOf name := by
  have hnext : (t.record (some k) sender now).2 =
      t.put k (((t.profiles.get? k).getD (t.registry.create k)).record sender now).2 := rfl
  rw [hnext, demandOf_put] at hbelow ⊢
  by_cases hk : name = k
  · subst hk
    obtain ⟨hkind, htotal⟩ := kind_total_of_recorded hcreate hrate
    have hone : (1 : UInt64).toNat = 1 := rfl
    rw [if_pos rfl, Profile.total_record hkind, toNat_satAdd, htotal, hone] at hbelow ⊢
    rw [List.count_singleton_self]
    omega
  · rw [if_neg hk]
    simp [Ne.symm hk]

/-- A profile that becomes the first entry of its name brings its own demand. -/
theorem put_new_balance {u : Profile} (hget : t.profiles.get? u.name = none) :
    demandIn name [u] + t.demandOf name = (t.put u.name u).demandOf name := by
  rw [demandIn_cons, demandIn_nil, demandOf_put]
  by_cases hname : name = u.name
  · subst hname
    rw [if_pos rfl, if_pos rfl, demandOf_of_get?_none hget]
    rfl
  · rw [if_neg hname, if_neg (Ne.symm hname)]
    omega

theorem admitted_balance (u : Profile)
    (hbelow : (t.accept u).2.demandOf name < 18446744073709551615) :
    demandIn name (t.admitted u) + t.demandOf name = (t.accept u).2.demandOf name := by
  rcases t.accept_cases u with ⟨_, haccept, hadmitted⟩ | ⟨_, p, -, hmerged, haccept, hadmitted⟩
  · rw [haccept, hadmitted]
    exact Nat.zero_add _
  · rw [haccept] at hbelow ⊢
    rw [hadmitted]
    rcases merged_cases hmerged with ⟨hget, rfl⟩ | ⟨existing, hget, hmerge⟩
    · exact put_new_balance hget
    · rw [demandOf_put] at hbelow ⊢
      rw [demandIn_cons, demandIn_nil]
      by_cases hname : name = u.name
      · subst hname
        rw [if_pos rfl, Profile.total_of_merge hmerge, toNat_satAdd] at hbelow ⊢
        rw [if_pos rfl, demandOf_of_get? hget]
        omega
      · rw [if_neg hname, if_neg (Ne.symm hname)]
        omega

theorem trim_balance (hkeyed : t.Entries fun k p => p.name = k) (favoured : List ServiceName) :
    t.demandOf name =
      demandIn name (t.trim favoured).1 + (t.trim favoured).2.demandOf name := by
  rw [show (t.trim favoured).1 = (t.victims favoured).filterMap t.profiles.get? from rfl,
    demandIn_filterMap hkeyed (t.nodup_victims favoured), demandOf_trim]
  by_cases h : name ∈ t.victims favoured <;> simp [h]

theorem withdraw_balance (hkeyed : t.Entries fun k p => p.name = k) (k : ServiceName) :
    t.demandOf name =
      demandIn name (withdrawnIn (.withdrawn (t.withdraw k).1)) +
        (t.withdraw k).2.demandOf name := by
  rcases t.withdraw_cases k with ⟨-, hw⟩ | ⟨p, hget, ⟨_, -, hw⟩ | ⟨copy, hcopy, hw⟩⟩
  · rw [hw]
    exact (Nat.zero_add _).symm
  · rw [hw]
    exact (Nat.zero_add _).symm
  · obtain ⟨hname, -, htotal⟩ := Registry.restore_toExport_same hcopy
    rw [hw, demandOf_put]
    show t.demandOf name = demandIn name [copy] + _
    rw [demandIn_cons, demandIn_nil, hname, htotal, hkeyed k p hget, t.registry.total_create]
    by_cases hk : name = k
    · subst hk
      rw [if_pos rfl, if_pos rfl, demandOf_of_get? hget]
      rfl
    · rw [if_neg (Ne.symm hk), if_neg hk]
      omega

theorem move_balance (k : ServiceName) (current : Placement) (c : Cluster)
    (now marked : UInt64) :
    (t.move k current c now marked).2.demandOf name = t.demandOf name := by
  rcases t.move_cases k current c now marked with hmove | ⟨p, _, hget, -, hmove⟩
  · rw [hmove]
  · rw [hmove, demandOf_put, Profile.total_moved]
    by_cases hk : name = k
    · subst hk
      rw [if_pos rfl, demandOf_of_get? hget]
    · rw [if_neg hk]

theorem install_balance (p : Profile) :
    demandIn name (t.takenIn (.install p)) + t.demandOf name = (t.install p).2.demandOf name := by
  rcases t.install_cases p with ⟨hinstall, htakes⟩ | ⟨hget, hinstall, htakes⟩
  · rw [hinstall, htakes]
    exact Nat.zero_add _
  · rw [hinstall, htakes]
    exact put_new_balance hget

/-- One step moves each request of a counted name to exactly one place. -/
theorem step_balance (hcreate : t.registry.kindFor name = rateKind)
    (hkeyed : t.Entries fun k p => p.name = k)
    (hrate : t.Entries fun k p => k = name → p.kind = rateKind) (s : Step)
    (hbelow : (t.next s).demandOf name < 18446744073709551615) :
    (t.stepLedger s).recorded.count name + demandIn name (t.stepLedger s).takenIn +
        t.demandOf name =
      demandIn name (t.stepLedger s).withdrawn + demandIn name (t.stepLedger s).evicted +
        (t.next s).demandOf name := by
  cases s with
  | record k sender now =>
    cases k with
    | none => rfl
    | some k =>
      show [k].count name + 0 + t.demandOf name =
        0 + 0 + (t.record (some k) sender now).2.demandOf name
      rw [← record_balance hcreate hrate k sender now hbelow]
      omega
  | propose k current now => rfl
  | move k current c now marked =>
    show 0 + 0 + t.demandOf name = 0 + 0 + (t.move k current c now marked).2.demandOf name
    rw [move_balance]
  | accept update =>
    show 0 + demandIn name (t.admitted update) + t.demandOf name =
      0 + 0 + (t.accept update).2.demandOf name
    rw [← admitted_balance update hbelow]
    omega
  | acceptExport e =>
    show 0 + demandIn name (t.takenIn (.acceptExport e)) + t.demandOf name =
      0 + 0 + (t.acceptExport e).2.demandOf name
    rcases t.acceptExport_cases e with ⟨_, haccept, htakes⟩ | ⟨update, -, haccept, htakes⟩
    · rw [haccept, htakes]
      rfl
    · have hbelow' : (t.acceptExport e).2.demandOf name < 18446744073709551615 := hbelow
      rw [haccept] at hbelow' ⊢
      rw [htakes, ← admitted_balance update hbelow']
      omega
  | trim favoured =>
    show 0 + 0 + t.demandOf name =
      0 + demandIn name (t.trim favoured).1 + (t.trim favoured).2.demandOf name
    rw [trim_balance hkeyed favoured]
    omega
  | withdraw k =>
    show 0 + 0 + t.demandOf name =
      demandIn name (withdrawnIn (.withdrawn (t.withdraw k).1)) + 0 +
        (t.withdraw k).2.demandOf name
    rw [withdraw_balance hkeyed k]
    omega
  | install p =>
    show 0 + demandIn name (t.takenIn (.install p)) + t.demandOf name =
      0 + 0 + (t.install p).2.demandOf name
    rw [← install_balance p]
    omega
  | contains k => rfl

/-- The entry of a name stays of the kind that counts, as long as only such profiles are taken in. -/
theorem counted_invariant {registry : Registry} {name : ServiceName}
    (hcreate : registry.kindFor name = rateKind) :
    EntryInvariant registry fun k p => k = name → p.kind = rateKind where
  create k hk := by rw [registry.kind_create, hk, hcreate]
  record sender now h hk := (Profile.kind_record _ sender now).trans (h hk)
  moved now h hk := (Profile.kind_moved _ now).trans (h hk)
  merge h _ hmerge hk := (Profile.kind_of_merge hmerge).2.trans (h hk)

/-- The books of a run balance with what was there at its beginning and what is left at its end. -/
theorem run_balance {steps : List Step} (hcreate : t.registry.kindFor name = rateKind)
    (hkeyed : t.Entries fun k p => p.name = k)
    (hrate : t.Entries fun k p => k = name → p.kind = rateKind)
    (htaken : ∀ u ∈ (t.ledger steps).takenIn, u.name = name → u.kind = rateKind)
    (hbelow : ∀ i ≤ steps.length,
      (t.run (steps.take i)).demandOf name < 18446744073709551615) :
    (t.ledger steps).recorded.count name + demandIn name (t.ledger steps).takenIn +
        t.demandOf name =
      demandIn name (t.ledger steps).withdrawn + demandIn name (t.ledger steps).evicted +
        (t.run steps).demandOf name := by
  induction steps generalizing t with
  | nil => rfl
  | cons s rest ih =>
    have hstep := step_balance hcreate hkeyed hrate s (hbelow 1 (by simp))
    have hs : ∀ u ∈ t.takenIn s, u.name = name → u.kind = rateKind := by
      intro u hu
      exact htaken u (List.mem_append_left _ hu)
    have hrest := ih (t := t.next s) (by rw [(t.next_setup s).1]; exact hcreate)
      (hkeyed.next (keyed_invariant t.registry) fun _ _ => rfl)
      (hrate.next (counted_invariant hcreate) hs)
      (fun u hu => htaken u (List.mem_append_right _ hu))
      (fun i hi => hbelow (i + 1) (by rw [List.length_cons]; omega))
    simp only [ledger, Ledger.append, List.count_append, demandIn_append, run_cons]
    omega

/-- Demand is neither lost nor counted twice. For a name that gets profiles that count, and into
whose entry only such profiles come, the recorded requests and those of the profiles taken in are
the ones withdrawn, evicted and still there, unless a count has reached the greatest word. -/
theorem demand_conserved (registry : Registry) (cluster : Cluster) (limits : Limits)
    (steps : List Step) (name : ServiceName) (hcreate : registry.kindFor name = rateKind)
    (htaken : ∀ u ∈ ((new registry cluster limits).ledger steps).takenIn,
      u.name = name → u.kind = rateKind)
    (hbelow : ∀ i ≤ steps.length,
      ((new registry cluster limits).run (steps.take i)).demandOf name < 18446744073709551615) :
    ((new registry cluster limits).ledger steps).recorded.count name +
        demandIn name ((new registry cluster limits).ledger steps).takenIn =
      demandIn name ((new registry cluster limits).ledger steps).withdrawn +
        demandIn name ((new registry cluster limits).ledger steps).evicted +
        ((new registry cluster limits).run steps).demandOf name :=
  run_balance hcreate (entries_new registry cluster limits _) (entries_new registry cluster limits _)
    htaken hbelow

def mixedSteps : List Step :=
  let sender := .v4 ⟨10, 0, 0, 1⟩
  [.record (some "a") sender 10, .record (some "a") sender 25, .record (some "b") sender 30,
    .accept (.rate "a" {} { requests := 5, total := 5, gap := 3 }), .withdraw "a",
    .record (some "a") sender 40, .trim ["a"], .record (some "a") sender 50]

theorem demand_conserved_mixed :
    let t := new .standard .empty (.of 2 1)
    let l := t.ledger mixedSteps
    l.recorded.count "a" = 4 ∧ demandIn "a" l.takenIn = 5 ∧ demandIn "a" l.withdrawn = 7 ∧
      demandIn "a" l.evicted = 1 ∧ (t.run mixedSteps).demandOf "a" = 1 ∧
      l.recorded.count "a" + demandIn "a" l.takenIn =
        demandIn "a" l.withdrawn + demandIn "a" l.evicted + (t.run mixedSteps).demandOf "a" :=
  ⟨by decide +kernel, by decide +kernel, by decide +kernel, by decide +kernel, by decide +kernel,
    demand_conserved .standard .empty (.of 2 1) mixedSteps "a" (by decide +kernel)
      (by decide +kernel) (by decide +kernel)⟩

end Table

end ServicePlacement.Demand
