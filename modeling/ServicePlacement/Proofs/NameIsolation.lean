import ServicePlacement.Proofs.TableRuns

/-!
Names do not interfere. Unless the table is trimmed, a step reads and writes the entry of its own
name only: it leaves all other entries alone (`get?_next_of_ne`), and two tables that agree on the
entry of the name answer it alike and agree afterwards (`AgreesAt.next`). So what a run answers for
one name can be had from the steps about that name alone.
-/
namespace ServicePlacement.Demand

/-- The name that a step is about. A request without a name is about none, and trimming may evict
any. -/
def Step.name? : Step → Option ServiceName
  | .record name _ _ => name
  | .propose name _ _ => some name
  | .move name _ _ _ _ => some name
  | .accept update => some update.name
  | .acceptExport e => some e.name
  | .trim _ => none
  | .withdraw name => some name
  | .install p => some p.name
  | .contains name => some name

def Step.isAbout (name : ServiceName) (s : Step) : Bool := s.name? == some name

theorem Registry.name_restore {r : Registry} {e : Export} {p : Profile}
    (h : r.restore e = .ok p) : p.name = e.name := by
  obtain ⟨s, -, hrestore⟩ := restore_eq_ok h
  obtain ⟨_, -, hrest⟩ := exists_of_bind_eq_ok hrestore
  cases s with
  | null =>
    cases hrest
    rfl
  | rate params =>
    obtain ⟨_, -, hresult⟩ := exists_of_bind_eq_ok hrest
    cases hresult
    rfl

namespace Table

def log (t : Table) : List Step → List (Step × Answer)
  | [] => []
  | s :: rest => (s, (t.perform s).1) :: (t.next s).log rest

structure AgreesAt (name : ServiceName) (t t' : Table) : Prop where
  registry_eq : t.registry = t'.registry
  cluster_eq : t.cluster = t'.cluster
  entry_eq : t.profiles.get? name = t'.profiles.get? name

variable {t t' : Table} {name : ServiceName}

theorem get?_put_of_ne (t : Table) {k : ServiceName} (h : k ≠ name) (p : Profile) :
    (t.put k p).profiles.get? name = t.profiles.get? name := by
  rw [get?_put, if_neg (Ne.symm h)]

/-- A step only makes an entry of its own name. -/
theorem Makes.name?_eq {s : Step} {p : Profile} (h : t.Makes s name p) : s.name? = some name := by
  cases h with
  | merged hs =>
    obtain rfl | ⟨e, rfl, hrestore⟩ := hs
    · rfl
    · exact congrArg some (Registry.name_restore hrestore).symm
  | _ => rfl

/-- A step changes no entry but that of its own name, unless it trims. -/
theorem get?_next_of_ne (t : Table) {s : Step} (htrim : s.isTrim = false)
    (h : s.name? ≠ some name) : (t.next s).profiles.get? name = t.profiles.get? name := by
  rcases t.next_cases htrim with hnext | ⟨k, p, hmakes, hnext⟩
  · rw [hnext]
  · have hk : k ≠ name := by
      rintro rfl
      exact h hmakes.name?_eq
    rw [hnext, t.get?_put_of_ne hk]

structure KeepsOthers (name : ServiceName) (t t' : Table) : Prop where
  registry_eq : t'.registry = t.registry
  cluster_eq : t'.cluster = t.cluster
  limits_eq : t'.limits = t.limits
  entry_eq : ∀ k, k ≠ name → t'.profiles.get? k = t.profiles.get? k

theorem keepsOthers_put (t : Table) (name : ServiceName) (p : Profile) :
    KeepsOthers name t (t.put name p) where
  registry_eq := rfl
  cluster_eq := rfl
  limits_eq := rfl
  entry_eq _ hk := t.get?_put_of_ne (Ne.symm hk) p

namespace AgreesAt

theorem put (h : AgreesAt name t t') (p : Profile) :
    AgreesAt name (t.put name p) (t'.put name p) where
  registry_eq := h.registry_eq
  cluster_eq := h.cluster_eq
  entry_eq := by rw [get?_put, get?_put, if_pos rfl, if_pos rfl]

theorem contains_eq (h : AgreesAt name t t') : t.contains name = t'.contains name := by
  unfold Table.contains SortedMap.contains
  rw [h.entry_eq]

theorem record (h : AgreesAt name t t') (sender : IpAddress) (now : UInt64) :
    (t.record (some name) sender now).1 = (t'.record (some name) sender now).1 ∧
      AgreesAt name (t.record (some name) sender now).2 (t'.record (some name) sender now).2 := by
  unfold Table.record
  simp only [h.entry_eq, h.registry_eq]
  exact ⟨trivial, h.put _⟩

theorem move (h : AgreesAt name t t') (current : Placement) (c : Cluster) (now marked : UInt64) :
    (t.move name current c now marked).1 = (t'.move name current c now marked).1 ∧
      AgreesAt name (t.move name current c now marked).2
        (t'.move name current c now marked).2 := by
  unfold Table.move
  rw [h.entry_eq]
  split
  · exact ⟨rfl, h⟩
  · split
    · exact ⟨rfl, h.put _⟩
    · exact ⟨rfl, h⟩

theorem accept {update : Profile} (h : AgreesAt update.name t t') :
    (t.accept update).1 = (t'.accept update).1 ∧
      AgreesAt update.name (t.accept update).2 (t'.accept update).2 := by
  have hmerged : t.merged update = t'.merged update := by
    unfold merged
    rw [h.entry_eq]
  unfold Table.accept
  rw [h.registry_eq, hmerged]
  split
  · exact ⟨rfl, h⟩
  · split
    · exact ⟨rfl, h⟩
    · exact ⟨rfl, h.put _⟩

theorem acceptExport {e : Export} (h : AgreesAt e.name t t') :
    (t.acceptExport e).1 = (t'.acceptExport e).1 ∧
      AgreesAt e.name (t.acceptExport e).2 (t'.acceptExport e).2 := by
  unfold Table.acceptExport
  rw [h.registry_eq]
  cases hrestore : t'.registry.restore e with
  | error err => exact ⟨rfl, h⟩
  | ok update =>
    rw [← Registry.name_restore hrestore] at h ⊢
    exact h.accept

theorem withdraw (h : AgreesAt name t t') :
    (t.withdraw name).1 = (t'.withdraw name).1 ∧
      AgreesAt name (t.withdraw name).2 (t'.withdraw name).2 := by
  unfold Table.withdraw
  rw [h.entry_eq, h.registry_eq]
  split
  · exact ⟨rfl, h⟩
  · split
    · exact ⟨rfl, h⟩
    · exact ⟨rfl, h.put _⟩

theorem install {p : Profile} (h : AgreesAt p.name t t') :
    (t.install p).1 = (t'.install p).1 ∧ AgreesAt p.name (t.install p).2 (t'.install p).2 := by
  unfold Table.install
  rw [h.contains_eq]
  split
  · exact ⟨rfl, h⟩
  · exact ⟨rfl, h.put p⟩

/-- Tables that agree on the entry of a step's name answer the step alike and agree afterwards. -/
theorem next {s : Step} (h : AgreesAt name t t') (hs : s.name? = some name) :
    (t.perform s).1 = (t'.perform s).1 ∧ AgreesAt name (t.next s) (t'.next s) := by
  cases s with
  | record k sender now =>
    cases hs
    exact (h.record sender now).imp_left (congrArg Answer.report)
  | propose k current now =>
    cases hs
    refine ⟨congrArg Answer.proposal ?_, h⟩
    unfold Table.propose
    rw [h.entry_eq, h.cluster_eq]
  | move k current c now marked =>
    cases hs
    exact (h.move current c now marked).imp_left (congrArg Answer.placed)
  | accept update =>
    cases hs
    exact h.accept.imp_left (congrArg Answer.accepted)
  | acceptExport e =>
    cases hs
    exact h.acceptExport.imp_left (congrArg Answer.accepted)
  | trim favoured => cases hs
  | withdraw k =>
    cases hs
    exact h.withdraw.imp_left (congrArg Answer.withdrawn)
  | install p =>
    cases hs
    exact h.install.imp_left (congrArg Answer.installed)
  | contains k =>
    cases hs
    exact ⟨congrArg Answer.tracked h.contains_eq, h⟩

/-- A step about another name on one side only leaves tables in agreement. -/
theorem next_left {s : Step} (h : AgreesAt name t t') (htrim : s.isTrim = false)
    (hs : s.name? ≠ some name) : AgreesAt name (t.next s) t' where
  registry_eq := (t.next_setup s).1.trans h.registry_eq
  cluster_eq := (t.next_setup s).2.1.trans h.cluster_eq
  entry_eq := (t.get?_next_of_ne htrim hs).trans h.entry_eq

/-- Of two tables that agree for a name, one may perform a whole run and the other only the steps of
it that are about the name. -/
theorem run (h : AgreesAt name t t') {steps : List Step} (htrim : ∀ s ∈ steps, s.isTrim = false) :
    (t.log steps).filter (fun e => e.1.isAbout name) = t'.log (steps.filter (·.isAbout name)) ∧
      AgreesAt name (t.run steps) (t'.run (steps.filter (·.isAbout name))) := by
  induction steps generalizing t t' with
  | nil => exact ⟨rfl, h⟩
  | cons s rest ih =>
    have hs := htrim s List.mem_cons_self
    have hrest := fun u hu => htrim u (List.mem_cons_of_mem s hu)
    by_cases habout : s.name? = some name
    · have hkeep : s.isAbout name = true := beq_iff_eq.mpr habout
      obtain ⟨hanswer, hnext⟩ := h.next habout
      obtain ⟨hlog, hrun⟩ := ih hnext hrest
      rw [List.filter_cons_of_pos hkeep]
      refine ⟨?_, hrun⟩
      rw [log, log, List.filter_cons_of_pos (by exact hkeep), hanswer, hlog]
    · have hdrop : ¬ s.isAbout name = true := fun hkeep => habout (beq_iff_eq.mp hkeep)
      obtain ⟨hlog, hrun⟩ := ih (h.next_left hs habout) hrest
      rw [List.filter_cons_of_neg hdrop]
      refine ⟨?_, hrun⟩
      rw [log, List.filter_cons_of_neg (by exact hdrop), hlog]

end AgreesAt

/-- Names do not interfere. In any run without trimming, the steps about a name are answered as in
the run of these steps alone, and the name ends with the same entry. -/
theorem answers_of_own_steps (t : Table) (name : ServiceName) (steps : List Step)
    (htrim : ∀ s ∈ steps, s.isTrim = false) :
    (t.log steps).filter (fun e => e.1.isAbout name) = t.log (steps.filter (·.isAbout name)) ∧
      (t.run steps).profiles.get? name =
        (t.run (steps.filter (·.isAbout name))).profiles.get? name := by
  have hself : AgreesAt name t t := ⟨rfl, rfl, rfl⟩
  obtain ⟨hlog, hagree⟩ := hself.run htrim
  exact ⟨hlog, hagree.entry_eq⟩

def mingledSteps : List Step :=
  let sender := .v4 ⟨10, 0, 0, 1⟩
  [.record (some "a") sender 10, .record (some "b") sender 20,
    .accept (.rate "b" {} { requests := 5, total := 5, gap := 3 }), .withdraw "a",
    .record none sender 25, .install (.null "b"), .record (some "a") sender 30,
    .move "b" (.singleton "AR0") .empty 40 45, .contains "a"]

theorem answers_of_own_steps_mingled :
    let t := new .standard .empty .standard
    let own := mingledSteps.filter (·.isAbout "a")
    (∀ s ∈ mingledSteps, s.isTrim = false) ∧ own.length = 4 ∧
      (t.log mingledSteps).filter (fun e => e.1.isAbout "a") = t.log own ∧
      ((t.run own).profiles.get? "a").map Profile.total = some 1 ∧
      (t.run mingledSteps).profiles.get? "a" = (t.run own).profiles.get? "a" := by
  intro t own
  have htrim : ∀ s ∈ mingledSteps, s.isTrim = false := by decide
  obtain ⟨hlog, hentry⟩ := answers_of_own_steps t "a" mingledSteps htrim
  exact ⟨htrim, by decide +kernel, hlog, by decide +kernel, hentry⟩

end Table

end ServicePlacement.Demand
