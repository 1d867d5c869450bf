import ServicePlacement.Hosting.Host
import ServicePlacement.Proofs.MapViews

/-!
Moving a service from one host to another. An operation leaves a host as it was or gives one hosted
service a new text (`execute_cases`), so a step is answered from the text of its own service and
changes no other one. Two hosts with the same text for a service therefore go on alike for it,
whatever is done to other services on either of them (`AgreesAt.run`), and a checkpoint that is
restored elsewhere makes such a pair.
-/
namespace ServicePlacement.Host

inductive Step where
  | restore (service : ServiceName) (state : Option String)
  | execute (o : Operation)
deriving DecidableEq

namespace Step

def service? : Step → Option ServiceName
  | restore service _ => some service
  | execute o => o.service

def isAbout (service : ServiceName) (s : Step) : Bool := s.service? == some service

def isRestore : Step → Bool
  | restore _ _ => true
  | execute _ => false

end Step

def perform (h : Host) : Step → Bool × Host
  | .restore service state => (true, h.restore service state)
  | .execute o => h.execute o

def run (h : Host) (steps : List Step) : Host := steps.foldl (fun h s => (h.perform s).2) h

def log (h : Host) : List Step → List (Step × Bool)
  | [] => []
  | s :: rest => (s, (h.perform s).1) :: (h.perform s).2.log rest

def services (h : Host) : SortedSet ServiceName := h.states.keys

variable {h h' : Host} {service : ServiceName}

theorem mem_services_iff : service ∈ h.services ↔ ∃ state, h.checkpoint service = some state :=
  SortedMap.mem_keys_iff

theorem checkpoint_restore (h : Host) (service other : ServiceName) (state : Option String) :
    (h.restore service state).checkpoint other =
      if other = service then state else h.checkpoint other :=
  SortedMap.get?_alter h.states service other _

/-- An operation changes nothing, or it is a write to a hosted service and gives it a new text. -/
theorem execute_cases (h : Host) (o : Operation) :
    (∃ done, h.execute o = (done, h)) ∨
      ∃ service ∈ h.services, o.service = some service ∧ o.kind = .standard ∧
        o.isStop = false ∧ h.execute o = (true, h.restore service (some o.value)) := by
  unfold execute
  by_cases hnoop : o.isNoop = true
  · exact .inl ⟨true, if_pos hnoop⟩
  · rw [if_neg hnoop]
    cases hkind : o.kind with
    | other => exact .inl ⟨false, rfl⟩
    | standard =>
      unfold write
      cases hservice : o.service with
      | none => exact .inl ⟨true, rfl⟩
      | some service =>
        cases hstop : o.isStop with
        | true => exact .inl ⟨true, rfl⟩
        | false =>
          by_cases hhosted : h.states.contains service = true
          · refine .inr ⟨service, SortedMap.contains_keys.mp hhosted, rfl, rfl, rfl, ?_⟩
            simp only [hhosted, if_true]
            rfl
          · exact .inl ⟨false, by simp [hhosted]⟩

/-- An operation is answered from the text of its own service. -/
theorem execute_congr {o : Operation} (ho : o.service = some service)
    (hsame : h.checkpoint service = h'.checkpoint service) :
    (h.execute o).1 = (h'.execute o).1 ∧
      (h.execute o).2.checkpoint service = (h'.execute o).2.checkpoint service := by
  have hhosted : h.states.contains service = h'.states.contains service :=
    congrArg Option.isSome hsame
  unfold execute write
  rw [ho]
  simp only [hhosted]
  split
  · exact ⟨rfl, hsame⟩
  · cases o.kind with
    | other => exact ⟨rfl, hsame⟩
    | standard =>
      simp only
      split
      · exact ⟨rfl, hsame⟩
      · split
        · refine ⟨rfl, ?_⟩
          show (h.restore service (some o.value)).checkpoint service =
            (h'.restore service (some o.value)).checkpoint service
          rw [checkpoint_restore, checkpoint_restore, if_pos rfl, if_pos rfl]
        · exact ⟨rfl, hsame⟩

theorem services_execute (h : Host) (o : Operation) : (h.execute o).2.services = h.services := by
  rcases h.execute_cases o with ⟨done, hsame⟩ | ⟨service, hhosted, -, -, -, hwrite⟩
  · rw [hsame]
  · rw [hwrite]
    refine SortedSet.ext_mem fun other => ?_
    rw [mem_services_iff, mem_services_iff, checkpoint_restore]
    by_cases hother : other = service
    · rw [if_pos hother, hother]
      exact ⟨fun _ => mem_services_iff.mp hhosted, fun _ => ⟨o.value, rfl⟩⟩
    · rw [if_neg hother]

theorem services_restore_congr (hsame : h.services = h'.services) (service : ServiceName)
    (state : Option String) :
    (h.restore service state).services = (h'.restore service state).services := by
  refine SortedSet.ext_mem fun other => ?_
  rw [mem_services_iff, mem_services_iff, checkpoint_restore, checkpoint_restore]
  by_cases hother : other = service
  · rw [if_pos hother, if_pos hother]
  · rw [if_neg hother, if_neg hother, ← mem_services_iff, ← mem_services_iff, hsame]

/-- Which services a host has after a run is up to the restores alone. -/
theorem services_run (hsame : h.services = h'.services) (steps : List Step) :
    (h.run steps).services = (h'.run (steps.filter Step.isRestore)).services := by
  induction steps generalizing h h' with
  | nil => exact hsame
  | cons s rest ih =>
    cases s with
    | restore service state =>
      rw [List.filter_cons_of_pos rfl]
      exact ih (services_restore_congr hsame service state)
    | execute o =>
      rw [List.filter_cons_of_neg (by simp [Step.isRestore])]
      exact ih ((services_execute h o).trans hsame)

/-- A step leaves all services but its own as they are. -/
theorem checkpoint_perform_of_ne {s : Step} (hs : s.service? ≠ some service) :
    (h.perform s).2.checkpoint service = h.checkpoint service := by
  have hrestore {other : ServiceName} (hother : s.service? = some other) (state : Option String) :
      (h.restore other state).checkpoint service = h.checkpoint service := by
    rw [checkpoint_restore, if_neg]
    rintro rfl
    exact hs hother
  cases s with
  | restore other state => exact hrestore rfl state
  | execute o =>
    rcases h.execute_cases o with ⟨done, hsame⟩ | ⟨other, -, hother, -, -, hwrite⟩
    · rw [perform, hsame]
    · rw [perform, hwrite]
      exact hrestore hother _

/-- Hosts that have the same text for a service, or do not host it, answer a step about it alike. -/
theorem perform_congr {s : Step} (hs : s.service? = some service)
    (hsame : h.checkpoint service = h'.checkpoint service) :
    (h.perform s).1 = (h'.perform s).1 ∧
      (h.perform s).2.checkpoint service = (h'.perform s).2.checkpoint service := by
  cases s with
  | restore other state =>
    cases hs
    refine ⟨rfl, ?_⟩
    rw [perform, perform, checkpoint_restore, checkpoint_restore, if_pos rfl, if_pos rfl]
  | execute o => exact execute_congr hs hsame

/-- Of two hosts that have the same text for a service, one may perform a whole run and the other
only the steps of it that are about the service. -/
theorem run_congr (hsame : h.checkpoint service = h'.checkpoint service) (steps : List Step) :
    (h.log steps).filter (fun e => e.1.isAbout service) =
        h'.log (steps.filter (·.isAbout service)) ∧
      (h.run steps).checkpoint service =
        (h'.run (steps.filter (·.isAbout service))).checkpoint service := by
  induction steps generalizing h h' with
  | nil => exact ⟨rfl, hsame⟩
  | cons s rest ih =>
    by_cases habout : s.service? = some service
    · have hkeep : s.isAbout service = true := beq_iff_eq.mpr habout
      obtain ⟨hanswer, hnext⟩ := perform_congr habout hsame
      obtain ⟨hlog, hrun⟩ := ih hnext
      rw [List.filter_cons_of_pos hkeep]
      refine ⟨?_, hrun⟩
      rw [log, log, List.filter_cons_of_pos (by exact hkeep), hanswer, hlog]
    · have hdrop : ¬ s.isAbout service = true := fun hkeep => habout (beq_iff_eq.mp hkeep)
      obtain ⟨hlog, hrun⟩ := ih ((checkpoint_perform_of_ne habout).trans hsame)
      rw [List.filter_cons_of_neg hdrop]
      refine ⟨?_, hrun⟩
      rw [log, List.filter_cons_of_neg (by exact hdrop), hlog]

/-- A restored checkpoint carries a service over to another host. From then on, runs on the two
hosts that agree in the steps about the service answer these steps alike and end with the same text
for it, whatever else they do. In any run only restores change which services a host has, and of all
operations only a write that is no stop and is for a hosted service changes anything, namely the text
of this service. -/
theorem checkpoint_transfers_service (a b : Host) (service : ServiceName) :
    let c := b.restore service (a.checkpoint service)
    (∀ steps steps' : List Step,
      steps.filter (·.isAbout service) = steps'.filter (·.isAbout service) →
        (a.log steps).filter (fun e => e.1.isAbout service) =
            (c.log steps').filter (fun e => e.1.isAbout service) ∧
          (a.run steps).checkpoint service = (c.run steps').checkpoint service) ∧
      (∀ (h : Host) (steps : List Step),
        (h.run steps).services = (h.run (steps.filter Step.isRestore)).services) ∧
      ∀ (h : Host) (o : Operation), (h.execute o).2.services = h.services ∧
        ((h.execute o).2 ≠ h → o.kind = .standard ∧ o.isStop = false ∧
          ∃ hosted ∈ h.services, o.service = some hosted ∧
            (h.execute o).2 = h.restore hosted (some o.value)) := by
  intro c
  have hcarried : a.checkpoint service = c.checkpoint service := by
    rw [checkpoint_restore, if_pos rfl]
  refine ⟨fun steps steps' hown => ?_, fun h steps => services_run rfl steps,
    fun h o => ⟨services_execute h o, fun hchanged => ?_⟩⟩
  · obtain ⟨hlog, hrun⟩ := run_congr hcarried steps
    obtain ⟨hlog', hrun'⟩ := run_congr (rfl : c.checkpoint service = c.checkpoint service) steps'
    rw [hlog, hrun, hlog', hrun', hown]
    exact ⟨rfl, rfl⟩
  · rcases h.execute_cases o with ⟨done, hsame⟩ | ⟨hosted, hmem, ho, hkind, hstop, hwrite⟩
    · exact absurd (congrArg Prod.snd hsame) hchanged
    · exact ⟨hkind, hstop, hosted, hmem, ho, congrArg Prod.snd hwrite⟩

def stepsOfService : List Step :=
  [.execute (.write "svc" 1 "new"), .execute (.stop (.write "svc" 2 "late")),
    .execute ((Operation.write "svc" 3 "odd").withKind .other)]

/-- The first host removes another service and does nothing on request, the second one creates a
service and writes to one that it does not have. -/
theorem checkpoint_transfers_service_mingled :
    let a := (empty.restore "svc" (some "old")).restore "side" (some "x")
    let c := empty.restore "svc" (a.checkpoint "svc")
    let steps := Step.restore "side" none :: .execute .noop :: stepsOfService
    let steps' := stepsOfService ++
      [Step.restore "more" (some ""), .execute (.write "side" 4 "y")]
    steps.filter (·.isAbout "svc") = steps'.filter (·.isAbout "svc") ∧
      ((c.log steps').filter fun e => e.1.isAbout "svc").map Prod.snd = [true, true, false] ∧
      (a.log steps).filter (fun e => e.1.isAbout "svc") =
        (c.log steps').filter (fun e => e.1.isAbout "svc") ∧
      (c.run steps').checkpoint "svc" = some "new" ∧
      (a.run steps).checkpoint "svc" = (c.run steps').checkpoint "svc" := by
  intro a c steps steps'
  have hown : steps.filter (·.isAbout "svc") = steps'.filter (·.isAbout "svc") := by decide
  obtain ⟨hlog, hrun⟩ := (checkpoint_transfers_service a empty "svc").1 steps steps' hown
  exact ⟨hown, by decide, hlog, by decide, hrun⟩

end ServicePlacement.Host
