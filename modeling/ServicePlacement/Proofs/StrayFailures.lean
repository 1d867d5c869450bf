import ServicePlacement.Proofs.BatchHead

/-!
Failures of names that are not asked for. A request lists its failures on their own, and tells the
outcome of a name only if it asks for that name, so the two agree but for stray failures. A part of
a batch reports no failure that is not its own, and a fresh request reports none at all. A stray
failure therefore comes in with an answer that is given it, stays behind when a batch is dropped for
its head, or is read with a packet; whatever is set later keeps it.
-/
namespace ServicePlacement.CreateRequest

variable {r d : CreateRequest} {name : ServiceName} {read : CreateRequest → Prop}

/-- A name has failed, as a request tells, if it is asked for and listed as a failure. -/
theorem outcome_eq_unconfirmed_iff :
    r.outcome name = .unconfirmed ↔ name ∈ r.names ∧ name ∈ r.failed := by
  have hasked : (if r.isBatch then r.states.contains name else r.name == name) = true ↔
      name ∈ r.names := by
    unfold names
    split
    · exact SortedMap.contains_keys
    · rw [beq_iff_eq, SortedSet.mem_def]
      exact eq_comm.trans List.mem_singleton.symm
  unfold outcome
  simp only
  rw [← hasked, ← SortedSet.contains_iff]
  cases (if r.isBatch then r.states.contains name else r.name == name)
  · simp
  · cases r.failed.contains name <;> simp

def ReportsStray (r : CreateRequest) (name : ServiceName) : Prop :=
  name ∈ r.failed ∧ name ∉ r.names

/-- The list of failures and the outcomes differ in the stray failures. -/
theorem views_differ_iff :
    ¬ (name ∈ r.unconfirmed ↔ r.outcome name = .unconfirmed) ↔ r.ReportsStray name := by
  have hlisted : name ∈ r.unconfirmed ↔ name ∈ r.failed := Iff.rfl
  unfold ReportsStray
  rw [outcome_eq_unconfirmed_iff, hlisted]
  tauto

theorem Keeps.reportsStray_iff (h : r.Keeps d) : r.ReportsStray name ↔ d.ReportsStray name := by
  unfold ReportsStray names isBatch
  rw [h.failed_eq, h.states_eq, h.name_eq]

/-! ### Where there is no stray failure -/

theorem not_reportsStray_of_failed (h : r.failed = .empty) : ¬ r.ReportsStray name := by
  rintro ⟨hfailed, -⟩
  rw [h] at hfailed
  cases hfailed

theorem not_reportsStray_of_batch {states : NameStates} {policy : Policy}
    (h : batch states policy = .ok r) : ¬ r.ReportsStray name := by
  unfold batch at h
  split at h
  · cases h
  · rw [← Except.ok.inj h]
    exact not_reportsStray_of_failed rfl

/-- A part is given only those failures of a batch that are among its names. -/
theorem IsPartOf.not_reportsStray {ring : HashRing} {node : NodeId} (h : IsPartOf d ring node r) :
    ¬ r.ReportsStray name := by
  rintro ⟨hfailed, hnot⟩
  rw [h.failed_eq, SortedSet.mem_filter, SortedMap.contains_keys] at hfailed
  apply hnot
  unfold names
  rw [if_pos h.isBatch]
  exact hfailed.2

/-! ### Where a stray failure comes from -/

inductive StrayFrom (read : CreateRequest → Prop) : CreateRequest → ServiceName → Prop where
  | answered {r : CreateRequest} (states : NameStates) {failed : SortedSet ServiceName}
    {name : ServiceName} : Obtained read r → (r.answer states failed).ReportsStray name →
    StrayFrom read (r.answer states failed) name
  | dropped {r : CreateRequest} {name : ServiceName} : Obtained read r → name ∈ r.failed →
    name ≠ r.name → StrayFrom read r.headOnly name
  | decoded {r : CreateRequest} {name : ServiceName} : Decoded r → read r →
    r.ReportsStray name → StrayFrom read r name

theorem reportsStray_headOnly_iff :
    r.headOnly.ReportsStray name ↔ name ∈ r.failed ∧ name ≠ r.name :=
  and_congr_right fun _ => not_congr List.mem_singleton

theorem StrayFrom.reportsStray (h : StrayFrom read d name) : d.ReportsStray name := by
  cases h with
  | answered states _ hstray => exact hstray
  | dropped _ hfailed hne => exact reportsStray_headOnly_iff.mpr ⟨hfailed, hne⟩
  | decoded _ _ hstray => exact hstray

def KeepsStray (read : CreateRequest → Prop) (r : CreateRequest) (name : ServiceName) : Prop :=
  ∃ d, StrayFrom read d name ∧ r.Keeps d

theorem KeepsStray.of_strayFrom (h : StrayFrom read r name) : KeepsStray read r name :=
  ⟨r, h, Keeps.refl r⟩

theorem KeepsStray.reportsStray (h : KeepsStray read r name) : r.ReportsStray name := by
  obtain ⟨d, hd, hkeeps⟩ := h
  exact hkeeps.reportsStray_iff.mpr hd.reportsStray

/-- What is set freely keeps a stray failure. -/
theorem Keeps.keepsStray (h : r.Keeps d) (hr : r.ReportsStray name)
    (hd : d.ReportsStray name → KeepsStray read d name) : KeepsStray read r name := by
  obtain ⟨source, hsource, hkeeps⟩ := hd (h.reportsStray_iff.mp hr)
  exact ⟨source, hsource, h.trans hkeeps⟩

/-- Every stray failure has a source. -/
theorem Obtained.keepsStray (h : Obtained read r) (hstray : r.ReportsStray name) :
    KeepsStray read r name := by
  induction h with
  | single name state policy => exact absurd hstray (not_reportsStray_of_failed rfl)
  | batch hmade => exact absurd hstray (not_reportsStray_of_batch hmade)
  | answer states failed hr _ => exact .of_strayFrom (.answered states hr hstray)
  | @withInitGroup r group _ ih => exact (keeps_withInitGroup r group).keepsStray hstray ih
  | @withPolicy r policy _ ih => exact (keeps_withPolicy r policy).keepsStray hstray ih
  | @withSender r sender _ ih => exact (keeps_withSender r sender).keepsStray hstray ih
  | headOnly hr _ =>
    obtain ⟨hfailed, hne⟩ := reportsStray_headOnly_iff.mp hstray
    exact .of_strayFrom (.dropped hr hfailed hne)
  | split _ hsplit hget ih =>
    rcases cases_of_split hsplit hget with hpart | ⟨-, rfl⟩
    · exact absurd hstray hpart.not_reportsStray
    · exact ih hstray
  | batches hbs hb =>
    obtain ⟨own, hown⟩ := exists_batch_of_mem_batches hbs hb
    exact absurd hstray (not_reportsStray_of_batch hown)
  | batchesByOwner hbs hb =>
    obtain ⟨own, hown⟩ := exists_batch_of_mem_batchesByOwner hbs hb
    exact absurd hstray (not_reportsStray_of_batch hown)
  | decoded hr hread => exact .of_strayFrom (.decoded hr hread hstray)

/-- A name has failed, by its outcome, just if it is asked for and listed as a failure. The list and
the outcomes differ in a name exactly if the failure of the name is stray and has been kept since it
became so: since an answer was given it without asking for the name, since a batch was dropped for
another name, or since it was read. -/
theorem failure_views_differ_iff_stray (read : CreateRequest → Prop) (r : CreateRequest)
    (name : ServiceName) (h : Obtained read r) :
    (r.outcome name = .unconfirmed ↔ name ∈ r.names ∧ name ∈ r.unconfirmed) ∧
      (¬ (name ∈ r.unconfirmed ↔ r.outcome name = .unconfirmed) ↔ KeepsStray read r name) := by
  refine ⟨outcome_eq_unconfirmed_iff, views_differ_iff.trans ⟨h.keepsStray, ?_⟩⟩
  exact KeepsStray.reportsStray

def bothAsked : CreateRequest :=
  { single "a" "1" .standard with states := .ofList [("a", "1"), ("b", "2")] }

def secondFailed : CreateRequest :=
  bothAsked.answer bothAsked.states (.ofList ["b"])

theorem obtained_secondFailed : Obtained (fun _ => False) secondFailed := by
  have hmade : batch bothAsked.states .standard = .ok bothAsked := rfl
  exact .answer _ _ (.batch hmade)

/-- The two views agree on the answer, and no longer when its batch is dropped for the head. -/
theorem failure_views_differ_iff_stray_dropped :
    Obtained (fun _ => False) secondFailed ∧ secondFailed.outcome "b" = .unconfirmed ∧
      ¬ KeepsStray (fun _ => False) secondFailed "b" ∧
      Obtained (fun _ => False) secondFailed.headOnly ∧
      secondFailed.headOnly.outcome "b" = .notInRequest ∧
      KeepsStray (fun _ => False) secondFailed.headOnly "b" := by
  have hdropped : Obtained (fun _ => False) secondFailed.headOnly := .headOnly obtained_secondFailed
  obtain ⟨hfailed, hdiffer⟩ :=
    failure_views_differ_iff_stray (fun _ => False) secondFailed "b" obtained_secondFailed
  obtain ⟨-, hdiffer'⟩ :=
    failure_views_differ_iff_stray (fun _ => False) secondFailed.headOnly "b" hdropped
  have houtcome : secondFailed.outcome "b" = .unconfirmed := hfailed.mpr (by decide)
  have hlost : secondFailed.headOnly.outcome "b" = .notInRequest := by decide
  have hlisted : "b" ∈ secondFailed.headOnly.unconfirmed := by decide
  refine ⟨obtained_secondFailed, houtcome, ?_, hdropped, hlost, hdiffer'.mp ?_⟩
  · intro hkept
    exact hdiffer.mpr hkept ⟨fun _ => houtcome, fun h => (hfailed.mp h).2⟩
  · intro hviews
    have hunconfirmed := hviews.mp hlisted
    rw [hlost] at hunconfirmed
    cases hunconfirmed

/-- Dropping a batch for its head leaves failures behind that have no outcome. -/
theorem dropped_failure_has_no_outcome :
    ¬ ∀ r, Obtained (fun _ => False) r → ∀ name,
      (name ∈ r.unconfirmed ↔ r.outcome name = .unconfirmed) := by
  intro hall
  have hviews := hall secondFailed.headOnly (.headOnly obtained_secondFailed) "b"
  have hlisted : "b" ∈ secondFailed.headOnly.unconfirmed := by decide
  have hlost : secondFailed.headOnly.outcome "b" ≠ .unconfirmed := by decide
  exact hlost (hviews.mp hlisted)

end ServicePlacement.CreateRequest
