import ServicePlacement.Demand.Registry
import ServicePlacement.Proofs.JsonRecords

/-!
A profile that is rebuilt from an export is the one that was exported. All fields of the statistics
are written and read back as they are; only an average gap that is not finite or is negative is
refused. So a copy stands for as many requests as its profile, and a merge with an export adds the
requests that were exported.
-/
namespace ServicePlacement.Demand

open Json (Tree Record Dialect)

namespace RateStats

/-- Statistics are read back from their own tree, unless the gap is not finite. -/
theorem ofTree?_toJson (s : RateStats) :
    ofTree? s.toJson.tree = if s.gap.isFinite then some s else none := by
  have hsenders : Tree.map? Tree.word?
      (Json.object (s.senders.entries.map fun e => (e.1, Json.word e.2))).tree =
        some s.senders := Json.map?_tree_object Json.word?_tree_word s.senders
  unfold ofTree? toJson
  rw [Json.record?_tree_object Dialect.json _ _ (by simp)]
  by_cases hgap : s.gap.isFinite = true
  · cases hmove : s.lastMove <;>
      simp [Record.required, Record.nullable, Json.real?_tree_ofFloat, hsenders, hgap, ← hmove]
  · simp [Record.required, Json.real?_tree_ofFloat, hgap]

/-- Exported statistics come back as they were or not at all. -/
theorem ofExport_toJson (name : ServiceName) (kind : String) (s : RateStats) :
    ofExport ⟨name, kind, s.toJson⟩ =
      if s.gap.isFinite then
        if s.gap < 0 then .error (.badGap name s.gap) else .ok s
      else .error (.malformed name) := by
  unfold ofExport
  rw [ofTree?_toJson]
  by_cases hgap : s.gap.isFinite = true
  · by_cases hneg : s.gap < 0
    · simp [hgap, hneg]
    · simp [hgap, hneg]
  · simp [hgap]

theorem eq_of_ofExport_toJson {name : ServiceName} {kind : String} {s t : RateStats}
    (h : ofExport ⟨name, kind, s.toJson⟩ = .ok t) : t = s := by
  rw [ofExport_toJson] at h
  split at h
  · split at h
    · cases h
    · cases h
      rfl
  · cases h

def decode? (name : ServiceName) (e : Export) : Option RateStats :=
  (do
    e.check name rateKind
    ofExport e).toOption

end RateStats

/-- A computation that succeeds has succeeded in each of its parts. -/
theorem exists_of_bind_eq_ok {ε α β : Type} {x : Except ε α} {f : α → Except ε β} {b : β}
    (h : x >>= f = .ok b) : ∃ a, x = .ok a ∧ f a = .ok b := by
  cases x with
  | error e => cases h
  | ok a => exact ⟨a, rfl, h⟩

theorem rateKind_ne_nullKind : rateKind ≠ nullKind := by decide

theorem Export.check_eq_ok {e : Export} {name : ServiceName} {kind : String} {u : Unit}
    (h : e.check name kind = .ok u) : e.name = name ∧ e.kind = kind := by
  unfold Export.check at h
  by_cases hname : e.name = name
  · by_cases hkind : e.kind = kind
    · exact ⟨hname, hkind⟩
    · simp [hname, hkind] at h
  · simp [hname] at h

namespace Profile

/-- A profile that counts requests adds what it reads from an export to its own. -/
theorem merge_rate (name : ServiceName) (params : RateParams) (s : RateStats) (e : Export) :
    ((rate name params s).merge e).toOption =
      (RateStats.decode? name e).map fun t => rate name params (s.merge params t) := by
  show (e.check name rateKind >>= fun _ => RateStats.ofExport e >>= fun t =>
    pure (rate name params (s.merge params t)) : Except DemandError Profile).toOption = _
  unfold RateStats.decode?
  cases e.check name rateKind with
  | error err => rfl
  | ok u => cases RateStats.ofExport e <;> rfl

/-- A merge with the export of another profile succeeds only for the same name and the same kind,
and then adds up what was counted. -/
theorem merge_toExport_cases {p u q : Profile} (h : p.merge u.toExport = .ok q) :
    (∃ name, p = null name ∧ u = null name ∧ q = null name) ∨
      ∃ name params params' s t, p = rate name params s ∧ u = rate name params' t ∧
        q = rate name params (s.merge params t) := by
  obtain ⟨_, hcheck, hrest⟩ := exists_of_bind_eq_ok h
  obtain ⟨hname, hkind⟩ := Export.check_eq_ok hcheck
  cases p with
  | null name =>
    cases u with
    | null name' =>
      cases hname
      cases hrest
      exact .inl ⟨_, rfl, rfl, rfl⟩
    | rate name' params' t => exact absurd hkind rateKind_ne_nullKind
  | rate name params s =>
    cases u with
    | null name' => exact absurd hkind.symm rateKind_ne_nullKind
    | rate name' params' t =>
      obtain ⟨t', ht', hresult⟩ := exists_of_bind_eq_ok hrest
      cases RateStats.eq_of_ofExport_toJson ht'
      cases hname
      cases hresult
      exact .inr ⟨_, _, _, _, _, rfl, rfl, rfl⟩

theorem name_of_merge {p u q : Profile} (h : p.merge u.toExport = .ok q) :
    u.name = p.name ∧ q.name = p.name := by
  rcases merge_toExport_cases h with ⟨_, rfl, rfl, rfl⟩ | ⟨_, _, _, _, _, rfl, rfl, rfl⟩ <;>
    exact ⟨rfl, rfl⟩

theorem kind_of_merge {p u q : Profile} (h : p.merge u.toExport = .ok q) :
    u.kind = p.kind ∧ q.kind = p.kind := by
  rcases merge_toExport_cases h with ⟨_, rfl, rfl, rfl⟩ | ⟨_, _, _, _, _, rfl, rfl, rfl⟩ <;>
    exact ⟨rfl, rfl⟩

theorem total_of_merge {p u q : Profile} (h : p.merge u.toExport = .ok q) :
    q.total = satAdd p.total u.total := by
  rcases merge_toExport_cases h with ⟨_, rfl, rfl, rfl⟩ | ⟨_, _, _, _, _, rfl, rfl, rfl⟩ <;> rfl

end Profile

namespace Strategy

/-- A strategy rebuilds only profiles of its own kind, with its own parameters and the statistics
that were exported. -/
theorem restore_toExport_cases {s : Strategy} {p q : Profile} (h : s.restore p.toExport = .ok q) :
    (∃ name, s = null ∧ p = .null name ∧ q = .null name) ∨
      ∃ name params params' t, s = rate params ∧ p = .rate name params' t ∧
        q = .rate name params t := by
  obtain ⟨_, hcheck, hrest⟩ := exists_of_bind_eq_ok h
  obtain ⟨-, hkind⟩ := Export.check_eq_ok hcheck
  cases s with
  | null =>
    cases p with
    | null name =>
      cases hrest
      exact .inl ⟨_, rfl, rfl, rfl⟩
    | rate name params' t => exact absurd hkind rateKind_ne_nullKind
  | rate params =>
    cases p with
    | null name => exact absurd hkind.symm rateKind_ne_nullKind
    | rate name params' t =>
      obtain ⟨t', ht', hresult⟩ := exists_of_bind_eq_ok hrest
      cases RateStats.eq_of_ofExport_toJson ht'
      cases hresult
      exact .inr ⟨_, _, _, _, rfl, rfl, rfl⟩

/-- A profile that is rebuilt from an export has the same export. -/
theorem toExport_of_restore {s : Strategy} {p q : Profile} (h : s.restore p.toExport = .ok q) :
    q.toExport = p.toExport := by
  rcases restore_toExport_cases h with ⟨_, -, rfl, rfl⟩ | ⟨_, _, _, _, -, rfl, rfl⟩ <;> rfl

end Strategy

namespace Registry

theorem restore_eq_ok {r : Registry} {e : Export} {q : Profile} (h : r.restore e = .ok q) :
    ∃ s, r.lookup e.kind = .ok s ∧ s.restore e = .ok q := exists_of_bind_eq_ok h

/-- A copy has the name and the kind of its profile and stands for as many requests. -/
theorem restore_toExport_same {r : Registry} {p q : Profile} (h : r.restore p.toExport = .ok q) :
    q.name = p.name ∧ q.kind = p.kind ∧ q.total = p.total := by
  obtain ⟨s, -, hs⟩ := restore_eq_ok h
  rcases Strategy.restore_toExport_cases hs with ⟨_, -, rfl, rfl⟩ | ⟨_, _, _, _, -, rfl, rfl⟩ <;>
    exact ⟨rfl, rfl, rfl⟩

end Registry

end ServicePlacement.Demand
