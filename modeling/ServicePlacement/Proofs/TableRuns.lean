import ServicePlacement.Proofs.Eviction
import ServicePlacement.Proofs.RegistryKinds

/-!
Runs of a table of demand profiles. A step is one operation together with all that its caller and
the clock give it, and a run is a list of steps. A step that does not trim changes nothing or makes
one profile an entry, in one of five ways (`Makes`, `next_cases`). So a property that the profiles
have which come into the table, and that the operations on single profiles keep, holds of all
entries after any run (`run_entries`); above all, every entry is under the name of its own profile
(`run_keyed`).
-/
namespace ServicePlacement.Demand

theorem RateStats.total_record (p : RateParams) (s : RateStats) (sender : IpAddress)
    (now : UInt64) : (s.record p sender now).2.total = satAdd s.total 1 := by
  unfold record
  simp only
  split <;> rfl

namespace Profile

@[simp] theorem name_record (p : Profile) (sender : IpAddress) (now : UInt64) :
    (p.record sender now).2.name = p.name := by cases p <;> rfl

@[simp] theorem kind_record (p : Profile) (sender : IpAddress) (now : UInt64) :
    (p.record sender now).2.kind = p.kind := by cases p <;> rfl

@[simp] theorem name_moved (p : Profile) (now : UInt64) : (p.moved now).name = p.name := by
  cases p <;> rfl

@[simp] theorem kind_moved (p : Profile) (now : UInt64) : (p.moved now).kind = p.kind := by
  cases p <;> rfl

@[simp] theorem total_moved (p : Profile) (now : UInt64) : (p.moved now).total = p.total := by
  cases p <;> rfl

/-- A recorded request counts once in a profile that counts. -/
theorem total_record {p : Profile} (h : p.kind = rateKind) (sender : IpAddress) (now : UInt64) :
    (p.record sender now).2.total = satAdd p.total 1 := by
  cases p with
  | null name => exact absurd h.symm rateKind_ne_nullKind
  | rate name params s => exact s.total_record params sender now

end Profile

namespace Registry

@[simp] theorem total_create (r : Registry) (name : ServiceName) : (r.create name).total = 0 := by
  unfold create Strategy.create
  cases r.strategyFor name <;> rfl

end Registry

/-- An operation of a table. Trimming is given the names that go first, which covers every choice
of victims, and moving the two clock readings that it takes. -/
inductive Step where
  | record (name : Option ServiceName) (sender : IpAddress) (now : UInt64)
  | propose (name : ServiceName) (current : Placement) (now : UInt64)
  | move (name : ServiceName) (current : Placement) (c : Cluster) (now marked : UInt64)
  | accept (update : Profile)
  | acceptExport (e : Export)
  | trim (favoured : List ServiceName)
  | withdraw (name : ServiceName)
  | install (p : Profile)
  | contains (name : ServiceName)

def Step.isTrim : Step → Bool
  | .trim _ => true
  | _ => false

inductive Answer where
  | report (due : Bool)
  | proposal (placement : Option Placement)
  | placed (placement : Placement)
  | accepted (copy : Except DemandError Profile)
  | evicted (ps : List Profile)
  | withdrawn (copy : Except DemandError (Option Profile))
  | installed (done : Bool)
  | tracked (known : Bool)

namespace Table

def perform (t : Table) : Step → Answer × Table
  | .record name sender now => (t.record name sender now).map .report id
  | .propose name current now => (.proposal (t.propose name current now), t)
  | .move name current c now marked => (t.move name current c now marked).map .placed id
  | .accept update => (t.accept update).map .accepted id
  | .acceptExport e => (t.acceptExport e).map .accepted id
  | .trim favoured => (t.trim favoured).map .evicted id
  | .withdraw name => (t.withdraw name).map .withdrawn id
  | .install p => (t.install p).map .installed id
  | .contains name => (.tracked (t.contains name), t)

def next (t : Table) (s : Step) : Table := (t.perform s).2

def run (t : Table) (steps : List Step) : Table := steps.foldl next t

theorem run_cons (t : Table) (s : Step) (steps : List Step) :
    t.run (s :: steps) = (t.next s).run steps := rfl

theorem get?_put (t : Table) (name k : ServiceName) (p : Profile) :
    (t.put name p).profiles.get? k = if k = name then some p else t.profiles.get? k :=
  SortedMap.get?_insert t.profiles name k p

def admitted (t : Table) (update : Profile) : List Profile :=
  match t.registry.lookup update.kind, t.merged update with
  | .ok _, .ok _ => [update]
  | _, _ => []

def takenIn (t : Table) : Step → List Profile
  | .accept update => t.admitted update
  | .acceptExport e =>
    match t.registry.restore e with
    | .ok update => t.admitted update
    | .error _ => []
  | .install p => if t.contains p.name then [] else [p]
  | _ => []

def takenInBy (t : Table) : List Step → List Profile
  | [] => []
  | s :: rest => t.takenIn s ++ (t.next s).takenInBy rest

/-- A profile from elsewhere is either refused, with the table as it was, or becomes the entry of
its name or a part of it. -/
theorem accept_cases (t : Table) (update : Profile) :
    (∃ e, t.accept update = (.error e, t) ∧ t.admitted update = []) ∨
      ∃ strategy p, t.registry.lookup update.kind = .ok strategy ∧ t.merged update = .ok p ∧
        t.accept update = (strategy.restore p.toExport, t.put update.name p) ∧
        t.admitted update = [update] := by
  unfold accept admitted
  cases t.registry.lookup update.kind with
  | error e => exact .inl ⟨e, rfl, rfl⟩
  | ok strategy =>
    cases t.merged update with
    | error e => exact .inl ⟨e, rfl, rfl⟩
    | ok p => exact .inr ⟨strategy, p, rfl, rfl, rfl, rfl⟩

/-- An export from elsewhere is refused, or taken for the profile that it describes. -/
theorem acceptExport_cases (t : Table) (e : Export) :
    (∃ err, t.acceptExport e = (.error err, t) ∧ t.takenIn (.acceptExport e) = []) ∨
      ∃ update, t.registry.restore e = .ok update ∧ t.acceptExport e = t.accept update ∧
        t.takenIn (.acceptExport e) = t.admitted update := by
  simp only [acceptExport, takenIn]
  cases t.registry.restore e with
  | error err => exact .inl ⟨err, rfl, rfl⟩
  | ok update => exact .inr ⟨update, rfl, rfl, rfl⟩

theorem install_cases (t : Table) (p : Profile) :
    (t.install p = (false, t) ∧ t.takenIn (.install p) = []) ∨
      t.profiles.get? p.name = none ∧ t.install p = (true, t.put p.name p) ∧
        t.takenIn (.install p) = [p] := by
  by_cases hknown : t.contains p.name = true
  · exact .inl ⟨if_pos hknown, if_pos hknown⟩
  · exact .inr ⟨Option.not_isSome_iff_eq_none.mp hknown, if_neg hknown, if_neg hknown⟩

theorem merged_cases {t : Table} {update p : Profile} (h : t.merged update = .ok p) :
    (t.profiles.get? update.name = none ∧ p = update) ∨
      ∃ existing, t.profiles.get? update.name = some existing ∧
        existing.merge update.toExport = .ok p := by
  unfold merged at h
  cases hget : t.profiles.get? update.name with
  | none =>
    rw [hget] at h
    cases h
    exact .inl ⟨rfl, rfl⟩
  | some existing =>
    rw [hget] at h
    exact .inr ⟨existing, rfl, h⟩

/-- A withdrawal changes nothing, for an unknown name or a profile that cannot be rebuilt, or it
answers a copy of the entry and begins anew. -/
theorem withdraw_cases (t : Table) (name : ServiceName) :
    (t.profiles.get? name = none ∧ t.withdraw name = (.ok none, t)) ∨
      ∃ p, t.profiles.get? name = some p ∧
        ((∃ e, t.registry.restore p.toExport = .error e ∧ t.withdraw name = (.error e, t)) ∨
          ∃ copy, t.registry.restore p.toExport = .ok copy ∧
            t.withdraw name = (.ok (some copy), t.put name (t.registry.create name))) := by
  unfold withdraw
  cases hget : t.profiles.get? name with
  | none => exact .inl ⟨rfl, rfl⟩
  | some p =>
    refine .inr ⟨p, rfl, ?_⟩
    cases hrestore : t.registry.restore p.toExport with
    | error e => exact .inl ⟨e, rfl, by simp only [hrestore]⟩
    | ok copy => exact .inr ⟨copy, rfl, by simp only [hrestore]⟩

/-- A move changes nothing or notes in the entry of the name that it moved. -/
theorem move_cases (t : Table) (name : ServiceName) (current : Placement) (c : Cluster)
    (now marked : UInt64) :
    t.move name current c now marked = (current, t) ∨
      ∃ p proposed, t.profiles.get? name = some p ∧ p.propose current c now = some proposed ∧
        t.move name current c now marked = (proposed, t.put name (p.moved marked)) := by
  unfold move
  cases hget : t.profiles.get? name with
  | none => exact .inl rfl
  | some p =>
    cases hpropose : p.propose current c now with
    | none => exact .inl (by simp only [hpropose])
    | some proposed => exact .inr ⟨p, proposed, rfl, hpropose, by simp only [hpropose]⟩

inductive Makes (t : Table) : Step → ServiceName → Profile → Prop where
  | recorded (name : ServiceName) (sender : IpAddress) (now : UInt64) :
    Makes t (.record (some name) sender now) name
      (((t.profiles.get? name).getD (t.registry.create name)).record sender now).2
  | moved {name : ServiceName} {p : Profile} (current : Placement) (c : Cluster)
    (now marked : UInt64) : t.profiles.get? name = some p →
    Makes t (.move name current c now marked) name (p.moved marked)
  | merged {s : Step} {update p : Profile} {strategy : Strategy} :
    (s = .accept update ∨ ∃ e, s = .acceptExport e ∧ t.registry.restore e = .ok update) →
    t.registry.lookup update.kind = .ok strategy → t.merged update = .ok p →
    t.takenIn s = [update] → Makes t s update.name p
  | begun {name : ServiceName} {p copy : Profile} : t.profiles.get? name = some p →
    t.registry.restore p.toExport = .ok copy →
    Makes t (.withdraw name) name (t.registry.create name)
  | installed {p : Profile} : t.profiles.get? p.name = none → t.takenIn (.install p) = [p] →
    Makes t (.install p) p.name p

/-- A step that does not trim changes nothing, or it makes one profile an entry. -/
theorem next_cases (t : Table) {s : Step} (htrim : s.isTrim = false) :
    t.next s = t ∨ ∃ name p, t.Makes s name p ∧ t.next s = t.put name p := by
  cases s with
  | record name sender now =>
    cases name with
    | none => exact .inl rfl
    | some name => exact .inr ⟨name, _, .recorded name sender now, rfl⟩
  | propose name current now => exact .inl rfl
  | move name current c now marked =>
    rcases t.move_cases name current c now marked with h | ⟨p, _, hget, -, h⟩
    · exact .inl (congrArg Prod.snd h)
    · exact .inr ⟨name, p.moved marked, .moved current c now marked hget, congrArg Prod.snd h⟩
  | accept update =>
    rcases t.accept_cases update with ⟨_, h, -⟩ | ⟨_, p, hlookup, hmerged, h, htakes⟩
    · exact .inl (congrArg Prod.snd h)
    · exact .inr ⟨_, p, .merged (.inl rfl) hlookup hmerged htakes, congrArg Prod.snd h⟩
  | acceptExport e =>
    rcases t.acceptExport_cases e with ⟨_, h, -⟩ | ⟨update, hrestore, h, htakes⟩
    · exact .inl (congrArg Prod.snd h)
    · have hnext : t.next (.acceptExport e) = (t.accept update).2 := congrArg Prod.snd h
      rw [hnext]
      rcases t.accept_cases update with ⟨_, h, -⟩ | ⟨_, p, hlookup, hmerged, h, hadmitted⟩
      · exact .inl (congrArg Prod.snd h)
      · have hmakes : t.Makes (.acceptExport e) update.name p :=
          .merged (.inr ⟨e, rfl, hrestore⟩) hlookup hmerged (htakes.trans hadmitted)
        exact .inr ⟨_, p, hmakes, congrArg Prod.snd h⟩
  | trim favoured => cases htrim
  | withdraw name =>
    rcases t.withdraw_cases name with ⟨-, h⟩ | ⟨p, hget, ⟨_, -, h⟩ | ⟨copy, hcopy, h⟩⟩
    · exact .inl (congrArg Prod.snd h)
    · exact .inl (congrArg Prod.snd h)
    · exact .inr ⟨name, _, .begun hget hcopy, congrArg Prod.snd h⟩
  | install p =>
    rcases t.install_cases p with ⟨h, -⟩ | ⟨hget, h, htakes⟩
    · exact .inl (congrArg Prod.snd h)
    · exact .inr ⟨_, p, .installed hget htakes, congrArg Prod.snd h⟩
  | contains name => exact .inl rfl

def Entries (t : Table) (P : ServiceName → Profile → Prop) : Prop :=
  ∀ name p, t.profiles.get? name = some p → P name p

/-- A property of entries that profiles have when they are created, and that recording, moving and
merging keep. -/
structure EntryInvariant (registry : Registry) (P : ServiceName → Profile → Prop) : Prop where
  create : ∀ name, P name (registry.create name)
  record : ∀ {name p} sender now, P name p → P name (p.record sender now).2
  moved : ∀ {name p} now, P name p → P name (p.moved now)
  merge : ∀ {name p u q}, P name p → P name u → p.merge u.toExport = .ok q → P name q

theorem Entries.put {t : Table} {P : ServiceName → Profile → Prop} (h : t.Entries P)
    {name : ServiceName} {p : Profile} (hp : P name p) : (t.put name p).Entries P := by
  intro k q hq
  rw [get?_put] at hq
  by_cases hk : k = name
  · rw [if_pos hk] at hq
    cases hq
    rw [hk]
    exact hp
  · rw [if_neg hk] at hq
    exact h k q hq

theorem Entries.trim {t : Table} {P : ServiceName → Profile → Prop} (h : t.Entries P)
    (favoured : List ServiceName) : (t.next (.trim favoured)).Entries P := by
  intro name p hget
  rw [show (t.next (.trim favoured)).profiles.get? name = _ from t.get?_trim favoured name] at hget
  split at hget
  · cases hget
  · exact h name p hget

theorem Entries.makes {t : Table} {P : ServiceName → Profile → Prop}
    (hP : EntryInvariant t.registry P) (h : t.Entries P) {s : Step} {name : ServiceName}
    {p : Profile} (hmakes : t.Makes s name p) (htaken : ∀ u ∈ t.takenIn s, P u.name u) :
    P name p := by
  cases hmakes with
  | recorded name sender now =>
    refine hP.record sender now ?_
    cases hget : t.profiles.get? name with
    | none => exact hP.create name
    | some p => exact h name p hget
  | moved current c now marked hget => exact hP.moved marked (h _ _ hget)
  | @merged s update p strategy hs hlookup hmerged htakes =>
    have hupdate : P update.name update :=
      htaken update (by rw [htakes]; exact List.mem_cons_self)
    rcases merged_cases hmerged with ⟨-, rfl⟩ | ⟨existing, hget, hmerge⟩
    · exact hupdate
    · exact hP.merge (h _ _ hget) hupdate hmerge
  | begun hget hcopy => exact hP.create name
  | installed hget htakes => exact htaken p (by rw [htakes]; exact List.mem_cons_self)

theorem Entries.next {t : Table} {P : ServiceName → Profile → Prop}
    (hP : EntryInvariant t.registry P) (h : t.Entries P) {s : Step}
    (htaken : ∀ u ∈ t.takenIn s, P u.name u) : (t.next s).Entries P := by
  by_cases htrim : s.isTrim = true
  · cases s with
    | trim favoured => exact h.trim favoured
    | _ => cases htrim
  · rcases t.next_cases (eq_false_of_ne_true htrim) with hnext | ⟨name, p, hmakes, hnext⟩
    · rw [hnext]
      exact h
    · rw [hnext]
      exact h.put (h.makes hP hmakes htaken)

/-- A step changes nothing but the profiles. -/
theorem next_setup (t : Table) (s : Step) :
    (t.next s).registry = t.registry ∧ (t.next s).cluster = t.cluster ∧
      (t.next s).limits = t.limits := by
  by_cases htrim : s.isTrim = true
  · cases s with
    | trim favoured => exact ⟨rfl, rfl, rfl⟩
    | _ => cases htrim
  · rcases t.next_cases (eq_false_of_ne_true htrim) with hnext | ⟨name, p, -, hnext⟩ <;>
      rw [hnext] <;> exact ⟨rfl, rfl, rfl⟩

theorem registry_run (t : Table) (steps : List Step) : (t.run steps).registry = t.registry := by
  induction steps generalizing t with
  | nil => rfl
  | cons s rest ih => rw [run_cons, ih, (t.next_setup s).1]

theorem run_entries {P : ServiceName → Profile → Prop} {t : Table} {steps : List Step}
    (hP : EntryInvariant t.registry P) (h : t.Entries P)
    (htaken : ∀ u ∈ t.takenInBy steps, P u.name u) : (t.run steps).Entries P := by
  induction steps generalizing t with
  | nil => exact h
  | cons s rest ih =>
    have hs : ∀ u ∈ t.takenIn s, P u.name u := by
      intro u hu
      exact htaken u (List.mem_append_left _ hu)
    refine ih ?_ (h.next hP hs) ?_
    · rw [(t.next_setup s).1]
      exact hP
    · intro u hu
      exact htaken u (List.mem_append_right _ hu)

theorem entries_new (registry : Registry) (cluster : Cluster) (limits : Limits)
    (P : ServiceName → Profile → Prop) : (new registry cluster limits).Entries P := by
  intro name p hget
  cases hget

theorem keyed_invariant (registry : Registry) :
    EntryInvariant registry fun name p => p.name = name where
  create name := registry.name_create name
  record sender now h := (Profile.name_record _ sender now).trans h
  moved now h := (Profile.name_moved _ now).trans h
  merge h _ hmerge := (Profile.name_of_merge hmerge).2.trans h

/-- After any run every entry is under the name of its own profile. -/
theorem run_keyed (registry : Registry) (cluster : Cluster) (limits : Limits)
    (steps : List Step) :
    ((new registry cluster limits).run steps).Entries fun name p => p.name = name :=
  run_entries (keyed_invariant registry) (entries_new registry cluster limits _) fun _ _ => rfl

end Table

end ServicePlacement.Demand
