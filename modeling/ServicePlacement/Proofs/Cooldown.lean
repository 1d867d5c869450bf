import ServicePlacement.Proofs.PlacementSelection
import ServicePlacement.Proofs.TableRuns

/-!
The cool-down over runs of a table. The marks of a name are the clock readings at which its moves
were noted and those that came with profiles from elsewhere, as long as its entry is neither
withdrawn nor evicted. The entry remembers only one of them, the last one noted or the latest one
merged since.

A move reads the clock twice, when the profile is asked and when the move is noted. The first
reading is past the cool-down, so the second one is later than all marks, unless the clock goes back
in between (`Profile.Remembers.moved`). A mark that is overwritten in that way is forgotten; moves
keep their distance from all others (`Table.standing`), whatever else the clock does.
-/
namespace ServicePlacement.Demand

namespace RateStats

variable {p : RateParams} {s t : RateStats} {now x : UInt64}

theorem lastMove_record (p : RateParams) (s : RateStats) (sender : IpAddress) (now : UInt64) :
    (s.record p sender now).2.lastMove = s.lastMove := by
  unfold record
  simp only
  split <;> rfl

theorem later_comm (a b : Option UInt64) : later a b = later b a := by
  cases a <;> cases b <;> simp only [later]
  rw [Option.some.injEq, ← UInt64.toNat_inj, UInt64.toNat_max, UInt64.toNat_max, Nat.max_comm]

theorem le_later_left {a b : Option UInt64} {x : UInt64} (h : a = some x) :
    ∃ y, later a b = some y ∧ x ≤ y := by
  subst h
  cases b with
  | none => exact ⟨x, rfl, UInt64.le_refl x⟩
  | some z =>
    refine ⟨max x z, rfl, ?_⟩
    rw [UInt64.le_iff_toNat_le, UInt64.toNat_max]
    exact Nat.le_max_left _ _

/-- A profile that may move is as far behind its mark as the cool-down asks for. -/
theorem add_cooldown_le (hpos : 0 < p.cooldown.millis) (hmark : s.lastMove = some x)
    (hquiet : s.inCooldown p now = false) : x.toNat + p.cooldown.millis.toNat ≤ now.toNat := by
  unfold inCooldown at hquiet
  rw [hmark] at hquiet
  have hlong : ¬ satSub now x < p.cooldown.millis := of_decide_eq_false hquiet
  rw [UInt64.lt_iff_toNat_lt, toNat_satSub] at hlong
  rw [UInt64.lt_iff_toNat_lt] at hpos
  have hzero : (0 : UInt64).toNat = 0 := rfl
  -- With a cool-down of zero a clock that went back would pass here.
  omega

end RateStats

namespace Profile

def lastMove? : Profile → Option UInt64
  | null _ => none
  | rate _ _ s => s.lastMove

def cooldown? : Profile → Option UInt64
  | null _ => none
  | rate _ params _ => some params.cooldown.millis

def Remembers (x : UInt64) : Profile → Prop
  | null _ => False
  | rate _ params s => 0 < params.cooldown.millis → ∃ y, s.lastMove = some y ∧ x ≤ y

variable {p u q : Profile} {x now : UInt64}

theorem remembers_lastMove (h : p.lastMove? = some x) : p.Remembers x := by
  cases p with
  | null name => cases h
  | rate name params s => exact fun _ => ⟨x, h, UInt64.le_refl x⟩

theorem Remembers.record (h : p.Remembers x) (sender : IpAddress) (now : UInt64) :
    (p.record sender now).2.Remembers x := by
  cases p with
  | null name => cases h
  | rate name params s =>
    intro hpos
    obtain ⟨y, hy, hle⟩ := h hpos
    exact ⟨y, (RateStats.lastMove_record params s sender now).trans hy, hle⟩

theorem Remembers.merge (h : p.Remembers x) (hmerge : p.merge u.toExport = .ok q) :
    q.Remembers x := by
  rcases merge_toExport_cases hmerge with ⟨_, rfl, rfl, rfl⟩ | ⟨_, params, _, s, t, rfl, rfl, rfl⟩
  · cases h
  · intro hpos
    obtain ⟨y, hy, hle⟩ := h hpos
    obtain ⟨z, hz, hyz⟩ := RateStats.le_later_left (b := t.lastMove) hy
    exact ⟨z, hz, UInt64.le_trans hle hyz⟩

theorem remembers_merged (h : u.lastMove? = some x) (hmerge : p.merge u.toExport = .ok q) :
    q.Remembers x := by
  rcases merge_toExport_cases hmerge with ⟨_, rfl, rfl, rfl⟩ | ⟨_, params, _, s, t, rfl, rfl, rfl⟩
  · cases h
  · intro _
    obtain ⟨z, hz, hxz⟩ := RateStats.le_later_left (b := s.lastMove) h
    exact ⟨z, (RateStats.later_comm s.lastMove t.lastMove).trans hz, hxz⟩

/-- A profile that proposes a move at `now` was marked at least a cool-down before. -/
theorem Remembers.add_cooldown_le {d : UInt64} {current proposed : Placement} {c : Cluster}
    (h : p.Remembers x) (hd : p.cooldown? = some d) (hpos : 0 < d)
    (hpropose : p.propose current c now = some proposed) : x.toNat + d.toNat ≤ now.toNat := by
  cases p with
  | null name => cases hd
  | rate name params s =>
    cases hd
    obtain ⟨y, hy, hle⟩ := h hpos
    obtain ⟨hquiet, -⟩ := RateStats.propose_eq_some_iff.mp hpropose
    have hfar := RateStats.add_cooldown_le hpos hy hquiet
    rw [UInt64.le_iff_toNat_le] at hle
    omega

/-- The second reading of a move leaves a mark standing that it is not before, and every mark that
the profile remembers if it is not before the first reading. -/
theorem Remembers.moved {current proposed : Placement} {c : Cluster} {marked : UInt64}
    (h : p.Remembers x) (hpropose : p.propose current c now = some proposed)
    (hstands : x ≤ marked ∨ now ≤ marked) : (p.moved marked).Remembers x := by
  cases p with
  | null name => cases h
  | rate name params s =>
    intro hpos
    refine ⟨marked, rfl, ?_⟩
    rcases hstands with hstands | hsteady
    · exact hstands
    · have hfar := h.add_cooldown_le rfl hpos hpropose
      rw [UInt64.le_iff_toNat_le] at hsteady ⊢
      omega

theorem remembers_moved {current proposed : Placement} {c : Cluster} (marked : UInt64)
    (hpropose : p.propose current c now = some proposed) : (p.moved marked).Remembers marked := by
  cases p with
  | null name => cases hpropose
  | rate name params s => exact fun _ => ⟨marked, rfl, UInt64.le_refl marked⟩

theorem Remembers.of_le {y : UInt64} (h : p.Remembers y) (hle : x ≤ y) : p.Remembers x := by
  cases p with
  | null name => cases h
  | rate name params s =>
    intro hpos
    obtain ⟨z, hz, hyz⟩ := h hpos
    exact ⟨z, hz, UInt64.le_trans hle hyz⟩

end Profile

namespace Table

def movesIn (t : Table) (name : ServiceName) : Step → List (UInt64 × UInt64)
  | .move k current c now marked =>
    if k = name ∧ (t.move k current c now marked).1 ≠ current then [(now, marked)] else []
  | _ => []

def marksIn (t : Table) (name : ServiceName) (s : Step) : List UInt64 :=
  (t.movesIn name s).map Prod.snd ++
    ((t.takenIn s).filter fun u => u.name = name).filterMap Profile.lastMove?

def endsIn (t : Table) (name : ServiceName) : Step → Bool
  | .withdraw k =>
    match (t.withdraw k).1 with
    | .ok (some _) => k == name
    | _ => false
  | .trim favoured => (t.victims favoured).contains name
  | _ => false

/-- The marks that the entry of a name has received at the end of a run, if it had the given ones at
its beginning. An entry that is given away takes its marks with it. -/
def marks (t : Table) (name : ServiceName) (earlier : List UInt64) : List Step → List UInt64
  | [] => earlier
  | s :: rest =>
    (t.next s).marks name (if t.endsIn name s then [] else t.marksIn name s ++ earlier) rest

def moves (t : Table) (name : ServiceName) : List Step → List (UInt64 × UInt64)
  | [] => []
  | s :: rest => t.movesIn name s ++ (t.next s).moves name rest

/-- A mark stands through a move with the given readings, unless the clock goes back in between, to
before the mark. -/
def StandsThrough (x : UInt64) (m : UInt64 × UInt64) : Prop := x ≤ m.2 ∨ m.1 ≤ m.2

instance (x : UInt64) (m : UInt64 × UInt64) : Decidable (StandsThrough x m) :=
  inferInstanceAs (Decidable (_ ∨ _))

def standing (t : Table) (name : ServiceName) (earlier : List UInt64) : List Step → List UInt64
  | [] => earlier
  | s :: rest =>
    let kept := earlier.filter fun x => (t.movesIn name s).all fun m => StandsThrough x m
    (t.next s).standing name (if t.endsIn name s then [] else t.marksIn name s ++ kept) rest

def keeps (t : Table) (name : ServiceName) : List Step → Bool
  | [] => true
  | s :: rest => !t.endsIn name s && (t.next s).keeps name rest

def cooldown? (t : Table) (name : ServiceName) : Option UInt64 :=
  (t.profiles.get? name).bind Profile.cooldown?

def Remembers (t : Table) (name : ServiceName) (ms : List UInt64) : Prop :=
  ∀ x ∈ ms, ∃ p, t.profiles.get? name = some p ∧ p.Remembers x

variable {t t' : Table} {name k : ServiceName} {ms : List UInt64}

theorem Remembers.of_get?_eq (h : t.Remembers name ms)
    (heq : t'.profiles.get? name = t.profiles.get? name) : t'.Remembers name ms := by
  intro x hx
  rw [heq]
  exact h x hx

theorem Remembers.subset {ms' : List UInt64} (h : t.Remembers name ms)
    (hsub : ∀ x ∈ ms', x ∈ ms) : t.Remembers name ms' := by
  intro x hx
  exact h x (hsub x hx)

theorem remembers_nil : t.Remembers name [] := by
  intro x hx
  cases hx

theorem remembers_put {p : Profile} (h : ∀ x ∈ ms, p.Remembers x) :
    (t.put name p).Remembers name ms := by
  intro x hx
  refine ⟨p, ?_, h x hx⟩
  rw [get?_put, if_pos rfl]

theorem Remembers.put_of_ne {p : Profile} (h : t.Remembers name ms) (hk : name ≠ k) :
    (t.put k p).Remembers name ms := by
  refine h.of_get?_eq ?_
  rw [get?_put, if_neg hk]

/-- A name without an entry has no marks. -/
theorem Remembers.eq_nil (h : t.Remembers name ms) (hget : t.profiles.get? name = none) :
    ms = [] := by
  refine List.eq_nil_iff_forall_not_mem.mpr fun x hx => ?_
  obtain ⟨p, hp, -⟩ := h x hx
  rw [hget] at hp
  cases hp

/-- The marks of a profile that is taken in, for the name that is looked at. -/
theorem mem_filterMap_lastMove {u : Profile} {x : UInt64}
    (h : x ∈ ([u].filter fun u => u.name = name).filterMap Profile.lastMove?) :
    u.name = name ∧ u.lastMove? = some x := by
  obtain ⟨v, hv, hx⟩ := List.mem_filterMap.mp h
  obtain ⟨hmem, hname⟩ := List.mem_filter.mp hv
  rw [List.mem_singleton.mp hmem] at hname hx
  exact ⟨of_decide_eq_true hname, hx⟩

/-- A profile that becomes the first entry of its name remembers its own mark. -/
theorem Remembers.put_new {u : Profile} (h : t.Remembers name ms)
    (hget : t.profiles.get? u.name = none) :
    (t.put u.name u).Remembers name
      (([u].filter fun u => u.name = name).filterMap Profile.lastMove? ++ ms) := by
  by_cases hname : u.name = name
  · subst hname
    rw [h.eq_nil hget, List.append_nil]
    exact remembers_put fun x hx => Profile.remembers_lastMove (mem_filterMap_lastMove hx).2
  · have hnone : ([u].filter fun u => u.name = name) = [] := by simp [hname]
    rw [hnone]
    exact h.put_of_ne (Ne.symm hname)

theorem Remembers.accept (h : t.Remembers name ms) (u : Profile) :
    (t.accept u).2.Remembers name
      (((t.admitted u).filter fun u => u.name = name).filterMap Profile.lastMove? ++ ms) := by
  rcases t.accept_cases u with ⟨_, haccept, hadmitted⟩ | ⟨_, q, -, hmerged, haccept, hadmitted⟩
  · rw [haccept, hadmitted]
    exact h
  · rw [haccept, hadmitted]
    rcases merged_cases hmerged with ⟨hget, rfl⟩ | ⟨existing, hget, hmerge⟩
    · exact h.put_new hget
    · by_cases hname : u.name = name
      · subst hname
        refine remembers_put fun x hx => ?_
        rcases List.mem_append.mp hx with hnew | hold
        · exact Profile.remembers_merged (mem_filterMap_lastMove hnew).2 hmerge
        · obtain ⟨p, hp, hx⟩ := h x hold
          cases hget.symm.trans hp
          exact hx.merge hmerge
      · have hnone : ([u].filter fun u => u.name = name) = [] := by simp [hname]
        rw [hnone]
        exact h.put_of_ne (Ne.symm hname)

theorem Remembers.record (h : t.Remembers name ms) (k : ServiceName) (sender : IpAddress)
    (now : UInt64) : (t.record (some k) sender now).2.Remembers name ms := by
  by_cases hk : name = k
  · subst hk
    refine remembers_put fun x hx => ?_
    obtain ⟨p, hp, hx⟩ := h x hx
    rw [hp]
    exact hx.record sender now
  · exact h.put_of_ne hk

theorem movesIn_move (t : Table) (name k : ServiceName) (current : Placement) (c : Cluster)
    (now marked : UInt64) : t.movesIn name (.move k current c now marked) =
      if k = name ∧ (t.move k current c now marked).1 ≠ current then [(now, marked)] else [] :=
  rfl

/-- A move that is proposed is one, because it goes to another placement. -/
theorem movesIn_of_proposed {p : Profile} {current q : Placement} {c : Cluster}
    {now : UInt64} (marked : UInt64) (hget : t.profiles.get? name = some p)
    (hpropose : p.propose current c now = some q) :
    t.movesIn name (.move name current c now marked) = [(now, marked)] := by
  have hmove : (t.move name current c now marked).1 = q := by
    unfold move
    simp only [hget, hpropose]
  obtain ⟨-, hother⟩ := Profile.propose_eq_some hpropose
  rw [movesIn_move, hmove]
  exact if_pos ⟨rfl, hother⟩

theorem Remembers.move (h : t.Remembers name ms) (k : ServiceName) (current : Placement)
    (c : Cluster) (now marked : UInt64)
    (hstands : ∀ m ∈ t.movesIn name (.move k current c now marked), ∀ x ∈ ms, StandsThrough x m) :
    (t.move k current c now marked).2.Remembers name
      ((t.movesIn name (.move k current c now marked)).map Prod.snd ++ ms) := by
  rcases t.move_cases k current c now marked with hmove | ⟨p, proposed, hget, hpropose, hmove⟩
  · have hstays : t.movesIn name (.move k current c now marked) = [] := by
      simp [movesIn_move, hmove]
    rw [hstays, hmove]
    exact h
  · by_cases hk : k = name
    · subst hk
      have hmoves := movesIn_of_proposed marked hget hpropose
      rw [hmoves] at hstands ⊢
      rw [hmove]
      apply remembers_put
      intro x hx
      rcases List.mem_cons.mp hx with rfl | hold
      · exact Profile.remembers_moved x hpropose
      · obtain ⟨q, hq, hx⟩ := h x hold
        cases hget.symm.trans hq
        exact hx.moved hpropose (hstands _ List.mem_cons_self x hold)
    · have hother : t.movesIn name (.move k current c now marked) = [] := by
        simp [movesIn_move, hk]
      rw [hother, hmove]
      exact h.put_of_ne (Ne.symm hk)

theorem Remembers.withdraw (h : t.Remembers name ms) (k : ServiceName)
    (hkeeps : t.endsIn name (.withdraw k) = false) : (t.withdraw k).2.Remembers name ms := by
  rcases t.withdraw_cases k with ⟨-, hw⟩ | ⟨p, -, ⟨_, -, hw⟩ | ⟨copy, -, hw⟩⟩
  · rw [hw]
    exact h
  · rw [hw]
    exact h
  · have hk : k ≠ name := by simpa [endsIn, hw] using hkeeps
    rw [hw]
    exact h.put_of_ne (Ne.symm hk)

/-- A step that does not give away the entry of a name leaves one that remembers all marks so far,
if they stand through it. -/
theorem Remembers.next (h : t.Remembers name ms) {s : Step} (hkeeps : t.endsIn name s = false)
    (hstands : ∀ m ∈ t.movesIn name s, ∀ x ∈ ms, StandsThrough x m) :
    (t.next s).Remembers name (t.marksIn name s ++ ms) := by
  cases s with
  | record k sender now =>
    cases k with
    | none => exact h
    | some k => exact h.record k sender now
  | propose k current now => exact h
  | move k current c now marked =>
    have hmarks : t.marksIn name (.move k current c now marked) =
        (t.movesIn name (.move k current c now marked)).map Prod.snd := List.append_nil _
    rw [hmarks]
    exact h.move k current c now marked hstands
  | accept u => exact h.accept u
  | acceptExport e =>
    show (t.acceptExport e).2.Remembers name
      (((t.takenIn (.acceptExport e)).filter fun u => u.name = name).filterMap
        Profile.lastMove? ++ ms)
    rcases t.acceptExport_cases e with ⟨_, haccept, htakes⟩ | ⟨u, -, haccept, htakes⟩
    · rw [haccept, htakes]
      exact h
    · rw [haccept, htakes]
      exact h.accept u
  | trim favoured =>
    refine h.of_get?_eq ?_
    have hstays : name ∉ t.victims favoured := by simpa [endsIn] using hkeeps
    exact (t.get?_trim favoured name).trans (if_neg hstays)
  | withdraw k => exact h.withdraw k hkeeps
  | install p =>
    show (t.install p).2.Remembers name
      (((t.takenIn (.install p)).filter fun u => u.name = name).filterMap Profile.lastMove? ++ ms)
    rcases t.install_cases p with ⟨hinstall, htakes⟩ | ⟨hget, hinstall, htakes⟩
    · rw [hinstall, htakes]
      exact h
    · rw [hinstall, htakes]
      exact h.put_new hget
  | contains k => exact h

theorem Remembers.run (h : t.Remembers name ms) (steps : List Step) :
    (t.run steps).Remembers name (t.standing name ms steps) := by
  induction steps generalizing t ms with
  | nil => exact h
  | cons s rest ih =>
    rw [run_cons]
    apply ih
    cases hends : t.endsIn name s with
    | true => exact remembers_nil
    | false =>
      apply (h.subset fun x hx => (List.mem_filter.mp hx).1).next hends
      intro m hm x hx
      exact of_decide_eq_true (List.all_eq_true.mp (List.mem_filter.mp hx).2 m hm)

/-- Unless the clock goes back within a move, all marks stand. -/
theorem standing_eq_marks {steps : List Step} (h : ∀ m ∈ t.moves name steps, m.1 ≤ m.2) :
    t.standing name ms steps = t.marks name ms steps := by
  induction steps generalizing t ms with
  | nil => rfl
  | cons s rest ih =>
    have hall : (ms.filter fun x => (t.movesIn name s).all fun m => StandsThrough x m) = ms := by
      apply List.filter_eq_self.mpr
      intro x _
      apply List.all_eq_true.mpr
      intro m hm
      exact decide_eq_true (.inr (h m (List.mem_append_left _ hm)))
    unfold standing marks
    dsimp only
    rw [hall]
    apply ih
    intro m hm
    exact h m (List.mem_append_right _ hm)

/-- A move is at least the cool-down of the entry away from all marks that the entry remembers. -/
theorem Remembers.add_cooldown_le (h : t.Remembers name ms) {d : UInt64}
    (hd : t.cooldown? name = some d) (hpos : 0 < d) {current : Placement} {c : Cluster}
    {now marked : UInt64} (hmoves : (t.move name current c now marked).1 ≠ current) :
    ∀ x ∈ ms, x.toNat + d.toNat ≤ now.toNat := by
  intro x hx
  rcases t.move_cases name current c now marked with hmove | ⟨p, proposed, hget, hpropose, -⟩
  · rw [hmove] at hmoves
    exact absurd rfl hmoves
  · obtain ⟨q, hq, hremembers⟩ := h x hx
    cases hget.symm.trans hq
    rw [cooldown?, hget] at hd
    exact hremembers.add_cooldown_le hd hpos hpropose

theorem Remembers.exists_cooldown {x : UInt64} (h : t.Remembers name ms) (hx : x ∈ ms) :
    ∃ d, t.cooldown? name = some d := by
  obtain ⟨p, hget, hremembers⟩ := h x hx
  unfold cooldown?
  rw [hget]
  cases p with
  | null name => cases hremembers
  | rate name params stats => exact ⟨_, rfl⟩

/-! ### Moves at one clock reading -/

theorem mem_movesIn {s : Step} {m : UInt64 × UInt64} (h : m ∈ t.movesIn name s) :
    ∃ current c, s = .move name current c m.1 m.2 ∧
      (t.move name current c m.1 m.2).1 ≠ current := by
  cases s with
  | move k current c now marked =>
    rw [movesIn_move] at h
    split at h
    · rename_i hmoves
      obtain ⟨rfl, hmoves⟩ := hmoves
      rw [List.mem_singleton.mp h]
      exact ⟨current, c, rfl, hmoves⟩
    · cases h
  | _ => cases h

theorem length_movesIn_le (t : Table) (name : ServiceName) (s : Step) :
    (t.movesIn name s).length ≤ 1 := by
  cases s with
  | move k current c now marked =>
    rw [movesIn_move]
    split
    · exact Nat.le_refl 1
    · exact Nat.zero_le 1
  | _ => exact Nat.zero_le 1

/-- A name with a cool-down moves only later than all marks that its entry remembers. -/
theorem Remembers.lt_of_mem_movesIn (h : t.Remembers name ms) (hcools : t.cooldown? name ≠ some 0)
    {s : Step} {x : UInt64} {m : UInt64 × UInt64} (hx : x ∈ ms) (hm : m ∈ t.movesIn name s) :
    x < m.1 := by
  obtain ⟨current, c, rfl, hmoves⟩ := mem_movesIn hm
  obtain ⟨d, hd⟩ := h.exists_cooldown hx
  have hpos : 0 < d := by
    apply UInt64.pos_iff_ne_zero.mpr
    intro hzero
    rw [hd, hzero] at hcools
    exact hcools rfl
  have hfar := h.add_cooldown_le hd hpos hmoves x hx
  rw [UInt64.lt_iff_toNat_lt] at hpos ⊢
  have hzero : (0 : UInt64).toNat = 0 := rfl
  omega

section

variable {steps : List Step} {x : UInt64}

/-- In a run that keeps the entry of a name, the name moves only later than a mark that stands. -/
theorem Remembers.lt_of_mem_moves (h : t.Remembers name [x]) (hkeeps : t.keeps name steps = true)
    (hcools : ∀ i ≤ steps.length, (t.run (steps.take i)).cooldown? name ≠ some 0)
    (hstands : ∀ m ∈ t.moves name steps, StandsThrough x m) :
    ∀ m ∈ t.moves name steps, x < m.1 := by
  induction steps generalizing t with
  | nil =>
    intro m hm
    cases hm
  | cons s rest ih =>
    obtain ⟨hstays, hkeeps⟩ := Bool.and_eq_true_iff.mp hkeeps
    rw [Bool.not_eq_true'] at hstays
    have hnext : (t.next s).Remembers name [x] := by
      apply (h.next hstays ?_).subset fun y hy => List.mem_append_right _ hy
      intro m hm y hy
      rw [List.mem_singleton.mp hy]
      exact hstands m (List.mem_append_left _ hm)
    intro m hm
    rcases List.mem_append.mp hm with hnow | hlater
    · exact h.lt_of_mem_movesIn (hcools 0 (Nat.zero_le _)) List.mem_cons_self hnow
    · apply ih hnext hkeeps _ _ m hlater
      · intro i hi
        exact hcools (i + 1) (Nat.succ_le_succ hi)
      · intro m hm
        exact hstands m (List.mem_append_right _ hm)

/-- A name that moves at a clock reading is marked with no earlier one, unless the clock goes back,
so it does not move at that reading again. -/
theorem count_moves_le_one (hkeeps : t.keeps name steps = true)
    (hcools : ∀ i ≤ steps.length, (t.run (steps.take i)).cooldown? name ≠ some 0)
    (hstands : ∀ m ∈ t.moves name steps, StandsThrough x m) :
    ((t.moves name steps).map Prod.fst).count x ≤ 1 := by
  induction steps generalizing t with
  | nil => exact Nat.zero_le 1
  | cons s rest ih =>
    obtain ⟨hstays, hkeeps⟩ := Bool.and_eq_true_iff.mp hkeeps
    rw [Bool.not_eq_true'] at hstays
    have hcools' : ∀ i ≤ rest.length, ((t.next s).run (rest.take i)).cooldown? name ≠ some 0 :=
      fun i hi => hcools (i + 1) (Nat.succ_le_succ hi)
    have hstands' : ∀ m ∈ (t.next s).moves name rest, StandsThrough x m :=
      fun m hm => hstands m (List.mem_append_right _ hm)
    unfold moves
    rw [List.map_append, List.count_append]
    by_cases hnow : x ∈ (t.movesIn name s).map Prod.fst
    · obtain ⟨m, hm, rfl⟩ := List.mem_map.mp hnow
      have hmark : m.1 ≤ m.2 := (hstands m (List.mem_append_left _ hm)).elim id id
      have hnext : (t.next s).Remembers name [m.1] := by
        intro y hy
        have hgiven : m.2 ∈ t.marksIn name s ++ [] :=
          List.mem_append_left _ (List.mem_append_left _ (List.mem_map_of_mem hm))
        have hnone : ∀ m ∈ t.movesIn name s, ∀ x ∈ [], StandsThrough x m :=
          fun _ _ _ hx => absurd hx List.not_mem_nil
        obtain ⟨p, hp, hremembers⟩ := remembers_nil.next hstays hnone m.2 hgiven
        rw [List.mem_singleton.mp hy]
        exact ⟨p, hp, hremembers.of_le hmark⟩
      have hlater : m.1 ∉ ((t.next s).moves name rest).map Prod.fst := by
        intro hagain
        obtain ⟨m', hm', heq⟩ := List.mem_map.mp hagain
        have hlt := hnext.lt_of_mem_moves hkeeps hcools' hstands' m' hm'
        rw [heq] at hlt
        exact absurd hlt (UInt64.lt_irrefl _)
      rw [List.count_eq_zero.mpr hlater]
      have hlength := List.count_le_length (a := m.1) (l := (t.movesIn name s).map Prod.fst)
      rw [List.length_map] at hlength
      exact Nat.le_trans hlength (t.length_movesIn_le name s)
    · rw [List.count_eq_zero.mpr hnow, Nat.zero_add]
      exact ih hkeeps hcools' hstands'

end

/-- If a name moves after any run, and its entry has a cool-down, the move is at least the cool-down
later than every mark of the entry that has stood through the later moves; unless the clock goes
back within a move of the name, these are all its marks. And as long as the entry is neither
withdrawn nor evicted, of the moves that are asked for at one clock reading at most one happens,
unless a move goes back in the clock to before it. -/
theorem moves_keep_cooldown (registry : Registry) (cluster : Cluster) (limits : Limits)
    (name : ServiceName) (steps : List Step) :
    let start := new registry cluster limits
    let t := start.run steps
    (∀ d current c now marked, t.cooldown? name = some d → 0 < d →
      (t.move name current c now marked).1 ≠ current →
        ∀ x ∈ start.standing name [] steps, x.toNat + d.toNat ≤ now.toNat) ∧
      ((∀ m ∈ start.moves name steps, m.1 ≤ m.2) →
        start.standing name [] steps = start.marks name [] steps) ∧
      ∀ further, t.keeps name further = true →
        (∀ i ≤ further.length, (t.run (further.take i)).cooldown? name ≠ some 0) →
          ∀ now, (∀ m ∈ t.moves name further, StandsThrough now m) →
            ((t.moves name further).map Prod.fst).count now ≤ 1 := by
  intro start t
  have hremembers : t.Remembers name (start.standing name [] steps) := remembers_nil.run steps
  refine ⟨?_, standing_eq_marks, ?_⟩
  · intro d current c now marked hd hpos hmoves
    exact hremembers.add_cooldown_le hd hpos hmoves
  · intro further hkeeps hcools now hstands
    exact count_moves_le_one hkeeps hcools hstands

def twoReplicas : Cluster :=
  (Cluster.empty.withReplica "AR0" (some (.v4 ⟨10, 0, 0, 1⟩ 2000))).withReplica "AR1"
    (some (.v4 ⟨10, 0, 0, 2⟩ 2000))

def besideSecond (lastMove : Option UInt64) : Profile :=
  .rate "a" { minRequests := 1 } { total := 1, lastMove, senders := .singleton "10.0.0.2" 1 }

def moveAway (now marked : UInt64) : Step :=
  .move "a" (.singleton "AR0") twoReplicas now marked

/-- The name is installed with a mark and moves, gets a request while the clock is set back, and is
merged with a later mark. Then it moves twice; within the second move the clock goes back, but not
to before the marks that count here. -/
theorem moves_keep_cooldown_marked :
    let start := new .standard twoReplicas .standard
    let steps := [.install (besideSecond (some 100)), moveAway 60100 60105,
      .record (some "a") (.v4 ⟨10, 0, 0, 2⟩) 50, .accept (.rate "a" {} { lastMove := some 70000 })]
    let t := start.run steps
    let further := [moveAway 130000 130010, moveAway 130000 130000, moveAway 200000 150000]
    t.cooldown? "a" = some 60000 ∧ start.standing "a" [] steps = [70000, 60105, 100] ∧
      start.marks "a" [] steps = [70000, 60105, 100] ∧
      (∀ x ∈ start.standing "a" [] steps, x.toNat + 60000 ≤ 130000) ∧
      t.moves "a" further = [(130000, 130010), (200000, 150000)] ∧
      ((t.moves "a" further).map Prod.fst).count 130000 ≤ 1 := by
  intro start steps t further
  obtain ⟨hfar, hall, honce⟩ := moves_keep_cooldown .standard twoReplicas .standard "a" steps
  have hcooldown : t.cooldown? "a" = some 60000 := by decide +kernel
  have hstanding : start.standing "a" [] steps = [70000, 60105, 100] := by decide +kernel
  have hmoves : start.moves "a" steps = [(60100, 60105)] := by decide +kernel
  have hfurther : t.moves "a" further = [(130000, 130010), (200000, 150000)] := by decide +kernel
  refine ⟨hcooldown, hstanding, ?_, ?_, hfurther, ?_⟩
  · rw [← hall ?_, hstanding]
    rw [hmoves]
    simp
  · exact hfar 60000 (.singleton "AR0") twoReplicas 130000 130010 hcooldown (by decide)
      (by decide +kernel)
  · apply honce further (by decide +kernel) (by decide +kernel) 130000
    rw [hfurther]
    simp [StandsThrough]

/-- The clock goes back within the second move, to before the mark of the first one. So the first
mark is overwritten, and the name moves again at the very reading that it was made of. -/
theorem clock_back_shortens_cooldown :
    let start := new .standard twoReplicas .standard
    let steps := [.install (besideSecond none), moveAway 110000 110000, moveAway 170000 50000]
    let t := start.run steps
    let again := steps ++ [moveAway 110000 110000]
    t.cooldown? "a" = some 60000 ∧
      (t.move "a" (.singleton "AR0") twoReplicas 110000 110000).1 ≠ .singleton "AR0" ∧
      (¬ ∀ x ∈ start.marks "a" [] steps, x.toNat + 60000 ≤ 110000) ∧
      start.keeps "a" again = true ∧
      ¬ ((start.moves "a" again).map Prod.fst).count 110000 ≤ 1 := by
  intro start steps t again
  have hmarks : start.marks "a" [] steps = [50000, 110000] := by decide +kernel
  refine ⟨by decide +kernel, by decide +kernel, ?_, by decide +kernel, by decide +kernel⟩
  rw [hmarks]
  simp

end Table

end ServicePlacement.Demand
