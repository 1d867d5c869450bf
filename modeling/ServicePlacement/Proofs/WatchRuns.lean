import Mathlib.Algebra.GroupWithZero.Nat
import Mathlib.Data.Finset.Card
import ServicePlacement.Proofs.EvictionShipping
import ServicePlacement.Proofs.TableSize

/-!
Runs of a watch. A watch answers at once for all reports that are due before an event; here is the
loop that makes them one by one, and the two agree. What is true of every report and of every event
is then true of a run: batches are handed over at multiples of the interval, one at a time and before
the watch is stopped, and each entry that a request has added is in the table or in one of them.
-/
namespace ServicePlacement.Demand

namespace Watch

/-! ### One report -/

section

variable (w : Watch)

theorem table_reportNext : w.reportNext.table = (w.table.trim []).2 :=
  Table.table_reportTo w.shipped

theorem shipped_reportNext_of_none (h : w.carrier = none) : w.reportNext.shipped = w.shipped := by
  show ((w.table.reportTo (w.carrier.map _) []).run w.shipped).2 = w.shipped
  rw [h]
  by_cases hnone : (w.table.trim []).1 = []
  · exact congrArg Prod.snd (Table.reportTo_of_eq_nil hnone w.shipped)
  · exact congrArg Prod.snd (Table.reportTo_none hnone w.shipped)

/-- A batch of the profiles that leave the table is handed over, unless it would be empty. -/
theorem shipped_reportNext_of_some {ship : Carrier} (h : w.carrier = some ship) :
    w.reportNext.shipped = if (w.table.trim []).1 = [] then w.shipped
      else (w.next, (w.table.trim []).1.length) :: w.shipped := by
  show ((w.table.reportTo (w.carrier.map _) []).run w.shipped).2 = _
  rw [h]
  refine (Table.log_reportTo ship _ w.shipped).trans ?_
  rw [List.length_map]

/-- A batch that a report adds to the log is handed over at its time and is not empty. -/
theorem shipped_reportNext : w.reportNext.shipped = w.shipped ∨
    ∃ n, 0 < n ∧ w.reportNext.shipped = (w.next, n) :: w.shipped := by
  cases hcarrier : w.carrier with
  | none => exact .inl (w.shipped_reportNext_of_none hcarrier)
  | some ship =>
    rw [w.shipped_reportNext_of_some hcarrier]
    by_cases hnone : (w.table.trim []).1 = []
    · exact .inl (if_pos hnone)
    · exact .inr ⟨_, List.length_pos_iff.mpr hnone, if_neg hnone⟩

theorem reportNext_of_lt (h : w.table.size < w.table.limits.maxSize.toNat) : w.reportNext = w := by
  have htrim := Table.trim_of_lt h []
  have hnone : (w.table.trim []).1 = [] := congrArg Prod.fst htrim
  have htable : w.reportNext.table = w.table := by
    rw [table_reportNext, htrim]
  have hshipped : w.reportNext.shipped = w.shipped :=
    congrArg Prod.snd (Table.reportTo_of_eq_nil hnone w.shipped)
  show { w with table := w.reportNext.table, shipped := w.reportNext.shipped } = w
  rw [htable, hshipped]

/-! ### One report after another -/

def tick : Watch := { w.reportNext with next := w.next + w.interval }

/-- There is nothing to evict a second time. -/
theorem reportNext_tick : w.tick.reportNext = w.tick := by
  apply reportNext_of_lt
  show w.reportNext.table.size < w.reportNext.table.limits.maxSize.toNat
  rw [table_reportNext]
  exact w.table.size_trim_lt []

variable {w} {time : Nat}

theorem advance_of_idle (h : w.stoppedAt.isSome = true ∨ time ≤ w.next) : w.advance time = w := by
  unfold advance
  apply if_pos
  rw [Bool.or_eq_true, decide_eq_true_eq]
  exact h

theorem advance_of_due (hrunning : w.stoppedAt = none) (hdue : w.next < time) :
    w.advance time = { w.reportNext with
      next := w.next + (time - w.next + w.interval - 1) / w.interval * w.interval } := by
  unfold advance
  apply if_neg
  rw [hrunning, Bool.or_eq_true, decide_eq_true_eq]
  rintro (hstopped | hle)
  · cases hstopped
  · omega

/-- A report that is due is the first of those that a watch makes at once. -/
theorem advance_tick (hrunning : w.stoppedAt = none) (hdue : w.next < time)
    (hpos : 0 < w.interval) : w.tick.advance time = w.advance time := by
  have hnext : w.tick.next = w.next + w.interval := rfl
  rw [advance_of_due hrunning hdue]
  by_cases hmore : w.tick.next < time
  · have hpassed : time - w.next + w.interval - 1 =
        time - w.tick.next + w.interval - 1 + w.interval := by omega
    have hlast : w.next + (time - w.next + w.interval - 1) / w.interval * w.interval =
        w.tick.next + (time - w.tick.next + w.interval - 1) / w.interval * w.interval := by
      rw [hpassed, Nat.add_div_right _ hpos, Nat.succ_mul, hnext]
      omega
    have hrest := advance_of_due (w := w.tick) hrunning hmore
    rw [reportNext_tick] at hrest
    rw [hrest, hlast]
    rfl
  · have hone : (time - w.next + w.interval - 1) / w.interval = 1 := by
      apply Nat.div_eq_of_lt_le
      · omega
      · omega
    rw [advance_of_idle (.inr (Nat.not_lt.mp hmore)), hone, Nat.one_mul]
    rfl

end

/-- The loop: while it is not stopped, a watch reports whenever its time has come before the next
event, and waits once more. Besides the watch that is left there are the sizes of its table after
each event. -/
inductive Loops : Watch → List Event → List Nat → Watch → Prop where
  | done (w : Watch) : Loops w [] [] w
  | report {w w' : Watch} {e : Event} {rest : List Event} {sizes : List Nat}
      (hrunning : w.stoppedAt = none) (hdue : w.next < e.time)
      (hrest : Loops w.tick (e :: rest) sizes w') : Loops w (e :: rest) sizes w'
  | event {w w' : Watch} {e : Event} {rest : List Event} {sizes : List Nat}
      (hidle : w.stoppedAt.isSome = true ∨ e.time ≤ w.next)
      (hrest : Loops (w.happen e) rest sizes w') :
      Loops w (e :: rest) ((w.happen e).table.size :: sizes) w'

@[simp] theorem interval_happen (w : Watch) (e : Event) : (w.happen e).interval = w.interval := by
  unfold happen
  split <;> rfl

@[simp] theorem shipped_happen (w : Watch) (e : Event) : (w.happen e).shipped = w.shipped := by
  unfold happen
  split <;> rfl

@[simp] theorem carrier_happen (w : Watch) (e : Event) : (w.happen e).carrier = w.carrier := by
  unfold happen
  split <;> rfl

theorem Loops.follow_eq {w w' : Watch} {events : List Event} {sizes : List Nat}
    (h : Loops w events sizes w') (hpos : 0 < w.interval) : w.follow events = (sizes, w') := by
  induction h with
  | done w => rfl
  | @report w w' e rest sizes hrunning hdue hrest ih =>
    have hstep : w.step e = w.tick.step e :=
      congrArg (happen · e) (advance_tick hrunning hdue hpos).symm
    have htick : w.follow (e :: rest) = w.tick.follow (e :: rest) := by
      unfold follow
      rw [hstep]
    rw [htick]
    exact ih hpos
  | @event w w' e rest sizes hidle hrest ih =>
    have hstep : w.step e = w.happen e := congrArg (happen · e) (advance_of_idle hidle)
    rw [interval_happen] at ih
    unfold follow
    rw [hstep]
    dsimp only
    rw [ih hpos]

theorem Loops.interval_eq {w w' : Watch} {events : List Event} {sizes : List Nat}
    (h : Loops w events sizes w') : w'.interval = w.interval := by
  induction h with
  | done w => rfl
  | report hrunning hdue hrest ih => exact ih
  | event hidle hrest ih =>
    rw [interval_happen] at ih
    exact ih

/-- Sooner or later the loop has made all reports before an event. -/
theorem loops_cons {w : Watch} {e : Event} {rest : List Event} (hpos : 0 < w.interval)
    (hrest : ∀ v : Watch, 0 < v.interval → Loops v rest (v.follow rest).1 (v.follow rest).2) :
    ∃ sizes w', Loops w (e :: rest) sizes w' := by
  by_cases hidle : w.stoppedAt.isSome = true ∨ e.time ≤ w.next
  · refine ⟨_, _, .event hidle (hrest _ ?_)⟩
    rw [interval_happen]
    exact hpos
  · rw [not_or, Bool.not_eq_true, Option.isSome_eq_false_iff, Option.isNone_iff_eq_none,
      Nat.not_le] at hidle
    obtain ⟨sizes, w', htick⟩ := loops_cons (w := w.tick) (e := e) hpos hrest
    exact ⟨sizes, w', .report hidle.1 hidle.2 htick⟩
termination_by e.time - w.next
decreasing_by
  have hnext : w.tick.next = w.next + w.interval := rfl
  omega

theorem loops_follow {w : Watch} (hpos : 0 < w.interval) (events : List Event) :
    Loops w events (w.follow events).1 (w.follow events).2 := by
  induction events generalizing w with
  | nil => exact .done w
  | cons e rest ih =>
    obtain ⟨sizes, w', h⟩ := loops_cons (e := e) hpos fun v hv => ih hv
    rw [h.follow_eq hpos]
    exact h

/-- The reports that a watch makes at once are those of the loop, with the same table after each
event, and there is no other outcome of the loop. -/
theorem loops_iff_follow {w w' : Watch} (hpos : 0 < w.interval) {events : List Event}
    {sizes : List Nat} : Loops w events sizes w' ↔ w.follow events = (sizes, w') := by
  constructor
  · intro h
    exact h.follow_eq hpos
  · intro h
    have hloops := loops_follow hpos events
    rw [h] at hloops
    exact hloops

/-! ### When batches are handed over -/

/-- Up to a time, batches have been handed over at multiples of the interval only: none of them is
empty, no two are handed over at once, and none after the watch is stopped. -/
structure Punctual (w : Watch) (now : Nat) : Prop where
  next_pos : 0 < w.next
  next_multiple : w.interval ∣ w.next
  batch : ∀ b ∈ w.shipped, 0 < b.2 ∧ 0 < b.1 ∧ w.interval ∣ b.1 ∧ b.1 < now
  running : w.stoppedAt = none → ∀ b ∈ w.shipped, b.1 < w.next
  stopped : ∀ last, w.stoppedAt = some last → ∀ b ∈ w.shipped, b.1 < last
  descending : (w.shipped.map Prod.fst).Pairwise (· > ·)

variable {w : Watch} {now time : Nat}

theorem Punctual.mono (h : w.Punctual now) (hle : now ≤ time) : w.Punctual time where
  next_pos := h.next_pos
  next_multiple := h.next_multiple
  batch b hb := by
    obtain ⟨hsize, hpos, hmultiple, hlt⟩ := h.batch b hb
    exact ⟨hsize, hpos, hmultiple, Nat.lt_of_lt_of_le hlt hle⟩
  running := h.running
  stopped := h.stopped
  descending := h.descending

theorem punctual_start {interval : Nat} (hpos : 0 < interval) (t : Table)
    (carrier : Option Carrier) : (start t interval carrier).Punctual 0 where
  next_pos := by
    show 0 < min interval longestWait
    exact Nat.lt_min.mpr ⟨hpos, by decide⟩
  next_multiple := Nat.dvd_refl _
  batch b hb := absurd hb List.not_mem_nil
  running _ b hb := absurd hb List.not_mem_nil
  stopped last hlast b hb := absurd hb List.not_mem_nil
  descending := List.Pairwise.nil

/-- Batches of earlier reports are from before a report, so that the order stays descending. -/
theorem Punctual.shipped_tick (h : w.Punctual now) (hrunning : w.stoppedAt = none) :
    (∀ b ∈ w.tick.shipped, 0 < b.2 ∧ 0 < b.1 ∧ w.interval ∣ b.1 ∧ b.1 ≤ w.next) ∧
      (w.tick.shipped.map Prod.fst).Pairwise (· > ·) := by
  have hbefore : ∀ b ∈ w.shipped, 0 < b.2 ∧ 0 < b.1 ∧ w.interval ∣ b.1 ∧ b.1 ≤ w.next := by
    intro b hb
    obtain ⟨hsize, hpos, hmultiple, -⟩ := h.batch b hb
    exact ⟨hsize, hpos, hmultiple, Nat.le_of_lt (h.running hrunning b hb)⟩
  have hsame : w.tick.shipped = w.reportNext.shipped := rfl
  rw [hsame]
  obtain hkept | ⟨n, hn, hadded⟩ := w.shipped_reportNext
  · rw [hkept]
    exact ⟨hbefore, h.descending⟩
  · rw [hadded, List.map_cons, List.pairwise_cons, List.forall_mem_cons, List.forall_mem_map]
    exact ⟨⟨⟨hn, h.next_pos, h.next_multiple, Nat.le_refl _⟩, hbefore⟩,
      h.running hrunning, h.descending⟩

theorem Punctual.tick (h : w.Punctual now) (hpos : 0 < w.interval) (hrunning : w.stoppedAt = none)
    (hdue : w.next < now) : w.tick.Punctual now := by
  have hnext : w.tick.next = w.next + w.interval := rfl
  obtain ⟨hbatch, hdescending⟩ := h.shipped_tick hrunning
  constructor
  case next_pos => omega
  case next_multiple => exact Nat.dvd_add h.next_multiple (Nat.dvd_refl _)
  case batch =>
    intro b hb
    obtain ⟨hsize, hbpos, hmultiple, hle⟩ := hbatch b hb
    exact ⟨hsize, hbpos, hmultiple, Nat.lt_of_le_of_lt hle hdue⟩
  case running =>
    intro _ b hb
    obtain ⟨-, -, -, hle⟩ := hbatch b hb
    omega
  case stopped =>
    intro last hlast
    have hnone : w.tick.stoppedAt = none := hrunning
    rw [hnone] at hlast
    cases hlast
  case descending => exact hdescending

theorem Punctual.stop (h : w.Punctual now) : (w.stop now).Punctual now where
  next_pos := h.next_pos
  next_multiple := h.next_multiple
  batch := h.batch
  running hnone := nomatch hnone
  stopped last hlast b hb := by
    have hfirst : w.stoppedAt.getD now = last := Option.some.inj hlast
    cases hstopped : w.stoppedAt with
    | none =>
      rw [hstopped, Option.getD_none] at hfirst
      rw [← hfirst]
      exact (h.batch b hb).2.2.2
    | some first =>
      rw [hstopped, Option.getD_some] at hfirst
      rw [← hfirst]
      exact h.stopped first hstopped b hb
  descending := h.descending

theorem Punctual.happen {e : Event} (h : w.Punctual e.time) : (w.happen e).Punctual e.time := by
  unfold Watch.happen
  cases e.change with
  | record names sender =>
    exact ⟨h.next_pos, h.next_multiple, h.batch, h.running, h.stopped, h.descending⟩
  | stop => exact h.stop
  | nothing => exact h

theorem getLast?_time_cons (e : Event) (rest : List Event) (now : Nat) :
    ((e :: rest).getLast?.map Event.time).getD now = (rest.getLast?.map Event.time).getD e.time := by
  rw [List.getLast?_cons, Option.map_some, Option.getD_some, Option.getD_map]

/-- The loop goes from one event to the next, and what is due between them is made in between. -/
theorem Loops.punctual {w w' : Watch} {events : List Event} {sizes : List Nat}
    (hloops : Loops w events sizes w') (h : w.Punctual now) (hpos : 0 < w.interval)
    (hnow : ∀ e ∈ events, now ≤ e.time)
    (hordered : events.Pairwise fun e e' => e.time ≤ e'.time) :
    w'.Punctual ((events.getLast?.map Event.time).getD now) := by
  induction hloops generalizing now with
  | done w => exact h
  | @report w w' e rest sizes hrunning hdue hrest ih =>
    have hlater : ∀ e' ∈ e :: rest, e.time ≤ e'.time := by
      rw [List.forall_mem_cons]
      exact ⟨Nat.le_refl _, (List.pairwise_cons.mp hordered).1⟩
    have hmono := h.mono (hnow e List.mem_cons_self)
    have hlast := ih (hmono.tick hpos hrunning hdue) hpos hlater hordered
    rw [getLast?_time_cons] at hlast ⊢
    exact hlast
  | @event w w' e rest sizes hidle hrest ih =>
    obtain ⟨hlater, hrestOrdered⟩ := List.pairwise_cons.mp hordered
    have hmono := h.mono (hnow e List.mem_cons_self)
    rw [interval_happen] at ih
    rw [getLast?_time_cons]
    exact ih hmono.happen hpos hlater hrestOrdered

/-! ### What becomes of the entries -/

end Watch

namespace Table

def missing (t : Table) (names : List ServiceName) : Finset ServiceName :=
  names.toFinset.filter fun name => ¬ t.contains name = true

variable {t : Table} {name k : ServiceName}

theorem mem_missing {names : List ServiceName} :
    k ∈ t.missing names ↔ k ∈ names.toFinset ∧ ¬ t.contains k = true := Finset.mem_filter

theorem contains_put (p : Profile) :
    (t.put name p).contains k = true ↔ k = name ∨ t.contains k = true := by
  unfold contains
  rw [SortedMap.contains_iff, SortedMap.contains_iff, get?_put]
  by_cases hk : k = name <;> simp [hk]

/-- An entry for the first name is one for it wherever it occurs again. -/
theorem card_missing_cons (t : Table) (name : ServiceName) (rest : List ServiceName)
    (p : Profile) : t.size + (t.missing (name :: rest)).card =
      (t.put name p).size + ((t.put name p).missing rest).card := by
  have hrest : (t.put name p).missing rest = (t.missing (name :: rest)).erase name := by
    ext k
    rw [Finset.mem_erase, mem_missing, mem_missing, contains_put, not_or, List.toFinset_cons,
      Finset.mem_insert]
    constructor
    · rintro ⟨hk, hne, hnew⟩
      exact ⟨hne, .inr hk, hnew⟩
    · rintro ⟨hne, hk, hnew⟩
      exact ⟨hk.resolve_left hne, hne, hnew⟩
  rw [hrest, size_put]
  by_cases hknown : t.contains name = true
  · have hnot : name ∉ t.missing (name :: rest) := fun h => (mem_missing.mp h).2 hknown
    rw [if_pos hknown, Finset.erase_eq_of_notMem hnot]
  · have hmem : name ∈ t.missing (name :: rest) :=
      mem_missing.mpr ⟨List.mem_toFinset.mpr List.mem_cons_self, hknown⟩
    rw [if_neg hknown, ← Finset.card_erase_add_one hmem]
    omega

/-- Requests add an entry for each name that has none. -/
theorem size_foldl_record (sender : IpAddress) (now : UInt64) (names : List ServiceName)
    (t : Table) : (names.foldl (fun t name => (t.record (some name) sender now).2) t).size =
      t.size + (t.missing names).card := by
  induction names generalizing t with
  | nil => rfl
  | cons name rest ih =>
    rw [List.foldl_cons, ih]
    exact (t.card_missing_cons name rest _).symm

end Table

namespace Watch

def Event.added (e : Event) (t : Table) : Nat :=
  match e.change with
  | .record names _ => (t.missing names).card
  | _ => 0

def added (w : Watch) : List Event → Nat
  | [] => 0
  | e :: rest => e.added (w.advance e.time).table + (w.step e).added rest

def held (w : Watch) : Nat := w.table.size + (w.shipped.map Prod.snd).sum

section

variable {w : Watch}

theorem advance_cases (w : Watch) (time : Nat) :
    w.advance time = w ∨ ∃ next, w.advance time = { w.reportNext with next } := by
  unfold advance
  by_cases hidle : (w.stoppedAt.isSome || decide (time ≤ w.next)) = true
  · exact .inl (if_pos hidle)
  · exact .inr ⟨_, if_neg hidle⟩

@[simp] theorem carrier_advance (w : Watch) (time : Nat) :
    (w.advance time).carrier = w.carrier := by
  obtain h | ⟨next, h⟩ := w.advance_cases time
  · rw [h]
  · rw [h]
    rfl

@[simp] theorem carrier_step (w : Watch) (e : Event) : (w.step e).carrier = w.carrier := by
  unfold step
  rw [carrier_happen, carrier_advance]

theorem snd_follow_cons (w : Watch) (e : Event) (rest : List Event) :
    (w.follow (e :: rest)).2 = ((w.step e).follow rest).2 := rfl

@[simp] theorem stoppedAt_advance (w : Watch) (time : Nat) :
    (w.advance time).stoppedAt = w.stoppedAt := by
  obtain h | ⟨next, h⟩ := w.advance_cases time
  · rw [h]
  · rw [h]
    rfl

theorem held_reportNext {ship : Carrier} (h : w.carrier = some ship) :
    w.reportNext.held = w.held := by
  have hsize := w.table.size_trim []
  rw [← w.table.length_trim []] at hsize
  unfold held
  rw [table_reportNext, w.shipped_reportNext_of_some h]
  by_cases hnone : (w.table.trim []).1 = []
  · rw [hnone, List.length_nil] at hsize
    rw [if_pos hnone, ← hsize]
    rfl
  · rw [if_neg hnone, List.map_cons, List.sum_cons]
    omega

theorem held_advance {ship : Carrier} (h : w.carrier = some ship) (time : Nat) :
    (w.advance time).held = w.held := by
  obtain hsame | ⟨next, hreport⟩ := w.advance_cases time
  · rw [hsame]
  · rw [hreport]
    exact held_reportNext h

theorem held_happen (w : Watch) (e : Event) : (w.happen e).held = w.held + e.added w.table := by
  unfold happen Event.added held
  cases e.change with
  | record names sender =>
    dsimp only
    rw [Table.size_foldl_record]
    omega
  | stop => rfl
  | nothing => rfl

/-- An entry that was added is in the table or has been handed over. -/
theorem held_follow {ship : Carrier} (h : w.carrier = some ship) (events : List Event) :
    (w.follow events).2.held = w.held + w.added events := by
  induction events generalizing w with
  | nil => rfl
  | cons e rest ih =>
    have hcarrier : (w.step e).carrier = some ship := (w.carrier_step e).trans h
    have hstep : (w.step e).held = w.held + e.added (w.advance e.time).table := by
      unfold step
      rw [held_happen, held_advance h]
    rw [snd_follow_cons, ih hcarrier, hstep, Nat.add_assoc]
    rfl

theorem shipped_follow_of_none (h : w.carrier = none) (events : List Event) :
    (w.follow events).2.shipped = w.shipped := by
  induction events generalizing w with
  | nil => rfl
  | cons e rest ih =>
    have hcarrier : (w.step e).carrier = none := (w.carrier_step e).trans h
    have hstep : (w.step e).shipped = w.shipped := by
      unfold step
      rw [shipped_happen]
      obtain hsame | ⟨next, hreport⟩ := w.advance_cases e.time
      · rw [hsame]
      · rw [hreport]
        exact w.shipped_reportNext_of_none h
    rw [snd_follow_cons, ih hcarrier, hstep]

end

/-! ### The end of a run -/

def Event.isStop (e : Event) : Bool :=
  match e.change with
  | .stop => true
  | _ => false

theorem stoppedAt_happen (w : Watch) (e : Event) :
    (w.happen e).stoppedAt = w.stoppedAt.or (if e.isStop then some e.time else none) := by
  unfold happen Event.isStop
  cases e.change with
  | record names sender => exact (Option.or_none).symm
  | stop => cases h : w.stoppedAt <;> simp [stop, h]
  | nothing => exact (Option.or_none).symm

/-- A watch that is stopped twice is stopped the first time. -/
theorem stoppedAt_follow (w : Watch) (events : List Event) :
    (w.follow events).2.stoppedAt =
      w.stoppedAt.or ((events.find? Event.isStop).map Event.time) := by
  induction events generalizing w with
  | nil => exact (Option.or_none).symm
  | cons e rest ih =>
    rw [snd_follow_cons, ih]
    unfold step
    rw [stoppedAt_happen, stoppedAt_advance, Option.or_assoc, List.find?_cons]
    cases e.isStop <;> rfl

theorem stoppedAt_run {w : Watch} (h : w.stoppedAt = none) (events : List Event) :
    (w.run events).2.stoppedAt =
      some ((((events.find? Event.isStop).or events.getLast?).map Event.time).getD 0) := by
  show some ((w.follow events).2.stoppedAt.getD _) = _
  rw [stoppedAt_follow, h, Option.none_or]
  cases events.find? Event.isStop <;> rfl

/-- What a watch does from its start to its end. It is stopped by the first event that stops it, or
else by the last one. Before that, and at multiples of the interval only, it hands over batches that
are not empty, no two of them at once. With somebody to take them, every entry that was in the table
or has been added is in the table or has been handed over. -/
theorem reports_of_run (t : Table) {interval : Nat} (hpos : 0 < interval)
    (carrier : Option Carrier) {events : List Event}
    (hordered : events.Pairwise fun e e' => e.time ≤ e'.time) :
    let w := start t interval carrier
    let w' := (w.run events).2
    let last := (((events.find? Event.isStop).or events.getLast?).map Event.time).getD 0
    w'.stoppedAt = some last ∧
      (∀ b ∈ w'.shipped, 0 < b.2 ∧ 0 < b.1 ∧ min interval longestWait ∣ b.1 ∧ b.1 < last) ∧
      (w'.shipped.map Prod.fst).Pairwise (· > ·) ∧
      (carrier = none → w'.shipped = []) ∧
      (∀ ship, carrier = some ship → w'.held = t.size + w.added events) := by
  intro w w' last
  have hwait : 0 < w.interval := Nat.lt_min.mpr ⟨hpos, by decide⟩
  have hloops := loops_follow hwait events
  have hstart : w.Punctual 0 := punctual_start hpos t carrier
  have hend := (hloops.punctual hstart hwait (fun e _ => e.time.zero_le) hordered).stop
  have hstopped : w'.stoppedAt = some last := stoppedAt_run (w := w) rfl events
  refine ⟨hstopped, fun b hb => ?_, hend.descending, fun hnone => ?_, fun ship hship => ?_⟩
  · obtain ⟨hsize, hbpos, hmultiple, -⟩ := hend.batch b hb
    have hinterval : w'.interval = min interval longestWait := hloops.interval_eq
    rw [← hinterval]
    exact ⟨hsize, hbpos, hmultiple, hend.stopped last hstopped b hb⟩
  · exact shipped_follow_of_none (w := w) hnone events
  · exact held_follow (w := w) hship events

/-- There is room for one entry. What happens at the time of a report happens before it, nothing is
evicted at the second report, and the last event comes too late. -/
example :
    let sender := .v4 ⟨10, 0, 0, 1⟩
    let w := start (.new .standard .empty (.of 2 1)) 100 (some fun _ => false)
    let (sizes, w') := w.run [⟨50, .record ["a", "b", "a", "c"] sender⟩,
      ⟨250, .record ["a"] sender⟩, ⟨300, .record ["d"] sender⟩, ⟨320, .stop⟩, ⟨900, .nothing⟩]
    sizes = [3, 2, 3, 1, 1] ∧ w'.shipped = [(300, 2), (100, 2)] ∧ w'.stoppedAt = some 320 := by
  decide +kernel

end Watch

end ServicePlacement.Demand
