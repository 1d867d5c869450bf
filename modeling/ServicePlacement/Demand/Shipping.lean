import ServicePlacement.Demand.Table

/-!
Shipping what the demand table evicts. A report trims the table once and hands the exports over; the
profiles are gone from the table whether or not they arrive. Handing over may have effects of its
own, so a report runs in the state of whoever takes the exports. A watch reports at regular times
until it is stopped, and keeps a log of all that it hands over.
-/
namespace ServicePlacement.Demand

inductive Shipment where
  | nothing
  | dropped
  | sent (batch : List Export) (arrived : Bool)

structure Report where
  evicted : Nat
  shipment : Shipment
  table : Table

/-- A way to hand exports over: it may change a state, and it tells whether they arrived. -/
abbrev Handover (σ : Type) := List Export → StateM σ Bool

def Table.reportTo {σ : Type} (t : Table) (handover : Option (Handover σ))
    (favoured : List ServiceName) : StateM σ Report := do
  let (evicted, table) := t.trim favoured
  let batch := evicted.map Profile.toExport
  let report (shipment : Shipment) : Report := { evicted := evicted.length, shipment, table }
  if batch.isEmpty then return report .nothing
  match handover with
  | none => return report .dropped
  | some ship => return report (.sent batch (← ship batch))

abbrev Carrier := List Export → Bool

namespace Carrier

def handover (ship : Carrier) (σ : Type) : Handover σ := fun batch => return ship batch

def logged {α : Type} (ship : Carrier) (note : List Export → α) : Handover (List α) :=
  fun batch => do
    modify (note batch :: ·)
    return ship batch

end Carrier

def Table.report (t : Table) (carrier : Option Carrier) (favoured : List ServiceName) : Report :=
  ((t.reportTo (carrier.map fun ship => ship.handover Unit) favoured).run ()).1

namespace Watch

inductive Change where
  | record (names : List ServiceName) (sender : IpAddress)
  | stop
  | nothing

structure Event where
  time : Nat
  change : Change

end Watch

structure Watch where
  table : Table
  interval : Nat
  carrier : Option Carrier
  next : Nat
  /-- The time and the size of each batch that was handed over, last first. -/
  shipped : List (Nat × Nat) := []
  stoppedAt : Option Nat := none

namespace Watch

/-- No wait between two reports is longer than thirty years of 365 days, in milliseconds. -/
def longestWait : Nat := 946080000000

def start (table : Table) (interval : Nat) (carrier : Option Carrier) : Watch :=
  let interval := min interval longestWait
  { table, interval, carrier, next := interval }

def reportNext (w : Watch) : Watch :=
  let handover := w.carrier.map fun ship => ship.logged fun batch => (w.next, batch.length)
  let (r, shipped) := (w.table.reportTo handover []).run w.shipped
  { w with table := r.table, shipped }

/-- Make the reports that are due before the given time. Nothing changes between them, and the first
one leaves the table below its limit, so that the others find nothing to evict. -/
def advance (w : Watch) (time : Nat) : Watch :=
  if w.stoppedAt.isSome || time ≤ w.next then w
  else
    let passed := (time - w.next + w.interval - 1) / w.interval
    { w.reportNext with next := w.next + passed * w.interval }

def stop (w : Watch) (time : Nat) : Watch :=
  { w with stoppedAt := some (w.stoppedAt.getD time) }

def happen (w : Watch) (e : Event) : Watch :=
  match e.change with
  | .record names sender =>
    let now := UInt64.ofNat e.time
    { w with table := names.foldl (fun t name => (t.record (some name) sender now).2) w.table }
  | .stop => w.stop e.time
  | .nothing => w

def step (w : Watch) (e : Event) : Watch := (w.advance e.time).happen e

def follow (w : Watch) : List Event → List Nat × Watch
  | [] => ([], w)
  | e :: rest =>
    let w := w.step e
    let (sizes, w') := w.follow rest
    (w.table.size :: sizes, w')

def run (w : Watch) (events : List Event) : List Nat × Watch :=
  let (sizes, w) := w.follow events
  (sizes, w.stop ((events.getLast?.map Event.time).getD 0))

end Watch

end ServicePlacement.Demand
