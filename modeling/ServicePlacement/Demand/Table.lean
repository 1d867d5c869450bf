import ServicePlacement.Demand.Registry

/-!
The table of demand profiles, one for each name. It is bounded: once it is full, trimming evicts
some of its profiles, so that it is below its limit afterwards. All that leaves the table is a copy
that is rebuilt from an export.
-/
namespace ServicePlacement.Demand

structure Limits where
  maxSize : UInt64
  evictionSize : UInt64
  maxSize_pos : 0 < maxSize.toNat
  evictionSize_pos : 0 < evictionSize.toNat

namespace Limits

theorem max_one_pos (n : UInt64) : 0 < (max n 1).toNat := by
  have one : (1 : UInt64).toNat = 1 := rfl
  show 0 < (if n ≤ 1 then 1 else n).toNat
  split
  · omega
  · rename_i h
    rw [UInt64.le_iff_toNat_le] at h
    omega

def of (maxSize evictionSize : UInt64) : Limits :=
  ⟨max maxSize 1, max evictionSize 1, max_one_pos _, max_one_pos _⟩

def standard : Limits := of 100000 100

instance : Inhabited Limits := ⟨standard⟩

def ofSettings (s : Settings.Demand) : Limits := of s.maxSize s.pluckSize

end Limits

structure Table where
  registry : Registry
  cluster : Cluster
  limits : Limits
  profiles : SortedMap ServiceName Profile

namespace Table

def new (registry : Registry) (cluster : Cluster) (limits : Limits) : Table :=
  { registry, cluster, limits, profiles := .empty }

def size (t : Table) : Nat := t.profiles.size

def contains (t : Table) (name : ServiceName) : Bool := t.profiles.contains name

def put (t : Table) (name : ServiceName) (p : Profile) : Table :=
  { t with profiles := t.profiles.insert name p }

def record (t : Table) (name : Option ServiceName) (sender : IpAddress) (now : UInt64) :
    Bool × Table :=
  match name with
  | none => (false, t)
  | some name =>
    let p := (t.profiles.get? name).getD (t.registry.create name)
    let (report, p) := p.record sender now
    (report, t.put name p)

def propose (t : Table) (name : ServiceName) (current : Placement) (now : UInt64) :
    Option Placement :=
  (t.profiles.get? name).bind fun p => p.propose current t.cluster now

/-- Move a name if its profile proposes it, and note the move; the answer is where the name is then.
The clock is read twice: at `now` the profile is asked, and at `marked` the move is noted. -/
def move (t : Table) (name : ServiceName) (current : Placement) (c : Cluster) (now : UInt64)
    (marked : UInt64 := now) : Placement × Table :=
  match t.profiles.get? name with
  | none => (current, t)
  | some p =>
    match p.propose current c now with
    | some proposed => (proposed, t.put name (p.moved marked))
    | none => (current, t)

def merged (t : Table) (update : Profile) : Except DemandError Profile :=
  match t.profiles.get? update.name with
  | some existing => existing.merge update.toExport
  | none => .ok update

/-- Take in a profile from elsewhere, and answer a copy of the entry. A strategy that is not
registered and a merge that fails leave the table as it is. -/
def accept (t : Table) (update : Profile) : Except DemandError Profile × Table :=
  match t.registry.lookup update.kind with
  | .error e => (.error e, t)
  | .ok strategy =>
    match t.merged update with
    | .error e => (.error e, t)
    | .ok p => (strategy.restore p.toExport, t.put update.name p)

def acceptExport (t : Table) (e : Export) : Except DemandError Profile × Table :=
  match t.registry.restore e with
  | .error e => (.error e, t)
  | .ok update => t.accept update

def evictionCount (t : Table) : Nat :=
  let most := t.limits.maxSize.toNat
  if t.size < most then 0
  else min (max t.limits.evictionSize.toNat (t.size - most + 1)) t.size

/-- All names of the table, in the order in which they would be evicted: the favoured ones in their
own order, and then the others. -/
def evictionOrder (t : Table) (favoured : List ServiceName) : List ServiceName :=
  let first := (favoured.filter t.contains).eraseDups
  first ++ t.profiles.keys.toList.filter fun name => !first.contains name

def trim (t : Table) (favoured : List ServiceName) : List Profile × Table :=
  let victims := (t.evictionOrder favoured).take t.evictionCount
  (victims.filterMap t.profiles.get?,
    { t with profiles := t.profiles.filter fun name _ => !victims.contains name })

def withdraw (t : Table) (name : ServiceName) : Except DemandError (Option Profile) × Table :=
  match t.profiles.get? name with
  | none => (.ok none, t)
  | some p =>
    match t.registry.restore p.toExport with
    | .error e => (.error e, t)
    | .ok copy => (.ok (some copy), t.put name (t.registry.create name))

def install (t : Table) (p : Profile) : Bool × Table :=
  if t.contains p.name then (false, t) else (true, t.put p.name p)

def text (t : Table) : String :=
  "DemandProfileStore \x7b len: " ++ toString t.size ++ ", max_size: " ++
    toString t.limits.maxSize.toNat ++ ", pluck_size: " ++ toString t.limits.evictionSize.toNat ++
    " \x7d"

end Table

end ServicePlacement.Demand
