import ServicePlacement.Demand.Placement

/-!
Demand profiles. A profile belongs to one name; its strategy says what it counts and when it wants
to report or to move the name. Strategies rebuild profiles from exports.
-/
namespace ServicePlacement.Demand

inductive Strategy where
  | null
  | rate (params : RateParams)
deriving DecidableEq

def nullKind : String := "null"

def rateKind : String := "request-rate"

def Strategy.kind : Strategy → String
  | null => nullKind
  | rate _ => rateKind

inductive Profile where
  | null (name : ServiceName)
  | rate (name : ServiceName) (params : RateParams) (stats : RateStats)

namespace Profile

def name : Profile → ServiceName
  | null name => name
  | rate name _ _ => name

def kind : Profile → String
  | null _ => nullKind
  | rate _ _ _ => rateKind

def record (p : Profile) (sender : IpAddress) (now : UInt64) : Bool × Profile :=
  match p with
  | null name => (false, null name)
  | rate name params stats =>
    let (report, stats) := stats.record params sender now
    (report, rate name params stats)

def propose (p : Profile) (current : Placement) (c : Cluster) (now : UInt64) : Option Placement :=
  match p with
  | null _ => none
  | rate _ params stats => stats.propose params current c now

def moved (p : Profile) (now : UInt64) : Profile :=
  match p with
  | null name => null name
  | rate name params stats => rate name params (stats.moved now)

def toExport : Profile → Export
  | null name => { name, kind := nullKind, stats := .object [] }
  | rate name _ stats => { name, kind := rateKind, stats := stats.toJson }

def merge (p : Profile) (e : Export) : Except DemandError Profile := do
  e.check p.name p.kind
  match p with
  | null name => return null name
  | rate name params stats => return rate name params (stats.merge params (← RateStats.ofExport e))

def total : Profile → UInt64
  | null _ => 0
  | rate _ _ stats => stats.total

end Profile

namespace Strategy

def create (s : Strategy) (name : ServiceName) : Profile :=
  match s with
  | null => .null name
  | rate params => .rate name params {}

def restore (s : Strategy) (e : Export) : Except DemandError Profile := do
  e.check e.name s.kind
  match s with
  | null => return .null e.name
  | rate params => return .rate e.name params (← RateStats.ofExport e)

end Strategy

end ServicePlacement.Demand
