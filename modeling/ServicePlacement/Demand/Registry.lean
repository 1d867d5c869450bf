import ServicePlacement.Demand.Profile
import ServicePlacement.Pattern
import ServicePlacement.Text.Quoted

/-!
Which strategy a name gets. The rules are tried in order, and a name that none of them matches gets
the default. Exports name their strategy themselves and are restored by the one that is registered.
-/
namespace ServicePlacement.Demand

structure Rule where
  pattern : Pattern
  strategy : Strategy
deriving DecidableEq

structure Registry where
  strategies : SortedMap String Strategy
  rules : List Rule
  fallback : Strategy
deriving DecidableEq

namespace Registry

def new (fallback : Strategy) : Registry :=
  { strategies := .singleton fallback.kind fallback, rules := [], fallback }

/-- Make a strategy known; it replaces one of its kind. Rules and the default keep the strategy they
were made with. -/
def register (r : Registry) (s : Strategy) : Registry :=
  { r with strategies := r.strategies.insert s.kind s }

def standard : Registry := (new (.rate {})).register .null

instance : Inhabited Registry := ⟨standard⟩

def lookup (r : Registry) (kind : String) : Except DemandError Strategy :=
  match r.strategies.get? kind with
  | some s => .ok s
  | none => .error (.unknownProfile kind)

def withDefault (r : Registry) (kind : String) : Except DemandError Registry := do
  return { r with fallback := ← r.lookup kind }

/-- Add a rule behind the others. A malformed pattern is found before an unknown kind. -/
def withRule (r : Registry) (pattern kind : String) : Except DemandError Registry :=
  match Pattern.parse? pattern with
  | none => .error (.invalidPattern pattern)
  | some pattern => do
    let strategy ← r.lookup kind
    return { r with rules := r.rules ++ [{ pattern, strategy }] }

def ofSettings (s : Settings) : Except DemandError Registry := do
  let params ← RateParams.ofSettings s.rate
  let base ← ((new (.rate params)).register .null).withDefault s.demand.defaultProfile
  s.demand.rules.foldlM (fun r rule => r.withRule rule.pattern rule.profile) base

def strategyFor (r : Registry) (name : ServiceName) : Strategy :=
  match r.rules.find? fun rule => rule.pattern.isMatch name with
  | some rule => rule.strategy
  | none => r.fallback

def kindFor (r : Registry) (name : ServiceName) : String := (r.strategyFor name).kind

def create (r : Registry) (name : ServiceName) : Profile := (r.strategyFor name).create name

def restore (r : Registry) (e : Export) : Except DemandError Profile := do
  (← r.lookup e.kind).restore e

def text (r : Registry) : String :=
  let rule (r : Rule) : String :=
    "(" ++ Text.quoted r.pattern.text ++ ", " ++ Text.quoted r.strategy.kind ++ ")"
  "ProfileRegistry \x7b default: " ++ Text.quoted r.fallback.kind ++ ", rules: [" ++
    ", ".intercalate (r.rules.map rule) ++ "] \x7d"

end Registry

end ServicePlacement.Demand
