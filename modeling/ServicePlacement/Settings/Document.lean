import ServicePlacement.Settings
import ServicePlacement.Json.Record
import ServicePlacement.Toml.Reader
import ServicePlacement.Toml.Printer

/-!
Settings as documents: read from TOML or JSON, written as TOML or JSON. A part that is left out has
its default, and unknown parts are passed over.
-/
namespace ServicePlacement

namespace Settings

inductive LoadError where
  | unreadable
  | malformed
  | unusable (cause : SettingError)
deriving DecidableEq

open Json (Tree Dialect)

def Rule.ofTree? (dialect : Dialect) (t : Tree) : Option Rule := do
  let r ← t.record? dialect ["pattern", "profile"]
  let pattern ← r.required "pattern" Tree.text?
  let profile ← r.required "profile" Tree.text?
  return { pattern, profile }

def Demand.ofTree? (dialect : Dialect) (t : Tree) : Option Demand := do
  let r ← t.record? dialect
    ["max_size", "pluck_size", "report_interval", "default_profile", "rules"]
  let base : Demand := {}
  let maxSize ← r.withDefault "max_size" base.maxSize Tree.word?
  let pluckSize ← r.withDefault "pluck_size" base.pluckSize Tree.word?
  let reportInterval ← r.withDefault "report_interval" base.reportInterval Tree.text?
  let defaultProfile ← r.withDefault "default_profile" base.defaultProfile Tree.text?
  let rules ← r.withDefault "rules" base.rules (Tree.list? (Rule.ofTree? dialect))
  return { maxSize, pluckSize, reportInterval, defaultProfile, rules }

def Rate.ofTree? (dialect : Dialect) (t : Tree) : Option Rate := do
  let r ← t.record? dialect
    ["report_threshold", "min_requests_before_reconfigure", "reconfigure_cooldown",
      "max_tracked_senders"]
  let base : Rate := {}
  let reportThreshold ← r.withDefault "report_threshold" base.reportThreshold Tree.word?
  let minRequests ← r.withDefault "min_requests_before_reconfigure" base.minRequests Tree.word?
  let cooldown ← r.withDefault "reconfigure_cooldown" base.cooldown Tree.text?
  let maxSenders ← r.withDefault "max_tracked_senders" base.maxSenders Tree.word?
  return { reportThreshold, minRequests, cooldown, maxSenders }

def Ring.ofTree? (dialect : Dialect) (t : Tree) : Option Ring := do
  let r ← t.record? dialect ["virtual_nodes", "rc_group_size"]
  let base : Ring := {}
  let virtualNodes ← r.withDefault "virtual_nodes" base.virtualNodes Tree.word?
  let groupSize ← r.withDefault "rc_group_size" base.groupSize Tree.word?
  return { virtualNodes, groupSize }

def policyOfTree? (dialect : Dialect) (t : Tree) : Option Policy :=
  (t.name? dialect).bind Policy.ofText?

def ofTree? (dialect : Dialect) (t : Tree) : Option Settings := do
  let r ← t.record? dialect ["default_policy", "demand", "request_rate", "partition"]
  let base : Settings := {}
  let policy ← r.withDefault "default_policy" base.policy (policyOfTree? dialect)
  let demand ← r.withDefault "demand" base.demand (Demand.ofTree? dialect)
  let rate ← r.withDefault "request_rate" base.rate (Rate.ofTree? dialect)
  let ring ← r.withDefault "partition" base.ring (Ring.ofTree? dialect)
  return { policy, demand, rate, ring }

def ofToml (text : String) : Except LoadError Settings :=
  match (Toml.parse? text).bind fun v => ofTree? Toml.dialect v.tree with
  | none => .error .malformed
  | some s =>
    match s.check with
    | .ok () => .ok s
    | .error e => .error (.unusable e)

def ofFile (bytes : Option ByteArray) : Except LoadError Settings :=
  match bytes.bind String.fromUTF8? with
  | none => .error .unreadable
  | some text => ofToml text

/-- The value of an integer setting; TOML integers stay below 2^63. -/
def integer? (n : UInt64) : Option Toml.Value :=
  if n.toNat < 9223372036854775808 then some (.integer n.toNat) else none

def ruleLines (rules : List Rule) : List Toml.Line :=
  match rules with
  | [] => [.assign ["rules"] (.array [])]
  | rules => rules.flatMap fun r =>
    [.element ["demand", "rules"], .assign ["pattern"] (.string r.pattern),
      .assign ["profile"] (.string r.profile)]

def lines? (s : Settings) : Option (List Toml.Line) := do
  let maxSize ← integer? s.demand.maxSize
  let pluckSize ← integer? s.demand.pluckSize
  let reportThreshold ← integer? s.rate.reportThreshold
  let minRequests ← integer? s.rate.minRequests
  let maxSenders ← integer? s.rate.maxSenders
  let virtualNodes ← integer? s.ring.virtualNodes
  let groupSize ← integer? s.ring.groupSize
  return [.assign ["default_policy"] (.string s.policy.text),
      .header ["demand"],
      .assign ["max_size"] maxSize,
      .assign ["pluck_size"] pluckSize,
      .assign ["report_interval"] (.string s.demand.reportInterval),
      .assign ["default_profile"] (.string s.demand.defaultProfile)] ++
    ruleLines s.demand.rules ++
    [.header ["request_rate"],
      .assign ["report_threshold"] reportThreshold,
      .assign ["min_requests_before_reconfigure"] minRequests,
      .assign ["reconfigure_cooldown"] (.string s.rate.cooldown),
      .assign ["max_tracked_senders"] maxSenders,
      .header ["partition"],
      .assign ["virtual_nodes"] virtualNodes,
      .assign ["rc_group_size"] groupSize]

def toToml? (s : Settings) : Option String := s.lines?.map Toml.render

def Rule.toJson (r : Rule) : Json :=
  .object [("pattern", .string r.pattern), ("profile", .string r.profile)]

def toJson (s : Settings) : Json :=
  .object
    [("default_policy", .string s.policy.text),
      ("demand", .object
        [("max_size", .word s.demand.maxSize),
          ("pluck_size", .word s.demand.pluckSize),
          ("report_interval", .string s.demand.reportInterval),
          ("default_profile", .string s.demand.defaultProfile),
          ("rules", .array (s.demand.rules.map Rule.toJson))]),
      ("request_rate", .object
        [("report_threshold", .word s.rate.reportThreshold),
          ("min_requests_before_reconfigure", .word s.rate.minRequests),
          ("reconfigure_cooldown", .string s.rate.cooldown),
          ("max_tracked_senders", .word s.rate.maxSenders)]),
      ("partition", .object
        [("virtual_nodes", .word s.ring.virtualNodes),
          ("rc_group_size", .word s.ring.groupSize)])]

end Settings

end ServicePlacement
