import ServicePlacement.Demand.Export
import ServicePlacement.Demand.Senders
import ServicePlacement.Settings

/-!
What is counted for a name whose demand is measured by its request rate: requests since the last
report and altogether, the average gap between them, when the name was last asked for and last
moved, and who asked. The clock readings are milliseconds.
-/
namespace ServicePlacement.Demand

structure RateParams where
  reportThreshold : UInt64 := 100
  minRequests : UInt64 := 1000
  cooldown : Duration := ⟨60000⟩
  maxSenders : UInt64 := 32
deriving DecidableEq

def RateParams.ofSettings (s : Settings.Rate) : Except DemandError RateParams :=
  match Duration.parse s.cooldown with
  | .error e => .error (.badSetting e)
  | .ok cooldown => .ok
    { reportThreshold := max s.reportThreshold 1
      minRequests := s.minRequests
      cooldown
      maxSenders := max s.maxSenders 1 }

structure RateStats where
  /-- Requests since the last report. -/
  requests : UInt64 := 0
  total : UInt64 := 0
  /-- The moving average of the gaps between requests, in milliseconds. -/
  gap : Float := 0
  lastRequest : UInt64 := 0
  lastMove : Option UInt64 := none
  moves : UInt64 := 0
  senders : Senders := .empty

namespace RateStats

def newestWeight : Float := 0.125

/-- The average after a further request at `now`; the first gap is taken as it is, and a clock that
went back counts as no gap. -/
def gapAfter (s : RateStats) (now : UInt64) : Float :=
  if s.total == 0 then s.gap
  else
    let newest := (satSub now s.lastRequest).toFloat
    if s.total == 1 then newest
    else (1.0 - newestWeight) * s.gap + newestWeight * newest

def register (p : RateParams) (s : RateStats) (sender : IpAddress) (now : UInt64) : RateStats :=
  { s with
    gap := s.gapAfter now
    requests := satAdd s.requests 1
    total := satAdd s.total 1
    lastRequest := now
    senders := (s.senders.count sender.text 1).bound p.maxSenders.toNat }

def record (p : RateParams) (s : RateStats) (sender : IpAddress) (now : UInt64) :
    Bool × RateStats :=
  let s := s.register p sender now
  if p.reportThreshold ≤ s.requests then (true, { s with requests := 0 }) else (false, s)

def inCooldown (p : RateParams) (s : RateStats) (now : UInt64) : Bool :=
  match s.lastMove with
  | some at_ => satSub now at_ < p.cooldown.millis
  | none => false

def moved (s : RateStats) (now : UInt64) : RateStats :=
  { s with lastMove := some now, moves := satAdd s.moves 1 }

def later : Option UInt64 → Option UInt64 → Option UInt64
  | some a, some b => some (max a b)
  | some a, none => some a
  | none, b => b

def mergedGap (s t : RateStats) : Float :=
  let total := satAdd s.total t.total
  if total == 0 then s.gap
  else (s.gap * s.total.toFloat + t.gap * t.total.toFloat) / total.toFloat

def merge (p : RateParams) (s t : RateStats) : RateStats where
  requests := satAdd s.requests t.requests
  total := satAdd s.total t.total
  gap := mergedGap s t
  lastRequest := max s.lastRequest t.lastRequest
  lastMove := later s.lastMove t.lastMove
  moves := max s.moves t.moves
  senders := (s.senders.merge t.senders).bound p.maxSenders.toNat

def toJson (s : RateStats) : Json :=
  .object [("inter_arrival_ms", .ofFloat s.gap),
    ("last_reconfigured_ms", match s.lastMove with | some t => .word t | none => .null),
    ("last_request_ms", .word s.lastRequest),
    ("num_reconfigurations", .word s.moves),
    ("num_requests", .word s.requests),
    ("num_total_requests", .word s.total),
    ("senders", .object (s.senders.entries.map fun e => (e.1, .word e.2)))]

open Json (Tree Dialect)

def ofTree? (t : Tree) : Option RateStats := do
  let r ← t.record? Dialect.json
    ["num_requests", "num_total_requests", "inter_arrival_ms", "last_request_ms",
      "last_reconfigured_ms", "num_reconfigurations", "senders"]
  let requests ← r.required "num_requests" Tree.word?
  let total ← r.required "num_total_requests" Tree.word?
  let gap ← r.required "inter_arrival_ms" Tree.real?
  let lastRequest ← r.required "last_request_ms" Tree.word?
  let lastMove ← r.nullable "last_reconfigured_ms" Tree.word?
  let moves ← r.required "num_reconfigurations" Tree.word?
  let senders ← r.required "senders" (Tree.map? Tree.word?)
  return { requests, total, gap, lastRequest, lastMove, moves, senders }

def ofExport (e : Export) : Except DemandError RateStats :=
  match ofTree? e.stats.tree with
  | none => .error (.malformed e.name)
  | some s => if s.gap.isFinite && !(s.gap < 0) then .ok s else .error (.badGap e.name s.gap)

def roundHalfEven (num den : Nat) : Nat :=
  let q := num / den
  let twice := 2 * (num % den)
  if twice < den || (twice == den && q % 2 == 0) then q else q + 1

/-- The average gap in whole nanoseconds, once there were two requests. An average below zero,
without a value or of 2^64 seconds and more has none. -/
def gapNanos? (s : RateStats) : Option Nat :=
  let seconds := s.gap / 1000.0
  if s.total < 2 || !seconds.isFinite || seconds < 0 then none
  else
    let b := Decimal.Binary.ofFloat seconds
    let num := b.significand * Nat.pow 2 b.exponent.toNat
    let den := Nat.pow 2 (-b.exponent).toNat
    if 18446744073709551616 * den ≤ num then none else some (roundHalfEven (num * 1000000000) den)

end RateStats

end ServicePlacement.Demand
