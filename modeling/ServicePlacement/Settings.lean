import ServicePlacement.Duration
import ServicePlacement.Policy

/-!
The settings of a deployment, their defaults, and the check that they can be used.
-/
namespace ServicePlacement

namespace Settings

structure Rule where
  pattern : String
  profile : String
deriving DecidableEq

structure Demand where
  maxSize : UInt64 := 100000
  pluckSize : UInt64 := 100
  reportInterval : String := "30s"
  defaultProfile : String := "request-rate"
  rules : List Rule := []
deriving DecidableEq

structure Rate where
  reportThreshold : UInt64 := 100
  minRequests : UInt64 := 1000
  cooldown : String := "60s"
  maxSenders : UInt64 := 32
deriving DecidableEq

structure Ring where
  virtualNodes : UInt64 := 64
  groupSize : UInt64 := 3
deriving DecidableEq

end Settings

structure Settings where
  policy : Policy := .standard
  demand : Settings.Demand := {}
  rate : Settings.Rate := {}
  ring : Settings.Ring := {}
deriving DecidableEq

namespace Settings

def positives (s : Settings) : List (PositiveSetting × UInt64) :=
  [(.tableSize, s.demand.maxSize), (.evictionSize, s.demand.pluckSize),
    (.reportThreshold, s.rate.reportThreshold), (.virtualNodes, s.ring.virtualNodes),
    (.groupSize, s.ring.groupSize)]

def check (s : Settings) : Except SettingError Unit := do
  match s.positives.find? fun p => p.2 == 0 with
  | some p => throw (.notPositive p.1)
  | none => pure ()
  let _ ← Duration.parse s.demand.reportInterval
  let _ ← Duration.parse s.rate.cooldown
  return ()

end Settings

end ServicePlacement
