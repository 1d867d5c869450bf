/-!
What can be wrong with a setting, and how it is said.
-/
namespace ServicePlacement

inductive PositiveSetting where
  | tableSize
  | evictionSize
  | reportThreshold
  | virtualNodes
  | groupSize
deriving DecidableEq

def PositiveSetting.path : PositiveSetting → String
  | tableSize => "demand.max_size"
  | evictionSize => "demand.pluck_size"
  | reportThreshold => "request_rate.report_threshold"
  | virtualNodes => "partition.virtual_nodes"
  | groupSize => "partition.rc_group_size"

inductive SettingError where
  | notPositive (setting : PositiveSetting)
  | badDuration (text : String)
  | unknownPolicy (name : String)
deriving DecidableEq

def SettingError.message : SettingError → String
  | notPositive setting => "invalid configuration: " ++ setting.path ++ " must be positive"
  | badDuration text => "invalid duration: " ++ text
  | unknownPolicy name => "unknown reconfiguration policy: " ++ name

end ServicePlacement
