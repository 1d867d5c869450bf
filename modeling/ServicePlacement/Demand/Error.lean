import ServicePlacement.Cluster
import ServicePlacement.Decimal.Shortest
import ServicePlacement.SettingError

/-!
What can go wrong when demand is merged, restored or set up, and how it is said.
-/
namespace ServicePlacement

inductive DemandError where
  | unknownProfile (kind : String)
  | invalidPattern (pattern : String)
  | nameMismatch (expected found : ServiceName)
  | kindMismatch (expected found : String)
  | malformed (name : ServiceName)
  | badGap (name : ServiceName) (gap : Float)
  | badSetting (cause : SettingError)

namespace DemandError

def gapStyle : Decimal.Style := ⟨none, none, "", ""⟩

def message? : DemandError → Option String
  | unknownProfile kind => some ("unknown demand profile: " ++ kind)
  | nameMismatch expected found =>
    some ("cannot combine profile for " ++ found ++ " into profile for " ++ expected)
  | kindMismatch expected found =>
    some ("cannot combine " ++ found ++ " stats into a " ++ expected ++ " profile")
  | badGap name gap =>
    some ("malformed demand stats for " ++ name ++
      ": inter_arrival_ms must be finite and non-negative, got " ++
      String.ofList (gapStyle.text gap))
  | badSetting cause => some ("configuration error: " ++ cause.message)
  | invalidPattern _ => none
  | malformed _ => none

end DemandError

end ServicePlacement
