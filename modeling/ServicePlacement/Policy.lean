import ServicePlacement.SettingError

/-!
The policy that a created service follows when the set of active replicas changes, and the default
that a process can set once.
-/
namespace ServicePlacement

inductive Policy where
  | standard
  | replicateAll
deriving DecidableEq

namespace Policy

instance : Inhabited Policy := ⟨standard⟩

def text : Policy → String
  | standard => "DEFAULT"
  | replicateAll => "REPLICATE_ALL"

def ofText? : String → Option Policy
  | "DEFAULT" => some standard
  | "REPLICATE_ALL" => some replicateAll
  | _ => none

def parse (s : String) : Except SettingError Policy :=
  match ofText? s with
  | some p => .ok p
  | none => .error (.unknownPolicy s)

theorem ofText?_text (p : Policy) : ofText? p.text = some p := by
  cases p <;> rfl

abbrev Installed := Option Policy

/-- Install a default; only the first one counts, and the answer says whether this was it. -/
def install (cell : Installed) (p : Policy) : Bool × Installed :=
  match cell with
  | none => (true, some p)
  | some _ => (false, cell)

def inForce (cell : Installed) : Policy := cell.getD standard

end Policy

end ServicePlacement
