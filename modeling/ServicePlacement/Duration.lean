import ServicePlacement.SettingError
import ServicePlacement.Text.Blank
import ServicePlacement.Text.Digits

/-!
Durations in whole milliseconds, and their text: a number with an optional unit, white space around
either. A duration is below 2^64 milliseconds.
-/
namespace ServicePlacement

structure Duration where
  millis : UInt64
deriving DecidableEq

namespace Duration

/-- Split off the unit at the end of a text; the unit is given by its length in milliseconds, and a
text without one counts seconds. -/
def splitUnit (cs : List Char) : List Char × Nat :=
  match cs.reverse with
  | 's' :: 'm' :: rest => (rest.reverse, 1)
  | 's' :: rest => (rest.reverse, 1000)
  | 'm' :: rest => (rest.reverse, 60000)
  | 'h' :: rest => (rest.reverse, 3600000)
  | _ => (cs, 1000)

def ofTrimmed? (cs : List Char) : Option Duration := do
  let (digits, unit) := splitUnit cs
  let value ← Text.word? 18446744073709551616 (Text.trim digits)
  if value * unit < 18446744073709551616 then some ⟨UInt64.ofNat (value * unit)⟩ else none

def parse (s : String) : Except SettingError Duration :=
  let cs := Text.trim s.toList
  match ofTrimmed? cs with
  | some d => .ok d
  | none => .error (.badDuration (String.ofList cs))

end Duration

end ServicePlacement
