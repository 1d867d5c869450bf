import ServicePlacement.Net.IpAddress
import ServicePlacement.Saturating
import ServicePlacement.SortedMap

/-!
How often each sender has asked for a name. The table is cut to the most frequent senders; of
equally frequent ones the one with the least text goes first.
-/
namespace ServicePlacement.Demand

abbrev Senders := SortedMap String UInt64

namespace Senders

def count (s : Senders) (sender : String) (n : UInt64) : Senders :=
  s.alter sender fun old => some (satAdd (old.getD 0) n)

def merge (s t : Senders) : Senders := t.entries.foldl (fun s e => s.count e.1 e.2) s

def leastOf (best : String × UInt64) : List (String × UInt64) → String × UInt64
  | [] => best
  | e :: rest => leastOf (if e.2 < best.2 then e else best) rest

def leastFrequent? (s : Senders) : Option String :=
  match s.entries with
  | [] => none
  | e :: rest => some (leastOf e rest).1

def dropLeast (s : Senders) : Senders :=
  match s.leastFrequent? with
  | some sender => s.erase sender
  | none => s

def dropTimes : Nat → Senders → Senders
  | 0, s => s
  | n + 1, s => dropTimes n s.dropLeast

def bound (most : Nat) (s : Senders) : Senders := dropTimes (s.size - most) s

/-- The addresses of the senders, the most frequent first and equally frequent ones by their texts;
texts that are no addresses are left out. -/
def ranked (s : Senders) : List IpAddress :=
  (s.entries.mergeSort fun a b => b.2 ≤ a.2).filterMap fun e => IpAddress.parse? e.1

end Senders

end ServicePlacement.Demand
