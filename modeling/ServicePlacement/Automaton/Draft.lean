import ServicePlacement.Pattern.Look
import ServicePlacement.Text.Utf8

/-!
Automata that read a text byte by byte, and drafts of them. A draft grows by one state at a time,
and its states are linked as they are needed. A draft takes up memory, and one that takes up more
than its limit is given up.
-/
namespace ServicePlacement

structure Automaton.Arc where
  bytes : Text.ByteRange
  next : Nat
deriving DecidableEq

inductive Automaton.State where
  | pass (next : Nat)
  | read (arc : Automaton.Arc)
  | branch (arcs : List Automaton.Arc)
  | look (l : Regex.Look) (next : Nat)
  | fork (targets : List Nat)
  | accept

structure Automaton where
  states : Array Automaton.State
  start : Nat

namespace Automaton

instance : Inhabited State := ⟨.accept⟩

def State.extra : State → Nat
  | branch arcs => 8 * arcs.length
  | fork targets => 4 * targets.length
  | _ => 0

def State.linkedTo (target : Nat) : State → State
  | pass _ => pass target
  | read arc => read { arc with next := target }
  | branch arcs => branch arcs
  | look l _ => look l target
  | fork targets => fork (target :: targets)
  | accept => accept

structure Draft where
  states : Array State := #[]
  extra : Nat := 0
  limit : Option Nat

namespace Draft

def size (d : Draft) : Nat := 32 * d.states.size + d.extra

def kept? (d : Draft) : Option Draft :=
  match d.limit with
  | none => some d
  | some limit => if d.size ≤ limit then some d else none

end Draft

abbrev Assembly := StateT Draft Option

namespace Assembly

def add (s : State) : Assembly Nat := fun d =>
  let number := d.states.size
  match { d with states := d.states.push s, extra := d.extra + s.extra : Draft }.kept? with
  | some d => some (number, d)
  | none => none

def link (source target : Nat) : Assembly Unit := fun d =>
  let more := match d.states[source]? with
    | some (.fork _) => 4
    | _ => 0
  let states := d.states.modify source (·.linkedTo target)
  match { d with states, extra := d.extra + more : Draft }.kept? with
  | some d => some ((), d)
  | none => none

end Assembly

structure Fragment where
  start : Nat
  stop : Nat

namespace Assembly

def single (s : State) : Assembly Fragment := do
  let number ← add s
  return ⟨number, number⟩

def pass : Assembly Fragment := single (.pass 0)

def connect (f g : Fragment) : Assembly Fragment := do
  link f.stop g.start
  return ⟨f.start, g.stop⟩

def spellBehind (f : Fragment) : List UInt8 → Assembly Fragment
  | [] => return f
  | byte :: bytes => do
    let g ← single (.read ⟨⟨byte, byte⟩, 0⟩)
    spellBehind (← connect f g) bytes

def spell : List UInt8 → Assembly Fragment
  | [] => pass
  | byte :: bytes => do
    let f ← single (.read ⟨⟨byte, byte⟩, 0⟩)
    spellBehind f bytes

end Assembly

end Automaton

end ServicePlacement
