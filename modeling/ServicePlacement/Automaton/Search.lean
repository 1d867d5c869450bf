import ServicePlacement.Automaton.Draft

/-!
Whether an automaton accepts some part of a text. At every place all states are known that can be
reached, and a part may begin at each place between two characters; the text is read once.
-/
namespace ServicePlacement.Automaton

namespace State

/-- The states behind a state that can be reached without reading; inside a character no condition
on the place holds. -/
def onward (place : Option Regex.Place) : State → List Nat
  | pass next => [next]
  | look l next => if place.any l.holds then [next] else []
  | fork targets => targets
  | _ => []

def reading? (byte : UInt8) : State → Option Nat
  | read arc => if arc.bytes.contains byte then some arc.next else none
  | branch arcs => (arcs.find? (·.bytes.contains byte)).map (·.next)
  | _ => none

end State

/-- What is known at a place: the round in which each state was visited last, the states of this
round that wait for a byte, and whether a part of the text has been accepted. -/
structure Front where
  round : Nat := 0
  visited : Array Nat
  waiting : List State := []
  accepted : Bool := false

def visit (a : Automaton) (place : Option Regex.Place) (reached : Front × List Nat)
    (number : Nat) : Front × List Nat :=
  let (f, next) := reached
  if f.visited[number]? == some f.round then (f, next)
  else
    let f := { f with visited := f.visited.setIfInBounds number f.round }
    match a.states[number]? with
    | none => (f, next)
    | some .accept => ({ f with accepted := true }, next)
    | some (.read arc) => ({ f with waiting := .read arc :: f.waiting }, next)
    | some (.branch arcs) => ({ f with waiting := .branch arcs :: f.waiting }, next)
    | some s => (f, s.onward place ++ next)

/-- Visit states and all that can be reached from them without reading. Every step but the last
visits a new state, so that there are no more of them than states. -/
def spread (a : Automaton) (place : Option Regex.Place) : Nat → Front → List Nat → Front
  | 0, f, _ => f
  | fuel + 1, f, numbers =>
    match numbers.foldl (a.visit place) (f, []) with
    | (f, []) => f
    | (f, next) => spread a place fuel f next

def nextRound (a : Automaton) (place : Option Regex.Place) (f : Front) (numbers : List Nat) :
    Front :=
  a.spread place (a.states.size + 1) { f with round := f.round + 1, waiting := [] } numbers

def Front.reading (f : Front) (byte : UInt8) : List Nat := f.waiting.filterMap (·.reading? byte)

def readBytes (a : Automaton) (f : Front) : List UInt8 → Front × List Nat
  | [] => (f, [])
  | [byte] => (f, f.reading byte)
  | byte :: bytes => a.readBytes (a.nextRound none f (f.reading byte)) bytes

def acceptsFrom (a : Automaton) (f : Front) (begun : List Nat) (before : Option Char) :
    List Char → Bool
  | [] => (a.nextRound (some ⟨before, none⟩) f (a.start :: begun)).accepted
  | c :: rest =>
    let f := a.nextRound (some ⟨before, some c⟩) f (a.start :: begun)
    if f.accepted then true
    else
      let (f, begun) := a.readBytes f (Text.utf8 c)
      a.acceptsFrom f begun (some c) rest

def isMatch (a : Automaton) (s : String) : Bool :=
  a.acceptsFrom { visited := .replicate a.states.size 0 } [] none s.toList

end ServicePlacement.Automaton
