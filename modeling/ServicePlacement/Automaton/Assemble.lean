import ServicePlacement.Automaton.Chars
import ServicePlacement.Automaton.Words
import ServicePlacement.Pattern.Regex

/-!
Automata for regular expressions. An expression is worth an automaton if there is room for one that
finds where a match ends, and for one that goes back to where it begins.
-/
namespace ServicePlacement.Automaton

namespace Assembly

def copiesBehind (part : Assembly Fragment) (f : Fragment) : Nat → Assembly Fragment
  | 0 => return f
  | n + 1 => do
    let g ← part
    copiesBehind part (← connect f g) n

def copies (part : Assembly Fragment) : Nat → Assembly Fragment
  | 0 => pass
  | n + 1 => do
    let f ← part
    copiesBehind part f n

def optionalCopies (part : Assembly Fragment) (stop : Nat) (last : Nat) : Nat → Assembly Unit
  | 0 => link last stop
  | n + 1 => do
    let fork ← add (.fork [])
    let f ← part
    link last fork
    link fork f.start
    link fork stop
    optionalCopies part stop f.stop n

def optional (part : Assembly Fragment) : Assembly Fragment := do
  let fork ← add (.fork [])
  let f ← part
  let stop ← add (.pass 0)
  link fork f.start
  link fork stop
  link f.stop stop
  return ⟨fork, stop⟩

def readingRounds (part : Assembly Fragment) : Assembly Fragment := do
  let fork ← add (.fork [])
  let f ← part
  link fork f.start
  link f.stop fork
  return ⟨fork, fork⟩

def rounds (part : Assembly Fragment) : Assembly Fragment := do
  let f ← part
  let again ← add (.fork [])
  link f.stop again
  link again f.start
  let fork ← add (.fork [])
  let stop ← add (.pass 0)
  link fork f.start
  link fork stop
  link again stop
  return ⟨fork, stop⟩

def someRounds (part : Assembly Fragment) : Assembly Fragment := do
  let f ← part
  let again ← add (.fork [])
  link f.stop again
  link again f.start
  return ⟨f.start, again⟩

def boundedRounds (part : Assembly Fragment) (least more : Nat) : Assembly Fragment := do
  let f ← copies part least
  let stop ← add (.pass 0)
  optionalCopies part stop f.stop more
  return ⟨f.start, stop⟩

def repeated (part : Assembly Fragment) (reads : Bool) : Nat → Option Nat → Assembly Fragment
  | 0, none => if reads then readingRounds part else rounds part
  | 1, none => someRounds part
  | least + 1, none => do
    let f ← copies part least
    let g ← someRounds part
    connect f g
  | 0, some 1 => optional part
  | least, some most =>
    if least = most then copies part least else boundedRounds part least (most - least)

def enclosed (part : Assembly Fragment) : Assembly Fragment := do
  let first ← pass
  let f ← part
  let last ← pass
  connect (← connect first f) last

mutual

/-- A fragment for an expression. Going backwards, the sequences of the expression have been turned
around, and groups leave no trace. -/
def ofRegex (forwards : Bool) : Regex → Assembly Fragment
  | .empty => pass
  | .literal bytes => spell bytes
  | .chars set _ => character forwards set
  | .look l => single (.look l 0)
  | .repeated least most _ r =>
    repeated (ofRegex forwards r) (0 < r.extent.least.getD 0) least most
  | .capture _ r =>
    if forwards then enclosed (ofRegex forwards r) else ofRegex forwards r
  | .seq rs => ofSequence forwards rs
  | .alt rs =>
    match (Regex.alt rs).words? with
    | some words => oneOfWords words
    | none => ofChoice forwards rs

def ofSequence (forwards : Bool) : List Regex → Assembly Fragment
  | [] => pass
  | r :: rs => do
    let f ← ofRegex forwards r
    sequenceBehind forwards f rs

def sequenceBehind (forwards : Bool) (f : Fragment) : List Regex → Assembly Fragment
  | [] => return f
  | r :: rs => do
    let g ← ofRegex forwards r
    sequenceBehind forwards (← connect f g) rs

def ofChoice (forwards : Bool) : List Regex → Assembly Fragment
  | [] => single (.branch [])
  | [r] => ofRegex forwards r
  | r :: s :: rs => do
    let f ← ofRegex forwards r
    let g ← ofRegex forwards s
    let fork ← add (.fork [])
    let stop ← add (.pass 0)
    link fork f.start
    link f.stop stop
    link fork g.start
    link g.stop stop
    alternatives forwards ⟨fork, stop⟩ rs

def alternatives (forwards : Bool) (whole : Fragment) : List Regex → Assembly Fragment
  | [] => return whole
  | r :: rs => do
    let f ← ofRegex forwards r
    link whole.start f.start
    link f.stop whole.stop
    alternatives forwards whole rs

end

def anything : Assembly Fragment :=
  readingRounds do
    let stop ← add (.pass 0)
    let start ← add (.branch [⟨⟨0, 255⟩, stop⟩])
    return ⟨start, stop⟩

def search (forwards anchored : Bool) (r : Regex) : Assembly Nat := do
  let skipped ← if anchored then pass else anything
  let f ← if forwards then enclosed (ofRegex forwards r) else ofRegex forwards r
  let last ← add .accept
  link f.stop last
  link skipped.stop f.start
  return f.start

end Assembly

def sizeLimit : Nat := 10 * 1048576

def manyWords : Nat := 3000

def limitFor (r : Regex) : Option Nat :=
  match r.words? with
  | some words => if manyWords ≤ words.length then none else some sizeLimit
  | none => some sizeLimit

def ofRegex? (r : Regex) : Option Automaton := do
  let limit := limitFor r
  let (start, draft) ← (Assembly.search true r.extent.begins r).run { limit }
  let _ ← (Assembly.search false r.extent.ends r.backwards).run { limit }
  return { states := draft.states, start }

end ServicePlacement.Automaton
