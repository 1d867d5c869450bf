import ServicePlacement.Automaton.Draft
import ServicePlacement.Automaton.Recent

/-!
Fragments that read one character of a set. Forwards, the byte sequences of the set are a tree, and
equal subtrees are made once as long as they are remembered. Backwards, each sequence is a chain of
its own, and chains that end alike share their ends.
-/
namespace ServicePlacement.Automaton.Assembly

open Text

def asciiCharacter (s : CharSet) : Assembly Fragment := do
  let stop ← add (.pass 0)
  let arcs := s.runs.map fun (low, high) => (⟨⟨low.toUInt8, high.toUInt8⟩, stop⟩ : Arc)
  let start ← add (.branch arcs)
  return ⟨start, stop⟩

def keyOf (arcs : List Arc) : List Nat :=
  arcs.flatMap fun arc => [arc.bytes.low.toNat, arc.bytes.high.toNat, arc.next]

def shared (arcs : List Arc) (seen : Recent) : Assembly (Nat × Recent) := do
  let key := keyOf arcs
  match seen.find? key with
  | some state => return (state, seen)
  | none =>
    let state ← add (.branch arcs)
    return (state, seen.insert key state)

/-- The state from which byte sequences lead to `stop`. They are in ascending order and have at most
as many bytes as there are units of fuel. -/
def tree (stop : Nat) : Nat → List (List ByteRange) → Recent → Assembly (Nat × Recent)
  | 0, _, seen => return (stop, seen)
  | fuel + 1, sequences, seen => do
    if sequences.all (·.isEmpty) then return (stop, seen)
    let groups := sequences.splitBy (fun a b => a.head? == b.head?)
    let (arcs, seen) ← groups.foldlM (fun (arcs, seen) group => do
      let (next, seen) ← tree stop fuel (group.map List.tail) seen
      return ((⟨(group.headD []).headD default, next⟩ : Arc) :: arcs, seen)) ([], seen)
    shared arcs.reverse seen

def readBefore (next : Nat) (seen : Recent) (bytes : ByteRange) : Assembly (Nat × Recent) := do
  let key := [next, bytes.low.toNat, bytes.high.toNat]
  match seen.find? key with
  | some state => return (state, seen)
  | none =>
    let state ← add (.read ⟨bytes, next⟩)
    return (state, seen.insert key state)

def chains (sequences : List (List ByteRange)) : Assembly Fragment := do
  let fork ← add (.fork [])
  let stop ← add (.pass 0)
  let _ ← sequences.foldlM (fun (seen : Recent) sequence => do
    let (first, seen) ← sequence.foldlM (fun (next, seen) bytes => readBefore next seen bytes)
      (stop, seen)
    link fork first
    return seen) { places := 1000 }
  return ⟨fork, stop⟩

def character (forwards : Bool) (s : CharSet) : Assembly Fragment := do
  if s.isAscii then asciiCharacter s
  else
    let sequences := s.runs.flatMap byteSequences
    if forwards then
      let stop ← add (.pass 0)
      let (start, _) ← tree stop 5 sequences { places := 10000 }
      return ⟨start, stop⟩
    else chains sequences

end ServicePlacement.Automaton.Assembly
