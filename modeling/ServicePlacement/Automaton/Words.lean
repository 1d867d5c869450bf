import ServicePlacement.Automaton.Draft

/-!
Fragments that read one of some words. The words are a tree, in which they part where their bytes
differ. Where a word ends at which others go on, the ones before it and the ones behind it are apart,
so that the words stay in order.
-/
namespace ServicePlacement.Automaton.Assembly

abbrev Word := List UInt8

def sharedStart : List Word → Word
  | [] => []
  | first :: rest => rest.foldl (fun shared word => commonPrefix shared word) first
where
  commonPrefix : Word → Word → Word
    | a :: as, b :: bs => if a = b then a :: commonPrefix as bs else []
    | _, _ => []

def joinLeading : List Word → List Word
  | [] :: [] :: rest => joinLeading ([] :: rest)
  | words => words

def runs (words : List Word) : List (List Word) :=
  let (first, rest) := (joinLeading words).foldr (fun word (first, rest) =>
    if word.isEmpty then ([], first :: rest) else (word :: first, rest)) ([], [])
  first :: rest

def byFirst (words : List Word) : List (UInt8 × List Word) :=
  let ordered := words.mergeSort fun v w => v.headD 0 ≤ w.headD 0
  (ordered.splitBy fun v w => v.head? == w.head?).map fun group =>
    ((group.headD []).headD 0, group.map List.tail)

def spellBefore (next : Nat) (bytes : Word) : Assembly Nat :=
  bytes.reverse.foldlM (fun next byte => do
    let state ← add (.read ⟨⟨byte, byte⟩, next⟩)
    add (.fork [state])) next

def reader : List Arc → Assembly Nat
  | [arc] => add (.read arc)
  | arcs => add (.branch arcs)

def wordTree (stop : Nat) : Nat → List Word → Assembly Nat
  | 0, _ => return stop
  | fuel + 1, words => do
    let shared := sharedStart words
    let rests := words.map (·.drop shared.length)
    if rests.all (·.isEmpty) then spellBefore stop shared
    else
      let starts ← (runs rests).mapM fun run => do
        let arcs ← (byFirst run).mapM fun (byte, rests) => do
          return (⟨⟨byte, byte⟩, ← wordTree stop fuel rests⟩ : Arc)
        if arcs.isEmpty then return []
        else return [← reader arcs]
      let parting ← add (.fork (List.intercalate [stop] starts))
      spellBefore parting shared

def oneOfWords (words : List Word) : Assembly Fragment := do
  let stop ← add (.pass 0)
  let longest := (words.map List.length).foldl max 0
  let start ← wordTree stop (longest + 1) words
  return ⟨start, stop⟩

end ServicePlacement.Automaton.Assembly
