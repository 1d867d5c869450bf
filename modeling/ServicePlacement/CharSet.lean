/-!
Sets of characters, given by the code points at which membership changes. Every Boolean combination
of two sets is one sweep over both lists. Runs of members begin and end with characters: surrogates
can only be inside a run.
-/
namespace ServicePlacement

/-- A set of characters. The code points below the first switch are outside, those from the first to
below the second inside, and so on; after the last switch they are outside again. -/
structure CharSet where
  switches : List Nat
deriving DecidableEq

namespace CharSet

def empty : CharSet := ⟨[]⟩

instance : Inhabited CharSet := ⟨empty⟩

def range (low high : Nat) : CharSet := if low ≤ high then ⟨[low, high + 1]⟩ else empty

def singleton (c : Char) : CharSet := range c.toNat c.toNat

def full : CharSet := range 0 0x10FFFF

def runsBetween : List Nat → List (Nat × Nat)
  | low :: next :: rest => (low, next - 1) :: runsBetween rest
  | _ => []

def runs (s : CharSet) : List (Nat × Nat) := runsBetween s.switches

def only? (s : CharSet) : Option Char :=
  match s.runs with
  | [(low, high)] => if low = high then some (Char.ofNat low) else none
  | _ => none

def insideAfter (inside : Bool) (n : Nat) : List Nat → Bool
  | [] => inside
  | x :: rest => if n < x then inside else insideAfter (!inside) n rest

def contains (s : CharSet) (c : Char) : Bool := insideAfter false c.toNat s.switches

/-- The switches of the combination `f` of two sets; `p` and `q` say what holds below the first
ones. -/
def sweep (f : Bool → Bool → Bool) (p q : Bool) : List Nat → List Nat → List Nat
  | [], [] => []
  | x :: xs, [] => if f p q == f (!p) q then sweep f (!p) q xs [] else x :: sweep f (!p) q xs []
  | [], y :: ys => if f p q == f p (!q) then sweep f p (!q) [] ys else y :: sweep f p (!q) [] ys
  | x :: xs, y :: ys =>
    if x < y then
      if f p q == f (!p) q then sweep f (!p) q xs (y :: ys) else x :: sweep f (!p) q xs (y :: ys)
    else if y < x then
      if f p q == f p (!q) then sweep f p (!q) (x :: xs) ys else y :: sweep f p (!q) (x :: xs) ys
    else
      if f p q == f (!p) (!q) then sweep f (!p) (!q) xs ys else x :: sweep f (!p) (!q) xs ys
termination_by xs ys => xs.length + ys.length

def trim : List Nat → List Nat
  | low :: next :: rest =>
    let low := if 0xD800 ≤ low && low < 0xE000 then 0xE000 else low
    let next := if 0xD800 < next && next ≤ 0xE000 then 0xD800 else next
    if low < next then low :: next :: trim rest else trim rest
  | _ => []

def union (s t : CharSet) : CharSet := ⟨sweep (· || ·) false false s.switches t.switches⟩

def inter (s t : CharSet) : CharSet := ⟨sweep (· && ·) false false s.switches t.switches⟩

def sdiff (s t : CharSet) : CharSet := ⟨trim (sweep (· && !·) false false s.switches t.switches)⟩

def symmDiff (s t : CharSet) : CharSet := ⟨trim (sweep xor false false s.switches t.switches)⟩

/-- Replace a run of just the surrogates by the one of the two characters beside them. -/
def bridge : List Nat → List Nat
  | low :: next :: rest =>
    if low = 0xD800 && next = 0xE000 then 0xD7FF :: 0xE001 :: bridge rest
    else low :: next :: bridge rest
  | switches => switches

/-- What is not in a set. Where the set has two runs with nothing but surrogates between them, the
characters beside the surrogates are in the set and in its complement. -/
def compl (s : CharSet) : CharSet :=
  ⟨trim (bridge (sweep (· && !·) false false full.switches s.switches))⟩

def unions (sets : List CharSet) : CharSet :=
  let rec join : Nat → List CharSet → CharSet
    | 0, sets => sets.foldl union empty
    | _ + 1, [] => empty
    | _ + 1, [s] => s
    | fuel + 1, sets => (join fuel (sets.take (sets.length / 2))).union
        (join fuel (sets.drop (sets.length / 2)))
  join sets.length sets

def ofChars (cs : List Char) : CharSet := unions (cs.map singleton)

def isAscii (s : CharSet) : Bool := s.switches.all (· ≤ 0x80)

/-- A set written as the distances between its switches: hexadecimal digits, of which the last one
of each number is a letter from `g` to `v`. Line breaks and spaces are skipped. -/
def ofDistances (text : String) : CharSet :=
  let step (state : List Nat × Nat × Nat) (c : Char) : List Nat × Nat × Nat :=
    let (before, last, number) := state
    let n := c.toNat
    if n < 48 then state
    else if n < 58 then (before, last, 16 * number + (n - 48))
    else if n < 103 then (before, last, 16 * number + (n - 87))
    else
      let switch := last + (16 * number + (n - 103))
      (switch :: before, switch, 0)
  ⟨(text.toList.foldl step ([], 0, 0)).1.reverse⟩

end CharSet

end ServicePlacement
