import ServicePlacement.Pattern.Look
import ServicePlacement.Text.Utf8

/-!
Regular expressions, and how they are put together. Sequences and choices are flat and as short as
possible: literals that stand side by side are one, a choice between characters is a set, and what
all alternatives begin with stands before the choice.
-/
namespace ServicePlacement

inductive Regex where
  | empty
  | literal (bytes : List UInt8)
  | chars (set : CharSet) (unicode : Bool)
  | look (l : Regex.Look)
  | repeated (least : Nat) (most : Option Nat) (greedy : Bool) (r : Regex)
  | capture (index : Nat) (r : Regex)
  | seq (rs : List Regex)
  | alt (rs : List Regex)

namespace Regex

instance : Inhabited Regex := ⟨empty⟩

mutual

def same : Regex → Regex → Bool
  | empty, empty => true
  | literal a, literal b => a == b
  | chars s u, chars t v => s == t && u == v
  | look l, look m => l == m
  | repeated a b g r, repeated c d h s => a == c && b == d && g == h && same r s
  | capture i r, capture j s => i == j && same r s
  | seq rs, seq ss => sameAll rs ss
  | alt rs, alt ss => sameAll rs ss
  | _, _ => false

def sameAll : List Regex → List Regex → Bool
  | [], [] => true
  | r :: rs, s :: ss => same r s && sameAll rs ss
  | _, _ => false

end

/-- How many bytes an expression matches at least and at most, as far as that is known, and whether
every match begins or ends where the text does. -/
structure Extent where
  least : Option Nat
  most : Option Nat
  begins : Bool := false
  ends : Bool := false

namespace Extent

def exactly (n : Nat) : Extent := { least := some n, most := some n }

def ofSet (s : CharSet) : Extent :=
  match s.runs with
  | [] => { least := none, most := none }
  | (low, high) :: rest =>
    let last := (rest.getLastD (low, high)).2
    { least := some (Text.utf8 (Char.ofNat low)).length,
      most := some (Text.utf8 (Char.ofNat last)).length }

def both (f : Nat → Nat → Nat) : Option Nat → Option Nat → Option Nat
  | some a, some b => some (f a b)
  | _, _ => none

/-- One expression behind another. What is behind a match that is not empty is not at the beginning
of the text. -/
def followedBy (a b : Extent) : Extent where
  least := both (· + ·) a.least b.least
  most := both (· + ·) a.most b.most
  begins := a.begins || (a.most == some 0 && b.begins)
  ends := b.ends || (b.most == some 0 && a.ends)

def or (a b : Extent) : Extent where
  least := both min a.least b.least
  most := both max a.most b.most
  begins := a.begins && b.begins
  ends := a.ends && b.ends

def repeated (e : Extent) (least : Nat) (most : Option Nat) : Extent where
  least := e.least.map (least * ·)
  most := both (· * ·) most e.most
  begins := 0 < least && e.begins
  ends := 0 < least && e.ends

end Extent

mutual

def extent : Regex → Extent
  | empty => .exactly 0
  | literal bytes => .exactly bytes.length
  | chars set _ => .ofSet set
  | look l => { Extent.exactly 0 with begins := l == .textStart, ends := l == .textEnd }
  | repeated least most _ r => r.extent.repeated least most
  | capture _ r => r.extent
  | seq rs => extentOfSeq (.exactly 0) rs
  | alt rs => extentOfAlt none rs

def extentOfSeq (e : Extent) : List Regex → Extent
  | [] => e
  | r :: rs => extentOfSeq (e.followedBy r.extent) rs

def extentOfAlt (e : Option Extent) : List Regex → Extent
  | [] => e.getD (.ofSet .empty)
  | r :: rs => extentOfAlt (some ((e.map (·.or r.extent)).getD r.extent)) rs

end

mutual

def size : Regex → Nat
  | repeated _ _ _ r => r.size + 1
  | capture _ r => r.size + 1
  | seq rs => sizeOfAll 1 rs
  | alt rs => sizeOfAll 1 rs
  | _ => 1

def sizeOfAll (n : Nat) : List Regex → Nat
  | [] => n
  | r :: rs => sizeOfAll (n + r.size) rs

end

def oneOf (set : CharSet) (unicode : Bool) : Regex :=
  if set.switches.isEmpty then chars .empty false
  else match set.only? with
    | some c => literal (Text.utf8 c)
    | none => chars set unicode

def items : Regex → List Regex
  | empty => []
  | seq rs => rs
  | r => [r]

def before : Regex → List Regex → List Regex
  | literal a, literal b :: rs => literal (a ++ b) :: rs
  | r, rs => r :: rs

def ofItems : List Regex → Regex
  | [] => empty
  | [r] => r
  | rs => seq rs

def inSequence (rs : List Regex) : Regex := ofItems ((rs.flatMap items).foldr before [])

def times (least : Nat) (most : Option Nat) (greedy : Bool) (r : Regex) : Regex :=
  let (least, most) :=
    if r.extent.most == some 0 then (min least 1, some ((most.map (min · 1)).getD 1))
    else (least, most)
  if least == 0 && most == some 0 then empty
  else if least == 1 && most == some 1 then r
  else repeated least most greedy r

def alternatives : Regex → List Regex
  | alt rs => rs
  | r => [r]

def character? : Regex → Option CharSet
  | literal bytes =>
    match (String.fromUTF8? ⟨bytes.toArray⟩).map String.toList with
    | some [c] => some (.singleton c)
    | _ => none
  | _ => none

def set? : Regex → Option CharSet
  | chars set _ => some set
  | _ => none

def sharedLength : List Regex → List Regex → Nat
  | r :: rs, s :: ss => if same r s then sharedLength rs ss + 1 else 0
  | _, _ => 0

def sharedItems : List Regex → Nat
  | seq first :: rest =>
    rest.foldl (fun n r => match r with
      | seq rs => min n (sharedLength first rs)
      | _ => 0) first.length
  | _ => 0

/-- One of some expressions. Each unit of fuel is for an item that all of them begin with. -/
def choiceWithin (fuel : Nat) (rs : List Regex) : Regex :=
  match rs.flatMap alternatives with
  | [] => chars .empty false
  | [r] => r
  | rs =>
    match rs.mapM character? <|> rs.mapM set? with
    | some sets => oneOf (.unions sets) true
    | none =>
      match fuel, sharedItems rs with
      | fuel + 1, n + 1 =>
        let shared := (rs.headD empty).items.take (n + 1)
        let rests := rs.map fun r => ofItems (r.items.drop (n + 1))
        inSequence (shared ++ [choiceWithin fuel rests])
      | _, _ => alt rs

def choice (rs : List Regex) : Regex := choiceWithin (sizeOfAll 0 rs) rs

mutual

/-- The expression for the same matches with their bytes in reverse, where the bytes of a character
in a set stay as they are. -/
def backwards : Regex → Regex
  | literal bytes => literal bytes.reverse
  | repeated least most greedy r => repeated least most greedy r.backwards
  | capture index r => capture index r.backwards
  | seq rs => seq (backwardsOnto [] rs)
  | alt rs => alt (backwardsOnto [] rs).reverse
  | empty => empty
  | chars set unicode => chars set unicode
  | look l => look l

def backwardsOnto (done : List Regex) : List Regex → List Regex
  | [] => done
  | r :: rs => backwardsOnto (r.backwards :: done) rs

end

def word? : Regex → Option (List UInt8)
  | literal bytes => some bytes
  | _ => none

def words? : Regex → Option (List (List UInt8))
  | alt rs => rs.mapM word?
  | _ => none

end Regex

end ServicePlacement
