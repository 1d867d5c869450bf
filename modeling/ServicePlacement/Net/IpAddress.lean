import ServicePlacement.Text.Digits

/-!
Internet addresses and their text: four decimal octets, or eight hexadecimal groups of which the
longest run of zeros is left out. The text of an address that stands for a four-octet one shows the
octets.
-/
namespace ServicePlacement

structure Ipv4 where
  a : UInt8
  b : UInt8
  c : UInt8
  d : UInt8
deriving DecidableEq

structure Ipv6 where
  a : UInt16
  b : UInt16
  c : UInt16
  d : UInt16
  e : UInt16
  f : UInt16
  g : UInt16
  h : UInt16
deriving DecidableEq

inductive IpAddress where
  | v4 (ip : Ipv4)
  | v6 (ip : Ipv6)
deriving DecidableEq

abbrev Reader (α : Type) := List Char → Option (α × List Char)

def readNumber (base : Nat) (most : Option Nat) (bound : Nat) : Reader Nat := fun cs => do
  let digits := cs.takeWhile (Text.isDigitOf base)
  if most.any fun m => decide (m < digits.length) then none
  else
    let n ← Text.ofDigits? base digits
    if n < bound then some (n, cs.dropWhile (Text.isDigitOf base)) else none

def readChar (c : Char) (cs : List Char) : Option (List Char) :=
  match cs with
  | x :: rest => if x == c then some rest else none
  | [] => none

namespace Ipv4

def readOctet : Reader UInt8 := fun cs =>
  match cs with
  | '0' :: c :: _ => if Text.isDigit c then none else some (0, cs.drop 1)
  | _ => do
    let (n, rest) ← readNumber 10 (some 3) 256 cs
    return (UInt8.ofNat n, rest)

def read : Reader Ipv4 := fun cs => do
  let (a, cs) ← readOctet cs
  let cs ← readChar '.' cs
  let (b, cs) ← readOctet cs
  let cs ← readChar '.' cs
  let (c, cs) ← readOctet cs
  let cs ← readChar '.' cs
  let (d, cs) ← readOctet cs
  return (⟨a, b, c, d⟩, cs)

def chars (ip : Ipv4) : List Char :=
  let octet (n : UInt8) := Text.toDecimal n.toNat
  octet ip.a ++ '.' :: octet ip.b ++ '.' :: octet ip.c ++ '.' :: octet ip.d

def rank (ip : Ipv4) : Nat :=
  ((ip.a.toNat * 256 + ip.b.toNat) * 256 + ip.c.toNat) * 256 + ip.d.toNat

theorem rank_lt (ip : Ipv4) : ip.rank < 4294967296 := by
  have := ip.a.toNat_lt
  have := ip.b.toNat_lt
  have := ip.c.toNat_lt
  have := ip.d.toNat_lt
  simp only [rank]
  omega

theorem rank_inj {x y : Ipv4} (h : x.rank = y.rank) : x = y := by
  cases x with
  | mk a b c d =>
    cases y with
    | mk a' b' c' d' =>
      have := b.toNat_lt
      have := c.toNat_lt
      have := d.toNat_lt
      have := b'.toNat_lt
      have := c'.toNat_lt
      have := d'.toNat_lt
      simp only [rank] at h
      simp only [mk.injEq, ← UInt8.toNat_inj]
      omega

end Ipv4

namespace Ipv6

def groups (ip : Ipv6) : List UInt16 := [ip.a, ip.b, ip.c, ip.d, ip.e, ip.f, ip.g, ip.h]

def ofGroups? : List UInt16 → Option Ipv6
  | [a, b, c, d, e, f, g, h] => some ⟨a, b, c, d, e, f, g, h⟩
  | _ => none

/-- What could be read as groups: the groups, whether the last two came from four octets, the rest.
-/
structure Part where
  groups : List UInt16
  endsInOctets : Bool
  rest : List Char

/-- Read groups with colons between them, at most as many as there is room for. Two groups may be
written as four octets, which ends the part. -/
def readGroups : Nat → Bool → List Char → Part
  | 0, _, cs => ⟨[], false, cs⟩
  | room + 1, first, cs =>
    match if first then some cs else readChar ':' cs with
    | none => ⟨[], false, cs⟩
    | some body =>
      match if room = 0 then none else Ipv4.read body with
      | some (ip, rest) =>
        ⟨[ip.a.toUInt16 * 256 + ip.b.toUInt16, ip.c.toUInt16 * 256 + ip.d.toUInt16], true, rest⟩
      | none =>
        match readNumber 16 (some 4) 65536 body with
        | some (n, rest) =>
          let more := readGroups room false rest
          { more with groups := UInt16.ofNat n :: more.groups }
        | none => ⟨[], false, cs⟩

def read : Reader Ipv6 := fun cs => do
  let head := readGroups 8 true cs
  if head.groups.length = 8 then
    let ip ← ofGroups? head.groups
    return (ip, head.rest)
  else if head.endsInOctets then none
  else
    let cs ← readChar ':' head.rest
    let cs ← readChar ':' cs
    let tail := readGroups (7 - head.groups.length) true cs
    let zeros := List.replicate (8 - head.groups.length - tail.groups.length) 0
    let ip ← ofGroups? (head.groups ++ zeros ++ tail.groups)
    return (ip, tail.rest)

structure Run where
  start : Nat
  length : Nat

/-- The longest run of zeros, the first one of equal length, with the run that is going on at
`index`. -/
def longestRun : Nat → Run → Run → List UInt16 → Run
  | _, _, best, [] => best
  | index, current, best, x :: rest =>
    if x = 0 then
      let current : Run :=
        if current.length = 0 then ⟨index, 1⟩ else ⟨current.start, current.length + 1⟩
      longestRun (index + 1) current (if best.length < current.length then current else best) rest
    else longestRun (index + 1) ⟨0, 0⟩ best rest

def groupChars (n : UInt16) : List Char := Nat.toDigits 16 n.toNat

def joined : List UInt16 → List Char
  | [] => []
  | [x] => groupChars x
  | x :: rest => groupChars x ++ ':' :: joined rest

def mapped? (ip : Ipv6) : Option Ipv4 :=
  if ip.a = 0 ∧ ip.b = 0 ∧ ip.c = 0 ∧ ip.d = 0 ∧ ip.e = 0 ∧ ip.f = 0xFFFF then
    some ⟨(ip.g / 256).toUInt8, (ip.g % 256).toUInt8, (ip.h / 256).toUInt8, (ip.h % 256).toUInt8⟩
  else none

def chars (ip : Ipv6) : List Char :=
  match ip.mapped? with
  | some ip => "::ffff:".toList ++ ip.chars
  | none =>
    let run := longestRun 0 ⟨0, 0⟩ ⟨0, 0⟩ ip.groups
    if 1 < run.length then
      joined (ip.groups.take run.start) ++ ':' :: ':' ::
        joined (ip.groups.drop (run.start + run.length))
    else joined ip.groups

def rank (ip : Ipv6) : Nat := ip.groups.foldl (fun n x => n * 65536 + x.toNat) 0

theorem rank_lt (ip : Ipv6) : ip.rank < 340282366920938463463374607431768211456 := by
  have := ip.a.toNat_lt
  have := ip.b.toNat_lt
  have := ip.c.toNat_lt
  have := ip.d.toNat_lt
  have := ip.e.toNat_lt
  have := ip.f.toNat_lt
  have := ip.g.toNat_lt
  have := ip.h.toNat_lt
  simp only [rank, groups, List.foldl_cons, List.foldl_nil]
  omega

theorem rank_inj {x y : Ipv6} (h : x.rank = y.rank) : x = y := by
  cases x with
  | mk a b c d e f g h' =>
    cases y with
    | mk a' b' c' d' e' f' g' h'' =>
      have := b.toNat_lt
      have := c.toNat_lt
      have := d.toNat_lt
      have := e.toNat_lt
      have := f.toNat_lt
      have := g.toNat_lt
      have := h'.toNat_lt
      have := b'.toNat_lt
      have := c'.toNat_lt
      have := d'.toNat_lt
      have := e'.toNat_lt
      have := f'.toNat_lt
      have := g'.toNat_lt
      have := h''.toNat_lt
      simp only [rank, groups, List.foldl_cons, List.foldl_nil] at h
      simp only [mk.injEq, ← UInt16.toNat_inj]
      omega

end Ipv6

namespace IpAddress

def read : Reader IpAddress := fun cs =>
  match Ipv4.read cs with
  | some (ip, rest) => some (v4 ip, rest)
  | none => (Ipv6.read cs).map fun (ip, rest) => (v6 ip, rest)

def parse? (s : String) : Option IpAddress :=
  match read s.toList with
  | some (ip, []) => some ip
  | _ => none

def chars : IpAddress → List Char
  | v4 ip => ip.chars
  | v6 ip => ip.chars

def text (ip : IpAddress) : String := String.ofList ip.chars

end IpAddress

end ServicePlacement
