import ServicePlacement.Net.IpAddress
import ServicePlacement.SortedSet

/-!
An address with a port, as in `10.0.0.1:2000` or `[fe80::1%2]:2000`. Endpoints are ordered:
four-octet addresses before the others, then by address, port and scope.
-/
namespace ServicePlacement

inductive Endpoint where
  | v4 (ip : Ipv4) (port : UInt16)
  | v6 (ip : Ipv6) (port : UInt16) (scope : UInt32)
deriving DecidableEq

namespace Endpoint

def ip : Endpoint → IpAddress
  | v4 ip _ => .v4 ip
  | v6 ip _ _ => .v6 ip

def readPort : Reader UInt16 := fun cs => do
  let cs ← readChar ':' cs
  let (n, rest) ← readNumber 10 none 65536 cs
  return (UInt16.ofNat n, rest)

def readScope (cs : List Char) : UInt32 × List Char :=
  match (readChar '%' cs).bind (readNumber 10 none 4294967296) with
  | some (n, rest) => (UInt32.ofNat n, rest)
  | none => (0, cs)

def readV4 : Reader Endpoint := fun cs => do
  let (ip, cs) ← Ipv4.read cs
  let (port, cs) ← readPort cs
  return (v4 ip port, cs)

def readV6 : Reader Endpoint := fun cs => do
  let cs ← readChar '[' cs
  let (ip, cs) ← Ipv6.read cs
  let (scope, cs) := readScope cs
  let cs ← readChar ']' cs
  let (port, cs) ← readPort cs
  return (v6 ip port scope, cs)

def parse? (s : String) : Option Endpoint :=
  match (readV4 s.toList).or (readV6 s.toList) with
  | some (e, []) => some e
  | _ => none

def chars : Endpoint → List Char
  | v4 ip port => ip.chars ++ ':' :: Text.toDecimal port.toNat
  | v6 ip port scope =>
    '[' :: ip.chars ++ (if scope = 0 then [] else '%' :: Text.toDecimal scope.toNat) ++
      ']' :: ':' :: Text.toDecimal port.toNat

def text (e : Endpoint) : String := String.ofList e.chars

def rank : Endpoint → Nat
  | v4 ip port => ip.rank * 65536 + port.toNat
  | v6 ip port scope =>
    281474976710656 + ((ip.rank * 65536 + port.toNat) * 4294967296 + scope.toNat)

theorem rank_inj {x y : Endpoint} (h : x.rank = y.rank) : x = y := by
  cases x with
  | v4 ip port =>
    have := port.toNat_lt
    cases y with
    | v4 ip' port' =>
      have := port'.toNat_lt
      simp only [rank] at h
      have hip : ip = ip' := Ipv4.rank_inj (by omega)
      have hport : port = port' := UInt16.toNat_inj.1 (by omega)
      rw [hip, hport]
    | v6 ip' port' scope' =>
      have := ip.rank_lt
      simp only [rank] at h
      omega
  | v6 ip port scope =>
    have := port.toNat_lt
    have := scope.toNat_lt
    cases y with
    | v4 ip' port' =>
      have := ip'.rank_lt
      have := port'.toNat_lt
      simp only [rank] at h
      omega
    | v6 ip' port' scope' =>
      have := port'.toNat_lt
      have := scope'.toNat_lt
      simp only [rank] at h
      have hip : ip = ip' := Ipv6.rank_inj (by omega)
      have hport : port = port' := UInt16.toNat_inj.1 (by omega)
      have hscope : scope = scope' := UInt32.toNat_inj.1 (by omega)
      rw [hip, hport, hscope]

instance : LT Endpoint := ⟨fun x y => x.rank < y.rank⟩

instance : LE Endpoint := ⟨fun x y => x.rank ≤ y.rank⟩

instance : DecidableLT Endpoint := fun x y => inferInstanceAs (Decidable (x.rank < y.rank))

instance : Std.IsLinearOrder Endpoint where
  le_refl x := Nat.le_refl x.rank
  le_trans _ _ _ := Nat.le_trans
  le_antisymm _ _ h h' := rank_inj (Nat.le_antisymm h h')
  le_total x y := Nat.le_total x.rank y.rank

instance : Std.LawfulOrderLT Endpoint where
  lt_iff _ _ := Nat.lt_iff_le_and_not_ge

end Endpoint

end ServicePlacement
