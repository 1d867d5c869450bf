import Std.Data.HashMap

/-!
Numbers that have been stored under keys. There is one place for all keys with the same remainder of
their hash, and a new key takes the place of the old one.
-/
namespace ServicePlacement.Automaton

structure Recent where
  places : Nat
  held : Std.HashMap Nat (List Nat × Nat) := {}

namespace Recent

def hash (key : List Nat) : UInt64 :=
  key.foldl (fun h n => (h ^^^ n.toUInt64) * 1099511628211) 14695981039346656037

def placeOf (r : Recent) (key : List Nat) : Nat := (hash key).toNat % r.places

def find? (r : Recent) (key : List Nat) : Option Nat :=
  match r.held[r.placeOf key]? with
  | some (other, number) => if other = key then some number else none
  | none => none

def insert (r : Recent) (key : List Nat) (number : Nat) : Recent :=
  { r with held := r.held.insert (r.placeOf key) (key, number) }

end Recent

end ServicePlacement.Automaton
