/-!
Addition and subtraction of words that stop at the ends of their range. `toNat_satAdd` and
`toNat_satSub` say what they do to the numbers.
-/
namespace ServicePlacement

def satAdd (a b : UInt64) : UInt64 := UInt64.ofNat (min (a.toNat + b.toNat) 18446744073709551615)

def satSub (a b : UInt64) : UInt64 := UInt64.ofNat (a.toNat - b.toNat)

@[simp] theorem toNat_satAdd (a b : UInt64) :
    (satAdd a b).toNat = min (a.toNat + b.toNat) 18446744073709551615 := by
  unfold satAdd
  rw [UInt64.toNat_ofNat', Nat.mod_eq_of_lt (by omega)]

@[simp] theorem toNat_satSub (a b : UInt64) : (satSub a b).toNat = a.toNat - b.toNat := by
  have := a.toNat_lt
  unfold satSub
  rw [UInt64.toNat_ofNat', Nat.mod_eq_of_lt (by omega)]

theorem satAdd_comm (a b : UInt64) : satAdd a b = satAdd b a := by
  unfold satAdd
  rw [Nat.add_comm]

theorem satAdd_assoc (a b c : UInt64) : satAdd (satAdd a b) c = satAdd a (satAdd b c) := by
  rw [← UInt64.toNat_inj]
  simp only [toNat_satAdd]
  omega

theorem zero_satAdd (a : UInt64) : satAdd 0 a = a := by
  have hzero : (0 : UInt64).toNat = 0 := rfl
  have := a.toNat_lt
  rw [← UInt64.toNat_inj, toNat_satAdd, hzero]
  omega

instance : Std.Commutative satAdd := ⟨satAdd_comm⟩

instance : Std.Associative satAdd := ⟨satAdd_assoc⟩

end ServicePlacement
