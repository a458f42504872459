import Mathlib.Algebra.Order.Ring.Int

/-!
# Numbers without a sign, read as an `int`

The configuration has its numbers as unsigned ones of 32 bits, and the code has them as text and
reads the text with `atoi`. What that makes of a number that an `int` cannot hold is undefined, and
left open here: an `AtoiLibrary` is any function that reads the numbers that fit as they are.
-/

namespace UInt32

/-- A number that an `int` can hold is the same as an `int`. -/
theorem toInt_toInt32_of_lt {d : UInt32} (hd : d.toNat < 2 ^ 31) : d.toInt32.toInt = d.toNat :=
  BitVec.toInt_eq_toNat_of_lt (by
    have hnat : d.toInt32.toBitVec.toNat = d.toNat := rfl
    omega)

end UInt32

/-- `atoi`, of the text of a number. -/
structure AtoiLibrary where
  atoi : UInt32 → Int32
  atoi_of_lt : ∀ v : UInt32, v.toNat < 2 ^ 31 → (atoi v).toInt = v.toNat

namespace AtoiLibrary

/-- The `atoi` that keeps the lowest 32 bits. -/
def cut : AtoiLibrary := ⟨UInt32.toInt32, fun _ => UInt32.toInt_toInt32_of_lt⟩

variable (lib : AtoiLibrary) {v : UInt32}

/-- Without a sign again, a number that fits is what it was. -/
theorem toUInt32_atoi_of_lt (h : v.toNat < 2 ^ 31) : (lib.atoi v).toUInt32 = v := by
  have heq : lib.atoi v = v.toInt32 := by
    rw [← Int32.toInt_inj, lib.atoi_of_lt v h, UInt32.toInt_toInt32_of_lt h]
  rw [heq]
  rfl

end AtoiLibrary
