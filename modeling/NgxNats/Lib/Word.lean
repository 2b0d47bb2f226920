import Mathlib.Data.Int.ModEq

/-!
# 64-bit words with wrap-around

An unsigned word is the representative of an integer in `[0, 2^64)` and a signed word the one in
`[-2^63, 2^63)`. Each is the identity on the values it can represent, which is how the wrapping
operations of a machine are related to exact arithmetic.
-/

namespace Word

/-- The unsigned 64-bit word of an integer. -/
def unsigned (value : Int) : Nat := (value % (2 ^ 64 : Int)).toNat

/-- The signed 64-bit word of an integer. -/
def signed (value : Int) : Int := Int.bmod value (2 ^ 64)

/-- An unsigned word is below the modulus. -/
theorem unsigned_lt (value : Int) : unsigned value < 2 ^ 64 := by
  unfold unsigned
  omega

/-- A value in range is its own unsigned word. -/
theorem unsigned_of_nat {value : Nat} (fits : value < 2 ^ 64) : unsigned value = value := by
  unfold unsigned
  omega

/-- A signed word is in the signed range. -/
theorem signed_bounds (value : Int) : -(2 ^ 63 : Int) ≤ signed value ∧ signed value < 2 ^ 63 := by
  unfold signed
  simp only [Int.bmod_def]
  split <;> omega

/-- A value in range is its own signed word. -/
theorem signed_of_bounds {value : Int} (lower : -(2 ^ 63 : Int) ≤ value) (upper : value < 2 ^ 63) :
    signed value = value := by
  unfold signed
  simp only [Int.bmod_def]
  split <;> omega

/-- Unsigned addition of a signed word adds the value it stands for. -/
theorem unsigned_add_signed (start value offset : Int) :
    unsigned (start + signed value + offset) = unsigned (start + value + offset) := by
  have congruent : (start + signed value + offset) % (2 ^ 64 : Int) =
      (start + value + offset) % (2 ^ 64 : Int) := by
    unfold signed
    have bmod := Int.bmod_emod (x := value) (m := 2 ^ 64)
    have same : ((2 ^ 64 : Nat) : Int) = 2 ^ 64 := by decide
    rw [same] at bmod
    omega
  unfold unsigned
  rw [congruent]

/-- A signed word of a sum depends on the signed words of its parts. -/
theorem signed_add_signed (start value offset : Int) :
    signed (start + signed value + offset) = signed (start + value + offset) := by
  unfold signed
  rw [← Int.bmod_add_bmod, Int.add_bmod_bmod, Int.bmod_add_bmod]

/-- The signed word of a wrapped intermediate result is the signed word of the exact one. -/
theorem signed_mul_add (value factor summand : Int) :
    signed (signed value * factor + summand) = signed (value * factor + summand) := by
  unfold signed
  rw [← Int.bmod_add_bmod, Int.bmod_mul_bmod, Int.bmod_add_bmod]

end Word
