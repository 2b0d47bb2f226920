import Mathlib.Data.ZMod.Basic
import Mathlib.GroupTheory.OrderOfElement
import Mathlib.FieldTheory.Finite.Basic

/-!
# Multiply-with-carry generators

A state is a digit and a carry in some base, written as one number. A step multiplies the digit and
adds the carry. Up to a multiple of `multiplier * base - 1` this divides by the base, and so it
multiplies by the multiplier; the carry keeps the state small, so that from the second step on the
residue is the state.
-/
namespace MultiplyWithCarry

/-- One step: the digit times the multiplier, plus the carry. -/
def next (base multiplier state : Nat) : Nat := multiplier * (state % base) + state / base

/-- The modulus of the generator. -/
def modulus (base multiplier : Nat) : Nat := multiplier * base - 1

variable {base multiplier state steps : Nat}

/-- A step divides by the base up to a multiple of the modulus. -/
theorem base_mul_next (positive : 0 < multiplier * base) (state : Nat) :
    base * next base multiplier state = state + modulus base multiplier * (state % base) := by
  have digits := Nat.mod_add_div state base
  have less : modulus base multiplier + 1 = multiplier * base := Nat.sub_add_cancel positive
  calc base * next base multiplier state
      = multiplier * base * (state % base) + base * (state / base) := by
        unfold next
        ring
    _ = modulus base multiplier * (state % base) + (state % base + base * (state / base)) := by
        rw [← less]
        ring
    _ = state + modulus base multiplier * (state % base) := by rw [digits, Nat.add_comm]

/-- The multiplier and the base are inverse to each other modulo the modulus. -/
theorem multiplier_mul_base (positive : 0 < multiplier * base) :
    (multiplier : ZMod (modulus base multiplier)) *
      (base : ZMod (modulus base multiplier)) = 1 := by
  have less : modulus base multiplier + 1 = multiplier * base := Nat.sub_add_cancel positive
  rw [← Nat.cast_mul, ← less, Nat.cast_add, ZMod.natCast_self, zero_add, Nat.cast_one]

/-- A step multiplies the residue by the multiplier. -/
theorem next_cast (positive : 0 < multiplier * base) :
    (next base multiplier state : ZMod (modulus base multiplier)) = multiplier * state := by
  have inverse := multiplier_mul_base positive
  have divides := congrArg (Nat.cast (R := ZMod (modulus base multiplier)))
    (base_mul_next positive state)
  rw [Nat.cast_mul, Nat.cast_add, Nat.cast_mul, ZMod.natCast_self, zero_mul, add_zero] at divides
  calc (next base multiplier state : ZMod (modulus base multiplier))
      = multiplier * base * next base multiplier state := by rw [inverse, one_mul]
    _ = multiplier * state := by rw [mul_assoc, divides]

/-- A run multiplies the residue by a power of the multiplier. -/
theorem iterate_cast (positive : 0 < multiplier * base) :
    ((next base multiplier)^[steps] state : ZMod (modulus base multiplier)) =
      multiplier ^ steps * state := by
  induction steps with
  | zero => rw [Function.iterate_zero_apply, pow_zero, one_mul]
  | succ steps ih =>
    rw [Function.iterate_succ_apply', next_cast positive, ih, pow_succ', mul_assoc]

/-- The multiplier has an inverse. -/
theorem isUnit_multiplier (positive : 0 < multiplier * base) :
    IsUnit (multiplier : ZMod (modulus base multiplier)) :=
  IsUnit.of_mul_eq_one _ (multiplier_mul_base positive)

/-- A run neither reaches nor leaves the multiples of the modulus. -/
theorem dvd_iterate (positive : 0 < multiplier * base) :
    modulus base multiplier ∣ (next base multiplier)^[steps] state ↔
      modulus base multiplier ∣ state := by
  rw [← ZMod.natCast_eq_zero_iff, ← ZMod.natCast_eq_zero_iff, iterate_cast positive]
  exact ((isUnit_multiplier positive).pow steps).mul_right_eq_zero

/-- A state of two digits is followed by one, so a step does not overflow. -/
theorem next_lt (small : multiplier < base) (fits : state < base * base) :
    next base multiplier state < base * base := by
  have digit : state % base < base := Nat.mod_lt _ (Nat.zero_lt_of_lt small)
  have carry : state / base < base := Nat.div_lt_of_lt_mul fits
  calc multiplier * (state % base) + state / base
      ≤ multiplier * (state % base) + multiplier + state / base := by omega
    _ = multiplier * (state % base + 1) + state / base := by ring
    _ ≤ multiplier * base + state / base :=
        Nat.add_le_add_right (Nat.mul_le_mul_left _ digit) _
    _ < multiplier * base + base := Nat.add_lt_add_left carry _
    _ = (multiplier + 1) * base := by ring
    _ ≤ base * base := Nat.mul_le_mul_right _ small

/-- A state up to the modulus is followed by one. -/
theorem next_le (positive : 0 < multiplier * base) (settled : state ≤ modulus base multiplier) :
    next base multiplier state ≤ modulus base multiplier := by
  have large : 0 < base := Nat.pos_of_mul_pos_left positive
  have digit : state % base < base := Nat.mod_lt _ large
  have below : state < multiplier * base := Nat.lt_of_le_pred positive settled
  have carry : state / base < multiplier := (Nat.div_lt_iff_lt_mul large).mpr below
  have bound : multiplier * (state % base + 1) ≤ multiplier * base := Nat.mul_le_mul_left _ digit
  have split : multiplier * (state % base + 1) = multiplier * (state % base) + multiplier := by ring
  unfold next modulus
  omega

/-- After one step the carry is at most the multiplier, and after two the state is at most the
modulus. -/
theorem next_next_le (positive : 0 < multiplier * base) (small : multiplier < base)
    (fits : state < base * base) :
    next base multiplier (next base multiplier state) ≤ modulus base multiplier := by
  have large : 0 < base := Nat.zero_lt_of_lt small
  have some_ : 0 < multiplier := Nat.pos_of_mul_pos_right positive
  have digit : state % base < base := Nat.mod_lt _ large
  have carry : state / base < base := Nat.div_lt_of_lt_mul fits
  have bound : multiplier * (state % base + 1) ≤ multiplier * base := Nat.mul_le_mul_left _ digit
  have split : multiplier * (state % base + 1) = multiplier * (state % base) + multiplier := by ring
  have first : next base multiplier state + multiplier < multiplier * base + base := by
    unfold next
    omega
  generalize next base multiplier state = second at first
  by_cases settled : second ≤ modulus base multiplier
  · exact next_le positive settled
  · -- the carry is the multiplier, and the digit is too small for the state to grow
    have beyond : multiplier * base ≤ second := by
      unfold modulus at settled
      omega
    obtain ⟨rest, rfl⟩ := Nat.exists_eq_add_of_le beyond
    have low : rest + multiplier < base := by omega
    have rests : multiplier * base + rest = rest + base * multiplier := by ring
    have last : multiplier * (rest + multiplier + 1) ≤ multiplier * base :=
      Nat.mul_le_mul_left _ low
    have square : multiplier * (rest + multiplier + 1) =
        multiplier * rest + multiplier + multiplier * multiplier := by ring
    have squares : 0 < multiplier * multiplier := Nat.mul_pos some_ some_
    unfold next modulus
    rw [rests, Nat.add_mul_mod_self_left, Nat.add_mul_div_left _ _ large,
      Nat.mod_eq_of_lt (by omega), Nat.div_eq_of_lt (by omega)]
    omega

/-- From the second step on, the state is at most the modulus. -/
theorem iterate_le (positive : 0 < multiplier * base) (small : multiplier < base)
    (fits : state < base * base) (late : 2 ≤ steps) :
    (next base multiplier)^[steps] state ≤ modulus base multiplier := by
  induction steps, late using Nat.le_induction with
  | base => exact next_next_le positive small fits
  | succ steps _ ih =>
    rw [Function.iterate_succ_apply']
    exact next_le positive ih

/-- On the states up to the modulus a step loses nothing. -/
theorem next_injective {other : Nat} (positive : 0 < multiplier * base)
    (settled : state ≤ modulus base multiplier) (settled' : other ≤ modulus base multiplier)
    (same : next base multiplier state = next base multiplier other) : state = other := by
  have first := base_mul_next positive state
  rw [same, base_mul_next positive other] at first
  have digits : ∀ {low high : Nat}, low ≤ modulus base multiplier → high ≤ modulus base multiplier →
      low + modulus base multiplier * (low % base) =
        high + modulus base multiplier * (high % base) →
      ¬low % base < high % base := by
    intro low high lowSettled highSettled sum less
    obtain ⟨more, count⟩ := Nat.exists_eq_add_of_lt less
    rw [count, Nat.mul_add, Nat.mul_add, Nat.mul_one] at sum
    -- the lower digit is that of the modulus, and the other state is zero
    have zero : high = 0 := by omega
    rw [zero, Nat.zero_mod] at less
    exact absurd less (Nat.not_lt_zero _)
  have digit : state % base = other % base :=
    Nat.le_antisymm (Nat.le_of_not_lt (digits settled' settled first))
      (Nat.le_of_not_lt (digits settled settled' first.symm))
  rw [digit] at first
  omega

/-- Zero and the modulus are fixed. -/
theorem next_fixed (positive : 0 < multiplier * base) (settled : state ≤ modulus base multiplier)
    (multiple : modulus base multiplier ∣ state) : next base multiplier state = state := by
  have large : 0 < base := Nat.pos_of_mul_pos_left positive
  rcases Nat.eq_zero_or_pos state with rfl | nonzero
  · unfold next
    rw [Nat.zero_mod, Nat.zero_div, Nat.mul_zero]
  have whole : state = modulus base multiplier :=
    Nat.le_antisymm settled (Nat.le_of_dvd nonzero multiple)
  have less : modulus base multiplier + 1 = multiplier * base := Nat.sub_add_cancel positive
  have digit : state % base = base - 1 := by
    obtain ⟨rest, count⟩ := Nat.exists_eq_add_of_lt (Nat.pos_of_mul_pos_right positive)
    rw [Nat.zero_add] at count
    have split : state = base - 1 + base * rest := by
      rw [whole]
      unfold modulus
      rw [count, Nat.add_mul, Nat.one_mul, Nat.mul_comm rest base]
      omega
    rw [split, Nat.add_mul_mod_self_left, Nat.mod_eq_of_lt (Nat.sub_lt large Nat.one_pos)]
  apply Nat.eq_of_mul_eq_mul_left large
  rw [base_mul_next positive, digit, ← whole]
  obtain ⟨fewer, rfl⟩ := Nat.exists_eq_succ_of_ne_zero (Nat.ne_of_gt large)
  rw [Nat.succ_eq_add_one, Nat.add_sub_cancel]
  ring

/-- A state that is a multiple of the modulus does not change from the second step on. -/
theorem iterate_constant (positive : 0 < multiplier * base) (small : multiplier < base)
    (fits : state < base * base) (multiple : modulus base multiplier ∣ state) (late : 2 ≤ steps) :
    (next base multiplier)^[steps] state = (next base multiplier)^[2] state := by
  induction steps, late using Nat.le_induction with
  | base => rfl
  | succ steps late ih =>
    rw [Function.iterate_succ_apply', next_fixed positive (iterate_le positive small fits late)
      ((dvd_iterate positive).mpr multiple), ih]

/-- Two states below the modulus with the same residue are the same. -/
theorem eq_of_cast {other : Nat} (below : state < modulus base multiplier)
    (below' : other < modulus base multiplier)
    (same : (state : ZMod (modulus base multiplier)) = other) : state = other := by
  have residues := (ZMod.natCast_eq_natCast_iff' _ _ _).mp same
  rwa [Nat.mod_eq_of_lt below, Nat.mod_eq_of_lt below'] at residues

/-- The period of a state. With a prime modulus, a state that is no multiple of it returns from
the second step on after exactly the multiples of the order of the multiplier. -/
theorem iterate_add_eq_iff [Fact (modulus base multiplier).Prime] (positive : 0 < multiplier * base)
    (small : multiplier < base) (fits : state < base * base)
    (other : ¬modulus base multiplier ∣ state) (late : 2 ≤ steps) (period : Nat) :
    (next base multiplier)^[steps + period] state = (next base multiplier)^[steps] state ↔
      orderOf (multiplier : ZMod (modulus base multiplier)) ∣ period := by
  have below : ∀ count, 2 ≤ count →
      (next base multiplier)^[count] state < modulus base multiplier := by
    intro count enough
    apply Nat.lt_of_le_of_ne (iterate_le positive small fits enough)
    intro whole
    exact other ((dvd_iterate positive).mp (Dvd.intro 1 (by rw [Nat.mul_one, whole])))
  have nonzero : (multiplier : ZMod (modulus base multiplier)) ^ steps * state ≠ 0 := by
    rw [← iterate_cast positive, Ne, ZMod.natCast_eq_zero_iff, dvd_iterate positive]
    exact other
  rw [orderOf_dvd_iff_pow_eq_one]
  constructor
  · intro same
    have residues := congrArg (Nat.cast (R := ZMod (modulus base multiplier))) same
    rw [iterate_cast positive, iterate_cast positive, pow_add, mul_right_comm] at residues
    exact (mul_eq_left₀ nonzero).mp residues
  · intro one
    apply eq_of_cast (below _ (Nat.le_add_right_of_le late)) (below _ late)
    rw [iterate_cast positive, iterate_cast positive, pow_add, one, mul_one]

/-- With a safe prime modulus and a base that is a square, the order of the multiplier is half of
the modulus. -/
theorem orderOf_multiplier [prime : Fact (modulus base multiplier).Prime] {half root : Nat}
    (halfPrime : half.Prime) (safe : modulus base multiplier = 2 * half + 1)
    (square : base = root * root) (several : 1 < multiplier) (small : multiplier < base) :
    orderOf (multiplier : ZMod (modulus base multiplier)) = half := by
  have positive : 0 < multiplier * base := Nat.mul_pos (by omega) (by omega)
  have inverse := multiplier_mul_base positive
  have less : modulus base multiplier + 1 = multiplier * base := Nat.sub_add_cancel positive
  have roots : (base : ZMod (modulus base multiplier)) = root * root := by
    rw [← Nat.cast_mul, ← square]
  have rootNonzero : (root : ZMod (modulus base multiplier)) ≠ 0 := by
    intro zero
    rw [roots, zero, mul_zero, mul_zero] at inverse
    exact zero_ne_one inverse
  have basePower : (base : ZMod (modulus base multiplier)) ^ half = 1 := by
    have fermat := ZMod.pow_card_sub_one_eq_one rootNonzero
    have exponent : modulus base multiplier - 1 = 2 * half := by omega
    rw [exponent, pow_mul, pow_two, ← roots] at fermat
    exact fermat
  have power : (multiplier : ZMod (modulus base multiplier)) ^ half = 1 := by
    have powers := congrArg (· ^ half) inverse
    rwa [mul_pow, basePower, mul_one, one_pow] at powers
  have notOne : (multiplier : ZMod (modulus base multiplier)) ≠ 1 := by
    intro one
    rw [← Nat.cast_one, ZMod.natCast_eq_natCast_iff'] at one
    have twice : 2 * multiplier ≤ base * multiplier := Nat.mul_le_mul_right _ (by omega)
    rw [Nat.mul_comm base] at twice
    rw [Nat.mod_eq_of_lt (by omega), Nat.mod_eq_of_lt (by omega)] at one
    omega
  have : Fact half.Prime := ⟨halfPrime⟩
  exact orderOf_eq_prime power notOne

end MultiplyWithCarry
