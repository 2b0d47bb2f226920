import Mathlib.NumberTheory.LucasPrimality

/-!
# Primality by certificates

Lucas's test proves a number prime from a base whose order is the number less one, which takes the
prime factors of that number less one. A table lists the factors before the numbers they are factors
of, so that one Boolean check of the whole table proves every number in it prime.
-/
namespace Primality

/-- `base ^ exponent % modulus` by repeated squaring, for an exponent of at most `bits` bits. -/
def powMod (modulus base : Nat) : Nat → Nat → Nat
  | 0, _ => 1 % modulus
  | bits + 1, exponent =>
    let square := powMod modulus base bits (exponent / 2) ^ 2 % modulus
    if exponent % 2 = 0 then square else square * base % modulus

/-- Repeated squaring computes the power. -/
theorem powMod_eq (modulus base : Nat) {bits exponent : Nat} (fits : exponent < 2 ^ bits) :
    powMod modulus base bits exponent = base ^ exponent % modulus := by
  induction bits generalizing exponent with
  | zero =>
    have zero : exponent = 0 := Nat.lt_one_iff.mp fits
    rw [zero]
    rfl
  | succ bits ih =>
    have half : exponent / 2 < 2 ^ bits := by
      rw [Nat.pow_succ] at fits
      omega
    have square : powMod modulus base bits (exponent / 2) ^ 2 % modulus =
        base ^ (exponent / 2 * 2) % modulus := by
      rw [ih half, ← Nat.pow_mod, Nat.pow_mul]
    simp only [powMod, square]
    by_cases even : exponent % 2 = 0
    · rw [if_pos even, Nat.div_mul_cancel (Nat.dvd_of_mod_eq_zero even)]
    · have odd : exponent / 2 * 2 + 1 = exponent := by omega
      rw [if_neg even, Nat.mod_mul_mod, ← Nat.pow_succ, Nat.succ_eq_add_one, odd]

/-- A number with a base for Lucas's test and the prime factors of the number less one. -/
structure Row where
  number : Nat
  base : Nat
  factors : List Nat

namespace Row

/-- The power of the base that Lucas's test compares with one. -/
def power (row : Row) (exponent : Nat) : Nat :=
  powMod row.number row.base (row.number.log2 + 1) exponent

/-- Lucas's test. The factors are known to be prime, and there are no others because the number less
one divides a power of their product. -/
def passes (known : List Nat) (row : Row) : Bool :=
  Nat.ble 2 row.number && row.factors.all (known.contains ·) &&
    row.factors.prod ^ (row.number.log2 + 1) % (row.number - 1) == 0 &&
    row.power (row.number - 1) == 1 &&
    row.factors.all fun factor => row.power ((row.number - 1) / factor) != 1

/-- The power in the ring of residues. -/
theorem power_eq_one {row : Row} (large : 2 ≤ row.number) {exponent : Nat}
    (fits : exponent ≤ row.number) :
    row.power exponent = 1 ↔ (row.base : ZMod row.number) ^ exponent = 1 := by
  have bits : exponent < 2 ^ (row.number.log2 + 1) := Nat.lt_of_le_of_lt fits Nat.lt_log2_self
  have residues := ZMod.natCast_eq_natCast_iff' (row.base ^ exponent) 1 row.number
  rw [Nat.cast_pow, Nat.cast_one, Nat.mod_eq_of_lt (Nat.lt_of_succ_le large)] at residues
  unfold power
  rw [powMod_eq _ _ bits, residues]

/-- A number that passes is prime. -/
theorem passes_sound {known : List Nat} (primes : ∀ p ∈ known, p.Prime) {row : Row}
    (passes : row.passes known = true) : row.number.Prime := by
  simp only [Row.passes, Bool.and_eq_true, Nat.ble_eq, List.all_eq_true, List.contains_iff_mem,
    beq_iff_eq, bne_iff_ne] at passes
  obtain ⟨⟨⟨⟨large, listed⟩, divides⟩, fermat⟩, orders⟩ := passes
  apply lucas_primality row.number row.base
  · exact (power_eq_one large (Nat.sub_le _ _)).mp fermat
  · intro q prime divisor one
    have among : q ∣ row.factors.prod :=
      prime.dvd_of_dvd_pow (divisor.trans (Nat.dvd_of_mod_eq_zero divides))
    obtain ⟨factor, inside, divided⟩ := (Nat.Prime.prime prime).dvd_prod_iff.mp among
    have same : q = factor :=
      (Nat.prime_dvd_prime_iff_eq prime (primes factor (listed factor inside))).mp divided
    have small : (row.number - 1) / factor ≤ row.number :=
      (Nat.div_le_self _ _).trans (Nat.sub_le _ _)
    rw [same] at one
    exact orders factor inside ((power_eq_one large small).mpr one)

end Row

/-- Every row of a table passes with the numbers of the rows before it. -/
def check : List Nat → List Row → Bool
  | _, [] => true
  | known, row :: rows => row.passes known && check (row.number :: known) rows

/-- The numbers of a table that passes are prime. -/
theorem check_sound {known : List Nat} (primes : ∀ p ∈ known, p.Prime) {rows : List Row}
    (passes : check known rows = true) {row : Row} (inside : row ∈ rows) : row.number.Prime := by
  induction rows generalizing known with
  | nil => cases inside
  | cons first rows ih =>
    rw [check, Bool.and_eq_true] at passes
    have prime := Row.passes_sound primes passes.1
    rcases List.mem_cons.mp inside with rfl | later
    · exact prime
    · apply ih ?_ passes.2 later
      intro p among
      rcases List.mem_cons.mp among with rfl | earlier
      · exact prime
      · exact primes p earlier

end Primality
