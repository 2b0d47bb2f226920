import NgxNats.Lib.MultiplyWithCarry
import NgxNats.Lib.Primality
import NgxNats.Model.Random

/-!
# The period of the random generator

Each half of the generator is a multiply-with-carry generator in base `2 ^ 16` whose modulus is a
safe prime, for every constant that can be selected. So a half either stands still or runs through
half of the residues, and since these periods are different primes the period of both halves
together is their product.
-/
namespace NgxNats.Random

open MultiplyWithCarry

/-- The pairs of constants that can be selected. -/
def constantPairs : List (UInt32 × UInt32) :=
  [(31083, 18030), (31059, 18513), (30714, 19098), (30345, 21723), (36969, 18000)]

/-- The modulus of the half with a constant. -/
def halfModulus (const : UInt32) : Nat := const.toNat * 2 ^ 16 - 1

/-- The period of the half with a constant, from a seed that is no multiple of its modulus. -/
def halfPeriod (const : UInt32) : Nat := const.toNat * 2 ^ 15 - 1

/-- Certificates for the moduli, the periods and what Lucas's test needs of them. -/
def certificates : List Primality.Row :=
  [⟨3, 2, [2]⟩, ⟨5, 2, [2]⟩, ⟨7, 3, [2, 3]⟩, ⟨11, 2, [2, 5]⟩, ⟨13, 2, [2, 3]⟩, ⟨17, 3, [2]⟩,
    ⟨23, 5, [2, 11]⟩, ⟨29, 2, [2, 7]⟩, ⟨31, 3, [2, 3, 5]⟩, ⟨37, 2, [2, 3]⟩, ⟨41, 6, [2, 5]⟩,
    ⟨43, 3, [2, 3, 7]⟩, ⟨47, 5, [2, 23]⟩, ⟨53, 2, [2, 13]⟩, ⟨61, 2, [2, 3, 5]⟩,
    ⟨67, 2, [2, 3, 11]⟩, ⟨83, 2, [2, 41]⟩, ⟨89, 3, [2, 11]⟩, ⟨97, 5, [2, 3]⟩, ⟨101, 2, [2, 5]⟩,
    ⟨173, 2, [2, 43]⟩, ⟨223, 3, [2, 3, 37]⟩, ⟨233, 3, [2, 29]⟩, ⟨251, 6, [2, 5]⟩,
    ⟨269, 2, [2, 67]⟩, ⟨311, 17, [2, 5, 31]⟩, ⟨367, 6, [2, 3, 61]⟩, ⟨491, 2, [2, 5, 7]⟩,
    ⟨503, 5, [2, 251]⟩, ⟨607, 3, [2, 3, 101]⟩, ⟨743, 5, [2, 7, 53]⟩, ⟨829, 2, [2, 3, 23]⟩,
    ⟨1051, 7, [2, 3, 5, 7]⟩, ⟨1069, 6, [2, 3, 89]⟩, ⟨1163, 5, [2, 7, 83]⟩,
    ⟨1399, 13, [2, 3, 233]⟩, ⟨2161, 23, [2, 3, 5]⟩, ⟨2423, 5, [2, 7, 173]⟩, ⟨2917, 5, [2, 3]⟩,
    ⟨3929, 3, [2, 491]⟩, ⟨6037, 5, [2, 3, 503]⟩, ⟨6221, 3, [2, 5, 311]⟩, ⟨33161, 3, [2, 5, 829]⟩,
    ⟨37501, 2, [2, 3, 5]⟩, ⟨60509, 2, [2, 7, 2161]⟩, ⟨105401, 3, [2, 5, 17, 31]⟩,
    ⟨121019, 2, [2, 60509]⟩, ⟨281069, 2, [2, 29, 2423]⟩, ⟨2229473, 3, [2, 7, 37, 269]⟩,
    ⟨2625071, 7, [2, 5, 7, 37501]⟩, ⟨5250143, 5, [2, 2625071]⟩,
    ⟨101774131, 3, [2, 3, 5, 1163, 2917]⟩, ⟨294911999, 7, [2, 1399, 105401]⟩,
    ⟨589823999, 7, [2, 294911999]⟩, ⟨590807039, 7, [2, 1051, 281069]⟩,
    ⟨606633983, 5, [2, 47, 1069, 6037]⟩, ⟨625803263, 5, [2, 7, 31, 367, 3929]⟩,
    ⟨711819263, 5, [2, 7, 11, 743, 6221]⟩, ⟨994344959, 11, [2, 223, 2229473]⟩,
    ⟨1006436351, 7, [2, 5, 607, 33161]⟩, ⟨1017741311, 11, [2, 5, 101774131]⟩,
    ⟨1018527743, 5, [2, 97, 5250143]⟩, ⟨1179647999, 31, [2, 589823999]⟩,
    ⟨1181614079, 7, [2, 590807039]⟩, ⟨1211400191, 7, [2, 5, 7, 11, 13, 121019]⟩,
    ⟨1213267967, 5, [2, 606633983]⟩, ⟨1251606527, 5, [2, 625803263]⟩,
    ⟨1423638527, 5, [2, 711819263]⟩, ⟨1988689919, 13, [2, 994344959]⟩,
    ⟨2012872703, 5, [2, 1006436351]⟩, ⟨2035482623, 5, [2, 1017741311]⟩,
    ⟨2037055487, 5, [2, 1018527743]⟩, ⟨2422800383, 5, [2, 1211400191]⟩]

/-- The certificates are good. -/
theorem certificates_check : Primality.check [2] certificates = true := by
  decide +kernel

/-- What makes a constant a good one: it fits a digit, and its modulus is a safe prime. -/
structure Safe (const : UInt32) : Prop where
  several : 1 < const.toNat
  small : const.toNat < 2 ^ 16
  modulus : (halfModulus const).Prime
  period : (halfPeriod const).Prime

/-- A good constant moves the digit. -/
theorem Safe.positive {const : UInt32} (safe : Safe const) : 0 < const.toNat * 2 ^ 16 :=
  Nat.mul_pos (Nat.lt_trans Nat.one_pos safe.several) (by decide)

/-- A number of the table is prime. -/
theorem prime_of_listed {number : Nat} (listed : number ∈ certificates.map (·.number)) :
    number.Prime := by
  obtain ⟨row, inside, rfl⟩ := List.mem_map.mp listed
  apply Primality.check_sound ?_ certificates_check inside
  intro p two
  rw [List.mem_singleton.mp two]
  exact Nat.prime_two

/-- Every constant that can be selected is a good one. -/
theorem safe_of_pair {pair : UInt32 × UInt32} (selected : pair ∈ constantPairs) :
    Safe pair.1 ∧ Safe pair.2 := by
  have listed : (constantPairs.all fun pair => [pair.1, pair.2].all fun const =>
      1 < const.toNat && const.toNat < 2 ^ 16 &&
        (certificates.map (·.number)).contains (halfModulus const) &&
          (certificates.map (·.number)).contains (halfPeriod const)) = true := by
    decide +kernel
  simp only [List.all_eq_true, Bool.and_eq_true, decide_eq_true_eq, List.contains_iff_mem] at listed
  have safe : ∀ const ∈ [pair.1, pair.2], Safe const := by
    intro const inside
    obtain ⟨⟨⟨several, small⟩, modulus⟩, period⟩ := listed pair selected const inside
    exact ⟨several, small, prime_of_listed modulus, prime_of_listed period⟩
  exact ⟨safe pair.1 List.mem_cons_self, safe pair.2 (List.mem_cons_of_mem _ List.mem_cons_self)⟩

/-- The two halves have different periods, and their product is above `2 ^ 59`. -/
theorem periods_of_pair {pair : UInt32 × UInt32} (selected : pair ∈ constantPairs) :
    halfPeriod pair.1 ≠ halfPeriod pair.2 ∧ 2 ^ 59 < halfPeriod pair.1 * halfPeriod pair.2 := by
  have all : (constantPairs.all fun pair => halfPeriod pair.1 != halfPeriod pair.2 &&
      2 ^ 59 < halfPeriod pair.1 * halfPeriod pair.2) = true := by
    decide +kernel
  simp only [List.all_eq_true, Bool.and_eq_true, decide_eq_true_eq, bne_iff_ne] at all
  exact all pair selected

/-- Whatever the number is, one of the pairs is selected. -/
theorem selectConstants_mem (n : UInt32) : selectConstants n ∈ constantPairs := by
  unfold selectConstants
  split
  · decide
  split
  · decide
  split
  · decide
  split
  · decide
  · decide

/-- The update of a half with exact arithmetic. -/
def exactHalf (const state : Nat) : Nat := const * (state % 2 ^ 16) + state / 2 ^ 16

/-- Masking a word takes its low half. -/
theorem low_toNat (word : UInt32) : (word &&& (0xffff : UInt32)).toNat = word.toNat % 2 ^ 16 := by
  rw [UInt32.toNat_and]
  exact Nat.and_two_pow_sub_one_eq_mod _ 16

/-- The update of a half does not overflow, so it is a step of a multiply-with-carry generator. -/
theorem half_exact {const : UInt32} (small : const.toNat < 2 ^ 16) (state : UInt32) :
    exactHalf const.toNat state.toNat < 2 ^ 32 ∧
      (half const state).toNat = exactHalf const.toNat state.toNat := by
  have fits : exactHalf const.toNat state.toNat < 2 ^ 32 := next_lt small state.toNat_lt
  have carry : (state >>> (16 : UInt32)).toNat = state.toNat / 2 ^ 16 := by
    rw [UInt32.toNat_shiftRight, Nat.shiftRight_eq_div_pow]
    rfl
  refine ⟨fits, ?_⟩
  unfold half
  rw [UInt32.toNat_add, UInt32.toNat_mul, low_toNat, carry, Nat.mod_add_mod]
  exact Nat.mod_eq_of_lt fits

/-- A run of a half is a run of a multiply-with-carry generator. -/
theorem half_iterate {const : UInt32} (small : const.toNat < 2 ^ 16) (steps : Nat) (seed : UInt32) :
    ((half const)^[steps] seed).toNat = (next (2 ^ 16) const.toNat)^[steps] seed.toNat := by
  induction steps with
  | zero => rfl
  | succ steps ih =>
    rw [Function.iterate_succ_apply', Function.iterate_succ_apply', ← ih]
    exact (half_exact small _).2

/-- From the second step on, a half is at most its modulus. -/
theorem half_settles {const : UInt32} (safe : Safe const) (seed : UInt32) {steps : Nat}
    (late : 2 ≤ steps) : ((half const)^[steps] seed).toNat ≤ halfModulus const := by
  rw [half_iterate safe.small]
  exact iterate_le safe.positive safe.small seed.toNat_lt late

/-- From an index on, a sequence repeats after exactly the multiples of a period. -/
def RepeatsFrom {α : Type} (start period : Nat) (sequence : Nat → α) : Prop :=
  ∀ k, start ≤ k → ∀ p, sequence (k + p) = sequence k ↔ period ∣ p

/-- From an index on, a sequence is constant. -/
def ConstantFrom {α : Type} (start : Nat) (sequence : Nat → α) : Prop :=
  ∀ k, start ≤ k → sequence k = sequence start

/-- A half stands still from its second step on if its seed is a multiple of its modulus. -/
theorem half_constant {const : UInt32} (safe : Safe const) {seed : UInt32}
    (multiple : halfModulus const ∣ seed.toNat) :
    ConstantFrom 2 fun k => (half const)^[k] seed := by
  intro k late
  apply UInt32.toNat_inj.mp
  rw [half_iterate safe.small, half_iterate safe.small]
  exact iterate_constant safe.positive safe.small seed.toNat_lt multiple late

/-- A half repeats from its second step on with its full period if its seed is no multiple of its
modulus. -/
theorem half_repeats {const : UInt32} (safe : Safe const) {seed : UInt32}
    (other : ¬halfModulus const ∣ seed.toNat) :
    RepeatsFrom 2 (halfPeriod const) fun k => (half const)^[k] seed := by
  intro k late p
  have prime : Fact (modulus (2 ^ 16) const.toNat).Prime := ⟨safe.modulus⟩
  have double : modulus (2 ^ 16) const.toNat = 2 * halfPeriod const + 1 := by
    have several := safe.several
    unfold modulus halfPeriod
    omega
  have order := orderOf_multiplier safe.period double (show 2 ^ 16 = 2 ^ 8 * 2 ^ 8 by decide)
    safe.several safe.small
  have run := iterate_add_eq_iff safe.positive safe.small seed.toNat_lt other late p
  rw [order, ← half_iterate safe.small, ← half_iterate safe.small, UInt32.toNat_inj] at run
  exact run

/-- A random number steps `rand_z`. -/
@[simp] theorem advance_z (random : Random) :
    (advance random).z = half random.zConst random.z := rfl

/-- A random number steps `rand_w`. -/
@[simp] theorem advance_w (random : Random) :
    (advance random).w = half random.wConst random.w := rfl

/-- A run of the generator runs both halves and keeps the constants. -/
theorem advance_iterate (steps : Nat) (random : Random) :
    advance^[steps] random = { random with
      z := (half random.zConst)^[steps] random.z
      w := (half random.wConst)^[steps] random.w } := by
  induction steps with
  | zero => rfl
  | succ steps ih =>
    rw [Function.iterate_succ_apply', ih, Function.iterate_succ_apply',
      Function.iterate_succ_apply']
    rfl

/-- What a half does behind its seed: it stands still if the seed is a multiple of its modulus, and
otherwise it repeats with its full period. -/
def HalfRuns (const seed : UInt32) (sequence : Nat → UInt32) : Prop :=
  (halfModulus const ∣ seed.toNat → ConstantFrom 2 sequence) ∧
  (¬halfModulus const ∣ seed.toNat → RepeatsFrom 2 (halfPeriod const) sequence)

/-- The updates with a constant never overflow. -/
def NeverOverflows (const : UInt32) : Prop := ∀ state : UInt32,
  exactHalf const.toNat state.toNat < 2 ^ 32 ∧
    (half const state).toNat = exactHalf const.toNat state.toNat

/-- Behind a pair of seeds of which neither is a multiple of its modulus, both halves together
repeat with the product of their periods. -/
theorem seeded_repeats (n : UInt32) {z w : UInt32}
    (otherZ : ¬halfModulus (selectConstants n).1 ∣ z.toNat)
    (otherW : ¬halfModulus (selectConstants n).2 ∣ w.toNat) :
    RepeatsFrom 2 (halfPeriod (selectConstants n).1 * halfPeriod (selectConstants n).2)
      fun k => ((advance^[k] (seeded n z w)).z, (advance^[k] (seeded n z w)).w) := by
  have selected := selectConstants_mem n
  obtain ⟨safeZ, safeW⟩ := safe_of_pair selected
  have coprime := (Nat.coprime_primes safeZ.period safeW.period).mpr (periods_of_pair selected).1
  intro k late p
  have zRuns := half_repeats safeZ otherZ k late p
  have wRuns := half_repeats safeW otherW k late p
  simp only [advance_iterate, Prod.mk.injEq]
  constructor
  · rintro ⟨first, second⟩
    exact coprime.mul_dvd_of_dvd_of_dvd (zRuns.mp first) (wRuns.mp second)
  · intro both
    exact ⟨zRuns.mpr ((Nat.dvd_mul_right _ _).trans both),
      wRuns.mpr ((Nat.dvd_mul_left _ _).trans both)⟩

/-- Behind `ngx_nats_init_random` the generator repeats with the same period, however many numbers
were skipped. -/
theorem initRandom_repeats (scale : UInt32 → Nat → UInt32) (randomizer : UInt32) {z w : UInt32}
    (otherZ : ¬halfModulus (selectConstants (scale randomizer 4)).1 ∣ z.toNat)
    (otherW : ¬halfModulus (selectConstants (scale randomizer 4)).2 ∣ w.toNat) :
    RepeatsFrom 2 (halfPeriod (selectConstants (scale randomizer 4)).1 *
        halfPeriod (selectConstants (scale randomizer 4)).2)
      fun k => ((advance^[k] (initRandom scale z w randomizer {})).z,
        (advance^[k] (initRandom scale z w randomizer {})).w) := by
  have skipped : ∀ k, advance^[k] (initRandom scale z w randomizer {}) =
      advance^[k + (scale randomizer 100000).toNat] (seeded (scale randomizer 4) z w) := by
    intro k
    rw [Function.iterate_add_apply]
    rfl
  intro k late p
  simp only [skipped]
  rw [Nat.add_right_comm]
  exact seeded_repeats _ otherZ otherW _ (Nat.le_add_right_of_le late) p

end NgxNats.Random

namespace NgxNats

open NgxNats.Random

/-- The period of the generator for every pair of constants that can be selected and all seeds. -/
theorem random_period (n z w : UInt32) :
    NeverOverflows (selectConstants n).1 ∧ NeverOverflows (selectConstants n).2 ∧
    HalfRuns (selectConstants n).1 z (fun k => (advance^[k] (seeded n z w)).z) ∧
    HalfRuns (selectConstants n).2 w (fun k => (advance^[k] (seeded n z w)).w) ∧
    (¬halfModulus (selectConstants n).1 ∣ z.toNat → ¬halfModulus (selectConstants n).2 ∣ w.toNat →
      RepeatsFrom 2 (halfPeriod (selectConstants n).1 * halfPeriod (selectConstants n).2)
        fun k => ((advance^[k] (seeded n z w)).z, (advance^[k] (seeded n z w)).w)) ∧
    2 ^ 59 < halfPeriod (selectConstants n).1 * halfPeriod (selectConstants n).2 := by
  have selected := selectConstants_mem n
  obtain ⟨safeZ, safeW⟩ := safe_of_pair selected
  have zRuns : (fun k => (advance^[k] (seeded n z w)).z) =
      fun k => (half (selectConstants n).1)^[k] z := by
    funext k
    rw [advance_iterate]
    rfl
  have wRuns : (fun k => (advance^[k] (seeded n z w)).w) =
      fun k => (half (selectConstants n).2)^[k] w := by
    funext k
    rw [advance_iterate]
    rfl
  rw [zRuns, wRuns]
  exact ⟨half_exact safeZ.small, half_exact safeW.small,
    ⟨half_constant safeZ, half_repeats safeZ⟩, ⟨half_constant safeW, half_repeats safeW⟩,
    seeded_repeats n, (periods_of_pair selected).2⟩

/-- The seeds and constants that the source starts with. -/
theorem random_period_initial :
    RepeatsFrom 2 (1211400191 * 589823999) fun k =>
      ((advance^[k] (seeded 4 362436069 521288629)).z,
        (advance^[k] (seeded 4 362436069 521288629)).w) :=
  (random_period 4 362436069 521288629).2.2.2.2.1 (by decide) (by decide)

end NgxNats
