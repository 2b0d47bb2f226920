import NgxNats.Model.Inbox
import NgxNats.Verif.RandomPeriod
import NgxNats.Verif.JsonGrammar

/-!
# Inbox names keep the randomness

A name shows the low halves of three successive states of each half of the generator, mixed with
what does not depend on it. Two successive low halves determine a state, since the carry of the
first is added into the second. So the name is a one-to-one function of the state that the first
random number leaves behind. The state before it may differ by the modulus, but only if it was above
it. -/
namespace NgxNats

open NgxNats.Random

/-- A hexadecimal digit is read back. -/
theorem hexDigit_digitChar {digit : Nat} (small : digit < 16) :
    Json.hexDigit digit.digitChar.toNat.toUInt8 = some digit := by
  have all : ∀ digit < 16, Json.hexDigit digit.digitChar.toNat.toUInt8 = some digit := by
    decide +kernel
  exact all digit small

/-- A hexadecimal number is read back. -/
theorem hexFrom_toDigits (value : Nat) :
    Dialect.hexFrom 0 ((Nat.toDigits 16 value).map fun c => c.toNat.toUInt8) = value := by
  induction value using Nat.strongRecOn with
  | ind value ih =>
    by_cases small : value < 16
    · rw [Nat.toDigits_of_lt_base small]
      show 0 * 16 + (Json.hexDigit value.digitChar.toNat.toUInt8).getD 0 = value
      rw [hexDigit_digitChar small, Option.getD_some, Nat.zero_mul, Nat.zero_add]
    · have rest := ih (value / 16) (by omega)
      unfold Dialect.hexFrom at rest ⊢
      rw [Nat.toDigits_of_base_le (by decide) (Nat.le_of_not_lt small), List.map_append,
        List.foldl_append, rest]
      show value / 16 * 16 + (Json.hexDigit (value % 16).digitChar.toNat.toUInt8).getD 0 = value
      rw [hexDigit_digitChar (Nat.mod_lt _ (by decide)), Option.getD_some]
      omega

/-- Padding does not change what is read. -/
theorem hexFrom_hexPadded (width : Nat) (value : UInt32) :
    Dialect.hexFrom 0 (hexPadded width value) = value.toNat := by
  have zeros : ∀ count, Dialect.hexFrom 0 (List.replicate count 48) = 0 := by
    intro count
    induction count with
    | zero => rfl
    | succ count ih => exact ih
  unfold hexPadded
  have padding :=
    zeros (width - ((Nat.toDigits 16 value.toNat).map fun c => c.toNat.toUInt8).length)
  have digits := hexFrom_toDigits value.toNat
  unfold Dialect.hexFrom at padding digits ⊢
  rw [List.foldl_append, padding, digits]

/-- Different numbers are printed differently. -/
theorem hexPadded_injective {width : Nat} {value other : UInt32}
    (same : hexPadded width value = hexPadded width other) : value = other := by
  have read := congrArg (Dialect.hexFrom 0) same
  rw [hexFrom_hexPadded, hexFrom_hexPadded] at read
  exact UInt32.toNat_inj.mp read

/-- A number that fits the width is printed with that width. -/
theorem length_hexPadded {width : Nat} {value : UInt32} (positive : 0 < width)
    (fits : value.toNat < 16 ^ width) : (hexPadded width value).length = width := by
  have short : (Nat.toDigits 16 value.toNat).length ≤ width :=
    (Nat.length_toDigits_le_iff (by decide) positive).mpr fits
  unfold hexPadded
  rw [List.length_append, List.length_replicate, List.length_map, Nat.sub_add_cancel short]

/-- `_nats_rand4` keeps its second argument. -/
theorem rand4_injective {a b b' c d : UInt32} (same : rand4 a b c d = rand4 a b' c d) : b = b' := by
  unfold rand4 at same
  have scaled := (UInt32.add_left_inj d).mp same
  -- 31 is odd, so it has an inverse
  have inverse : (31 : UInt32) * 3186588639 = 1 := by decide
  have cancel : ∀ x y : UInt32, x * 31 = y * 31 → x = y := by
    intro x y equal
    have products := congrArg (· * 3186588639) equal
    simpa only [UInt32.mul_assoc, inverse, UInt32.mul_one] using products
  have mixed := (UInt32.add_left_inj c).mp (cancel _ _ scaled)
  exact (UInt32.add_right_inj (a * 31)).mp (cancel _ _ mixed)

/-- The random number that a state stands for. -/
def output (random : Random) : UInt32 :=
  (random.z <<< (16 : UInt32)) + (random.w &&& (0xffff : UInt32))

/-- A random number shows the low halves of the state. -/
theorem output_toNat (random : Random) :
    (output random).toNat = random.z.toNat % 2 ^ 16 * 2 ^ 16 + random.w.toNat % 2 ^ 16 := by
  have high : (random.z <<< (16 : UInt32)).toNat = random.z.toNat * 2 ^ 16 % 2 ^ 32 := by
    rw [UInt32.toNat_shiftLeft, Nat.shiftLeft_eq]
    rfl
  unfold output
  rw [UInt32.toNat_add, low_toNat, high]
  omega

/-- A state of a half is determined by its low half and that of the next state. -/
theorem half_determined {const : UInt32} (small : const.toNat < 2 ^ 16) {state other : UInt32}
    (low : state.toNat % 2 ^ 16 = other.toNat % 2 ^ 16)
    (next : (half const state).toNat % 2 ^ 16 = (half const other).toNat % 2 ^ 16) :
    state = other := by
  rw [(half_exact small state).2, (half_exact small other).2] at next
  unfold exactHalf at next
  rw [low] at next
  have fits := state.toNat_lt
  have fits' := other.toNat_lt
  apply UInt32.toNat_inj.mp
  omega

/-- Two states with the same constants are the same if they stand for the same number and so do the
states after them. -/
theorem output_determined {random other : Random} (smallZ : random.zConst.toNat < 2 ^ 16)
    (smallW : random.wConst.toNat < 2 ^ 16) (constZ : random.zConst = other.zConst)
    (constW : random.wConst = other.wConst) (same : output random = output other)
    (next : output (advance random) = output (advance other)) :
    random.z = other.z ∧ random.w = other.w := by
  have first := congrArg UInt32.toNat same
  have second := congrArg UInt32.toNat next
  rw [output_toNat, output_toNat] at first second
  have split : ∀ {high low high' low' : Nat},
      high % 2 ^ 16 * 2 ^ 16 + low % 2 ^ 16 = high' % 2 ^ 16 * 2 ^ 16 + low' % 2 ^ 16 →
        high % 2 ^ 16 = high' % 2 ^ 16 ∧ low % 2 ^ 16 = low' % 2 ^ 16 := by
    intro high low high' low' equal
    omega
  obtain ⟨z, w⟩ := split first
  obtain ⟨nextZ, nextW⟩ := split second
  constructor
  · apply half_determined smallZ z
    show (advance random).z.toNat % 2 ^ 16 = _
    rw [nextZ, constZ]
    rfl
  · apply half_determined smallW w
    show (advance random).w.toNat % 2 ^ 16 = _
    rw [nextW, constW]
    rfl

/-- The name made of the state that the first random number leaves behind. -/
def inboxName (env : InboxEnv) (first : Random) : List UInt8 :=
  ascii "_INBOX." ++
    hexPadded 8 (rand4 (ipvar env.localIp) (output first) (UInt32.ofInt env.pid)
      (UInt32.ofNat env.msec)) ++
    hexPadded 8 (rand4 (ipvar env.localIp) (output (advance first)) (UInt32.ofInt env.pid)
      (UInt32.ofInt env.sec)) ++
    hexPadded 8 (rand4 (ipvar env.localIp) (output (advance (advance first)))
      (UInt32.ofInt env.sec) (UInt32.ofNat env.msec)) ++
    hexPadded 2 (output (advance (advance (advance first))) &&& (0x00ff : UInt32))

/-- A name has 33 bytes. -/
theorem length_inboxName (env : InboxEnv) (first : Random) : (inboxName env first).length = 33 := by
  have word : ∀ value : UInt32, (hexPadded 8 value).length = 8 := fun value =>
    length_hexPadded (by decide) value.toNat_lt
  have byte : ∀ value : UInt32, (hexPadded 2 (value &&& (0x00ff : UInt32))).length = 2 := by
    intro value
    apply length_hexPadded (by decide)
    rw [UInt32.toNat_and]
    exact Nat.lt_of_le_of_lt Nat.and_le_right (by decide)
  unfold inboxName
  simp only [List.length_append, word, byte]
  rfl

/-- `ngx_nats_create_inbox` prints the name into a buffer that holds it and its terminator. -/
theorem createInbox_run (env : InboxEnv) {buf : List UInt8} (room : 34 ≤ buf.length)
    {random : Random} (initialized : random.initialized = true) :
    createInbox env buf buf.length random = .ok (33, inboxName env (advance random) ++
      0 :: buf.drop 34, advance^[4] random) := by
  have length := length_inboxName env (advance random)
  have printed : snprintf buf.length (inboxName env (advance random)) =
      inboxName env (advance random) :=
    snprintf_of_fits (by omega)
  have ready : initRandom env.scale env.seedZ env.seedW env.randomizer random = random := by
    unfold initRandom
    rw [if_pos initialized]
  unfold createInbox
  rw [if_neg (Nat.not_lt_of_le room), ready]
  show (store (snprintf buf.length (inboxName env (advance random)) ++
      buf.drop (snprintf buf.length (inboxName env (advance random))).length)
    (snprintf buf.length (inboxName env (advance random))).length 0 >>= fun after =>
      pure (((snprintf buf.length (inboxName env (advance random))).length : Int), after,
        advance^[4] random)) = _
  have inside : 33 < (inboxName env (advance random) ++ buf.drop 33).length := by
    rw [List.length_append, List.length_drop, length]
    omega
  rw [printed, length, store_inside 0 inside]
  have ended : (inboxName env (advance random) ++ buf.drop 33).set 33 0 =
      inboxName env (advance random) ++ 0 :: buf.drop 34 := by
    rw [List.set_append_right _ _ (Nat.le_of_eq length), length, Nat.sub_self,
      List.drop_eq_getElem_cons (show 33 < buf.length by omega)]
    rfl
  rw [ended]
  rfl

/-- The name is a one-to-one function of the state that the first random number leaves behind. -/
theorem inboxName_injective (env : InboxEnv) {first other : Random}
    (smallZ : first.zConst.toNat < 2 ^ 16) (smallW : first.wConst.toNat < 2 ^ 16)
    (constZ : first.zConst = other.zConst) (constW : first.wConst = other.wConst)
    (same : inboxName env first = inboxName env other) : first.z = other.z ∧ first.w = other.w := by
  have word : ∀ value : UInt32, (hexPadded 8 value).length = 8 := fun value =>
    length_hexPadded (by decide) value.toNat_lt
  unfold inboxName at same
  simp only [List.append_assoc] at same
  have parts := List.append_cancel_left same
  obtain ⟨partA, parts⟩ := List.append_inj parts ((word _).trans (word _).symm)
  obtain ⟨partB, -⟩ := List.append_inj parts ((word _).trans (word _).symm)
  exact output_determined smallZ smallW constZ constW (rand4_injective (hexPadded_injective partA))
    (rand4_injective (hexPadded_injective partB))

/-- The name that `ngx_nats_create_inbox` prints into every buffer that is large enough. -/
def PrintsInbox (env : InboxEnv) (random : Random) (name : List UInt8) : Prop :=
  ∀ buf : List UInt8, 34 ≤ buf.length → ∃ last,
    createInbox env buf buf.length random = .ok (33, name ++ 0 :: buf.drop 34, last)

/-- Inbox names keep the randomness. Two names are the same exactly if the states behind the
first random number are; then each half was the same before it, too, if it was at most its modulus,
as it is from the second step of the generator on. -/
theorem inbox_names (env : InboxEnv) (n z w z' w' : UInt32) :
    ∃ name name', name.length = 33 ∧ name'.length = 33 ∧
      PrintsInbox env (seeded n z w) name ∧ PrintsInbox env (seeded n z' w') name' ∧
      (name = name' ↔ advance (seeded n z w) = advance (seeded n z' w')) ∧
      (name = name' → z.toNat ≤ halfModulus (selectConstants n).1 →
        z'.toNat ≤ halfModulus (selectConstants n).1 → z = z') ∧
      (name = name' → w.toNat ≤ halfModulus (selectConstants n).2 →
        w'.toNat ≤ halfModulus (selectConstants n).2 → w = w') ∧
      ∀ k, 2 ≤ k → (advance^[k] (seeded n z w)).z.toNat ≤ halfModulus (selectConstants n).1 ∧
        (advance^[k] (seeded n z w)).w.toNat ≤ halfModulus (selectConstants n).2 := by
  obtain ⟨safeZ, safeW⟩ := safe_of_pair (selectConstants_mem n)
  have determined :
    inboxName env (advance (seeded n z w)) = inboxName env (advance (seeded n z' w')) →
      half (selectConstants n).1 z = half (selectConstants n).1 z' ∧
        half (selectConstants n).2 w = half (selectConstants n).2 w' := by
    intro same
    have states : (advance (seeded n z w)).z = (advance (seeded n z' w')).z ∧
        (advance (seeded n z w)).w = (advance (seeded n z' w')).w :=
      inboxName_injective env safeZ.small safeW.small rfl rfl same
    rw [advance_z, advance_z, advance_w, advance_w] at states
    exact states
  have settled : ∀ {const : UInt32}, Safe const → ∀ {state other : UInt32},
      half const state = half const other → state.toNat ≤ halfModulus const →
        other.toNat ≤ halfModulus const → state = other := by
    intro const safe state other same low low'
    have steps := congrArg UInt32.toNat same
    rw [(half_exact safe.small _).2, (half_exact safe.small _).2] at steps
    exact UInt32.toNat_inj.mp (MultiplyWithCarry.next_injective safe.positive low low' steps)
  refine ⟨_, _, length_inboxName env (advance (seeded n z w)),
    length_inboxName env (advance (seeded n z' w')),
    fun buf room => ⟨_, createInbox_run env room rfl⟩,
    fun buf room => ⟨_, createInbox_run env room rfl⟩, ⟨fun same => ?_, fun same => by rw [same]⟩,
    fun same => settled safeZ (determined same).1, fun same => settled safeW (determined same).2,
    fun k late => ?_⟩
  · obtain ⟨sameZ, sameW⟩ := determined same
    show { seeded n z w with
      z := half (selectConstants n).1 z, w := half (selectConstants n).2 w } = _
    rw [sameZ, sameW]
    rfl
  · rw [advance_iterate]
    exact ⟨half_settles safeZ z late, half_settles safeW w late⟩

/-- A host without a local address, at the start of time. -/
def plainInbox : InboxEnv where
  localIp := none
  pid := 1
  sec := 0
  msec := 0
  scale _ _ := 0
  seedZ := 0
  seedW := 0
  randomizer := 0

/-- The states 1 and 1 + 31083 * 65536 - 1 of `rand_z` are followed by the same state, so they make
the same name. -/
theorem inbox_names_collide :
    ¬∀ (env : InboxEnv) (n z w z' w' : UInt32) (name : List UInt8),
      PrintsInbox env (seeded n z w) name → PrintsInbox env (seeded n z' w') name →
        z = z' ∧ w = w' := by
  intro claim
  have same : advance (seeded 0 1 1) = advance (seeded 0 2037055488 1) := by decide
  have first :
    PrintsInbox plainInbox (seeded 0 1 1) (inboxName plainInbox (advance (seeded 0 1 1))) :=
    fun buf room => ⟨_, createInbox_run plainInbox room rfl⟩
  have second : PrintsInbox plainInbox (seeded 0 2037055488 1)
      (inboxName plainInbox (advance (seeded 0 1 1))) := by
    intro buf room
    rw [same]
    exact ⟨_, createInbox_run plainInbox room rfl⟩
  exact absurd (claim plainInbox 0 1 1 2037055488 1 _ first second).1 (by decide)

end NgxNats
