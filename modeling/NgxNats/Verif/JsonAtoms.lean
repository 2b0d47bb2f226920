import NgxNats.Verif.JsonTokens

/-!
# Primitive values

The parsers of numbers and words on the text of one token. Each of them accepts the texts of the
grammar with the value the grammar gives them, and nothing else.
-/
namespace NgxNats.Json

open Dialect

variable {env : JsonEnv} {ctx : JsonCtx}

/-- Sixteen digits fit a word. -/
theorem hexFrom_lt (digits : List UInt8) (value : Nat) :
    hexFrom value digits < (value + 1) * 16 ^ digits.length := by
  induction digits generalizing value with
  | nil => simp [hexFrom]
  | cons c rest ih =>
    have digit : (hexDigit c).getD 0 < 16 := by
      unfold hexDigit
      have bound := UInt8.toNat_lt c
      split
      · next range =>
        have high : c.toNat ≤ 57 := UInt8.le_iff_toNat_le.mp range.2
        rw [Option.getD_some]
        omega
      split
      · next range =>
        have high : c.toNat ≤ 102 := UInt8.le_iff_toNat_le.mp range.2
        rw [Option.getD_some]
        omega
      split
      · next range =>
        have high : c.toNat ≤ 70 := UInt8.le_iff_toNat_le.mp range.2
        rw [Option.getD_some]
        omega
      · decide
    have more := ih (value * 16 + (hexDigit c).getD 0)
    show hexFrom (value * 16 + (hexDigit c).getD 0) rest < _
    rw [List.length_cons, Nat.pow_succ']
    calc hexFrom (value * 16 + (hexDigit c).getD 0) rest
        < (value * 16 + (hexDigit c).getD 0 + 1) * 16 ^ rest.length := more
      _ ≤ ((value + 1) * 16) * 16 ^ rest.length := Nat.mul_le_mul_right _ (by omega)
      _ = (value + 1) * (16 * 16 ^ rest.length) := Nat.mul_assoc _ _ _

/-- A longer number is not smaller. -/
theorem le_hexFrom (digits : List UInt8) (value : Nat) : value ≤ hexFrom value digits := by
  induction digits generalizing value with
  | nil => exact Nat.le_refl _
  | cons c rest ih =>
    show value ≤ hexFrom (value * 16 + (hexDigit c).getD 0) rest
    have more := ih (value * 16 + (hexDigit c).getD 0)
    omega

/-- The loop of `ngx_nats_json_parse_hex` adds the digits it reads; none of them is lost when
they fit a word. -/
theorem Item.hexLoop_run {digits : List UInt8} {u64 : Nat}
    (all : ∀ c ∈ digits, (hexDigit c).isSome) (fits : hexFrom u64 digits < 2 ^ 64) :
    Item.hexLoop digits u64 ctx = (.ok (hexFrom u64 digits), ctx) := by
  induction digits generalizing u64 with
  | nil => rfl
  | cons c rest ih =>
    obtain ⟨digit, known⟩ := Option.isSome_iff_exists.mp (all c List.mem_cons_self)
    have step : hexFrom u64 (c :: rest) = hexFrom (u64 * 16 + digit) rest := by
      show hexFrom (u64 * 16 + (hexDigit c).getD 0) rest = _
      rw [known, Option.getD_some]
    rw [step] at fits ⊢
    have small : u64 * 16 + digit < 2 ^ 64 := Nat.lt_of_le_of_lt (le_hexFrom _ _) fits
    simp only [hexLoop, known]
    rw [Nat.mod_eq_of_lt small]
    exact ih (fun other inside => all other (List.mem_cons_of_mem c inside)) fits

/-- The loop of `ngx_nats_json_parse_hex` accepts hexadecimal digits only. -/
theorem Item.hexLoop_ends (digits : List UInt8) (u64 : Nat) :
    (Item.hexLoop digits u64).Ends ctx
      (fun _ last => last = ctx ∧ ∀ c ∈ digits, (hexDigit c).isSome)
      Refusal := by
  induction digits generalizing u64 with
  | nil => exact .of_ok rfl ⟨rfl, fun c none => absurd none List.not_mem_nil⟩
  | cons c rest ih =>
    simp only [hexLoop]
    cases known : hexDigit c with
    | none => exact .of_error rfl (show jsonErrSyntax < 0 by decide)
    | some digit =>
      apply Program.Ends.weaken (ih _)
      rintro _ last ⟨same, all⟩
      refine ⟨same, fun other inside => ?_⟩
      rcases List.mem_cons.mp inside with rfl | later
      · rw [known]
        rfl
      · exact all other later

/-- At most sixteen digits fit a word. -/
theorem hexFrom_fits {digits : List UInt8} (short : digits.length ≤ 16) :
    hexFrom 0 digits < 2 ^ 64 := by
  have bound := hexFrom_lt digits 0
  have power : 16 ^ digits.length ≤ 16 ^ 16 := Nat.pow_le_pow_right (by decide) short
  omega

/-- `ngx_nats_json_parse_hex` reads a hexadecimal number. -/
theorem Item.parseHex_run {x : UInt8} {digits : List UInt8} (short : digits.length ≤ 16)
    (all : ∀ c ∈ digits, (hexDigit c).isSome) :
    Item.parseHex (48 :: x :: digits) ctx =
      (.ok (.integer (Word.signed (hexFrom 0 digits))), ctx) := by
  unfold Item.parseHex
  rw [if_neg (by simp only [List.length_cons]; omega)]
  exact Program.bind_ok (Item.hexLoop_run all (hexFrom_fits short))

/-- `ngx_nats_json_parse_hex` reads hexadecimal numbers only. -/
theorem Item.parseHex_ends {strtod : List UInt8 → Nat × Nat} {x : UInt8} {digits : List UInt8}
    (mark : x = 120 ∨ x = 88) (nonempty : digits ≠ []) :
    (Item.parseHex (48 :: x :: digits)).Ends ctx (fun value last => last = ctx ∧
      Atom strtod (48 :: x :: digits) value) Refusal := by
  by_cases short : digits.length ≤ 16
  · by_cases all : ∀ c ∈ digits, (hexDigit c).isSome
    · exact .of_ok (Item.parseHex_run short all) ⟨rfl, .hex mark nonempty short all⟩
    · unfold Item.parseHex
      rw [if_neg (by simp only [List.length_cons]; omega)]
      apply Program.Ends.bind (Item.hexLoop_ends digits 0)
      intro value last read
      exact absurd read.2 all
  · unfold Item.parseHex
    rw [if_pos (by simp only [List.length_cons]; omega)]
    exact .of_error rfl (show jsonErrSyntax < 0 by decide)

/-- A longer number is not smaller. -/
theorem le_decimalFrom (digits : List UInt8) (value : Nat) : value ≤ decimalFrom value digits := by
  induction digits generalizing value with
  | nil => exact Nat.le_refl _
  | cons c rest ih =>
    show value ≤ decimalFrom (value * 10 + (c.toNat - 48)) rest
    have more := ih (value * 10 + (c.toNat - 48))
    omega

/-- A byte outside the digits. -/
theorem not_isDigit {c : UInt8} : c < 48 ∨ 57 < c ↔ ¬IsDigit c := by
  unfold IsDigit
  rw [not_and_or, UInt8.not_le, UInt8.not_le]

/-- The digit loop of `ngx_nats_json_parse_int` returns the value of the digits. The check before
each multiplication refuses only numbers that are out of range anyway. -/
theorem Item.intLoop_run {digits : List UInt8} {u64 : Nat} (all : ∀ c ∈ digits, IsDigit c)
    (fits : decimalFrom u64 digits ≤ 2 ^ 63) :
    Item.intLoop digits u64 ctx = (.ok (decimalFrom u64 digits), ctx) := by
  induction digits generalizing u64 with
  | nil => rfl
  | cons c rest ih =>
    have step : decimalFrom u64 (c :: rest) = decimalFrom (u64 * 10 + (c.toNat - 48)) rest := rfl
    rw [step] at fits ⊢
    have small := le_decimalFrom rest (u64 * 10 + (c.toNat - 48))
    simp only [intLoop]
    rw [if_neg (fun outside => not_isDigit.mp outside (all c List.mem_cons_self)),
      if_neg (show ¬922337203685477580 < u64 by omega), Nat.mod_eq_of_lt (by omega)]
    exact ih (fun other inside => all other (List.mem_cons_of_mem c inside)) fits

/-- The digit loop of `ngx_nats_json_parse_int` accepts digits only and never wraps. -/
theorem Item.intLoop_ends (digits : List UInt8) {u64 : Nat} (small : u64 ≤ 9223372036854775809) :
    (Item.intLoop digits u64).Ends ctx (fun value last => last = ctx ∧ (∀ c ∈ digits, IsDigit c) ∧
      value = decimalFrom u64 digits ∧ value ≤ 9223372036854775809) Refusal := by
  induction digits generalizing u64 with
  | nil => exact .of_ok rfl ⟨rfl, fun c none => absurd none List.not_mem_nil, rfl, small⟩
  | cons c rest ih =>
    simp only [intLoop]
    by_cases digit : IsDigit c
    swap
    · rw [if_pos (not_isDigit.mpr digit)]
      exact .of_error rfl (show jsonErrSyntax < 0 by decide)
    rw [if_neg fun outside => not_isDigit.mp outside digit]
    by_cases large : 922337203685477580 < u64
    · rw [if_pos large]
      exact .of_error rfl (show jsonErrSyntax < 0 by decide)
    rw [if_neg large]
    have high : c.toNat ≤ 57 := UInt8.le_iff_toNat_le.mp digit.2
    rw [Nat.mod_eq_of_lt (by omega)]
    apply Program.Ends.weaken (ih (by omega))
    rintro value last ⟨same, all, read, bound⟩
    refine ⟨same, fun other inside => ?_, read, bound⟩
    rcases List.mem_cons.mp inside with rfl | later
    · exact digit
    · exact all other later

/-- Negation at the lower end of the range wraps back to itself. -/
theorem signed_neg {value : Nat} (fits : value ≤ 2 ^ 63) :
    Word.signed (-Word.signed value) = -(value : Int) := by
  by_cases lowest : value = 2 ^ 63
  · subst lowest
    decide
  · have same : Word.signed value = value := Word.signed_of_bounds (by omega) (by omega)
    rw [same]
    exact Word.signed_of_bounds (by omega) (by omega)

/-- The check `u64 - 1 > INT64_MAX` refuses zero and what is below the range. -/
theorem unsigned_pred {value : Nat} (small : value ≤ 9223372036854775809) :
    9223372036854775807 < Word.unsigned ((value : Int) - 1) ↔ value = 0 ∨ 2 ^ 63 < value := by
  unfold Word.unsigned
  omega

/-- `ngx_nats_json_parse_int` reads a positive number. -/
theorem Item.parseInt_run {digits : List UInt8} (nonempty : digits ≠ [])
    (all : ∀ c ∈ digits, IsDigit c)
    (fits : decimalValue digits < 2 ^ 63) :
    Item.parseInt digits ctx = (.ok (.integer (decimalValue digits)), ctx) := by
  have unsigned : digits.head? ≠ some 45 := by
    intro minus
    exact absurd (all 45 (List.mem_of_mem_head? minus)) (by decide)
  unfold Item.parseInt
  simp only [unsigned, if_false]
  have loop : Item.intLoop digits 0 ctx = (.ok (decimalValue digits), ctx) :=
    Item.intLoop_run all (Nat.le_of_lt fits)
  rw [if_neg
    (show ¬digits.length = 0 from fun empty => nonempty (List.length_eq_zero_iff.mp empty)),
    Program.bind_ok loop, if_neg (Nat.not_lt_of_le (Nat.le_of_lt_succ fits))]
  rfl

/-- `ngx_nats_json_parse_int` reads a negative number. -/
theorem Item.parseInt_run_negative {digits : List UInt8} (all : ∀ c ∈ digits, IsDigit c)
    (positive : 0 < decimalValue digits) (fits : decimalValue digits ≤ 2 ^ 63) :
    Item.parseInt (45 :: digits) ctx = (.ok (.integer (-(decimalValue digits : Int))), ctx) := by
  have nonempty : ¬digits.length = 0 := by
    intro empty
    rw [List.length_eq_zero_iff.mp empty] at positive
    exact absurd positive (Nat.lt_irrefl 0)
  have refused : ¬9223372036854775807 < Word.unsigned ((decimalValue digits : Int) - 1) := by
    rw [unsigned_pred (Nat.le_trans fits (by decide))]
    omega
  unfold Item.parseInt
  simp only [List.head?_cons, List.drop_one, List.tail_cons, if_true]
  have loop : Item.intLoop digits 0 ctx = (.ok (decimalValue digits), ctx) :=
    Item.intLoop_run all fits
  rw [if_neg nonempty, Program.bind_ok loop, if_neg refused, signed_neg fits]
  rfl

/-- `ngx_nats_json_parse_int` reads decimal numbers only. -/
theorem Item.parseInt_ends {strtod : List UInt8 → Nat × Nat} {c : UInt8} {rest : List UInt8}
    (leading : c ≠ 48) : (Item.parseInt (c :: rest)).Ends ctx (fun value last => last = ctx ∧
      Atom strtod (c :: rest) value) Refusal := by
  by_cases minus : c = 45
  · subst minus
    by_cases derives : (∀ c ∈ rest, IsDigit c) ∧ 0 < decimalValue rest ∧ decimalValue rest ≤ 2 ^ 63
    · obtain ⟨all, positive, fits⟩ := derives
      exact .of_ok (Item.parseInt_run_negative all positive fits) ⟨rfl, .negative all positive fits⟩
    unfold Item.parseInt
    simp only [List.head?_cons, List.drop_one, List.tail_cons, if_true]
    split
    · exact .of_error rfl (show jsonErrSyntax < 0 by decide)
    apply Program.Ends.bind (Item.intLoop_ends rest (Nat.zero_le _))
    rintro value last ⟨rfl, all, rfl, bound⟩
    have refused : decimalValue rest = 0 ∨ 2 ^ 63 < decimalValue rest := by
      by_contra inRange
      exact derives ⟨all, by omega, by omega⟩
    rw [if_pos ((unsigned_pred bound).mpr refused)]
    exact .of_error rfl (show jsonErrSyntax < 0 by decide)
  · by_cases derives : (∀ other ∈ c :: rest, IsDigit other) ∧ decimalValue (c :: rest) < 2 ^ 63
    · obtain ⟨all, fits⟩ := derives
      have first : (c :: rest).head? ≠ some 48 := fun zero => leading (Option.some.inj zero)
      exact .of_ok (Item.parseInt_run (List.cons_ne_nil c rest) all fits)
        ⟨rfl, .decimal (List.cons_ne_nil c rest) all first fits⟩
    unfold Item.parseInt
    have unsigned : some c ≠ some 45 := fun is => minus (Option.some.inj is)
    simp only [List.head?_cons, unsigned, if_false]
    rw [if_neg (show ¬(c :: rest).length = 0 from Nat.succ_ne_zero _)]
    apply Program.Ends.bind (Item.intLoop_ends (c :: rest) (Nat.zero_le _))
    rintro value last ⟨rfl, all, rfl, bound⟩
    have large : ¬decimalFrom 0 (c :: rest) < 2 ^ 63 := fun fits => derives ⟨all, fits⟩
    rw [if_pos (show 9223372036854775807 < decimalFrom 0 (c :: rest) by omega)]
    exact .of_error rfl (show jsonErrSyntax < 0 by decide)

/-- `ngx_nats_json_parse_double` on a text that fits. -/
theorem Item.parseDouble_run (env : JsonEnv) {item : List UInt8} (short : item.length ≤ 31)
    (ctx : JsonCtx) : Item.parseDouble env item ctx =
      if (env.strtod item).2 ≠ item.length then (.error (.code jsonErrSyntax), ctx)
      else (.ok (.double (env.strtod item).1), ctx) := by
  unfold Item.parseDouble
  rw [if_neg (Nat.not_lt_of_le short), Program.ite_run]
  rfl

/-- `ngx_strncasecmp` with a literal in lower case. -/
theorem strncasecmp_iff {token : List UInt8} {word : String}
    (lower : (ascii word).map toLower = ascii word) :
    strncasecmp token word = true ↔ token.map toLower = ascii word := by
  unfold strncasecmp
  rw [lower, beq_iff_eq]

/-- A byte a number can start with is not changed to lower case, and is below the letters. -/
theorem toLower_start {c : UInt8} (starts : IsDigit c ∨ c = 46 ∨ c = 43 ∨ c = 45) :
    toLower c < 97 := by
  have range : c.toNat ≤ 57 := by
    rcases starts with digit | rfl | rfl | rfl
    · exact UInt8.le_iff_toNat_le.mp digit.2
    · decide
    · decide
    · decide
  have small : ¬(65 ≤ c ∧ c ≤ 90) := by
    intro capital
    have low : 65 ≤ c.toNat := UInt8.le_iff_toNat_le.mp capital.1
    omega
  unfold toLower
  rw [if_neg small, UInt8.lt_iff_toNat_lt]
  exact Nat.lt_of_le_of_lt range (by decide)

/-- A token that starts like a number is none of the words. -/
theorem no_word {token word : List UInt8} (starts : NumberStart token)
    (letter : ∃ c ∈ word.head?, 97 ≤ c) : token.map toLower ≠ word := by
  rintro rfl
  obtain ⟨first, head, start⟩ := starts
  obtain ⟨c, image, low⟩ := letter
  rw [List.head?_map, Option.mem_def.mp head] at image
  cases image
  exact absurd (toLower_start start) (UInt8.not_lt.mpr low)

/-- The check of the first byte of a number. -/
theorem start_iff {c : UInt8} : ¬((c < 48 ∨ 57 < c) ∧ c ≠ 46 ∧ c ≠ 43 ∧ c ≠ 45) ↔
    IsDigit c ∨ c = 46 ∨ c = 43 ∨ c = 45 := by
  rw [not_isDigit]
  tauto

/-- A token with a mark of a double. -/
theorem marked_iff {token : List UInt8} :
    (token.any fun c => c = 46 || c = 101 || c = 69) = true ↔
      ∃ c ∈ token, c = 46 ∨ c = 101 ∨ c = 69 := by
  simp only [List.any_eq_true, Bool.or_eq_true, decide_eq_true_eq, or_assoc]

/-- A token that starts like a number is classified by its first bytes and its marks. -/
theorem primitive_number {c : UInt8} {rest : List UInt8} (starts : NumberStart (c :: rest)) :
    primitive env (c :: rest) c =
      if c = 48 ∧ (c :: rest).length = 1 then return .integer 0
      else if c = 48 ∧ 2 < (c :: rest).length ∧ ((c :: rest)[1]? = some 120 ∨
        (c :: rest)[1]? = some 88) then Item.parseHex (c :: rest)
      else if (c :: rest).any fun c => c = 46 || c = 101 || c = 69 then
        Item.parseDouble env (c :: rest)
      else if c = 48 then stop jsonErrSyntax
      else Item.parseInt (c :: rest) := by
  have other : ∀ word : String, (ascii word).map toLower = ascii word →
      (∃ c ∈ (ascii word).head?, 97 ≤ c) → ¬strncasecmp (c :: rest) word = true := by
    intro word lower letter same
    exact no_word starts letter ((strncasecmp_iff lower).mp same)
  have null := other "null" (by decide) ⟨110, by decide, by decide⟩
  have yes := other "true" (by decide) ⟨116, by decide, by decide⟩
  have no := other "false" (by decide) ⟨102, by decide, by decide⟩
  obtain ⟨first, head, start⟩ := starts
  cases head
  unfold primitive
  rw [if_neg fun both => null both.2, if_neg fun both => yes both.2, if_neg fun both => no both.2,
    if_neg (start_iff.mpr start)]

/-- The hexadecimal mark of `ngx_nats_json_parse_value`. -/
theorem hexadecimal_iff {c : UInt8} {rest : List UInt8} :
    Hexadecimal (c :: rest) ↔ c = 48 ∧ 2 < (c :: rest).length ∧
      ((c :: rest)[1]? = some 120 ∨ (c :: rest)[1]? = some 88) := by
  constructor
  · rintro ⟨x, digits, same, mark, nonempty⟩
    cases same
    have longer := List.length_pos_of_ne_nil nonempty
    refine ⟨rfl, by simp only [List.length_cons]; omega, ?_⟩
    rcases mark with rfl | rfl
    · exact Or.inl rfl
    · exact Or.inr rfl
  · rintro ⟨rfl, longer, mark⟩
    match rest with
    | [] => simp at longer
    | [_] => simp at longer
    | x :: digit :: digits =>
      refine ⟨x, digit :: digits, rfl, ?_, List.cons_ne_nil _ _⟩
      rcases mark with is | is
      · exact Or.inl (Option.some.inj is)
      · exact Or.inr (Option.some.inj is)

/-- A token of the grammar is classified as what it is. -/
theorem primitive_run {c : UInt8} {rest : List UInt8} {value : JsonValue}
    (derives : Atom env.strtod (c :: rest) value) :
    primitive env (c :: rest) c ctx = (.ok value, ctx) := by
  generalize same : c :: rest = token at derives
  cases derives with
  | nullWord word =>
    subst same
    have four : (c :: rest).length = 4 := by
      rw [← List.length_map (f := toLower), word]
      rfl
    unfold primitive
    rw [if_pos ⟨four, (strncasecmp_iff (by decide)).mpr word⟩]
    rfl
  | trueWord word =>
    subst same
    have four : (c :: rest).length = 4 := by
      rw [← List.length_map (f := toLower), word]
      rfl
    have notNull : ¬strncasecmp (c :: rest) "null" = true := by
      rw [strncasecmp_iff (by decide), word]
      decide
    unfold primitive
    rw [if_neg fun both => notNull both.2, if_pos ⟨four, (strncasecmp_iff (by decide)).mpr word⟩]
    rfl
  | falseWord word =>
    subst same
    have five : (c :: rest).length = 5 := by
      rw [← List.length_map (f := toLower), word]
      rfl
    have notFour : (c :: rest).length ≠ 4 := by omega
    unfold primitive
    rw [if_neg fun both => notFour both.1, if_neg fun both => notFour both.1,
      if_pos ⟨five, (strncasecmp_iff (by decide)).mpr word⟩]
    rfl
  | zero =>
    cases same
    rfl
  | @hex x digits mark nonempty short all =>
    cases same
    have marked := hexadecimal_iff.mp ⟨x, digits, rfl, mark, nonempty⟩
    rw [primitive_number ⟨48, rfl, Or.inl (by decide)⟩,
      if_neg (fun one => absurd one.2 (by simp)), if_pos marked]
    exact Item.parseHex_run short all
  | decimal nonempty all leading fits =>
    subst same
    have digit := all c List.mem_cons_self
    have notZero : c ≠ 48 := fun zero => leading (congrArg some zero)
    have unmarked : ¬((c :: rest).any fun c => c = 46 || c = 101 || c = 69) = true := by
      rw [marked_iff]
      rintro ⟨other, inside, rfl | rfl | rfl⟩
      · exact absurd (all 46 inside) (by decide)
      · exact absurd (all 101 inside) (by decide)
      · exact absurd (all 69 inside) (by decide)
    rw [primitive_number ⟨c, rfl, Or.inl digit⟩, if_neg fun both => notZero both.1,
      if_neg fun both => notZero both.1, if_neg unmarked, if_neg notZero]
    exact Item.parseInt_run nonempty all fits
  | @negative digits all positive fits =>
    cases same
    have unmarked : ¬((45 :: rest).any fun c => c = 46 || c = 101 || c = 69) = true := by
      rw [marked_iff]
      rintro ⟨other, inside, mark⟩
      rcases List.mem_cons.mp inside with rfl | later
      · exact absurd mark (by decide)
      · rcases mark with rfl | rfl | rfl
        · exact absurd (all 46 later) (by decide)
        · exact absurd (all 101 later) (by decide)
        · exact absurd (all 69 later) (by decide)
    have notZero : (45 : UInt8) ≠ 48 := by decide
    rw [primitive_number ⟨45, rfl, Or.inr (Or.inr (Or.inr rfl))⟩, if_neg fun both => notZero both.1,
      if_neg fun both => notZero both.1, if_neg unmarked, if_neg notZero]
    exact Item.parseInt_run_negative all positive fits
  | double starts plain marked short read =>
    subst same
    have notZero : ¬(c = 48 ∧ (c :: rest).length = 1) := by
      rintro ⟨rfl, one⟩
      have nothing : rest = [] := List.length_eq_zero_iff.mp (Nat.succ.inj one)
      subst nothing
      exact absurd marked (by decide)
    rw [primitive_number starts, if_neg notZero, if_neg fun hex => plain (hexadecimal_iff.mpr hex),
      if_pos (marked_iff.mpr marked)]
    rw [Item.parseDouble_run env short, read, if_neg (fun other => other rfl)]

/-- Only tokens of the grammar are accepted. -/
theorem primitive_ends (env : JsonEnv) (c : UInt8) (rest : List UInt8) (ctx : JsonCtx) :
    (primitive env (c :: rest) c).Ends ctx (fun value last => last = ctx ∧
      Atom env.strtod (c :: rest) value) Refusal := by
  by_cases starts : NumberStart (c :: rest)
  · rw [primitive_number starts]
    split
    · next zero =>
      obtain ⟨rfl, one⟩ := zero
      have nothing : rest = [] := List.length_eq_zero_iff.mp (Nat.succ.inj one)
      subst nothing
      exact .of_ok rfl ⟨rfl, .zero⟩
    split
    · next marked =>
      obtain ⟨x, digits, same, mark, nonempty⟩ := hexadecimal_iff.mpr marked
      rw [same]
      exact Item.parseHex_ends mark nonempty
    next plain =>
    split
    · next marked =>
      by_cases long : 31 < (c :: rest).length
      · unfold Item.parseDouble
        rw [if_pos long]
        exact .of_error rfl (show jsonErrSyntax < 0 by decide)
      have short := Nat.le_of_not_lt long
      have run := Item.parseDouble_run env short ctx
      by_cases consumed : (env.strtod (c :: rest)).2 = (c :: rest).length
      · rw [if_neg fun other => other consumed] at run
        exact .of_ok run ⟨rfl, .double starts (fun hex => plain (hexadecimal_iff.mp hex))
          (marked_iff.mp marked) short (Prod.ext rfl consumed)⟩
      · rw [if_pos consumed] at run
        exact .of_error run (show jsonErrSyntax < 0 by decide)
    split
    · exact .of_error rfl (show jsonErrSyntax < 0 by decide)
    · next leading => exact Item.parseInt_ends leading
  · unfold primitive
    split
    · next word =>
      exact .of_ok rfl ⟨rfl, .nullWord ((strncasecmp_iff (by decide)).mp word.2)⟩
    split
    · next word =>
      exact .of_ok rfl ⟨rfl, .trueWord ((strncasecmp_iff (by decide)).mp word.2)⟩
    split
    · next word =>
      exact .of_ok rfl ⟨rfl, .falseWord ((strncasecmp_iff (by decide)).mp word.2)⟩
    split
    · exact .of_error rfl (show jsonErrSyntax < 0 by decide)
    · next start => exact absurd ⟨c, rfl, start_iff.mp start⟩ starts

end NgxNats.Json
