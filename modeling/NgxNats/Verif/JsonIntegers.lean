import NgxNats.Verif.JsonRoundTrip

/-!
# Integer literals

JSON writes an integer as digits without a leading zero, with a minus sign before them if it is
negative; the sign may also stand before a single zero. The parser reads such a literal exactly or
refuses it. It refuses what does not fit 64 bits, and `-0`: the check of the lower end of the range
subtracts one, which wraps around at zero.
-/
namespace NgxNats

/-- An integer literal: a sign and digits, the first of which is zero only if it is the only one. -/
structure IntegerLiteral where
  negative : Bool
  digits : List UInt8
  nonempty : digits ≠ []
  all : ∀ c ∈ digits, IsDigit c
  leading : digits.head? = some 48 → digits = [48]

/-- A value that an `int64_t` holds. -/
def InInt64 (value : Int) : Prop := -2 ^ 63 ≤ value ∧ value ≤ 2 ^ 63 - 1

namespace IntegerLiteral

/-- The text of a literal. -/
def text (literal : IntegerLiteral) : List UInt8 :=
  if literal.negative then 45 :: literal.digits else literal.digits

/-- The mathematical value of a literal. -/
def value (literal : IntegerLiteral) : Int :=
  if literal.negative then -decimalValue literal.digits else decimalValue literal.digits

/-- `ngx_nats_json_parse_value` reads a literal exactly: its value when that fits, and otherwise a
negative error code. -/
def ReadExactly (literal : IntegerLiteral) (env : JsonEnv) (text : Str) (fuel : Nat)
    (ctx : JsonCtx) : Prop :=
  (InInt64 literal.value →
    ∃ last, Json.parseValue env text fuel ctx = (.ok (.integer literal.value), last)) ∧
  (¬InInt64 literal.value →
    ∃ rc < 0, ∃ last, Json.parseValue env text fuel ctx = (.error (.code rc), last))

end IntegerLiteral

open Dialect Json

variable {literal : IntegerLiteral}

/-- A run of digits without a leading zero is zero only where it is the digit zero. -/
theorem decimalValue_positive {digits : List UInt8} (nonempty : digits ≠ [])
    (all : ∀ c ∈ digits, IsDigit c) (leading : digits.head? ≠ some 48) :
    0 < decimalValue digits := by
  obtain ⟨c, rest, rfl⟩ := List.exists_cons_of_ne_nil nonempty
  have digit := all c List.mem_cons_self
  have low : 48 ≤ c.toNat := UInt8.le_iff_toNat_le.mp digit.1
  have other : c.toNat ≠ 48 := by
    intro same
    exact leading (congrArg some (UInt8.toNat_inj.mp same))
  have step : decimalValue (c :: rest) = decimalFrom (0 * 10 + (c.toNat - 48)) rest := rfl
  have grows := le_decimalFrom rest (0 * 10 + (c.toNat - 48))
  omega

/-- The digits of a literal are the digit zero, or they start with another digit. -/
theorem IntegerLiteral.digits_cases (literal : IntegerLiteral) :
    literal.digits = [48] ∨ literal.digits.head? ≠ some 48 ∧ 0 < decimalValue literal.digits := by
  by_cases zero : literal.digits.head? = some 48
  · exact .inl (literal.leading zero)
  · exact .inr ⟨zero, decimalValue_positive literal.nonempty literal.all zero⟩

/-- A literal that fits and is not `-0` is a text of the grammar. -/
theorem IntegerLiteral.atom (strtod : List UInt8 → Nat × Nat) (other : literal.text ≠ ascii "-0")
    (fits : InInt64 literal.value) : Atom strtod literal.text (.integer literal.value) := by
  obtain ⟨low, high⟩ := fits
  unfold IntegerLiteral.text at other ⊢
  unfold IntegerLiteral.value at low high ⊢
  cases sign : literal.negative with
  | true =>
    simp only [sign, ↓reduceIte] at other low high ⊢
    rcases literal.digits_cases with zero | ⟨-, positive⟩
    · rw [zero] at other
      exact absurd rfl other
    · exact .negative literal.all positive (by omega)
  | false =>
    simp only [sign, Bool.false_eq_true, ↓reduceIte] at low high ⊢
    rcases literal.digits_cases with zero | ⟨leading, -⟩
    · rw [zero]
      exact .zero
    · exact .decimal literal.nonempty literal.all leading (by omega)

/-- A literal consists of digits and perhaps a sign. -/
theorem IntegerLiteral.bytes (literal : IntegerLiteral) :
    ∀ c ∈ literal.text, IsDigit c ∨ c = 45 := by
  intro c among
  unfold IntegerLiteral.text at among
  split at among
  · rcases List.mem_cons.mp among with sign | digit
    · exact .inr sign
    · exact .inl (literal.all c digit)
  · exact .inl (literal.all c among)

/-- A literal starts with a digit or the sign. -/
theorem IntegerLiteral.head (literal : IntegerLiteral) :
    ∃ c rest, literal.text = c :: rest ∧ (IsDigit c ∨ c = 45) := by
  have nonempty : literal.text ≠ [] := by
    unfold IntegerLiteral.text
    split
    · exact List.cons_ne_nil _ _
    · exact literal.nonempty
  obtain ⟨c, rest, same⟩ := List.exists_cons_of_ne_nil nonempty
  exact ⟨c, rest, same, literal.bytes c (same ▸ List.mem_cons_self)⟩

/-- A text of digits is a literal without a sign, and one that starts with the sign is a literal
with it. -/
theorem IntegerLiteral.text_cases (literal : IntegerLiteral) :
    literal.negative = false ∧ literal.text = literal.digits ∧ literal.text.head? ≠ some 45 ∨
      literal.negative = true ∧ literal.text = 45 :: literal.digits := by
  cases sign : literal.negative with
  | true => exact .inr ⟨rfl, by unfold IntegerLiteral.text; rw [sign, if_pos rfl]⟩
  | false =>
    have same : literal.text = literal.digits := by
      unfold IntegerLiteral.text
      rw [sign, if_neg Bool.false_ne_true]
    refine .inl ⟨rfl, same, fun first => ?_⟩
    rw [same] at first
    exact absurd (literal.all 45 (List.mem_of_mem_head? first)) (by decide)

/-- What the grammar reads of a literal fits, and is not `-0`. -/
theorem IntegerLiteral.fits_of_atom {strtod : List UInt8 → Nat × Nat} {found : JsonValue}
    (derives : Atom strtod literal.text found) :
    InInt64 literal.value ∧ literal.text ≠ ascii "-0" := by
  have bytes := literal.bytes
  have cases_ := literal.text_cases
  have starts : NumberStart literal.text := by
    obtain ⟨c, rest, same, digit | sign⟩ := literal.head
    · exact ⟨c, by rw [same]; rfl, .inl digit⟩
    · exact ⟨c, by rw [same]; rfl, .inr (.inr (.inr sign))⟩
  have valued : literal.value =
      if literal.negative then -(decimalValue literal.digits : Int)
      else decimalValue literal.digits := rfl
  generalize text : literal.text = token at derives bytes starts cases_
  cases derives with
  | nullWord word => exact absurd word (no_word starts ⟨110, by decide, by decide⟩)
  | trueWord word => exact absurd word (no_word starts ⟨116, by decide, by decide⟩)
  | falseWord word => exact absurd word (no_word starts ⟨102, by decide, by decide⟩)
  | zero =>
    rcases cases_ with ⟨sign, same, -⟩ | ⟨-, same⟩
    · rw [valued, sign, ← same]
      exact ⟨⟨by decide, by decide⟩, by decide⟩
    · cases same
  | @hex x digits mark nonempty short all =>
    rcases bytes x (List.mem_cons_of_mem 48 List.mem_cons_self) with digit | sign
    · rcases mark with rfl | rfl
      · exact absurd digit (by decide)
      · exact absurd digit (by decide)
    · subst sign
      exact absurd mark (by decide)
  | decimal nonempty all leading fits =>
    rcases cases_ with ⟨sign, same, -⟩ | ⟨-, same⟩
    · rw [valued, sign, ← same]
      refine ⟨⟨?_, ?_⟩, ?_⟩
      · show -2 ^ 63 ≤ (decimalValue token : Int)
        omega
      · show (decimalValue token : Int) ≤ 2 ^ 63 - 1
        omega
      · rintro rfl
        exact absurd (all 45 List.mem_cons_self) (by decide)
    · subst same
      exact absurd (all 45 List.mem_cons_self) (by decide)
  | @negative digits all positive fits =>
    rcases cases_ with ⟨-, -, unsigned⟩ | ⟨sign, same⟩
    · exact absurd rfl unsigned
    · cases same
      rw [valued, sign]
      refine ⟨⟨?_, ?_⟩, ?_⟩
      · show -2 ^ 63 ≤ -(decimalValue literal.digits : Int)
        omega
      · show -(decimalValue literal.digits : Int) ≤ 2 ^ 63 - 1
        omega
      · intro minusZero
        have zero : literal.digits = [48] := (List.cons.inj minusZero).2
        rw [zero] at positive
        exact absurd positive (by decide)
  | double plain hex marked short read =>
    obtain ⟨c, among, mark⟩ := marked
    rcases bytes c among with digit | sign
    · rcases mark with rfl | rfl | rfl
      · exact absurd digit (by decide)
      · exact absurd digit (by decide)
      · exact absurd digit (by decide)
    · subst sign
      exact absurd mark (by decide)

/-- `ngx_nats_json_parse_value` classifies a literal as a whole token. -/
theorem IntegerLiteral.parseValue_eq (env : JsonEnv) {b gap rest : List UInt8} {ctx : JsonCtx}
    (here : At b (gap ++ literal.text ++ rest) ctx) (blank : Spaces gap) (ended : Ended rest)
    (fuel : Nat) : ∃ c tail ctx', literal.text = c :: tail ∧
      parseValue env (.ofList b) (fuel + 1) ctx = primitive env (c :: tail) c ctx' := by
  obtain ⟨c, tail, text, digit⟩ := literal.head
  have whole : ∀ other ∈ c :: tail, other ∉ delimiters := by
    intro other among
    rcases literal.bytes other (text ▸ among) with digit | rfl
    · exact IsDigit.whole digit
    · decide
  rw [text, List.append_assoc] at here
  have first := whole c List.mem_cons_self
  have space : c ∉ spaces := fun space => first (List.mem_append_left _ space)
  have brace : c ≠ 123 := by
    rintro rfl
    exact first (by decide)
  have bracket : c ≠ 91 := by
    rintro rfl
    exact first (by decide)
  have quote : ¬(c = 39 ∨ c = 34) := by
    rintro (rfl | rfl)
    · exact absurd digit (by decide)
    · exact absurd digit (by decide)
  refine ⟨c, tail, { ctx with pos := ctx.pos + gap.length + (c :: tail).length }, text, ?_⟩
  rw [parseValue, Program.bind_ok (skipSpaces_run here blank space), Program.get_bind,
    Program.bind_ok (byte_head here.skip.left _), if_neg brace, if_neg bracket, if_neg quote]
  exact parsePrimitive_eq here.skip rfl whole ended

/-- An integer literal is read exactly if and only if it is not `-0`, of any length and wherever a
value may stand. -/
theorem integer_exact_iff (env : JsonEnv) (literal : IntegerLiteral) (b gap rest : List UInt8)
    (ctx : JsonCtx) (here : At b (gap ++ literal.text ++ rest) ctx) (blank : Spaces gap)
    (ended : Ended rest) (fuel : Nat) :
    literal.ReadExactly env (.ofList b) (fuel + 1) ctx ↔ literal.text ≠ ascii "-0" := by
  obtain ⟨c, tail, ctx', text, run⟩ := literal.parseValue_eq env here blank ended fuel
  unfold IntegerLiteral.ReadExactly
  rw [run]
  constructor
  · rintro ⟨exact_, -⟩ minusZero
    rw [text] at minusZero
    have refused : primitive env (c :: tail) c ctx' = (.error (.code jsonErrSyntax), ctx') := by
      cases minusZero
      rfl
    have zero : literal.value = 0 := by
      rcases literal.text_cases with ⟨-, -, unsigned⟩ | ⟨sign, same⟩
      · rw [text, minusZero] at unsigned
        exact absurd rfl unsigned
      · rw [text, minusZero] at same
        have digits : literal.digits = [48] := (List.cons.inj same).2.symm
        unfold IntegerLiteral.value
        rw [digits, sign]
        rfl
    have inside : InInt64 literal.value := by
      rw [zero]
      exact ⟨by decide, by decide⟩
    obtain ⟨last, accepted⟩ := exact_ inside
    rw [refused] at accepted
    cases accepted
  · intro other
    refine ⟨fun fits => ?_, fun unfit => ?_⟩
    · have derives := literal.atom env.strtod other fits
      rw [text] at derives
      exact ⟨ctx', primitive_run derives⟩
    · have ends := primitive_ends env c tail ctx'
      match outcome : primitive env (c :: tail) c ctx' with
      | (.ok found, last) =>
        have derives := (ends.ok outcome).2
        rw [← text] at derives
        exact absurd (IntegerLiteral.fits_of_atom derives).1 unfit
      | (.error (.code rc), last) => exact ⟨rc, ends.error outcome, last, rfl⟩
      | (.error (.fault stop), last) => exact (ends.error outcome).elim

/-- The least 64-bit integer. -/
def leastInteger : IntegerLiteral where
  negative := true
  digits := ascii "9223372036854775808"
  nonempty := by decide
  all := by decide +kernel
  leading := by decide

/-- The least integer as the last element of an array. -/
theorem integer_exact_least :
    leastInteger.ReadExactly plainJson (.ofList (ascii "[7, -9223372036854775808]")) 1
        { pos := 3 } ↔
      leastInteger.text ≠ ascii "-0" :=
  integer_exact_iff plainJson leastInteger _ [32] [93] { pos := 3 }
    ⟨by decide, by decide, 0, by decide, by decide⟩
    (show ∀ c ∈ [32], c ∈ spaces by decide +kernel)
    (show ∀ c ∈ [(93 : UInt8)].head?, c ∈ delimiters by decide +kernel) 0

/-- A zero with a sign. -/
def minusZero : IntegerLiteral where
  negative := true
  digits := [48]
  nonempty := by decide
  all := by decide +kernel
  leading := fun _ => rfl

/-- `-0` is zero, which fits, and is refused. -/
theorem minus_zero_refused :
    ¬∀ (env : JsonEnv) (literal : IntegerLiteral) (b gap rest : List UInt8) (ctx : JsonCtx),
      At b (gap ++ literal.text ++ rest) ctx → Spaces gap → Ended rest → ∀ fuel,
        literal.ReadExactly env (.ofList b) (fuel + 1) ctx := by
  intro claim
  have here : At minusZero.text ([] ++ minusZero.text ++ []) {} :=
    ⟨by decide, by decide, 0, by decide, by decide⟩
  obtain ⟨last, accepted⟩ := (claim plainJson minusZero minusZero.text [] [] {} here
    (List.forall_mem_nil _) (fun _ none => nomatch none) 0).1 ⟨by decide, by decide⟩
  have refused : (parseValue plainJson (.ofList minusZero.text) 1 {}).1 =
      .error (.code jsonErrSyntax) := rfl
  rw [accepted] at refused
  cases refused

end NgxNats
