import Mathlib.Data.List.TakeWhile
import NgxNats.Model.JsonPrint
import NgxNats.Verif.JsonDialect

/-!
# Parsing undoes printing

The text printed for a value is a text of that value in the grammar of the dialect, so the parser
reads the value back. Printing does not escape, so the strings of the value must not need it.
-/
namespace NgxNats

open Dialect

/-- A string that `%s` prints between quotes as it is: no NUL, no double quote, no backslash, and
not longer than the parser allows. -/
def Unescaped (bytes : List UInt8) : Prop :=
  (∀ c ∈ bytes, c ≠ 0 ∧ c ≠ 34 ∧ c ≠ 92) ∧ bytes.length ≤ 1048574

mutual

/-- A value without doubles whose integers are 64-bit words, whose names are not empty and whose
names and strings need no escapes. A boolean is 0 or 1. -/
def Printable : JsonValue → Prop
  | .null => True
  | .boolean vint => vint = 0 ∨ vint = 1
  | .integer vint => -(2 ^ 63 : Int) ≤ vint ∧ vint < 2 ^ 63
  | .double _ => False
  | .string vstr => Unescaped vstr
  | .object fields => PrintableFields fields
  | .array values => PrintableValues values

/-- Every field has a name that is not empty, and a printable value. -/
def PrintableFields : List (List UInt8 × JsonValue) → Prop
  | [] => True
  | (name, value) :: rest =>
    (name ≠ [] ∧ Unescaped name) ∧ Printable value ∧ PrintableFields rest

/-- Every value is printable. -/
def PrintableValues : List JsonValue → Prop
  | [] => True
  | value :: rest => Printable value ∧ PrintableValues rest

end

/-- An object or an array. -/
def JsonValue.Composite : JsonValue → Prop
  | .object _ | .array _ => True
  | .null | .boolean _ | .integer _ | .double _ | .string _ => False

namespace Json

/-- The value of digits written one after the other. -/
theorem decimalFrom_append (value : Nat) (first second : List UInt8) :
    decimalFrom value (first ++ second) = decimalFrom (decimalFrom value first) second :=
  List.foldl_append

/-- The digits of a number in front of what was written before: as many as the number needs, the
first of them a zero only for the number zero. -/
structure Digits (u64 : Nat) (digits : List UInt8) : Prop where
  nonempty : digits ≠ []
  all : ∀ c ∈ digits, IsDigit c
  value : decimalValue digits = u64
  leading : digits.head? = some 48 → u64 = 0

/-- The digit `n % 10 + '0'`. -/
theorem digit_byte {n : Nat} : IsDigit (n % 10 + 48).toUInt8 ∧
    (n % 10 + 48).toUInt8.toNat = n % 10 + 48 := by
  have small : (n % 10 + 48).toUInt8.toNat = n % 10 + 48 := by
    rw [Nat.toUInt8, UInt8.toNat_ofNat']
    omega
  refine ⟨⟨?_, ?_⟩, small⟩
  · rw [UInt8.le_iff_toNat_le, small]
    exact Nat.le_add_left _ _
  · rw [UInt8.le_iff_toNat_le, small]
    show n % 10 + 48 ≤ 57
    omega

/-- The digit loop writes the digits of a number that has room. -/
theorem digitLoop_run (room u64 : Nat) (fits : u64 < 10 ^ room) (positive : 0 < room)
    (numbuf : List UInt8) :
    ∃ digits, digitLoop room u64 numbuf = .ok (digits ++ numbuf) ∧ Digits u64 digits := by
  induction room generalizing u64 numbuf with
  | zero => exact absurd positive (Nat.lt_irrefl 0)
  | succ room ih =>
    obtain ⟨digit, byte⟩ := digit_byte (n := u64)
    simp only [digitLoop]
    by_cases more : u64 / 10 ≠ 0
    · rw [if_pos more]
      have room_left : 0 < room := by
        by_contra none
        have zero : room = 0 := by omega
        subst zero
        omega
      have fewer : u64 / 10 < 10 ^ room := by
        rw [Nat.pow_succ] at fits
        omega
      obtain ⟨digits, run, written⟩ :=
        ih (u64 / 10) fewer room_left ((u64 % 10 + 48).toUInt8 :: numbuf)
      refine ⟨digits ++ [(u64 % 10 + 48).toUInt8], ?_, ?_, ?_, ?_, ?_⟩
      · rw [run, List.append_assoc]
        rfl
      · exact List.append_ne_nil_of_left_ne_nil written.nonempty _
      · intro c inside
        rcases List.mem_append.mp inside with before | last
        · exact written.all c before
        · rw [List.mem_singleton.mp last]
          exact digit
      · show decimalFrom 0 _ = u64
        rw [decimalFrom_append]
        show decimalValue digits * 10 + ((u64 % 10 + 48).toUInt8.toNat - 48) = u64
        rw [written.value, byte]
        omega
      · intro zero
        rw [List.head?_append_of_ne_nil _ written.nonempty] at zero
        exact absurd (written.leading zero) more
    · rw [if_neg more]
      have single : u64 = u64 % 10 := by omega
      refine ⟨[(u64 % 10 + 48).toUInt8], rfl, List.cons_ne_nil _ _, ?_, ?_, ?_⟩
      · intro c inside
        rw [List.mem_singleton.mp inside]
        exact digit
      · show 0 * 10 + ((u64 % 10 + 48).toUInt8.toNat - 48) = u64
        rw [byte]
        omega
      · intro zero
        have is : (u64 % 10 + 48).toUInt8 = 48 := Option.some.inj zero
        rw [is] at byte
        have forty_eight : (48 : UInt8).toNat = 48 := rfl
        omega

/-- Digits are no delimiters. -/
theorem IsDigit.whole {c : UInt8} (digit : IsDigit c) : c ∉ delimiters := by
  intro delimiter
  unfold delimiters spaces at delimiter
  simp only [List.cons_append, List.nil_append, List.mem_cons, List.not_mem_nil, or_false]
    at delimiter
  rcases delimiter with rfl | rfl | rfl | rfl | rfl | rfl | rfl | rfl | rfl | rfl
  all_goals exact absurd digit (by decide)

/-- The text printed for a 64-bit integer is one of its texts. -/
theorem integer_prints {strtod : List UInt8 → Nat × Nat} {vint : Int}
    (lower : -(2 ^ 63 : Int) ≤ vint) (upper : vint < 2 ^ 63) :
    ∃ text, debugPrintInteger vint = .ok text ∧ Value strtod text (.integer vint) := by
  unfold debugPrintInteger
  by_cases negative : vint < 0
  · rw [if_pos negative]
    have wrapped : Word.unsigned (Word.signed (-vint)) = (-vint).toNat := by
      unfold Word.unsigned Word.signed
      simp only [Int.bmod_def]
      split
      · omega
      · omega
    obtain ⟨digits, run, written⟩ := digitLoop_run 27 (-vint).toNat (by omega)
      (by decide) []
    refine ⟨45 :: digits, ?_, ?_⟩
    · rw [wrapped, run, List.append_nil]
      rfl
    · have same : vint = -(decimalValue digits : Int) := by
        rw [written.value]
        omega
      rw [same]
      refine .token ?_ (.negative written.all ?_ ?_)
      · intro c inside
        rcases List.mem_cons.mp inside with rfl | later
        · decide
        · exact IsDigit.whole (written.all c later)
      · rw [written.value]
        omega
      · rw [written.value]
        omega
  · rw [if_neg negative]
    have same : Word.unsigned vint = vint.toNat := by
      unfold Word.unsigned
      omega
    obtain ⟨digits, run, written⟩ := digitLoop_run 27 vint.toNat (by omega)
      (by decide) []
    refine ⟨digits, by rw [same, run, List.append_nil], ?_⟩
    have whole : ∀ c ∈ digits, c ∉ delimiters :=
      fun c inside => IsDigit.whole (written.all c inside)
    by_cases zero : vint = 0
    · subst zero
      rw [List.append_nil] at run
      have single : digits = [48] := (Except.ok.inj run).symm
      rw [single]
      exact .token (by decide +kernel) .zero
    · have value : vint = (decimalValue digits : Int) := by
        rw [written.value]
        omega
      rw [value]
      refine .token whole (.decimal written.nonempty written.all ?_ ?_)
      · intro leading
        have nothing := written.leading leading
        omega
      · rw [written.value]
        omega

/-- A string without NUL is printed whole. -/
theorem cString_eq {bytes : List UInt8} (unescaped : Unescaped bytes) : cString bytes = bytes := by
  unfold cString
  apply List.takeWhile_eq_self_iff.mpr
  intro c inside
  exact decide_eq_true (unescaped.1 c inside).1

/-- A string that needs no escapes is the content between its quotes. -/
theorem content_self {bytes : List UInt8} (plain : ∀ c ∈ bytes, c ≠ 34 ∧ c ≠ 92) :
    Content 34 bytes bytes := by
  induction bytes with
  | nil => exact .nil
  | cons c rest ih =>
    have first := plain c List.mem_cons_self
    exact .plain first.1 first.2
      (ih fun other inside => plain other (List.mem_cons_of_mem c inside))

/-- The text printed for a string is one of its texts. -/
theorem quoted_prints {bytes : List UInt8} (unescaped : Unescaped bytes) :
    Quoted (ascii "\"" ++ cString bytes ++ ascii "\"") bytes := by
  rw [cString_eq unescaped]
  have plain : ∀ c ∈ bytes, c ≠ 34 ∧ c ≠ 92 := fun c inside => (unescaped.1 c inside).2
  exact .intro (Or.inl rfl) (content_self plain) unescaped.2

end Json

section

variable {strtod : List UInt8 → Nat × Nat} (printDouble : Nat → List UInt8)

/-- No gap. -/
theorem spaces_nil : Spaces [] := fun _ none => absurd none List.not_mem_nil

mutual

/-- The text printed for a value is one of its texts. -/
theorem value_prints : ∀ (value : JsonValue), Printable value →
    ∃ text, Json.debugPrintValue printDouble value = .ok text ∧ Value strtod text value
  | .null, _ => ⟨ascii "null", by rw [Json.debugPrintValue],
      .token (by decide +kernel) (.nullWord (by decide))⟩
  | .boolean vint, printable => by
    rcases printable with rfl | rfl
    · exact ⟨ascii "false", by rw [Json.debugPrintValue]; rfl,
        .token (by decide +kernel) (.falseWord (by decide))⟩
    · exact ⟨ascii "true", by rw [Json.debugPrintValue]; rfl,
        .token (by decide +kernel) (.trueWord (by decide))⟩
  | .integer vint, printable => by
    rw [Json.debugPrintValue]
    exact Json.integer_prints printable.1 printable.2
  | .double vdec, printable => False.elim printable
  | .string vstr, printable => by
    rw [Json.debugPrintValue]
    exact ⟨_, rfl, .string (Json.quoted_prints printable)⟩
  | .object fields, printable => by
    obtain ⟨text, run, derives⟩ := fields_print fields printable
    refine ⟨ascii "\x7b" ++ text ++ ascii "\x7d", ?_, ?_⟩
    · rw [Json.debugPrintValue, run]
      rfl
    · rcases derives with ⟨rfl, rfl⟩ | members
      · exact .emptyObject spaces_nil
      · exact .object members
  | .array values, printable => by
    obtain ⟨text, run, derives⟩ := values_print values printable
    refine ⟨ascii "[" ++ text ++ ascii "]", ?_, ?_⟩
    · rw [Json.debugPrintValue, run]
      rfl
    · rcases derives with ⟨rfl, rfl⟩ | elements
      · exact .emptyArray spaces_nil
      · exact .array elements

/-- The text printed for the fields of an object is one of their texts. -/
theorem fields_print : ∀ (fields : List (List UInt8 × JsonValue)), PrintableFields fields →
    ∃ text, Json.debugPrintFields printDouble fields = .ok text ∧
      (fields = [] ∧ text = [] ∨ Members strtod text fields)
  | [], _ => ⟨[], by rw [Json.debugPrintFields], Or.inl ⟨rfl, rfl⟩⟩
  | (name, value) :: rest, printable => by
    obtain ⟨⟨named, unescaped⟩, first, others⟩ := printable
    obtain ⟨text, run, derives⟩ := value_prints value first
    obtain ⟨more, more_run, remaining⟩ := fields_print rest others
    have member : Member strtod
        (ascii "\"" ++ Json.cString name ++ ascii "\":" ++ text) (name, value) := by
      have whole :=
        Member.intro spaces_nil (Json.quoted_prints unescaped) named spaces_nil spaces_nil
        derives spaces_nil
      simp only [List.nil_append, List.append_nil] at whole
      have split : ascii "\":" = ascii "\"" ++ [58] := by decide
      rw [split, ← List.append_assoc]
      exact whole
    refine ⟨ascii "\"" ++ Json.cString name ++ ascii "\":" ++ text ++
      (if rest.isEmpty then [] else ascii ",") ++ more, ?_, Or.inr ?_⟩
    · rw [Json.debugPrintFields, run, more_run]
      rfl
    · rcases remaining with ⟨rfl, rfl⟩ | members
      · simp only [List.isEmpty_nil, if_true, List.append_nil]
        exact .one member
      · have nonempty : rest.isEmpty = false := by
          cases members with
          | one => rfl
          | more => rfl
        simp only [nonempty, Bool.false_eq_true, if_false]
        exact .more member members

/-- The text printed for the elements of an array is one of their texts. -/
theorem values_print : ∀ (values : List JsonValue), PrintableValues values →
    ∃ text, Json.debugPrintValues printDouble values = .ok text ∧
      (values = [] ∧ text = [] ∨ Elements strtod text values)
  | [], _ => ⟨[], by rw [Json.debugPrintValues], Or.inl ⟨rfl, rfl⟩⟩
  | value :: rest, printable => by
    obtain ⟨first, others⟩ := printable
    obtain ⟨text, run, derives⟩ := value_prints value first
    obtain ⟨more, more_run, remaining⟩ := values_print rest others
    refine ⟨text ++ (if rest.isEmpty then [] else ascii ",") ++ more, ?_, Or.inr ?_⟩
    · rw [Json.debugPrintValues, run, more_run]
      rfl
    · rcases remaining with ⟨rfl, rfl⟩ | elements
      · have single := Elements.one spaces_nil derives spaces_nil
        simp only [List.nil_append, List.append_nil] at single
        simp only [List.isEmpty_nil, if_true, List.append_nil]
        exact single
      · have nonempty : rest.isEmpty = false := by
          cases elements with
          | one => rfl
          | more => rfl
        have several := Elements.more spaces_nil derives spaces_nil elements
        simp only [List.nil_append, List.append_nil] at several
        simp only [nonempty, Bool.false_eq_true, if_false]
        exact several

end

end

/-- `ngx_nats_json_parse` applied to what `ngx_nats_json_debug_print` writes for an object or an
array reads all of it and returns the same value. -/
theorem json_round_trip (env : JsonEnv) (allocates : ∀ n, env.pool n = true)
    (printDouble : Nat → List UInt8) (value : JsonValue) (composite : value.Composite)
    (printable : Printable value) :
    ∃ text, jsonDebugPrint printDouble value = .ok text ∧
      jsonParse env (.ofList text) = .ok (.ok (text.length, value)) := by
  obtain ⟨text, run, derives⟩ := @value_prints env.strtod printDouble value printable
  have printed : jsonDebugPrint printDouble value = .ok text := by
    cases value with
    | object fields => exact run
    | array values => exact run
    | null => exact False.elim composite
    | boolean vint => exact False.elim composite
    | integer vint => exact False.elim composite
    | double vdec => exact False.elim composite
    | string vstr => exact False.elim composite
  refine ⟨text, printed, jsonParse_run allocates ?_⟩
  refine ⟨[], text, [], ?_, ?_, spaces_nil, derives, fun _ c none => by cases none⟩
  · rw [List.nil_append, List.append_nil]
  · rw [List.length_nil, Nat.zero_add]

/-- The least integer, a boolean and an empty object in an array in an object. -/
theorem json_round_trip_nested :
    ∃ text, jsonDebugPrint (fun _ => []) (.object [([97], .array [.integer (-9223372036854775808),
      .boolean 1, .object []])]) = .ok text ∧
      jsonParse plainJson (.ofList text) = .ok (.ok (text.length, .object [([97],
        .array [.integer (-9223372036854775808), .boolean 1, .object []])])) :=
  json_round_trip plainJson (fun _ => rfl) (fun _ => []) _ trivial
    ⟨⟨by decide, by decide +kernel, by decide⟩,
      ⟨⟨by decide, by decide⟩, Or.inr rfl, trivial, trivial⟩, trivial⟩

end NgxNats
