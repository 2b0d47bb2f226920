import NgxNats.Model.Json
import NgxNats.Verif.Scan

/-!
# The JSON dialect

A grammar of the texts the parser is meant for, stated without the parser: which bytes derive
which value. The grammar is context free. The one condition that looks at what follows a text is
that of `Reads`, where a primitive value must not be cut off in the middle of a longer token.
-/
namespace NgxNats.Dialect

/-- Space, CR, LF and TAB. -/
def spaces : List UInt8 := [32, 13, 10, 9]

/-- The bytes that end a primitive token: whitespace and `, : [ ] { }`. -/
def delimiters : List UInt8 := spaces ++ [44, 58, 91, 93, 123, 125]

/-- Whitespace only. -/
def Spaces (text : List UInt8) : Prop := ∀ c ∈ text, c ∈ spaces

/-- A token ends before these bytes: there are none, or a delimiter comes first. -/
def Ended (rest : List UInt8) : Prop := ∀ c ∈ rest.head?, c ∈ delimiters

/-- What may follow a backslash, with the byte it stands for. -/
def escapes : List (UInt8 × UInt8) :=
  [(98, 8), (116, 9), (110, 10), (102, 12), (114, 13), (34, 34), (39, 39), (92, 92), (47, 47)]

/-- The text between two quotes `q` and the bytes it decodes to. -/
inductive Content (q : UInt8) : List UInt8 → List UInt8 → Prop
  | nil : Content q [] []
  | plain {c : UInt8} {text bytes : List UInt8} (other : c ≠ q) (unescaped : c ≠ 92)
      (content : Content q text bytes) : Content q (c :: text) (c :: bytes)
  | escape {letter c : UInt8} {text bytes : List UInt8} (known : (letter, c) ∈ escapes)
      (content : Content q text bytes) : Content q (92 :: letter :: text) (c :: bytes)

/-- A string in single or double quotes, of at most 1048574 decoded bytes. -/
inductive Quoted : List UInt8 → List UInt8 → Prop
  | intro {q : UInt8} {text bytes : List UInt8} (quote : q = 34 ∨ q = 39)
      (content : Content q text bytes) (short : bytes.length ≤ 1048574) :
      Quoted ([q] ++ text ++ [q]) bytes

/-- The value of a run of hexadecimal digits, after the digits of `value`. -/
def hexFrom (value : Nat) (digits : List UInt8) : Nat :=
  digits.foldl (fun value c => value * 16 + (Json.hexDigit c).getD 0) value

/-- A token that is read as a hexadecimal number. -/
def Hexadecimal (token : List UInt8) : Prop :=
  ∃ x digits, token = 48 :: x :: digits ∧ (x = 120 ∨ x = 88) ∧ digits ≠ []

/-- A token starts like a number: with a digit, `.`, `+` or `-`. -/
def NumberStart (token : List UInt8) : Prop :=
  ∃ c ∈ token.head?, IsDigit c ∨ c = 46 ∨ c = 43 ∨ c = 45

/-- The texts of the primitive values. A decimal integer has no leading zero unless it is
negative, and fits 64 bits; `-0` is not one. -/
inductive Atom (strtod : List UInt8 → Nat × Nat) : List UInt8 → JsonValue → Prop
  | nullWord {token : List UInt8} (word : token.map toLower = ascii "null") :
      Atom strtod token .null
  | trueWord {token : List UInt8} (word : token.map toLower = ascii "true") :
      Atom strtod token (.boolean 1)
  | falseWord {token : List UInt8} (word : token.map toLower = ascii "false") :
      Atom strtod token (.boolean 0)
  | zero : Atom strtod [48] (.integer 0)
  | hex {x : UInt8} {digits : List UInt8} (mark : x = 120 ∨ x = 88) (nonempty : digits ≠ [])
      (short : digits.length ≤ 16) (all : ∀ c ∈ digits, (Json.hexDigit c).isSome) :
      Atom strtod (48 :: x :: digits) (.integer (Word.signed (hexFrom 0 digits)))
  | decimal {digits : List UInt8} (nonempty : digits ≠ []) (all : ∀ c ∈ digits, IsDigit c)
      (leading : digits.head? ≠ some 48) (fits : decimalValue digits < 2 ^ 63) :
      Atom strtod digits (.integer (decimalValue digits))
  | negative {digits : List UInt8} (all : ∀ c ∈ digits, IsDigit c)
      (positive : 0 < decimalValue digits) (fits : decimalValue digits ≤ 2 ^ 63) :
      Atom strtod (45 :: digits) (.integer (-(decimalValue digits : Int)))
  | double {token : List UInt8} {value : Nat} (starts : NumberStart token)
      (plain : ¬Hexadecimal token) (marked : ∃ c ∈ token, c = 46 ∨ c = 101 ∨ c = 69)
      (short : token.length ≤ 31) (read : strtod token = (value, token.length)) :
      Atom strtod token (.double value)

/-- The values that are written as one token. -/
def Primitive : JsonValue → Prop
  | .null | .boolean _ | .integer _ | .double _ => True
  | .object _ | .array _ | .string _ => False

mutual

/-- The texts of a value. -/
inductive Value (strtod : List UInt8 → Nat × Nat) : List UInt8 → JsonValue → Prop
  | token {token : List UInt8} {value : JsonValue} (whole : ∀ c ∈ token, c ∉ delimiters)
      (derives : Atom strtod token value) : Value strtod token value
  | string {text bytes : List UInt8} (quoted : Quoted text bytes) :
      Value strtod text (.string bytes)
  | emptyObject {gap : List UInt8} (blank : Spaces gap) :
      Value strtod ([123] ++ gap ++ [125]) (.object [])
  | object {text : List UInt8} {fields : List (List UInt8 × JsonValue)}
      (members : Members strtod text fields) :
      Value strtod ([123] ++ text ++ [125]) (.object fields)
  | emptyArray {gap : List UInt8} (blank : Spaces gap) :
      Value strtod ([91] ++ gap ++ [93]) (.array [])
  | array {text : List UInt8} {values : List JsonValue} (elements : Elements strtod text values) :
      Value strtod ([91] ++ text ++ [93]) (.array values)

/-- One field of an object: a quoted name that is not empty, a colon and a value. -/
inductive Member (strtod : List UInt8 → Nat × Nat) : List UInt8 → List UInt8 × JsonValue → Prop
  | intro {before label between after text behind name : List UInt8} {value : JsonValue}
      (first : Spaces before) (quoted : Quoted label name) (named : name ≠ [])
      (second : Spaces between) (third : Spaces after) (derives : Value strtod text value)
      (last : Spaces behind) :
      Member strtod (before ++ label ++ between ++ [58] ++ after ++ text ++ behind) (name, value)

/-- The fields of an object that has some, with commas between them. -/
inductive Members (strtod : List UInt8 → Nat × Nat) :
    List UInt8 → List (List UInt8 × JsonValue) → Prop
  | one {text : List UInt8} {field : List UInt8 × JsonValue} (member : Member strtod text field) :
      Members strtod text [field]
  | more {text rest : List UInt8} {field : List UInt8 × JsonValue}
      {fields : List (List UInt8 × JsonValue)} (member : Member strtod text field)
      (members : Members strtod rest fields) :
      Members strtod (text ++ [44] ++ rest) (field :: fields)

/-- The elements of an array that has some, with commas between them. -/
inductive Elements (strtod : List UInt8 → Nat × Nat) : List UInt8 → List JsonValue → Prop
  | one {before text behind : List UInt8} {value : JsonValue} (first : Spaces before)
      (derives : Value strtod text value) (last : Spaces behind) :
      Elements strtod (before ++ text ++ behind) [value]
  | more {before text behind rest : List UInt8} {value : JsonValue} {values : List JsonValue}
      (first : Spaces before) (derives : Value strtod text value) (last : Spaces behind)
      (elements : Elements strtod rest values) :
      Elements strtod (before ++ text ++ behind ++ [44] ++ rest) (value :: values)

end

/-- The first `n` bytes of `b` are whitespace and a text of the value, and a primitive value is
the whole token that stands there. -/
def Reads (strtod : List UInt8 → Nat × Nat) (b : List UInt8) (n : Nat) (value : JsonValue) :
    Prop :=
  ∃ gap text rest, b = gap ++ text ++ rest ∧ n = gap.length + text.length ∧ Spaces gap ∧
    Value strtod text value ∧ (Primitive value → Ended rest)

end NgxNats.Dialect
