import NgxNats.Model.Json

/-!
# Printing JSON values

`ngx_nats_json_debug_print`. The text is what it writes; `%f` is the C library's and is a
parameter. The digits of an integer are written into an array from its end.
-/
namespace NgxNats

namespace Json

/-- `%s`: the bytes before the first NUL. -/
def cString (data : List UInt8) : List UInt8 := data.takeWhile fun c => c ≠ 0

/-- The digit loop of `_json_debug_print_value` with the room left before the digits written so
far. -/
def digitLoop : Nat → Nat → List UInt8 → Except Fault (List UInt8)
  | 0, _, _ => .error .badAccess
  | room + 1, u64, numbuf =>
    let numbuf := (u64 % 10 + 48).toUInt8 :: numbuf
    if u64 / 10 ≠ 0 then digitLoop room (u64 / 10) numbuf else .ok numbuf

/-- The case `NGX_NATS_JSON_INTEGER` of `_json_debug_print_value`; `numbuf` has 28 bytes, the last
of which is the terminator. -/
def debugPrintInteger (vint : Int) : Except Fault (List UInt8) :=
  if vint < 0 then do
    let digits ← digitLoop 27 (Word.unsigned (Word.signed (-vint))) []
    return ascii "-" ++ digits
  else digitLoop 27 (Word.unsigned vint) []

mutual

/-- `_json_debug_print_value` -/
def debugPrintValue (printDouble : Nat → List UInt8) : JsonValue → Except Fault (List UInt8)
  | .null => .ok (ascii "null")
  | .boolean vint => .ok (if vint = 0 then ascii "false" else ascii "true")
  | .integer vint => debugPrintInteger vint
  | .double vdec => .ok (printDouble vdec)
  | .string vstr => .ok (ascii "\"" ++ cString vstr ++ ascii "\"")
  | .object fields => do
    let text ← debugPrintFields printDouble fields
    return ascii "\x7b" ++ text ++ ascii "\x7d"
  | .array values => do
    let text ← debugPrintValues printDouble values
    return ascii "[" ++ text ++ ascii "]"

/-- The loop over the fields of an object. -/
def debugPrintFields (printDouble : Nat → List UInt8) :
    List (List UInt8 × JsonValue) → Except Fault (List UInt8)
  | [] => .ok []
  | (name, value) :: rest => do
    let text ← debugPrintValue printDouble value
    let more ← debugPrintFields printDouble rest
    return ascii "\"" ++ cString name ++ ascii "\":" ++ text ++
      (if rest.isEmpty then [] else ascii ",") ++ more

/-- The loop over the values of an array. -/
def debugPrintValues (printDouble : Nat → List UInt8) :
    List JsonValue → Except Fault (List UInt8)
  | [] => .ok []
  | value :: rest => do
    let text ← debugPrintValue printDouble value
    let more ← debugPrintValues printDouble rest
    return text ++ (if rest.isEmpty then [] else ascii ",") ++ more

end

end Json

/-- `ngx_nats_json_debug_print` -/
def jsonDebugPrint (printDouble : Nat → List UInt8) : JsonValue → Except Fault (List UInt8)
  | .object fields => Json.debugPrintValue printDouble (.object fields)
  | .array values => Json.debugPrintValue printDouble (.array values)
  | _ => .ok (ascii "<error: top level object is not object nor array>\n")

end NgxNats
