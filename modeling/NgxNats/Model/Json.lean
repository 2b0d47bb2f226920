import NgxNats.Model.Protocol

/-!
# The JSON parser

`ngx_nats_json_parse` and its helpers on the text of an INFO message. A parser either returns a
value or stops with an error code; the context it keeps (position, scratch capacity) is the state.
The scratch string is the list of the bytes decoded so far, and each write to it is checked
against the capacity. Positions of errors are left out: nothing reads them.
-/
namespace NgxNats

/-- `NGX_NATS_JSON_ERR_ERROR` -/
def jsonErrError : Int := -1
/-- `NGX_NATS_JSON_ERR_SYNTAX` -/
def jsonErrSyntax : Int := -2
/-- `NGX_NATS_JSON_ERR_EOF` -/
def jsonErrEof : Int := -3
/-- `NGX_NATS_JSON_ERR_NOT_SUPPORTED` -/
def jsonErrNotSupported : Int := -4

/-- `ngx_nats_json_value_t`; a double is kept as the bits `strtod` returned. -/
inductive JsonValue
  | null
  | object (fields : List (List UInt8 × JsonValue))
  | array (values : List JsonValue)
  | boolean (vint : Int)
  | integer (vint : Int)
  | double (vdec : Nat)
  | string (vstr : List UInt8)

/-- `ngx_nats_json_parse_ctx_t`, with the number of pool allocations made. -/
structure JsonCtx where
  pos : Nat := 0
  strCap : Nat := 1024
  strPos : Nat := 0
  allocs : Nat := 0
  deriving DecidableEq, Repr

/-- What the parser depends on besides the text: the pool's answers and the C library's `strtod`,
which yields a value and the number of bytes it consumed. -/
structure JsonEnv where
  pool : Nat → Bool
  strtod : List UInt8 → Nat × Nat

/-- Why a JSON parser stopped: with an error code, or with a fault. -/
inductive JsonStop
  | code (rc : Int)
  | fault (stop : Fault)
  deriving DecidableEq, Repr

/-- A JSON parser. -/
abbrev Json := Program JsonStop JsonCtx

namespace Json

/-- Return an error code. -/
def stop {α : Type} (rc : Int) : Json α := Program.fault (.code rc)

/-- Read one byte of the text. -/
def byte (text : Str) (index : Nat) : Json UInt8 := fun ctx =>
  match load text.data index with
  | .ok c => (.ok c, ctx)
  | .error fault => (.error (.fault fault), ctx)

/-- Allocate from the pool, or return `NGX_NATS_JSON_ERR_ERROR`. -/
def allocate (env : JsonEnv) : Json Unit := do
  let ctx ← Program.get
  Program.modify fun ctx => { ctx with allocs := ctx.allocs + 1 }
  if env.pool ctx.allocs then return () else stop jsonErrError

/-- The bytes `_skipSpaces` skips. -/
def isSpace (c : UInt8) : Bool := c = 32 || c = 13 || c = 10 || c = 9

/-- `_skipSpaces` -/
def skipSpaces (text : Str) : Json Unit := fun ctx =>
  match scan isSpace text.data (text.len - ctx.pos) ctx.pos with
  | .error fault => (.error (.fault fault), ctx)
  | .ok p =>
    if p < text.len then (.ok (), { ctx with pos := p }) else (.error (.code jsonErrEof), ctx)

/-- `ngx_nats_json_ensure_str` -/
def ensureStr (env : JsonEnv) (n : Nat) : Json Unit := do
  let ctx ← Program.get
  if ctx.strCap - ctx.strPos < n then
    if 1024 * 1024 ≤ ctx.strCap then stop jsonErrError
    else
      allocate env
      Program.modify fun ctx => { ctx with strCap := ctx.strCap * 2 }

/-- `pc->str[nout++] = c` -/
def putChar (out : List UInt8) (c : UInt8) : Json (List UInt8) := do
  let ctx ← Program.get
  if out.length < ctx.strCap then return out ++ [c] else Program.fault (.fault .badAccess)

/-- The character an escape stands for. -/
def unescape (c : UInt8) : Json UInt8 :=
  if c = 98 then return 8
  else if c = 116 then return 9
  else if c = 110 then return 10
  else if c = 102 then return 12
  else if c = 114 then return 13
  else if c = 34 ∨ c = 39 ∨ c = 92 ∨ c = 47 then return c
  else if c = 117 then stop jsonErrNotSupported
  else stop jsonErrSyntax

/-- The loop of `ngx_nats_json_parse_string`: the position after it, the decoded bytes and whether
the closing quote was found. Every round moves on, so `len + 1` rounds are enough. -/
def stringLoop (env : JsonEnv) (text : Str) (q : UInt8) :
    Nat → Nat → Nat → List UInt8 → Json (Nat × List UInt8 × Bool)
  | 0, _, _, _ => Program.fault (.fault .endless)
  | rounds + 1, n, mspos, out =>
    if n < text.len then do
      Program.modify fun ctx => { ctx with strPos := out.length }
      let mspos ← if mspos ≤ out.length then do
          ensureStr env 2
          pure ((← Program.get).strCap - 2)
        else pure mspos
      let c ← byte text n
      if c = 92 then
        if text.len ≤ n + 1 then stop jsonErrEof
        else
          let c ← byte text (n + 1)
          let out ← putChar out (← unescape c)
          stringLoop env text q rounds (n + 2) mspos out
      else if c = q then return (n + 1, out, true)
      else
        let out ← putChar out c
        stringLoop env text q rounds (n + 1) mspos out
    else return (n, out, false)

/-- `ngx_nats_json_parse_string` -/
def parseString (env : JsonEnv) (text : Str) (q : UInt8) : Json (List UInt8) := do
  let ctx ← Program.get
  let (n, out, quoteFound) ← stringLoop env text q (text.len + 1) ctx.pos (ctx.strCap - 2) []
  Program.modify fun ctx => { ctx with pos := n }
  if quoteFound then
    allocate env
    return out
  else stop jsonErrEof

/-- The value of a hexadecimal digit. -/
def hexDigit (c : UInt8) : Option Nat :=
  if 48 ≤ c ∧ c ≤ 57 then some (c.toNat - 48)
  else if 97 ≤ c ∧ c ≤ 102 then some (c.toNat - 97 + 10)
  else if 65 ≤ c ∧ c ≤ 70 then some (c.toNat - 65 + 10)
  else none

/-- The loop of `ngx_nats_json_parse_hex` over the `left` bytes from `p` to the end of the item. -/
def hexLoop (text : Str) : Nat → Nat → Nat → Json Nat
  | 0, _, u64 => return u64
  | left + 1, p, u64 => do
    let c ← byte text p
    match hexDigit c with
    | some digit => hexLoop text left (p + 1) ((u64 * 16 + digit) % 2 ^ 64)
    | none => stop jsonErrSyntax

/-- `ngx_nats_json_parse_hex` on the item from `istart` to `pos`, which starts with `0x` and goes
on. -/
def parseHex (text : Str) (istart pos : Nat) : Json JsonValue :=
  if 16 < pos - istart - 2 then stop jsonErrSyntax
  else do
    let u64 ← hexLoop text (pos - istart - 2) (istart + 2) 0
    return .integer (Word.signed u64)

/-- The digit loop of `ngx_nats_json_parse_int` over the `left` bytes from `p` to the end of the
item. -/
def intLoop (text : Str) : Nat → Nat → Nat → Json Nat
  | 0, _, u64 => return u64
  | left + 1, p, u64 => do
    let c ← byte text p
    if c < 48 ∨ 57 < c then stop jsonErrSyntax
    else if 922337203685477580 < u64 then stop jsonErrSyntax
    else intLoop text left (p + 1) ((u64 * 10 + (c.toNat - 48)) % 2 ^ 64)

/-- `ngx_nats_json_parse_int` on the item from `istart` to `pos`, which is not empty. -/
def parseInt (text : Str) (istart pos : Nat) : Json JsonValue := do
  let first ← byte text istart
  let neg := first = 45
  let p := if neg then istart + 1 else istart
  if pos - p = 0 then stop jsonErrSyntax
  else
    let u64 ← intLoop text (pos - p) p 0
    if neg then
      if 9223372036854775807 < Word.unsigned (u64 - 1) then stop jsonErrSyntax
      else return .integer (Word.signed (-Word.signed u64))
    else if 9223372036854775807 < u64 then stop jsonErrSyntax
    else return .integer u64

/-- The copy of the `left` bytes from `p` on and of a terminator into the 32 bytes of `temp`: the
text before the terminator. -/
def copyTemp (text : Str) : Nat → Nat → List UInt8 → Json (List UInt8)
  | 0, _, temp => if temp.length < 32 then return temp else Program.fault (.fault .badAccess)
  | left + 1, p, temp => do
    let c ← byte text p
    if temp.length < 32 then copyTemp text left (p + 1) (temp ++ [c])
    else Program.fault (.fault .badAccess)

/-- `ngx_nats_json_parse_double` on the item from `istart` to `pos`. -/
def parseDouble (env : JsonEnv) (text : Str) (istart pos : Nat) : Json JsonValue :=
  if 31 < pos - istart then stop jsonErrSyntax
  else do
    let temp ← copyTemp text (pos - istart) istart []
    if (env.strtod temp).2 ≠ pos - istart then stop jsonErrSyntax
    else return .double (env.strtod temp).1

/-- The bytes that end a primitive value. -/
def isDelimiter (c : UInt8) : Bool :=
  isSpace c || c = 44 || c = 58 || c = 91 || c = 93 || c = 123 || c = 125

/-- `ngx_strncasecmp` of the text at `p` with a whole word: `true` when it returns zero. It stops
at the first difference. -/
def sameWord (text : Str) : Nat → List UInt8 → Json Bool
  | _, [] => return true
  | p, w :: word => do
    let c ← byte text p
    if toLower c = toLower w then sameWord text (p + 1) word else return false

/-- The words of `ngx_nats_json_parse_value`. -/
def parseWord (text : Str) (istart pos : Nat) : Json (Option JsonValue) := do
  if pos - istart = 4 then
    if ← sameWord text istart (ascii "null") then return some .null
    else if ← sameWord text istart (ascii "true") then return some (.boolean 1)
    else return none
  else if pos - istart = 5 then
    if ← sameWord text istart (ascii "false") then return some (.boolean 0) else return none
  else return none

/-- The check for `0x` or `0X` in an item that starts with `c`. -/
def hexMark (text : Str) (istart pos : Nat) (c : UInt8) : Json Bool :=
  if c = 48 ∧ 2 < pos - istart then do
    let x ← byte text (istart + 1)
    return x = 120 || x = 88
  else return false

/-- The marks of a double. -/
def isDoubleMark (c : UInt8) : Bool := c = 46 || c = 101 || c = 69

/-- The numbers of `ngx_nats_json_parse_value`. -/
def parseNumber (env : JsonEnv) (text : Str) (istart pos : Nat) : Json JsonValue := do
  let c ← byte text istart
  if (c < 48 ∨ 57 < c) ∧ c ≠ 46 ∧ c ≠ 43 ∧ c ≠ 45 then stop jsonErrSyntax
  else if c = 48 ∧ pos - istart = 1 then return .integer 0
  else if ← hexMark text istart pos c then parseHex text istart pos
  else
    match scan (fun c => !isDoubleMark c) text.data (pos - istart) istart with
    | .error fault => Program.fault (.fault fault)
    | .ok n =>
      if n < pos then parseDouble env text istart pos
      else if c = 48 then stop jsonErrSyntax
      else parseInt text istart pos

/-- The tail of `ngx_nats_json_parse_value` on the item from `istart` to `pos`. -/
def parseItem (env : JsonEnv) (text : Str) (istart pos : Nat) : Json JsonValue := do
  match ← parseWord text istart pos with
  | some word => return word
  | none => parseNumber env text istart pos

/-- The primitive branch of `ngx_nats_json_parse_value`. -/
def parsePrimitive (env : JsonEnv) (text : Str) : Json JsonValue := do
  let istart := (← Program.get).pos
  match scan (fun c => !isDelimiter c) text.data (text.len - istart) istart with
  | .error fault => Program.fault (.fault fault)
  | .ok pos =>
    Program.modify fun ctx => { ctx with pos }
    parseItem env text istart pos

/-- Read the byte at `pos` and move behind it. -/
def nextByte (text : Str) : Json UInt8 := do
  let c ← byte text (← Program.get).pos
  Program.modify fun ctx => { ctx with pos := ctx.pos + 1 }
  return c

mutual

/-- `ngx_nats_json_parse_value`, with a bound on the depth of calls and loop rounds. -/
def parseValue (env : JsonEnv) (text : Str) : Nat → Json JsonValue
  | 0 => Program.fault (.fault .outOfFuel)
  | fuel + 1 => do
    skipSpaces text
    let c ← byte text (← Program.get).pos
    if c = 123 then
      Program.modify fun ctx => { ctx with pos := ctx.pos + 1 }
      allocate env
      allocate env
      return .object (← parseObject env text false [] fuel)
    else if c = 91 then
      Program.modify fun ctx => { ctx with pos := ctx.pos + 1 }
      allocate env
      allocate env
      return .array (← parseArray env text false [] fuel)
    else if c = 39 ∨ c = 34 then
      Program.modify fun ctx => { ctx with pos := ctx.pos + 1 }
      allocate env
      return .string (← parseString env text c)
    else parsePrimitive env text

/-- The loop of `ngx_nats_json_parse_object` with the fields parsed so far. -/
def parseObject (env : JsonEnv) (text : Str) (needField : Bool)
    (fields : List (List UInt8 × JsonValue)) : Nat → Json (List (List UInt8 × JsonValue))
  | 0 => Program.fault (.fault .outOfFuel)
  | fuel + 1 => do
    if (← Program.get).pos < text.len then
      skipSpaces text
      let c ← nextByte text
      if c = 125 then
        if needField then stop jsonErrSyntax else return fields
      else if c ≠ 39 ∧ c ≠ 34 then stop jsonErrSyntax
      else
        allocate env
        let name ← parseString env text c
        if name.length = 0 then stop jsonErrSyntax
        else
          skipSpaces text
          let colon ← nextByte text
          if colon ≠ 58 then stop jsonErrSyntax
          else
            let value ← parseValue env text fuel
            skipSpaces text
            let c ← nextByte text
            if c = 125 then return fields ++ [(name, value)]
            else if c = 44 then parseObject env text true (fields ++ [(name, value)]) fuel
            else stop jsonErrSyntax
    else stop jsonErrEof

/-- The loop of `ngx_nats_json_parse_array` with the values parsed so far. -/
def parseArray (env : JsonEnv) (text : Str) (needField : Bool) (values : List JsonValue) :
    Nat → Json (List JsonValue)
  | 0 => Program.fault (.fault .outOfFuel)
  | fuel + 1 => do
    if (← Program.get).pos < text.len then
      skipSpaces text
      let c ← byte text (← Program.get).pos
      if c = 93 then
        if needField then stop jsonErrSyntax
        else
          Program.modify fun ctx => { ctx with pos := ctx.pos + 1 }
          return values
      else
        allocate env
        let value ← parseValue env text fuel
        skipSpaces text
        let c ← nextByte text
        if c = 93 then return values ++ [value]
        else if c = 44 then parseArray env text true (values ++ [value]) fuel
        else stop jsonErrSyntax
    else stop jsonErrEof

end

end Json

/-- `ngx_nats_json_parse`: the number of bytes parsed with the value, or an error code. The depth
of calls and rounds is bounded by the text, of which every level consumes at least one byte. -/
def jsonParse (env : JsonEnv) (text : Str) : Except Fault (Except Int (Nat × JsonValue)) :=
  if text.len < 1 then .ok (.error jsonErrSyntax)
  else
    let program : Json JsonValue := do
      Json.allocate env
      Json.allocate env
      Json.parseValue env text (2 * text.len + 2)
    match program {} with
    | (.ok value, ctx) => .ok (.ok (ctx.pos, value))
    | (.error (.code rc), _) => .ok (.error rc)
    | (.error (.fault fault), _) => .error fault

end NgxNats
