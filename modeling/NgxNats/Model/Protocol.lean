import NgxNats.Model.Basic

/-!
# The protocol parser

`ngx_nats_parse` and the parsers it dispatches to, on the bytes of a buffer from a pointer on.
Every read and write is checked against the memory behind the pointer; the length the parser
compares with is a separate number, as in `ngx_str_t`. Results are the source's: a positive
length, `NGX_NATS_PROTO_AGAIN`, or an error code, with the buffer as the parser left it.
-/
namespace NgxNats

/-- `NGX_NATS_PROTO_AGAIN` -/
def protoAgain : Int := -1
/-- `NGX_NATS_PROTO_ERR_ERROR` -/
def protoErrError : Int := -2
/-- `NGX_NATS_PROTO_ERR_INVALID_HEADER` -/
def protoErrInvalidHeader : Int := -3
/-- `NGX_NATS_PROTO_ERR_INVALID_MSG` -/
def protoErrInvalidMsg : Int := -4

/-- `NGX_NATS_MSG_OK` to `NGX_NATS_MSG_MSG`; `unset` is the zero of a cleared message. -/
inductive MsgType
  | unset | ok | err | ping | pong | info | msg
  deriving DecidableEq, Repr

/-- An `ngx_str_t` that points into the parsed buffer. -/
structure Slice where
  start : Nat
  len : Nat
  deriving DecidableEq, Repr

/-- The bytes of a slice. -/
def Slice.bytes (slice : Slice) (data : List UInt8) : List UInt8 :=
  (data.drop slice.start).take slice.len

/-- `ngx_nats_msg_t`, zeroed -/
structure Msg where
  type : MsgType := .unset
  sid : Int := 0
  len : Int := 0
  subject : Slice := ⟨0, 0⟩
  replyto : Slice := ⟨0, 0⟩
  bstart : Nat := 0
  bend : Nat := 0
  deriving DecidableEq, Repr

/-- An `ngx_str_t` argument: the memory readable from its pointer on, and its length. -/
structure Str where
  data : List UInt8
  len : Nat
  deriving DecidableEq, Repr

/-- A byte list as an argument whose length is its own. -/
def Str.ofList (data : List UInt8) : Str := ⟨data, data.length⟩

/-- Line feed -/
def LF : UInt8 := 10
/-- Carriage return -/
def CR : UInt8 := 13
/-- Space -/
def SP : UInt8 := 32

/-- Read one byte. -/
def load (data : List UInt8) (index : Nat) : Except Fault UInt8 :=
  match data[index]? with
  | some c => .ok c
  | none => .error .badAccess

/-- Write one byte. -/
def store (data : List UInt8) (index : Nat) (c : UInt8) : Except Fault (List UInt8) :=
  if index < data.length then .ok (data.set index c) else .error .badAccess

/-- `for ( ; n < stop && keep(data[n]); n++);` with `stop - n` rounds left. -/
def scan (keep : UInt8 → Bool) (data : List UInt8) : Nat → Nat → Except Fault Nat
  | 0, n => .ok n
  | left + 1, n => do
    let c ← load data n
    if keep c then scan keep data left (n + 1) else return n

/-- The digit loop of `_nats_atoi`; the value wraps in a signed word. -/
def natsAtoiLoop (data : List UInt8) : Nat → Nat → Int → Except Fault (Option Int)
  | 0, _, value => .ok (some value)
  | n + 1, s, value => do
    let c ← load data s
    if c < 48 ∨ 57 < c then return none
    natsAtoiLoop data n (s + 1) (Word.signed (value * 10 + (c.toNat - 48)))

/-- `_nats_atoi`; no value is `NGX_ERROR`. -/
def natsAtoi (data : List UInt8) (s n : Nat) : Except Fault (Option Int) :=
  if n = 0 then .ok none else natsAtoiLoop data n s 0

/-- What `_nats_token` returns and leaves in `ns` and `ne`; no position is `_NATS_PARSE_ERR`. -/
structure Token where
  next : Option Nat
  ns : Nat
  ne : Nat
  deriving DecidableEq, Repr

/-- The loop of `_nats_token` over a quoted token. Every round moves on and the loop returns at
`max - 1` at the latest, so `max + 1` rounds are enough. -/
def natsTokenQuoted (data : List UInt8) (max : Nat) (q : UInt8) :
    Nat → Nat → Except Fault (Option Nat)
  | 0, _ => .error .endless
  | rounds + 1, pos => do
    let c ← load data pos
    if c = 92 then
      if max - 1 ≤ pos then return none
      natsTokenQuoted data max q rounds (pos + 2)
    else if c = q then return some (pos + 1)
    else if max - 1 ≤ pos then return none
    else natsTokenQuoted data max q rounds (pos + 1)

/-- `_nats_token` -/
def natsToken (data : List UInt8) (pos max : Nat) : Except Fault Token := do
  let pos ← scan (· = SP) data (max - pos) pos
  if pos = max then return ⟨some max, max, max⟩
  let c ← load data pos
  if c = 39 ∨ c = 34 then
    if max - 1 ≤ pos then return ⟨none, pos, max⟩
    match ← natsTokenQuoted data max c (max + 1) (pos + 1) with
    | none => return ⟨none, pos, max⟩
    | some stop => return ⟨some stop, pos, stop⟩
  else
    let stop ← scan (fun c => c ≠ SP && c ≠ CR) data (max - pos) pos
    return ⟨some stop, pos, stop⟩

/-- A parser's return value, its message and the buffer after it. -/
structure Parsed where
  rc : Int
  msg : Msg
  data : List UInt8
  deriving DecidableEq, Repr

/-- The common body of `ngx_nats_parse_ok`, `ngx_nats_parse_ping` and `ngx_nats_parse_pong`:
CRLF must follow the keyword at once. -/
def parseBare (keyword : Nat) (type : MsgType) (bytes : Str) (m : Msg) : Except Fault Parsed := do
  let m := { m with type := type }
  if bytes.len < keyword + 1 then return ⟨protoAgain, m, bytes.data⟩
  if (← load bytes.data keyword) ≠ CR then return ⟨protoErrInvalidMsg, m, bytes.data⟩
  if bytes.len < keyword + 2 then return ⟨protoAgain, m, bytes.data⟩
  if (← load bytes.data (keyword + 1)) ≠ LF then return ⟨protoErrInvalidMsg, m, bytes.data⟩
  return ⟨keyword + 2, m, bytes.data⟩

/-- `ngx_nats_parse_ok` -/
def parseOk (bytes : Str) (m : Msg) : Except Fault Parsed := parseBare 3 .ok bytes m

/-- `ngx_nats_parse_ping` -/
def parsePing (bytes : Str) (m : Msg) : Except Fault Parsed := parseBare 4 .ping bytes m

/-- `ngx_nats_parse_pong` -/
def parsePong (bytes : Str) (m : Msg) : Except Fault Parsed := parseBare 4 .pong bytes m

/-- The common tail of `ngx_nats_parse_err` and `ngx_nats_parse_info`: the text from `n` on ends
at the first CR after its first byte. -/
def parseText (n : Nat) (bytes : Str) (m : Msg) : Except Fault Parsed := do
  let m := { m with bstart := n }
  let n ← scan (· ≠ CR) bytes.data (bytes.len - (n + 1)) (n + 1)
  if bytes.len - 1 ≤ n then return ⟨protoAgain, m, bytes.data⟩
  if (← load bytes.data (n + 1)) ≠ LF then return ⟨protoErrInvalidMsg, m, bytes.data⟩
  let m := { m with bend := n }
  let data ← store bytes.data m.bend 0
  return ⟨Word.signed (n + 2), m, data⟩

/-- `ngx_nats_parse_err` -/
def parseErr (bytes : Str) (headerLen : Nat) (m : Msg) : Except Fault Parsed := do
  let m := { m with type := .err }
  let n ← scan (· = SP) bytes.data (bytes.len - headerLen) headerLen
  if bytes.len ≤ n then return ⟨protoAgain, m, bytes.data⟩
  if n = headerLen then
    if (← load bytes.data n) ≠ CR then return ⟨protoErrInvalidMsg, m, bytes.data⟩
    if n = bytes.len - 1 then return ⟨protoAgain, m, bytes.data⟩
    if (← load bytes.data (n + 1)) ≠ LF then return ⟨protoErrInvalidMsg, m, bytes.data⟩
    let m := { m with bstart := headerLen, bend := headerLen }
    let data ← store bytes.data m.bend 0
    return ⟨Word.signed (n + 2), m, data⟩
  parseText n bytes m

/-- `ngx_nats_parse_info` -/
def parseInfoLine (bytes : Str) (headerLen : Nat) (m : Msg) : Except Fault Parsed := do
  let m := { m with type := .info }
  let n ← scan (· = SP) bytes.data (bytes.len - headerLen) headerLen
  if bytes.len ≤ n then return ⟨protoAgain, m, bytes.data⟩
  if n = headerLen then return ⟨protoErrInvalidMsg, m, bytes.data⟩
  parseText n bytes m

/-- The end of the header of `ngx_nats_parse_msg` from `n` on: one or two tokens, the last of them
the length and the one before it the reply-to. Nothing is `NGX_NATS_PROTO_ERR_INVALID_MSG`. -/
def parseMsgLast (data : List UInt8) (n max : Nat) :
    Except Fault (Option (Option Slice × Slice)) := do
  let third ← natsToken data n max
  let some n := third.next | return none
  if third.ne ≤ third.ns then return none
  if n < max then
    let fourth ← natsToken data n max
    let some n := fourth.next | return none
    let fifth ← natsToken data n max
    let some n := fifth.next | return none
    if n < max ∨ fifth.ns < fifth.ne then return none
    if fourth.ns < fourth.ne then
      return some (some ⟨third.ns, third.ne - third.ns⟩, ⟨fourth.ns, fourth.ne - fourth.ns⟩)
  return some (none, ⟨third.ns, third.ne - third.ns⟩)

/-- The header part of `ngx_nats_parse_msg`: subject, sid, optional reply-to and length between
`headerLen` and the CR at `max`. No message is `NGX_NATS_PROTO_ERR_INVALID_MSG`. -/
def parseMsgHeader (data : List UInt8) (headerLen max : Nat) (m : Msg) :
    Except Fault (Option Msg) := do
  let subject ← natsToken data headerLen max
  let some n := subject.next | return none
  if n = max ∨ subject.ne ≤ subject.ns then return none
  let m := { m with subject := ⟨subject.ns, subject.ne - subject.ns⟩ }
  let sid ← natsToken data n max
  let some n := sid.next | return none
  if n = max ∨ sid.ne ≤ sid.ns then return none
  let some value ← natsAtoi data sid.ns (sid.ne - sid.ns) | return none
  let m := { m with sid := value }
  let some (replyto, len) ← parseMsgLast data n max | return none
  let m := { m with replyto := replyto.getD m.replyto }
  let some value ← natsAtoi data len.start len.len | return none
  return some { m with len := value }

/-- The payload part of `ngx_nats_parse_msg`, with `size_t` arithmetic on the start `ns` of the
payload and the signed length. -/
def parseMsgPayload (ns : Nat) (bytes : Str) (m : Msg) : Except Fault Parsed := do
  if bytes.len < Word.unsigned (ns + m.len + 2) then return ⟨protoAgain, m, bytes.data⟩
  if (← load bytes.data (Word.unsigned (ns + m.len))) ≠ CR then
    return ⟨protoErrInvalidMsg, m, bytes.data⟩
  if (← load bytes.data (Word.unsigned (ns + m.len + 1))) ≠ LF then
    return ⟨protoErrInvalidMsg, m, bytes.data⟩
  let m := { m with bstart := ns, bend := Word.unsigned (ns + m.len) }
  let data ← store bytes.data (m.subject.start + m.subject.len) 0
  let data ← if 0 < m.replyto.len then store data (m.replyto.start + m.replyto.len) 0 else pure data
  let data ← store data m.bend 0
  return ⟨Word.signed (ns + m.len + 2), m, data⟩

/-- `ngx_nats_parse_msg` -/
def parseMsg (bytes : Str) (headerLen : Nat) (m : Msg) : Except Fault Parsed := do
  let m := { m with type := .msg }
  if (← load bytes.data headerLen) ≠ SP then return ⟨protoErrInvalidMsg, m, bytes.data⟩
  let n ← scan (· ≠ CR) bytes.data (bytes.len - 1 - headerLen) headerLen
  if bytes.len - 1 ≤ n then return ⟨protoAgain, m, bytes.data⟩
  if (← load bytes.data (n + 1)) ≠ LF then return ⟨protoErrInvalidMsg, m, bytes.data⟩
  match ← parseMsgHeader bytes.data headerLen n m with
  | none => return ⟨protoErrInvalidMsg, m, bytes.data⟩
  | some m => parseMsgPayload (n + 2) bytes m

/-- The dispatch of `ngx_nats_parse` on a keyword of `p` bytes. -/
def parseKeyword (bytes : Str) (p : Nat) (m : Msg) : Except Fault Parsed :=
  let keyword := bytes.data.take p
  if p = 3 then
    if strncasecmp keyword "+OK" then parseOk bytes m
    else if strncasecmp keyword "MSG" then parseMsg bytes p m
    else return ⟨protoErrInvalidHeader, m, bytes.data⟩
  else if p = 4 then
    if strncasecmp keyword "-ERR" then parseErr bytes p m
    else if strncasecmp keyword "PING" then parsePing bytes m
    else if strncasecmp keyword "PONG" then parsePong bytes m
    else if strncasecmp keyword "INFO" then parseInfoLine bytes p m
    else return ⟨protoErrInvalidHeader, m, bytes.data⟩
  else return ⟨protoErrInvalidHeader, m, bytes.data⟩

/-- `ngx_nats_parse` -/
def parse (bytes : Str) : Except Fault Parsed := do
  let m : Msg := {}
  let p ← scan (fun c => c ≠ LF && c ≠ SP && c ≠ CR) bytes.data bytes.len 0
  if bytes.len ≤ p then return ⟨protoAgain, m, bytes.data⟩
  -- The loop of the source returns at a line feed and leaves at a space or CR.
  if (← load bytes.data p) = LF then return ⟨protoErrInvalidHeader, m, bytes.data⟩
  parseKeyword bytes p m

end NgxNats
