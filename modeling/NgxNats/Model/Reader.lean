import NgxNats.Model.Client

/-!
# The reader

`ngx_nats_read_from_nats` and what it calls: receive, parse, dispatch, skip, compact, grow.
-/
namespace NgxNats

variable (env : Env) (k : Calls)

/-- `ngx_nats_connection_ready`; the version is printed with `%V`, which dereferences it. -/
def connectionReady : Comm Unit := do
  let w ← Program.get
  let _ ← Program.require .badAccess w.nc.srvVersion
  Program.forEach w.clients.zipIdx fun (_, i) => do
    emit (.connected i)
    k.callback (.connected i)

/-- `ngx_strcasecmp(name, literal) == 0`; the name ends at its first zero byte. -/
def strcasecmp (name : List UInt8) (literal : String) : Bool :=
  strncasecmp (name.takeWhile (· ≠ 0)) literal

/-- One field of `ngx_nats_parse_info`; nothing is a value of the wrong type. -/
def infoField (nc : NatsConnection) (name : List UInt8) (value : JsonValue) :
    Option NatsConnection :=
  if strcasecmp name "server_id" then
    match value with
    | .string vstr => some { nc with srvId := some vstr }
    | _ => none
  else if strcasecmp name "host" then
    match value with
    | .string vstr => some { nc with srvHost := some vstr }
    | _ => none
  else if strcasecmp name "port" then
    match value with
    | .integer vint => some { nc with srvPort := vint }
    | _ => none
  else if strcasecmp name "version" then
    match value with
    | .string vstr => some { nc with srvVersion := some vstr }
    | _ => none
  else if strcasecmp name "auth_required" then
    match value with
    | .boolean vint => some { nc with srvAuthRequired := vint ≠ 0 }
    | _ => none
  else if strcasecmp name "ssl_required" then
    match value with
    | .boolean vint => some { nc with srvSslRequired := vint ≠ 0 }
    | _ => none
  else if strcasecmp name "max_payload" then
    match value with
    | .integer vint => some { nc with srvMaxPayload := vint }
    | _ => none
  else if strcasecmp name "go" then
    match value with
    | .string vstr => some { nc with goVersion := some vstr }
    | _ => none
  else some nc

/-- The loop of `ngx_nats_parse_info` over the fields: the connection with what was taken over,
and whether all of it was. -/
def infoFields (nc : NatsConnection) : List (List UInt8 × JsonValue) → NatsConnection × Bool
  | [] => (nc, true)
  | (name, value) :: rest =>
    match infoField nc name value with
    | some nc => infoFields nc rest
    | none => (nc, false)

/-- `ngx_nats_parse_info` -/
def parseInfo (body : List UInt8) : Comm Int := do
  let w ← Program.get
  emit (.info w.clock body)
  let json ← ask env.json
  match ← lift (jsonParse json (.ofList body)) with
  | .ok (_, .object fields) =>
    let w ← Program.get
    let (nc, complete) := infoFields w.nc fields
    setNc fun _ => nc
    if complete then
      emit .infoParsed
      return ngxOk
    else return ngxError
  | _ => return ngxError

/-- The table update of `ngx_nats_process_msg`: find the subscription of a frame and count the
frame; a subscription that reaches its maximum is removed. -/
def countMsg (sid : Int) : Comm (Option Subscription) := do
  let w ← Program.get
  match getSubscription w.subs sid with
  | none =>
    emit (.msg sid w.subs)
    return none
  | some i =>
    match w.subs[i]? with
    | none => Program.fault .badAccess
    | some sub =>
      let counted := w.subs.set i { sub with recv := sub.recv + 1 }
      let subs :=
        if 0 < sub.max then
          if sub.max ≤ sub.recv + 1 then (removeSubscription counted sub.sid).1 else counted
        else w.subs
      record (.msg sid w.subs) fun w => { w with subs := subs }
      return some sub

/-- `ngx_nats_process_msg` -/
def processMsg (msg : ServerMsg) : Comm Unit := do
  match ← countMsg msg.sid with
  | none => return ()
  | some sub =>
    if ¬(← ask env.createPool) then return ()
    else if ¬(← ask env.pcalloc) then return ()
    else
      let message : Message := {
        client := sub.client
        sid := msg.sid
        subject := msg.subject
        replyto := if 0 < msg.replyto.length then some msg.replyto else none
        data := msg.body
        clientSubscriptionData := sub.clientSubscriptionData }
      emit (.delivered sub sub.handleMsg message)
      k.callback (.message sub.handleMsg message)

/-- The parsed message with the bytes of its slices in the buffer it was parsed from. -/
def serverMsg (parsed : Parsed) : ServerMsg where
  type := parsed.msg.type
  sid := parsed.msg.sid
  subject := parsed.msg.subject.bytes parsed.data
  replyto := parsed.msg.replyto.bytes parsed.data
  body := (parsed.data.drop parsed.msg.bstart).take
    (Word.unsigned ((parsed.msg.bend : Int) - parsed.msg.bstart))

/-- A refused message: close the connection and return `NGX_ERROR`. -/
def reject (reason : Reason) : Comm Bool := do
  let w ← Program.get
  emit (.rejected w.nc.state)
  closeConnection env k reason true
  return false

/-- The dispatch of `_nats_process_buffer_msg`; false is `NGX_ERROR`. -/
def dispatch (parsed : Parsed) : Comm Bool := do
  let msg := serverMsg parsed
  emit (.handled msg)
  let w ← Program.get
  match msg.type with
  | .ok => return true
  | .err =>
    if w.nc.state.connectSent ∧ ¬w.nc.state.connectOkayed then reject env k .connectRefused
    else return true
  | .ping =>
    let _ ← addMessage env (ascii "PONG\r\n") 6
    return true
  | .pong =>
    if w.nc.state.connectOkayed then return true
    else
      record (.ready w.nc.state w.nc.srvVersion) fun w =>
        { w with nc := { w.nc with state := stateReady } }
      connectionReady k
      return true
  | .info =>
    if parsed.msg.bend ≤ parsed.msg.bstart then reject env k .badProtocol
    else
      let rc ← parseInfo env msg.body
      if rc ≠ ngxOk then reject env k .badProtocol else return true
  | .msg =>
    processMsg env k msg
    return true
  | .unset => reject env k .badProtocol

/-- The incomplete-message branch of `_nats_process_buffer_msg`. -/
def awaitMore : Comm Int := do
  let w ← Program.get
  let buf ← lift w.readBuf.compact
  setReadBuf buf
  if buf.cap - 1 ≤ buf.end then
    if (0 < w.nc.srvMaxPayload ∧ w.nc.srvMaxPayload ≤ buf.cap) ∨ maxMessageSize ≤ buf.cap then
      let _ ← reject env k .badProtocol
      return ngxError
    else
      let alloc ← ask env.alloc
      let (rc, buf) ← lift (buf.ensure alloc (buf.cap - 1) false)
      setReadBuf buf
      if rc ≠ ngxOk then
        let _ ← reject env k .noMemory
        return ngxError
      else return ngxOk
  else return ngxOk

/-- `_nats_process_buffer_msg`: the bytes behind the pointer reach to the end of the allocation,
and the length is `end - pos` as a `size_t`. -/
def processBufferMsg : Comm Int := do
  let w ← Program.get
  let buf := w.readBuf
  emit (.scanned buf.pos buf.end buf.cap)
  if buf.pos = buf.end then
    setReadBuf (← lift buf.compact)
    return ngxOk
  else
    let bytes : Str :=
      ⟨buf.buf.read buf.pos (buf.cap - buf.pos), Word.unsigned ((buf.end : Int) - buf.pos)⟩
    let parsed ← lift (parse bytes)
    setReadBuf { buf with buf := buf.buf.write buf.pos parsed.data }
    if parsed.rc ≤ 0 then
      if parsed.rc = protoAgain then awaitMore env k
      else
        let _ ← reject env k .badProtocol
        return ngxError
    else if ← dispatch env k parsed then return parsed.rc
    else return ngxError

/-- `ngx_nats_process_buffer`. A round that goes on has consumed a byte, so as many rounds as the
buffer has bytes are enough while no callback replaces its contents. -/
def processBuffer : Comm Int := do
  let w ← Program.get
  Program.repeatUntil .outOfFuel (do
    let rc ← processBufferMsg env k
    if rc ≤ 0 then return some rc
    else
      Program.modify fun w =>
        { w with readBuf := { w.readBuf with pos := w.readBuf.pos + rc.toNat } }
      return none) (w.readBuf.cap + 1)

/-- `rbuf->end += n` after `c->recv` wrote `bytes` there. -/
def receiveBytes (bytes : List UInt8) : Comm Unit :=
  record (.received bytes) fun w => { w with readBuf := w.readBuf.push bytes }

/-- One successful round of `ngx_nats_read_from_nats`; false when the connection was closed. -/
def receiveData (bytes : List UInt8) : Comm Bool := do
  checkConnected env
  receiveBytes bytes
  let rc ← processBuffer env k
  if rc ≠ ngxOk then
    closeConnection env k .badProtocol true
    return false
  else return true

/-- `c->recv` into the rest of the read buffer but its last byte; no more is received than was
asked for, and nothing from a closed socket. -/
def recvBytes (found : Recv) : Comm Recv := do
  let w ← Program.get
  emit (.recv w.readBuf.pos w.readBuf.end w.readBuf.cap)
  if w.readBuf.cap < w.readBuf.end + 1 then Program.fault .badAccess
  else if w.live = none then return .error
  else
    match found with
    | .bytes data =>
      let bytes := data.take (w.readBuf.cap - w.readBuf.end - 1)
      if bytes = [] then return .eof else return .bytes bytes
    | other => return other

/-- The loop of `ngx_nats_read_from_nats`; false when the connection was closed. What `recv` finds
after the given results is nothing for now. -/
def receive : List Recv → Comm Bool
  | [] => do
    let _ ← recvBytes .again
    if ← ask env.handleReadEvent then return true
    else
      closeConnection env k .internalError true
      return false
  | found :: rest => do
    match ← recvBytes found with
    | .again =>
      if ← ask env.handleReadEvent then return true
      else
        closeConnection env k .internalError true
        return false
    | .eof | .error =>
      closeConnection env k .disconnected true
      return false
    | .bytes bytes => if ← receiveData env k bytes then receive rest else return false

/-- `ngx_nats_read_from_nats` -/
def readFromNats (results : List Recv) : Comm Unit := do
  let w ← Program.get
  let wlen := w.writeBuf.end - w.writeBuf.pos
  if ← receive env k results then
    let w ← Program.get
    if wlen < w.writeBuf.end - w.writeBuf.pos then flush env k
  else return ()

end NgxNats
