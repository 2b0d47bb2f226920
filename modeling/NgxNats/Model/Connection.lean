import NgxNats.Model.World

/-!
# Connecting, closing and sending

The functions of `ngx_nats_comm.c` that open and close the connection and fill and flush the
write buffer. Connecting and the callbacks are reached through `Calls`.
-/
namespace NgxNats

variable (env : Env) (k : Calls)

/-- `ngx_nats_add_reconnect_timer` -/
def addReconnectTimer : Comm Unit := do
  let w ← Program.get
  if w.reconnectTimer = none then
    record .armed fun w =>
      { w with currIndex := -1, reconnectTimer := some env.reconnectInterval }

/-- `ngx_nats_process_reconnect` -/
def processReconnect : Comm Unit := do
  Program.modify fun w => { w with reconnectTimer := none }
  k.connect

/-- `ngx_close_connection`: close the socket and delete the timers. -/
def shutConnection : Comm Unit :=
  record .shut fun w => { w with nc := { w.nc with connection := w.nc.connection.map fun c =>
    { c with fdOpen := false, readTimer := none, writeTimer := none } } }

/-- `if (c->fd != -1) ngx_close_connection(c)` -/
def closeSocket (c : Connection) : Comm Unit := if c.fdOpen then shutConnection else return ()

/-- `ngx_nats_check_connected` -/
def checkConnected : Comm Unit := do
  let w ← Program.get
  if w.nc.state.bytesExchanged then return ()
  else
    setNc fun nc => { nc with state := { nc.state with bytesExchanged := true } }
    if w.nc.pingTimer = none then setNc fun nc => { nc with pingTimer := some env.pingInterval }

/-- The disconnected callbacks of `ngx_nats_close_connection`. -/
def disconnectClients : Comm Unit := do
  let w ← Program.get
  Program.forEach w.clients.zipIdx fun (client, i) =>
    if client.disconnected then do
      emit (.disconnected i)
      k.callback (.disconnected i)
    else return ()

/-- The end of `ngx_nats_close_connection`: forget the connection and reconnect. -/
def abandon (reason : Reason) (immediate reconnect : Bool) : Comm Unit := do
  record (.closed reason) fun w => { w with
    subs := []
    nextId := 0
    attached := false
    readBuf := w.readBuf.reset
    writeBuf := w.writeBuf.reset }
  if reconnect then
    if reason = .disconnected ∨ immediate then processReconnect k else addReconnectTimer env
  else return ()

/-- `ngx_nats_close_connection` -/
def closeConnection (reason : Reason) (reconnect : Bool) : Comm Unit := do
  let w ← Program.get
  setNc fun nc => { nc with pingTimer := none }
  let c ← Program.require .badAccess w.nc.connection
  closeSocket c
  setConnection fun c => { c with readTimer := none, writeTimer := none }
  if ¬w.nc.state.bytesExchanged then abandon env k reason true reconnect
  else if w.nc.state = stateReady then do
    disconnectClients k
    abandon env k reason false reconnect
  else abandon env k reason false reconnect

/-- The part of `ngx_nats_add_message` after the size is known: make room and copy. The copy must
stay inside the message and the allocation. -/
def appendBytes (message : List UInt8) (size : Nat) : Comm Int := do
  let alloc ← ask env.alloc
  let w ← Program.get
  let (rc, buf) ← lift (w.writeBuf.ensure alloc size true)
  if rc ≠ ngxOk then
    record (.refused size) fun w => { w with writeBuf := buf }
    return rc
  else if message.length < size ∨ buf.cap < buf.end + size then Program.fault .badAccess
  else
    record (.queued (message.take size)) fun w =>
      { w with writeBuf := buf.push (message.take size) }
    return ngxOk

/-- `strlen` -/
def strlen (message : List UInt8) : Nat := (message.takeWhile (· ≠ 0)).length

/-- `ngx_nats_add_message`: `message` is the memory readable from the pointer on. Size 0 stands for
the length of a zero-terminated string. -/
def addMessage (message : List UInt8) (size : Nat) : Comm Int :=
  if size = 0 then
    if 0 ∉ message then Program.fault .badAccess
    else if strlen message = 0 then return ngxOk
    else appendBytes env message (strlen message)
  else appendBytes env message size

/-- `c->send`; a closed socket is an error, and no more is sent than was offered. -/
def sendBytes (offered : List UInt8) : Comm SendResult := do
  let w ← Program.get
  let c ← Program.require .badAccess w.nc.connection
  let answer ← ask env.send
  let result := if ¬c.fdOpen then .error else
    match answer with
    | .sent n => .sent (min (n + 1) offered.length)
    | other => other
  emit (.send offered result)
  return result

/-- `ngx_handle_write_event` -/
def handleWriteEvent : Comm Bool := do
  let handled ← ask env.handleWriteEvent
  if handled then return true
  else
    emit .writeEventFailed
    return false

/-- `ngx_nats_flush` -/
def flush : Comm Unit := do
  let w ← Program.get
  if w.writeBuf.end - w.writeBuf.pos = 0 then setWriteBuf w.writeBuf.reset
  else
    match ← sendBytes env w.writeBuf.pending with
    | .sent n =>
      checkConnected env
      let sent := { w.writeBuf with pos := w.writeBuf.pos + n }
      if sent.pos = sent.end then
        setWriteBuf sent.reset
        if ← handleWriteEvent env then return ()
        else closeConnection env k .internalError true
      else setWriteBuf sent
    | .error => closeConnection env k .disconnected true
    | .again =>
      setConnection fun c => { c with writeTimer := some 5000 }
      if ← handleWriteEvent env then return ()
      else closeConnection env k .internalError true
    | .nothing => return ()

/-- The CONNECT text before it is cut to the size of its array. -/
def connectText : List UInt8 :=
  ascii "CONNECT \x7b\"verbose\":false,\"pedantic\":false,\"user\":\"" ++ env.user ++
    ascii "\",\"pass\":\"" ++ env.password ++ ascii "\",\"lang\":\"c-nginx\"\x7d\r\nPING\r\n"

/-- `NGX_NATS_MAS_USER_PASS_LEN` and the size of the array for the CONNECT text. -/
def connstrSize : Nat := 512 + 128

/-- `ngx_nats_connection_init` -/
def connectionInit : Comm Unit := do
  let connstr := snprintf connstrSize (connectText env)
  let w ← Program.get
  if w.nc.state.connectSent then return ()
  else
    record .initiated fun w =>
      { w with nc := { w.nc with state := { w.nc.state with connectSent := true } } }
    let _ ← addMessage env connstr connstr.length

/-- The choice of the next server in `ngx_nats_connect_loop`; false when all were tried. -/
def nextServer : Comm Bool := do
  let w ← Program.get
  if w.currIndex < 0 then
    Program.modify fun w => { w with currIndex := w.lastIndex }
    return true
  else
    let next := if env.servers ≤ w.currIndex + 1 then 0 else w.currIndex + 1
    Program.modify fun w => { w with currIndex := next }
    return next ≠ w.lastIndex

/-- The new connection structure of `ngx_nats_connect_loop`. -/
def openConnection (server : Nat) : Comm Unit :=
  record .opened fun w => { w with attached := true, nc := { server := server } }

/-- `ngx_nats_connect_loop` -/
def connectLoop : Comm Int := do
  if ¬(← nextServer env) then
    addReconnectTimer env
    return ngxDeclined
  else
    Program.modify fun w =>
      { w with readBuf := w.readBuf.reset, writeBuf := w.writeBuf.reset }
    if ¬(← ask env.pcalloc) then
      emit .unallocated
      return ngxError
    else
      let w ← Program.get
      if w.currIndex < 0 ∨ env.servers ≤ w.currIndex then Program.fault .badAccess
      else
        openConnection w.currIndex.toNat
        emit (.attempt w.currIndex.toNat)
        match ← ask env.connectPeer with
        | .busy | .declined | .error => return ngxAgain
        | .again =>
          setNc fun nc => { nc with connection := some { writeTimer := some 5000 } }
          return ngxOk
        | .ok =>
          setNc fun nc => { nc with connection := some {} }
          connectionInit env
          flush env k
          return ngxOk

/-- `ngx_nats_connect`. Every round but the last moves on to the next server, so `servers + 2`
rounds are enough. -/
def connect : Comm Unit :=
  Program.repeatUntil .endless (do
    let rc ← connectLoop env k
    if rc ≠ ngxAgain then return some () else return none) (env.servers + 2)

end NgxNats
