import NgxNats.Model.Reader

/-!
# Event handlers and runs

The handlers nginx calls, and runs of the module: any list of events, each of which happens only
where nginx can produce it.
-/
namespace NgxNats

variable (env : Env) (k : Calls)

/-- `ngx_nats_write_event_handler` -/
def writeEventHandler : Comm Unit := do
  let w ← Program.get
  let c ← Program.require .badAccess w.nc.connection
  if c.writeTimedout then closeConnection env k .writeTimeout true
  else
    setConnection fun c => { c with writeTimer := none }
    connectionInit env
    flush env k

/-- `ngx_nats_read_event_handler` -/
def readEventHandler (results : List Recv) : Comm Unit := do
  let w ← Program.get
  let c ← Program.require .badAccess w.nc.connection
  if c.readTimedout then closeConnection env k .readTimeout true
  else if ¬(← ask env.testConnect) then closeConnection env k .connectFailed true
  else readFromNats env k results

/-- `ngx_nats_ping_handler` -/
def pingHandler : Comm Unit := do
  let w ← Program.get
  if w.nc.pingTimer = none then return ()
  else
    let _ ← addMessage env (ascii "PING\r\n") 6
    flush env k
    setNc fun nc => { nc with pingTimer := some env.pingInterval }

/-- `ngx_nats_reconnect_handler` -/
def reconnectHandler : Comm Unit := processReconnect k

/-- `ngx_nats_init` -/
def init : Comm Unit := do
  Program.modify fun w => { w with dataSet := true }
  k.connect

/-- The events that reach the module. -/
inductive Step
  /-- The worker process starts. -/
  | init
  /-- A client calls a client function from its own event handlers. -/
  | api (call : ApiCall)
  /-- The socket became readable; what the receive calls of the handler find. -/
  | readable (results : List Recv)
  /-- The socket became writable. -/
  | writable
  /-- A timer expired. -/
  | readTimeout
  | writeTimeout
  | pingTimeout
  | reconnectTimeout
  deriving DecidableEq, Repr

/-- One event, where nginx can produce it; elsewhere nothing happens. nginx clears a timer that
expires before it calls its handler. -/
def step (depth : Nat) (event : Step) : Comm Unit := do
  let k := calls env depth
  let w ← Program.get
  match event with
  | .init => if ¬w.dataSet then init k
  | .api call =>
    let _ ← apiCall env k call
  | .readable results => if w.live.isSome then readEventHandler env k results
  | .writable => if w.live.isSome then writeEventHandler env k
  | .readTimeout =>
    if w.live.any fun c => c.readTimer.isSome then
      setConnection fun c => { c with readTimer := none, readTimedout := true }
      readEventHandler env k []
  | .writeTimeout =>
    if w.live.any fun c => c.writeTimer.isSome then
      setConnection fun c => { c with writeTimer := none, writeTimedout := true }
      writeEventHandler env k
  | .pingTimeout =>
    if w.nc.pingTimer.isSome then
      setNc fun nc => { nc with pingTimer := none }
      emit (.pingExpired w.attached w.nc.state)
      pingHandler env k
  | .reconnectTimeout =>
    if w.reconnectTimer.isSome then
      Program.modify fun w => { w with reconnectTimer := none }
      reconnectHandler k

/-- A run of the module: events one after the other, until one faults. -/
def run (depth : Nat) (events : List Step) : Comm Unit :=
  Program.forEach events (step env depth)

/-- The state a run leaves behind, also when it faults. -/
def reached (depth : Nat) (events : List Step) (read write : Memory UInt8) : World :=
  (run env depth events (.start read write)).2

end NgxNats
