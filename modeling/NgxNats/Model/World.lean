import NgxNats.Model.Buffer
import NgxNats.Model.Json

/-!
# The state of the module and its surroundings

`ngx_nats_data_t` with the one connection, the two buffers and the client data, and what the
module asks of nginx, of the C library and of its clients. Every answer of the surroundings is
indexed by a clock that moves on with each question, so a run may get any sequence of answers.
The log records what happened, oldest first; the source keeps no such record.
-/
namespace NgxNats

/-- The bits of `nc->state`, from `NGX_NATS_STATE_BYTES_EXCHANGED` to
`NGX_NATS_STATE_INFO_RECEIVED`. -/
structure ConnState where
  bytesExchanged : Bool := false
  connectSent : Bool := false
  connectOkayed : Bool := false
  infoReceived : Bool := false
  deriving DecidableEq, Repr

/-- `NGX_NATS_STATE_READY` -/
def stateReady : ConnState := ⟨true, true, true, true⟩

/-- The reasons of `ngx_nats_close_connection`. -/
inductive Reason
  | connectFailed | connectRefused | readTimeout | writeTimeout | badProtocol | disconnected
  | noMemory | internalError
  deriving DecidableEq, Repr

/-- `ngx_connection_t` with its read and write events; a timer is set when it has a delay. -/
structure Connection where
  fdOpen : Bool := true
  readTimer : Option Nat := none
  readTimedout : Bool := false
  writeTimer : Option Nat := none
  writeTimedout : Bool := false
  deriving DecidableEq, Repr

/-- `ngx_nats_connection_t` -/
structure NatsConnection where
  server : Nat := 0
  connection : Option Connection := none
  pingTimer : Option Nat := none
  srvId : Option (List UInt8) := none
  srvHost : Option (List UInt8) := none
  srvPort : Int := 0
  srvVersion : Option (List UInt8) := none
  goVersion : Option (List UInt8) := none
  srvMaxPayload : Int := 0
  srvAuthRequired : Bool := false
  srvSslRequired : Bool := false
  state : ConnState := {}
  deriving DecidableEq, Repr

/-- `ngx_nats_client_t`: whether it has a `disconnected` callback. A client is named by the index
of its registration. -/
structure Client where
  disconnected : Bool
  deriving DecidableEq, Repr

/-- `ngx_nats_subscription_t` -/
structure Subscription where
  client : Nat
  handleMsg : Nat
  clientSubscriptionData : Nat
  sid : Int
  max : Int
  recv : Int
  deriving DecidableEq, Repr

/-- `ngx_nats_message_t` as a handler gets it. -/
structure Message where
  client : Nat
  sid : Int
  subject : List UInt8
  replyto : Option (List UInt8)
  data : List UInt8
  clientSubscriptionData : Nat
  deriving DecidableEq, Repr

/-- A parsed server message with the bytes its slices denote. -/
structure ServerMsg where
  type : MsgType
  sid : Int
  subject : List UInt8
  replyto : List UInt8
  body : List UInt8
  deriving DecidableEq, Repr

/-- A call of a client function. -/
inductive ApiCall
  | addClient (client : Client)
  | publish (subject replyto : Option (List UInt8)) (data : List UInt8) (len : Nat)
  | subscribe (client : Nat) (subject : List UInt8) (max : Int) (handleMsg data : Nat)
  | unsubscribe (client : Nat) (sid : Int)
  deriving DecidableEq, Repr

/-- A call of a client's callback. -/
inductive Callback
  | connected (client : Nat)
  | disconnected (client : Nat)
  | message (handler : Nat) (message : Message)
  deriving DecidableEq, Repr

/-- What `c->send` returns. -/
inductive SendResult
  | sent (n : Nat) | nothing | again | error
  deriving DecidableEq, Repr

/-- What `ngx_event_connect_peer` returns. -/
inductive PeerResult
  | ok | again | busy | declined | error
  deriving DecidableEq, Repr

/-- What one `c->recv` finds. -/
inductive Recv
  | bytes (data : List UInt8) | again | eof | error
  deriving DecidableEq, Repr

/-- The configuration, and the answers of nginx, the system and the clients at each tick. -/
structure Env where
  servers : Nat
  user : List UInt8
  password : List UInt8
  reconnectInterval : Nat
  pingInterval : Nat
  alloc : Nat → Alloc
  arrayPush : Nat → Bool
  createPool : Nat → Bool
  pcalloc : Nat → Bool
  json : Nat → JsonEnv
  send : Nat → SendResult
  handleReadEvent : Nat → Bool
  handleWriteEvent : Nat → Bool
  connectPeer : Nat → PeerResult
  testConnect : Nat → Bool
  script : Nat → Callback → List ApiCall

/-- What a run leaves behind in the log. -/
inductive Event
  /-- `ngx_event_connect_peer` was called for a server. -/
  | attempt (server : Nat)
  /-- `ngx_pcalloc` of a connection structure failed. -/
  | unallocated
  /-- A connection structure was allocated and became `nd->nc`. -/
  | opened
  /-- `ngx_close_connection` closed the socket. -/
  | shut
  /-- `ngx_nats_close_connection` forgot the connection and its subscriptions. -/
  | closed (reason : Reason)
  /-- The reconnect timer was set. -/
  | armed
  /-- `CONNECT_SENT` was set. -/
  | initiated
  /-- `ngx_nats_add_message` appended bytes. -/
  | queued (bytes : List UInt8)
  /-- `ngx_nats_add_message` found no room. -/
  | refused (size : Nat)
  /-- `c->send` was offered bytes. -/
  | send (offered : List UInt8) (result : SendResult)
  /-- `ngx_handle_write_event` failed. -/
  | writeEventFailed
  /-- A client function was called: whether `nd->nc` was set and its socket open, and its state. -/
  | called (call : ApiCall) (attached live : Bool) (state : ConnState)
  /-- A client was registered. -/
  | registered
  /-- A client's callback was called. -/
  | connected (client : Nat)
  | disconnected (client : Nat)
  /-- A message handler was called with a message of a subscription. -/
  | delivered (sub : Subscription) (handler : Nat) (message : Message)
  /-- A subscription was entered into the table. -/
  | subscribed (sub : Subscription)
  /-- A subscription got a sid but found no place in the table. -/
  | unplaced (sid : Int)
  /-- `ngx_nats_subscribe` returned an error after entering its subscription. -/
  | subscribeFailed (sid : Int)
  /-- `ngx_nats_unsubscribe` removed a subscription. -/
  | unsubscribed (sid : Int)
  /-- A MSG frame was looked up in this table. -/
  | msg (sid : Int) (subs : List Subscription)
  /-- `ngx_nats_parse_info` was called at a tick with the text of an INFO message. -/
  | info (tick : Nat) (body : List UInt8)
  /-- All fields of an INFO message were taken over. -/
  | infoParsed
  /-- `nc->state` became READY from this state, with this server version. -/
  | ready (state : ConnState) (version : Option (List UInt8))
  /-- `c->recv` was asked for bytes in this state of the read buffer. -/
  | recv (pos «end» cap : Nat)
  /-- Bytes were received. -/
  | received (bytes : List UInt8)
  /-- One round of `ngx_nats_process_buffer` found the read buffer in this state. -/
  | scanned (pos «end» cap : Nat)
  /-- A server message was refused in this state: malformed, too large, or out of memory. -/
  | rejected (state : ConnState)
  /-- A server message was accepted for dispatch. -/
  | handled (msg : ServerMsg)
  /-- The ping timer expired, with `nd->nc` set or not and in this state. -/
  | pingExpired (attached : Bool) (state : ConnState)
  deriving DecidableEq, Repr

/-- The state of the module. -/
structure World where
  clock : Nat := 0
  /-- `ngx_nats_data` is set. -/
  dataSet : Bool := false
  reconnectTimer : Option Nat := none
  clients : List Client := []
  subs : List Subscription := []
  nextId : Int := 0
  /-- `nd->nc` is set. -/
  attached : Bool := false
  /-- The memory of the one connection structure; a pool reset reuses it. -/
  nc : NatsConnection := {}
  readBuf : Buf
  writeBuf : Buf
  currIndex : Int := -1
  lastIndex : Int := 0
  log : List Event := []

/-- The open nginx connection, whose events nginx delivers. -/
def World.live (w : World) : Option Connection :=
  match w.nc.connection with
  | some c => if c.fdOpen then some c else none
  | none => none

/-- A part of the module. -/
abbrev Comm := Program Fault World

/-- The state `ngx_nats_core_init_module` leaves behind. -/
def World.start (read write : Memory UInt8) : World where
  readBuf := .create bufInitSize read
  writeBuf := .create bufInitSize write

/-- Ask the surroundings. -/
def ask {α : Type} (answer : Nat → α) : Comm α := do
  let w ← Program.get
  Program.modify fun w => { w with clock := w.clock + 1 }
  return answer w.clock

/-- Record an event. -/
def emit (event : Event) : Comm Unit :=
  Program.modify fun w => { w with log := w.log ++ [event] }

/-- Change the state and record the event. -/
def record (event : Event) (change : World → World) : Comm Unit :=
  Program.modify fun w => { change w with log := (change w).log ++ [event] }

/-- Stop at a fault of a pure computation. -/
def lift {α : Type} : Except Fault α → Comm α
  | .ok value => return value
  | .error stop => Program.fault stop

/-- Change the connection structure. -/
def setNc (change : NatsConnection → NatsConnection) : Comm Unit :=
  Program.modify fun w => { w with nc := change w.nc }

/-- Change the nginx connection, if there is one. -/
def setConnection (change : Connection → Connection) : Comm Unit :=
  setNc fun nc => { nc with connection := nc.connection.map change }

/-- Replace the read buffer. -/
def setReadBuf (b : Buf) : Comm Unit := Program.modify fun w => { w with readBuf := b }

/-- Replace the write buffer. -/
def setWriteBuf (b : Buf) : Comm Unit := Program.modify fun w => { w with writeBuf := b }

section Running

variable {α β : Type} (w : World)

/-- A question to the environment is answered by the clock, which it moves on. -/
@[simp] theorem ask_bind (answer : Nat → α) (next : α → Comm β) :
    (ask answer >>= next) w = next (answer w.clock) { w with clock := w.clock + 1 } := rfl

/-- An event is added at the end of the log. -/
@[simp] theorem emit_bind (event : Event) (next : Unit → Comm β) :
    (emit event >>= next) w = next () { w with log := w.log ++ [event] } := rfl

/-- Behind a recorded change the program goes on with the event in the log. -/
@[simp] theorem record_bind (event : Event) (change : World → World) (next : Unit → Comm β) :
    (record event change >>= next) w =
      next () { change w with log := (change w).log ++ [event] } := rfl

/-- Behind a result that came out the program goes on with it. -/
@[simp] theorem lift_ok_bind (value : α) (next : α → Comm β) :
    (lift (.ok value) >>= next) w = next value w := rfl

/-- Behind `setNc` the program goes on with the changed connection. -/
@[simp] theorem setNc_bind (change : NatsConnection → NatsConnection) (next : Unit → Comm β) :
    (setNc change >>= next) w = next () { w with nc := change w.nc } := rfl

/-- Behind `setReadBuf` the program goes on with the new read buffer. -/
@[simp] theorem setReadBuf_bind (b : Buf) (next : Unit → Comm β) :
    (setReadBuf b >>= next) w = next () { w with readBuf := b } := rfl

/-- Behind `setWriteBuf` the program goes on with the new write buffer. -/
@[simp] theorem setWriteBuf_bind (b : Buf) (next : Unit → Comm β) :
    (setWriteBuf b >>= next) w = next () { w with writeBuf := b } := rfl

end Running

/-- The functions of the module that call back into it: `ngx_nats_connect`, reached from
`ngx_nats_close_connection`, and the clients' callbacks. -/
structure Calls where
  connect : Comm Unit
  callback : Callback → Comm Unit

end NgxNats
