import NgxNats.Model.Connection

/-!
# Subscriptions and the client functions

The subscription array with its holes, and the functions clients call: `ngx_nats_add_client`,
`ngx_nats_publish`, `ngx_nats_subscribe` and `ngx_nats_unsubscribe`.
-/
namespace NgxNats

/-- `ngx_nats_get_subscription`: the index of the first entry with a sid. -/
def getSubscription (subs : List Subscription) (sid : Int) : Option Nat :=
  subs.findIdx? fun sub => sub.sid = sid

/-- The hole that `ngx_nats_add_subscription` reuses. -/
def findHole (subs : List Subscription) : Option Nat := subs.findIdx? fun sub => sub.sid = 0

/-- `ngx_nats_remove_subscription`: the array after it, and the sid or 0. -/
def removeSubscription (subs : List Subscription) (sid : Int) : List Subscription × Int :=
  if sid = 0 then (subs, 0)
  else
    match subs.findIdx? fun sub => sub.sid = sid with
    | some i => (subs.modify i fun sub => { sub with sid := 0 }, sid)
    | none => (subs, 0)

/-- `ngx_nats_add_subscription` and the assignments to the entry that follow it: the first hole is
overwritten, or the entry is pushed if the array can grow. -/
def addSubscription (subs : List Subscription) (sub : Subscription) (granted : Bool) :
    Option (List Subscription) :=
  match findHole subs with
  | some i => some (subs.set i sub)
  | none => if granted then some (subs ++ [sub]) else none

variable (env : Env) (k : Calls)

/-- The array `header` of `ngx_nats_publish`, `ngx_nats_subscribe` and `ngx_nats_unsubscribe`. -/
def headerSize : Nat := 512 + 64

/-- `"PUB %V %V %ui\r\n"` or `"PUB %V %ui\r\n"` -/
def pubText (subject : List UInt8) (replyto : Option (List UInt8)) (len : Nat) : List UInt8 :=
  match replyto with
  | some replyto => ascii "PUB " ++ subject ++ ascii " " ++ replyto ++ ascii " " ++ decimal len ++
      ascii "\r\n"
  | none => ascii "PUB " ++ subject ++ ascii " " ++ decimal len ++ ascii "\r\n"

/-- The length check of `ngx_nats_publish`. -/
def admits (subject : List UInt8) (replyto : Option (List UInt8)) : Bool :=
  subject.length + (replyto.getD []).length ≤ 512

/-- The three appends of `ngx_nats_publish`; `data` is the memory readable from the pointer on. -/
def publishFrame (header data : List UInt8) (len : Nat) : Comm Int := do
  let rc ← addMessage env header header.length
  if rc ≠ ngxOk then return rc
  else
    let rc ← addMessage env data len
    if rc ≠ ngxOk then return rc
    else addMessage env (ascii "\r\n") 2

/-- `ngx_nats_publish` -/
def publish (subject replyto : Option (List UInt8)) (data : List UInt8) (len : Nat) :
    Comm Int := do
  let w ← Program.get
  if ¬w.dataSet then return ngxAbort
  else if ¬w.attached then return ngxError
  else if w.nc.state ≠ stateReady then return ngxError
  else
    match subject with
    | none => return ngxError
    | some subject =>
      if ¬admits subject replyto then return ngxDeclined
      else
        let rc ← publishFrame env (snprintf headerSize (pubText subject replyto len)) data len
        if rc ≠ ngxOk then return rc
        else
          flush env k
          return ngxOk

/-- `"SUB %V %ui\r\n"` -/
def subText (subject : List UInt8) (sid : Int) : List UInt8 :=
  ascii "SUB " ++ subject ++ ascii " " ++ decimal (Word.unsigned sid) ++ ascii "\r\n"

/-- `"UNSUB %ui %ui\r\n"` -/
def unsubMaxText (sid max : Int) : List UInt8 :=
  ascii "UNSUB " ++ decimal (Word.unsigned sid) ++ ascii " " ++ decimal (Word.unsigned max) ++
    ascii "\r\n"

/-- `"UNSUB %ui\r\n"` -/
def unsubText (sid : Int) : List UInt8 :=
  ascii "UNSUB " ++ decimal (Word.unsigned sid) ++ ascii "\r\n"

/-- Append the text that `ngx_snprintf` printed into `header`. -/
def addHeader (text : List UInt8) : Comm Int :=
  addMessage env (snprintf headerSize text) (snprintf headerSize text).length

/-- The appends of `ngx_nats_subscribe`. -/
def subscribeLines (subject : List UInt8) (sid max : Int) : Comm Int := do
  let rc ← addHeader env (subText subject sid)
  if rc ≠ ngxOk then return rc
  else if 0 < max then addHeader env (unsubMaxText sid max)
  else return ngxOk

/-- The table update of `ngx_nats_subscribe`: take the next sid and enter the subscription. -/
def enterSubscription (client : Nat) (max : Int) (handleMsg data : Nat) :
    Comm (Option Subscription) := do
  let granted ← ask env.arrayPush
  let w ← Program.get
  let sid := Word.signed (w.nextId + 1)
  let sub : Subscription := ⟨client, handleMsg, data, sid, max, 0⟩
  match addSubscription w.subs sub granted with
  | none =>
    record (.unplaced sid) fun w => { w with nextId := sid }
    return none
  | some subs =>
    record (.subscribed sub) fun w => { w with nextId := sid, subs := subs }
    return some sub

/-- `ngx_nats_subscribe` -/
def subscribe (client : Nat) (subject : List UInt8) (max : Int) (handleMsg data : Nat) :
    Comm Int := do
  let w ← Program.get
  if ¬w.dataSet then return ngxAbort
  else if ¬w.attached then return ngxError
  else if w.nc.state ≠ stateReady then return ngxError
  else
    match ← enterSubscription env client max handleMsg data with
    | none => return ngxError
    | some sub =>
      let rc ← subscribeLines env subject sub.sid max
      if rc ≠ ngxOk then
        emit (.subscribeFailed sub.sid)
        return rc
      else
        flush env k
        return sub.sid

/-- The table update of `ngx_nats_unsubscribe`: remove a subscription and say whether there was
one. -/
def dropSubscription (sid : Int) : Comm Bool := do
  let w ← Program.get
  let (subs, removed) := removeSubscription w.subs sid
  if removed = 0 then return false
  else
    record (.unsubscribed sid) fun w => { w with subs := subs }
    return true

/-- `ngx_nats_unsubscribe` -/
def unsubscribe (sid : Int) : Comm Int := do
  if sid = 0 then return ngxDeclined
  else
    let w ← Program.get
    if ¬w.dataSet then return ngxAbort
    else if ¬w.attached then return ngxError
    else if w.nc.state ≠ stateReady then return ngxError
    else if ¬(← dropSubscription sid) then return ngxDeclined
    else
      let rc ← addHeader env (unsubText sid)
      if rc ≠ ngxOk then return rc
      else
        flush env k
        return ngxOk

/-- `ngx_nats_add_client` -/
def addClient (client : Client) : Comm Int := do
  let w ← Program.get
  if ¬w.dataSet then return ngxAbort
  else if ¬(← ask env.arrayPush) then return ngxError
  else
    record .registered fun w => { w with clients := w.clients ++ [client] }
    if ¬w.attached then return ngxOk
    else if w.nc.state ≠ stateReady then return ngxOk
    else
      emit (.connected w.clients.length)
      k.callback (.connected w.clients.length)
      return ngxOk

/-- One call of a client function; clients look at the result, the module does not. -/
def apiCall (call : ApiCall) : Comm Int := do
  let w ← Program.get
  emit (.called call w.attached w.live.isSome w.nc.state)
  match call with
  | .addClient client => addClient env k client
  | .publish subject replyto data len => publish env k subject replyto data len
  | .subscribe client subject max handleMsg data =>
    subscribe env k client subject max handleMsg data
  | .unsubscribe _ sid => unsubscribe env k sid

/-- A client's callback: it calls client functions. -/
def callback (call : Callback) : Comm Unit := do
  let script ← ask fun tick => env.script tick call
  Program.forEach script fun call => do
    let _ ← apiCall env k call

/-- The calls back into the module, nested up to a depth. -/
def calls : Nat → Calls
  | 0 => ⟨Program.fault .outOfFuel, fun _ => Program.fault .outOfFuel⟩
  | depth + 1 => ⟨connect env (calls depth), callback env (calls depth)⟩

end NgxNats
