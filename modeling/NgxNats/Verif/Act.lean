import Mathlib.Logic.Relation
import NgxNats.Model.Module
import NgxNats.Verif.Appends

/-!
# What the module can do

Every function of the module, whatever it is called with and however it ends, leaves a state that
a sequence of acts leads to. An act is one change of the state that belongs together, with what
the source guarantees about it. Invariants of whole runs are proved by looking at the acts.
-/
namespace NgxNats

open Program (Moves)

/-- Events that go with no change of the connection's state, the clients or the subscriptions. -/
def Event.plain : Event → Bool
  | .opened | .closed _ | .initiated | .registered | .delivered .. | .subscribed _ | .unplaced _
  | .unsubscribed _ | .msg .. | .info .. | .infoParsed | .ready .. => false
  | _ => true

/-- The CONNECT text as it is queued. -/
def connstr (env : Env) : List UInt8 := snprintf connstrSize (connectText env)

/-- The count of a frame in the table: the entry it was found in, one frame later. -/
def countedSubs (subs : List Subscription) (i : Nat) (sub : Subscription) : List Subscription :=
  if 0 < sub.max then
    if sub.max ≤ sub.recv + 1 then
      (removeSubscription (subs.set i { sub with recv := sub.recv + 1 }) sub.sid).1
    else subs.set i { sub with recv := sub.recv + 1 }
  else subs

/-- One change of the state. -/
inductive Act (env : Env) (w : World) : World → Prop
  | tick : Act env w { w with clock := w.clock + 1 }
  | note (event : Event) (plain : event.plain = true) :
    Act env w { w with log := w.log ++ [event] }
  | start : Act env w { w with dataSet := true }
  | schedule (index : Int) (timer : Option Nat) :
    Act env w { w with currIndex := index, reconnectTimer := timer }
  | wire (connection : Option Connection) (pingTimer : Option Nat) :
    Act env w { w with nc := { w.nc with connection := connection, pingTimer := pingTimer } }
  | exchange :
    Act env w { w with nc := { w.nc with state := { w.nc.state with bytesExchanged := true } } }
  | fillRead (b : Buf) : Act env w { w with readBuf := b }
  | fillWrite (b : Buf) : Act env w { w with writeBuf := b }
  | opened (server : Nat) :
    Act env w { w with attached := true, nc := { server := server }, log := w.log ++ [.opened] }
  | closed (reason : Reason) :
    Act env w { w with
      subs := []
      nextId := 0
      attached := false
      readBuf := w.readBuf.reset
      writeBuf := w.writeBuf.reset
      log := w.log ++ [.closed reason] }
  | initiate (b : Buf) (event : Event) (clock : Nat) (fresh : w.nc.state.connectSent = false)
    (appended : event = .queued (connstr env) ∨ event = .refused (connstr env).length) :
    Act env w { w with
      clock := clock
      writeBuf := b
      nc := { w.nc with state := { w.nc.state with connectSent := true } }
      log := w.log ++ [.initiated, event] }
  | register (client : Client) :
    Act env w { w with clients := w.clients ++ [client], log := w.log ++ [.registered] }
  | number : Act env w { w with
      nextId := Word.signed (w.nextId + 1)
      log := w.log ++ [.unplaced (Word.signed (w.nextId + 1))] }
  | subscribe (client handleMsg data : Nat) (max : Int) (granted : Bool) (subs : List Subscription)
    (entered : addSubscription w.subs
      ⟨client, handleMsg, data, Word.signed (w.nextId + 1), max, 0⟩ granted = some subs) :
    Act env w { w with
      nextId := Word.signed (w.nextId + 1)
      subs := subs
      log := w.log ++
        [.subscribed ⟨client, handleMsg, data, Word.signed (w.nextId + 1), max, 0⟩] }
  | unsubscribe (sid : Int) (removed : (removeSubscription w.subs sid).2 ≠ 0) :
    Act env w { w with
      subs := (removeSubscription w.subs sid).1
      log := w.log ++ [.unsubscribed sid] }
  | miss (sid : Int) (unknown : getSubscription w.subs sid = none) :
    Act env w { w with log := w.log ++ [.msg sid w.subs] }
  | count (sid : Int) (i : Nat) (sub : Subscription) (found : getSubscription w.subs sid = some i)
    (entry : w.subs[i]? = some sub) (clock : Nat) (delivered : List Event)
    (outcome : (∃ message, delivered = [.delivered sub sub.handleMsg message] ∧
        message.sid = sid ∧ message.client = sub.client ∧
        message.clientSubscriptionData = sub.clientSubscriptionData) ∨
      delivered = [] ∧ ∃ tick, env.createPool tick = false ∨ env.pcalloc tick = false) :
    Act env w { w with
      clock := clock
      subs := countedSubs w.subs i sub
      log := w.log ++ .msg sid w.subs :: delivered }
  | info (body : List UInt8) (n : Nat) (fields : List (List UInt8 × JsonValue))
    (parsed : jsonParse (env.json w.clock) (.ofList body) = .ok (.ok (n, .object fields))) :
    Act env w { w with
      clock := w.clock + 1
      nc := (infoFields w.nc fields).1
      log := w.log ++
        .info w.clock body :: if (infoFields w.nc fields).2 then [.infoParsed] else [] }
  | noInfo (body : List UInt8) (other : ∀ n fields,
      jsonParse (env.json w.clock) (.ofList body) ≠ .ok (.ok (n, .object fields))) :
    Act env w { w with clock := w.clock + 1, log := w.log ++ [.info w.clock body] }
  | ready (fresh : w.nc.state.connectOkayed = false) :
    Act env w { w with
      nc := { w.nc with state := stateReady }
      log := w.log ++ [.ready w.nc.state w.nc.srvVersion] }

/-- An act adds events to the log and drops none. -/
theorem Act.grows {env : Env} {w w' : World} (act : Act env w w') :
    ∃ events, w'.log = w.log ++ events := by
  cases act with
  | tick => exact ⟨[], (List.append_nil _).symm⟩
  | start => exact ⟨[], (List.append_nil _).symm⟩
  | schedule => exact ⟨[], (List.append_nil _).symm⟩
  | wire => exact ⟨[], (List.append_nil _).symm⟩
  | exchange => exact ⟨[], (List.append_nil _).symm⟩
  | fillRead => exact ⟨[], (List.append_nil _).symm⟩
  | fillWrite => exact ⟨[], (List.append_nil _).symm⟩
  | _ => exact ⟨_, rfl⟩

/-- The acts that lead from one state to another, and keep the write buffer well-formed. -/
def Acts (env : Env) (w w' : World) : Prop :=
  w.writeBuf.WellFormed → w'.writeBuf.WellFormed ∧ Relation.ReflTransGen (Act env) w w'

/-- A state is reached from itself by no act at all. -/
instance (env : Env) : Std.Refl (Acts env) where
  refl _ formed := ⟨formed, .refl⟩

/-- Acts after acts are acts. -/
instance (env : Env) : IsTrans World (Acts env) where
  trans _ _ _ first second formed :=
    ⟨(second (first formed).1).1, (first formed).2.trans (second (first formed).1).2⟩

variable {env : Env} {k : Calls}

/-- What acts do to the log: they add to it. -/
theorem Acts.grows {w w' : World} (acts : Acts env w w') (formed : w.writeBuf.WellFormed) :
    ∃ events, w'.log = w.log ++ events := by
  have steps := (acts formed).2
  clear acts
  induction steps with
  | refl => exact ⟨[], (List.append_nil _).symm⟩
  | tail _ act ih =>
    obtain ⟨first, log⟩ := ih
    obtain ⟨second, log'⟩ := act.grows
    exact ⟨first ++ second, by rw [log', log, List.append_assoc]⟩

/-- One act that does not touch the write buffer. -/
theorem Act.acts {w w' : World} (act : Act env w w') (same : w'.writeBuf = w.writeBuf) :
    Acts env w w' := fun formed => ⟨same ▸ formed, .single act⟩

/-- Emptying a buffer keeps it well-formed. -/
theorem Buf.WellFormed.reset {b : Buf} (formed : b.WellFormed) : b.reset.WellFormed :=
  ⟨valid_reset b, formed.least⟩

/-- A question to the environment moves the clock. -/
theorem ask_acts {α : Type} (answer : Nat → α) (w : World) : Moves (Acts env) (ask answer) w :=
  (Act.tick).acts rfl

/-- A plain event is noted. -/
theorem emit_acts {event : Event} (plain : event.plain = true) (w : World) :
    Moves (Acts env) (emit event) w := (Act.note event plain).acts rfl

/-- A change that is an act, and then an event that only reports it. -/
theorem record_acts {event : Event} {change : World → World} {w : World}
    (act : Acts env w (change w)) (plain : event.plain = true) :
    Moves (Acts env) (record event change) w :=
  IsTrans.trans _ _ _ act ((Act.note event plain).acts rfl)

/-- A pure computation makes no act, whether it returns or crashes. -/
theorem lift_acts {α : Type} (result : Except Fault α) (w : World) :
    Moves (Acts env) (lift result) w := by
  cases result with
  | ok value => exact Moves.pure value w
  | error stop => exact Moves.fault stop w

/-- Changing the nginx connection. -/
theorem setConnection_acts (change : Connection → Connection) (w : World) :
    Moves (Acts env) (setConnection change) w := (Act.wire _ w.nc.pingTimer).acts rfl

/-- A new read buffer is one act. -/
theorem setReadBuf_acts (b : Buf) (w : World) : Moves (Acts env) (setReadBuf b) w :=
  (Act.fillRead b).acts rfl

/-- Replacing the write buffer by a well-formed one. -/
theorem setWriteBuf_acts {b : Buf} {w : World} (kept : w.writeBuf.WellFormed → b.WellFormed) :
    Moves (Acts env) (setWriteBuf b) w := fun formed => ⟨kept formed, .single (.fillWrite b)⟩

/-- Arming the reconnect timer is noted and scheduled. -/
theorem addReconnectTimer_acts (w : World) : Moves (Acts env) (addReconnectTimer env) w := by
  apply Moves.get
  split
  · exact record_acts ((Act.schedule _ _).acts rfl) rfl
  · exact Moves.pure () w

/-- The check of a pending connect makes no act. -/
theorem checkConnected_acts (w : World) : Moves (Acts env) (checkConnected env) w := by
  apply Moves.get
  split
  · exact Moves.pure () w
  · apply Moves.bind (Moves.modify (Act.exchange.acts rfl))
    intro _ w₁ _
    split
    · exact (Act.wire w₁.nc.connection _).acts rfl
    · exact Moves.pure () w₁

/-- Noting that bytes were exchanged changes neither the queue nor the connection. -/
theorem checkConnected_keeps (env : Env) (w : World) : ∃ w', checkConnected env w = (.ok (), w') ∧
    w'.log = w.log ∧ w'.writeBuf = w.writeBuf ∧ w'.nc.connection = w.nc.connection := by
  unfold checkConnected
  simp only [Program.get_bind, Program.ite_run, setNc_bind]
  split
  · exact ⟨w, rfl, rfl, rfl, rfl⟩
  · split
    · exact ⟨_, rfl, rfl, rfl, rfl⟩
    · exact ⟨_, rfl, rfl, rfl, rfl⟩

/-- A client's callback and reconnecting are acts of the module. -/
structure CallsAct (env : Env) (k : Calls) : Prop where
  connect : ∀ w, Moves (Acts env) k.connect w
  callback : ∀ call w, Moves (Acts env) (k.callback call) w

/-- Reconnecting makes the acts of the round it begins. -/
theorem processReconnect_acts (acts : CallsAct env k) (w : World) :
    Moves (Acts env) (processReconnect k) w := by
  apply Moves.bind (Moves.modify ((Act.schedule w.currIndex none).acts rfl))
  intro _ w₁ _
  exact acts.connect w₁

/-- Telling the clients of a loss makes the acts of their callbacks. -/
theorem disconnectClients_acts (acts : CallsAct env k) (w : World) :
    Moves (Acts env) (disconnectClients k) w := by
  apply Moves.get
  apply Moves.forEach
  intro ⟨client, i⟩ _ w₁
  dsimp only
  split
  · apply Moves.bind (emit_acts rfl w₁)
    intro _ w₂ _
    exact acts.callback _ w₂
  · exact Moves.pure () w₁

/-- Giving up a connection notes it, tells the clients and schedules the next attempt. -/
theorem abandon_acts (acts : CallsAct env k) (reason : Reason) (immediate reconnect : Bool)
    (w : World) : Moves (Acts env) (abandon env k reason immediate reconnect) w := by
  have forget : Acts env w _ := fun formed => ⟨formed.reset, .single (Act.closed reason)⟩
  apply Moves.bind (Moves.modify forget)
  intro _ w₁ _
  split
  · split
    · exact processReconnect_acts acts w₁
    · exact addReconnectTimer_acts w₁
  · exact Moves.pure () w₁

/-- Closing a socket is noted and cuts the connection off. -/
theorem closeSocket_acts (c : Connection) (w : World) : Moves (Acts env) (closeSocket c) w := by
  unfold closeSocket
  split
  · exact record_acts ((Act.wire _ w.nc.pingTimer).acts rfl) rfl
  · exact Moves.pure () w

/-- `ngx_nats_close_connection` closes the socket and gives the connection up by acts. -/
theorem closeConnection_acts (acts : CallsAct env k) (reason : Reason) (reconnect : Bool)
    (w : World) : Moves (Acts env) (closeConnection env k reason reconnect) w := by
  apply Moves.get
  apply Moves.bind (Moves.modify ((Act.wire w.nc.connection none).acts rfl))
  intro _ w₁ _
  apply Moves.bind (Moves.require _ _ w₁)
  intro c w₂ _
  apply Moves.bind (closeSocket_acts c w₂)
  intro _ w₃ _
  apply Moves.bind (setConnection_acts _ w₃)
  intro _ w₄ _
  split
  · exact abandon_acts acts reason true reconnect w₄
  · split
    · apply Moves.bind (disconnectClients_acts acts w₄)
      intro _ w₅ _
      exact abandon_acts acts reason false reconnect w₅
    · exact abandon_acts acts reason false reconnect w₄

/-- An append reports its outcome. -/
theorem plain_appendEvent (rc : Int) (message : List UInt8) (size : Nat) :
    (appendEvent rc message size).plain = true := by
  unfold appendEvent
  split
  · rfl
  · rfl

/-- An append fills the write buffer and is noted as queued or as refused. -/
theorem appendBytes_acts (message : List UInt8) (size : Nat) (w : World) :
    Moves (Acts env) (appendBytes env message size) w := by
  unfold Moves
  rw [appendBytes_run]
  cases run : w.writeBuf.add (env.alloc w.clock) message size with
  | error stop => exact (Act.tick).acts rfl
  | ok answer =>
    obtain ⟨rc, b⟩ := answer
    intro formed
    have ticked : Act env w { w with clock := w.clock + 1 } := .tick
    have filled : Act env { w with clock := w.clock + 1 }
        { w with clock := w.clock + 1, writeBuf := b } := .fillWrite b
    have noted : Act env { w with clock := w.clock + 1, writeBuf := b }
        (w.appended rc b message size) := .note _ (plain_appendEvent rc message size)
    exact ⟨(formed.add run).2, ((Relation.ReflTransGen.single ticked).tail filled).tail noted⟩

/-- `ngx_nats_add_message` makes the acts of its append. -/
theorem addMessage_acts (message : List UInt8) (size : Nat) (w : World) :
    Moves (Acts env) (addMessage env message size) w := by
  unfold addMessage
  split
  · split
    · exact Moves.fault _ w
    · split
      · exact Moves.pure _ w
      · exact appendBytes_acts message _ w
  · exact appendBytes_acts message size w

/-- A send is noted with what was offered and what was taken. -/
theorem sendBytes_acts (offered : List UInt8) (w : World) :
    Moves (Acts env) (sendBytes env offered) w := by
  apply Moves.get
  apply Moves.bind (Moves.require _ _ w)
  intro c w₁ _
  apply Moves.bind (ask_acts _ w₁)
  intro answer w₂ _
  apply Moves.bind (emit_acts rfl w₂)
  intro _ w₃ _
  exact Moves.pure _ w₃

/-- Handling a write event only rewires the connection. -/
theorem handleWriteEvent_acts (w : World) : Moves (Acts env) (handleWriteEvent env) w := by
  apply Moves.bind (ask_acts _ w)
  intro handled w₁ _
  split
  · exact Moves.pure _ w₁
  · apply Moves.bind (emit_acts rfl w₁)
    intro _ w₂ _
    exact Moves.pure _ w₂

/-- A run may be looked at with the write buffer known to be well-formed. -/
theorem Acts.given {α : Type} {program : Comm α} {w : World}
    (moves : w.writeBuf.WellFormed → Moves (Acts env) program w) : Moves (Acts env) program w :=
  fun formed => moves formed formed

/-- No more is sent than was offered, and sending leaves the write buffer alone. -/
theorem sendBytes_sent {offered : List UInt8} {n : Nat} {w w' : World}
    (run : sendBytes env offered w = (.ok (.sent n), w')) : n ≤ offered.length := by
  unfold sendBytes at run
  simp only [Program.get_bind] at run
  cases found : w.nc.connection with
  | none =>
    rw [found] at run
    cases run
  | some c =>
    rw [found] at run
    change (_, _) = _ at run
    rw [Prod.mk.injEq, Except.ok.injEq] at run
    obtain ⟨result, -⟩ := run
    split at result
    · cases result
    · split at result
      · cases result
        exact Nat.min_le_right _ _
      · next other kind =>
        rw [result] at kind
        exact (kind _ rfl).elim

/-- `ngx_nats_flush` sends, moves the write buffer on and closes the connection by acts. -/
theorem flush_acts (acts : CallsAct env k) (w : World) : Moves (Acts env) (flush env k) w := by
  apply Acts.given
  intro formed
  apply Moves.get
  split
  · exact setWriteBuf_acts fun _ => formed.reset
  · apply Moves.bind (sendBytes_acts _ w)
    intro result w₁ run
    cases result with
    | sent n =>
      have bound := sendBytes_sent run
      rw [Buf.length_pending] at bound
      obtain ⟨start, stop⟩ := formed.valid
      have sent : Buf.WellFormed { w.writeBuf with pos := w.writeBuf.pos + n } :=
        ⟨⟨by simp only; omega, stop⟩, formed.least⟩
      apply Moves.bind (checkConnected_acts w₁)
      intro _ w₂ _
      dsimp only
      split
      · apply Moves.bind (setWriteBuf_acts fun _ => sent.reset)
        intro _ w₃ _
        apply Moves.bind (handleWriteEvent_acts w₃)
        intro handled w₄ _
        split
        · exact Moves.pure () w₄
        · exact closeConnection_acts acts _ _ w₄
      · exact setWriteBuf_acts fun _ => sent
    | error => exact closeConnection_acts acts _ _ w₁
    | again =>
      apply Moves.bind (setConnection_acts _ w₁)
      intro _ w₂ _
      apply Moves.bind (handleWriteEvent_acts w₂)
      intro handled w₃ _
      split
      · exact Moves.pure () w₃
      · exact closeConnection_acts acts _ _ w₃
    | nothing => exact Moves.pure () w₁

/-- The CONNECT text is not empty and fits any write buffer. -/
theorem connstr_length (env : Env) : 0 < (connstr env).length ∧
    (connstr env).length ≤ connstrSize := by
  have text : 0 < (connectText env).length := by
    have head :
      0 < (ascii "CONNECT \x7b\"verbose\":false,\"pedantic\":false,\"user\":\"").length := by
      decide
    simp only [connectText, List.length_append]
    omega
  constructor
  · simp only [connstr, snprintf, List.length_take, connstrSize]
    omega
  · exact List.length_take_le _ _

/-- The state after the CONNECT text was queued or refused. -/
def World.initiated (w : World) (b : Buf) (event : Event) : World :=
  { w with
    clock := w.clock + 1
    writeBuf := b
    nc := { w.nc with state := { w.nc.state with connectSent := true } }
    log := w.log ++ [.initiated, event] }

/-- The first `ngx_nats_connection_init` on a connection appends the CONNECT text. -/
theorem connectionInit_run (env : Env) {w : World} (formed : w.writeBuf.WellFormed)
    (fresh : w.nc.state.connectSent = false) : ∃ rc b,
      w.writeBuf.add (env.alloc w.clock) (connstr env) (connstr env).length = .ok (rc, b) ∧
      connectionInit env w =
        (.ok (), w.initiated b (appendEvent rc (connstr env) (connstr env).length)) := by
  obtain ⟨positive, bound⟩ := connstr_length env
  have least := formed.least
  have small : connstrSize ≤ bufInitSize := by decide
  have begins : connectionInit env w = (addMessage env (connstr env) (connstr env).length >>=
      fun _ => pure ()) { w with
        nc := { w.nc with state := { w.nc.state with connectSent := true } }
        log := w.log ++ [.initiated] } := by
    unfold connectionInit
    simp only [Program.get_bind, fresh, Bool.false_eq_true, record_bind, ↓reduceIte]
    rfl
  obtain ⟨rc, b, run⟩ := Buf.add_total (env.alloc w.clock) formed.valid
    (Nat.le_trans bound (Nat.le_trans small least)) (Nat.le_refl (connstr env).length)
  have appends := appendBytes_run env (connstr env) (connstr env).length { w with
    nc := { w.nc with state := { w.nc.state with connectSent := true } }
    log := w.log ++ [.initiated] }
  rw [run, ← addMessage_sized env _ positive] at appends
  refine ⟨rc, b, run, ?_⟩
  rw [begins, Program.bind_ok appends]
  simp [World.appended, World.initiated]

/-- The CONNECT text is queued, or it is refused. -/
theorem connectionInit_fresh (env : Env) {w : World} (formed : w.writeBuf.WellFormed)
    (fresh : w.nc.state.connectSent = false) :
    ∃ b event, connectionInit env w = (.ok (), w.initiated b event) ∧ b.WellFormed ∧
      (event = .queued (connstr env) ∨ event = .refused (connstr env).length) := by
  obtain ⟨rc, b, added, run⟩ := connectionInit_run env formed fresh
  refine ⟨b, appendEvent rc (connstr env) (connstr env).length, run, (formed.add added).2, ?_⟩
  unfold appendEvent
  split
  · exact .inl (by rw [List.take_length])
  · exact .inr rfl

/-- `ngx_nats_connection_init` queues CONNECT once, as one act. -/
theorem connectionInit_acts (w : World) : Moves (Acts env) (connectionInit env) w := by
  apply Acts.given
  intro formed
  cases sent : w.nc.state.connectSent with
  | true =>
    apply Moves.get
    rw [if_pos sent]
    exact Moves.pure () w
  | false =>
    obtain ⟨b, event, run, kept, appended⟩ := connectionInit_fresh env formed sent
    unfold Moves
    rw [run]
    exact fun _ => ⟨kept, .single (.initiate b event _ sent appended)⟩

/-- The choice of the next server only moves the index and the timer. -/
theorem nextServer_acts (w : World) : Moves (Acts env) (nextServer env) w := by
  apply Moves.get
  split
  · apply Moves.bind (Moves.modify ((Act.schedule _ w.reconnectTimer).acts rfl))
    intro _ w₁ _
    exact Moves.pure _ w₁
  · apply Moves.bind (Moves.modify ((Act.schedule _ w.reconnectTimer).acts rfl))
    intro _ w₁ _
    exact Moves.pure _ w₁

/-- The attempt for a server, after its connection structure was allocated. -/
theorem attempt_acts (acts : CallsAct env k) (server : Nat) (w : World) :
    Moves (Acts env) (do
      emit (.attempt server)
      match ← ask env.connectPeer with
      | .busy | .declined | .error => return ngxAgain
      | .again =>
        setNc fun nc => { nc with connection := some { writeTimer := some 5000 } }
        return ngxOk
      | .ok =>
        setNc fun nc => { nc with connection := some {} }
        connectionInit env
        flush env k
        return ngxOk) w := by
  apply Moves.bind (emit_acts rfl w)
  intro _ w₁ _
  apply Moves.bind (ask_acts _ w₁)
  intro answer w₂ _
  cases answer with
  | busy => exact Moves.pure _ w₂
  | declined => exact Moves.pure _ w₂
  | error => exact Moves.pure _ w₂
  | again =>
    apply Moves.bind (Moves.modify ((Act.wire _ w₂.nc.pingTimer).acts rfl))
    intro _ w₃ _
    exact Moves.pure _ w₃
  | ok =>
    apply Moves.bind (Moves.modify ((Act.wire _ w₂.nc.pingTimer).acts rfl))
    intro _ w₃ _
    apply Moves.bind (connectionInit_acts w₃)
    intro _ w₄ _
    apply Moves.bind (flush_acts acts w₄)
    intro _ w₅ _
    exact Moves.pure _ w₅

/-- The loop over the servers opens a connection or schedules the next round by acts. -/
theorem connectLoop_acts (acts : CallsAct env k) (w : World) :
    Moves (Acts env) (connectLoop env k) w := by
  apply Moves.bind (nextServer_acts w)
  intro more w₁ _
  split
  · apply Moves.bind (addReconnectTimer_acts w₁)
    intro _ w₂ _
    exact Moves.pure _ w₂
  · have emptied : Acts env w₁ { w₁ with
        readBuf := w₁.readBuf.reset, writeBuf := w₁.writeBuf.reset } := fun formed =>
      ⟨formed.reset, .tail (.single (.fillRead w₁.readBuf.reset)) (.fillWrite w₁.writeBuf.reset)⟩
    apply Moves.bind (Moves.modify emptied)
    intro _ w₂ _
    apply Moves.bind (ask_acts _ w₂)
    intro granted w₃ _
    split
    · apply Moves.bind (emit_acts rfl w₃)
      intro _ w₄ _
      exact Moves.pure _ w₄
    · apply Moves.get
      split
      · exact Moves.fault _ w₃
      · apply Moves.bind (Moves.modify ((Act.opened _).acts rfl))
        intro _ w₄ _
        exact attempt_acts acts _ w₄

/-- `ngx_nats_connect` makes the acts of its loop. -/
theorem connect_acts (acts : CallsAct env k) (w : World) : Moves (Acts env) (connect env k) w := by
  apply Moves.repeatUntil
  intro w₁
  apply Moves.bind (connectLoop_acts acts w₁)
  intro rc w₂ _
  split
  · exact Moves.pure _ w₂
  · exact Moves.pure _ w₂

/-- A header is appended as a message is. -/
theorem addHeader_acts (text : List UInt8) (w : World) : Moves (Acts env) (addHeader env text) w :=
  addMessage_acts _ _ w

/-- The three appends of a publication are acts. -/
theorem publishFrame_acts (header data : List UInt8) (len : Nat) (w : World) :
    Moves (Acts env) (publishFrame env header data len) w := by
  apply Moves.bind (addMessage_acts _ _ w)
  intro rc w₁ _
  split
  · exact Moves.pure _ w₁
  · apply Moves.bind (addMessage_acts _ _ w₁)
    intro rc w₂ _
    split
    · exact Moves.pure _ w₂
    · exact addMessage_acts _ _ w₂

/-- `ngx_nats_publish` makes the acts of its frame and of the flush behind it. -/
theorem publish_acts (acts : CallsAct env k) (subject replyto : Option (List UInt8))
    (data : List UInt8) (len : Nat) (w : World) :
    Moves (Acts env) (publish env k subject replyto data len) w := by
  apply Moves.get
  split
  · exact Moves.pure _ w
  · split
    · exact Moves.pure _ w
    · split
      · exact Moves.pure _ w
      · cases subject with
        | none => exact Moves.pure _ w
        | some subject =>
          dsimp only
          split
          · exact Moves.pure _ w
          · apply Moves.bind (publishFrame_acts _ _ _ w)
            intro rc w₁ _
            split
            · exact Moves.pure _ w₁
            · apply Moves.bind (flush_acts acts w₁)
              intro _ w₂ _
              exact Moves.pure _ w₂

/-- The lines of a subscription are appended by acts. -/
theorem subscribeLines_acts (subject : List UInt8) (sid max : Int) (w : World) :
    Moves (Acts env) (subscribeLines env subject sid max) w := by
  apply Moves.bind (addHeader_acts _ w)
  intro rc w₁ _
  split
  · exact Moves.pure _ w₁
  · split
    · exact addHeader_acts _ w₁
    · exact Moves.pure _ w₁

/-- A subscription takes the next number and is entered, or stays without a place. -/
theorem enterSubscription_acts (client : Nat) (max : Int) (handleMsg data : Nat) (w : World) :
    Moves (Acts env) (enterSubscription env client max handleMsg data) w := by
  apply Moves.bind (ask_acts _ w)
  intro granted w₁ _
  apply Moves.get
  dsimp only
  cases entered : addSubscription w₁.subs
      ⟨client, handleMsg, data, Word.signed (w₁.nextId + 1), max, 0⟩ granted with
  | none =>
    apply Moves.bind (Moves.modify (Act.number.acts rfl))
    intro _ w₂ _
    exact Moves.pure _ w₂
  | some subs =>
    apply Moves.bind (Moves.modify ((Act.subscribe _ _ _ _ _ subs entered).acts rfl))
    intro _ w₂ _
    exact Moves.pure _ w₂

/-- `ngx_nats_subscribe` enters the subscription, appends its lines and flushes by acts. -/
theorem subscribe_acts (acts : CallsAct env k) (client : Nat) (subject : List UInt8) (max : Int)
    (handleMsg data : Nat) (w : World) :
    Moves (Acts env) (subscribe env k client subject max handleMsg data) w := by
  apply Moves.get
  split
  · exact Moves.pure _ w
  · split
    · exact Moves.pure _ w
    · split
      · exact Moves.pure _ w
      · apply Moves.bind (enterSubscription_acts _ _ _ _ w)
        intro entered w₁ _
        cases entered with
        | none => exact Moves.pure _ w₁
        | some sub =>
          apply Moves.bind (subscribeLines_acts _ _ _ w₁)
          intro rc w₂ _
          split
          · apply Moves.bind (emit_acts rfl w₂)
            intro _ w₃ _
            exact Moves.pure _ w₃
          · apply Moves.bind (flush_acts acts w₂)
            intro _ w₃ _
            exact Moves.pure _ w₃

/-- A subscription is dropped by one act, or was not in the table. -/
theorem dropSubscription_acts (sid : Int) (w : World) :
    Moves (Acts env) (dropSubscription sid) w := by
  apply Moves.get
  dsimp only
  split
  · exact Moves.pure _ w
  · next removed =>
    apply Moves.bind (Moves.modify ((Act.unsubscribe sid removed).acts rfl))
    intro _ w₁ _
    exact Moves.pure _ w₁

/-- `ngx_nats_unsubscribe` drops the entry, appends its line and flushes by acts. -/
theorem unsubscribe_acts (acts : CallsAct env k) (sid : Int) (w : World) :
    Moves (Acts env) (unsubscribe env k sid) w := by
  unfold unsubscribe
  split
  · exact Moves.pure _ w
  · apply Moves.get
    split
    · exact Moves.pure _ w
    · split
      · exact Moves.pure _ w
      · split
        · exact Moves.pure _ w
        · apply Moves.bind (dropSubscription_acts sid w)
          intro removed w₁ _
          split
          · exact Moves.pure _ w₁
          · apply Moves.bind (addHeader_acts _ w₁)
            intro rc w₂ _
            split
            · exact Moves.pure _ w₂
            · apply Moves.bind (flush_acts acts w₂)
              intro _ w₃ _
              exact Moves.pure _ w₃

/-- `ngx_nats_add_client` registers the client and makes the acts of its callback. -/
theorem addClient_acts (acts : CallsAct env k) (client : Client) (w : World) :
    Moves (Acts env) (addClient env k client) w := by
  apply Moves.get
  split
  · exact Moves.pure _ w
  · apply Moves.bind (ask_acts _ w)
    intro granted w₁ _
    split
    · exact Moves.pure _ w₁
    · apply Moves.bind (Moves.modify ((Act.register client).acts rfl))
      intro _ w₂ _
      split
      · exact Moves.pure _ w₂
      · split
        · exact Moves.pure _ w₂
        · apply Moves.bind (emit_acts rfl w₂)
          intro _ w₃ _
          apply Moves.bind (acts.callback _ w₃)
          intro _ w₄ _
          exact Moves.pure _ w₄

/-- Every call of the API is made of acts. -/
theorem apiCall_acts (acts : CallsAct env k) (call : ApiCall) (w : World) :
    Moves (Acts env) (apiCall env k call) w := by
  apply Moves.get
  apply Moves.bind (emit_acts rfl w)
  intro _ w₁ _
  cases call with
  | addClient client => exact addClient_acts acts client w₁
  | publish subject replyto data len => exact publish_acts acts subject replyto data len w₁
  | subscribe client subject max handleMsg data =>
    exact subscribe_acts acts client subject max handleMsg data w₁
  | unsubscribe client sid => exact unsubscribe_acts acts sid w₁

/-- A callback makes the acts of the calls in its script. -/
theorem callback_acts (acts : CallsAct env k) (call : Callback) (w : World) :
    Moves (Acts env) (callback env k call) w := by
  apply Moves.bind (ask_acts _ w)
  intro script w₁ _
  apply Moves.forEach
  intro call _ w₂
  apply Moves.bind (apiCall_acts acts call w₂)
  intro _ w₃ _
  exact Moves.pure _ w₃

/-- The calls back into the module are acts of the module, to any depth. -/
theorem calls_act (env : Env) (depth : Nat) : CallsAct env (calls env depth) := by
  induction depth with
  | zero => exact ⟨fun w => Moves.fault _ w, fun _ w => Moves.fault _ w⟩
  | succ depth ih => exact ⟨connect_acts ih, callback_acts ih⟩

end NgxNats
