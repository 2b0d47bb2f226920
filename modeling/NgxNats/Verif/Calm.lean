import NgxNats.Verif.ActRuns
import NgxNats.Verif.InfoFields

/-!
# What leaves the connection alone

Most parts of the module neither open nor close a connection, do not schedule one and tell no
client of one. A part is calm when it keeps what the connection is known by and reports only
events that have nothing to do with it.
-/
namespace NgxNats

open Program (Moves)

/-- Events that have nothing to do with opening, closing or awaiting a connection. -/
def Event.calm : Event → Bool
  | .attempt _ | .unallocated | .opened | .shut | .closed _ | .armed | .called .. | .registered
  | .connected _ | .disconnected _ | .received _ | .ready .. => false
  | _ => true

/-- A change that keeps what the connection is known by, and the clients. -/
structure Steady (w w' : World) : Prop where
  dataSet : w'.dataSet = w.dataSet
  reconnectTimer : w'.reconnectTimer = w.reconnectTimer
  clients : w'.clients = w.clients
  attached : w'.attached = w.attached
  currIndex : w'.currIndex = w.currIndex
  lastIndex : w'.lastIndex = w.lastIndex
  connection : w'.nc.connection.isSome = w.nc.connection.isSome
  live : w'.live.isSome = w.live.isSome
  okayed : w'.nc.state.connectOkayed = w.nc.state.connectOkayed
  exchanged : w.nc.state.bytesExchanged = true → w'.nc.state.bytesExchanged = true
  ready : w.nc.state = stateReady → w'.nc.state = stateReady
  formed : w.writeBuf.WellFormed → w'.writeBuf.WellFormed

/-- A steady change that reports calm events only. -/
structure Calm (w w' : World) : Prop extends Steady w w' where
  log : ∃ events, w'.log = w.log ++ events ∧ ∀ event ∈ events, event.calm = true

variable {env : Env} {w w' : World}

/-- The clock, the subscriptions, the read buffer and the log do not matter. -/
theorem Steady.plain {clock : Nat} {subs : List Subscription} {nextId : Int} {readBuf : Buf}
    {log : List Event} : Steady w { w with
      clock := clock, subs := subs, nextId := nextId, readBuf := readBuf, log := log } :=
  ⟨rfl, rfl, rfl, rfl, rfl, rfl, rfl, rfl, rfl, id, id, id⟩

/-- Two steady changes make one. -/
theorem Steady.trans {w'' : World} (first : Steady w w') (second : Steady w' w'') :
    Steady w w'' where
  dataSet := second.dataSet.trans first.dataSet
  reconnectTimer := second.reconnectTimer.trans first.reconnectTimer
  clients := second.clients.trans first.clients
  attached := second.attached.trans first.attached
  currIndex := second.currIndex.trans first.currIndex
  lastIndex := second.lastIndex.trans first.lastIndex
  connection := second.connection.trans first.connection
  live := second.live.trans first.live
  okayed := second.okayed.trans first.okayed
  exchanged := second.exchanged ∘ first.exchanged
  ready := second.ready ∘ first.ready
  formed := second.formed ∘ first.formed

/-- Where nothing happens it is calm. -/
instance : Std.Refl Calm where
  refl w := ⟨.plain, [], (List.append_nil w.log).symm, List.forall_mem_nil _⟩

/-- Two calm changes make one. -/
instance : IsTrans World Calm where
  trans w w₁ w₂ first second := by
    obtain ⟨events, log, calm⟩ := first.log
    obtain ⟨events', log', calm'⟩ := second.log
    refine ⟨first.toSteady.trans second.toSteady, events ++ events', ?_, ?_⟩
    · rw [log', log, List.append_assoc]
    · intro event inside
      rcases List.mem_append.mp inside with early | late
      · exact calm event early
      · exact calm' event late

/-- A steady change that reports nothing. -/
theorem Calm.silent (steady : Steady w w') (log : w'.log = w.log) : Calm w w' :=
  ⟨steady, [], by rw [log, List.append_nil], List.forall_mem_nil _⟩

/-- A steady change and a calm event. -/
theorem Calm.noted {event : Event} (steady : Steady w w') (log : w'.log = w.log ++ [event])
    (calm : event.calm = true) : Calm w w' :=
  ⟨steady, [event], log, by simpa using calm⟩

/-- A question to the environment is calm. -/
theorem ask_calm {α : Type} (answer : Nat → α) (w : World) : Moves Calm (ask answer) w :=
  Calm.silent .plain rfl

/-- A calm event may be noted. -/
theorem emit_calm {event : Event} (calm : event.calm = true) (w : World) :
    Moves Calm (emit event) w :=
  Calm.noted .plain rfl calm

/-- A pure computation is calm, whether it returns or crashes. -/
theorem lift_calm {α : Type} (result : Except Fault α) (w : World) :
    Moves Calm (lift result) w := by
  cases result with
  | ok value => exact Moves.pure value w
  | error stop => exact Moves.fault stop w

/-- A new read buffer is calm. -/
theorem setReadBuf_calm (b : Buf) (w : World) : Moves Calm (setReadBuf b) w :=
  Calm.silent .plain rfl

/-- A write buffer that stays well-formed is calm. -/
theorem setWriteBuf_calm {b : Buf} {w : World} (kept : w.writeBuf.WellFormed → b.WellFormed) :
    Moves Calm (setWriteBuf b) w :=
  Calm.silent ⟨rfl, rfl, rfl, rfl, rfl, rfl, rfl, rfl, rfl, id, id, kept⟩ rfl

/-- Changing the timers of a connection does not open or close it. -/
theorem live_map (change : Connection → Connection) (keeps : ∀ c, (change c).fdOpen = c.fdOpen)
    (w : World) : (setConnection change w).2.live.isSome = w.live.isSome := by
  change (World.live { w with
    nc := { w.nc with connection := w.nc.connection.map change } }).isSome = _
  unfold World.live
  cases w.nc.connection with
  | none => rfl
  | some c =>
    simp only [Option.map_some, keeps]
    split
    · rfl
    · rfl

/-- A change of the nginx connection that does not touch its socket is calm. -/
theorem setConnection_calm {change : Connection → Connection}
    (keeps : ∀ c, (change c).fdOpen = c.fdOpen) (w : World) :
    Moves Calm (setConnection change) w :=
  Calm.silent ⟨rfl, rfl, rfl, rfl, rfl, rfl, Option.isSome_map, live_map change keeps w, rfl, id,
    id, id⟩ rfl

/-- Setting or deleting the ping timer. -/
theorem setPingTimer_calm (timer : Option Nat) (w : World) :
    Moves Calm (setNc fun nc => { nc with pingTimer := timer }) w :=
  Calm.silent ⟨rfl, rfl, rfl, rfl, rfl, rfl, rfl, rfl, rfl, id, id, id⟩ rfl

/-- Noting that bytes were exchanged is calm. -/
theorem checkConnected_calm (w : World) : Moves Calm (checkConnected env) w := by
  apply Moves.get
  split
  · exact Moves.pure () w
  · have exchanged : Calm w { w with
        nc := { w.nc with state := { w.nc.state with bytesExchanged := true } } } := by
      refine Calm.silent ⟨rfl, rfl, rfl, rfl, rfl, rfl, rfl, rfl, rfl, fun _ => rfl, ?_, id⟩ rfl
      intro ready
      simp only [ready]
      rfl
    apply Moves.bind (Moves.modify exchanged)
    intro _ w₁ _
    split
    · exact setPingTimer_calm _ w₁
    · exact Moves.pure () w₁

/-- An append is calm. -/
theorem appendBytes_calm (message : List UInt8) (size : Nat) (w : World) :
    Moves Calm (appendBytes env message size) w := by
  unfold Moves
  rw [appendBytes_run]
  cases run : w.writeBuf.add (env.alloc w.clock) message size with
  | error stop => exact ask_calm env.alloc w
  | ok answer =>
    obtain ⟨rc, b⟩ := answer
    have calm : (appendEvent rc message size).calm = true := by
      unfold appendEvent
      split
      · rfl
      · rfl
    exact Calm.noted ⟨rfl, rfl, rfl, rfl, rfl, rfl, rfl, rfl, rfl, id, id,
      fun formed => (formed.add run).2⟩ rfl calm

/-- `ngx_nats_add_message` is calm. -/
theorem addMessage_calm (message : List UInt8) (size : Nat) (w : World) :
    Moves Calm (addMessage env message size) w := by
  unfold addMessage
  split
  · split
    · exact Moves.fault _ w
    · split
      · exact Moves.pure _ w
      · exact appendBytes_calm message _ w
  · exact appendBytes_calm message size w

/-- A send is calm. -/
theorem sendBytes_calm (offered : List UInt8) (w : World) :
    Moves Calm (sendBytes env offered) w := by
  apply Moves.get
  apply Moves.bind (Moves.require _ _ w)
  intro c w₁ _
  apply Moves.bind (ask_calm _ w₁)
  intro answer w₂ _
  apply Moves.bind (emit_calm rfl w₂)
  intro _ w₃ _
  exact Moves.pure _ w₃

/-- Handling a write event is calm. -/
theorem handleWriteEvent_calm (w : World) : Moves Calm (handleWriteEvent env) w := by
  apply Moves.bind (ask_calm _ w)
  intro handled w₁ _
  split
  · exact Moves.pure _ w₁
  · apply Moves.bind (emit_calm rfl w₁)
    intro _ w₂ _
    exact Moves.pure _ w₂

/-- `ngx_nats_connection_init` is calm. -/
theorem connectionInit_calm (w : World) : Moves Calm (connectionInit env) w := by
  apply Moves.get
  cases sent : w.nc.state.connectSent with
  | true =>
    rw [if_pos rfl]
    exact Moves.pure () w
  | false =>
    rw [if_neg (by decide)]
    have initiated : Calm w { w with
        nc := { w.nc with state := { w.nc.state with connectSent := true } }
        log := w.log ++ [.initiated] } := by
      refine Calm.noted ⟨rfl, rfl, rfl, rfl, rfl, rfl, rfl, rfl, rfl, id, ?_, id⟩ rfl rfl
      intro ready
      rw [ready] at sent
      cases sent
    apply Moves.bind (Moves.modify initiated)
    intro _ w₁ _
    apply Moves.bind (addMessage_calm _ _ w₁)
    intro _ w₂ _
    exact Moves.pure () w₂

/-- The appends of a publication are calm. -/
theorem publishFrame_calm (header data : List UInt8) (len : Nat) (w : World) :
    Moves Calm (publishFrame env header data len) w := by
  apply Moves.bind (addMessage_calm _ _ w)
  intro rc w₁ _
  split
  · exact Moves.pure _ w₁
  · apply Moves.bind (addMessage_calm _ _ w₁)
    intro rc w₂ _
    split
    · exact Moves.pure _ w₂
    · exact addMessage_calm _ _ w₂

/-- The lines of a subscription are calm. -/
theorem subscribeLines_calm (subject : List UInt8) (sid max : Int) (w : World) :
    Moves Calm (subscribeLines env subject sid max) w := by
  apply Moves.bind (addMessage_calm _ _ w)
  intro rc w₁ _
  split
  · exact Moves.pure _ w₁
  · split
    · exact addMessage_calm _ _ w₁
    · exact Moves.pure _ w₁

/-- Numbering and entering a subscription is calm. -/
theorem enterSubscription_calm (client : Nat) (max : Int) (handleMsg data : Nat) (w : World) :
    Moves Calm (enterSubscription env client max handleMsg data) w := by
  apply Moves.bind (ask_calm _ w)
  intro granted w₁ _
  apply Moves.get
  dsimp only
  split
  · refine Moves.bind (Moves.modify
      (Calm.noted .plain rfl rfl)) ?_
    intro _ w₂ _
    exact Moves.pure _ w₂
  · refine Moves.bind (Moves.modify
      (Calm.noted .plain rfl rfl)) ?_
    intro _ w₂ _
    exact Moves.pure _ w₂

/-- Dropping a subscription is calm. -/
theorem dropSubscription_calm (sid : Int) (w : World) : Moves Calm (dropSubscription sid) w := by
  apply Moves.get
  dsimp only
  split
  · exact Moves.pure _ w
  · refine Moves.bind (Moves.modify
      (Calm.noted .plain rfl rfl)) ?_
    intro _ w₁ _
    exact Moves.pure _ w₁

/-- Counting a frame is calm. -/
theorem countMsg_calm (sid : Int) (w : World) : Moves Calm (countMsg sid) w := by
  apply Moves.get
  split
  · apply Moves.bind (emit_calm rfl w)
    intro _ w₁ _
    exact Moves.pure _ w₁
  · split
    · exact Moves.fault _ w
    · refine Moves.bind (Moves.modify
        (Calm.noted .plain rfl rfl)) ?_
      intro _ w₁ _
      exact Moves.pure _ w₁

/-- Reading an INFO text is calm. -/
theorem parseInfo_calm (body : List UInt8) (w : World) :
    Moves Calm (parseInfo env body) w := by
  apply Moves.get
  apply Moves.bind (emit_calm rfl w)
  intro _ w₁ _
  apply Moves.bind (ask_calm _ w₁)
  intro json w₂ _
  apply Moves.bind (lift_calm _ w₂)
  intro parsed w₃ _
  rcases parsed with rc | ⟨n, value⟩
  · exact Moves.pure _ w₃
  · cases value with
    | object fields =>
      apply Moves.get
      obtain ⟨state, connection, -⟩ := infoFields_keeps w₃.nc fields
      have taken : Calm w₃ { w₃ with nc := (infoFields w₃.nc fields).1 } := by
        refine Calm.silent ⟨rfl, rfl, rfl, rfl, rfl, rfl, ?_, ?_, ?_, ?_, ?_, id⟩ rfl
        · simp only [connection]
        · simp only [World.live, connection]
        · simp only [state]
        · simp only [state, imp_self]
        · simp only [state, imp_self]
      apply Moves.bind (Moves.modify taken)
      intro _ w₄ _
      split
      · apply Moves.bind (emit_calm rfl w₄)
        intro _ w₅ _
        exact Moves.pure _ w₅
      · exact Moves.pure _ w₄
    | _ => exact Moves.pure _ w₃

/-- Asking `recv` is calm: nothing is taken in yet. -/
theorem recvBytes_calm (found : Recv) (w : World) : Moves Calm (recvBytes found) w := by
  apply Moves.get
  apply Moves.bind (emit_calm rfl w)
  intro _ w₁ _
  split
  · exact Moves.fault _ w₁
  · split
    · exact Moves.pure _ w₁
    · cases found with
      | bytes data =>
        dsimp only
        split
        · exact Moves.pure _ w₁
        · exact Moves.pure _ w₁
      | again => exact Moves.pure _ w₁
      | eof => exact Moves.pure _ w₁
      | error => exact Moves.pure _ w₁

/-- Bytes come from an open connection only. -/
theorem recvBytes_live {found : Recv} {bytes : List UInt8}
    (run : recvBytes found w = (.ok (.bytes bytes), w')) : w'.live.isSome = true := by
  have steady := (recvBytes_calm found w).of_run run
  cases live : w.live with
  | some c => rw [steady.live, live, Option.isSome_some]
  | none =>
    unfold recvBytes at run
    rw [Program.get_bind, emit_bind, Program.ite_run] at run
    split at run
    · cases run
    · cases run

end NgxNats
