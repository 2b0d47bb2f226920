import NgxNats.Lib.History
import NgxNats.Verif.Act

/-!
# What a run can do

The reader, the event handlers and whole runs only do what the acts allow. Every state a run
reaches is reached from the initial one by acts, with a well-formed write buffer.
-/
namespace NgxNats

open Program (Moves)
open History (Throughout)

variable {env : Env} {k : Calls}

/-- `ngx_nats_connection_ready` turns the state and makes the acts of the callbacks it calls. -/
theorem connectionReady_acts (acts : CallsAct env k) (w : World) :
    Moves (Acts env) (connectionReady k) w := by
  apply Moves.get
  apply Moves.bind (Moves.require _ _ w)
  intro _ w₁ _
  apply Moves.forEach
  intro ⟨_, i⟩ _ w₂
  apply Moves.bind (emit_acts rfl w₂)
  intro _ w₃ _
  exact acts.callback _ w₃

/-- `ngx_nats_parse_info` takes over the fields of an object, or nothing. -/
theorem parseInfo_acts (body : List UInt8) (w : World) :
    Moves (Acts env) (parseInfo env body) w := by
  unfold parseInfo Moves
  simp only [Program.get_bind, emit_bind, ask_bind]
  cases parsed : jsonParse (env.json w.clock) (.ofList body) with
  | error stop =>
    exact (Act.noInfo body fun n fields absurd => by rw [parsed] at absurd; cases absurd).acts rfl
  | ok outcome =>
    simp only [lift_ok_bind]
    cases outcome with
    | error rc =>
      exact (Act.noInfo body fun n fields absurd => by rw [parsed] at absurd; cases absurd).acts rfl
    | ok result =>
      obtain ⟨n, value⟩ := result
      cases value with
      | object fields =>
        have act := Act.info body n fields parsed
        simp only [Program.get_bind, setNc_bind]
        cases complete : (infoFields w.nc fields).2 with
        | true =>
          rw [complete] at act
          simp only [emit_bind, Program.pure_run, ↓reduceIte]
          refine Act.acts ?_ rfl
          simpa using act
        | false =>
          rw [complete] at act
          simp only [Program.pure_run, Bool.false_eq_true, ↓reduceIte]
          refine Act.acts ?_ rfl
          simpa using act
      | _ =>
        exact (Act.noInfo body fun n fields absurd => by
          rw [parsed] at absurd; cases absurd).acts rfl

/-- A frame whose sid is not in the table. -/
theorem countMsg_unknown {sid : Int} {w : World} (unknown : getSubscription w.subs sid = none) :
    countMsg sid w = (.ok none, { w with log := w.log ++ [.msg sid w.subs] }) := by
  unfold countMsg
  simp only [Program.get_bind, unknown, emit_bind, Program.pure_run]

/-- A frame whose sid is in the table. -/
theorem countMsg_found {sid : Int} {i : Nat} {sub : Subscription} {w : World}
    (found : getSubscription w.subs sid = some i) (entry : w.subs[i]? = some sub) :
    countMsg sid w = (.ok (some sub), { w with
      subs := countedSubs w.subs i sub, log := w.log ++ [.msg sid w.subs] }) := by
  unfold countMsg
  simp only [Program.get_bind, found, entry, record_bind, Program.pure_run]
  rfl

/-- `ngx_nats_process_msg` counts the frame and makes the acts of the handler. -/
theorem processMsg_acts (acts : CallsAct env k) (msg : ServerMsg) (w : World) :
    Moves (Acts env) (processMsg env k msg) w := by
  cases found : getSubscription w.subs msg.sid with
  | none =>
    unfold processMsg Moves
    rw [Program.bind_ok (countMsg_unknown found)]
    exact (Act.miss msg.sid found).acts rfl
  | some i =>
    cases entry : w.subs[i]? with
    | none =>
      have stops : processMsg env k msg w = (.error .badAccess, w) := by
        apply Program.bind_error
        unfold countMsg
        simp only [Program.get_bind, found, entry, Program.fault_run]
      unfold Moves
      rw [stops]
      exact Std.Refl.refl w
    | some sub =>
      unfold processMsg Moves
      rw [Program.bind_ok (countMsg_found found entry)]
      simp only [ask_bind]
      cases pool : env.createPool w.clock with
      | false =>
        exact (Act.count msg.sid i sub found entry _ [] (.inr ⟨rfl, _, .inl pool⟩)).acts rfl
      | true =>
        cases granted : env.pcalloc (w.clock + 1) with
        | false =>
          simp only [not_true_eq_false, ask_bind, granted, ↓reduceIte]
          exact (Act.count msg.sid i sub found entry _ [] (.inr ⟨rfl, _, .inr granted⟩)).acts rfl
        | true =>
          simp only [not_true_eq_false, emit_bind, ask_bind, granted, ↓reduceIte,
            List.append_assoc, List.singleton_append]
          apply IsTrans.trans _ _ _ _ (acts.callback _ _)
          exact (Act.count msg.sid i sub found entry _ _ (.inl ⟨_, rfl, rfl, rfl, rfl⟩)).acts rfl

/-- Refusing a message closes the connection by acts. -/
theorem reject_acts (acts : CallsAct env k) (reason : Reason) (w : World) :
    Moves (Acts env) (reject env k reason) w := by
  apply Moves.get
  apply Moves.bind (emit_acts rfl w)
  intro _ w₁ _
  apply Moves.bind (closeConnection_acts acts reason true w₁)
  intro _ w₂ _
  exact Moves.pure _ w₂

/-- Whatever message is dispatched, it is handled by acts. -/
theorem dispatch_acts (acts : CallsAct env k) (parsed : Parsed) (w : World) :
    Moves (Acts env) (dispatch env k parsed) w := by
  apply Moves.bind (emit_acts rfl w)
  intro _ w₁ _
  apply Moves.get
  cases (serverMsg parsed).type with
  | ok => exact Moves.pure _ w₁
  | err =>
    dsimp only
    split
    · exact reject_acts acts _ w₁
    · exact Moves.pure _ w₁
  | ping =>
    apply Moves.bind (addMessage_acts _ _ w₁)
    intro _ w₂ _
    exact Moves.pure _ w₂
  | pong =>
    dsimp only
    cases okayed : w₁.nc.state.connectOkayed with
    | true => exact Moves.pure _ w₁
    | false =>
      apply Moves.bind (Moves.modify ((Act.ready okayed).acts rfl))
      intro _ w₂ _
      apply Moves.bind (connectionReady_acts acts w₂)
      intro _ w₃ _
      exact Moves.pure _ w₃
  | info =>
    dsimp only
    split
    · exact reject_acts acts _ w₁
    · apply Moves.bind (parseInfo_acts _ w₁)
      intro rc w₂ _
      split
      · exact reject_acts acts _ w₂
      · exact Moves.pure _ w₂
  | msg =>
    apply Moves.bind (processMsg_acts acts _ w₁)
    intro _ w₂ _
    exact Moves.pure _ w₂
  | unset => exact reject_acts acts _ w₁

/-- Waiting for the rest of a message enlarges the read buffer or closes the connection. -/
theorem awaitMore_acts (acts : CallsAct env k) (w : World) :
    Moves (Acts env) (awaitMore env k) w := by
  apply Moves.get
  apply Moves.bind (lift_acts _ w)
  intro buf w₁ _
  apply Moves.bind (setReadBuf_acts buf w₁)
  intro _ w₂ _
  split
  · split
    · apply Moves.bind (reject_acts acts _ w₂)
      intro _ w₃ _
      exact Moves.pure _ w₃
    · apply Moves.bind (ask_acts _ w₂)
      intro alloc w₃ _
      apply Moves.bind (lift_acts _ w₃)
      intro ⟨rc, buf⟩ w₄ _
      apply Moves.bind (setReadBuf_acts _ w₄)
      intro _ w₅ _
      split
      · apply Moves.bind (reject_acts acts _ w₅)
        intro _ w₆ _
        exact Moves.pure _ w₆
      · exact Moves.pure _ w₅
  · exact Moves.pure _ w₂

/-- One round of the reader parses, skips and dispatches by acts. -/
theorem processBufferMsg_acts (acts : CallsAct env k) (w : World) :
    Moves (Acts env) (processBufferMsg env k) w := by
  apply Moves.get
  apply Moves.bind (emit_acts rfl w)
  intro _ w₁ _
  split
  · apply Moves.bind (lift_acts _ w₁)
    intro buf w₂ _
    apply Moves.bind (setReadBuf_acts buf w₂)
    intro _ w₃ _
    exact Moves.pure _ w₃
  · apply Moves.bind (lift_acts _ w₁)
    intro parsed w₂ _
    apply Moves.bind (setReadBuf_acts _ w₂)
    intro _ w₃ _
    split
    · split
      · exact awaitMore_acts acts w₃
      · apply Moves.bind (reject_acts acts _ w₃)
        intro _ w₄ _
        exact Moves.pure _ w₄
    · apply Moves.bind (dispatch_acts acts parsed w₃)
      intro went w₄ _
      split
      · exact Moves.pure _ w₄
      · exact Moves.pure _ w₄

/-- The loop over the messages of the buffer makes the acts of its rounds. -/
theorem processBuffer_acts (acts : CallsAct env k) (w : World) :
    Moves (Acts env) (processBuffer env k) w := by
  apply Moves.get
  apply Moves.repeatUntil
  intro w₁
  apply Moves.bind (processBufferMsg_acts acts w₁)
  intro rc w₂ _
  split
  · exact Moves.pure _ w₂
  · apply Moves.bind (Moves.modify ((Act.fillRead _).acts rfl))
    intro _ w₃ _
    exact Moves.pure _ w₃

/-- Received bytes fill the read buffer, as one act. -/
theorem receiveBytes_acts (bytes : List UInt8) (w : World) :
    Moves (Acts env) (receiveBytes bytes) w := record_acts ((Act.fillRead _).acts rfl) rfl

/-- What `recv` returned is taken in and processed by acts. -/
theorem receiveData_acts (acts : CallsAct env k) (bytes : List UInt8) (w : World) :
    Moves (Acts env) (receiveData env k bytes) w := by
  apply Moves.bind (checkConnected_acts w)
  intro _ w₁ _
  apply Moves.bind (receiveBytes_acts bytes w₁)
  intro _ w₂ _
  apply Moves.bind (processBuffer_acts acts w₂)
  intro rc w₃ _
  split
  · apply Moves.bind (closeConnection_acts acts _ _ w₃)
    intro _ w₄ _
    exact Moves.pure _ w₄
  · exact Moves.pure _ w₃

/-- The question to `recv` is noted. -/
theorem recvBytes_acts (found : Recv) (w : World) : Moves (Acts env) (recvBytes found) w := by
  apply Moves.get
  apply Moves.bind (emit_acts rfl w)
  intro _ w₁ _
  split
  · exact Moves.fault _ w₁
  · split
    · exact Moves.pure _ w₁
    · cases found with
      | bytes data =>
        dsimp only
        split
        · exact Moves.pure _ w₁
        · exact Moves.pure _ w₁
      | again => exact Moves.pure _ w₁
      | eof => exact Moves.pure _ w₁
      | error => exact Moves.pure _ w₁

/-- The end of a receive loop that found nothing more. -/
theorem receiveAgain_acts (acts : CallsAct env k) (w : World) : Moves (Acts env) (do
    if ← ask env.handleReadEvent then return true
    else
      closeConnection env k .internalError true
      return false) w := by
  apply Moves.bind (ask_acts _ w)
  intro handled w₁ _
  split
  · exact Moves.pure _ w₁
  · apply Moves.bind (closeConnection_acts acts _ _ w₁)
    intro _ w₂ _
    exact Moves.pure _ w₂

/-- The loop over `recv` makes the acts of the data it takes in. -/
theorem receive_acts (acts : CallsAct env k) (results : List Recv) (w : World) :
    Moves (Acts env) (receive env k results) w := by
  induction results generalizing w with
  | nil =>
    apply Moves.bind (recvBytes_acts _ w)
    intro _ w₁ _
    exact receiveAgain_acts acts w₁
  | cons found rest ih =>
    apply Moves.bind (recvBytes_acts found w)
    intro result w₁ _
    cases result with
    | again => exact receiveAgain_acts acts w₁
    | bytes bytes =>
      apply Moves.bind (receiveData_acts acts bytes w₁)
      intro went w₂ _
      split
      · exact ih w₂
      · exact Moves.pure _ w₂
    | eof =>
      apply Moves.bind (closeConnection_acts acts _ _ w₁)
      intro _ w₂ _
      exact Moves.pure _ w₂
    | error =>
      apply Moves.bind (closeConnection_acts acts _ _ w₁)
      intro _ w₂ _
      exact Moves.pure _ w₂

/-- `ngx_nats_read_from_nats` makes the acts of its loop and of the flush behind it. -/
theorem readFromNats_acts (acts : CallsAct env k) (results : List Recv) (w : World) :
    Moves (Acts env) (readFromNats env k results) w := by
  apply Moves.get
  apply Moves.bind (receive_acts acts results w)
  intro went w₁ _
  split
  · apply Moves.get
    split
    · exact flush_acts acts w₁
    · exact Moves.pure _ w₁
  · exact Moves.pure _ w₁

/-- `ngx_nats_write_event_handler` makes the acts of its flush or of its close. -/
theorem writeEventHandler_acts (acts : CallsAct env k) (w : World) :
    Moves (Acts env) (writeEventHandler env k) w := by
  apply Moves.get
  apply Moves.bind (Moves.require _ _ w)
  intro c w₁ _
  split
  · exact closeConnection_acts acts _ _ w₁
  · apply Moves.bind (setConnection_acts _ w₁)
    intro _ w₂ _
    apply Moves.bind (connectionInit_acts w₂)
    intro _ w₃ _
    exact flush_acts acts w₃

/-- `ngx_nats_read_event_handler` makes the acts of what it reads or of its close. -/
theorem readEventHandler_acts (acts : CallsAct env k) (results : List Recv) (w : World) :
    Moves (Acts env) (readEventHandler env k results) w := by
  apply Moves.get
  apply Moves.bind (Moves.require _ _ w)
  intro c w₁ _
  split
  · exact closeConnection_acts acts _ _ w₁
  · apply Moves.bind (ask_acts _ w₁)
    intro tested w₂ _
    split
    · exact closeConnection_acts acts _ _ w₂
    · exact readFromNats_acts acts results w₂

/-- `ngx_nats_ping_handler` makes the acts of a flush, when it gets that far. -/
theorem pingHandler_acts (acts : CallsAct env k) (w : World) :
    Moves (Acts env) (pingHandler env k) w := by
  apply Moves.get
  split
  · exact Moves.pure _ w
  · apply Moves.bind (addMessage_acts _ _ w)
    intro _ w₁ _
    apply Moves.bind (flush_acts acts w₁)
    intro _ w₂ _
    exact (Act.wire w₂.nc.connection _).acts rfl

/-- Every event of the module is handled by acts. -/
theorem step_acts (env : Env) (depth : Nat) (event : Step) (w : World) :
    Moves (Acts env) (step env depth event) w := by
  have acts := calls_act env depth
  apply Moves.get
  cases event with
  | init =>
    dsimp only
    split
    · apply Moves.bind (Moves.modify (Act.start.acts rfl))
      intro _ w₁ _
      exact acts.connect w₁
    · exact Moves.pure _ w
  | api call =>
    apply Moves.bind (apiCall_acts acts call w)
    intro _ w₁ _
    exact Moves.pure _ w₁
  | readable results =>
    dsimp only
    split
    · exact readEventHandler_acts acts results w
    · exact Moves.pure _ w
  | writable =>
    dsimp only
    split
    · exact writeEventHandler_acts acts w
    · exact Moves.pure _ w
  | readTimeout =>
    dsimp only
    split
    · apply Moves.bind (setConnection_acts _ w)
      intro _ w₁ _
      exact readEventHandler_acts acts [] w₁
    · exact Moves.pure _ w
  | writeTimeout =>
    dsimp only
    split
    · apply Moves.bind (setConnection_acts _ w)
      intro _ w₁ _
      exact writeEventHandler_acts acts w₁
    · exact Moves.pure _ w
  | pingTimeout =>
    dsimp only
    split
    · apply Moves.bind (Moves.modify ((Act.wire w.nc.connection none).acts rfl))
      intro _ w₁ _
      apply Moves.bind (emit_acts rfl w₁)
      intro _ w₂ _
      exact pingHandler_acts acts w₂
    · exact Moves.pure _ w
  | reconnectTimeout =>
    dsimp only
    split
    · apply Moves.bind (Moves.modify ((Act.schedule w.currIndex none).acts rfl))
      intro _ w₁ _
      exact processReconnect_acts acts w₁
    · exact Moves.pure _ w

/-- Every state a run reaches is reached by acts. -/
theorem run_acts (env : Env) (depth : Nat) (events : List Step) (w : World) :
    Moves (Acts env) (run env depth events) w :=
  Moves.forEach (fun event _ => step_acts env depth event) w

/-- The initial write buffer is well-formed. -/
theorem start_formed (read write : Memory UInt8) : (World.start read write).writeBuf.WellFormed :=
  ⟨⟨Nat.le_refl 0, Nat.zero_le _⟩, Nat.le_refl _⟩

/-- In every reached state the write buffer is well-formed. -/
theorem reached_formed (env : Env) (depth : Nat) (events : List Step) (read write : Memory UInt8) :
    (reached env depth events read write).writeBuf.WellFormed :=
  (run_acts env depth events _ (start_formed read write)).1

/-- An invariant of the acts holds in every state a run reaches. -/
theorem reached_invariant (holds : World → Prop) (env : Env) (depth : Nat) (events : List Step)
    (read write : Memory UInt8) (start : holds (.start read write))
    (acts : ∀ w w', holds w → Act env w w' → holds w') :
    holds (reached env depth events read write) := by
  obtain ⟨-, steps⟩ := run_acts env depth events _ (start_formed read write)
  unfold reached
  generalize (run env depth events (.start read write)).2 = last at steps ⊢
  induction steps with
  | refl => exact start
  | tail _ act ih => exact acts _ _ ih act

/-- An invariant of the acts whose events meet a condition holds in every state reached by a run
whose events all meet it. -/
theorem reached_invariant_while {holds : World → Prop} {meets : List Event → Event → Prop}
    (env : Env) (depth : Nat) (steps : List Step) (read write : Memory UInt8)
    (start : holds (.start read write))
    (acts : ∀ w w', holds w → Act env w w' → Throughout meets w'.log → holds w')
    (met : Throughout meets (reached env depth steps read write).log) :
    holds (reached env depth steps read write) := by
  refine reached_invariant (fun w => Throughout meets w.log → holds w) env depth steps
    read write (fun _ => start) ?_ met
  intro w w' kept act met
  obtain ⟨events, log⟩ := act.grows
  have earlier : Throughout meets w.log := by
    rw [log] at met
    exact met.left
  exact acts w w' (kept earlier) act met

/-- Surroundings that grant everything, accept whatever is sent and never call back. -/
def granting : Env where
  servers := 1
  user := []
  password := []
  reconnectInterval := 2000
  pingInterval := 20000
  alloc := fun _ _ => some fun _ => 0
  arrayPush := fun _ => true
  createPool := fun _ => true
  pcalloc := fun _ => true
  json := fun _ => ⟨fun _ => true, fun _ => (0, 0)⟩
  send := fun _ => .sent maxMessageSize
  handleReadEvent := fun _ => true
  handleWriteEvent := fun _ => true
  connectPeer := fun _ => .ok
  testConnect := fun _ => true
  script := fun _ _ => []

/-- The text of a server that is ready: INFO with its version, and PONG. -/
def greeting : List UInt8 := ascii "INFO \x7b\"version\":\"1\"\x7d\r\nPONG\r\n"

/-- The state after a server sent INFO with its version and then PONG. -/
def greeted : World := reached granting 2
  [.init, .readable [.bytes (ascii "INFO \x7b\"version\":\"1\"\x7d\r\nPONG\r\n")]]
  (fun _ => 0) fun _ => 0

end NgxNats
