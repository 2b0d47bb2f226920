import NgxNats.Verif.Calm
import NgxNats.Verif.Startup

/-!
# Invariants of the whole module

To show that a condition holds between all calls of the module it is enough to look at the places
where a connection is closed, becomes READY or is asked for by a client's callback: everything
else is calm. The rest of the module is gone through here once for all such conditions.
-/
namespace NgxNats

open Program (Leads Moves)

section Sending

variable {env : Env} {k : Calls} (holds : World → Prop) {after crash : World → Prop} {w : World}

/-- Sending is calm, and no more is sent than was offered. Only without an nginx connection the
pointer to it is dereferenced. -/
theorem sendBytes_leads {w : World} (offered : List UInt8)
    (missing : w.nc.connection = none → crash w) :
    Leads (sendBytes env offered) w
      (fun result w' => Calm w w' ∧ ∀ n, result = .sent n → n ≤ offered.length) crash := by
  cases found : w.nc.connection with
  | none =>
    have stops : sendBytes env offered w = (.error .badAccess, w) := by
      unfold sendBytes
      simp only [Program.get_bind, found]
      rfl
    unfold Leads
    rw [stops]
    exact missing found
  | some c =>
    have calm : Moves Calm (sendBytes env offered) w := sendBytes_calm offered w
    apply Leads.intro
    · intro result w' run
      refine ⟨calm.of_run run, ?_⟩
      rintro n rfl
      exact sendBytes_sent run
    · intro stop w' run
      unfold sendBytes at run
      simp only [Program.get_bind, found, Program.require_some_bind, ask_bind, emit_bind,
        Program.pure_run, Prod.mk.injEq, reduceCtorEq, false_and] at run

/-- The end of `ngx_nats_flush`: close the connection if the write event is not handled. -/
theorem handleWriteEvent_through (calm : ∀ {w w'}, holds w → Calm w w' → holds w')
    (done : ∀ {w}, holds w → after w)
    (close : ∀ {w} reason, holds w →
      Leads (closeConnection env k reason true) w (fun _ => after) crash)
    (before : holds w) :
    Leads (do
      if ← handleWriteEvent env then return ()
      else closeConnection env k .internalError true) w (fun _ => after) crash := by
  have moved : Calm w (handleWriteEvent env w).2 := handleWriteEvent_calm w
  cases handled : env.handleWriteEvent w.clock with
  | true =>
    have run : handleWriteEvent env w = (.ok true, (handleWriteEvent env w).2) := by
      simp only [handleWriteEvent, ask_bind, handled, ↓reduceIte, Program.pure_run]
    apply Leads.of_run (Program.bind_ok run)
    exact Leads.pure (done (calm before moved))
  | false =>
    have run : handleWriteEvent env w = (.ok false, (handleWriteEvent env w).2) := by
      simp only [handleWriteEvent, ask_bind, handled, ↓reduceIte, Program.pure_run,
        Bool.false_eq_true, emit_bind]
    apply Leads.of_run (Program.bind_ok run)
    exact close _ (calm before moved)

/-- `ngx_nats_flush` is calm or closes the connection. -/
theorem flush_through (formed : ∀ {w}, holds w → w.writeBuf.WellFormed)
    (calm : ∀ {w w'}, holds w → Calm w w' → holds w')
    (missing : ∀ {w}, holds w → w.nc.connection = none → crash w)
    (done : ∀ {w}, holds w → after w)
    (close : ∀ {w} reason, holds w →
      Leads (closeConnection env k reason true) w (fun _ => after) crash)
    (before : holds w) : Leads (flush env k) w (fun _ => after) crash := by
  apply Leads.get
  split
  · have emptied : Calm w (setWriteBuf w.writeBuf.reset w).2 :=
      setWriteBuf_calm Buf.WellFormed.reset
    exact done (calm before emptied)
  · apply Leads.bind (sendBytes_leads _ (missing before))
    rintro result w₁ ⟨calm₁, bound⟩
    have holds₁ := calm before calm₁
    cases result with
    | sent n =>
      have fits := bound n rfl
      rw [Buf.length_pending] at fits
      obtain ⟨start, stop⟩ := (formed before).valid
      have sent : Buf.WellFormed { w.writeBuf with pos := w.writeBuf.pos + n } :=
        ⟨⟨by simp only; omega, stop⟩, (formed before).least⟩
      obtain ⟨w₂, checked, -⟩ := checkConnected_keeps env w₁
      have holds₂ : holds w₂ := calm holds₁ ((checkConnected_calm w₁).of_run checked)
      apply Leads.of_run (Program.bind_ok checked)
      dsimp only
      split
      · apply Leads.of_run (setWriteBuf_bind w₂ _ _)
        have emptied : Calm w₂ (setWriteBuf (Buf.reset { w.writeBuf with
            pos := w.writeBuf.pos + n }) w₂).2 := setWriteBuf_calm fun _ => sent.reset
        exact handleWriteEvent_through holds calm done close (calm holds₂ emptied)
      · have moved : Calm w₂ (setWriteBuf { w.writeBuf with pos := w.writeBuf.pos + n } w₂).2 :=
          setWriteBuf_calm fun _ => sent
        exact done (calm holds₂ moved)
    | error => exact close _ holds₁
    | again =>
      have timed : Calm w₁ (setConnection (fun c => { c with writeTimer := some 5000 }) w₁).2 := by
        refine setConnection_calm ?_ w₁
        exact fun _ => rfl
      exact handleWriteEvent_through holds calm done close (calm holds₁ timed)
    | nothing => exact Leads.pure (done holds₁)

end Sending

/-- What has to be shown of a condition: it survives calm changes and the record of a client
call, and closing a connection, a callback, a new READY connection and a new client keep it. -/
structure Keeps (env : Env) (k : Calls) (holds crash : World → Prop) : Prop where
  initialised : ∀ {w}, holds w → w.dataSet = true
  formed : ∀ {w}, holds w → w.writeBuf.WellFormed
  faults : ∀ {w}, holds w → crash w
  calm : ∀ {w w'}, holds w → Calm w w' → holds w'
  called : ∀ {w} call, holds w → holds (w.calledWith call)
  close : ∀ {w} reason, holds w →
    Leads (closeConnection env k reason true) w (fun _ => holds) crash
  callback : ∀ {w} call, holds w → Leads (k.callback call) w (fun _ => holds) crash
  received : ∀ {w} bytes, holds w → w.live.isSome = true → holds { w with
    readBuf := w.readBuf.push bytes, log := w.log ++ [.received bytes] }
  ready : ∀ {w}, holds w → w.nc.state.connectOkayed = false →
    Leads (connectionReady k) { w with
      nc := { w.nc with state := stateReady }
      log := w.log ++ [.ready w.nc.state w.nc.srvVersion] } (fun _ => holds) crash
  addClient : ∀ {w} client, holds w → Leads (addClient env k client) w (fun _ => holds) crash

namespace Keeps

variable {env : Env} {k : Calls} {holds crash : World → Prop} {w : World}

/-- A calm part of the module. -/
theorem leads {α : Type} {program : Comm α} (keeps : Keeps env k holds crash) (before : holds w)
    (moves : Moves Calm program w) : Leads program w (fun _ => holds) crash :=
  moves.leads.weaken (fun _ _ calm => keeps.calm before calm)
    fun _ calm => keeps.faults (keeps.calm before calm)

/-- A flush keeps the condition. -/
theorem flush (keeps : Keeps env k holds crash) (before : holds w) :
    Leads (flush env k) w (fun _ => holds) crash :=
  flush_through holds keeps.formed keeps.calm (fun before _ => keeps.faults before)
    (fun before => before)
    keeps.close before

/-- A client function that ends in a flush. -/
theorem flushReturn (keeps : Keeps env k holds crash) (before : holds w) (rc : Int) :
    Leads (do
      NgxNats.flush env k
      return rc) w (fun _ => holds) crash := by
  apply Leads.bind (keeps.flush before)
  intro _ w₁ holds₁
  exact Leads.pure holds₁

/-- Publishing keeps the condition. -/
theorem publish (keeps : Keeps env k holds crash) (before : holds w)
    (subject replyto : Option (List UInt8)) (data : List UInt8) (len : Nat) :
    Leads (publish env k subject replyto data len) w (fun _ => holds) crash := by
  apply Leads.get
  split
  · exact Leads.pure before
  · split
    · exact Leads.pure before
    · split
      · exact Leads.pure before
      · cases subject with
        | none => exact Leads.pure before
        | some subject =>
          dsimp only
          split
          · exact Leads.pure before
          · apply Leads.bind (keeps.leads before (publishFrame_calm _ _ _ w))
            intro rc w₁ holds₁
            split
            · exact Leads.pure holds₁
            · exact keeps.flushReturn holds₁ _

/-- Subscribing keeps the condition. -/
theorem subscribe (keeps : Keeps env k holds crash) (before : holds w) (client : Nat)
    (subject : List UInt8) (max : Int) (handleMsg data : Nat) :
    Leads (subscribe env k client subject max handleMsg data) w (fun _ => holds) crash := by
  apply Leads.get
  split
  · exact Leads.pure before
  · split
    · exact Leads.pure before
    · split
      · exact Leads.pure before
      · apply Leads.bind (keeps.leads before (enterSubscription_calm _ _ _ _ w))
        intro entered w₁ holds₁
        cases entered with
        | none => exact Leads.pure holds₁
        | some sub =>
          apply Leads.bind (keeps.leads holds₁ (subscribeLines_calm _ _ _ w₁))
          intro rc w₂ holds₂
          split
          · apply Leads.bind (keeps.leads holds₂ (emit_calm rfl w₂))
            intro _ w₃ holds₃
            exact Leads.pure holds₃
          · exact keeps.flushReturn holds₂ _

/-- Unsubscribing keeps the condition. -/
theorem unsubscribe (keeps : Keeps env k holds crash) (before : holds w) (sid : Int) :
    Leads (unsubscribe env k sid) w (fun _ => holds) crash := by
  unfold NgxNats.unsubscribe
  split
  · exact Leads.pure before
  · apply Leads.get
    split
    · exact Leads.pure before
    · split
      · exact Leads.pure before
      · split
        · exact Leads.pure before
        · apply Leads.bind (keeps.leads before (dropSubscription_calm sid w))
          intro removed w₁ holds₁
          split
          · exact Leads.pure holds₁
          · apply Leads.bind (keeps.leads holds₁ (addMessage_calm _ _ w₁))
            intro rc w₂ holds₂
            split
            · exact Leads.pure holds₂
            · exact keeps.flushReturn holds₂ _

/-- Every call of the API keeps the condition. -/
theorem apiCall (keeps : Keeps env k holds crash) (before : holds w) (call : ApiCall) :
    Leads (apiCall env k call) w (fun _ => holds) crash := by
  apply Leads.get
  apply Leads.of_run (emit_bind w (.called call w.attached w.live.isSome w.nc.state) _)
  have holds₁ := keeps.called call before
  cases call with
  | addClient client => exact keeps.addClient client holds₁
  | publish subject replyto data len => exact keeps.publish holds₁ subject replyto data len
  | subscribe client subject max handleMsg data =>
    exact keeps.subscribe holds₁ client subject max handleMsg data
  | unsubscribe client sid => exact keeps.unsubscribe holds₁ sid

/-- A client's callback that calls client functions. -/
theorem script (keeps : Keeps env k holds crash) (before : holds w) (call : Callback) :
    Leads (NgxNats.callback env k call) w (fun _ => holds) crash := by
  apply Leads.bind (keeps.leads before (ask_calm _ w))
  intro script w₁ holds₁
  refine Leads.forEach holds₁ ?_
  intro call _ w₂ holds₂
  apply Leads.bind (keeps.apiCall holds₂ call)
  intro _ w₃ holds₃
  exact Leads.pure holds₃

/-- Refusing a message keeps the condition, by the close it makes. -/
theorem reject (keeps : Keeps env k holds crash) (before : holds w) (reason : Reason) :
    Leads (reject env k reason) w (fun _ => holds) crash := by
  apply Leads.get
  apply Leads.bind (keeps.leads before (emit_calm rfl w))
  intro _ w₁ holds₁
  apply Leads.bind (keeps.close reason holds₁)
  intro _ w₂ holds₂
  exact Leads.pure holds₂

/-- A refused message whose handling returns an error. -/
theorem rejectReturn (keeps : Keeps env k holds crash) (before : holds w) (reason : Reason)
    (rc : Int) :
    Leads (do
      let _ ← NgxNats.reject env k reason
      return rc) w (fun _ => holds) crash := by
  apply Leads.bind (keeps.reject before reason)
  intro _ w₁ holds₁
  exact Leads.pure holds₁

/-- `ngx_nats_process_msg` keeps the condition, by the callback it makes. -/
theorem processMsg (keeps : Keeps env k holds crash) (before : holds w) (msg : ServerMsg) :
    Leads (processMsg env k msg) w (fun _ => holds) crash := by
  apply Leads.bind (keeps.leads before (countMsg_calm _ w))
  intro found w₁ holds₁
  cases found with
  | none => exact Leads.pure holds₁
  | some sub =>
    apply Leads.bind (keeps.leads holds₁ (ask_calm _ w₁))
    intro pool w₂ holds₂
    split
    · exact Leads.pure holds₂
    · apply Leads.bind (keeps.leads holds₂ (ask_calm _ w₂))
      intro granted w₃ holds₃
      split
      · exact Leads.pure holds₃
      · apply Leads.bind (keeps.leads holds₃ (emit_calm rfl w₃))
        intro _ w₄ holds₄
        exact keeps.callback _ holds₄

/-- Whatever message is dispatched, the condition is kept. -/
theorem dispatch (keeps : Keeps env k holds crash) (before : holds w) (parsed : Parsed) :
    Leads (dispatch env k parsed) w (fun _ => holds) crash := by
  apply Leads.bind (keeps.leads before (emit_calm rfl w))
  intro _ w₁ holds₁
  apply Leads.get
  cases (serverMsg parsed).type with
  | ok => exact Leads.pure holds₁
  | err =>
    dsimp only
    split
    · exact keeps.reject holds₁ _
    · exact Leads.pure holds₁
  | ping =>
    apply Leads.bind (keeps.leads holds₁ (addMessage_calm _ _ w₁))
    intro _ w₂ holds₂
    exact Leads.pure holds₂
  | pong =>
    dsimp only
    cases okayed : w₁.nc.state.connectOkayed with
    | true => exact Leads.pure holds₁
    | false =>
      apply Leads.of_run (record_bind w₁ (.ready w₁.nc.state w₁.nc.srvVersion) _ _)
      apply Leads.bind (keeps.ready holds₁ okayed)
      intro _ w₂ holds₂
      exact Leads.pure holds₂
  | info =>
    dsimp only
    split
    · exact keeps.reject holds₁ _
    · apply Leads.bind (keeps.leads holds₁ (parseInfo_calm _ w₁))
      intro rc w₂ holds₂
      split
      · exact keeps.reject holds₂ _
      · exact Leads.pure holds₂
  | msg =>
    apply Leads.bind (keeps.processMsg holds₁ _)
    intro _ w₂ holds₂
    exact Leads.pure holds₂
  | unset => exact keeps.reject holds₁ _

/-- Waiting for the rest of a message keeps the condition. -/
theorem awaitMore (keeps : Keeps env k holds crash) (before : holds w) :
    Leads (awaitMore env k) w (fun _ => holds) crash := by
  apply Leads.get
  apply Leads.bind (keeps.leads before (lift_calm _ w))
  intro buf w₁ holds₁
  apply Leads.bind (keeps.leads holds₁ (setReadBuf_calm buf w₁))
  intro _ w₂ holds₂
  split
  · split
    · exact keeps.rejectReturn holds₂ _ _
    · apply Leads.bind (keeps.leads holds₂ (ask_calm _ w₂))
      intro alloc w₃ holds₃
      apply Leads.bind (keeps.leads holds₃ (lift_calm _ w₃))
      intro ⟨rc, buf⟩ w₄ holds₄
      apply Leads.bind (keeps.leads holds₄ (setReadBuf_calm buf w₄))
      intro _ w₅ holds₅
      split
      · exact keeps.rejectReturn holds₅ _ _
      · exact Leads.pure holds₅
  · exact Leads.pure holds₂

/-- A round of the reader keeps the condition. -/
theorem processBufferMsg (keeps : Keeps env k holds crash) (before : holds w) :
    Leads (processBufferMsg env k) w (fun _ => holds) crash := by
  apply Leads.get
  apply Leads.bind (keeps.leads before (emit_calm rfl w))
  intro _ w₁ holds₁
  split
  · apply Leads.bind (keeps.leads holds₁ (lift_calm _ w₁))
    intro buf w₂ holds₂
    apply Leads.bind (keeps.leads holds₂ (setReadBuf_calm buf w₂))
    intro _ w₃ holds₃
    exact Leads.pure holds₃
  · apply Leads.bind (keeps.leads holds₁ (lift_calm _ w₁))
    intro parsed w₂ holds₂
    apply Leads.bind (keeps.leads holds₂ (setReadBuf_calm _ w₂))
    intro _ w₃ holds₃
    split
    · split
      · exact keeps.awaitMore holds₃
      · exact keeps.rejectReturn holds₃ _ _
    · apply Leads.bind (keeps.dispatch holds₃ parsed)
      intro went w₄ holds₄
      cases went with
      | true => exact Leads.pure holds₄
      | false => exact Leads.pure holds₄

/-- The loop over the messages of the buffer keeps the condition, by its rounds. -/
theorem processBuffer (keeps : Keeps env k holds crash) (before : holds w) :
    Leads (processBuffer env k) w (fun _ => holds) crash := by
  apply Leads.get
  apply Leads.repeatUntil holds
  · exact fun _ => keeps.faults
  · intro w₁ holds₁
    apply Leads.bind (keeps.processBufferMsg holds₁)
    intro rc w₂ holds₂
    split
    · exact Leads.pure holds₂
    · have skipped : Calm w₂ { w₂ with
          readBuf := { w₂.readBuf with pos := w₂.readBuf.pos + rc.toNat } } :=
        Calm.silent .plain rfl
      apply Leads.bind (keeps.leads holds₂ (Moves.modify skipped))
      intro _ w₃ holds₃
      exact Leads.pure holds₃
  · exact before

/-- Closing the connection ends the reader. -/
theorem closeReturn (keeps : Keeps env k holds crash) (before : holds w) (reason : Reason) :
    Leads (do
      closeConnection env k reason true
      return false) w (fun _ => holds) crash := by
  apply Leads.bind (keeps.close reason before)
  intro _ w₁ holds₁
  exact Leads.pure holds₁

/-- Data that is taken in on an open connection and read keeps the condition. -/
theorem receiveData (keeps : Keeps env k holds crash) (before : holds w)
    (live : w.live.isSome = true) (bytes : List UInt8) :
    Leads (receiveData env k bytes) w (fun _ => holds) crash := by
  obtain ⟨w₁, checked, -⟩ := checkConnected_keeps env w
  have calm : Calm w w₁ := (checkConnected_calm w).of_run checked
  have live₁ : w₁.live.isSome = true := by rw [calm.live, live]
  apply Leads.of_run (Program.bind_ok checked)
  have received : Leads (receiveBytes bytes) w₁ (fun _ => holds) crash :=
    Leads.of_ok rfl (keeps.received bytes (keeps.calm before calm) live₁)
  apply Leads.bind received
  intro _ w₂ holds₂
  apply Leads.bind (keeps.processBuffer holds₂)
  intro rc w₃ holds₃
  split
  · exact keeps.closeReturn holds₃ _
  · exact Leads.pure holds₃

/-- A receive loop that found nothing more. -/
theorem receiveAgain (keeps : Keeps env k holds crash) (before : holds w) :
    Leads (do
      if ← ask env.handleReadEvent then return true
      else
        closeConnection env k .internalError true
        return false) w (fun _ => holds) crash := by
  apply Leads.bind (keeps.leads before (ask_calm _ w))
  intro handled w₁ holds₁
  split
  · exact Leads.pure holds₁
  · exact keeps.closeReturn holds₁ _

/-- The loop over `recv` keeps the condition, by induction on what it finds. -/
theorem receive (keeps : Keeps env k holds crash) (results : List Recv) (before : holds w) :
    Leads (receive env k results) w (fun _ => holds) crash := by
  induction results generalizing w with
  | nil =>
    apply Leads.bind (keeps.leads before (recvBytes_calm _ w))
    intro _ w₁ holds₁
    exact keeps.receiveAgain holds₁
  | cons found rest ih =>
    have calm : Moves Calm (recvBytes found) w := recvBytes_calm found w
    have receives : Leads (recvBytes found) w (fun result w₁ => holds w₁ ∧
        ∀ bytes, result = .bytes bytes → w₁.live.isSome = true) crash := by
      apply Leads.intro
      · intro result w₁ run
        refine ⟨keeps.calm before (calm.of_run run), ?_⟩
        rintro bytes rfl
        exact recvBytes_live run
      · exact fun _ _ run => keeps.faults (keeps.calm before (calm.of_run run))
    apply Leads.bind receives
    rintro result w₁ ⟨holds₁, live⟩
    cases result with
    | again => exact keeps.receiveAgain holds₁
    | bytes bytes =>
      apply Leads.bind (keeps.receiveData holds₁ (live bytes rfl) bytes)
      intro went w₂ holds₂
      cases went with
      | true => exact ih holds₂
      | false => exact Leads.pure holds₂
    | eof => exact keeps.closeReturn holds₁ _
    | error => exact keeps.closeReturn holds₁ _

/-- Reading from the connection keeps the condition. -/
theorem readFromNats (keeps : Keeps env k holds crash) (before : holds w) (results : List Recv) :
    Leads (readFromNats env k results) w (fun _ => holds) crash := by
  apply Leads.get
  apply Leads.bind (keeps.receive results before)
  intro went w₁ holds₁
  split
  · apply Leads.get
    split
    · exact keeps.flush holds₁
    · exact Leads.pure holds₁
  · exact Leads.pure holds₁

/-- A write event keeps the condition. -/
theorem writeEventHandler (keeps : Keeps env k holds crash) (before : holds w) :
    Leads (writeEventHandler env k) w (fun _ => holds) crash := by
  apply Leads.get
  apply Leads.bind (keeps.leads before (Moves.require _ _ w))
  intro c w₁ holds₁
  split
  · exact keeps.close _ holds₁
  · refine Leads.bind (keeps.leads holds₁ (setConnection_calm ?_ w₁)) ?_
    · exact fun _ => rfl
    intro _ w₂ holds₂
    apply Leads.bind (keeps.leads holds₂ (connectionInit_calm w₂))
    intro _ w₃ holds₃
    exact keeps.flush holds₃

/-- A read event keeps the condition. -/
theorem readEventHandler (keeps : Keeps env k holds crash) (before : holds w)
    (results : List Recv) : Leads (readEventHandler env k results) w (fun _ => holds) crash := by
  apply Leads.get
  apply Leads.bind (keeps.leads before (Moves.require _ _ w))
  intro c w₁ holds₁
  split
  · exact keeps.close _ holds₁
  · apply Leads.bind (keeps.leads holds₁ (ask_calm _ w₁))
    intro tested w₂ holds₂
    split
    · exact keeps.close _ holds₂
    · exact keeps.readFromNats holds₂ results

/-- An expiry of the ping timer keeps the condition. -/
theorem pingHandler (keeps : Keeps env k holds crash) (before : holds w) :
    Leads (pingHandler env k) w (fun _ => holds) crash := by
  apply Leads.get
  split
  · exact Leads.pure before
  · apply Leads.bind (keeps.leads before (addMessage_calm _ _ w))
    intro _ w₁ holds₁
    apply Leads.bind (keeps.flush holds₁)
    intro _ w₂ holds₂
    exact keeps.leads holds₂ (setPingTimer_calm _ w₂)

/-- One event of an initialised module keeps the condition. -/
theorem step {depth : Nat} (keeps : Keeps env (calls env depth) holds crash)
    (reconnect : ∀ {w}, holds w → w.reconnectTimer.isSome = true →
      Leads (calls env depth).connect { w with reconnectTimer := none } (fun _ => holds) crash)
    (before : holds w) (event : Step) :
    Leads (step env depth event) w (fun _ => holds) crash := by
  have stays : Leads (pure () : Comm Unit) w (fun _ => holds) crash := Leads.pure before
  apply Leads.get
  cases event with
  | init =>
    dsimp only
    rw [if_neg (by rw [keeps.initialised before]; decide)]
    exact stays
  | api call =>
    apply Leads.bind (keeps.apiCall before call)
    intro _ w₁ holds₁
    exact Leads.pure holds₁
  | readable results =>
    dsimp only
    split
    · exact keeps.readEventHandler before results
    · exact stays
  | writable =>
    dsimp only
    split
    · exact keeps.writeEventHandler before
    · exact stays
  | readTimeout =>
    dsimp only
    split
    · refine Leads.bind (keeps.leads before (setConnection_calm ?_ w)) ?_
      · exact fun _ => rfl
      intro _ w₁ holds₁
      exact keeps.readEventHandler holds₁ []
    · exact stays
  | writeTimeout =>
    dsimp only
    split
    · refine Leads.bind (keeps.leads before (setConnection_calm ?_ w)) ?_
      · exact fun _ => rfl
      intro _ w₁ holds₁
      exact keeps.writeEventHandler holds₁
    · exact stays
  | pingTimeout =>
    dsimp only
    split
    · apply Leads.bind (keeps.leads before (setPingTimer_calm none w))
      intro _ w₁ holds₁
      apply Leads.bind (keeps.leads holds₁ (emit_calm rfl w₁))
      intro _ w₂ holds₂
      exact keeps.pingHandler holds₂
    · exact stays
  | reconnectTimeout =>
    dsimp only
    split
    · next scheduled =>
      apply Leads.of_run (Program.modify_bind _ _ w)
      apply Leads.of_run (Program.modify_bind _ _ _)
      exact reconnect (w := w) before scheduled
    · exact stays

/-- A run keeps the condition from `ngx_nats_init` on. -/
theorem run {depth : Nat} (keeps : Keeps env (calls env depth) holds crash)
    (reconnect : ∀ {w}, holds w → w.reconnectTimer.isSome = true →
      Leads (calls env depth).connect { w with reconnectTimer := none } (fun _ => holds) crash)
    (init : ∀ {w}, Unstarted w →
      Leads (calls env depth).connect { w with dataSet := true } (fun _ => holds) crash)
    (events : List Step) (read write : Memory UInt8) :
    Leads (run env depth events) (.start read write) (fun _ w => Unstarted w ∨ holds w) crash := by
  apply Leads.forEach (.inl (start_unstarted read write))
  rintro event - w (unstarted | before)
  · by_cases first : event = .init
    · subst first
      apply Leads.of_run (unstarted.init depth)
      exact (init unstarted).weaken (fun _ _ => Or.inr) fun _ => id
    · obtain ⟨w', run, unstarted'⟩ := unstarted.step env depth first
      unfold Leads
      rw [run]
      exact .inl unstarted'
  · exact (keeps.step reconnect before event).weaken (fun _ _ => Or.inr) fun _ => id

end Keeps

section Closing

variable {env : Env} {k : Calls} {holds crash : World → Prop} {w : World}

/-- The state after `ngx_nats_close_connection` closed the socket and deleted the timers. -/
def World.shutDown (w : World) : World := { w with
  nc := { w.nc with
    pingTimer := none
    connection := w.nc.connection.map fun c =>
      { c with fdOpen := false, readTimer := none, writeTimer := none } }
  log := w.log ++ if w.live.isSome then [.shut] else [] }

/-- The state after `ngx_nats_close_connection` forgot the connection. -/
def World.abandoned (w : World) (reason : Reason) : World := { w with
  subs := []
  nextId := 0
  attached := false
  readBuf := w.readBuf.reset
  writeBuf := w.writeBuf.reset
  log := w.log ++ [.closed reason] }

/-- No connection is open after its socket was closed. -/
theorem live_shutDown (w : World) : w.shutDown.live = none := by
  unfold World.live World.shutDown
  cases w.nc.connection with
  | none => rfl
  | some c => rfl

/-- Closing a connection closes its socket first. -/
theorem closeConnection_run {c : Connection} (found : w.nc.connection = some c) (reason : Reason)
    (reconnect : Bool) : closeConnection env k reason reconnect w =
      (if ¬w.nc.state.bytesExchanged then abandon env k reason true reconnect
      else if w.nc.state = stateReady then do
        disconnectClients k
        abandon env k reason false reconnect
      else abandon env k reason false reconnect : Comm Unit) w.shutDown := by
  unfold closeConnection closeSocket shutConnection World.shutDown World.live
  cases opened : c.fdOpen with
  | true =>
    simp only [Program.get_bind, setNc_bind, found, Program.require_some_bind, opened, ↓reduceIte,
      record_bind, setConnection, Option.map_some, Option.isSome_some]
  | false =>
    simp only [Program.get_bind, setNc_bind, found, Program.require_some_bind, opened, ↓reduceIte,
      Bool.false_eq_true, Program.pure_bind_run, setConnection, Option.map_some,
      Option.isSome_none, List.append_nil]

/-- Without an nginx connection the pointer to it is dereferenced. -/
theorem closeConnection_missing (missing : w.nc.connection = none) (reason : Reason)
    (reconnect : Bool) : closeConnection env k reason reconnect w =
      (.error .badAccess, { w with nc := { w.nc with pingTimer := none } }) := by
  unfold closeConnection
  simp only [Program.get_bind, setNc_bind, missing]
  rfl

/-- Closing a connection: the socket, the clients' callbacks, and then the rest. -/
theorem closeConnection_through (ending : World → Prop) {reason : Reason}
    (missing : w.nc.connection = none →
      crash { w with nc := { w.nc with pingTimer := none } })
    (shut : ending w.shutDown)
    (tells : ∀ i {w}, ending w → Leads (do
      emit (.disconnected i)
      k.callback (.disconnected i)) w (fun _ => ending) crash)
    (abandons : ∀ immediate {w}, ending w →
      Leads (abandon env k reason immediate true) w (fun _ => holds) crash) :
    Leads (closeConnection env k reason true) w (fun _ => holds) crash := by
  cases found : w.nc.connection with
  | none =>
    unfold Leads
    rw [closeConnection_missing found]
    exact missing found
  | some c =>
    apply Leads.of_run (closeConnection_run found reason true)
    split
    · exact abandons _ shut
    · split
      · have told : Leads (disconnectClients k) w.shutDown (fun _ => ending) crash := by
          apply Leads.get
          apply Leads.forEach shut
          rintro ⟨client, i⟩ - w₁ ending₁
          dsimp only
          split
          · exact tells i ending₁
          · exact Leads.pure ending₁
        apply Leads.bind told
        intro _ w₁ ending₁
        exact abandons _ ending₁
      · exact abandons _ shut

/-- The end of closing a connection: connect again, or wait. -/
theorem abandon_through {reason : Reason} {immediate : Bool}
    (reconnects : Leads k.connect { w.abandoned reason with reconnectTimer := none }
      (fun _ => holds) crash)
    (arms : Leads (addReconnectTimer env) (w.abandoned reason) (fun _ => holds) crash) :
    Leads (abandon env k reason immediate true) w (fun _ => holds) crash := by
  apply Leads.of_run (record_bind w (.closed reason) _ _)
  rw [if_pos rfl]
  split
  · exact Leads.of_run (Program.modify_bind _ _ _) reconnects
  · exact arms

/-- The state after the attempt got an nginx connection. -/
def World.wired (w : World) (c : Connection) : World :=
  { w with nc := { w.nc with connection := some c } }

/-- What has to be shown of a condition for connecting. -/
structure Connects (holds : World → Prop) : Prop where
  scheduled : ∀ {w} clock index timer read write events, holds w →
    (w.writeBuf.WellFormed → write.WellFormed) →
    (∀ event ∈ events, event = .armed ∨ event = .unallocated) → holds { w with
      clock := clock
      currIndex := index
      reconnectTimer := timer
      readBuf := read
      writeBuf := write
      log := w.log ++ events }
  opened : ∀ {w} server, holds w → holds { w with
    attached := true, nc := { server := server }, log := w.log ++ [.opened] }
  attempt : ∀ {w} server, holds w → holds { w with log := w.log ++ [.attempt server] }
  wired : ∀ {w} c, holds w → c.fdOpen = true → w.nc.state.connectOkayed = false →
    holds (w.wired c)

/-- The loop over the servers keeps a condition that connecting keeps. -/
theorem Keeps.connectLoop (keeps : Keeps env k holds crash) (connects : Connects holds)
    (before : holds w) : Leads (connectLoop env k) w (fun _ => holds) crash := by
  have indexed (index : Int) : holds { w with currIndex := index } := by
    have kept := connects.scheduled w.clock index w.reconnectTimer w.readBuf w.writeBuf [] before id
      (List.forall_mem_nil _)
    rwa [List.append_nil] at kept
  have chooses : Leads (nextServer env) w (fun _ => holds) crash := by
    apply Leads.get
    split
    · exact Leads.of_run (Program.modify_bind _ _ w) (Leads.pure (indexed _))
    · exact Leads.of_run (Program.modify_bind _ _ w) (Leads.pure (indexed _))
  apply Leads.bind chooses
  intro more w₁ holds₁
  split
  · have armed := connects.scheduled w₁.clock (-1) (some env.reconnectInterval) w₁.readBuf
      w₁.writeBuf [.armed] holds₁ id fun event inside => .inl (List.mem_singleton.mp inside)
    have arms : Leads (addReconnectTimer env) w₁ (fun _ => holds) crash := by
      apply Leads.get
      split
      · exact Leads.of_ok rfl armed
      · exact Leads.pure holds₁
    apply Leads.bind arms
    intro _ w₂ holds₂
    exact Leads.pure holds₂
  · apply Leads.of_run (Program.modify_bind _ _ w₁)
    apply Leads.of_run (ask_bind _ env.pcalloc _)
    have asked (events : List Event) (unallocated : ∀ event ∈ events, event = .unallocated) :
        holds { w₁ with
          clock := w₁.clock + 1
          readBuf := w₁.readBuf.reset
          writeBuf := w₁.writeBuf.reset
          log := w₁.log ++ events } :=
      connects.scheduled _ w₁.currIndex w₁.reconnectTimer _ _ events holds₁ Buf.WellFormed.reset
        fun event inside => .inr (unallocated event inside)
    split
    · apply Leads.of_run (emit_bind _ .unallocated _)
      exact Leads.pure (asked [.unallocated] fun event inside => List.mem_singleton.mp inside)
    · have plain := asked [] (List.forall_mem_nil _)
      rw [List.append_nil] at plain
      apply Leads.get
      split
      · exact Leads.fault (keeps.faults plain)
      · apply Leads.of_run (record_bind _ .opened _ _)
        apply Leads.of_run (emit_bind _ (.attempt w₁.currIndex.toNat) _)
        apply Leads.of_run (ask_bind _ env.connectPeer _)
        have trying := connects.attempt w₁.currIndex.toNat
          (connects.opened w₁.currIndex.toNat plain)
        have tried := keeps.calm trying (ask_calm env.connectPeer _)
        split
        · exact Leads.pure tried
        · exact Leads.pure tried
        · exact Leads.pure tried
        · apply Leads.of_run (setNc_bind _ _ _)
          exact Leads.pure (connects.wired { writeTimer := some 5000 } tried rfl rfl)
        · apply Leads.of_run (setNc_bind _ _ _)
          have wired := connects.wired {} tried rfl rfl
          apply Leads.bind (keeps.leads wired (connectionInit_calm _))
          intro _ w₂ holds₂
          apply Leads.bind (keeps.flush holds₂)
          intro _ w₃ holds₃
          exact Leads.pure holds₃

/-- Connecting keeps a condition that opening a connection keeps. -/
theorem Keeps.connect (keeps : Keeps env k holds crash) (connects : Connects holds)
    (before : holds w) : Leads (connect env k) w (fun _ => holds) crash := by
  apply Leads.repeatUntil holds
  · exact fun _ => keeps.faults
  · intro w₁ holds₁
    apply Leads.bind (keeps.connectLoop connects holds₁)
    intro rc w₂ holds₂
    split
    · exact Leads.pure holds₂
    · exact Leads.pure holds₂
  · exact before

end Closing

/-- Events that have to do with clients, or with nothing but the bytes of a connection. -/
def Event.apart : Event → Bool
  | .attempt _ | .opened | .shut | .closed _ | .armed => false
  | _ => true

/-- A change that neither opens nor closes a connection, nor schedules one. -/
structure Apart (w w' : World) : Prop where
  dataSet : w'.dataSet = w.dataSet
  reconnectTimer : w'.reconnectTimer = w.reconnectTimer
  attached : w'.attached = w.attached
  currIndex : w'.currIndex = w.currIndex
  lastIndex : w'.lastIndex = w.lastIndex
  live : w'.live.isSome = w.live.isSome
  formed : w.writeBuf.WellFormed → w'.writeBuf.WellFormed
  log : ∃ events, w'.log = w.log ++ events ∧ ∀ event ∈ events, event.apart = true

section Asides

variable {env : Env} {k : Calls} {holds crash : World → Prop} {w w' : World}

/-- A calm change has nothing to do with the attempts. -/
theorem Calm.apart (calm : Calm w w') : Apart w w' := by
  obtain ⟨events, log, calmly⟩ := calm.log
  refine ⟨calm.dataSet, calm.reconnectTimer, calm.attached, calm.currIndex, calm.lastIndex,
    calm.live, calm.formed, events, log, fun event inside => ?_⟩
  have quiet := calmly event inside
  cases event with
  | attempt => cases quiet
  | opened => cases quiet
  | shut => cases quiet
  | closed => cases quiet
  | armed => cases quiet
  | _ => rfl

/-- An event apart, and a change of the clients or the connection's state. -/
theorem Apart.noted (event : Event) (clients : List Client) (state : ConnState)
    (apart : event.apart = true) : Apart w { w with
      clients := clients, nc := { w.nc with state := state }, log := w.log ++ [event] } :=
  ⟨rfl, rfl, rfl, rfl, rfl, rfl, id, [event], rfl, by simpa using apart⟩

/-- Telling one client. -/
theorem tell_through {event : Event} {call : Callback} (apart : event.apart = true)
    (keeps : ∀ {w w'}, holds w → Apart w w' → holds w')
    (callback : ∀ {w} call, holds w → Leads (k.callback call) w (fun _ => holds) crash)
    (before : holds w) :
    Leads (do
      emit event
      k.callback call) w (fun _ => holds) crash := by
  apply Leads.of_run (emit_bind w event fun _ => k.callback call)
  exact callback call (keeps before (Apart.noted event w.clients w.nc.state apart))

/-- For such a condition only closing a connection and the callbacks have to be looked at. -/
theorem Keeps.ofApart (initialised : ∀ {w}, holds w → w.dataSet = true)
    (formed : ∀ {w}, holds w → w.writeBuf.WellFormed) (faults : ∀ {w}, holds w → crash w)
    (keeps : ∀ {w w'}, holds w → Apart w w' → holds w')
    (close : ∀ {w} reason, holds w →
      Leads (closeConnection env k reason true) w (fun _ => holds) crash)
    (callback : ∀ {w} call, holds w → Leads (k.callback call) w (fun _ => holds) crash) :
    Keeps env k holds crash where
  initialised := initialised
  formed := formed
  faults := faults
  calm before calm := keeps before calm.apart
  called {w} call before := keeps before (Apart.noted
    (.called call w.attached w.live.isSome w.nc.state) w.clients w.nc.state rfl)
  close := close
  callback := callback
  received bytes before _ := keeps before
    ⟨rfl, rfl, rfl, rfl, rfl, rfl, id, [.received bytes], rfl, by simp [Event.apart]⟩
  ready := by
    intro w before _
    have ready := keeps before
      (Apart.noted (.ready w.nc.state w.nc.srvVersion) w.clients stateReady rfl)
    apply Leads.get
    apply Leads.bind (Leads.require (fun _ _ => ready) fun _ => faults ready)
    intro _ w₁ ready₁
    apply Leads.forEach ready₁
    rintro ⟨client, i⟩ - w₂ holds₂
    exact tell_through rfl keeps callback holds₂
  addClient := by
    intro w client before
    apply Leads.get
    split
    · exact Leads.pure before
    · have asked : Leads (ask env.arrayPush) w (fun _ => holds) crash :=
        (ask_calm _ w).leads.weaken (fun _ _ calm => keeps before calm.apart)
          fun _ calm => faults (keeps before calm.apart)
      apply Leads.bind asked
      intro granted w₁ holds₁
      split
      · exact Leads.pure holds₁
      · apply Leads.of_run (record_bind w₁ .registered _ _)
        have registered := keeps holds₁
          (Apart.noted .registered (w₁.clients ++ [client]) w₁.nc.state rfl)
        split
        · exact Leads.pure registered
        · split
          · exact Leads.pure registered
          · change Leads ((do
              emit (.connected w.clients.length)
              k.callback (.connected w.clients.length)) >>= fun _ => pure ngxOk) _ _ _
            apply Leads.bind (tell_through rfl keeps callback registered)
            intro _ w₂ holds₂
            exact Leads.pure holds₂

end Asides

end NgxNats
