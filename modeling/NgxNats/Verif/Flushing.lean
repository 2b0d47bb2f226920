import NgxNats.Verif.Atomicity
import NgxNats.Verif.Outgoing
import NgxNats.Verif.Upkeep

/-!
# What a flush does

`ngx_nats_flush` sends once what is pending. What `c->send` answers, and after a complete or an
unaccepted send whether the write event is handled, decides whether the flush returns or closes
the connection. The client functions flush last and return their result whatever the flush did.
-/
namespace NgxNats

open Program (Leads Moves)

variable {env : Env} {k : Calls} {w w' : World}

/-- The state after bytes were exchanged: the first time the ping timer is set. -/
def World.checked (w : World) (env : Env) : World := { w with
  nc := if w.nc.state.bytesExchanged then w.nc else { w.nc with
    state := { w.nc.state with bytesExchanged := true }
    pingTimer := some (w.nc.pingTimer.getD env.pingInterval) } }

/-- Noting that bytes were exchanged. -/
theorem checkConnected_run (env : Env) (w : World) :
    checkConnected env w = (.ok (), w.checked env) := by
  unfold checkConnected World.checked
  simp only [Program.get_bind, Program.ite_run, setNc_bind]
  by_cases exchanged : w.nc.state.bytesExchanged = true
  · rw [if_pos exchanged, if_pos exchanged]
    rfl
  · rw [if_neg exchanged, if_neg exchanged]
    cases timer : w.nc.pingTimer with
    | none =>
      rw [if_pos rfl]
      rfl
    | some delay =>
      rw [if_neg (Option.some_ne_none delay)]
      rfl

/-- Noting that bytes were exchanged leaves the socket alone. -/
theorem checked_live (env : Env) (w : World) : (w.checked env).live = w.live := by
  unfold World.live World.checked
  by_cases exchanged : w.nc.state.bytesExchanged = true
  · rw [if_pos exchanged]
  · rw [if_neg exchanged]

/-- The write buffer after some of its bytes were sent; a drained one starts over. -/
def Buf.sent (b : Buf) (n : Nat) : Buf :=
  if b.pos + n = b.end then Buf.reset { b with pos := b.pos + n } else { b with pos := b.pos + n }

/-- The state after `c->send` accepted bytes. -/
def World.accepted (w : World) (env : Env) (n : Nat) : World :=
  { (w.sending w.writeBuf.pending (.sent n)).checked env with writeBuf := w.writeBuf.sent n }

/-- The state after `c->send` accepted nothing for now: the write timer is set. -/
def World.deferred (w : World) : World :=
  (setConnection (fun c => { c with writeTimer := some 5000 })
    (w.sending w.writeBuf.pending .again)).2

/-- The state after the write event was handled or not. -/
def World.eventHandled (w : World) (handled : Bool) : World := { w with
  clock := w.clock + 1, log := w.log ++ if handled then [] else [.writeEventFailed] }

/-- What `c->send` answers when it is offered what is pending. -/
def World.sendAnswer (w : World) (env : Env) : SendResult :=
  if w.live.isSome then
    match env.send w.clock with
    | .sent n => .sent (min (n + 1) w.writeBuf.pending.length)
    | other => other
  else .error

/-- Whether the write event is handled after a send. -/
def World.eventAnswer (w : World) (env : Env) : Bool := env.handleWriteEvent (w.clock + 1)

/-- How a flush ends: it returns, or it closes the connection for a reason. -/
inductive Flushed (env : Env) (w : World) : World → Option Reason → Prop
  | drained (empty : w.writeBuf.end - w.writeBuf.pos = 0) :
    Flushed env w { w with writeBuf := w.writeBuf.reset } none
  | part (n : Nat) (answer : w.sendAnswer env = .sent n)
    (rest : w.writeBuf.pos + n ≠ w.writeBuf.end) : Flushed env w (w.accepted env n) none
  | whole (n : Nat) (answer : w.sendAnswer env = .sent n)
    (all : w.writeBuf.pos + n = w.writeBuf.end) :
    Flushed env w ((w.accepted env n).eventHandled (w.eventAnswer env))
      (if w.eventAnswer env then none else some .internalError)
  | nothing (answer : w.sendAnswer env = .nothing) :
    Flushed env w (w.sending w.writeBuf.pending .nothing) none
  | again (answer : w.sendAnswer env = .again) :
    Flushed env w (w.deferred.eventHandled (w.eventAnswer env))
      (if w.eventAnswer env then none else some .internalError)
  | error (answer : w.sendAnswer env = .error) :
    Flushed env w (w.sending w.writeBuf.pending .error) (some .disconnected)

/-- The end of a flush: return, or close the connection. -/
def flushEnd (env : Env) (k : Calls) : Option Reason → Comm Unit
  | none => pure ()
  | some reason => closeConnection env k reason true

/-- Asking whether the write event is handled. -/
theorem handleWriteEvent_run (env : Env) (w : World) : handleWriteEvent env w =
    (.ok (env.handleWriteEvent w.clock), w.eventHandled (env.handleWriteEvent w.clock)) := by
  unfold handleWriteEvent World.eventHandled
  cases handled : env.handleWriteEvent w.clock with
  | true => simp only [ask_bind, handled, ↓reduceIte, Program.pure_run, List.append_nil]
  | false =>
    simp only [ask_bind, handled, ↓reduceIte, Bool.false_eq_true, emit_bind, Program.pure_run]

/-- The end of a flush that asks for the write event. -/
theorem handleWriteEvent_end (w : World) : (do
      if ← handleWriteEvent env then return ()
      else closeConnection env k .internalError true : Comm Unit) w =
    flushEnd env k (if env.handleWriteEvent w.clock then none else some .internalError)
      (w.eventHandled (env.handleWriteEvent w.clock)) := by
  rw [Program.bind_ok (handleWriteEvent_run env w)]
  cases env.handleWriteEvent w.clock with
  | true => rfl
  | false => rfl

/-- Sending what is pending, where there is an nginx connection. -/
theorem sendBytes_run (env : Env) {c : Connection} (found : w.nc.connection = some c) :
    sendBytes env w.writeBuf.pending w =
      (.ok (w.sendAnswer env), w.sending w.writeBuf.pending (w.sendAnswer env)) := by
  unfold sendBytes World.sendAnswer World.live
  simp only [Program.get_bind, found, Program.require_some_bind, ask_bind, emit_bind,
    Program.pure_run]
  cases opened : c.fdOpen with
  | true => rfl
  | false => rfl

/-- A flush ends in one of the outcomes, unless there is nothing to send on. -/
theorem flush_cases (env : Env) (k : Calls)
    (attempt : w.writeBuf.end - w.writeBuf.pos ≠ 0 → w.nc.connection ≠ none) :
    ∃ w₁ ending, Flushed env w w₁ ending ∧ flush env k w = flushEnd env k ending w₁ := by
  by_cases empty : w.writeBuf.end - w.writeBuf.pos = 0
  · refine ⟨_, none, .drained empty, ?_⟩
    unfold flush
    simp only [Program.get_bind, Program.ite_run, if_pos empty]
    rfl
  · obtain ⟨c, found⟩ := Option.ne_none_iff_exists'.mp (attempt empty)
    have sends := sendBytes_run env found
    unfold flush
    simp only [Program.get_bind, Program.ite_run, if_neg empty]
    rw [Program.bind_ok sends]
    cases answer : w.sendAnswer env with
    | sent n =>
      dsimp only
      rw [Program.bind_ok (checkConnected_run env _)]
      simp only [Program.ite_run, setWriteBuf_bind]
      by_cases all : w.writeBuf.pos + n = w.writeBuf.end
      · rw [if_pos all]
        refine ⟨_, _, .whole n answer all, ?_⟩
        have sent : w.writeBuf.sent n = Buf.reset { w.writeBuf with pos := w.writeBuf.pos + n } :=
          if_pos all
        unfold World.accepted
        rw [sent]
        exact handleWriteEvent_end _
      · rw [if_neg all]
        refine ⟨_, none, .part n answer all, ?_⟩
        have sent : w.writeBuf.sent n = { w.writeBuf with pos := w.writeBuf.pos + n } := if_neg all
        unfold World.accepted
        rw [sent]
        rfl
    | error => exact ⟨_, _, .error answer, rfl⟩
    | again => exact ⟨_, _, .again answer, handleWriteEvent_end _⟩
    | nothing => exact ⟨_, none, .nothing answer, rfl⟩

/-- A flush that returned went through one of the outcomes. -/
theorem flush_returned (run : flush env k w = (.ok (), w')) :
    ∃ w₁ ending, Flushed env w w₁ ending ∧ flushEnd env k ending w₁ = (.ok (), w') := by
  have attempt : w.writeBuf.end - w.writeBuf.pos ≠ 0 → w.nc.connection ≠ none := by
    intro pending missing
    have stops : sendBytes env w.writeBuf.pending w = (.error .badAccess, w) := by
      unfold sendBytes
      simp only [Program.get_bind, missing]
      rfl
    unfold flush at run
    simp only [Program.get_bind, Program.ite_run, if_neg pending] at run
    rw [Program.bind_error stops] at run
    cases run
  obtain ⟨w₁, ending, flushed, same⟩ := flush_cases env k attempt
  exact ⟨w₁, ending, flushed, same ▸ run⟩

/-- No more is accepted than was offered. -/
theorem sendAnswer_bound {n : Nat} (answer : w.sendAnswer env = .sent n) :
    n ≤ w.writeBuf.pending.length ∧ w.live.isSome := by
  unfold World.sendAnswer at answer
  split at answer
  · next live =>
    split at answer
    · cases answer
      exact ⟨Nat.min_le_right _ _, live⟩
    · next other kind =>
      rw [answer] at kind
      exact (kind n rfl).elim
  · cases answer

/-- Events that tell that a connection is being closed. -/
def Event.ends : Event → Bool
  | .shut | .closed _ | .disconnected _ => true
  | _ => false

/-- Closing the connection has begun since. -/
def Begun (base w : World) : Prop :=
  ∃ event events, event.ends = true ∧ w.log = base.log ++ event :: events

/-- What has begun is not undone. -/
theorem Begun.acts {base : World} (begun : Begun base w) (formed : w.writeBuf.WellFormed)
    (acts : Acts env w w') : Begun base w' := by
  obtain ⟨event, events, ends, log⟩ := begun
  obtain ⟨more, grown⟩ := acts.grows formed
  exact ⟨event, events ++ more, ends, by rw [grown, log, List.append_assoc, List.cons_append]⟩

/-- Reporting the first such event begins it. -/
theorem Begun.first {base : World} {event : Event} (ends : event.ends = true)
    (log : w.log = base.log ∨ Begun base w) (next : w'.log = w.log ++ [event]) : Begun base w' := by
  rcases log with same | ⟨first, events, firstEnds, log⟩
  · exact ⟨event, [], ends, by rw [next, same]⟩
  · exact ⟨first, events ++ [event], firstEnds, by
      rw [next, log, List.append_assoc, List.cons_append]⟩

/-- Closing a connection begins with an event that tells of it. -/
theorem closeConnection_begins (acts : CallsAct env k) (formed : w.writeBuf.WellFormed)
    (reason : Reason) :
    Leads (closeConnection env k reason true) w (fun _ => Begun w) fun _ => True := by
  let ending (w' : World) : Prop := w'.writeBuf.WellFormed ∧ (w'.log = w.log ∨ Begun w w')
  have shut : ending w.shutDown := by
    refine ⟨formed, ?_⟩
    have log : w.shutDown.log = w.log ++ if w.live.isSome then [.shut] else [] := rfl
    by_cases live : w.live.isSome = true
    · rw [if_pos live] at log
      exact .inr (.first rfl (.inl rfl) log)
    · rw [if_neg live, List.append_nil] at log
      exact .inl log
  apply closeConnection_through ending (fun _ => trivial) shut
  · intro i w₁ ended
    have told : Begun w { w₁ with log := w₁.log ++ [.disconnected i] } := .first rfl ended.2 rfl
    apply Leads.of_run (emit_bind w₁ (.disconnected i) _)
    exact (acts.callback _ _).leads.weaken
      (fun _ _ moved => ⟨(moved ended.1).1, .inr (told.acts ended.1 moved)⟩) fun _ _ => trivial
  · intro immediate w₁ ended
    have closed : Begun w (w₁.abandoned reason) := .first rfl ended.2 rfl
    have reset : (w₁.abandoned reason).writeBuf.WellFormed := ended.1.reset
    have unscheduled : Acts env (w₁.abandoned reason)
        { w₁.abandoned reason with reconnectTimer := none } :=
      (Act.schedule (w₁.abandoned reason).currIndex none).acts rfl
    apply abandon_through
    · exact (acts.connect _).leads.weaken
        (fun _ _ moved => closed.acts reset (IsTrans.trans _ _ _ unscheduled moved))
        fun _ _ => trivial
    · exact (addReconnectTimer_acts _).leads.weaken (fun _ _ moved => closed.acts reset moved)
        fun _ _ => trivial

/-- No subscription. -/
def World.Empty (w : World) : Prop := w.subs = []

/-- Connecting keeps an empty table empty. -/
def ConnectsEmpty (k : Calls) : Prop :=
  ∀ w : World, w.Empty → Leads k.connect w (fun _ => World.Empty) fun _ => True

/-- The end of closing a connection leaves an empty table. -/
theorem abandon_empties (connects : ConnectsEmpty k) (reason : Reason) (immediate : Bool) :
    Leads (abandon env k reason immediate true) w (fun _ => World.Empty) fun _ => True := by
  apply abandon_through
  · exact connects _ rfl
  · apply Leads.get
    split
    · exact Leads.of_ok rfl rfl
    · exact Leads.pure rfl

/-- Closing a connection leaves an empty table. -/
theorem closeConnection_empties (connects : ConnectsEmpty k) (reason : Reason) :
    Leads (closeConnection env k reason true) w (fun _ => World.Empty) fun _ => True := by
  apply closeConnection_through (fun _ => True) (fun _ => trivial) trivial
  · intro i w₁ _
    exact Leads.intro (fun _ _ _ => trivial) fun _ _ _ => trivial
  · intro immediate w₁ _
    exact abandon_empties connects reason immediate

/-- The table does not change in a flush that does not close. -/
theorem Flushed.subs {w₁ : World} {ending : Option Reason} (flushed : Flushed env w w₁ ending) :
    w₁.subs = w.subs := by
  cases flushed with
  | drained => rfl
  | part => rfl
  | whole => rfl
  | nothing => rfl
  | again => rfl
  | error => rfl

/-- A flush keeps an empty table empty. -/
theorem flush_empties (connects : ConnectsEmpty k) (empty : w.Empty) :
    Leads (flush env k) w (fun _ => World.Empty) fun _ => True := by
  apply Leads.intro
  · intro _ w' run
    obtain ⟨w₁, ending, flushed, ended⟩ := flush_returned run
    cases ending with
    | none =>
      cases ended
      exact flushed.subs.trans empty
    | some reason => exact (closeConnection_empties connects reason).ok ended
  · exact fun _ _ _ => trivial

/-- Queueing the CONNECT text keeps an empty table empty. -/
theorem connectionInit_empties (empty : w.Empty) :
    Leads (connectionInit env) w (fun _ => World.Empty) fun _ => True := by
  apply Leads.get
  split
  · exact Leads.pure empty
  · apply Leads.of_run (record_bind w .initiated _ _)
    have adds (w₁ : World) (empty₁ : w₁.Empty) : Leads (addMessage env
        (snprintf connstrSize (connectText env)) (snprintf connstrSize (connectText env)).length)
        w₁ (fun _ => World.Empty) fun _ => True := by
      apply Leads.intro
      · intro rc w₂ run
        cases answer : w₁.writeBuf.addMessage env.alloc w₁.clock
            (snprintf connstrSize (connectText env))
            (snprintf connstrSize (connectText env)).length with
        | error stop =>
          obtain ⟨w₃, stopped⟩ := addMessage_stops answer
          rw [run] at stopped
          cases stopped
        | ok found =>
          obtain ⟨w₃, added, after⟩ := addMessage_returns answer
          rw [run, Prod.mk.injEq] at added
          rw [added.2]
          exact after.subs.trans empty₁
      · exact fun _ _ _ => trivial
    refine Leads.bind (adds _ ?_) ?_
    · exact empty
    intro _ w₁ empty₁
    exact Leads.pure empty₁

/-- One round of connecting keeps an empty table empty. -/
theorem connectLoop_empties (connects : ConnectsEmpty k) (empty : w.Empty) :
    Leads (connectLoop env k) w (fun _ => World.Empty) fun _ => True := by
  have chooses : Leads (nextServer env) w (fun _ => World.Empty) fun _ => True := by
    apply Leads.get
    split
    · exact Leads.of_run (Program.modify_bind _ _ w) (Leads.pure empty)
    · exact Leads.of_run (Program.modify_bind _ _ w) (Leads.pure empty)
  apply Leads.bind chooses
  intro more w₁ empty₁
  split
  · have arms : Leads (addReconnectTimer env) w₁ (fun _ => World.Empty) fun _ => True := by
      apply Leads.get
      split
      · exact Leads.of_ok rfl empty₁
      · exact Leads.pure empty₁
    apply Leads.bind arms
    intro _ w₂ empty₂
    exact Leads.pure empty₂
  · apply Leads.of_run (Program.modify_bind _ _ w₁)
    apply Leads.of_run (ask_bind _ env.pcalloc _)
    split
    · apply Leads.of_run (emit_bind _ .unallocated _)
      exact Leads.pure empty₁
    · apply Leads.get
      split
      · exact Leads.fault trivial
      · apply Leads.of_run (record_bind _ .opened _ _)
        apply Leads.of_run (emit_bind _ (.attempt w₁.currIndex.toNat) _)
        apply Leads.of_run (ask_bind _ env.connectPeer _)
        split
        · exact Leads.pure empty₁
        · exact Leads.pure empty₁
        · exact Leads.pure empty₁
        · exact Leads.of_run (setNc_bind _ _ _) (Leads.pure empty₁)
        · apply Leads.of_run (setNc_bind _ _ _)
          refine Leads.bind (connectionInit_empties ?_) ?_
          · exact empty₁
          intro _ w₂ empty₂
          apply Leads.bind (flush_empties connects empty₂)
          intro _ w₃ empty₃
          exact Leads.pure empty₃

/-- Connecting keeps an empty table empty, at every depth. -/
theorem calls_connect_empty (env : Env) (depth : Nat) : ConnectsEmpty (calls env depth) := by
  induction depth with
  | zero => exact fun w _ => Leads.fault trivial
  | succ depth ih =>
    intro w empty
    apply Leads.repeatUntil World.Empty
    · exact fun _ _ => trivial
    · intro w₁ empty₁
      apply Leads.bind (connectLoop_empties ih empty₁)
      intro rc w₂ empty₂
      split
      · exact Leads.pure empty₂
      · exact Leads.pure empty₂
    · exact empty

/-- The final flush closes the connection: the send fails, or the write event is not handled. -/
def FlushCloses (env : Env) (w : World) : Prop :=
  match w.sendAnswer env with
  | .sent n => w.writeBuf.pos + n = w.writeBuf.end ∧ w.eventAnswer env = false
  | .again => w.eventAnswer env = false
  | .error => True
  | .nothing => False

/-- The final flush loses the pending bytes: it closes the connection before they were sent. -/
def FlushLoses (env : Env) (w : World) : Prop :=
  match w.sendAnswer env with
  | .again => w.eventAnswer env = false
  | .error => True
  | _ => False

/-- Every byte pending before is accepted by `c->send` on that connection or still pending on
it. -/
def PendingKept (w w' : World) : Prop :=
  ∃ events, w'.log = w.log ++ events ∧
    (sentBytes (events.takeWhile fun event => !event.ends) = w.writeBuf.pending ∨
      (∀ event ∈ events, event.ends = false) ∧
        sentBytes events ++ w'.writeBuf.pending = w.writeBuf.pending)

/-- The parts of a publication that was reported as a success: its frame was appended, and the
write buffer was flushed. -/
structure PublishRun (env : Env) (k : Calls) (subject : List UInt8)
    (replyto : Option (List UInt8)) (data : List UInt8) (len : Nat) (w w₁ w' : World) : Prop where
  frame : publishFrame env (snprintf headerSize (pubText subject replyto len)) data len w =
    (.ok ngxOk, w₁)
  flushed : flush env k w₁ = (.ok (), w')

/-- A publication that was reported as a success went through its parts. -/
theorem publish_split {subject replyto : Option (List UInt8)} {data : List UInt8} {len : Nat}
    (run : publish env k subject replyto data len w = (.ok ngxOk, w')) :
    ∃ text w₁, subject = some text ∧ PublishRun env k text replyto data len w w₁ w' := by
  have failed {rc : Int} {w₁ w₂ : World} (other : rc ≠ ngxOk)
      (run : (pure rc : Comm Int) w₁ = (.ok ngxOk, w₂)) : False := by
    cases run
    exact other rfl
  unfold publish at run
  simp only [Program.get_bind, Program.ite_run] at run
  split at run
  · exact (failed (by decide) run).elim
  · split at run
    · exact (failed (by decide) run).elim
    · split at run
      · exact (failed (by decide) run).elim
      · cases subject with
        | none => exact (failed (by decide) run).elim
        | some text =>
          simp only [Program.ite_run] at run
          split at run
          · exact (failed (by decide) run).elim
          · rw [Program.bind_run] at run
            split at run
            · next rc w₁ frame =>
              by_cases ok : rc = ngxOk
              · subst ok
                simp only [ne_eq, not_true_eq_false, ↓reduceIte] at run
                rw [Program.bind_run] at run
                split at run
                · next flushed =>
                  cases run
                  exact ⟨text, w₁, rfl, frame, flushed⟩
                · cases run
              · simp only [ok, ne_eq, not_false_eq_true, ↓reduceIte] at run
                exact (failed ok run).elim
            · cases run

/-- Appends that all returned `NGX_OK` make their bytes pending and leave the table alone. -/
theorem appendAll_pending {messages : List (List UInt8 × Nat)} (formed : w.writeBuf.WellFormed)
    (run : appendAll env messages w = (.ok ngxOk, w')) : w'.writeBuf.WellFormed ∧
      w'.subs = w.subs ∧
      w'.writeBuf.pending.length = w.writeBuf.pending.length + totalSize messages := by
  induction messages generalizing w with
  | nil =>
    cases run
    exact ⟨formed, rfl, rfl⟩
  | cons head rest ih =>
    obtain ⟨message, size⟩ := head
    unfold appendAll at run
    cases answer : w.writeBuf.addMessage env.alloc w.clock message size with
    | error stop =>
      obtain ⟨w₁, stopped⟩ := addMessage_stops answer
      rw [Program.bind_error stopped] at run
      cases run
    | ok found =>
      obtain ⟨rc, tick, b⟩ := found
      obtain ⟨w₁, added, after⟩ := addMessage_returns answer
      obtain ⟨-, kept, -, longer⟩ := formed.addMessage answer
      rw [Program.bind_ok added] at run
      by_cases ok : rc = ngxOk
      · simp only [ok, ne_eq, not_true_eq_false, ↓reduceIte] at run
        obtain ⟨formed', subs, length⟩ := ih (after.writeBuf ▸ kept) run
        refine ⟨formed', subs.trans after.subs, ?_⟩
        rw [length, after.writeBuf, longer ok]
        simp only [totalSize, List.map_cons, List.sum_cons]
        omega
      · simp only [ok, ne_eq, not_false_eq_true, ↓reduceIte, Program.pure_run, Prod.mk.injEq,
          Except.ok.injEq] at run
        exact run.1.elim

/-- A flush of something closes the connection in exactly these cases. -/
theorem Flushed.closes_iff {w₁ : World} {ending : Option Reason} (some : w.writeBuf.pending ≠ [])
    (flushed : Flushed env w w₁ ending) : FlushCloses env w ↔ ending ≠ none := by
  unfold FlushCloses
  cases flushed with
  | drained empty =>
    have none : w.writeBuf.pending = [] := Buf.pending_of_empty empty
    exact absurd none some
  | part n answer rest =>
    rw [answer]
    simp [rest]
  | whole n answer all =>
    rw [answer]
    cases w.eventAnswer env with
    | true => simp
    | false => simp [all]
  | nothing answer =>
    rw [answer]
    simp
  | again answer =>
    rw [answer]
    cases w.eventAnswer env with
    | true => simp
    | false => simp
  | error answer =>
    rw [answer]
    simp

/-- What a send reports, with the write event behind it. -/
def sendEvents (offered : List UInt8) (result : SendResult) (handled : Bool) : List Event :=
  .send offered result :: if handled then [] else [.writeEventFailed]

/-- A send does not tell of a close. -/
theorem sendEvents_open (offered : List UInt8) (result : SendResult) (handled : Bool) :
    ∀ event ∈ sendEvents offered result handled, event.ends = false := by
  cases handled with
  | true => simp [sendEvents, Event.ends]
  | false => simp [sendEvents, Event.ends]

/-- The bytes a send reports as accepted. -/
theorem sentBytes_sendEvents (offered : List UInt8) (result : SendResult) (handled : Bool) :
    sentBytes (sendEvents offered result handled) = Event.sentBytes (.send offered result) := by
  cases handled with
  | true => simp [sendEvents, sentBytes]
  | false => simp [sendEvents, sentBytes, Event.sentBytes]

/-- The log after a send and the write event. -/
theorem sending_handled (w : World) (offered : List UInt8) (result : SendResult) (handled : Bool) :
    (w.log ++ [.send offered result]) ++ (if handled then [] else [.writeEventFailed]) =
      w.log ++ sendEvents offered result handled := by
  rw [List.append_assoc]
  rfl

/-- A flush up to its end reports no close, and takes from the front of the queue what is sent. -/
theorem Flushed.sends {w₁ : World} {ending : Option Reason} (formed : w.writeBuf.WellFormed)
    (flushed : Flushed env w w₁ ending) : ∃ events, w₁.log = w.log ++ events ∧
      (∀ event ∈ events, event.ends = false) ∧ w₁.writeBuf.WellFormed ∧
      sentBytes events ++ w₁.writeBuf.pending = w.writeBuf.pending := by
  have length := w.writeBuf.length_pending
  obtain ⟨start, stop⟩ := formed.valid
  cases flushed with
  | drained empty =>
    refine ⟨[], (List.append_nil _).symm, List.forall_mem_nil _, formed.reset, ?_⟩
    have none : w.writeBuf.pending = [] := Buf.pending_of_empty empty
    rw [none]
    exact Buf.pending_reset w.writeBuf
  | part n answer rest =>
    obtain ⟨bound, -⟩ := sendAnswer_bound answer
    have same : (w.accepted env n).writeBuf = { w.writeBuf with pos := w.writeBuf.pos + n } :=
      if_neg rest
    refine ⟨_, rfl, sendEvents_open w.writeBuf.pending (.sent n) true, ?_, ?_⟩
    · rw [same]
      exact ⟨⟨by simp only; omega, stop⟩, formed.least⟩
    · have taken : sentBytes [.send w.writeBuf.pending (.sent n)] = w.writeBuf.pending.take n :=
        sentBytes_sendEvents w.writeBuf.pending (.sent n) true
      rw [same, pending_advance, taken]
      exact List.take_append_drop n w.writeBuf.pending
  | whole n answer all =>
    have same : ((w.accepted env n).eventHandled (w.eventAnswer env)).writeBuf =
        Buf.reset { w.writeBuf with pos := w.writeBuf.pos + n } := if_pos all
    refine ⟨_, sending_handled w w.writeBuf.pending (.sent n) (w.eventAnswer env),
      sendEvents_open _ _ _, ?_, ?_⟩
    · rw [same]
      exact ⟨Buf.valid_reset _, formed.least⟩
    · have whole : w.writeBuf.pending.length ≤ n := by omega
      rw [same, Buf.pending_reset, List.append_nil, sentBytes_sendEvents]
      exact List.take_of_length_le whole
  | nothing answer =>
    exact ⟨_, rfl, sendEvents_open w.writeBuf.pending .nothing true, formed, rfl⟩
  | again answer =>
    refine ⟨_, sending_handled w w.writeBuf.pending .again (w.eventAnswer env),
      sendEvents_open _ _ _, formed, ?_⟩
    rw [sentBytes_sendEvents]
    rfl
  | error answer =>
    exact ⟨_, rfl, sendEvents_open w.writeBuf.pending .error true, formed, rfl⟩

/-- The bytes a closing flush has sent: all of them, or none. -/
theorem Flushed.loses_iff {w₁ : World} {reason : Reason} (some : w.writeBuf.pending ≠ [])
    (flushed : Flushed env w w₁ (.some reason)) {events : List Event}
    (log : w₁.log = w.log ++ events) :
    FlushLoses env w ↔ sentBytes events ≠ w.writeBuf.pending := by
  have length := w.writeBuf.length_pending
  have same {others : List Event} (log' : w₁.log = w.log ++ others) : events = others :=
    List.append_cancel_left (log.symm.trans log')
  unfold FlushLoses
  generalize ended : Option.some reason = ending at flushed
  cases flushed with
  | drained => cases ended
  | part => cases ended
  | whole n answer all =>
    have whole : w.writeBuf.pending.length ≤ n := by omega
    rw [answer, same (sending_handled w w.writeBuf.pending (.sent n) (w.eventAnswer env)),
      sentBytes_sendEvents]
    simp [Event.sentBytes, List.take_of_length_le whole]
  | nothing => cases ended
  | again answer =>
    have failed : w.eventAnswer env = false := by
      by_contra handled
      rw [Bool.not_eq_false] at handled
      rw [handled] at ended
      cases ended
    rw [answer, same (sending_handled w w.writeBuf.pending .again (w.eventAnswer env)),
      sentBytes_sendEvents]
    simp [Event.sentBytes, failed, some.symm]
  | error answer =>
    have events' : events = sendEvents w.writeBuf.pending .error true := same rfl
    rw [answer, events', sentBytes_sendEvents]
    simp [Event.sentBytes, some.symm]

/-- A flush that loses the pending bytes closes the connection. -/
theorem FlushLoses.closes (loses : FlushLoses env w) : FlushCloses env w := by
  unfold FlushLoses at loses
  unfold FlushCloses
  split at loses
  · next answer =>
    rw [answer]
    exact loses
  · next answer =>
    rw [answer]
    exact loses
  · exact loses.elim

/-- The pending bytes are sent or still pending after a flush exactly when it does not lose
them. -/
theorem flush_kept_iff (acts : CallsAct env k) (formed : w.writeBuf.WellFormed)
    (some : w.writeBuf.pending ≠ []) (run : flush env k w = (.ok (), w')) :
    PendingKept w w' ↔ ¬FlushLoses env w := by
  obtain ⟨w₁, ending, flushed, ended⟩ := flush_returned run
  obtain ⟨events, log, unended, formed₁, sent⟩ := flushed.sends formed
  cases ending with
  | none =>
    cases ended
    have open_ : ¬FlushCloses env w := fun closes => (flushed.closes_iff some).mp closes rfl
    exact iff_of_true ⟨events, log, .inr ⟨unended, sent⟩⟩ fun loses => open_ loses.closes
  | some reason =>
    obtain ⟨event, more, ends, grown⟩ := (closeConnection_begins acts formed₁ reason).ok ended
    have whole : w'.log = w.log ++ (events ++ event :: more) := by
      rw [grown, log, List.append_assoc]
    have before : (events ++ event :: more).takeWhile (fun event => !event.ends) = events := by
      rw [List.takeWhile_append_of_pos fun other inside => by rw [unended other inside]; rfl,
        List.takeWhile_cons_of_neg (by simp [ends]), List.append_nil]
    rw [flushed.loses_iff some log, not_not]
    constructor
    · rintro ⟨others, log', kept⟩
      have same : others = events ++ event :: more :=
        List.append_cancel_left (log'.symm.trans whole)
      rw [same] at kept
      rcases kept with accepted | ⟨unended', -⟩
      · rw [before] at accepted
        exact accepted
      · have absurd := unended' event (by simp)
        rw [ends] at absurd
        cases absurd
    · intro accepted
      exact ⟨_, whole, .inl (by rw [before, accepted])⟩

/-- A subscription is in the table after a flush exactly when the flush does not close the
connection. -/
theorem flush_subs_iff (connects : ConnectsEmpty k) (some : w.writeBuf.pending ≠ [])
    (run : flush env k w = (.ok (), w')) {sid : Int} (entered : ∃ sub ∈ w.subs, sub.sid = sid) :
    (∃ sub ∈ w'.subs, sub.sid = sid) ↔ ¬FlushCloses env w := by
  obtain ⟨w₁, ending, flushed, ended⟩ := flush_returned run
  rw [flushed.closes_iff some, not_not]
  cases ending with
  | none =>
    cases ended
    rw [flushed.subs]
    exact iff_of_true entered rfl
  | some reason =>
    have empty : w'.subs = [] := (closeConnection_empties connects reason).ok ended
    refine iff_of_false ?_ (Option.some_ne_none reason)
    rintro ⟨sub, inside, -⟩
    rw [empty] at inside
    cases inside

/-- Appends that start with a text leave something pending. -/
theorem appendAll_some {text : List UInt8} {rest : List (List UInt8 × Nat)}
    (formed : w.writeBuf.WellFormed) (nonempty : text ≠ [])
    (run : appendAll env (headerOf text :: rest) w = (.ok ngxOk, w')) :
    w'.writeBuf.WellFormed ∧ w'.subs = w.subs ∧ w'.writeBuf.pending ≠ [] := by
  obtain ⟨formed', subs, length⟩ := appendAll_pending formed run
  refine ⟨formed', subs, fun empty => ?_⟩
  have positive := messageSize_headerOf nonempty
  rw [empty] at length
  simp only [List.length_nil, totalSize, List.map_cons, List.sum_cons] at length
  omega

/-- A publication or a subscription that is reported as a success is one exactly when the final
flush goes through: a subscription when it does not close the connection, and the pending bytes
when it does not close it before they were sent. -/
theorem success_kept_iff (env : Env) (depth : Nat) (w : World) (formed : w.writeBuf.WellFormed) :
    (∀ subject replyto data len w',
      publish env (calls env depth) subject replyto data len w = (.ok ngxOk, w') →
      ∃ text w₁, subject = some text ∧
        PublishRun env (calls env depth) text replyto data len w w₁ w' ∧
        (PendingKept w₁ w' ↔ ¬FlushLoses env w₁)) ∧
    ∀ client subject max handleMsg data sid w',
      subscribe env (calls env depth) client subject max handleMsg data w = (.ok sid, w') →
      0 < sid → ∃ sub w₀ w₁,
        SubscribeRun env (calls env depth) client subject max handleMsg data w sub w₀ w₁ w' ∧
        sub.sid = sid ∧
        ((∃ entry ∈ w'.subs, entry.sid = sid) ∧ PendingKept w₁ w' ↔ ¬FlushCloses env w₁) := by
  have acts := calls_act env depth
  constructor
  · intro subject replyto data len w' run
    obtain ⟨text, w₁, rfl, parts⟩ := publish_split run
    refine ⟨text, w₁, rfl, parts, ?_⟩
    have frame := parts.frame
    rw [publishFrame_eq] at frame
    obtain ⟨formed₁, -, some⟩ := appendAll_some formed (pubText_nonempty text replyto len) frame
    exact flush_kept_iff acts formed₁ some parts.flushed
  · intro client subject max handleMsg data sid w' run positive
    obtain ⟨sub, w₀, w₁, parts, rfl⟩ := subscribe_split run positive
    refine ⟨sub, w₀, w₁, parts, rfl, ?_⟩
    obtain ⟨-, inside, buf, -⟩ := enterSubscription_some parts.entered
    have lines := parts.lines
    rw [subscribeLines_eq, subscribeAppends] at lines
    obtain ⟨formed₁, subs, some⟩ :=
      appendAll_some (buf ▸ formed) (by simp [subText, ascii]) lines
    have table := flush_subs_iff (calls_connect_empty env depth) some parts.flushed
      ⟨sub, subs ▸ inside, rfl⟩
    have bytes := flush_kept_iff acts formed₁ some parts.flushed
    rw [table, bytes]
    exact and_iff_left_of_imp fun open_ loses => open_ loses.closes

/-- A subscription whose flush goes through. -/
theorem success_kept_granted : ∃ sub w₀ w₁,
    SubscribeRun granting (calls granting 2) 0 (ascii "a") 0 0 0 greeted sub w₀ w₁
      (subscribe granting (calls granting 2) 0 (ascii "a") 0 0 0 greeted).2 ∧
    sub.sid = 1 ∧
    ((∃ entry ∈ (subscribe granting (calls granting 2) 0 (ascii "a") 0 0 0 greeted).2.subs,
        entry.sid = 1) ∧
      PendingKept w₁ (subscribe granting (calls granting 2) 0 (ascii "a") 0 0 0 greeted).2 ↔
        ¬FlushCloses granting w₁) :=
  (success_kept_iff granting 2 greeted (reached_formed granting 2 _ _ _)).2 0 (ascii "a") 0 0 0 1 _
    (Program.run_of_returned (by decide +kernel)) (by decide)

/-- Surroundings in which every send fails. -/
def broken : Env := { granting with send := fun _ => .error }

/-- A subscription whose flush fails: a sid is returned, and the table is empty. -/
theorem subscription_lost : ¬∀ (env : Env) (depth : Nat) (w w' : World), w.writeBuf.WellFormed →
    w.Ready → ∀ client subject max handleMsg data sid,
      subscribe env (calls env depth) client subject max handleMsg data w = (.ok sid, w') →
      0 < sid → ∃ entry ∈ w'.subs, entry.sid = sid := by
  intro claim
  have formed : greeted.writeBuf.WellFormed := reached_formed granting 2 _ _ _
  obtain ⟨entry, inside, -⟩ := claim broken 2 greeted
    (subscribe broken (calls broken 2) 0 (ascii "a") 0 0 0 greeted).2 formed greeted_ready
    0 (ascii "a") 0 0 0 1 (Program.run_of_returned (by decide +kernel)) (by decide)
  have empty : (subscribe broken (calls broken 2) 0 (ascii "a") 0 0 0 greeted).2.subs = [] := by
    decide +kernel
  rw [empty] at inside
  cases inside

end NgxNats
