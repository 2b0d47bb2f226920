import NgxNats.Verif.ActRuns

/-!
# The outgoing byte stream

The write buffer as a queue of bytes: `ngx_nats_add_message` appends to it, `ngx_nats_flush` takes
from its front what `c->send` accepts. While the connection is open nothing is lost or changed,
as long as no partly sent buffer has to grow.
-/
namespace NgxNats

open Program (Leads Moves)

/-- The bytes that an event reports as accepted by `c->send`. -/
def Event.sentBytes : Event → List UInt8
  | .send offered (.sent n) => offered.take n
  | _ => []

/-- The bytes that a log reports as accepted by `c->send`, in order. -/
def sentBytes (log : List Event) : List UInt8 := log.flatMap Event.sentBytes

/-- A call that fills or flushes the write buffer. -/
inductive QueueCall
  | add (message : List UInt8)
  | flush

/-- The sends of one connection: some of the offered bytes are taken, or none for now. -/
def Sends (env : Env) : Prop :=
  ∀ tick, (∃ n, env.send tick = .sent n) ∨ env.send tick = .again

variable (env : Env) (k : Calls)

/-- One call; the message it took over, if `ngx_nats_add_message` returned `NGX_OK`. -/
def queueCall : QueueCall → Comm (List UInt8)
  | .add message => do
    let rc ← addMessage env message message.length
    return if rc = ngxOk then message else []
  | .flush => do
    flush env k
    return []

/-- Calls one after the other. -/
def queueCalls (requests : List QueueCall) : Comm Unit :=
  Program.forEach requests fun request => do
    let _ ← queueCall env k request

/-- The messages for which `ngx_nats_add_message` returned `NGX_OK`, one after the other. -/
def accepted (w : World) : List QueueCall → List UInt8
  | [] => []
  | request :: rest =>
    match queueCall env k request w with
    | (.ok taken, w) => taken ++ accepted w rest
    | (.error _, _) => []

variable {env k} {w w' : World}

/-- An open connection. -/
theorem live_connection (live : w.live.isSome) :
    ∃ c, w.nc.connection = some c ∧ c.fdOpen = true := by
  unfold World.live at live
  cases found : w.nc.connection with
  | none =>
    rw [found] at live
    cases live
  | some c =>
    rw [found] at live
    refine ⟨c, rfl, ?_⟩
    by_contra shut
    simp [shut] at live

/-- A connection that is still there is open when its socket is. -/
theorem live_of_connection {c : Connection} (found : w.nc.connection = some c)
    (opened : c.fdOpen = true) : w.live.isSome := by
  simp [World.live, found, opened]

/-- Closing an open connection closes its socket first. -/
theorem closeConnection_shuts (acts : CallsAct env k) (formed : w.writeBuf.WellFormed)
    (live : w.live.isSome) (reason : Reason) (reconnect : Bool) :
    ∃ events, (closeConnection env k reason reconnect w).2.log = w.log ++ .shut :: events := by
  obtain ⟨c, found, opened⟩ := live_connection live
  have begins : ∃ (rest : Comm Unit) (w₁ : World),
      closeConnection env k reason reconnect w = rest w₁ ∧ w₁.log = w.log ++ [.shut] ∧
      w₁.writeBuf = w.writeBuf ∧ Moves (Acts env) rest w₁ := by
    unfold closeConnection closeSocket shutConnection
    simp only [Program.get_bind, setNc_bind, found, Program.require_some_bind, opened, ↓reduceIte,
      record_bind]
    refine ⟨_, _, rfl, rfl, rfl, ?_⟩
    apply Moves.bind (setConnection_acts _ _)
    intro _ w₂ _
    split
    · exact abandon_acts acts reason true reconnect w₂
    · split
      · apply Moves.bind (disconnectClients_acts acts w₂)
        intro _ w₃ _
        exact abandon_acts acts reason false reconnect w₃
      · exact abandon_acts acts reason false reconnect w₂
  obtain ⟨rest, w₁, run, log, writeBuf, moves⟩ := begins
  obtain ⟨events, grown⟩ := moves.grows (writeBuf ▸ formed)
  exact ⟨events, by rw [run, grown, log, List.append_assoc]; rfl⟩

/-- What a call makes of the queue: bytes go out of it at the front and into it at the end, or the
connection is closed. -/
def Streams (w : World) (taken : List UInt8) (w' : World) : Prop :=
  ∃ events, w'.log = w.log ++ events ∧ (.shut ∈ events ∨
    w'.writeBuf.WellFormed ∧ w'.live.isSome ∧
      sentBytes events ++ w'.writeBuf.pending = w.writeBuf.pending ++ taken)

/-- A call that closes an open connection. -/
theorem streams_of_close {w₁ : World} (events : List Event) (acts : CallsAct env k)
    (log : w₁.log = w.log ++ events) (formed : w₁.writeBuf.WellFormed) (live : w₁.live.isSome)
    (reason : Reason) (reconnect : Bool) :
    Streams w [] (closeConnection env k reason reconnect w₁).2 := by
  obtain ⟨more, grown⟩ := closeConnection_shuts acts formed live reason reconnect
  refine ⟨events ++ .shut :: more, ?_, .inl (by simp)⟩
  rw [grown, log, List.append_assoc]

/-- Checking the write event keeps the queue, or closes the connection. -/
theorem handleWriteEvent_streams {w₁ : World} (events : List Event) (acts : CallsAct env k)
    (log : w₁.log = w.log ++ events) (formed : w₁.writeBuf.WellFormed) (live : w₁.live.isSome)
    (same : sentBytes events ++ w₁.writeBuf.pending = w.writeBuf.pending) :
    Streams w [] ((do
      if ← handleWriteEvent env then return ()
      else closeConnection env k .internalError true : Comm Unit) w₁).2 := by
  cases handled : env.handleWriteEvent w₁.clock with
  | true =>
    have run : handleWriteEvent env w₁ = (.ok true, { w₁ with clock := w₁.clock + 1 }) := by
      simp only [handleWriteEvent, ask_bind, handled, ↓reduceIte, Program.pure_run]
    rw [Program.bind_ok run]
    exact ⟨events, log, .inr ⟨formed, live, by rw [List.append_nil]; exact same⟩⟩
  | false =>
    have run : handleWriteEvent env w₁ = (.ok false, { w₁ with
        clock := w₁.clock + 1, log := w₁.log ++ [.writeEventFailed] }) := by
      simp only [handleWriteEvent, ask_bind, handled, Bool.false_eq_true, ↓reduceIte, emit_bind,
        Program.pure_run]
    rw [Program.bind_ok run]
    have longer : w₁.log ++ [.writeEventFailed] = w.log ++ (events ++ [.writeEventFailed]) := by
      rw [log, List.append_assoc]
    refine streams_of_close (events ++ [.writeEventFailed]) acts ?_ ?_ ?_ .internalError true
    · exact longer
    · exact formed
    · exact live

/-- The state after `c->send` was called. -/
def World.sending (w : World) (offered : List UInt8) (result : SendResult) : World :=
  { w with clock := w.clock + 1, log := w.log ++ [.send offered result] }

/-- An open connection that accepts bytes. -/
theorem sendBytes_accepts {c : Connection} {n : Nat} (found : w.nc.connection = some c)
    (opened : c.fdOpen = true) (answer : env.send w.clock = .sent n) (offered : List UInt8) :
    sendBytes env offered w = (.ok (.sent (min (n + 1) offered.length)),
      w.sending offered (.sent (min (n + 1) offered.length))) := by
  unfold sendBytes
  simp only [Program.get_bind, found, Program.require_some_bind, ask_bind, opened, answer,
    not_true_eq_false, ↓reduceIte, emit_bind, Program.pure_run]
  rfl

/-- An open connection that accepts nothing for now. -/
theorem sendBytes_again {c : Connection} (found : w.nc.connection = some c)
    (opened : c.fdOpen = true) (answer : env.send w.clock = .again) (offered : List UInt8) :
    sendBytes env offered w = (.ok .again, w.sending offered .again) := by
  unfold sendBytes
  simp only [Program.get_bind, found, Program.require_some_bind, ask_bind, opened, answer,
    not_true_eq_false, ↓reduceIte, emit_bind, Program.pure_run]
  rfl

/-- The pending bytes behind those that were sent. -/
theorem pending_advance (b : Buf) (n : Nat) :
    Buf.pending { b with pos := b.pos + n } = b.pending.drop n := by
  simp only [Buf.pending, Memory.drop_read]
  congr 1
  omega

/-- `ngx_nats_flush` takes from the front of the queue what is sent. -/
theorem flush_streams (acts : CallsAct env k) (formed : w.writeBuf.WellFormed)
    (live : w.live.isSome) (sends : Sends env) : Streams w [] (flush env k w).2 := by
  obtain ⟨c, found, opened⟩ := live_connection live
  unfold flush
  simp only [Program.get_bind, Program.ite_run]
  by_cases drained : w.writeBuf.end - w.writeBuf.pos = 0
  · rw [if_pos drained]
    refine ⟨[], (List.append_nil _).symm, .inr ⟨formed.reset, live, ?_⟩⟩
    have none : w.writeBuf.pending = [] := Buf.pending_of_empty drained
    rw [none]
    exact Buf.pending_reset w.writeBuf
  · rw [if_neg drained]
    have length := w.writeBuf.length_pending
    obtain ⟨start, stop⟩ := formed.valid
    rcases sends w.clock with ⟨n, answer⟩ | answer
    · rw [Program.bind_ok (sendBytes_accepts found opened answer w.writeBuf.pending)]
      obtain ⟨w₁, checked, log, writeBuf, connection⟩ := checkConnected_keeps env
        (w.sending w.writeBuf.pending (.sent (min (n + 1) w.writeBuf.pending.length)))
      dsimp only
      rw [Program.bind_ok checked]
      have live₁ : w₁.live.isSome := live_of_connection (connection.trans found) opened
      have grown : w₁.log = w.log ++ [.send w.writeBuf.pending
          (.sent (min (n + 1) w.writeBuf.pending.length))] := log
      generalize count : min (n + 1) w.writeBuf.pending.length = m at grown
      have bound : m ≤ w.writeBuf.end - w.writeBuf.pos := by omega
      simp only [Program.ite_run, setWriteBuf_bind]
      by_cases all : w.writeBuf.pos + m = w.writeBuf.end
      · rw [if_pos all]
        refine handleWriteEvent_streams [.send w.writeBuf.pending (.sent m)] acts grown
          ⟨Buf.valid_reset _, formed.least⟩ live₁ ?_
        have whole : w.writeBuf.pending.length ≤ m := by omega
        simp [sentBytes, Event.sentBytes, List.take_of_length_le whole]
      · rw [if_neg all]
        have valid : Buf.Valid { w.writeBuf with pos := w.writeBuf.pos + m } :=
          ⟨by simp only; omega, stop⟩
        refine ⟨[.send w.writeBuf.pending (.sent m)], grown,
          .inr ⟨⟨valid, formed.least⟩, live₁, ?_⟩⟩
        change sentBytes [.send w.writeBuf.pending (.sent m)] ++
          Buf.pending { w.writeBuf with pos := w.writeBuf.pos + m } = _
        rw [pending_advance, List.append_nil]
        simp [sentBytes, Event.sentBytes]
    · rw [Program.bind_ok (sendBytes_again found opened answer w.writeBuf.pending)]
      refine handleWriteEvent_streams [.send w.writeBuf.pending .again] acts rfl formed ?_ rfl
      have timed : (w.sending w.writeBuf.pending .again).nc.connection.map
          (fun c => { c with writeTimer := some 5000 }) =
            some { c with writeTimer := some 5000 } := by
        simp only [World.sending, found, Option.map_some]
      exact live_of_connection timed opened

/-- A smooth `ngx_nats_add_message` adds the message to the queue, or nothing. -/
theorem add_streams {message : List UInt8} (formed : w.writeBuf.WellFormed)
    (live : w.live.isSome) (sized : message ≠ [])
    (smooth : w.writeBuf.Smooth (env.alloc w.clock) message.length) :
    Leads (queueCall env k (.add message)) w (Streams w) (Streams w []) := by
  have positive : 0 < message.length := List.length_pos_iff.mpr sized
  cases added : w.writeBuf.add (env.alloc w.clock) message message.length with
  | error stop =>
    have run : addMessage env message message.length w =
        (.error stop, { w with clock := w.clock + 1 }) := by
      rw [addMessage_sized env message positive, appendBytes_run, added]
    have whole : queueCall env k (.add message) w = (.error stop, _) := Program.bind_error run
    unfold Leads
    rw [whole]
    exact ⟨[], (List.append_nil _).symm, .inr ⟨formed, live, (List.append_nil _).symm⟩⟩
  | ok answer =>
    obtain ⟨rc, b⟩ := answer
    obtain ⟨answered, formed'⟩ := formed.add added
    have run : addMessage env message message.length w =
        (.ok rc, w.appended rc b message message.length) := by
      rw [addMessage_sized env message positive, appendBytes_run, added]
    have whole : queueCall env k (.add message) w =
        (.ok (if rc = ngxOk then message else []), w.appended rc b message message.length) :=
      Program.bind_ok run
    unfold Leads
    rw [whole]
    refine ⟨[appendEvent rc message message.length], rfl, .inr ⟨formed', live, ?_⟩⟩
    change sentBytes [appendEvent rc message message.length] ++ b.pending = _
    have unsent : sentBytes [appendEvent rc message message.length] = [] := by
      unfold appendEvent
      split
      · rfl
      · rfl
    rw [unsent, List.nil_append]
    rcases answered with rfl | rfl
    · rw [Buf.add_smooth formed.valid smooth added, List.take_length, if_pos rfl]
    · rw [Buf.add_refused formed.valid added, if_neg (by decide), List.append_nil]

/-- A call that is no append, or appends a message without growing a partly sent buffer. -/
def SmoothCall (env : Env) (w : World) : QueueCall → Prop
  | .add message => w.writeBuf.Smooth (env.alloc w.clock) message.length
  | .flush => True

/-- Every call of a list is smooth in the state it is made in. -/
def SmoothCalls (env : Env) (k : Calls) (requests : List QueueCall) (w : World) : Prop :=
  ∀ before request after w', requests = before ++ request :: after →
    queueCalls env k before w = (.ok (), w') → SmoothCall env w' request

/-- The first call is smooth, and so are the others after it. -/
theorem smoothCalls_cons {request : QueueCall} {rest : List QueueCall} :
    SmoothCalls env k (request :: rest) w ↔ SmoothCall env w request ∧
      ∀ taken w', queueCall env k request w = (.ok taken, w') → SmoothCalls env k rest w' := by
  constructor
  · intro smooth
    refine ⟨smooth [] request rest w rfl rfl, ?_⟩
    intro taken w' run before next after w'' split reaches
    have whole : queueCalls env k (request :: before) w = queueCalls env k before w' :=
      Program.bind_ok (Program.bind_ok run)
    exact smooth (request :: before) next after w'' (by rw [split]; rfl) (whole.trans reaches)
  · rintro ⟨here, later⟩ before next after w'' split reaches
    cases before with
    | nil =>
      cases split
      cases reaches
      exact here
    | cons first before =>
      cases split
      cases run : queueCall env k request w with
      | mk result w' =>
        cases result with
        | error stop =>
          have whole : queueCalls env k (request :: before) w = (.error stop, w') :=
            Program.bind_error (Program.bind_error run)
          rw [whole] at reaches
          cases reaches
        | ok taken =>
          have whole : queueCalls env k (request :: before) w = queueCalls env k before w' :=
            Program.bind_ok (Program.bind_ok run)
          exact later taken w' run before next after w'' rfl (whole.symm.trans reaches)

/-- No calls are smooth. -/
theorem smoothCalls_nil (w : World) : SmoothCalls env k [] w := by
  intro before request after w' split
  simp at split

/-- Calls are smooth when the first one is and the others are in the state it leaves. -/
theorem smoothCalls_step {request : QueueCall} {rest : List QueueCall}
    (here : SmoothCall env w request)
    (later : SmoothCalls env k rest (queueCall env k request w).2) :
    SmoothCalls env k (request :: rest) w := by
  apply smoothCalls_cons.mpr ⟨here, ?_⟩
  intro taken w' run
  rw [run] at later
  exact later

/-- One call. -/
theorem queueCall_streams (acts : CallsAct env k) (formed : w.writeBuf.WellFormed)
    (live : w.live.isSome) (sends : Sends env) {request : QueueCall} (sized : request ≠ .add [])
    (smooth : SmoothCall env w request) :
    Leads (queueCall env k request) w (Streams w) (Streams w []) := by
  cases request with
  | add message =>
    apply add_streams formed live
    · rintro rfl
      exact sized rfl
    · exact smooth
  | flush =>
    have flushed : Moves (fun w => Streams w []) (flush env k) w :=
      flush_streams acts formed live sends
    apply Leads.bind flushed.leads
    intro _ _ streams
    exact Leads.pure streams

/-- Calls only do what the acts allow. -/
theorem queueCall_acts (acts : CallsAct env k) (request : QueueCall) (w : World) :
    Moves (Acts env) (queueCall env k request) w := by
  cases request with
  | add message =>
    apply Moves.bind (addMessage_acts _ _ w)
    intro _ w₁ _
    exact Moves.pure _ w₁
  | flush =>
    apply Moves.bind (flush_acts acts w)
    intro _ w₁ _
    exact Moves.pure _ w₁

/-- Two pieces of a run, the second one in the state the first one left unless it closed the
connection. -/
theorem Streams.trans {w₁ w₂ : World} {first second : List UInt8} (head : Streams w first w₁)
    (grows : w₁.writeBuf.WellFormed → ∃ events, w₂.log = w₁.log ++ events)
    (formed : w₁.writeBuf.WellFormed)
    (tail : w₁.live.isSome → Streams w₁ second w₂) : Streams w (first ++ second) w₂ := by
  obtain ⟨events, log, shut | ⟨-, live, same⟩⟩ := head
  · obtain ⟨more, grown⟩ := grows formed
    refine ⟨events ++ more, ?_, .inl (List.mem_append_left _ shut)⟩
    rw [grown, log, List.append_assoc]
  · obtain ⟨more, grown, shut | ⟨formed', live', same'⟩⟩ := tail live
    · refine ⟨events ++ more, ?_, .inl (List.mem_append_right _ shut)⟩
      rw [grown, log, List.append_assoc]
    · refine ⟨events ++ more, ?_, .inr ⟨formed', live', ?_⟩⟩
      · rw [grown, log, List.append_assoc]
      · calc sentBytes (events ++ more) ++ w₂.writeBuf.pending
            = sentBytes events ++ (sentBytes more ++ w₂.writeBuf.pending) := by
              simp only [sentBytes, List.flatMap_append, List.append_assoc]
          _ = sentBytes events ++ w₁.writeBuf.pending ++ second := by
              rw [same', List.append_assoc]
          _ = w.writeBuf.pending ++ (first ++ second) := by rw [same, List.append_assoc]

/-- A list of smooth calls. -/
theorem queueCalls_streams (acts : CallsAct env k) (sends : Sends env)
    {requests : List QueueCall} (sized : .add [] ∉ requests) {w : World}
    (formed : w.writeBuf.WellFormed) (live : w.live.isSome)
    (smooth : SmoothCalls env k requests w) :
    Streams w (accepted env k w requests) (queueCalls env k requests w).2 := by
  induction requests generalizing w with
  | nil => exact ⟨[], (List.append_nil _).symm, .inr ⟨formed, live, (List.append_nil _).symm⟩⟩
  | cons request rest ih =>
    obtain ⟨here, later⟩ := smoothCalls_cons.mp smooth
    have first := queueCall_streams acts formed live sends
      (fun empty => sized (empty ▸ List.mem_cons_self)) here
    have moves := queueCall_acts acts request w
    unfold accepted
    cases run : queueCall env k request w with
    | mk result w₁ =>
      cases result with
      | error stop =>
        have whole : queueCalls env k (request :: rest) w = (.error stop, w₁) :=
          Program.bind_error (Program.bind_error run)
        rw [whole]
        exact first.error run
      | ok taken =>
        have whole : queueCalls env k (request :: rest) w = queueCalls env k rest w₁ :=
          Program.bind_ok (Program.bind_ok run)
        have formed₁ : w₁.writeBuf.WellFormed := (moves.of_run run formed).1
        have rest_acts : Moves (Acts env) (queueCalls env k rest) w₁ := by
          apply Moves.forEach
          intro request _ w₂
          apply Moves.bind (queueCall_acts acts request w₂)
          intro _ w₃ _
          exact Moves.pure _ w₃
        rw [whole]
        apply (first.ok run).trans rest_acts.grows formed₁
        intro live₁
        exact ih (fun empty => sized (List.mem_cons_of_mem _ empty)) formed₁ live₁
          (later taken w₁ run)

/-- Outgoing byte stream integrity. From an empty write buffer of an open connection, as long
as the connection is not closed: what `c->send` accepted and what is pending are together the
messages that `ngx_nats_add_message` took over, if no partly sent buffer has to grow. -/
theorem stream_intact (env : Env) (depth : Nat) (w : World) (memory : Memory UInt8)
    (fresh : w.writeBuf = .create bufInitSize memory) (live : w.live.isSome) (sends : Sends env)
    (requests : List QueueCall) (sized : .add [] ∉ requests)
    (smooth : SmoothCalls env (calls env depth) requests w) :
    ∃ events, (queueCalls env (calls env depth) requests w).2.log = w.log ++ events ∧
      (.shut ∉ events → sentBytes events ++
        (queueCalls env (calls env depth) requests w).2.writeBuf.pending =
          accepted env (calls env depth) w requests) := by
  have formed : w.writeBuf.WellFormed := by
    rw [fresh]
    exact ⟨⟨Nat.le_refl 0, Nat.zero_le _⟩, Nat.le_refl _⟩
  have empty : w.writeBuf.pending = [] := by
    rw [fresh]
    rfl
  obtain ⟨events, log, streams⟩ :=
    queueCalls_streams (calls_act env depth) sends sized formed live smooth
  refine ⟨events, log, ?_⟩
  intro opened
  rcases streams with shut | ⟨-, -, same⟩
  · exact (opened shut).elim
  · rw [same, empty, List.nil_append]

/-- Surroundings whose sends take all but one of 4096 bytes, or nothing for now. -/
def dribbling : Env :=
  { granting with
    connectPeer := fun _ => .again
    send := fun tick => if tick % 2 = 0 then .again else .sent 4094 }

/-- The answers of the trickling socket are sends. -/
theorem dribbling_sends : Sends dribbling := by
  intro tick
  by_cases even : tick % 2 = 0
  · exact .inr (if_pos even)
  · exact .inl ⟨4094, if_neg even⟩

/-- The state while the first connection is being made. -/
def connecting : World := reached dribbling 1 [.init] (fun _ => 0) fun _ => 0

/-- Two messages with a flush between them and another at the end. -/
theorem stream_intact_dribbling : ∃ events,
    (queueCalls dribbling (calls dribbling 1) [.add [1, 2], .flush, .add [3], .flush]
      connecting).2.log = connecting.log ++ events ∧ (.shut ∉ events → sentBytes events ++
        (queueCalls dribbling (calls dribbling 1) [.add [1, 2], .flush, .add [3], .flush]
          connecting).2.writeBuf.pending =
            accepted dribbling (calls dribbling 1) connecting
              [.add [1, 2], .flush, .add [3], .flush]) := by
  apply stream_intact dribbling 1 connecting (fun _ => 0) rfl (by decide +kernel) dribbling_sends
  · intro empty
    simp at empty
  · refine smoothCalls_step (Or.inl (by decide +kernel)) ?_
    refine smoothCalls_step True.intro ?_
    refine smoothCalls_step (Or.inl (by decide +kernel)) ?_
    refine smoothCalls_step True.intro ?_
    exact smoothCalls_nil _

/-- Two messages that each fill the initial write buffer, with a flush between them. -/
def filling : List QueueCall := [.add (.replicate 4096 1), .flush, .add (.replicate 4096 2)]

/-- The second message makes a partly sent buffer grow: the byte that was left of the first one is
replaced by a byte of the new block. -/
theorem stream_garbled : Sends dribbling ∧ connecting.live.isSome ∧
    connecting.writeBuf.end = 0 ∧ connecting.writeBuf.cap = bufInitSize ∧
    .shut ∉ (queueCalls dribbling (calls dribbling 1) filling connecting).2.log ∧
    sentBytes connecting.log = [] ∧
    sentBytes (queueCalls dribbling (calls dribbling 1) filling connecting).2.log ++
        (queueCalls dribbling (calls dribbling 1) filling connecting).2.writeBuf.pending ≠
      accepted dribbling (calls dribbling 1) connecting filling := by
  refine ⟨dribbling_sends, by decide +kernel, by decide +kernel, by decide +kernel,
    by decide +kernel, by decide +kernel, ?_⟩
  intro same
  have left : (accepted dribbling (calls dribbling 1) connecting filling)[4095]? = some 1 := by
    decide +kernel
  rw [← same] at left
  have replaced : (sentBytes (queueCalls dribbling (calls dribbling 1) filling connecting).2.log ++
      (queueCalls dribbling (calls dribbling 1) filling connecting).2.writeBuf.pending)[4095]? =
        some 0 := by
    decide +kernel
  rw [left] at replaced
  exact absurd replaced (by decide)

end NgxNats
