import NgxNats.Verif.Flushing

/-!
# Conditions of the connection

What the module does to the connection and the write buffer is a short list of changes. A
condition that survives each of them holds wherever a call of the module returns. Everything else
a call does is aside: it changes neither the connection nor the buffers.
-/
namespace NgxNats

open Program (Leads Moves)

/-- Events that report nothing of the connection, its bytes or the messages on it. -/
def Event.idle : Event → Bool
  | .unallocated | .opened | .shut | .closed _ | .initiated | .queued _ | .refused _ | .send ..
  | .ready .. | .recv .. | .received _ | .scanned .. | .rejected _ | .handled _
  | .pingExpired .. => false
  | _ => true

/-- A change of neither the connection nor the buffers. -/
structure Aside (w w' : World) : Prop where
  attached : w'.attached = w.attached
  nc : w'.nc = w.nc
  readBuf : w'.readBuf = w.readBuf
  writeBuf : w'.writeBuf = w.writeBuf
  log : ∃ events, w'.log = w.log ++ events ∧ ∀ event ∈ events, event.idle = true

variable {env : Env} {k : Calls} {w w' : World}

/-- A change aside that reports nothing. -/
theorem Aside.silent (attached : w'.attached = w.attached) (nc : w'.nc = w.nc)
    (readBuf : w'.readBuf = w.readBuf) (writeBuf : w'.writeBuf = w.writeBuf)
    (log : w'.log = w.log) : Aside w w' :=
  ⟨attached, nc, readBuf, writeBuf, [], by rw [log, List.append_nil], List.forall_mem_nil _⟩

/-- A change aside that reports one event. -/
theorem Aside.noted {event : Event} (attached : w'.attached = w.attached) (nc : w'.nc = w.nc)
    (readBuf : w'.readBuf = w.readBuf) (writeBuf : w'.writeBuf = w.writeBuf)
    (log : w'.log = w.log ++ [event]) (idle : event.idle = true) : Aside w w' :=
  ⟨attached, nc, readBuf, writeBuf, [event], log,
    fun _ inside => List.mem_singleton.mp inside ▸ idle⟩

/-- Where nothing happens nothing of the connection changes. -/
instance : Std.Refl Aside where
  refl _ := Aside.silent rfl rfl rfl rfl rfl

/-- Two changes aside make one. -/
instance : IsTrans World Aside where
  trans w w₁ w₂ first second := by
    obtain ⟨events, log, idle⟩ := first.log
    obtain ⟨events', log', idle'⟩ := second.log
    refine ⟨second.attached.trans first.attached, second.nc.trans first.nc,
      second.readBuf.trans first.readBuf, second.writeBuf.trans first.writeBuf,
      events ++ events', ?_, ?_⟩
    · rw [log', log, List.append_assoc]
    · intro event inside
      rcases List.mem_append.mp inside with early | late
      · exact idle event early
      · exact idle' event late

/-- Events that report no handing over of a message either. -/
def Event.beside : Event → Bool
  | .msg .. | .delivered .. => false
  | event => event.idle

/-- A change aside that hands no message over. -/
structure Beside (w w' : World) : Prop where
  attached : w'.attached = w.attached
  nc : w'.nc = w.nc
  readBuf : w'.readBuf = w.readBuf
  writeBuf : w'.writeBuf = w.writeBuf
  log : ∃ events, w'.log = w.log ++ events ∧ ∀ event ∈ events, event.beside = true

/-- An event that is beside the messages is idle. -/
theorem idle_of_beside {event : Event} (beside : event.beside = true) : event.idle = true := by
  cases event with
  | msg => cases beside
  | delivered => cases beside
  | _ => exact beside

/-- A change that hands no message over is a change aside. -/
theorem Beside.aside (beside : Beside w w') : Aside w w' := by
  obtain ⟨events, log, besides⟩ := beside.log
  exact ⟨beside.attached, beside.nc, beside.readBuf, beside.writeBuf, events, log,
    fun event inside => idle_of_beside (besides event inside)⟩

/-- A change beside that reports nothing. -/
theorem Beside.silent (attached : w'.attached = w.attached) (nc : w'.nc = w.nc)
    (readBuf : w'.readBuf = w.readBuf) (writeBuf : w'.writeBuf = w.writeBuf)
    (log : w'.log = w.log) : Beside w w' :=
  ⟨attached, nc, readBuf, writeBuf, [], by rw [log, List.append_nil], List.forall_mem_nil _⟩

/-- A change beside that reports one event. -/
theorem Beside.noted {event : Event} (attached : w'.attached = w.attached) (nc : w'.nc = w.nc)
    (readBuf : w'.readBuf = w.readBuf) (writeBuf : w'.writeBuf = w.writeBuf)
    (log : w'.log = w.log ++ [event]) (beside : event.beside = true) : Beside w w' :=
  ⟨attached, nc, readBuf, writeBuf, [event], log,
    fun _ inside => List.mem_singleton.mp inside ▸ beside⟩

/-- Where nothing happens no message is handed over. -/
instance : Std.Refl Beside where
  refl _ := Beside.silent rfl rfl rfl rfl rfl

/-- Two changes that hand no message over make one. -/
instance : IsTrans World Beside where
  trans w w₁ w₂ first second := by
    obtain ⟨events, log, besides⟩ := first.log
    obtain ⟨events', log', besides'⟩ := second.log
    refine ⟨second.attached.trans first.attached, second.nc.trans first.nc,
      second.readBuf.trans first.readBuf, second.writeBuf.trans first.writeBuf,
      events ++ events', ?_, ?_⟩
    · rw [log', log, List.append_assoc]
    · intro event inside
      rcases List.mem_append.mp inside with early | late
      · exact besides event early
      · exact besides' event late

/-- A question to the environment hands no message over. -/
theorem ask_beside {α : Type} (answer : Nat → α) (w : World) : Moves Beside (ask answer) w :=
  Beside.silent rfl rfl rfl rfl rfl

/-- A question to the environment is a change aside. -/
theorem ask_aside {α : Type} (answer : Nat → α) (w : World) : Moves Aside (ask answer) w :=
  Aside.silent rfl rfl rfl rfl rfl

/-- An event beside the messages may be noted. -/
theorem emit_beside {event : Event} (beside : event.beside = true) (w : World) :
    Moves Beside (emit event) w := Beside.noted rfl rfl rfl rfl rfl beside

/-- A pure computation hands no message over, whether it returns or crashes. -/
theorem lift_beside {α : Type} (result : Except Fault α) (w : World) :
    Moves Beside (lift result) w := by
  cases result with
  | ok value => exact Moves.pure value w
  | error stop => exact Moves.fault stop w

/-- Numbering and entering a subscription touches neither the connection nor the buffers. -/
theorem enterSubscription_beside (client : Nat) (max : Int) (handleMsg data : Nat) (w : World) :
    Moves Beside (enterSubscription env client max handleMsg data) w := by
  apply Moves.bind (ask_beside _ w)
  intro granted w₁ _
  apply Moves.get
  dsimp only
  split
  · have noted : Moves Beside (record (.unplaced (Word.signed (w₁.nextId + 1))) fun w =>
        { w with nextId := Word.signed (w₁.nextId + 1) }) w₁ :=
      Beside.noted rfl rfl rfl rfl rfl rfl
    apply Moves.bind noted
    intro _ w₂ _
    exact Moves.pure _ w₂
  · next subs entered =>
    have noted : Moves Beside (record (.subscribed
          ⟨client, handleMsg, data, Word.signed (w₁.nextId + 1), max, 0⟩) fun w =>
        { w with nextId := Word.signed (w₁.nextId + 1), subs := subs }) w₁ :=
      Beside.noted rfl rfl rfl rfl rfl rfl
    apply Moves.bind noted
    intro _ w₂ _
    exact Moves.pure _ w₂

/-- Dropping a subscription touches neither the connection nor the buffers. -/
theorem dropSubscription_beside (sid : Int) (w : World) :
    Moves Beside (dropSubscription sid) w := by
  apply Moves.get
  dsimp only
  split
  · exact Moves.pure _ w
  · have noted : Moves Beside (record (.unsubscribed sid) fun w' =>
        { w' with subs := (removeSubscription w.subs sid).1 }) w :=
      Beside.noted rfl rfl rfl rfl rfl rfl
    apply Moves.bind noted
    intro _ w₁ _
    exact Moves.pure _ w₁

/-- Counting a frame touches neither the connection nor the buffers. -/
theorem countMsg_aside (sid : Int) (w : World) : Moves Aside (countMsg sid) w := by
  cases found : getSubscription w.subs sid with
  | none =>
    unfold Moves
    rw [countMsg_unknown found]
    exact Aside.noted rfl rfl rfl rfl rfl rfl
  | some i =>
    cases entry : w.subs[i]? with
    | none =>
      have stops : countMsg sid w = (.error .badAccess, w) := by
        unfold countMsg
        simp only [Program.get_bind, found, entry, Program.fault_run]
      unfold Moves
      rw [stops]
      exact Std.Refl.refl w
    | some sub =>
      unfold Moves
      rw [countMsg_found found entry]
      exact Aside.noted rfl rfl rfl rfl rfl rfl

/-- The choice of the next server touches neither the connection nor the buffers. -/
theorem nextServer_beside (w : World) : Moves Beside (nextServer env) w := by
  apply Moves.get
  split
  · apply Moves.bind (Moves.modify (Beside.silent rfl rfl rfl rfl rfl))
    exact fun _ w₁ _ => Moves.pure _ w₁
  · apply Moves.bind (Moves.modify (Beside.silent rfl rfl rfl rfl rfl))
    exact fun _ w₁ _ => Moves.pure _ w₁

/-- Arming the reconnect timer touches neither the connection nor the buffers. -/
theorem addReconnectTimer_beside (w : World) : Moves Beside (addReconnectTimer env) w := by
  apply Moves.get
  split
  · exact Beside.noted rfl rfl rfl rfl rfl rfl
  · exact Moves.pure () w

/-- The state after the buffers were emptied for a new connection structure. -/
def World.emptied (w : World) : World :=
  { w with clock := w.clock + 1, readBuf := w.readBuf.reset, writeBuf := w.writeBuf.reset }

/-- The state after a new connection structure was opened. -/
def World.reopened (w : World) (server : Nat) : World :=
  { w.emptied with attached := true, nc := { server := server }, log := w.log ++ [.opened] }

/-- The state after the connection became READY. -/
def World.readied (w : World) : World := { w with
  nc := { w.nc with state := stateReady }
  log := w.log ++ [.ready w.nc.state w.nc.srvVersion] }

/-- An open connection depends on the connection structure only. -/
theorem live_of_nc (same : w'.nc = w.nc) : w'.live = w.live := by
  unfold World.live
  rw [same]

/-- Sending accepted bytes keeps the buffer well-formed. -/
theorem Buf.WellFormed.sent {b : Buf} {n : Nat} (formed : b.WellFormed)
    (fits : n ≤ b.pending.length) : (b.sent n).WellFormed := by
  obtain ⟨start, stop⟩ := formed.valid
  rw [Buf.length_pending] at fits
  have moved : Buf.WellFormed { b with pos := b.pos + n } :=
    ⟨⟨by simp only; omega, stop⟩, formed.least⟩
  unfold Buf.sent
  split
  · exact moved.reset
  · exact moved

/-- A flush keeps the write buffer well-formed. -/
theorem Flushed.formed {ending : Option Reason} (flushed : Flushed env w w' ending)
    (formed : w.writeBuf.WellFormed) : w'.writeBuf.WellFormed := by
  cases flushed with
  | drained => exact formed.reset
  | part n answer => exact formed.sent (sendAnswer_bound answer).1
  | whole n answer => exact formed.sent (sendAnswer_bound answer).1
  | nothing => exact formed
  | again => exact formed
  | error => exact formed

/-- Events of sending. -/
def Event.sends : Event → Bool
  | .send .. | .writeEventFailed => true
  | _ => false

/-- A flush reports what it sent. -/
theorem Flushed.log {ending : Option Reason} (flushed : Flushed env w w' ending) :
    ∃ events, w'.log = w.log ++ events ∧ ∀ event ∈ events, event.sends = true := by
  have handled (answer : Bool) : ∀ event ∈ (if answer then [] else [Event.writeEventFailed]),
      event.sends = true := by
    cases answer with
    | true => exact List.forall_mem_nil _
    | false => simp [Event.sends]
  cases flushed with
  | drained => exact ⟨[], (List.append_nil _).symm, List.forall_mem_nil _⟩
  | part n => exact ⟨_, rfl, by simp [Event.sends]⟩
  | whole n =>
    refine ⟨_, List.append_assoc _ _ _, ?_⟩
    rw [List.forall_mem_append]
    exact ⟨by simp [Event.sends], handled _⟩
  | nothing => exact ⟨_, rfl, by simp [Event.sends]⟩
  | again =>
    refine ⟨_, List.append_assoc _ _ _, ?_⟩
    rw [List.forall_mem_append]
    exact ⟨by simp [Event.sends], handled _⟩
  | error => exact ⟨_, rfl, by simp [Event.sends]⟩

/-- A flush leaves the read buffer alone. -/
theorem Flushed.readBuf {ending : Option Reason} (flushed : Flushed env w w' ending) :
    w'.readBuf = w.readBuf := by
  cases flushed with
  | drained => rfl
  | part n => rfl
  | whole n => rfl
  | nothing => rfl
  | again => rfl
  | error => rfl

/-- An append leads where its answer does. -/
theorem appendBytes_leads {post : Int → World → Prop} {crash : World → Prop} {message : List UInt8}
    {size : Nat} (answered : ∀ rc b,
      w.writeBuf.add (env.alloc w.clock) message size = .ok (rc, b) →
        post rc (w.appended rc b message size))
    (stopped : crash { w with clock := w.clock + 1 }) :
    Leads (appendBytes env message size) w post crash := by
  unfold Leads
  rw [appendBytes_run]
  cases added : w.writeBuf.add (env.alloc w.clock) message size with
  | error stop => exact stopped
  | ok answer => exact answered _ _ added

/-- A connection on which clients may queue bytes. -/
structure World.Serves (w : World) : Prop where
  attached : w.attached = true
  state : w.nc.state = stateReady

/-- A connection that serves goes on serving when nothing happens to it. -/
theorem World.Serves.beside (serves : w.Serves) (beside : Beside w w') : w'.Serves :=
  ⟨beside.attached.trans serves.attached, by rw [beside.nc, serves.state]⟩

/-- The message that `ngx_nats_process_msg` hands to the handler of a subscription. -/
def messageOf (sub : Subscription) (msg : ServerMsg) : Message where
  client := sub.client
  sid := msg.sid
  subject := msg.subject
  replyto := if 0 < msg.replyto.length then some msg.replyto else none
  data := msg.body
  clientSubscriptionData := sub.clientSubscriptionData

/-- The part of `ngx_nats_process_msg` before the handler is called, and the call. -/
def handOver (env : Env) (msg : ServerMsg) : Comm (Option Callback) := do
  match ← countMsg msg.sid with
  | none => return none
  | some sub =>
    if ¬(← ask env.createPool) then return none
    else if ¬(← ask env.pcalloc) then return none
    else
      emit (.delivered sub sub.handleMsg (messageOf sub msg))
      return some (.message sub.handleMsg (messageOf sub msg))

/-- `ngx_nats_process_msg` hands the message over and calls the handler. -/
theorem processMsg_eq (env : Env) (k : Calls) (msg : ServerMsg) : processMsg env k msg = (do
    match ← handOver env msg with
    | none => return ()
    | some call => k.callback call) := by
  funext w
  unfold processMsg handOver
  rw [Program.bind_run, Program.bind_run, Program.bind_run]
  cases countMsg msg.sid w with
  | mk found w₁ =>
    cases found with
    | error stop => rfl
    | ok entry =>
      cases entry with
      | none => rfl
      | some sub =>
        simp only [ask_bind, Program.ite_run]
        split
        · rfl
        · split
          · rfl
          · rfl

namespace Whole

/-- A condition outlives what clients do to the write buffer, one whole command after the other.
Once the connection was closed, another one holds that implies it. -/
structure Outlives (env : Env) (allowed : ApiCall → Prop) (holds gone crash : World → Prop) :
    Prop where
  formed : ∀ {w}, holds w → w.writeBuf.WellFormed
  faults : ∀ {w}, holds w → crash w
  beside : ∀ {w w'}, holds w → Beside w w' → holds w'
  scripts : ∀ tick call, ∀ request ∈ env.script tick call, allowed request
  published : ∀ {w} subject replyto data len, holds w → w.Serves →
    allowed (.publish (some subject) replyto data len) → admits subject replyto = true →
    Leads (publishFrame env (snprintf headerSize (pubText subject replyto len)) data len) w
      (fun _ => holds) crash
  subscribed : ∀ {w} client subject sid max handleMsg data, holds w → w.Serves →
    allowed (.subscribe client subject max handleMsg data) →
    Leads (subscribeLines env subject sid max) w (fun _ => holds) crash
  unsubscribed : ∀ {w} sid, holds w → w.Serves →
    Leads (addHeader env (unsubText sid)) w (fun _ => holds) crash
  flushed : ∀ {w w' ending}, holds w → Flushed env w w' ending → holds w'
  dangling : ∀ {w}, holds w → w.nc.connection = none →
    crash { w with nc := { w.nc with pingTimer := none } }
  shut : ∀ {w c}, holds w → w.nc.connection = some c → holds w.shutDown
  abandoned : ∀ {w} reason, holds w → gone (w.abandoned reason)
  waits : ∀ {w w'}, gone w → Beside w w' → gone w'
  back : ∀ {w}, gone w → holds w

/-- A condition outlives what the server's messages do as well. -/
structure Listens (env : Env) (allowed : ApiCall → Prop) (holds gone crash : World → Prop) : Prop
    extends toWhole : Whole.Outlives env allowed holds gone crash where
  informed : ∀ {w} nc, holds w → nc.connection = w.nc.connection →
    nc.pingTimer = w.nc.pingTimer → nc.state = w.nc.state → holds { w with nc := nc }
  reply : ∀ {w} before msg rc b, holds w → msg.type = .ping → w.log = before ++ [.handled msg] →
    w.writeBuf.add (env.alloc w.clock) (ascii "PONG\r\n") 6 = .ok (rc, b) →
    holds (w.appended rc b (ascii "PONG\r\n") 6)
  ready : ∀ {w} before msg, holds w → msg.type = .pong → w.log = before ++ [.handled msg] →
    w.nc.state.connectOkayed = false → holds w.readied

/-- A condition survives whatever clients, closing and connecting do to the connection and the write
buffer. -/
structure Survives (env : Env) (allowed : ApiCall → Prop) (holds crash : World → Prop) : Prop
    extends toWhole : Whole.Outlives env allowed holds holds crash where
  waits := beside
  back := id
  initiate : ∀ {w} rc b, holds w → w.nc.state.connectSent = false →
    w.writeBuf.add (env.alloc w.clock) (connstr env) (connstr env).length = .ok (rc, b) →
    holds (w.initiated b (appendEvent rc (connstr env) (connstr env).length))
  unallocated : ∀ {w}, holds w → holds { w.emptied with log := w.log ++ [.unallocated] }
  unindexed : ∀ {w}, holds w → crash w.emptied
  opened : ∀ {w} server, holds w → holds (w.reopened server)
  wired : ∀ {w} server c, holds w → w.nc = { server := server } → c.fdOpen = true →
    holds (w.wired c)

end Whole

/-- Reconnecting keeps what holds of a closed connection, and the clients' callbacks keep what holds
of an open one. -/
structure CallsOutlive (k : Calls) (holds gone crash : World → Prop) : Prop where
  connect : ∀ {w}, gone w → Leads k.connect w (fun _ => gone) crash
  callback : ∀ {w} call, holds w → Leads (k.callback call) w (fun _ => holds) crash

/-- Reconnecting and the clients' callbacks keep a condition. -/
abbrev CallsSurvive (k : Calls) (holds crash : World → Prop) : Prop :=
  CallsOutlive k holds holds crash

/-- A message that was handed over, and the call of its handler. -/
theorem CallsOutlive.processMsg {holds gone crash : World → Prop}
    (calls : CallsOutlive k holds gone crash) (msg : ServerMsg)
    (handed : Leads (handOver env msg) w (fun _ => holds) crash) :
    Leads (processMsg env k msg) w (fun _ => holds) crash := by
  rw [processMsg_eq]
  apply Leads.bind handed
  intro found w₁ holds₁
  cases found with
  | none => exact Leads.pure holds₁
  | some call => exact calls.callback call holds₁

namespace Whole.Outlives

variable {allowed : ApiCall → Prop} {holds gone crash : World → Prop}

/-- A part of the module that is aside. -/
theorem leads {α : Type} {program : Comm α} (outlives : Outlives env allowed holds gone crash)
    (before : holds w) (moves : Moves Beside program w) :
    Leads program w (fun _ w' => holds w' ∧ Beside w w') crash :=
  moves.leads.weaken (fun _ _ aside => ⟨outlives.beside before aside, aside⟩)
    fun _ aside => outlives.faults (outlives.beside before aside)

/-- Once a connection is given up, what holds of a closed one holds, also where it reconnects. -/
theorem abandon (outlives : Outlives env allowed holds gone crash)
    (calls : CallsOutlive k holds gone crash)
    (before : holds w) (reason : Reason) (immediate : Bool) :
    Leads (abandon env k reason immediate true) w (fun _ => gone) crash := by
  have closed := outlives.abandoned reason before
  apply abandon_through
  · exact calls.connect (outlives.waits closed (Beside.silent rfl rfl rfl rfl rfl))
  · exact (addReconnectTimer_beside (w.abandoned reason)).leads.weaken
      (fun _ _ aside => outlives.waits closed aside)
      fun _ aside => outlives.faults (outlives.back (outlives.waits closed aside))

/-- A closed connection is gone. -/
theorem closeConnection (outlives : Outlives env allowed holds gone crash)
    (calls : CallsOutlive k holds gone crash) (before : holds w) (reason : Reason) :
    Leads (closeConnection env k reason true) w (fun _ => gone) crash := by
  cases found : w.nc.connection with
  | none =>
    unfold Leads
    rw [closeConnection_missing found]
    exact outlives.dangling before found
  | some c =>
    apply closeConnection_through holds (fun missing => outlives.dangling before missing)
      (outlives.shut before found)
    · intro i w₁ holds₁
      apply Leads.bind (outlives.leads holds₁ (emit_beside rfl w₁))
      intro _ w₂ kept
      exact calls.callback _ kept.1
    · exact fun immediate w₁ holds₁ => outlives.abandon calls holds₁ reason immediate

/-- A flush keeps the condition, also where it closes the connection. -/
theorem flush (outlives : Outlives env allowed holds gone crash)
    (calls : CallsOutlive k holds gone crash)
    (before : holds w) : Leads (flush env k) w (fun _ => holds) crash := by
  by_cases attempt : w.writeBuf.end - w.writeBuf.pos ≠ 0 → w.nc.connection ≠ none
  · obtain ⟨w₁, ending, flushed, run⟩ := flush_cases env k attempt
    apply Leads.of_run run
    have holds₁ := outlives.flushed before flushed
    cases ending with
    | none => exact Leads.pure holds₁
    | some reason =>
      exact (outlives.closeConnection calls holds₁ reason).weaken (fun _ _ => outlives.back)
        fun _ => id
  · simp only [not_forall, not_not] at attempt
    obtain ⟨pending, missing⟩ := attempt
    have stops : NgxNats.flush env k w = (.error .badAccess, w) := by
      unfold NgxNats.flush sendBytes
      simp only [Program.get_bind, Program.ite_run, if_neg pending]
      apply Program.bind_error
      simp only [Program.get_bind, missing]
      rfl
    unfold Leads
    rw [stops]
    exact outlives.faults before

/-- A client function that ends in a flush. -/
theorem flushReturn (outlives : Outlives env allowed holds gone crash)
    (calls : CallsOutlive k holds gone crash) (before : holds w) (rc : Int) :
    Leads (do
      NgxNats.flush env k
      return rc) w (fun _ => holds) crash := by
  apply Leads.bind (outlives.flush calls before)
  intro _ w₁ holds₁
  exact Leads.pure holds₁

/-- Publishing keeps the condition. -/
theorem publish (outlives : Outlives env allowed holds gone crash)
    (calls : CallsOutlive k holds gone crash)
    (before : holds w) (subject replyto : Option (List UInt8)) (data : List UInt8) (len : Nat)
    (ask : allowed (.publish subject replyto data len)) :
    Leads (publish env k subject replyto data len) w (fun _ => holds) crash := by
  apply Leads.get
  split
  · exact Leads.pure before
  · split
    · exact Leads.pure before
    · next attached =>
      split
      · exact Leads.pure before
      · next ready =>
        have serves : w.Serves := ⟨not_not.mp attached, not_not.mp ready⟩
        cases subject with
        | none => exact Leads.pure before
        | some subject =>
          dsimp only
          split
          · exact Leads.pure before
          · next admitted =>
            have fits : admits subject replyto = true := not_not.mp admitted
            apply Leads.bind (outlives.published subject replyto data len before serves ask fits)
            intro rc w₁ holds₁
            split
            · exact Leads.pure holds₁
            · exact outlives.flushReturn calls holds₁ _

/-- Subscribing keeps the condition. -/
theorem subscribe (outlives : Outlives env allowed holds gone crash)
    (calls : CallsOutlive k holds gone crash)
    (before : holds w) (client : Nat) (subject : List UInt8) (max : Int) (handleMsg data : Nat)
    (ask : allowed (.subscribe client subject max handleMsg data)) :
    Leads (subscribe env k client subject max handleMsg data) w (fun _ => holds) crash := by
  apply Leads.get
  split
  · exact Leads.pure before
  · split
    · exact Leads.pure before
    · next attached =>
      split
      · exact Leads.pure before
      · next ready =>
        have serves : w.Serves := ⟨not_not.mp attached, not_not.mp ready⟩
        apply Leads.bind (outlives.leads before (enterSubscription_beside _ _ _ _ w))
        rintro entered w₁ ⟨holds₁, aside⟩
        cases entered with
        | none => exact Leads.pure holds₁
        | some sub =>
          apply Leads.bind (outlives.subscribed client subject sub.sid max handleMsg data holds₁
            (serves.beside aside) ask)
          intro rc w₂ holds₂
          split
          · apply Leads.bind (outlives.leads holds₂ (emit_beside rfl w₂))
            rintro _ w₃ ⟨holds₃, -⟩
            exact Leads.pure holds₃
          · exact outlives.flushReturn calls holds₂ _

/-- Unsubscribing keeps the condition. -/
theorem unsubscribe (outlives : Outlives env allowed holds gone crash)
    (calls : CallsOutlive k holds gone crash)
    (before : holds w) (sid : Int) :
    Leads (unsubscribe env k sid) w (fun _ => holds) crash := by
  unfold NgxNats.unsubscribe
  split
  · exact Leads.pure before
  · apply Leads.get
    split
    · exact Leads.pure before
    · split
      · exact Leads.pure before
      · next attached =>
        split
        · exact Leads.pure before
        · next ready =>
          have serves : w.Serves := ⟨not_not.mp attached, not_not.mp ready⟩
          apply Leads.bind (outlives.leads before (dropSubscription_beside sid w))
          rintro removed w₁ ⟨holds₁, aside⟩
          split
          · exact Leads.pure holds₁
          · apply Leads.bind (outlives.unsubscribed sid holds₁ (serves.beside aside))
            intro rc w₂ holds₂
            split
            · exact Leads.pure holds₂
            · exact outlives.flushReturn calls holds₂ _

/-- Telling a client. -/
theorem tell (outlives : Outlives env allowed holds gone crash)
    (calls : CallsOutlive k holds gone crash)
    (before : holds w) {event : Event} (idle : event.beside = true) (call : Callback) :
    Leads (do
      emit event
      k.callback call) w (fun _ => holds) crash := by
  apply Leads.bind (outlives.leads before (emit_beside idle w))
  rintro _ w₁ ⟨holds₁, -⟩
  exact calls.callback call holds₁

/-- Registering a client, who is told on a READY connection, keeps the condition. -/
theorem addClient (outlives : Outlives env allowed holds gone crash)
    (calls : CallsOutlive k holds gone crash)
    (before : holds w) (client : Client) :
    Leads (addClient env k client) w (fun _ => holds) crash := by
  apply Leads.get
  split
  · exact Leads.pure before
  · apply Leads.bind (outlives.leads before (ask_beside _ w))
    rintro granted w₁ ⟨holds₁, -⟩
    split
    · exact Leads.pure holds₁
    · have registers : Moves Beside (record .registered fun w =>
          { w with clients := w.clients ++ [client] }) w₁ := Beside.noted rfl rfl rfl rfl rfl rfl
      apply Leads.bind (outlives.leads holds₁ registers)
      rintro _ w₂ ⟨holds₂, -⟩
      split
      · exact Leads.pure holds₂
      · split
        · exact Leads.pure holds₂
        · change Leads ((do
            emit (.connected w.clients.length)
            k.callback (.connected w.clients.length)) >>= fun _ => pure ngxOk) _ _ _
          apply Leads.bind (outlives.tell calls holds₂ rfl _)
          intro _ w₃ holds₃
          exact Leads.pure holds₃

/-- Every call that is allowed keeps the condition. -/
theorem apiCall (outlives : Outlives env allowed holds gone crash)
    (calls : CallsOutlive k holds gone crash)
    (before : holds w) (call : ApiCall) (ask : allowed call) :
    Leads (apiCall env k call) w (fun _ => holds) crash := by
  apply Leads.get
  apply Leads.bind (outlives.leads before (emit_beside rfl w))
  rintro _ w₁ ⟨holds₁, -⟩
  cases call with
  | addClient client => exact outlives.addClient calls holds₁ client
  | publish subject replyto data len =>
    exact outlives.publish calls holds₁ subject replyto data len ask
  | subscribe client subject max handleMsg data =>
    exact outlives.subscribe calls holds₁ client subject max handleMsg data ask
  | unsubscribe client sid => exact outlives.unsubscribe calls holds₁ sid

/-- A client's callback that calls client functions. -/
theorem script (outlives : Outlives env allowed holds gone crash)
    (calls : CallsOutlive k holds gone crash) (before : holds w) (call : Callback) :
    Leads (callback env k call) w (fun _ => holds) crash := by
  have asks : Leads (ask fun tick => env.script tick call) w
      (fun script w' => holds w' ∧ ∀ request ∈ script, allowed request) crash :=
    ⟨outlives.beside before (Beside.silent rfl rfl rfl rfl rfl), outlives.scripts w.clock call⟩
  apply Leads.bind asks
  rintro script w₁ ⟨holds₁, asked⟩
  refine Leads.forEach holds₁ ?_
  intro request inside w₂ holds₂
  apply Leads.bind (outlives.apiCall calls holds₂ request (asked request inside))
  intro _ w₃ holds₃
  exact Leads.pure holds₃

/-- Telling the clients of a READY connection keeps the condition. -/
theorem connectionReady (outlives : Outlives env allowed holds gone crash)
    (calls : CallsOutlive k holds gone crash)
    (before : holds w) : Leads (connectionReady k) w (fun _ => holds) crash := by
  apply Leads.get
  apply Leads.bind (Leads.require (fun _ _ => before) fun _ => outlives.faults before)
  intro _ w₁ holds₁
  refine Leads.forEach holds₁ ?_
  rintro ⟨client, i⟩ - w₂ holds₂
  exact outlives.tell calls holds₂ rfl _

/-- A callback keeps the condition to any depth, when reconnecting keeps that of a closed
connection. -/
theorem calls (outlives : Outlives env allowed holds gone crash)
    (connects : ∀ depth {w}, gone w → Leads (calls env depth).connect w (fun _ => gone) crash)
    (depth : Nat) : CallsOutlive (calls env depth) holds gone crash := by
  induction depth with
  | zero => exact ⟨connects 0, fun _ before => Leads.fault (outlives.faults before)⟩
  | succ depth ih => exact ⟨connects (depth + 1), fun call before => outlives.script ih before call⟩

end Whole.Outlives

namespace Whole.Survives

variable {allowed : ApiCall → Prop} {holds crash : World → Prop}

/-- `ngx_nats_connection_init` keeps a condition that survives its append. -/
theorem connectionInit (survives : Survives env allowed holds crash) (before : holds w) :
    Leads (connectionInit env) w (fun _ => holds) crash := by
  cases sent : w.nc.state.connectSent with
  | true =>
    have returns : NgxNats.connectionInit env w = (.ok (), w) := by
      unfold NgxNats.connectionInit
      simp only [Program.get_bind, sent, ↓reduceIte, Program.pure_run]
    exact Leads.of_ok returns before
  | false =>
    obtain ⟨rc, b, added, run⟩ := connectionInit_run env (survives.formed before) sent
    exact Leads.of_ok run (survives.initiate rc b before sent added)

/-- The attempt for a server, after its connection structure was opened. -/
theorem attempt (survives : Survives env allowed holds crash) (calls : CallsSurvive k holds crash)
    {server : Nat} (before : holds w) (fresh : w.nc = { server := server }) :
    Leads (do
      emit (.attempt server)
      match ← ask env.connectPeer with
      | .busy | .declined | .error => return ngxAgain
      | .again =>
        setNc fun nc => { nc with connection := some { writeTimer := some 5000 } }
        return ngxOk
      | .ok =>
        setNc fun nc => { nc with connection := some {} }
        NgxNats.connectionInit env
        NgxNats.flush env k
        return ngxOk) w (fun _ => holds) crash := by
  apply Leads.bind (survives.leads before (emit_beside rfl w))
  rintro _ w₁ ⟨holds₁, first⟩
  apply Leads.bind (survives.leads holds₁ (ask_beside _ w₁))
  rintro answer w₂ ⟨holds₂, second⟩
  have fresh₂ : w₂.nc = { server := server } := second.nc.trans (first.nc.trans fresh)
  cases answer with
  | busy => exact Leads.pure holds₂
  | declined => exact Leads.pure holds₂
  | error => exact Leads.pure holds₂
  | again =>
    apply Leads.of_run (setNc_bind w₂ _ _)
    exact Leads.pure (survives.wired server { writeTimer := some 5000 } holds₂ fresh₂ rfl)
  | ok =>
    apply Leads.of_run (setNc_bind w₂ _ _)
    apply Leads.bind (survives.connectionInit (survives.wired server {} holds₂ fresh₂ rfl))
    intro _ w₃ holds₃
    apply Leads.bind (survives.flush calls holds₃)
    intro _ w₄ holds₄
    exact Leads.pure holds₄

/-- The loop over the servers keeps a condition that survives a new connection. -/
theorem connectLoop (survives : Survives env allowed holds crash)
    (calls : CallsSurvive k holds crash)
    (before : holds w) : Leads (connectLoop env k) w (fun _ => holds) crash := by
  apply Leads.bind (survives.leads before (nextServer_beside w))
  rintro more w₁ ⟨holds₁, -⟩
  split
  · apply Leads.bind (survives.leads holds₁ (addReconnectTimer_beside w₁))
    rintro _ w₂ ⟨holds₂, -⟩
    exact Leads.pure holds₂
  · apply Leads.of_run (Program.modify_bind _ _ w₁)
    apply Leads.of_run (ask_bind _ env.pcalloc _)
    split
    · apply Leads.of_run (emit_bind _ .unallocated _)
      exact Leads.pure (survives.unallocated (w := w₁) holds₁)
    · apply Leads.get
      split
      · exact Leads.fault (survives.unindexed (w := w₁) holds₁)
      · apply Leads.of_run (record_bind _ .opened _ _)
        exact survives.attempt calls (survives.opened (w := w₁) w₁.currIndex.toNat holds₁) rfl

/-- `ngx_nats_connect` keeps a condition that survives a new connection. -/
theorem connect (survives : Survives env allowed holds crash) (calls : CallsSurvive k holds crash)
    (before : holds w) : Leads (connect env k) w (fun _ => holds) crash := by
  apply Leads.repeatUntil holds
  · exact fun _ => survives.faults
  · intro w₁ holds₁
    apply Leads.bind (survives.connectLoop calls holds₁)
    intro rc w₂ holds₂
    split
    · exact Leads.pure holds₂
    · exact Leads.pure holds₂
  · exact before

/-- The calls back into the module keep the condition, to any depth. -/
theorem calls (survives : Survives env allowed holds crash) (depth : Nat) :
    CallsSurvive (calls env depth) holds crash := by
  induction depth with
  | zero =>
    exact ⟨fun before => Leads.fault (survives.faults before),
      fun _ before => Leads.fault (survives.faults before)⟩
  | succ depth ih =>
    exact ⟨fun before => survives.connect ih before,
      fun call before => survives.script ih before call⟩

end Whole.Survives

/-- What holds once a message was dispatched: whether it was accepted or the connection closed. -/
def Answered (accepted refused : World → Prop) : Bool → World → Prop
  | true => accepted
  | false => refused

/-- A refused message closes the connection. -/
theorem reject_answered {accepted refused crash : World → Prop} {reason : Reason}
    (closes : Leads (closeConnection env k reason true)
      { w with log := w.log ++ [.rejected w.nc.state] } (fun _ => refused) crash) :
    Leads (reject env k reason) w (Answered accepted refused) crash := by
  apply Leads.get
  apply Leads.of_run (emit_bind w (.rejected w.nc.state) _)
  apply Leads.bind closes
  intro _ w₁ refused₁
  exact Leads.pure refused₁

namespace Whole.Listens

variable {allowed : ApiCall → Prop} {holds gone crash : World → Prop}

/-- Taking over an INFO text keeps the condition. -/
theorem parseInfo (listens : Listens env allowed holds gone crash)
    (before : holds w) (body : List UInt8) :
    Leads (parseInfo env body) w (fun _ => holds) crash := by
  apply Leads.get
  apply Leads.bind (listens.leads before (emit_beside rfl w))
  rintro _ w₁ ⟨holds₁, -⟩
  apply Leads.bind (listens.leads holds₁ (ask_beside _ w₁))
  rintro json w₂ ⟨holds₂, -⟩
  apply Leads.bind (listens.leads holds₂ (lift_beside _ w₂))
  rintro outcome w₃ ⟨holds₃, -⟩
  split
  · next n fields =>
    have kept := infoFields_keeps w₃.nc fields
    have taken := listens.informed (infoFields w₃.nc fields).1 holds₃ kept.connection
      (infoFields_pingTimer w₃.nc fields) kept.state
    apply Leads.get
    apply Leads.of_run (setNc_bind w₃ _ _)
    split
    · apply Leads.bind (listens.leads taken (emit_beside rfl _))
      rintro _ w₄ ⟨holds₄, -⟩
      exact Leads.pure holds₄
    · exact Leads.pure taken
  · exact Leads.pure holds₃

/-- Dispatching a message keeps the condition, or closes the connection. -/
theorem dispatch (listens : Listens env allowed holds gone crash)
    (calls : CallsOutlive k holds gone crash)
    {refused : World → Prop} (parsed : Parsed)
    (heard : (serverMsg parsed).type ≠ .msg →
      holds { w with log := w.log ++ [.handled (serverMsg parsed)] })
    (handed : (serverMsg parsed).type = .msg → Leads (handOver env (serverMsg parsed))
      { w with log := w.log ++ [.handled (serverMsg parsed)] } (fun _ => holds) crash)
    (closes : ∀ {w} reason, holds w → Leads (NgxNats.closeConnection env k reason true)
      { w with log := w.log ++ [.rejected w.nc.state] } (fun _ => refused) crash) :
    Leads (dispatch env k parsed) w (Answered holds refused) crash := by
  apply Leads.of_run (emit_bind w (.handled (serverMsg parsed)) _)
  apply Leads.get
  have other {type : MsgType} (kind : (serverMsg parsed).type = type) (odd : type ≠ .msg) :
      holds { w with log := w.log ++ [.handled (serverMsg parsed)] } :=
    heard (kind ▸ odd)
  cases kind : (serverMsg parsed).type with
  | ok => exact Leads.pure (other kind nofun)
  | err =>
    have heard := other kind nofun
    dsimp only
    split
    · exact reject_answered (closes _ heard)
    · exact Leads.pure heard
  | ping =>
    have heard := other kind nofun
    have replies : Leads (NgxNats.addMessage env (ascii "PONG\r\n") 6)
        { w with log := w.log ++ [.handled (serverMsg parsed)] } (fun _ => holds) crash := by
      apply Leads.of_run (addMessage_sized env _ (by decide) _)
      apply appendBytes_leads
      · exact fun rc b added => listens.reply w.log _ rc b heard kind rfl added
      · exact listens.faults (listens.beside heard (Beside.silent rfl rfl rfl rfl rfl))
    apply Leads.bind replies
    intro _ w₁ holds₁
    exact Leads.pure holds₁
  | pong =>
    have heard := other kind nofun
    dsimp only
    cases okayed : w.nc.state.connectOkayed with
    | true => exact Leads.pure heard
    | false =>
      apply Leads.of_run (record_bind _ (.ready w.nc.state w.nc.srvVersion) _ _)
      have readied := listens.ready w.log _ heard kind rfl okayed
      apply Leads.bind (listens.connectionReady calls readied)
      intro _ w₁ holds₁
      exact Leads.pure holds₁
  | info =>
    have heard := other kind nofun
    dsimp only
    split
    · exact reject_answered (closes _ heard)
    · apply Leads.bind (listens.parseInfo heard _)
      intro rc w₁ holds₁
      split
      · exact reject_answered (closes _ holds₁)
      · exact Leads.pure holds₁
  | msg =>
    apply Leads.bind (calls.processMsg _ (handed kind))
    intro _ w₁ holds₁
    exact Leads.pure holds₁
  | unset => exact reject_answered (closes _ (other kind nofun))

end Whole.Listens

/-- Handing a frame over touches neither the connection nor the buffers. -/
theorem handOver_aside (msg : ServerMsg) (w : World) : Moves Aside (handOver env msg) w := by
  apply Moves.bind (countMsg_aside _ w)
  intro found w₁ _
  cases found with
  | none => exact Moves.pure _ w₁
  | some sub =>
    apply Moves.bind (ask_aside _ w₁)
    intro pool w₂ _
    split
    · exact Moves.pure _ w₂
    · apply Moves.bind (ask_aside _ w₂)
      intro granted w₃ _
      split
      · exact Moves.pure _ w₃
      · have noted : Moves Aside (emit (.delivered sub sub.handleMsg (messageOf sub msg))) w₃ :=
          Aside.noted rfl rfl rfl rfl rfl rfl
        apply Moves.bind noted
        intro _ w₄ _
        exact Moves.pure _ w₄

/-- Handing a message over keeps what every change aside keeps. -/
theorem handOver_keeps {holds crash : World → Prop} (faults : ∀ {w}, holds w → crash w)
    (aside : ∀ {w w'}, holds w → Aside w w' → holds w') (before : holds w) (msg : ServerMsg) :
    Leads (handOver env msg) w (fun _ => holds) crash :=
  (handOver_aside msg w).leads.weaken (fun _ _ moved => aside before moved)
    fun _ moved => faults (aside before moved)

/-- A condition that every append keeps, also one that is only a part of a command. -/
structure Appends (env : Env) (holds crash : World → Prop) : Prop where
  faults : ∀ {w}, holds w → crash w
  beside : ∀ {w w'}, holds w → Beside w w' → holds w'
  append : ∀ {w} message size rc b, holds w → w.attached = true → w.nc.state = stateReady →
    w.writeBuf.add (env.alloc w.clock) message size = .ok (rc, b) →
    holds (w.appended rc b message size)

namespace Appends

variable {holds crash : World → Prop}

/-- A client that may queue bytes goes on to be one. -/
theorem addMessage (appends : Appends env holds crash) (before : holds w) (serves : w.Serves)
    (message : List UInt8) (size : Nat) :
    Leads (addMessage env message size) w (fun _ w' => holds w' ∧ w'.Serves) crash := by
  rw [addMessage_eq]
  split
  · exact Leads.fault (appends.faults before)
  · split
    · exact Leads.pure ⟨before, serves⟩
    · apply appendBytes_leads
      · intro rc b added
        exact ⟨appends.append _ _ _ _ before serves.attached serves.state added,
          serves.attached, serves.state⟩
      · exact appends.faults (appends.beside before (Beside.silent rfl rfl rfl rfl rfl))

/-- The append of a header keeps the condition on a connection that serves. -/
theorem addHeader (appends : Appends env holds crash) (before : holds w) (serves : w.Serves)
    (text : List UInt8) : Leads (addHeader env text) w (fun _ => holds) crash :=
  (appends.addMessage before serves _ _).weaken (fun _ _ => And.left) fun _ => id

/-- The appends of a publication keep the condition on a connection that serves. -/
theorem publishFrame (appends : Appends env holds crash) (before : holds w) (serves : w.Serves)
    (header data : List UInt8) (len : Nat) :
    Leads (publishFrame env header data len) w (fun _ => holds) crash := by
  apply Leads.bind (appends.addMessage before serves _ _)
  rintro rc w₁ ⟨holds₁, serves₁⟩
  split
  · exact Leads.pure holds₁
  · apply Leads.bind (appends.addMessage holds₁ serves₁ _ _)
    rintro rc w₂ ⟨holds₂, serves₂⟩
    split
    · exact Leads.pure holds₂
    · exact (appends.addMessage holds₂ serves₂ _ _).weaken (fun _ _ => And.left) fun _ => id

/-- The lines of a subscription keep the condition on a connection that serves. -/
theorem subscribeLines (appends : Appends env holds crash) (before : holds w) (serves : w.Serves)
    (subject : List UInt8) (sid max : Int) :
    Leads (subscribeLines env subject sid max) w (fun _ => holds) crash := by
  apply Leads.bind (appends.addMessage before serves _ _)
  rintro rc w₁ ⟨holds₁, serves₁⟩
  split
  · exact Leads.pure holds₁
  · split
    · exact appends.addHeader holds₁ serves₁ _
    · exact Leads.pure holds₁

end Appends

/-- A condition outlives what clients do to the write buffer. Once the connection was closed,
another one holds that implies it. -/
structure Outlives (env : Env) (holds gone crash : World → Prop) : Prop
    extends toWhole : Whole.Outlives env (fun _ => True) holds gone crash,
      Appends env holds crash where
  aside : ∀ {w w'}, holds w → Aside w w' → holds w'
  beside := fun before beside => aside before beside.aside
  scripts := fun _ _ _ _ => trivial
  published := fun _ _ _ _ before serves _ _ =>
    Appends.publishFrame ⟨faults, beside, append⟩ before serves _ _ _
  subscribed := fun _ _ _ _ _ _ before serves _ =>
    Appends.subscribeLines ⟨faults, beside, append⟩ before serves _ _ _
  unsubscribed := fun _ before serves =>
    Appends.addHeader ⟨faults, beside, append⟩ before serves _

/-- A condition outlives what the server's messages do as well. -/
structure Listens (env : Env) (holds gone crash : World → Prop) : Prop
    extends Outlives env holds gone crash,
      toWholeListens : Whole.Listens env (fun _ => True) holds gone crash

/-- A condition survives whatever clients, closing and connecting do to the connection and the write
buffer. -/
structure Survives (env : Env) (holds crash : World → Prop) : Prop
    extends Outlives env holds holds crash,
      toWholeSurvives : Whole.Survives env (fun _ => True) holds crash where
  waits := fun before beside => aside before beside.aside
  back := id

/-- Dispatching a message keeps the condition, or closes the connection. -/
theorem Listens.dispatch {holds gone crash : World → Prop} (listens : Listens env holds gone crash)
    (calls : CallsOutlive k holds gone crash) {refused : World → Prop} (parsed : Parsed)
    (heard : holds { w with log := w.log ++ [.handled (serverMsg parsed)] })
    (closes : ∀ {w} reason, holds w → Leads (NgxNats.closeConnection env k reason true)
      { w with log := w.log ++ [.rejected w.nc.state] } (fun _ => refused) crash) :
    Leads (dispatch env k parsed) w (Answered holds refused) crash :=
  listens.toWholeListens.dispatch calls parsed (fun _ => heard)
    (fun _ => handOver_keeps listens.faults listens.aside heard _) closes

end NgxNats
