import NgxNats.Verif.Handshake
import NgxNats.Verif.SurvivalRuns

/-!
# The first bytes of a connection

`ngx_nats_connection_init` queues the CONNECT text when a connect completes. The reader answers
PING and takes PONG for the answer to CONNECT without looking whether CONNECT was sent, and a read
event may come before the write event that tells of the connect.
-/
namespace NgxNats

open History (Throughout throughout_concat)
open Program (Leads)

variable {env : Env} {w w' : World} {events : List Event}

/-- The bytes an event queues. -/
def Event.appends : Event → Option (List UInt8)
  | .queued bytes => some bytes
  | _ => none

/-- The CONNECT text is queued once on a connection, and what else is queued comes after it. -/
def ConnectFirst (env : Env) (before : List Event) (event : Event) : Prop :=
  (event = .initiated → .initiated ∉ onConnection before) ∧
    ∀ bytes ∈ event.appends,
      (onConnection before).getLast? = some .initiated ∧ bytes = connstr env ∨
        .initiated ∈ onConnection before ∧ .queued (connstr env) ∈ onConnection before

instance (env : Env) (before : List Event) (event : Event) :
    Decidable (ConnectFirst env before event) :=
  inferInstanceAs (Decidable (_ ∧ ∀ bytes ∈ event.appends, _))

/-- The server messages that are answered, or taken for an answer. -/
def Event.prompts : Event → Bool
  | .handled message => message.type = .ping ∨ message.type = .pong
  | _ => false

/-- PING and PONG arrive after the CONNECT text was queued on their connection. -/
def InTurn (before : List Event) (event : Event) : Prop :=
  event.prompts = true → .initiated ∈ onConnection before

instance (before : List Event) (event : Event) : Decidable (InTurn before event) :=
  inferInstanceAs (Decidable (_ → _))

/-- Events that neither open a connection nor queue anything on it. -/
def Event.neutral : Event → Bool
  | .opened | .initiated | .queued _ => false
  | _ => true

/-- A neutral event opens no connection. -/
theorem opens_of_neutral {event : Event} (neutral : event.neutral = true) :
    event.opens = false := by
  cases event with
  | opened => cases neutral
  | _ => rfl

/-- A neutral event is in order. -/
theorem connectFirst_neutral {event : Event} (neutral : event.neutral = true)
    (before : List Event) : ConnectFirst env before event := by
  constructor
  · rintro rfl
    cases neutral
  · intro bytes queued
    cases event with
    | queued => cases neutral
    | _ => cases queued

/-- An idle event is neutral. -/
theorem neutral_of_idle {event : Event} (idle : event.idle = true) : event.neutral = true := by
  cases event with
  | opened => cases idle
  | initiated => cases idle
  | queued => cases idle
  | _ => rfl

/-- An event of the reader is neutral. -/
theorem neutral_of_reads {event : Event} (reads : event.reads = true) : event.neutral = true := by
  cases event with
  | opened => cases reads
  | initiated => cases reads
  | queued => cases reads
  | _ => rfl

/-- What holds of a connection on which CONNECT comes first. -/
structure Leading (env : Env) (w : World) : Prop where
  ordered : Throughout (ConnectFirst env) w.log
  sent : w.nc.state.connectSent = true →
    .initiated ∈ onConnection w.log ∧ .queued (connstr env) ∈ onConnection w.log
  unsent : w.nc.state.connectSent = false →
    .initiated ∉ onConnection w.log ∧ w.writeBuf.pending = []

/-- CONNECT comes first unless it was prompted too early. -/
structure Awaited (env : Env) (w : World) : Prop where
  formed : w.writeBuf.WellFormed
  leading : Throughout InTurn w.log → Leading env w

/-- Neutral events are added to the events on the connection. -/
theorem onConnection_neutral (log : List Event)
    (neutral : ∀ event ∈ events, event.neutral = true) :
    onConnection (log ++ events) = onConnection log ++ events :=
  History.since_append _ fun event inside => opens_of_neutral (neutral event inside)

/-- A change that queues nothing keeps the order. -/
theorem Leading.extend (leading : Leading env w) (log : w'.log = w.log ++ events)
    (neutral : ∀ event ∈ events, event.neutral = true)
    (connectSent : w'.nc.state.connectSent = w.nc.state.connectSent)
    (pending : w.writeBuf.pending = [] → w'.writeBuf.pending = []) : Leading env w' := by
  have longer := onConnection_neutral w.log neutral
  constructor
  · rw [log]
    exact leading.ordered.append fun event inside before =>
      connectFirst_neutral (neutral event inside) before
  · intro sent
    rw [connectSent] at sent
    rw [log, longer]
    obtain ⟨initiated, queued⟩ := leading.sent sent
    exact ⟨List.mem_append_left _ initiated, List.mem_append_left _ queued⟩
  · intro unsent
    rw [connectSent] at unsent
    rw [log, longer]
    obtain ⟨fresh, empty⟩ := leading.unsent unsent
    refine ⟨fun inside => ?_, pending empty⟩
    rcases List.mem_append.mp inside with earlier | added
    · exact fresh earlier
    · cases neutral _ added

/-- After the CONNECT text anything may be queued. -/
theorem Leading.queue {event : Event} (leading : Leading env w)
    (sent : w.nc.state.connectSent = true) (log : w'.log = w.log ++ [event])
    (connectSent : w'.nc.state.connectSent = w.nc.state.connectSent)
    (unopened : event.opens = false) (other : event ≠ .initiated) : Leading env w' := by
  obtain ⟨initiated, queued⟩ := leading.sent sent
  have longer : onConnection (w.log ++ [event]) = onConnection w.log ++ [event] :=
    History.since_unmarked Event.opens unopened
  constructor
  · rw [log, throughout_concat]
    exact ⟨leading.ordered, fun same => (other same).elim, fun _ _ => .inr ⟨initiated, queued⟩⟩
  · intro _
    rw [log, longer]
    exact ⟨List.mem_append_left _ initiated, List.mem_append_left _ queued⟩
  · intro unsent
    rw [connectSent, sent] at unsent
    cases unsent

/-- The events of an append. -/
theorem appendEvent_kind (rc : Int) (message : List UInt8) (size : Nat) :
    (appendEvent rc message size).opens = false ∧ appendEvent rc message size ≠ .initiated := by
  unfold appendEvent
  split
  · exact ⟨rfl, fun absurd => by cases absurd⟩
  · exact ⟨rfl, fun absurd => by cases absurd⟩

/-- An early prompt stays one. -/
theorem Awaited.next (awaited : Awaited env w) (formed : w'.writeBuf.WellFormed)
    (log : w'.log = w.log ++ events) (leading : Leading env w → Leading env w') :
    Awaited env w' := by
  refine ⟨formed, fun prompted => leading (awaited.leading ?_)⟩
  rw [log] at prompted
  exact prompted.left

/-- A change of the module that queues nothing. -/
theorem Awaited.extend (awaited : Awaited env w) (formed : w'.writeBuf.WellFormed)
    (log : w'.log = w.log ++ events) (neutral : ∀ event ∈ events, event.neutral = true)
    (connectSent : w'.nc.state.connectSent = w.nc.state.connectSent)
    (pending : w.writeBuf.pending = [] → w'.writeBuf.pending = []) : Awaited env w' :=
  awaited.next formed log fun leading => leading.extend log neutral connectSent pending

/-- A change of the module that reports nothing. -/
theorem Awaited.silent (awaited : Awaited env w) (formed : w'.writeBuf.WellFormed)
    (log : w'.log = w.log) (connectSent : w'.nc.state.connectSent = w.nc.state.connectSent)
    (pending : w.writeBuf.pending = [] → w'.writeBuf.pending = []) : Awaited env w' :=
  awaited.extend formed (log.trans (List.append_nil _).symm) (List.forall_mem_nil _) connectSent
    pending

/-- A PING or PONG that did not come too early finds CONNECT sent. -/
theorem Leading.prompted {before : List Event} {msg : ServerMsg} (leading : Leading env w)
    (log : w.log = before ++ [.handled msg]) (prompted : Throughout InTurn w.log)
    (kind : msg.type = .ping ∨ msg.type = .pong) : w.nc.state.connectSent = true := by
  by_contra unsent
  have fresh := (leading.unsent (Bool.eq_false_iff.mpr unsent)).1
  rw [log] at fresh prompted
  have asked : Event.prompts (.handled msg) = true := by
    unfold Event.prompts
    exact decide_eq_true kind
  have initiated := (throughout_concat.mp prompted).2 asked
  have kept : onConnection (before ++ [.handled msg]) = onConnection before ++ [.handled msg] :=
    History.since_unmarked Event.opens rfl
  rw [kept] at fresh
  exact fresh (List.mem_append_left _ initiated)

/-- Anything may be appended to a connection on which CONNECT was sent. -/
theorem Awaited.appended {rc : Int} {b : Buf} {message : List UInt8} {size : Nat}
    (awaited : Awaited env w)
    (added : w.writeBuf.add (env.alloc w.clock) message size = .ok (rc, b))
    (sent : Throughout InTurn w.log → Leading env w → w.nc.state.connectSent = true) :
    Awaited env (w.appended rc b message size) := by
  obtain ⟨unopened, other⟩ := appendEvent_kind rc message size
  refine ⟨(awaited.formed.add added).2, fun prompted => ?_⟩
  have earlier : Throughout InTurn w.log := prompted.left
  have leading := awaited.leading earlier
  exact leading.queue (sent earlier leading) rfl rfl unopened other

/-- The CONNECT text fits an empty write buffer. -/
theorem connstr_added {rc : Int} {b : Buf} (formed : w.writeBuf.WellFormed)
    (empty : w.writeBuf.pending = [])
    (added : w.writeBuf.add (env.alloc w.clock) (connstr env) (connstr env).length = .ok (rc, b)) :
    rc = ngxOk := by
  obtain ⟨-, bound⟩ := connstr_length env
  have least := formed.least
  have small : connstrSize ≤ bufInitSize := by decide
  have none := w.writeBuf.length_pending
  rw [empty, List.length_nil] at none
  have fits : w.writeBuf.end - w.writeBuf.pos + (connstr env).length ≤ w.writeBuf.cap := by omega
  obtain ⟨b', room, -⟩ := Buf.ensure_room (env.alloc w.clock) formed.valid fits
  unfold Buf.add at added
  rw [room] at added
  dsimp only at added
  split at added
  · next refused => exact (refused rfl).elim
  · split at added
    · cases added
    · cases added
      rfl

/-- Queueing the CONNECT text puts it first. -/
theorem Leading.initiate {rc : Int} {b : Buf} (leading : Leading env w)
    (unsent : w.nc.state.connectSent = false) (granted : rc = ngxOk) :
    Leading env (w.initiated b (appendEvent rc (connstr env) (connstr env).length)) := by
  obtain ⟨fresh, -⟩ := leading.unsent unsent
  have event : appendEvent rc (connstr env) (connstr env).length = .queued (connstr env) := by
    rw [appendEvent, if_pos granted, List.take_length]
  rw [event]
  have log : (w.initiated b (.queued (connstr env))).log =
      w.log ++ [.initiated] ++ [.queued (connstr env)] := by
    rw [List.append_assoc]
    rfl
  have first : onConnection (w.log ++ [.initiated]) = onConnection w.log ++ [.initiated] :=
    History.since_unmarked Event.opens rfl
  have second : onConnection (w.log ++ [.initiated] ++ [.queued (connstr env)]) =
      onConnection w.log ++ [.initiated] ++ [.queued (connstr env)] :=
    (History.since_unmarked Event.opens rfl).trans (congrArg (· ++ _) first)
  have begins : ConnectFirst env w.log .initiated :=
    ⟨fun _ => fresh, fun _ queued => by cases queued⟩
  have follows : ConnectFirst env (w.log ++ [.initiated]) (.queued (connstr env)) := by
    refine ⟨fun same => (by cases same), fun bytes queued => .inl ⟨?_, ?_⟩⟩
    · rw [first, List.getLast?_concat]
    · exact (Option.mem_some.mp queued).symm
  constructor
  · rw [log, throughout_concat, throughout_concat]
    exact ⟨⟨leading.ordered, begins⟩, follows⟩
  · intro _
    rw [log, second]
    simp
  · intro absurd
    cases absurd

/-- A new connection begins with nothing queued. -/
theorem Leading.opened (leading : Leading env w) (log : w'.log = w.log ++ [.opened])
    (unsent : w'.nc.state.connectSent = false) (empty : w'.writeBuf.pending = []) :
    Leading env w' := by
  have none : onConnection (w.log ++ [.opened]) = [] := History.since_marked Event.opens rfl
  have opens : ConnectFirst env w.log .opened :=
    ⟨fun same => (by cases same), fun _ queued => (by cases queued)⟩
  constructor
  · rw [log, throughout_concat]
    exact ⟨leading.ordered, opens⟩
  · intro sent
    rw [unsent] at sent
    cases sent
  · intro _
    rw [log, none]
    exact ⟨List.not_mem_nil, empty⟩

/-- The bits of a connection on which bytes were exchanged. -/
theorem checked_connectSent (w : World) :
    (w.checked env).nc.state.connectSent = w.nc.state.connectSent := by
  unfold World.checked
  split
  · rfl
  · rfl

/-- The events of sending are neutral. -/
theorem neutral_of_sends {event : Event} (sends : event.sends = true) : event.neutral = true := by
  cases event with
  | send => rfl
  | writeEventFailed => rfl
  | _ => cases sends

/-- A flush does not send CONNECT. -/
theorem Flushed.connectSent {ending : Option Reason} (flushed : Flushed env w w' ending) :
    w'.nc.state.connectSent = w.nc.state.connectSent := by
  cases flushed with
  | drained => rfl
  | part n => exact checked_connectSent _
  | whole n => exact checked_connectSent _
  | nothing => rfl
  | again => rfl
  | error => rfl

/-- A flush makes nothing pending. -/
theorem Flushed.pending_nil {ending : Option Reason} (flushed : Flushed env w w' ending)
    (formed : w.writeBuf.WellFormed) (empty : w.writeBuf.pending = []) :
    w'.writeBuf.pending = [] := by
  obtain ⟨events, -, -, -, sent⟩ := flushed.sends formed
  rw [empty] at sent
  exact (List.append_eq_nil_iff.mp sent).2

/-- CONNECT comes first in everything the module does, unless it is prompted too early. -/
theorem awaited_persists (env : Env) : Persists env (Awaited env) (Awaited env) where
  formed awaited := awaited.formed
  faults awaited := awaited
  aside := by
    intro w w' awaited aside
    obtain ⟨events, log, idle⟩ := aside.log
    exact awaited.extend (aside.writeBuf ▸ awaited.formed) log
      (fun event inside => neutral_of_idle (idle event inside)) (by rw [aside.nc])
      fun empty => by rw [aside.writeBuf, empty]
  heard msg awaited := awaited.extend awaited.formed rfl (by simp [Event.neutral]) rfl id
  rejected awaited := awaited.extend awaited.formed rfl (by simp [Event.neutral]) rfl id
  informed := by
    intro w nc awaited _ _ state
    exact awaited.silent awaited.formed rfl (by rw [state]) id
  append _ _ _ _ awaited _ ready added :=
    awaited.appended added fun _ _ => by rw [ready]; rfl
  reply _ _ _ _ awaited kind log added :=
    awaited.appended added fun prompted leading => leading.prompted log prompted (.inl kind)
  ready := by
    intro w before msg awaited kind log _
    refine ⟨awaited.formed, fun prompted => ?_⟩
    have earlier : Throughout InTurn w.log := prompted.left
    have leading := awaited.leading earlier
    have sent := leading.prompted log earlier (.inr kind)
    have readied : w.readied.nc.state.connectSent = w.nc.state.connectSent := sent.symm
    have log : w.readied.log = w.log ++ [.ready w.nc.state w.nc.srvVersion] := rfl
    exact leading.extend log (by simp [Event.neutral]) readied id
  initiate := by
    intro w rc b awaited unsent added
    refine ⟨(awaited.formed.add added).2, fun prompted => ?_⟩
    have leading := awaited.leading prompted.left
    exact leading.initiate unsent
      (connstr_added awaited.formed (leading.unsent unsent).2 added)
  flushed := by
    intro w w' ending awaited flushed
    obtain ⟨events, log, sends⟩ := flushed.log
    exact awaited.extend (flushed.formed awaited.formed) log
      (fun event inside => neutral_of_sends (sends event inside)) flushed.connectSent
      (flushed.pending_nil awaited.formed)
  dangling awaited _ := awaited.silent awaited.formed rfl rfl id
  shut := by
    intro w c awaited _
    refine awaited.extend awaited.formed rfl ?_ rfl id
    split
    · simp [Event.neutral]
    · exact List.forall_mem_nil _
  abandoned _ awaited := awaited.extend awaited.formed.reset rfl (by simp [Event.neutral]) rfl
    fun _ => Buf.pending_reset _
  unallocated awaited := awaited.extend awaited.formed.reset rfl (by simp [Event.neutral]) rfl
    fun _ => Buf.pending_reset _
  unindexed awaited := awaited.silent awaited.formed.reset rfl rfl fun _ =>
    Buf.pending_reset _
  opened server awaited := awaited.next awaited.formed.reset rfl fun leading =>
    leading.opened rfl rfl (Buf.pending_reset _)
  wired _ _ awaited _ _ := awaited.silent awaited.formed rfl rfl id
  filled _ awaited := awaited.silent awaited.formed rfl rfl id
  checked awaited _ := awaited.silent awaited.formed rfl (checked_connectSent _) id
  noted event awaited reads := awaited.extend awaited.formed rfl
    (fun _ inside => List.mem_singleton.mp inside ▸ neutral_of_reads reads) rfl id
  timed awaited _ _ := awaited.silent awaited.formed rfl rfl id
  expired awaited _ := awaited.extend awaited.formed rfl (by simp [Event.neutral]) rfl id

/-- CONNECT comes first and only once on every connection, in a run in which no PING or PONG
is handled on a connection before its connect was completed. -/
theorem connect_first (env : Env) (depth : Nat) (steps : List Step) (read write : Memory UInt8)
    (prompted : Throughout InTurn (reached env depth steps read write).log) :
    Throughout (ConnectFirst env) (reached env depth steps read write).log := by
  have start : Awaited env (.start read write) := by
    refine ⟨start_formed read write, fun _ => ⟨History.throughout_nil, ?_, ?_⟩⟩
    · intro sent
      cases sent
    · exact fun _ => ⟨List.not_mem_nil, Buf.pending_of_drained rfl⟩
  exact (((awaited_persists env).run depth start steps).last.leading prompted).ordered

/-- On a connection that greeted the module and sent PING, CONNECT came first and PONG after it. -/
theorem connect_first_greeted :
    Throughout (ConnectFirst granting) (reached granting 2
      [.init, .readable [.bytes greeting], .readable [.bytes (ascii "PING\r\n")]] (fun _ => 0)
      fun _ => 0).log ∧
    .queued (ascii "PONG\r\n") ∈ (reached granting 2
      [.init, .readable [.bytes greeting], .readable [.bytes (ascii "PING\r\n")]] (fun _ => 0)
      fun _ => 0).log :=
  ⟨connect_first granting 2
    [.init, .readable [.bytes greeting], .readable [.bytes (ascii "PING\r\n")]] (fun _ => 0)
    (fun _ => 0) (by decide +kernel), by decide +kernel⟩

/-- Surroundings in which a connect is pending until the socket becomes writable. -/
def deferring : Env := { granting with connectPeer := fun _ => .again }

/-- A server that sends PING as soon as it accepts, and a read event that comes before the write
event of the connect: PONG is queued before CONNECT. -/
theorem pong_before_connect : ¬∀ (env : Env) (depth : Nat) (steps : List Step)
    (read write : Memory UInt8),
    Throughout (ConnectFirst env) (reached env depth steps read write).log := by
  intro claim
  have first := claim deferring 2 [.init, .readable [.bytes (ascii "PING\r\n")], .writable]
    (fun _ => 0) (fun _ => 0)
  revert first
  decide +kernel

end NgxNats
