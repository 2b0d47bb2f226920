import NgxNats.Lib.History
import NgxNats.Verif.SurvivalRuns

/-!
# Replies of the reader

`ngx_nats_read_from_nats` flushes when more bytes are pending after its loop than before it.
Handlers flush in between: when they send more than the loop queues, bytes that were queued after
the last of their sends are left to some later flush.
-/
namespace NgxNats

open History (since)
open Program (Leads Moves)

variable {env : Env} {k : Calls} {w w' : World} {events : List Event}

/-- The event of a send. -/
def Event.isSend : Event → Bool
  | .send .. => true
  | _ => false

/-- Events that end the connection or begin another one. -/
def Event.parts : Event → Bool
  | .opened | .unallocated => true
  | event => event.ends

/-- The connection was closed, or another one was begun. -/
def Parted (events : List Event) : Prop := ∃ event ∈ events, event.parts = true

/-- The bytes queued since the last send. -/
def unsent (events : List Event) : List UInt8 := queuedBytes (since Event.isSend events)

instance (events : List Event) : Decidable (Parted events) :=
  inferInstanceAs (Decidable (∃ event ∈ events, event.parts = true))

/-- What was parted stays so. -/
theorem Parted.append (parted : Parted events) (more : List Event) : Parted (events ++ more) := by
  obtain ⟨event, inside, parts⟩ := parted
  exact ⟨event, List.mem_append_left _ inside, parts⟩

/-- Later events part as well. -/
theorem Parted.later (parted : Parted events) (earlier : List Event) :
    Parted (earlier ++ events) := by
  obtain ⟨event, inside, parts⟩ := parted
  exact ⟨event, List.mem_append_right _ inside, parts⟩

/-- A close that has begun parts. -/
theorem Begun.parted (begun : Begun w w') (log : w'.log = w.log ++ events) : Parted events := by
  obtain ⟨event, rest, ends, grown⟩ := begun
  have same : events = event :: rest := List.append_cancel_left (log.symm.trans grown)
  refine ⟨event, by rw [same]; exact List.mem_cons_self, ?_⟩
  cases event with
  | opened => rfl
  | unallocated => rfl
  | _ => exact ends

/-- The ledger of the write buffer: what is pending now and was sent is what was pending at the
start and was queued, and what was queued since the last send is still pending. -/
structure Ledger (events : List Event) (start pending : Nat) : Prop where
  balance : pending + (sentBytes events).length = start + (queuedBytes events).length
  pending : (unsent events).length ≤ pending

/-- An event that neither queues nor sends. -/
def Event.silent : Event → Bool
  | .queued _ | .send .. => false
  | _ => true

/-- The bytes of silent events. -/
theorem bytes_silent (silent : ∀ event ∈ events, event.silent = true) :
    queuedBytes events = [] ∧ sentBytes events = [] ∧
      ∀ event ∈ events, event.isSend = false := by
  induction events with
  | nil => exact ⟨rfl, rfl, List.forall_mem_nil _⟩
  | cons event rest ih =>
    obtain ⟨queued, sent, sends⟩ := ih fun other inside =>
      silent other (List.mem_cons_of_mem event inside)
    have first := silent event List.mem_cons_self
    have none : event.queuedBytes = [] ∧ event.sentBytes = [] ∧ event.isSend = false := by
      cases event with
      | queued => cases first
      | send => cases first
      | _ => exact ⟨rfl, rfl, rfl⟩
    refine ⟨?_, ?_, ?_⟩
    · simp only [queuedBytes, List.flatMap_cons, none.1, List.nil_append]
      exact queued
    · simp only [sentBytes, List.flatMap_cons, none.2.1, List.nil_append]
      exact sent
    · exact List.forall_mem_cons.mpr ⟨none.2.2, sends⟩

/-- Events queue what their beginning queues, and then what the rest does. -/
theorem queuedBytes_append (events more : List Event) :
    queuedBytes (events ++ more) = queuedBytes events ++ queuedBytes more := List.flatMap_append

/-- Events send what their beginning sends, and then what the rest does. -/
theorem sentBytes_append (events more : List Event) :
    sentBytes (events ++ more) = sentBytes events ++ sentBytes more := List.flatMap_append

/-- Silent events leave what is unsent. -/
theorem unsent_silent {more : List Event} (silent : ∀ event ∈ more, event.silent = true) :
    unsent (events ++ more) = unsent events := by
  obtain ⟨queued, -, sends⟩ := bytes_silent silent
  unfold unsent
  rw [History.since_append _ sends, queuedBytes_append, queued, List.append_nil]

/-- Nothing is unsent after a send and silent events. -/
theorem unsent_sent {more : List Event} (offered : List UInt8) (result : SendResult)
    (silent : ∀ event ∈ more, event.silent = true) :
    unsent (events ++ .send offered result :: more) = [] := by
  have marked : since Event.isSend (events ++ [.send offered result]) = [] :=
    History.since_marked _ rfl
  rw [List.append_cons, unsent_silent silent]
  unfold unsent
  rw [marked]
  rfl

/-- Nothing is recorded at the start. -/
theorem Ledger.start (pending : Nat) : Ledger [] pending pending :=
  ⟨rfl, by rw [unsent, History.since_nil]; exact Nat.zero_le _⟩

/-- Silent events change nothing. -/
theorem Ledger.silent {more : List Event} {start pending : Nat}
    (ledger : Ledger events start pending) (silent : ∀ event ∈ more, event.silent = true) :
    Ledger (events ++ more) start pending := by
  obtain ⟨queued, sent, -⟩ := bytes_silent silent
  constructor
  · rw [sentBytes_append, queuedBytes_append, queued, sent, List.append_nil, List.append_nil]
    exact ledger.balance
  · rw [unsent_silent silent]
    exact ledger.pending

/-- Queued bytes are pending. -/
theorem Ledger.queue {start pending : Nat} (ledger : Ledger events start pending)
    (bytes : List UInt8) : Ledger (events ++ [.queued bytes]) start (pending + bytes.length) := by
  have queued : queuedBytes [.queued bytes] = bytes := List.append_nil bytes
  have sent : sentBytes [.queued bytes] = [] := rfl
  have added : since Event.isSend (events ++ [.queued bytes]) =
      since Event.isSend events ++ [.queued bytes] := History.since_unmarked _ rfl
  have balance := ledger.balance
  have least := ledger.pending
  constructor
  · rw [sentBytes_append, queuedBytes_append, queued, sent, List.append_nil, List.length_append]
    omega
  · unfold unsent at least ⊢
    rw [added, queuedBytes_append, queued, List.length_append]
    omega

/-- Sent bytes are no longer pending. -/
theorem Ledger.send {more : List Event} {start pending left : Nat}
    (ledger : Ledger events start pending) (offered : List UInt8) (result : SendResult)
    (silent : ∀ event ∈ more, event.silent = true)
    (taken : (sentBytes (.send offered result :: more)).length + left = pending) :
    Ledger (events ++ .send offered result :: more) start left := by
  obtain ⟨queued, -, -⟩ := bytes_silent silent
  have none : queuedBytes (.send offered result :: more) = [] := queued
  have balance := ledger.balance
  constructor
  · rw [sentBytes_append, queuedBytes_append, none, List.append_nil, List.length_append]
    omega
  · rw [unsent_sent offered result silent]
    exact Nat.zero_le _

/-- What happened since some state is in the ledger, unless the connection was parted with. -/
structure Accounted (base w : World) : Prop where
  formed : w.writeBuf.WellFormed
  recorded : ∃ events, w.log = base.log ++ events ∧ (Parted events ∨
    Ledger events base.writeBuf.pending.length w.writeBuf.pending.length)

variable {base : World}

/-- A change that neither queues nor sends. -/
theorem Accounted.silent {more : List Event} (accounted : Accounted base w)
    (formed : w'.writeBuf.WellFormed) (log : w'.log = w.log ++ more)
    (silent : ∀ event ∈ more, event.silent = true)
    (pending : w'.writeBuf.pending.length = w.writeBuf.pending.length) : Accounted base w' := by
  obtain ⟨events, grown, recorded⟩ := accounted.recorded
  refine ⟨formed, events ++ more, by rw [log, grown, List.append_assoc], ?_⟩
  rcases recorded with parted | ledger
  · exact .inl (parted.append more)
  · rw [pending]
    exact .inr (ledger.silent silent)

/-- A change that reports nothing. -/
theorem Accounted.same (accounted : Accounted base w) (formed : w'.writeBuf.WellFormed)
    (log : w'.log = w.log)
    (pending : w'.writeBuf.pending.length = w.writeBuf.pending.length) : Accounted base w' :=
  accounted.silent formed (log.trans (List.append_nil _).symm) (List.forall_mem_nil _) pending

/-- A change that parts with the connection. -/
theorem Accounted.part {event : Event} (accounted : Accounted base w)
    (formed : w'.writeBuf.WellFormed) (log : w'.log = w.log ++ [event])
    (parts : event.parts = true) : Accounted base w' := by
  obtain ⟨events, grown, -⟩ := accounted.recorded
  refine ⟨formed, events ++ [event], by rw [log, grown, List.append_assoc], .inl ?_⟩
  exact Parted.later ⟨event, List.mem_singleton.mpr rfl, parts⟩ events

/-- An append that was answered. -/
theorem Accounted.add {rc : Int} {b : Buf} {message : List UInt8} {size : Nat}
    (accounted : Accounted base w)
    (added : w.writeBuf.add (env.alloc w.clock) message size = .ok (rc, b))
    (log : w'.log = w.log ++ [appendEvent rc message size]) (writeBuf : w'.writeBuf = b) :
    Accounted base w' := by
  obtain ⟨answered, formed⟩ := accounted.formed.add added
  rcases answered with rfl | rfl
  · obtain ⟨readable, longer⟩ := Buf.add_length accounted.formed.valid added
    obtain ⟨events, grown, recorded⟩ := accounted.recorded
    have queued : appendEvent ngxOk message size = .queued (message.take size) := if_pos rfl
    have length : (message.take size).length = size := List.length_take_of_le readable
    refine ⟨writeBuf ▸ formed, events ++ [.queued (message.take size)], ?_, ?_⟩
    · rw [log, grown, queued, List.append_assoc]
    · rcases recorded with parted | ledger
      · exact .inl (parted.append _)
      · have after := ledger.queue (message.take size)
        rw [length, ← longer, ← writeBuf] at after
        exact .inr after
  · have refused : appendEvent ngxError message size = .refused size := if_neg (by decide)
    rw [refused] at log
    refine accounted.silent (writeBuf ▸ formed) log (by simp [Event.silent]) ?_
    rw [writeBuf, Buf.add_refused accounted.formed.valid added]

/-- A flush up to its end does nothing, or it sends once. -/
theorem Flushed.record {ending : Option Reason} (flushed : Flushed env w w' ending) :
    (w.writeBuf.pending = [] ∧ w'.log = w.log) ∨ ∃ offered result more,
      w'.log = w.log ++ .send offered result :: more ∧
      ∀ event ∈ more, event.silent = true := by
  have handled (answer : Bool) : ∀ event ∈ (if answer then [] else [Event.writeEventFailed]),
      event.silent = true := by
    cases answer with
    | true => exact List.forall_mem_nil _
    | false => simp [Event.silent]
  cases flushed with
  | drained empty =>
    have none : w.writeBuf.pending = [] := Buf.pending_of_empty empty
    exact .inl ⟨none, rfl⟩
  | part n => exact .inr ⟨_, _, [], rfl, List.forall_mem_nil _⟩
  | whole n => exact .inr ⟨_, _, _, List.append_assoc _ _ _, handled _⟩
  | nothing => exact .inr ⟨_, _, [], rfl, List.forall_mem_nil _⟩
  | again => exact .inr ⟨_, _, _, List.append_assoc _ _ _, handled _⟩
  | error => exact .inr ⟨_, _, [], rfl, List.forall_mem_nil _⟩

/-- A flush up to its end is in the ledger. -/
theorem Accounted.flushed {ending : Option Reason} (accounted : Accounted base w)
    (flushed : Flushed env w w' ending) : Accounted base w' := by
  obtain ⟨sends, log, -, formed, taken⟩ := flushed.sends accounted.formed
  obtain ⟨events, grown, recorded⟩ := accounted.recorded
  have length := congrArg List.length taken
  rw [List.length_append] at length
  rcases flushed.record with ⟨empty, same⟩ | ⟨offered, result, more, sent, silent⟩
  · rw [empty, List.length_nil] at length
    exact accounted.same formed same (by rw [empty, List.length_nil]; omega)
  · have events_eq : sends = .send offered result :: more :=
      List.append_cancel_left (log.symm.trans sent)
    rw [events_eq] at length
    refine ⟨formed, events ++ .send offered result :: more, ?_, ?_⟩
    · rw [sent, grown, List.append_assoc]
    · rcases recorded with parted | ledger
      · exact .inl (parted.append _)
      · exact .inr (ledger.send offered result silent length)

/-- An idle event neither queues nor sends. -/
theorem silent_of_idle {event : Event} (idle : event.idle = true) : event.silent = true := by
  cases event with
  | queued => cases idle
  | send => cases idle
  | _ => rfl

/-- An event of the reader neither queues nor sends. -/
theorem silent_of_reads {event : Event} (reads : event.reads = true) : event.silent = true := by
  cases event with
  | queued => cases reads
  | send => cases reads
  | _ => rfl

/-- Everything is in the ledger that the module does while it keeps the connection. -/
theorem accounted_persists (env : Env) (base : World) :
    Persists env (Accounted base) fun _ => True where
  formed accounted := accounted.formed
  faults _ := trivial
  aside := by
    intro w w' accounted aside
    obtain ⟨events, log, idle⟩ := aside.log
    exact accounted.silent (aside.writeBuf ▸ accounted.formed) log
      (fun event inside => silent_of_idle (idle event inside)) (by rw [aside.writeBuf])
  heard _ accounted := accounted.silent accounted.formed rfl (by simp [Event.silent]) rfl
  rejected accounted := accounted.silent accounted.formed rfl (by simp [Event.silent]) rfl
  informed _ accounted _ _ _ := accounted.same accounted.formed rfl rfl
  append _ _ _ _ accounted _ _ added := accounted.add added rfl rfl
  reply _ _ _ _ accounted _ _ added := accounted.add added rfl rfl
  ready := by
    intro w before msg accounted _ _ _
    have log : w.readied.log = w.log ++ [.ready w.nc.state w.nc.srvVersion] := rfl
    exact accounted.silent accounted.formed log (by simp [Event.silent]) rfl
  initiate := by
    intro w rc b accounted _ added
    have initiated : Accounted base { w with log := w.log ++ [.initiated] } :=
      accounted.silent accounted.formed rfl (by simp [Event.silent]) rfl
    refine initiated.add added ?_ rfl
    rw [List.append_assoc]
    rfl
  flushed accounted flushed := accounted.flushed flushed
  dangling _ _ := trivial
  shut := by
    intro w c accounted _
    refine accounted.silent accounted.formed rfl ?_ rfl
    split
    · simp [Event.silent]
    · exact List.forall_mem_nil _
  abandoned _ accounted := accounted.part accounted.formed.reset rfl rfl
  unallocated accounted := accounted.part accounted.formed.reset rfl rfl
  unindexed _ := trivial
  opened _ accounted := accounted.part accounted.formed.reset rfl rfl
  wired _ _ accounted _ _ := accounted.same accounted.formed rfl rfl
  filled _ accounted := accounted.same accounted.formed rfl rfl
  checked accounted _ := accounted.same accounted.formed rfl rfl
  noted event accounted reads := accounted.silent accounted.formed rfl
    (fun _ inside => List.mem_singleton.mp inside ▸ silent_of_reads reads) rfl
  timed accounted _ _ := accounted.same accounted.formed rfl rfl
  expired accounted _ := accounted.silent accounted.formed rfl (by simp [Event.silent]) rfl

/-- The connection was parted with since some state. -/
def Ended (base w : World) : Prop := ∃ events, w.log = base.log ++ events ∧ Parted events

/-- The log has grown since some state. -/
structure Grown (base w : World) : Prop where
  formed : w.writeBuf.WellFormed
  log : ∃ events, w.log = base.log ++ events

/-- Whatever the module does, the log grows. -/
theorem Grown.leads {α : Type} {program : Comm α} (grown : Grown base w)
    (moves : Moves (Acts env) program w) :
    Leads program w (fun _ => Grown base) fun _ => True := by
  refine moves.leads.weaken (fun _ w' acts => ⟨(acts grown.formed).1, ?_⟩) fun _ _ => trivial
  obtain ⟨events, log⟩ := grown.log
  obtain ⟨more, longer⟩ := acts.grows grown.formed
  exact ⟨events ++ more, by rw [longer, log, List.append_assoc]⟩

/-- A loop that closes the connection parts with it. -/
theorem closeReturn_ends (acts : CallsAct env k) (grown : Grown base w) (reason : Reason) :
    Leads (do
      closeConnection env k reason true
      return false) w (fun went w' => went = false → Ended base w') fun _ => True := by
  apply Leads.bind (closeConnection_begins acts grown.formed reason)
  intro _ w₁ begun
  refine Leads.pure fun _ => ?_
  obtain ⟨events, log⟩ := grown.log
  obtain ⟨event, rest, -, grown'⟩ := id begun
  refine ⟨events ++ event :: rest, by rw [grown', log, List.append_assoc], ?_⟩
  exact (begun.parted grown').later events

/-- A loop that found nothing more. -/
theorem receiveAgain_ends (acts : CallsAct env k) (grown : Grown base w) :
    Leads (do
      if ← ask env.handleReadEvent then return true
      else
        closeConnection env k .internalError true
        return false) w (fun went w' => went = false → Ended base w') fun _ => True := by
  have asks : Moves (Acts env) (ask env.handleReadEvent) w := ask_acts _ w
  apply Leads.bind (grown.leads asks)
  intro handled w₁ grown₁
  split
  · exact Leads.pure fun absurd => by cases absurd
  · exact closeReturn_ends acts grown₁ _

/-- The loop of the reader returns false only when it has closed the connection. -/
theorem receive_ends (acts : CallsAct env k) (results : List Recv) (grown : Grown base w) :
    Leads (receive env k results) w (fun went w' => went = false → Ended base w')
      fun _ => True := by
  induction results generalizing w with
  | nil =>
    have asked : Moves (Acts env) (recvBytes .again) w := recvBytes_acts _ w
    apply Leads.bind (grown.leads asked)
    intro _ w₁ grown₁
    exact receiveAgain_ends acts grown₁
  | cons found rest ih =>
    have asked : Moves (Acts env) (recvBytes found) w := recvBytes_acts _ w
    apply Leads.bind (grown.leads asked)
    intro result w₁ grown₁
    cases result with
    | again => exact receiveAgain_ends acts grown₁
    | eof => exact closeReturn_ends acts grown₁ _
    | error => exact closeReturn_ends acts grown₁ _
    | bytes bytes =>
      have received : Leads (receiveData env k bytes) w₁ (fun went w' => Grown base w' ∧
          (went = false → Ended base w')) fun _ => True := by
        apply Leads.bind (grown₁.leads (checkConnected_acts w₁))
        intro _ w₂ grown₂
        have filled : Moves (Acts env) (receiveBytes bytes) w₂ := receiveBytes_acts bytes w₂
        apply Leads.bind (grown₂.leads filled)
        intro _ w₃ grown₃
        apply Leads.bind (grown₃.leads (processBuffer_acts acts w₃))
        intro rc w₄ grown₄
        split
        · have closes : Moves (Acts env) (do
              closeConnection env k .badProtocol true
              return false) w₄ := by
            apply Moves.bind (closeConnection_acts acts _ _ w₄)
            intro _ w₅ _
            exact Moves.pure _ w₅
          exact ((grown₄.leads closes).and (closeReturn_ends acts grown₄ _)).weaken
            (fun _ _ => id) fun _ _ => trivial
        · exact Leads.pure ⟨grown₄, fun absurd => by cases absurd⟩
      apply Leads.bind received
      rintro went w₂ ⟨grown₂, ended⟩
      cases went with
      | true => exact ih grown₂
      | false => exact Leads.pure fun _ => ended rfl

/-- What the reader queued was offered to the server: when it queued bytes and returns on the same
connection with bytes pending, a send was attempted after the last of them was queued. -/
def Offered (events : List Event) (w' : World) : Prop :=
  ¬Parted events → queuedBytes events ≠ [] → w'.writeBuf.pending ≠ [] → unsent events = []

/-- Bytes that are unsent were queued. -/
theorem queued_of_unsent (left : unsent events ≠ []) : queuedBytes events ≠ [] := by
  intro none
  apply left
  unfold unsent queuedBytes at *
  rw [List.flatMap_eq_nil_iff] at none ⊢
  exact fun event inside => none event (History.mem_of_mem_since _ inside)

/-- Without a flush after the loop. -/
theorem Ledger.offered_iff {start : Nat} (ledger : Ledger events start w.writeBuf.pending.length)
    (unflushed : w.writeBuf.pending.length ≤ start) : Offered events w ↔ Parted events ∨
      unsent events = [] ∨ (sentBytes events).length < (queuedBytes events).length := by
  have balance := ledger.balance
  constructor
  · intro offered
    by_cases parted : Parted events
    · exact .inl parted
    · by_cases sent : unsent events = []
      · exact .inr (.inl sent)
      · refine absurd (offered parted (queued_of_unsent sent) ?_) sent
        have positive := List.length_pos_iff.mpr sent
        have least := ledger.pending
        exact List.ne_nil_of_length_pos (by omega)
  · rintro (parted | sent | fewer)
    · exact fun unparted => (unparted parted).elim
    · exact fun _ _ _ => sent
    · omega

/-- A flush of pending bytes offers them, or closes the connection. -/
theorem flush_offers (acts : CallsAct env k) (formed : w.writeBuf.WellFormed)
    (pending : w.writeBuf.pending ≠ []) (run : flush env k w = (.ok (), w')) :
    ∃ more, w'.log = w.log ++ more ∧ (Parted more ∨ ∀ before, unsent (before ++ more) = []) := by
  obtain ⟨w₁, ending, flushed, ended⟩ := flush_returned run
  rcases flushed.record with ⟨empty, -⟩ | ⟨offered, result, more, log, silent⟩
  · exact (pending empty).elim
  · cases ending with
    | none =>
      cases ended
      exact ⟨_, log, .inr fun before => unsent_sent offered result silent⟩
    | some reason =>
      have begun := (closeConnection_begins acts (flushed.formed formed) reason).ok ended
      obtain ⟨event, rest, -, grown⟩ := id begun
      refine ⟨.send offered result :: more ++ event :: rest, ?_, .inl ?_⟩
      · rw [grown, log, List.append_assoc]
      · exact (begun.parted grown).later _

/-- The reader leaves no reply unflushed exactly when its loop parts with the connection, or
nothing is queued after the last send of a handler, or the handlers send less than is queued. -/
theorem replies_offered_iff (env : Env) (depth : Nat) (w w' : World) (results : List Recv)
    (formed : w.writeBuf.WellFormed)
    (run : readFromNats env (calls env depth) results w = (.ok (), w')) (loop events : List Event)
    (looped : (receive env (calls env depth) results w).2.log = w.log ++ loop)
    (log : w'.log = w.log ++ events) :
    Offered events w' ↔ Parted loop ∨ unsent loop = [] ∨
      (sentBytes loop).length < (queuedBytes loop).length := by
  have acts := calls_act env depth
  have start : Accounted w w := ⟨formed, [], (List.append_nil _).symm, .inr (Ledger.start _)⟩
  unfold readFromNats at run
  rw [Program.get_bind, Program.bind_run] at run
  match received : receive env (calls env depth) results w with
  | (.error stop, w₁) =>
    rw [received] at run
    cases run
  | (.ok went, w₁) =>
    rw [received] at run looped
    dsimp only at run looped
    have accounted := ((accounted_persists env w).receive
      ((accounted_persists env w).toSurvives.calls depth) start results).ok received
    have start : Grown w w := ⟨formed, [], (List.append_nil _).symm⟩
    have ended := (receive_ends acts results start).ok received
    obtain ⟨loop', looped', recorded⟩ := accounted.recorded
    cases List.append_cancel_left (looped.symm.trans looped')
    have kept (same : (.ok (), w₁) = ((.ok (), w') : Except Fault Unit × World)) :
        events = loop ∧ w' = w₁ := by
      cases same
      exact ⟨List.append_cancel_left (log.symm.trans looped), rfl⟩
    cases went with
    | false =>
      obtain ⟨same, -⟩ := kept run
      obtain ⟨ending, closed, parted⟩ := ended rfl
      cases List.append_cancel_left (looped.symm.trans closed)
      rw [same]
      exact iff_of_true (fun unparted => (unparted parted).elim) (.inl parted)
    | true =>
      simp only [↓reduceIte, Program.get_bind, Program.ite_run] at run
      by_cases longer : w.writeBuf.end - w.writeBuf.pos < w₁.writeBuf.end - w₁.writeBuf.pos
      · rw [if_pos longer] at run
        have pending : w₁.writeBuf.pending ≠ [] := by
          apply List.ne_nil_of_length_pos
          rw [Buf.length_pending]
          omega
        obtain ⟨more, grown, outcome⟩ := flush_offers acts accounted.formed pending run
        have same : events = loop ++ more := by
          have whole : w.log ++ events = w.log ++ (loop ++ more) := by
            rw [← log, grown, looped, List.append_assoc]
          exact List.append_cancel_left whole
        rw [same]
        refine iff_of_true (fun unparted _ _ => ?_) ?_
        · rcases outcome with parted | sent
          · exact (unparted (parted.later loop)).elim
          · exact sent loop
        · rcases recorded with parted | ledger
          · exact .inl parted
          · have balance := ledger.balance
            rw [Buf.length_pending, Buf.length_pending] at balance
            exact .inr (.inr (by omega))
      · rw [if_neg longer] at run
        obtain ⟨same, rfl⟩ := kept run
        rw [same]
        rcases recorded with parted | ledger
        · exact iff_of_true (fun unparted => (unparted parted).elim) (.inl parted)
        · refine ledger.offered_iff ?_
          rw [Buf.length_pending, Buf.length_pending]
          omega

/-- The state after a server that greeted the module asked with PING. -/
def asked : World :=
  (readFromNats granting (calls granting 2) [.bytes (ascii "PING\r\n")] greeted).2

/-- The events of the loop in which a server asks with PING. -/
def asking : List Event :=
  (receive granting (calls granting 2) [.bytes (ascii "PING\r\n")] greeted).2.log.drop
    greeted.log.length

/-- A server that greeted the module is answered when it asks with PING. -/
theorem replies_offered_ping : Offered (asked.log.drop greeted.log.length) asked := by
  have formed : greeted.writeBuf.WellFormed := reached_formed granting 2 _ _ _
  have facts :
      (readFromNats granting (calls granting 2) [.bytes (ascii "PING\r\n")] greeted).1 = .ok () ∧
      (receive granting (calls granting 2) [.bytes (ascii "PING\r\n")] greeted).2.log =
        greeted.log ++ asking ∧
      asked.log = greeted.log ++ asked.log.drop greeted.log.length ∧
      (sentBytes asking).length < (queuedBytes asking).length := by
    decide +kernel
  obtain ⟨returned, looped, log, fewer⟩ := facts
  exact (replies_offered_iff granting 2 greeted asked [.bytes (ascii "PING\r\n")] formed
    (Program.run_of_returned returned) asking _ looped log).mpr (.inr (.inr fewer))

/-- Surroundings in which one send is put off, and clients answer every message with a message. -/
def hasty : Env := { granting with
  send := fun tick => if tick = 10 then .again else .sent maxMessageSize
  script := fun _ call => match call with
    | .message .. => [.publish (some (ascii "b")) none (ascii "x") 1]
    | _ => [] }

/-- The state after a subscription whose line could not be sent at once. -/
def subscribing : World := reached hasty 3
  [.init, .readable [.bytes greeting], .api (.subscribe 0 (ascii "a") 0 0 0)]
    (fun _ => 0) fun _ => 0

/-- A message for the subscription, and then PING. -/
def deliveredAndAsked : List UInt8 := ascii "MSG a 1 0\r\n\r\nPING\r\n"

/-- The state after the reader handled them. -/
def unreplied : World :=
  (readFromNats hasty (calls hasty 3) [.bytes deliveredAndAsked] subscribing).2

/-- A message whose handler publishes, and then PING: the handler's flush sends more than the loop
queues, and PONG is left unflushed. -/
theorem pong_left : ¬∀ (env : Env) (depth : Nat) (w w' : World) (results : List Recv),
    w.writeBuf.WellFormed →
    readFromNats env (calls env depth) results w = (.ok (), w') →
    ∀ events, w'.log = w.log ++ events → Offered events w' := by
  intro claim
  have formed : subscribing.writeBuf.WellFormed := reached_formed hasty 3 _ _ _
  have facts :
      (readFromNats hasty (calls hasty 3) [.bytes deliveredAndAsked] subscribing).1 = .ok () ∧
      unreplied.log = subscribing.log ++ unreplied.log.drop subscribing.log.length ∧
      ¬Offered (unreplied.log.drop subscribing.log.length) unreplied := by
    unfold Offered
    decide +kernel
  obtain ⟨returned, log, left⟩ := facts
  exact left (claim hasty 3 subscribing unreplied [.bytes deliveredAndAsked] formed
    (Program.run_of_returned returned) _ log)

end NgxNats
