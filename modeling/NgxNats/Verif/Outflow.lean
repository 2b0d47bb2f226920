import NgxNats.Lib.History
import NgxNats.Verif.Outgoing
import NgxNats.Verif.SurvivalRuns

/-!
# The outgoing stream over runs

Whatever happens to the module, what a send offers to the socket continues what earlier sends on
the connection accepted: together they are what was queued on it, in the order it was queued. The
write buffer loses bytes when it grows while it is partly sent, so a partly sent backlog must stay
within the block that the buffer starts with.
-/
namespace NgxNats

open History (Throughout since)
open Program (Leads Moves)

/-- The events at which the write buffer is emptied. -/
def Event.empties : Event → Bool
  | .opened | .unallocated | .closed _ => true
  | _ => false

/-- What happened since the write buffer was last emptied. -/
abbrev onWire (log : List Event) : List Event := since Event.empties log

/-- What was queued on the connection and was not sent yet. -/
def backlog (log : List Event) : List UInt8 :=
  (queuedBytes (onWire log)).drop (sentBytes (onWire log)).length

/-- A send that took everything it was offered. -/
def Event.drains : Event → Bool
  | .send offered (.sent n) => decide (offered.length ≤ n)
  | _ => false

/-- A send that took a part of what it was offered. -/
def Event.splits : Event → Bool
  | .send offered (.sent n) => decide (n < offered.length)
  | _ => false

/-- The backlog is what a send left over. -/
def partlySent (log : List Event) : Bool := (since Event.drains (onWire log)).any Event.splits

/-- Bytes are queued behind a partly sent backlog only while all of it fits the initial block. -/
def Eased (before : List Event) (event : Event) : Prop :=
  event.queuedBytes ≠ [] → partlySent before = true →
    (backlog before).length + event.queuedBytes.length ≤ bufInitSize

/-- A send offers what was queued on the connection behind what was sent. -/
def Offers (before : List Event) : Event → Prop
  | .send offered _ => queuedBytes (onWire before) = sentBytes (onWire before) ++ offered
  | _ => True

instance (before : List Event) (event : Event) : Decidable (Eased before event) :=
  inferInstanceAs (Decidable (_ → _ → _))

/-- Events that neither queue nor send nor empty the write buffer. -/
def Event.dry : Event → Bool
  | .queued _ | .send .. | .opened | .unallocated | .closed _ => false
  | _ => true

variable {env : Env} {k : Calls} {w w' : World} {events : List Event} {event : Event}

/-- An idle event neither queues nor sends. -/
theorem dry_of_idle (idle : event.idle = true) : event.dry = true := by
  cases event with
  | queued => cases idle
  | send => cases idle
  | opened => cases idle
  | unallocated => cases idle
  | closed => cases idle
  | _ => rfl

/-- An event of the reader neither queues nor sends. -/
theorem dry_of_reads (reads : event.reads = true) : event.dry = true := by
  cases event with
  | queued => cases reads
  | send => cases reads
  | opened => cases reads
  | unallocated => cases reads
  | closed => cases reads
  | _ => rfl

/-- A dry event neither empties the buffer nor tells of sending, and is no condition of easing. -/
theorem dry_event (dry : event.dry = true) : event.empties = false ∧ event.drains = false ∧
    event.splits = false ∧ event.queuedBytes = [] ∧ event.sentBytes = [] ∧
    ∀ before, Offers before event := by
  cases event with
  | queued => cases dry
  | send => cases dry
  | opened => cases dry
  | unallocated => cases dry
  | closed => cases dry
  | _ => exact ⟨rfl, rfl, rfl, rfl, rfl, fun _ => trivial⟩

/-- Bytes are queued and sent on a connection by the events since the last emptying. -/
theorem onWire_concat (log : List Event) (stays : event.empties = false) :
    onWire (log ++ [event]) = onWire log ++ [event] := History.since_unmarked _ stays

/-- One event more queues its own bytes more. -/
theorem queuedBytes_concat (log : List Event) (event : Event) :
    queuedBytes (log ++ [event]) = queuedBytes log ++ event.queuedBytes := by
  unfold queuedBytes
  rw [List.flatMap_append, List.flatMap_singleton]

/-- One event more sends its own bytes more. -/
theorem sentBytes_concat (log : List Event) (event : Event) :
    sentBytes (log ++ [event]) = sentBytes log ++ event.sentBytes := by
  unfold sentBytes
  rw [List.flatMap_append, List.flatMap_singleton]

/-- An event that is no send leaves the backlog partly sent or not. -/
theorem partlySent_concat (log : List Event) (stays : event.empties = false)
    (undrained : event.drains = false) :
    partlySent (log ++ [event]) = (partlySent log || event.splits) := by
  unfold partlySent
  rw [onWire_concat log stays, History.since_unmarked _ undrained, List.any_append]
  simp

/-- The write buffer holds what is left to send. -/
structure Flows (w : World) : Prop where
  whole : queuedBytes (onWire w.log) = sentBytes (onWire w.log) ++ w.writeBuf.pending
  front : w.writeBuf.pos = 0 ∨ w.writeBuf.pending = [] ∨ partlySent w.log = true
  offers : Throughout Offers w.log

/-- The write buffer holds what is left to send, in a run that is eased. -/
structure Flowing (w : World) : Prop where
  formed : w.writeBuf.WellFormed
  flows : Throughout Eased w.log → Flows w

/-- What was queued and not sent is pending. -/
theorem Flows.backlog (flows : Flows w) : backlog w.log = w.writeBuf.pending := by
  unfold NgxNats.backlog
  rw [flows.whole]
  exact List.drop_left

/-- A dry event. -/
theorem Flows.dry (flows : Flows w) (log : w'.log = w.log ++ [event]) (dry : event.dry = true)
    (pending : w'.writeBuf.pending = w.writeBuf.pending)
    (front : w'.writeBuf.pos = 0 ∨ w'.writeBuf.pos = w.writeBuf.pos) : Flows w' := by
  obtain ⟨stays, undrained, unsplit, queued, sent, offers⟩ := dry_event dry
  constructor
  · rw [log, onWire_concat w.log stays, queuedBytes_concat, sentBytes_concat, queued, sent,
      List.append_nil, List.append_nil, pending]
    exact flows.whole
  · rw [log, partlySent_concat w.log stays undrained, unsplit, Bool.or_false, pending]
    rcases front with zero | same
    · exact .inl zero
    · rw [same]
      exact flows.front
  · rw [log, History.throughout_concat]
    exact ⟨flows.offers, offers w.log⟩

/-- Dry events. -/
theorem Flowing.extend (flowing : Flowing w) (formed : w'.writeBuf.WellFormed)
    (log : w'.log = w.log ++ events) (dry : ∀ event ∈ events, event.dry = true)
    (pending : w'.writeBuf.pending = w.writeBuf.pending)
    (front : w'.writeBuf.pos = 0 ∨ w'.writeBuf.pos = w.writeBuf.pos) : Flowing w' := by
  refine ⟨formed, fun eased => ?_⟩
  rw [log] at eased
  have before : Flows { w with writeBuf := w'.writeBuf } := by
    have flows := flowing.flows eased.left
    refine ⟨flows.whole.trans (by rw [pending]), ?_, flows.offers⟩
    rcases front with zero | same
    · exact .inl zero
    · show w'.writeBuf.pos = 0 ∨ w'.writeBuf.pending = [] ∨ _
      rw [same, pending]
      exact flows.front
  have all : Flows { w with writeBuf := w'.writeBuf, log := w.log ++ events } := by
    clear log eased
    induction events using List.reverseRecOn with
    | nil =>
      rw [List.append_nil]
      exact before
    | append_singleton rest event ih =>
      rw [← List.append_assoc]
      have earlier := ih fun other inside => dry other (List.mem_append_left _ inside)
      exact Flows.dry earlier rfl (dry event (by simp)) rfl (.inr rfl)
  exact ⟨log ▸ all.whole, log ▸ all.front, log ▸ all.offers⟩

/-- A change that reports nothing of the write buffer. -/
theorem Flowing.same (flowing : Flowing w) (log : w'.log = w.log)
    (writeBuf : w'.writeBuf = w.writeBuf) : Flowing w' :=
  flowing.extend (writeBuf ▸ flowing.formed) (log.trans (List.append_nil _).symm)
    (List.forall_mem_nil _) (by rw [writeBuf]) (.inr (by rw [writeBuf]))

/-- A change that reports one dry event. -/
theorem Flowing.noted (flowing : Flowing w) (log : w'.log = w.log ++ [event])
    (dry : event.dry = true) (writeBuf : w'.writeBuf = w.writeBuf) : Flowing w' :=
  flowing.extend (writeBuf ▸ flowing.formed) log
    (fun _ inside => List.mem_singleton.mp inside ▸ dry) (by rw [writeBuf])
    (.inr (by rw [writeBuf]))

/-- Emptying the write buffer. -/
theorem Flowing.emptied (flowing : Flowing w) (log : w'.log = w.log ++ [event])
    (empties : event.empties = true) (writeBuf : w'.writeBuf = w.writeBuf.reset) : Flowing w' := by
  have none : onWire w'.log = [] := by
    rw [log]
    exact History.since_marked _ empties
  refine ⟨writeBuf ▸ flowing.formed.reset, fun eased => ⟨?_, ?_, ?_⟩⟩
  · rw [none, writeBuf, Buf.pending_reset]
    rfl
  · rw [writeBuf]
    exact .inl rfl
  · rw [log] at eased ⊢
    rw [History.throughout_concat]
    refine ⟨(flowing.flows eased.left).offers, ?_⟩
    cases event with
    | send => cases empties
    | _ => trivial

/-- An append leaves the buffer at the front, or where it was unless that was drained. -/
theorem Buf.add_front {alloc : Alloc} {b b' : Buf} {message : List UInt8} {size : Nat} {rc : Int}
    (run : b.add alloc message size = .ok (rc, b')) :
    b'.pos = 0 ∨ b'.pos = b.pos ∧ b.pos ≠ b.end := by
  have settles : b.settled.pos = 0 ∨ b.settled.pos = b.pos ∧ b.pos ≠ b.end := by
    unfold Buf.settled
    split
    · exact .inl rfl
    · next kept =>
      by_cases zero : b.pos = 0
      · exact .inl zero
      · exact .inr ⟨rfl, fun drained => kept ⟨drained, zero⟩⟩
  have slides (compact : Bool) : (b.settled.slideFor size compact).pos = 0 ∨
      (b.settled.slideFor size compact).pos = b.pos ∧ b.pos ≠ b.end := by
    unfold Buf.slideFor
    split
    · exact .inl rfl
    · exact settles
  have ensured (answer : Int) (made : Buf) (found : b.ensure alloc size true = .ok (answer, made)) :
      made.pos = 0 ∨ made.pos = b.pos ∧ b.pos ≠ b.end := by
    unfold Buf.ensure at found
    split at found
    · cases found
      exact settles
    · split at found
      · cases found
        exact slides true
      · unfold Buf.grow at found
        split at found
        · cases found
          exact slides true
        · simp only [bind, Except.bind] at found
          split at found
          · cases found
          · split at found
            · cases found
              exact slides true
            · cases found
              exact slides true
  unfold Buf.add at run
  split at run
  · cases run
  · next answer made found =>
    split at run
    · cases run
      exact ensured _ _ found
    · split at run
      · cases run
      · have front := ensured _ _ found
        cases run
        exact front

/-- An eased append does not grow a partly sent buffer. -/
theorem Flows.smooth (flows : Flows w) (formed : w.writeBuf.WellFormed) {alloc : Alloc}
    {bytes : List UInt8} (eased : Eased w.log (.queued bytes)) :
    w.writeBuf.Smooth alloc bytes.length := by
  rcases flows.front with zero | empty | parted
  · exact .inr (.inl zero)
  · have length := w.writeBuf.length_pending
    have start := formed.valid.pos_le
    rw [empty, List.length_nil] at length
    exact .inr (.inr (.inl (by omega)))
  · have length := w.writeBuf.length_pending
    have least := formed.least
    have start := formed.valid.end_le
    by_cases none : bytes = []
    · rw [none, List.length_nil]
      exact .inl (by omega)
    · have fits : (NgxNats.backlog w.log).length + bytes.length ≤ bufInitSize := eased none parted
      rw [flows.backlog, length] at fits
      exact .inl (by omega)

/-- An append that was answered. -/
theorem Flowing.add {rc : Int} {b : Buf} {message : List UInt8} {size : Nat} (flowing : Flowing w)
    (added : w.writeBuf.add (env.alloc w.clock) message size = .ok (rc, b))
    (log : w'.log = w.log ++ [appendEvent rc message size]) (writeBuf : w'.writeBuf = b) :
    Flowing w' := by
  obtain ⟨answered, formed⟩ := flowing.formed.add added
  have front := Buf.add_front added
  rcases answered with rfl | rfl
  · have queued : appendEvent ngxOk message size = .queued (message.take size) := if_pos rfl
    obtain ⟨readable, -⟩ := Buf.add_length flowing.formed.valid added
    have length : (message.take size).length = size := List.length_take_of_le readable
    rw [queued] at log
    refine ⟨writeBuf ▸ formed, fun eased => ?_⟩
    rw [log] at eased
    obtain ⟨earlier, now⟩ := History.throughout_concat.mp eased
    have flows := flowing.flows earlier
    have smooth : w.writeBuf.Smooth (env.alloc w.clock) (message.take size).length :=
      flows.smooth flowing.formed now
    rw [length] at smooth
    have pending := Buf.add_smooth flowing.formed.valid smooth added
    constructor
    · rw [log, onWire_concat w.log rfl, queuedBytes_concat, sentBytes_concat, flows.whole, writeBuf,
        pending]
      simp [Event.queuedBytes, Event.sentBytes]
    · rw [log, partlySent_concat w.log rfl rfl, writeBuf]
      rcases front with zero | ⟨same, undrained⟩
      · exact .inl zero
      · rcases flows.front with zero | empty | parted
        · exact .inl (same.trans zero)
        · have count := w.writeBuf.length_pending
          have start := flowing.formed.valid.pos_le
          rw [empty, List.length_nil] at count
          omega
        · exact .inr (.inr (by rw [parted]; rfl))
    · rw [log, History.throughout_concat]
      exact ⟨flows.offers, trivial⟩
  · have refused : appendEvent ngxError message size = .refused size := if_neg (by decide)
    rw [refused] at log
    have pending := Buf.add_refused flowing.formed.valid added
    refine flowing.extend (writeBuf ▸ formed) log (by simp [Event.dry]) (writeBuf ▸ pending) ?_
    rw [writeBuf]
    exact front.imp_right And.left

/-- A flush up to its end offers what is pending, or finds nothing pending. -/
theorem Flushed.offered {ending : Option Reason} (formed : w.writeBuf.WellFormed)
    (flushed : Flushed env w w' ending) :
    (w'.log = w.log ∧ w'.writeBuf.pos = 0) ∨ ∃ result more,
      w'.log = w.log ++ .send w.writeBuf.pending result :: more ∧
      (∀ event ∈ more, event.dry = true) ∧
      ((Event.send w.writeBuf.pending result).splits = true ∨ w'.writeBuf.pos = 0 ∨
        w'.writeBuf.pos = w.writeBuf.pos ∧
          (Event.send w.writeBuf.pending result).drains = false) := by
  have handled (answer : Bool) : ∀ event ∈ (if answer then [] else [Event.writeEventFailed]),
      event.dry = true := by
    cases answer with
    | true => exact List.forall_mem_nil _
    | false => simp [Event.dry]
  have length := w.writeBuf.length_pending
  have start := formed.valid.pos_le
  cases flushed with
  | drained => exact .inl ⟨rfl, rfl⟩
  | part n answer rest =>
    have bound := (sendAnswer_bound answer).1
    refine .inr ⟨_, [], rfl, List.forall_mem_nil _, .inl ?_⟩
    have less : n < w.writeBuf.pending.length := by omega
    exact decide_eq_true less
  | whole n answer all =>
    refine .inr ⟨_, _, List.append_assoc _ _ _, handled _, .inr (.inl ?_)⟩
    show (w.writeBuf.sent n).pos = 0
    unfold Buf.sent
    rw [if_pos all]
    rfl
  | nothing => exact .inr ⟨_, [], rfl, List.forall_mem_nil _, .inr (.inr ⟨rfl, rfl⟩)⟩
  | again => exact .inr ⟨_, _, List.append_assoc _ _ _, handled _, .inr (.inr ⟨rfl, rfl⟩)⟩
  | error => exact .inr ⟨_, [], rfl, List.forall_mem_nil _, .inr (.inr ⟨rfl, rfl⟩)⟩

/-- A flush up to its end. -/
theorem Flowing.flushed {ending : Option Reason} (flowing : Flowing w)
    (flushed : Flushed env w w' ending) : Flowing w' := by
  obtain ⟨sends, grown, -, formed, taken⟩ := flushed.sends flowing.formed
  rcases flushed.offered flowing.formed with ⟨same, zero⟩ | ⟨result, more, log, dry, front⟩
  · have none : sends = [] := List.append_right_eq_self.mp (grown.symm.trans same)
    rw [none] at taken
    exact flowing.extend formed (same.trans (List.append_nil _).symm) (List.forall_mem_nil _) taken
      (.inl zero)
  · -- the send itself first, and the events that follow it afterwards
    have first : Flowing { w' with log := w.log ++ [.send w.writeBuf.pending result] } := by
      refine ⟨formed, fun eased => ?_⟩
      have flows := flowing.flows eased.left
      have bytes : (Event.send w.writeBuf.pending result).sentBytes ++ w'.writeBuf.pending =
          w.writeBuf.pending := by
        have events_eq : sends = .send w.writeBuf.pending result :: more :=
          List.append_cancel_left (grown.symm.trans log)
        have silent : sentBytes more = [] :=
          List.flatMap_eq_nil_iff.mpr fun event inside => (dry_event (dry event inside)).2.2.2.2.1
        rw [events_eq] at taken
        unfold sentBytes at taken silent
        rwa [List.flatMap_cons, silent, List.append_nil] at taken
      constructor
      · show queuedBytes (onWire (w.log ++ [.send w.writeBuf.pending result])) =
          sentBytes (onWire (w.log ++ [.send w.writeBuf.pending result])) ++ w'.writeBuf.pending
        rw [onWire_concat w.log rfl, queuedBytes_concat, sentBytes_concat, List.append_assoc, bytes]
        exact (List.append_nil _).trans flows.whole
      · show w'.writeBuf.pos = 0 ∨ w'.writeBuf.pending = [] ∨
          partlySent (w.log ++ [.send w.writeBuf.pending result]) = true
        rcases front with splits | zero | ⟨same, undrained⟩
        · refine .inr (.inr ?_)
          have undrained : (Event.send w.writeBuf.pending result).drains = false := by
            cases result with
            | sent n =>
              have less : n < w.writeBuf.pending.length := of_decide_eq_true splits
              exact decide_eq_false (Nat.not_le.mpr less)
            | _ => rfl
          rw [partlySent_concat w.log rfl undrained, splits, Bool.or_true]
        · exact .inl zero
        · rw [partlySent_concat w.log rfl undrained]
          rcases flows.front with zero | empty | parted
          · exact .inl (same.trans zero)
          · rw [empty] at bytes
            exact .inr (.inl (List.append_eq_nil_iff.mp bytes).2)
          · exact .inr (.inr (by rw [parted]; rfl))
      · exact History.throughout_concat.mpr ⟨flows.offers, flows.whole⟩
    refine first.extend formed ?_ dry rfl (.inr rfl)
    rw [log, List.append_assoc]
    rfl

/-- In an eased run every send so far offered what it should. -/
def Unbroken (w : World) : Prop := Throughout Eased w.log → Throughout Offers w.log

/-- Where the write buffer flows as it should nothing was sent out of order. -/
theorem Flowing.unbroken (flowing : Flowing w) : Unbroken w := fun eased =>
  (flowing.flows eased).offers

/-- Every step of the module keeps the write buffer as it should be. -/
theorem flowing_persists (env : Env) : Persists env Flowing Unbroken where
  formed flowing := flowing.formed
  faults flowing := flowing.unbroken
  aside := by
    intro w w' flowing aside
    obtain ⟨events, log, idle⟩ := aside.log
    exact flowing.extend (aside.writeBuf ▸ flowing.formed) log
      (fun event inside => dry_of_idle (idle event inside)) (by rw [aside.writeBuf])
      (.inr (by rw [aside.writeBuf]))
  heard _ flowing := flowing.noted rfl rfl rfl
  rejected flowing := flowing.noted rfl rfl rfl
  informed _ flowing _ _ _ := flowing.same rfl rfl
  append _ _ _ _ flowing _ _ added := flowing.add added rfl rfl
  reply _ _ _ _ flowing _ _ added := flowing.add added rfl rfl
  ready _ _ flowing _ _ _ := flowing.noted rfl rfl rfl
  initiate := by
    intro w rc b flowing _ added
    have initiated : Flowing { w with log := w.log ++ [.initiated] } := flowing.noted rfl rfl rfl
    refine initiated.add added ?_ rfl
    rw [List.append_assoc]
    rfl
  flushed flowing flushed := flowing.flushed flushed
  dangling flowing _ := flowing.unbroken
  shut := by
    intro w c flowing _
    refine flowing.extend flowing.formed rfl ?_ rfl (.inr rfl)
    split
    · simp [Event.dry]
    · exact List.forall_mem_nil _
  abandoned _ flowing := flowing.emptied rfl rfl rfl
  unallocated flowing := flowing.emptied rfl rfl rfl
  unindexed flowing := flowing.unbroken
  opened _ flowing := flowing.emptied rfl rfl rfl
  wired _ _ flowing _ _ := flowing.same rfl rfl
  filled _ flowing := flowing.same rfl rfl
  checked flowing _ := flowing.same rfl rfl
  noted _ flowing reads := flowing.noted rfl (dry_of_reads reads) rfl
  timed flowing _ _ := flowing.same rfl rfl
  expired flowing _ := flowing.noted rfl rfl rfl

/-- A run keeps the write buffer as it should be. -/
theorem run_flows (env : Env) (depth : Nat) (steps : List Step) (read write : Memory UInt8) :
    Leads (run env depth steps) (.start read write) (fun _ => Flowing) Unbroken := by
  have start : Flowing (.start read write) :=
    ⟨start_formed read write, fun _ => ⟨rfl, .inl rfl, History.throughout_nil⟩⟩
  exact (flowing_persists env).run depth start steps

/-- Every send of an eased run offers what it should. -/
theorem reached_offers {depth : Nat} {steps : List Step} {read write : Memory UInt8}
    (eased : Throughout Eased (reached env depth steps read write).log) :
    Throughout Offers (reached env depth steps read write).log := by
  have unbroken : Unbroken (reached env depth steps read write) :=
    ((run_flows env depth steps read write).weaken (fun _ _ flowing => flowing.unbroken)
      fun _ => id).last
  exact unbroken eased

/-- The outgoing stream is intact in every run, as long as a partly sent backlog stays within
the block the write buffer starts with: every send continues the bytes that were sent on its
connection with the bytes that were queued behind them, and what is left at the end is pending. -/
theorem stream_continues (env : Env) (depth : Nat) (steps : List Step) (read write : Memory UInt8)
    (eased : Throughout Eased (reached env depth steps read write).log) :
    Throughout Offers (reached env depth steps read write).log ∧
      ((run env depth steps (.start read write)).1 = .ok () →
        queuedBytes (onWire (reached env depth steps read write).log) =
          sentBytes (onWire (reached env depth steps read write).log) ++
            (reached env depth steps read write).writeBuf.pending) := by
  refine ⟨reached_offers eased, fun returned => ?_⟩
  have flowing : Flowing (reached env depth steps read write) :=
    (run_flows env depth steps read write).ok (Program.run_of_returned returned)
  exact (flowing.flows eased).whole

/-- Surroundings whose sends take ten bytes at a time. -/
def trickling : Env := { granting with send := fun _ => .sent 9 }

/-- A greeting is sent in pieces, and PONG is queued behind it. -/
theorem stream_continues_trickling :
    let w := reached trickling 2
      [.init, .readable [.bytes greeting], .writable, .readable [.bytes (ascii "PING\r\n")]]
      (fun _ => 0) fun _ => 0
    Throughout Offers w.log ∧
      ((run trickling 2
          [.init, .readable [.bytes greeting], .writable, .readable [.bytes (ascii "PING\r\n")]]
          (.start (fun _ => 0) fun _ => 0)).1 = .ok () →
        queuedBytes (onWire w.log) = sentBytes (onWire w.log) ++ w.writeBuf.pending) :=
  stream_continues trickling 2 _ _ _ (by decide +kernel)

end NgxNats
