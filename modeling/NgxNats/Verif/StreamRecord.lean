import NgxNats.Verif.ReadRoom
import NgxNats.Verif.Stream

/-!
# The record of a stream

What the log says of a stream: the messages that were handled, the chunks that were received,
whether the stream was refused, and whether a client's callback was running at the end. While a
message is handled its callbacks queue and send, and none of that is in the record; once the stream
was refused, closing and reconnecting are not either.
-/
namespace NgxNats

open Program (Leads Moves)
open History (Throughout since throughout_concat)

/-- The message an event hands to its handler. -/
def Event.heard : Event → Option ServerMsg
  | .handled message => some message
  | _ => none

/-- The chunk an event received. -/
def Event.chunk : Event → Option (List UInt8)
  | .received bytes => some bytes
  | _ => none

/-- A message was refused. -/
def Event.isRejected : Event → Bool
  | .rejected _ => true
  | _ => false

/-- A client's callback was called. -/
def Event.callsBack : Event → Bool
  | .connected _ | .disconnected _ | .delivered .. => true
  | _ => false

/-- The messages that were handled. -/
def heard (log : List Event) : List ServerMsg := log.filterMap Event.heard

/-- The chunks that were received. -/
def receivedChunks (log : List Event) : List (List UInt8) := log.filterMap Event.chunk

/-- The stream was refused: a message was malformed, refused by its handler, or too large. -/
def refused (log : List Event) : Bool := log.any Event.isRejected

/-- While a message is handled, a client's callback was called. -/
def CallingBack (log : List Event) : Bool :=
  Handling log && (since Event.pauses log).any Event.callsBack

/-- No handler closes the connection or its socket. -/
def HandlersStay (before : List Event) (event : Event) : Prop :=
  event.ends = true → Handling before = false

instance (before : List Event) (event : Event) : Decidable (HandlersStay before event) :=
  inferInstanceAs (Decidable (_ → _))

/-- The chunks arrive as they were cut, and no handler closes the connection. -/
structure Fair (chunks : List (List UInt8)) (log : List Event) : Prop where
  stay : Throughout HandlersStay log
  whole : receivedChunks log <+: chunks

/-- The bytes of the stream that were not received yet. -/
def unread (chunks : List (List UInt8)) (log : List Event) : List UInt8 :=
  (chunks.drop (receivedChunks log).length).flatten

/-- The events that are not in the record of a stream. -/
def Event.offRecord : Event → Bool
  | .handled _ | .received _ | .rejected _ => false
  | _ => true

/-- The events that are not in the record of a stream and leave the reader at its message. -/
def Event.minor (event : Event) : Bool := event.offRecord && !event.pauses

section Log

variable {chunks : List (List UInt8)} {log events : List Event} {event : Event}

/-- What was fair at the end was fair before. -/
theorem Fair.left (fair : Fair chunks (log ++ events)) : Fair chunks log := by
  refine ⟨fair.stay.left, List.IsPrefix.trans ?_ fair.whole⟩
  unfold receivedChunks
  rw [List.filterMap_append]
  exact List.prefix_append _ _

/-- A handler that closes the connection is not fair. -/
theorem unfair_of_ends (ends : event.ends = true) (handling : Handling log = true) :
    ¬Fair chunks (log ++ [event]) := by
  intro fair
  have kept := (throughout_concat.mp fair.stay).2 ends
  rw [handling] at kept
  cases kept

/-- Minor events are off the record. -/
theorem offRecord_of_minor (minor : event.minor = true) : event.offRecord = true :=
  (Bool.and_eq_true_iff.mp minor).1

/-- Minor events pause nothing. -/
theorem pauses_of_minor (minor : event.minor = true) : event.pauses = false := by
  have last := (Bool.and_eq_true_iff.mp minor).2
  rwa [Bool.not_eq_true'] at last

/-- Events off the record hear nothing. -/
theorem heard_append (off : ∀ event ∈ events, event.offRecord = true) :
    heard (log ++ events) = heard log := by
  have none : ∀ event ∈ events, event.heard = none := by
    intro event inside
    cases event with
    | handled => cases off _ inside
    | _ => rfl
  unfold heard
  rw [List.filterMap_append, List.filterMap_eq_nil_iff.mpr none, List.append_nil]

/-- Events off the record receive nothing. -/
theorem receivedChunks_append (off : ∀ event ∈ events, event.offRecord = true) :
    receivedChunks (log ++ events) = receivedChunks log := by
  have none : ∀ event ∈ events, event.chunk = none := by
    intro event inside
    cases event with
    | received => cases off _ inside
    | _ => rfl
  unfold receivedChunks
  rw [List.filterMap_append, List.filterMap_eq_nil_iff.mpr none, List.append_nil]

/-- Events off the record refuse nothing. -/
theorem refused_append (off : ∀ event ∈ events, event.offRecord = true) :
    refused (log ++ events) = refused log := by
  have none : events.any Event.isRejected = false := by
    rw [List.any_eq_false]
    intro event inside
    cases event with
    | rejected => cases off _ inside
    | _ => exact Bool.false_ne_true
  unfold refused
  rw [List.any_append, none, Bool.or_false]

/-- A message goes on being handled. -/
theorem handling_append (minor : ∀ event ∈ events, event.minor = true)
    (handling : Handling log = true) : Handling (log ++ events) = true := by
  unfold Handling at handling ⊢
  rw [History.since_append Event.pauses fun event inside => pauses_of_minor (minor event inside),
    List.any_append, handling]
  rfl

/-- A callback that was called was called. -/
theorem callingBack_append (minor : ∀ event ∈ events, event.minor = true)
    (calling : CallingBack log = true) : CallingBack (log ++ events) = true := by
  unfold CallingBack at calling ⊢
  rw [Bool.and_eq_true] at calling ⊢
  refine ⟨handling_append minor calling.1, ?_⟩
  rw [History.since_append Event.pauses fun event inside => pauses_of_minor (minor event inside),
    List.any_append, calling.2]
  rfl

/-- Idle events are minor. -/
theorem minor_of_idle (idle : event.idle = true) : event.minor = true := by
  cases event with
  | handled => cases idle
  | received => cases idle
  | rejected => cases idle
  | recv => cases idle
  | scanned => cases idle
  | _ => rfl

/-- The events of sending are minor. -/
theorem minor_of_sends (sends : event.sends = true) : event.minor = true := by
  cases event with
  | send => rfl
  | writeEventFailed => rfl
  | _ => cases sends

/-- The event of an append is minor. -/
theorem minor_appendEvent (rc : Int) (message : List UInt8) (size : Nat) :
    (appendEvent rc message size).minor = true := by
  unfold appendEvent
  split
  · rfl
  · rfl

end Log

section Logged

variable {env : Env} {w w' : World} {events : List Event} {holds : List Event → Prop}
  {crash : World → Prop}

/-- A condition of the log, and a write buffer that is well-formed. -/
structure Logged (holds : List Event → Prop) (w : World) : Prop where
  formed : w.writeBuf.WellFormed
  holds : holds w.log

/-- A change that adds events which keep the condition. -/
theorem Logged.extend (logged : Logged holds w) (formed : w'.writeBuf.WellFormed)
    (kept : ∀ log events, (∀ event ∈ events, event.offRecord = true) → holds log →
      holds (log ++ events))
    (log : w'.log = w.log ++ events) (off : ∀ event ∈ events, event.offRecord = true) :
    Logged holds w' := ⟨formed, by rw [log]; exact kept w.log events off logged.holds⟩

/-- A condition that events off the record keep survives closing and reconnecting. -/
theorem logged_endures (env : Env)
    (kept : ∀ log events, (∀ event ∈ events, event.offRecord = true) →
      holds log → holds (log ++ events)) (faults : ∀ {w}, Logged holds w → crash w) :
    Endures env (Logged holds) crash where
  formed logged := logged.formed
  faults := faults
  aside := by
    intro w w' logged aside
    obtain ⟨events, log, idle⟩ := aside.log
    exact logged.extend (aside.writeBuf ▸ logged.formed) kept log
      fun event inside => offRecord_of_minor (minor_of_idle (idle event inside))
  append _ _ rc b logged _ _ added := logged.extend (logged.formed.add added).2 kept rfl
    (List.forall_mem_singleton.mpr (offRecord_of_minor (minor_appendEvent _ _ _)))
  flushed := by
    intro w w' ending logged flushed
    obtain ⟨events, log, sends⟩ := flushed.log
    exact logged.extend (flushed.formed logged.formed) kept log
      fun event inside => offRecord_of_minor (minor_of_sends (sends event inside))
  dangling logged _ := faults ⟨logged.formed, logged.holds⟩
  shut := by
    intro w c logged _
    have log : w.shutDown.log = w.log ++ if w.live.isSome then [.shut] else [] := rfl
    refine logged.extend logged.formed kept log ?_
    intro event inside
    split at inside
    · exact List.mem_singleton.mp inside ▸ rfl
    · exact absurd inside List.not_mem_nil
  abandoned reason logged := logged.extend logged.formed.reset kept rfl
    (List.forall_mem_singleton.mpr rfl)
  initiate rc b logged _ added := logged.extend (logged.formed.add added).2 kept rfl
    (List.forall_mem_cons.mpr
      ⟨rfl, List.forall_mem_singleton.mpr (offRecord_of_minor (minor_appendEvent _ _ _))⟩)
  unallocated logged := logged.extend logged.formed.reset kept rfl
    (List.forall_mem_singleton.mpr rfl)
  unindexed logged := faults ⟨logged.formed.reset, logged.holds⟩
  opened server logged := logged.extend logged.formed.reset kept rfl
    (List.forall_mem_singleton.mpr rfl)
  wired _ _ logged _ _ := ⟨logged.formed, logged.holds⟩
  timed logged _ _ := ⟨logged.formed, logged.holds⟩
  expired logged _ := logged.extend logged.formed kept rfl (List.forall_mem_singleton.mpr rfl)

/-- A condition that every event keeps survives the reader as well. -/
theorem logged_persists (env : Env) (kept : ∀ log events, holds log → holds (log ++ events))
    (faults : ∀ {w}, Logged holds w → crash w) : Persists env (Logged holds) crash where
  toEndures := logged_endures env (fun log events _ => kept log events) faults
  heard _ logged := ⟨logged.formed, kept _ _ logged.holds⟩
  rejected logged := ⟨logged.formed, kept _ _ logged.holds⟩
  informed _ logged _ _ _ := ⟨logged.formed, logged.holds⟩
  reply _ _ _ _ logged _ _ added := ⟨(logged.formed.add added).2, kept _ _ logged.holds⟩
  ready _ _ logged _ _ _ := ⟨logged.formed, kept _ _ logged.holds⟩
  filled _ logged := ⟨logged.formed, logged.holds⟩
  checked logged _ := ⟨logged.formed, logged.holds⟩
  noted _ logged _ := ⟨logged.formed, kept _ _ logged.holds⟩

end Logged

end NgxNats
